import ElementBindings.Files.Access
import ElementBindings.Glob.Reader

/-!
# Glob/Source — the pattern that selects sources

A source pattern has a base, the directories before its first special character, and is matched
against paths below it.  A last segment `!(a|b)c` selects what ends with `c`, except what ends with
`ac` or `bc` there.  Stories, tests and specs are never selected.
-/

namespace ElementBindings

/-- What selects sources. -/
structure SourceGlob where
  /-- the pattern, as written -/
  pattern : String
  /-- the directory that paths are matched below -/
  base : Path
  selected : Glob
  excluded : List Glob

/-- Why sources cannot be selected. -/
inductive ScanError where
  | emptyPattern (pattern : String)
  | invalidPattern (pattern part : String) (fault : Glob.Fault)
  | noMatch (pattern : String)
deriving DecidableEq, Repr

/-- What is said about sources that cannot be selected. -/
def ScanError.message : ScanError → String
  | emptyPattern pattern => "Invalid glob pattern " ++ pattern ++ ": pattern is empty"
  | invalidPattern pattern part fault =>
    "Invalid glob pattern " ++ pattern ++ ": error parsing glob '" ++ part ++ "': " ++ fault.message
  | noMatch pattern => "No component sources match " ++ pattern

namespace SourceGlob

/-! ## Reading -/

/-- The patterns that are never selected. -/
def defaultExcludes : List String := ["**/*.stories.*", "**/*.test.*", "**/*.spec.*"]

/-- Whether a segment has a special character. -/
def isSpecial (segment : List Char) : Bool :=
  segment.any fun c => ['*', '?', '[', '{', '!', '('].contains c

/-- The alternatives of a segment `!(a|b)c`, and what stands behind them on the same line. -/
def negated? : List Char → Option (List (List Char) × List Char)
  | '!' :: '(' :: cs =>
    match Text.breakAt (· == ')') cs with
    | (inside, ')' :: suffix) =>
      if suffix.contains '\n' then none else some (Text.splitOn (· == '|') inside, suffix)
    | _ => none
  | _ => none

/-- The last segment that selects, and the patterns it excludes. -/
def rewriteLast (segment : List Char) : List Char × List String :=
  match negated? segment with
  | some (alternatives, suffix) =>
    ('*' :: suffix, (alternatives.filter (!·.isEmpty)).map fun a =>
      "**/" ++ String.ofList (a ++ suffix))
  | none => (segment, [])

/-- The pattern that a part of a source pattern writes. -/
def readPart (pattern part : String) : Except ScanError Glob :=
  (Glob.read part).mapError (.invalidPattern pattern part)

/-- **The source pattern that a text writes**, or what is wrong with it. -/
def read (pattern : String) : Except ScanError SourceGlob := do
  let segments := (Text.splitOn (· == '/') pattern.toList).filter (!·.isEmpty)
  match segments.getLast? with
  | none => throw (.emptyPattern pattern)
  | some last =>
    let outer := segments.dropLast
    let literal := outer.takeWhile (!isSpecial ·)
    let start : Path := if pattern.toList.head? = some '/' then ⟨"/"⟩ else ⟨""⟩
    let (last, excluded) := rewriteLast last
    let rest := outer.drop literal.length ++ [last]
    let selected ← readPart pattern (String.ofList (['/'].intercalate rest))
    let excludes ← (defaultExcludes ++ excluded).mapM (readPart pattern)
    return { pattern
             base := literal.foldl (fun p s => p.join ⟨String.ofList s⟩) start
             selected := selected
             excluded := excludes }

/-! ## Matching -/

/-- **Whether a path below the base is selected**; a backslash counts as a slash. -/
def selects (g : SourceGlob) (p : Path) : Bool :=
  let text := String.ofList (p.chars.map fun c => if c = '\\' then '/' else c)
  g.selected.matchesText text && !g.excluded.any (·.matchesText text)

/-- **The sources below a root**, in the order of their paths. -/
def scan (g : SourceGlob) (t : FileTree) (root : Path) : Except ScanError (List Path) :=
  let base := root.join g.base
  let selected := ((t.listing base).map fun names => Path.mk ("/".intercalate names)).filter g.selects
  if selected.isEmpty then .error (.noMatch g.pattern)
  else .ok ((selected.map base.join).mergeSort Path.le)

end SourceGlob

end ElementBindings
