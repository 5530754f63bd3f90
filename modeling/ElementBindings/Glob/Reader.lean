import ElementBindings.Glob.Basic

/-!
# Glob/Reader — reading patterns

A pattern is read from left to right.  Groups in braces may stand in each other, a backslash takes
the character behind it as it is, and two stars stand for directories only where they are a whole
component; elsewhere they are two stars.
-/

namespace ElementBindings.Glob

/-! ## Faults -/

/-- What is wrong with a pattern. -/
inductive Fault where
  | unclosedClass
  | invalidRange (first last : Char)
  | unopenedGroup
  | unclosedGroup
  | danglingEscape
deriving DecidableEq, Repr

/-- What is said about a pattern that is wrong. -/
def Fault.message : Fault → String
  | unclosedClass => "unclosed character class; missing ']'"
  | invalidRange first last =>
    "invalid range; '" ++ String.singleton first ++ "' > '" ++ String.singleton last ++ "'"
  | unopenedGroup =>
    "unopened alternate group; missing '\x7b' (maybe escape '\x7d' with '[\x7d]'?)"
  | unclosedGroup =>
    "unclosed alternate group; missing '\x7d' (maybe escape '\x7b' with '[\x7b]'?)"
  | danglingEscape => "dangling '\\'"

/-! ## Drafts -/

/-- A group that is open: the tokens before it and its alternatives so far, all in reverse. -/
structure OpenGroup where
  before : List Token
  alternatives : List (List Token)

/-- A pattern that has been read in part. -/
structure Draft where
  /-- the tokens of the innermost alternative, in reverse -/
  current : List Token
  /-- the groups that are open, from the inside out -/
  groups : List OpenGroup

namespace Draft

/-- Adds a token. -/
def push (d : Draft) (t : Token) : Draft := { d with current := t :: d.current }

/-- Opens a group. -/
def openGroup (d : Draft) : Draft := ⟨[], ⟨d.current, []⟩ :: d.groups⟩

/-- Goes on to the next alternative; outside a group, a comma is a comma. -/
def nextAlternative (d : Draft) : Draft :=
  match d.groups with
  | [] => d.push (.literal ',')
  | g :: gs => ⟨[], { g with alternatives := d.current.reverse :: g.alternatives } :: gs⟩

/-- Closes the innermost group. -/
def closeGroup (d : Draft) : Except Fault Draft :=
  match d.groups with
  | [] => .error .unopenedGroup
  | g :: gs =>
    .ok ⟨.alternatives (d.current.reverse :: g.alternatives).reverse :: g.before, gs⟩

/-- Whether a group is open. -/
def isNested (d : Draft) : Bool := !d.groups.isEmpty

/-- Puts a token for directories in the place of the slash before it; a token for directories
stays. -/
def recurse (d : Draft) (t : Token) : Draft :=
  match d.current with
  | .recursivePrefix :: _ | .recursiveSuffix :: _ => d
  | _ :: ts => { d with current := t :: ts }
  | [] => d

/-- Adds two stars. -/
def twoStars (d : Draft) : Draft := (d.push .zeroOrMore).push .zeroOrMore

/-- Whether two stars behind a character may stand for directories. -/
def recursesBehind (d : Draft) (previous : Option Char) : Bool :=
  previous == some '/' || d.isNested && (previous == some ',' || previous == some '{')

/-- Whether two stars before a character are the end of a pattern. -/
def endsBefore (d : Draft) (c : Char) : Bool := d.isNested && (c == ',' || c == '}')

end Draft

/-! ## Reading -/

/-- A class that has been read in part. -/
structure ClassDraft where
  negated : Bool
  /-- the ranges so far, in reverse -/
  ranges : List (Char × Char)
  /-- whether nothing has been read yet -/
  isFirst : Bool
  /-- whether a hyphen asks for the end of a range -/
  inRange : Bool

/-- A class with one more character. -/
def ClassDraft.add (k : ClassDraft) (c : Char) : Except Fault ClassDraft :=
  if k.inRange then
    match k.ranges with
    | (first, _) :: ranges =>
      if c < first then .error (.invalidRange first c)
      else .ok { k with ranges := (first, c) :: ranges, isFirst := false, inRange := false }
    | [] => .ok k
  else if c = '-' ∧ !k.isFirst then .ok { k with inRange := true }
  else .ok { k with ranges := (c, c) :: k.ranges, isFirst := false }

/-- The token of a class; a hyphen at its end stands for itself. -/
def ClassDraft.token (k : ClassDraft) : Token :=
  .oneOf k.negated (if k.inRange then ('-', '-') :: k.ranges else k.ranges).reverse

mutual

/-- Reads the rest of a pattern behind a character. -/
def readTokens (previous : Option Char) (d : Draft) : List Char → Except Fault Draft
  | [] => .ok d
  | '?' :: cs => readTokens (some '?') (d.push .any) cs
  | '*' :: '*' :: cs =>
    if d.current.isEmpty then
      match cs with
      | [] => .ok (d.push .recursivePrefix)
      | '/' :: cs => readTokens (some '/') (d.push .recursivePrefix) cs
      | c :: cs => readTokens (some '*') d.twoStars (c :: cs)
    else if d.recursesBehind previous then
      match cs with
      | [] => .ok (d.recurse .recursiveSuffix)
      | '/' :: cs => readTokens (some '/') (d.recurse .recursiveInfix) cs
      | c :: cs =>
        readTokens (some '*') (if d.endsBefore c then d.recurse .recursiveSuffix else d.twoStars)
          (c :: cs)
    else readTokens (some '*') d.twoStars cs
  | '*' :: cs => readTokens (some '*') (d.push .zeroOrMore) cs
  | '[' :: '!' :: cs | '[' :: '^' :: cs => readClass d ⟨true, [], true, false⟩ cs
  | '[' :: cs => readClass d ⟨false, [], true, false⟩ cs
  | '{' :: cs => readTokens (some '{') d.openGroup cs
  | '}' :: cs =>
    match d.closeGroup with
    | .ok d => readTokens (some '}') d cs
    | .error e => .error e
  | ',' :: cs => readTokens (some ',') d.nextAlternative cs
  | ['\\'] => .error .danglingEscape
  | '\\' :: c :: cs => readTokens (some c) (d.push (.literal c)) cs
  | c :: cs => readTokens (some c) (d.push (.literal c)) cs

/-- Reads the rest of a pattern in the midst of a class. -/
def readClass (d : Draft) (k : ClassDraft) : List Char → Except Fault Draft
  | [] => .error .unclosedClass
  | c :: cs =>
    if c = ']' ∧ !k.isFirst then readTokens (some ']') (d.push k.token) cs
    else match k.add c with
      | .ok k => readClass d k cs
      | .error e => .error e

end

end ElementBindings.Glob

namespace ElementBindings

/-- **The pattern that a text writes**, or what is wrong with it. -/
def Glob.read (s : String) : Except Glob.Fault Glob :=
  match Glob.readTokens none ⟨[], []⟩ s.toList with
  | .ok ⟨tokens, []⟩ => .ok ⟨tokens.reverse⟩
  | .ok _ => .error .unclosedGroup
  | .error e => .error e

end ElementBindings
