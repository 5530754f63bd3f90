import ElementBindings.Text.Basic

/-!
# Path/Basic — paths as written, and what they name

A `Path` is a text and keeps every slash of it.  Its *components* are what the text names: a root,
a leading `.`, the `..`s and the names, with doubled slashes, trailing slashes and inner `.`s
passed over.  `join`, `parent?` and `stripExtension` are functions on the text, because generated
files show them; comparison is on components.
-/

namespace ElementBindings

/-- A slash-separated path, as written. -/
structure Path where
  text : String
deriving DecidableEq, Inhabited, Repr

namespace Path

/-- One step of a path. -/
inductive Component where
  | root
  | current
  | parent
  | name (s : String)
deriving DecidableEq, Repr

namespace Component

/-- A component as it stands in a path; the root is the slash that opens it. -/
def text : Component → String
  | root => "/"
  | current => "."
  | parent => ".."
  | name s => s

/-- What a piece between two slashes names, if anything. -/
def ofPiece? : List Char → Option Component
  | [] => none
  | ['.'] => none
  | ['.', '.'] => some parent
  | piece => some (name (String.ofList piece))

/-- The root comes first, then `.`, then `..`, then the names in code-point order. -/
def le : Component → Component → Bool
  | root, _ => true
  | current, root => false
  | current, _ => true
  | parent, root | parent, current => false
  | parent, _ => true
  | name s, name t => decide (s ≤ t)
  | name _, _ => false

end Component

/-! ## Components -/

/-- The characters of a path. -/
def chars (p : Path) : List Char := p.text.toList

/-- The pieces of a path between its slashes. -/
def pieces (p : Path) : List (List Char) := Text.splitOn (· == '/') p.chars

/-- Whether a path starts at the root. -/
def isAbsolute (p : Path) : Bool := p.chars.head? == some '/'

/-- **What a path names, step by step.** -/
def components (p : Path) : List Component :=
  let named := p.pieces.filterMap Component.ofPiece?
  if p.isAbsolute then .root :: named
  else if p.pieces.head? = some ['.'] then .current :: named
  else named

/-- The shortest text with the given components. -/
def ofComponents : List Component → Path
  | .root :: cs => ⟨"/" ++ "/".intercalate (cs.map Component.text)⟩
  | cs => ⟨"/".intercalate (cs.map Component.text)⟩

/-- The order of paths: by components, a path before its extensions. -/
def le (p q : Path) : Bool := !q.components.lex p.components fun a b => a.le b && a != b

/-! ## Joining -/

/-- **A path as seen from a directory** — an absolute one starts over; otherwise one slash stands
between the two, unless the directory is empty or ends with a slash. -/
def join (dir p : Path) : Path :=
  if p.isAbsolute then p
  else if dir.chars = [] ∨ dir.chars.getLast? = some '/' then ⟨dir.text ++ p.text⟩
  else ⟨dir.text ++ "/" ++ p.text⟩

/-! ## The last component -/

/-- Whether a piece names nothing: an empty one or a `.`. -/
def isVoid (piece : List Char) : Bool := piece.isEmpty || piece == ['.']

/-- The text whose pieces are given; the first one is empty in an absolute path. -/
def ofPieces : List (List Char) → Path
  | [[]] => ⟨"/"⟩
  | pieces => ⟨String.ofList (['/'].intercalate pieces)⟩

/-- The pieces of a path up to the last one that names something; the first one always stays. -/
def namedPieces (p : Path) : List (List Char) :=
  match p.pieces with
  | [] => []
  | first :: rest => first :: Text.dropEnd isVoid rest

/-- **The path without its last component** — none for a root and for an empty path. -/
def parent? (p : Path) : Option Path :=
  match p.namedPieces with
  | [] | [[]] => none
  | [_] => some ⟨""⟩
  | first :: rest => some (ofPieces (first :: Text.dropEnd isVoid rest.dropLast))

/-- The path without its last component, or the path itself where there is none. -/
def parentD (p : Path) : Path := p.parent?.getD p

/-- The last component, if it is a name. -/
def fileName? (p : Path) : Option String :=
  match p.namedPieces.getLast?.bind Component.ofPiece? with
  | some (.name s) => some s
  | _ => none

/-- A file name cut at its last dot; a dot that opens the name does not count. -/
def cutName (name : List Char) : List Char × Option (List Char) :=
  let (after, before) := Text.breakAt (· == '.') name.reverse
  match before with
  | [] | [_] => (name, none)
  | _ :: stem => (stem.reverse, some after.reverse)

/-- The file name up to its last dot. -/
def fileStem? (p : Path) : Option String :=
  p.fileName?.map fun name => String.ofList (cutName name.toList).1

/-- The file name after its last dot. -/
def extension? (p : Path) : Option String :=
  p.fileName?.bind fun name => (cutName name.toList).2.map String.ofList

/-- **A module path without its final extension** — `button.ts` becomes `button`.  A name that is a
dot before its extension and ends the text keeps one dot more, so that it stays a step of its own. -/
def stripExtension (p : Path) : Path :=
  match p.fileName? with
  | none => p
  | some name =>
    match cutName name.toList with
    | (_, none) => p
    | (stem, some _) =>
      let stem := if stem = ['.'] ∧ p.pieces = p.namedPieces then ['.', '.'] else stem
      ofPieces (p.namedPieces.dropLast ++ [stem])

/-! ## Anchoring -/

/-- **A path made absolute without looking at the disk** — a relative one starts at `here`, `.`s go,
`..`s stay, a slash at the end stays, and so do exactly two slashes at the start.  An empty path has
no absolute form. -/
def anchor? (here p : Path) : Option Path :=
  if p.text.isEmpty then none
  else
    let twoSlashes := match p.chars with
      | '/' :: '/' :: '/' :: _ => false
      | '/' :: '/' :: _ => true
      | _ => false
    let names := (p.components.filter fun c => c != .root && c != .current).map (⟨·.text⟩)
    let start : Path := if twoSlashes then ⟨"//"⟩ else if p.isAbsolute then ⟨"/"⟩ else here
    let whole := names.foldl join start
    some (if p.chars.getLast? = some '/' then whole.join ⟨""⟩ else whole)

end Path

end ElementBindings
