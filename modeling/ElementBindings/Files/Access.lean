import ElementBindings.Files.Tree

/-!
# Files/Access — reading and writing by path

A path is followed name by name: links are put in the place of their names, `..` leads back to the
directory above the one reached, and a name behind anything but a directory is a fault.  An operation
either does all it says or changes nothing and gives the fault, but for making directories, which stops
at a fault and leaves those it has made.
-/

namespace ElementBindings

/-! ## Faults -/

/-- Why a file cannot be reached, read or written. -/
inductive FileFault where
  | missing
  | present
  | notDirectory
  | isDirectory
  | tooManyLinks
  | badName
  | notText
  | noPath
deriving DecidableEq, Inhabited, Repr

/-- What is said about a fault. -/
def FileFault.message : FileFault → String
  | missing => "No such file or directory (os error 2)"
  | present => "File exists (os error 17)"
  | notDirectory => "Not a directory (os error 20)"
  | isDirectory => "Is a directory (os error 21)"
  | tooManyLinks => "Too many levels of symbolic links (os error 40)"
  | badName => "file name contained an unexpected NUL byte"
  | notText => "stream did not contain valid UTF-8"
  | noPath => "cannot make an empty path absolute"

/-! ## Following paths -/

/-- The names a path leads through.  A slash at the end asks for a directory. -/
def Path.names (p : Path) : List String :=
  let names := (p.pieces.filter (!·.isEmpty)).map String.ofList
  if p.chars.getLast? = some '/' then names ++ ["."] else names

/-- A path without the slashes at its end. -/
def Path.dropSlashes (p : Path) : Path := ⟨String.ofList (Text.dropEnd (· == '/') p.chars)⟩

/-- Whether a path ends with a slash. -/
def Path.endsWithSlash (p : Path) : Bool := p.chars.getLast? == some '/'

namespace FileTree

/-- Where a path leads. -/
inductive Spot where
  /-- to a file or a directory -/
  | there (place : List String)
  /-- to a name that is not in its directory -/
  | absent (directory : List String) (name : String)
deriving DecidableEq, Repr

/-- Follows names from a place on, through at most a given number of links. -/
def follow (t : FileTree) (links : Nat) (place : List String) : List String → Except FileFault Spot
  | [] => .ok (.there place)
  | name :: names =>
    match t.at? place with
    | some (.directory _) =>
      if name = "." then follow t links place names
      else if name = ".." then follow t links place.dropLast names
      else match t.at? (place ++ [name]) with
        | none => if names.isEmpty then .ok (.absent place name) else .error .missing
        | some (.link target) =>
          match links with
          | 0 => .error .tooManyLinks
          | links + 1 => follow t links (if target.isAbsolute then [] else place) (target.names ++ names)
        | some _ => follow t links (place ++ [name]) names
    | some _ => .error .notDirectory
    | none => .error .missing
termination_by names => (links, names.length)

/-- The links that may be followed for one path. -/
def maxLinks : Nat := 40

/-- **Where an absolute path leads.**  An empty path leads nowhere. -/
def locate (t : FileTree) (p : Path) : Except FileFault Spot :=
  if '\x00' ∈ p.chars then .error .badName
  else if p.text.isEmpty then .error .missing
  else t.follow maxLinks [] p.names

/-- The node a path leads to. -/
def node? (t : FileTree) (p : Path) : Option FileNode :=
  match t.locate p with
  | .ok (.there place) => t.at? place
  | _ => none

/-- Whether a path leads to anything. -/
def contains (t : FileTree) (p : Path) : Bool := (t.node? p).isSome

/-- Whether a path leads to a directory. -/
def isDirectory (t : FileTree) (p : Path) : Bool := (t.node? p).any (·.isDirectory)

/-! ## Reading -/

/-- **The content of the file a path leads to.** -/
def read (t : FileTree) (p : Path) : Except FileFault ByteArray := do
  match ← t.locate p with
  | .absent .. => throw .missing
  | .there place =>
    match t.at? place with
    | some (.file content) => return content
    | _ => throw .isDirectory

/-- The text of the file a path leads to. -/
def readText (t : FileTree) (p : Path) : Except FileFault String := do
  match String.fromUTF8? (← t.read p) with
  | some s => return s
  | none => throw .notText

/-! ## Writing -/

/-- **A tree with a file written**, new or in the place of the file that is there. -/
def write (t : FileTree) (p : Path) (content : ByteArray) : Except FileFault FileTree := do
  match ← t.locate p.dropSlashes with
  | .absent directory name =>
    if p.endsWithSlash then throw .isDirectory
    return t.put (directory ++ [name]) (.file content)
  | .there place =>
    if p.endsWithSlash then throw .isDirectory
    match t.at? place with
    | some (.file _) => return t.put place (.file content)
    | _ => throw .isDirectory

/-- A tree with a new node where nothing is yet. -/
def make (t : FileTree) (p : Path) (node : FileNode) : Except FileFault FileTree := do
  if '\x00' ∈ p.chars then throw .badName
  match p.dropSlashes.names.getLast? with
  | none => throw (if p.text.isEmpty then .missing else .present)
  | some name =>
    match ← t.follow maxLinks [] (p.dropSlashes.names.dropLast ++ ["."]) with
    | .absent .. => throw .missing
    | .there place =>
      if name = "." ∨ name = ".." then throw .present
      if (t.at? (place ++ [name])).isSome then throw .present
      return t.put (place ++ [name]) node

/-- A tree with a new directory. -/
def makeDirectory (t : FileTree) (p : Path) : Except FileFault FileTree := t.make p (.directory [])

/-- A tree with a new directory, unless it is there already. -/
def ensureDirectory (t : FileTree) (p : Path) : Except FileFault FileTree :=
  match t.makeDirectory p with
  | .ok t => .ok t
  | .error e => if t.isDirectory p then .ok t else .error e

/-- A fault that stops an operation half-way, and the tree that it leaves. -/
structure Stopped where
  fault : FileFault
  tree : FileTree

/-- Creates a directory with at most a given number of directories around it. -/
def makeDirectoriesUpTo : Nat → FileTree → Path → Except Stopped FileTree
  | 0, t, _ => .error ⟨.missing, t⟩
  | fuel + 1, t, p =>
    if p.text.isEmpty then .ok t
    else match t.ensureDirectory p, p.parent? with
      | .error .missing, some outer => do
        let t ← makeDirectoriesUpTo fuel t outer
        (t.ensureDirectory p).mapError (⟨·, t⟩)
      | result, _ => result.mapError (⟨·, t⟩)

/-- **A tree with a directory and all directories around it**, or with those that could be made. -/
def makeDirectoriesOrStop (t : FileTree) (p : Path) : Except Stopped FileTree :=
  makeDirectoriesUpTo (p.text.length + 2) t p

/-- A tree with a directory and all directories around it. -/
def makeDirectories (t : FileTree) (p : Path) : Except FileFault FileTree :=
  (t.makeDirectoriesOrStop p).mapError (·.fault)

/-- A tree without what a path names. -/
def remove (t : FileTree) (p : Path) : FileTree :=
  match p.names.getLast?, t.follow maxLinks [] p.names.dropLast with
  | some name, .ok (.there place) => t.erase (place ++ [name])
  | _, _ => t

/-! ## Listing -/

/-- The files below a directory, with the names that lead to them.  Links are followed, except back
to a directory that the listing is in the midst of. -/
def filesFrom (t : FileTree) : Nat → List (List String) → List String → List (List String)
  | 0, _, _ => []
  | fuel + 1, above, place =>
    match t.at? place with
    | some (.directory entries) =>
      entries.flatMap fun (name, node) =>
        match node with
        | .file _ => [[name]]
        | .directory _ => (filesFrom t fuel (place :: above) (place ++ [name])).map (name :: ·)
        | .link _ =>
          match t.follow maxLinks place [name] with
          | .ok (.there target) =>
            match t.at? target with
            | some (.file _) => [[name]]
            | some (.directory _) =>
              if target ∈ place :: above then []
              else (filesFrom t fuel (place :: above) target).map (name :: ·)
            | _ => []
          | _ => []
    | _ => []

/-- **The files below a directory**, in no order.  Following links, a listing goes into each
directory at most once by a link, and down no further than the tree is large in between. -/
def listing (t : FileTree) (directory : Path) : List (List String) :=
  match t.locate directory with
  | .ok (.there place) => t.filesFrom ((t.root.count + 1) * (t.root.count + 1)) [] place
  | _ => []

end FileTree

end ElementBindings
