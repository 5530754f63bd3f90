import ElementBindings.Path.Basic

/-!
# Files/Tree — a tree of files as a value

A `FileTree` holds every file from the root of the disk on.  A *place* is a list of names that leads
down from the root through directories; `at?` says what stands there, and `put` and `erase` change
one place and leave the others as they are.
-/

namespace ElementBindings

/-- What stands in a directory under a name. -/
inductive FileNode where
  | file (content : ByteArray)
  /-- a symbolic link, with the path it stands for -/
  | link (target : Path)
  | directory (entries : List (String × FileNode))

instance : Inhabited FileNode := ⟨.directory []⟩

namespace FileNode

/-- What stands below a node, at the end of some names. -/
def at? : FileNode → List String → Option FileNode
  | n, [] => some n
  | directory entries, name :: names => (entries.lookup name).bind (·.at? names)
  | _, _ :: _ => none

/-- Entries with one set, in the place of an entry of its name or behind the others. -/
def setEntry (name : String) (node : FileNode) : List (String × FileNode) → List (String × FileNode)
  | [] => [(name, node)]
  | e :: es => if e.1 = name then (name, node) :: es else e :: setEntry name node es

/-- A node with another one put below it; its directory has to be there. -/
def put : FileNode → List String → FileNode → FileNode
  | _, [], node => node
  | directory entries, name :: names, node =>
    match entries.lookup name, names with
    | some below, _ => directory (setEntry name (below.put names node) entries)
    | none, [] => directory (setEntry name node entries)
    | none, _ => directory entries
  | n, _ :: _, _ => n

/-- A node without what stands below it at the end of some names. -/
def erase : FileNode → List String → FileNode
  | directory entries, [name] => directory (entries.filter (·.1 != name))
  | directory entries, name :: names =>
    match entries.lookup name with
    | some below => directory (setEntry name (below.erase names) entries)
    | none => directory entries
  | n, _ => n

/-- Whether a node is a directory. -/
def isDirectory : FileNode → Bool
  | directory _ => true
  | _ => false

mutual

/-- The number of nodes of a tree. -/
def count : FileNode → Nat
  | directory entries => countAll entries + 1
  | _ => 1

/-- The number of nodes below some entries. -/
def countAll : List (String × FileNode) → Nat
  | [] => 0
  | (_, n) :: es => n.count + countAll es

end

mutual

/-- **The regular files of a tree**, with their places in it; links are not followed. -/
def files : FileNode → List (List String × ByteArray)
  | file content => [([], content)]
  | link _ => []
  | directory entries => filesOf entries

/-- The regular files below some entries. -/
def filesOf : List (String × FileNode) → List (List String × ByteArray)
  | [] => []
  | (name, n) :: es => n.files.map (fun f => (name :: f.1, f.2)) ++ filesOf es

end

end FileNode

/-- A tree of files, from its root on. -/
structure FileTree where
  root : FileNode
deriving Inhabited

namespace FileTree

/-- The tree without files. -/
def empty : FileTree := ⟨.directory []⟩

/-- What stands at a place. -/
def at? (t : FileTree) (place : List String) : Option FileNode := t.root.at? place

/-- A tree with a node put at a place. -/
def put (t : FileTree) (place : List String) (node : FileNode) : FileTree := ⟨t.root.put place node⟩

/-- A tree without what stands at a place. -/
def erase (t : FileTree) (place : List String) : FileTree := ⟨t.root.erase place⟩

/-- The regular files below a place, with the names that lead to them. -/
def filesBelow (t : FileTree) (place : List String) : List (List String × ByteArray) :=
  ((t.at? place).map FileNode.files).getD []

end FileTree

end ElementBindings
