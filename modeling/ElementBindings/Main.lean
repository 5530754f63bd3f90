import ElementBindings.CommandLine.Program

/-!
# Main — the program on a disk

The part of the disk that a command can look at is read into a tree of files, the command is carried
out on the tree, and the files that have changed are written back.
-/

namespace ElementBindings.Disk

/-- What a directory holds by name, or nothing if it is none. -/
def entryNames (p : Path) : IO (List String) := do
  let here ← IO.currentDir
  try
    return (← (here / p.text).readDir).toList.map (·.fileName)
  catch _ => return []

/-- A tree with what stands at a path, unless it is there already or nothing stands there; of a
directory, the names in it are left out. -/
def addNode (t : FileTree) (p : Path) : IO FileTree := do
  let here ← IO.currentDir
  if t.contains p then return t
  else if ← (here / p.text).isDir then return (t.makeDirectory p).toOption.getD t
  else if ← (here / p.text).pathExists then
    let content ← IO.FS.readBinFile (here / p.text)
    return (t.write p content).toOption.getD t
  else return t

/-- A tree with what stands at a path and above it. -/
def addSpine (t : FileTree) (p : Path) : IO FileTree := do
  let names := p.names
  let mut t := t
  for n in List.range names.length do
    t ← addNode t ⟨"/" ++ "/".intercalate (names.take (n + 1))⟩
  return t

/-- A tree with all that stands below a directory, down to a depth. -/
def addBelow : Nat → FileTree → Path → IO FileTree
  | 0, t, _ => return t
  | depth + 1, t, p => do
    let t ← addNode t p
    (← entryNames p).foldlM (fun t name => addBelow depth t (p.join ⟨name⟩)) t

/-- The depth down to which directories are read. -/
def maxDepth : Nat := 64

/-- The part of the disk that a command can look at. -/
def snapshot (here : Path) (i : CommandLine.Invocation) : IO FileTree := do
  let t ← addSpine (← addSpine .empty here) (here.join i.config)
  match CommandLine.loadConfig here t i.config with
  | .error _ => return t
  | .ok c =>
    let sources := c.root.join c.glob.base
    let t ← addBelow maxDepth (← addSpine t sources) sources
    let t ← addSpine t c.declarationTarget.outputPath
    match i.command with
    | .generate (some wrapper) | .watch (some wrapper) => addSpine t (here.join wrapper)
    | _ => return t

/-- Writes the files in which a tree differs from the one before. -/
def writeChanges (before after : FileTree) : IO Unit := do
  for (names, content) in after.filesBelow [] do
    let unchanged := match before.at? names with
      | some (.file old) => old == content
      | _ => false
    if !unchanged then
      IO.FS.createDirAll ("/" ++ "/".intercalate names.dropLast)
      IO.FS.writeBinFile ("/" ++ "/".intercalate names) content

end ElementBindings.Disk

open ElementBindings in
/-- Runs the program in the current directory. -/
def main (args : List String) : IO UInt32 := do
  let here : Path := ⟨(← IO.currentDir).toString⟩
  let tree ← match CommandLine.Invocation.read args with
    | .ok i => Disk.snapshot here i
    | .error _ => pure .empty
  let ending := CommandLine.run here tree args
  Disk.writeChanges tree ending.tree
  IO.print ending.output
  IO.eprint ending.errors
  return ending.exitCode.toUInt32
