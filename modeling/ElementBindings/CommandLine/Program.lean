import ElementBindings.Bundle.Build
import ElementBindings.CommandLine.Arguments
import ElementBindings.Config.ProjectFile
import ElementBindings.Element.Data

/-!
# CommandLine/Program — carrying out commands

A command takes a tree of files to another one and either prints a text or fails.  What has been
written before a failure stays written.
-/

namespace ElementBindings.CommandLine

/-! ## Failures -/

/-- Why a command fails: what could not be done, and what caused it, from the outside in. -/
structure Failure where
  context : String
  causes : List String
deriving DecidableEq, Inhabited, Repr

namespace Failure

/-- A text whose lines but the first are indented. -/
def indented (margin : String) (s : String) : String :=
  (("\n" ++ margin).intercalate ((Text.splitOn (· == '\n') s.toList).map String.ofList))

/-- A cause with its number. -/
def numbered (cause : String × Nat) : String :=
  let digits := toString cause.2
  String.ofList (List.replicate (5 - digits.length) ' ') ++ digits ++ ": "
    ++ indented "       " cause.1 ++ "\n"

/-- **What is said about a failure.**  Causes are numbered if there are several. -/
def report (f : Failure) : String :=
  let causes := match f.causes with
    | [] => ""
    | [cause] => "\nCaused by:\n    " ++ indented "    " cause ++ "\n"
    | causes => "\nCaused by:\n" ++ String.join (causes.zipIdx.map numbered)
  "Error: " ++ f.context ++ "\n" ++ causes

/-- A failure that a fault of a file caused. -/
def ofFault (context : String) (fault : FileFault) : Failure := ⟨context, [fault.message]⟩

/-- A failure that an error of a build caused. -/
def ofBuild (context : String) (e : BuildError) : Failure :=
  ⟨context, e.message :: e.cause?.toList⟩

/-- A failure that options caused which do not fit together. -/
def ofConfig (context : String) (e : ConfigError) : Failure :=
  ⟨context, e.message :: e.cause?.toList⟩

end Failure

/-! ## Project files -/

/-- The configuration that a project file states, at the directory of the file. -/
def loadConfig (here : Path) (t : FileTree) (config : Path) : Except Failure Config :=
  match t.readText (here.join config) with
  | .error fault => .error (.ofFault ("Failed to read " ++ config.text) fault)
  | .ok content =>
    match Options.ofProjectFile content with
    | none => .error ⟨"Failed to parse " ++ config.text, []⟩
    | some options =>
      (Config.ofOptions here (here.join (config.parent?.getD ⟨""⟩)) options none).mapError
        (.ofConfig ("Invalid configuration in " ++ config.text))

/-- The lines of the project file that a project starts with. -/
def defaultProjectLines : List String :=
  ["# facade configuration",
    "",
    "[components]",
    "# Custom element sources; stories and tests are skipped",
    "glob = \"src/**/!(*.stories|*.test).ts\"",
    "",
    "# Stripped from tag names to form wrapper names (custom-button -> Button)",
    "prefix = \"custom-\"",
    "",
    "# \"strict\" fails on tags without the prefix, \"pass-through\" keeps the full tag",
    "prefix_policy = \"strict\"",
    "",
    "[output]",
    "# Where the .d.ts file is written",
    "dir = \"dist\"",
    "",
    "# Where the virtual wrapper module is imported from",
    "virtual_location = \"src/react/index.ts\"",
    "",
    "[package]",
    "# Wrappers live in the same package as the components",
    "same_package = true",
    "src_path = \"src\"",
    "",
    "# For wrappers in another package, set same_package = false and use:",
    "# watch_dist = \"../components/dist\"",
    "# import_path = \"@acme/components/\x7bkebab\x7d\""]

/-- The project file that a project starts with. -/
def defaultProject : String := String.join (defaultProjectLines.map (· ++ "\n"))

/-! ## Commands -/

/-- What becomes of a command: the text it prints, or its failure, and the tree it leaves. -/
structure Outcome where
  result : Except Failure String
  tree : FileTree

/-- Writes the project file that a project starts with; one that is there stays, unless it is to be
written over. -/
def init (here : Path) (t : FileTree) (config : Path) (overwrite : Bool) : Outcome :=
  if t.contains (here.join config) && !overwrite then ⟨.ok "", t⟩
  else match t.write (here.join config) defaultProject.toUTF8 with
    | .ok t => ⟨.ok "", t⟩
    | .error fault => ⟨.error (.ofFault ("Failed to write " ++ config.text) fault), t⟩

/-- Prints the elements of a project. -/
def manifest (t : FileTree) (c : Config) (layout : Json.Layout) : Outcome :=
  match c.manifest t with
  | .ok m => ⟨.ok (m.data.print layout ++ "\n"), t⟩
  | .error e => ⟨.error (.ofBuild "Failed to build component manifest" e), t⟩

/-- A tree with the directory of a file, or the failure to make it and the tree that is left. -/
def makeDirectoryOf (here : Path) (t : FileTree) (path : Path) :
    Except (Failure × FileTree) FileTree :=
  match path.parent? with
  | none => .ok t
  | some directory =>
    if directory.text.isEmpty then .ok t
    else (t.makeDirectoriesOrStop (here.join directory)).mapError fun stopped =>
      (.ofFault ("Failed to create " ++ directory.text) stopped.fault, stopped.tree)

/-- Writes a wrapper module to a file, with the directories around it. -/
def writeModule (here : Path) (t : FileTree) (path : Path) (text : String) : Outcome :=
  match makeDirectoryOf here t path with
  | .error (f, t) => ⟨.error f, t⟩
  | .ok t =>
    match t.write (here.join path) text.toUTF8 with
    | .error fault => ⟨.error (.ofFault ("Failed to write " ++ path.text) fault), t⟩
    | .ok t => ⟨.ok "", t⟩

/-- **Builds a project**: loads the virtual module, writes it to a file if there is one for it, and
writes the declarations. -/
def generate (here : Path) (t : FileTree) (c : Config) (wrapper : Option Path) : Outcome :=
  match c.load t resolvedVirtualModuleId .empty with
  | (.error e, _) => ⟨.error (.ofBuild "Failed to generate wrappers" e), t⟩
  | (.ok none, _) => ⟨.error ⟨"Virtual module produced no source", []⟩, t⟩
  | (.ok (some text), context) =>
    let written := match wrapper with
      | some path => writeModule here t path text
      | none => ⟨.ok "", t⟩
    match written with
    | ⟨.error f, t⟩ => ⟨.error f, t⟩
    | ⟨.ok _, t⟩ =>
      match c.close t context with
      | (.ok _, _, t) => ⟨.ok "", t⟩
      | (.error e, _, t) => ⟨.error (.ofBuild "Failed to write declarations" e), t⟩

/-- Does something with the configuration of a project file. -/
def withConfig (here : Path) (t : FileTree) (config : Path) (act : Config → Outcome) : Outcome :=
  match loadConfig here t config with
  | .ok c => act c
  | .error f => ⟨.error f, t⟩

/-- **Carries out a command** in a directory.  Watching starts with a build, whose failure is not a
failure of its own. -/
def Invocation.run (here : Path) (t : FileTree) (i : Invocation) : Outcome :=
  match i.command with
  | .init overwrite => init here t i.config overwrite
  | .manifest layout => withConfig here t i.config fun c => manifest t c layout
  | .generate wrapper => withConfig here t i.config fun c => generate here t c wrapper
  | .watch wrapper =>
    withConfig here t i.config fun c => ⟨.ok "", (generate here t c wrapper).tree⟩

/-! ## Runs -/

/-- What is left of a run of the program. -/
structure Ending where
  exitCode : Nat
  output : String
  errors : String
  tree : FileTree

/-- **A run of the program** in a directory. -/
def run (here : Path) (t : FileTree) (args : List String) : Ending :=
  match Invocation.read args with
  | .error .rejected => ⟨2, "", usage.line, t⟩
  | .error (.shown text) => ⟨0, text, "", t⟩
  | .ok i =>
    match i.run here t with
    | ⟨.ok text, t⟩ => ⟨0, text, "", t⟩
    | ⟨.error f, t⟩ => ⟨1, "", f.report, t⟩

end ElementBindings.CommandLine
