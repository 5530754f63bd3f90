import ElementBindings.Bundle.Context
import ElementBindings.Bundle.Resolve
import ElementBindings.Element.Discovery

/-!
# Bundle/Build — from sources to a wrapper module and its declarations

Loading the virtual module scans the sources, finds their elements, wraps them and generates the
module, which is kept; closing the bundle writes the declarations of the module that was kept.  A
step that fails changes neither the context nor a file, but for closing, which empties the context
either way.
-/

namespace ElementBindings

/-! ## Errors -/

/-- Why a step of a build fails. -/
inductive BuildError where
  | scan (error : ScanError)
  | manifest (error : ManifestError)
  | wrap (error : WrapError)
  | unwritable (path : Path) (fault : FileFault)
  | transform (id reason : String)
deriving DecidableEq, Repr

/-- What is said about a step that fails. -/
def BuildError.message : BuildError → String
  | scan error => error.message
  | manifest error => error.message
  | wrap error => error.message
  | unwritable path fault =>
    "Failed to write declarations to " ++ path.text ++ ": " ++ fault.message
  | transform id reason => "Failed to transform " ++ id ++ ": Failed to strip types: " ++ reason

/-- What is said about the cause of an error, where it has one of its own. -/
def BuildError.cause? : BuildError → Option String
  | manifest error => error.fault?.map (·.message)
  | unwritable _ fault => some fault.message
  | transform _ reason => some ("Failed to strip types: " ++ reason)
  | _ => none

/-! ## Declarations -/

/-- **Writes the declarations of some wrappers**, and gives the path of their file.  A file that has
them already is left alone; directories that are made before a fault stay. -/
def DeclarationTarget.writeOrStop (target : DeclarationTarget) (t : FileTree) (ws : List Wrapper) :
    Except FileTree.Stopped (Path × FileTree) :=
  let content := declarationModule target ws
  if (t.readText target.outputPath).toOption = some content then .ok (target.outputPath, t)
  else do
    let made ← t.makeDirectoriesOrStop target.outDir
    let written ← (made.write target.outputPath content.toUTF8).mapError (⟨·, made⟩)
    return (target.outputPath, written)

/-- A tree with the declarations of some wrappers. -/
def DeclarationTarget.write (target : DeclarationTarget) (t : FileTree) (ws : List Wrapper) :
    Except FileFault FileTree :=
  ((target.writeOrStop t ws).map (·.2)).mapError (·.fault)

namespace Config

/-! ## Loading -/

/-- The elements of a project. -/
def manifest (c : Config) (t : FileTree) : Except BuildError Manifest := do
  let paths ← (c.glob.scan t c.root).mapError .scan
  (Manifest.ofFiles t paths).mapError .manifest

/-- The wrapper module of a project. -/
def generate (c : Config) (t : FileTree) : Except BuildError GeneratedModule := do
  let manifest ← c.manifest t
  let wrappers ← (c.wrapRules.wrappers manifest).mapError .wrap
  return ⟨wrappers, wrapperModule wrappers⟩

/-- **Loads a module by its id**: the virtual module is generated and kept, any other is not ours. -/
def load (c : Config) (t : FileTree) (id : String) (context : BuildContext) :
    Except BuildError (Option String) × BuildContext :=
  if id = resolvedVirtualModuleId then
    match c.generate t with
    | .ok m => (.ok (some m.text), context.store m)
    | .error e => (.error e, context)
  else (.ok none, context)

/-! ## Transforming -/

/-- What a module is after its types are stripped. -/
structure Transformed where
  code : String
  sourceMap : Option String
deriving DecidableEq, Repr

/-- Keeps a source as it is. -/
def keepSource (source _id : String) : Except String Transformed := .ok ⟨source, none⟩

/-- **Transforms the virtual module**, and says what is to be watched for it. -/
def transform (c : Config) (strip : String → String → Except String Transformed)
    (source id : String) : Except BuildError (Option Transformed) × List Path :=
  if id = resolvedVirtualModuleId then
    let watched := match c.mode with
      | .samePackage _ => []
      | .crossPackage watchDist _ => [c.root.join watchDist]
    (((strip source id).map some).mapError (.transform id), watched)
  else (.ok none, [])

/-! ## Closing -/

/-- **Closes the bundle**: the declarations of the module that was kept are written.  The context is
empty afterwards. -/
def close (c : Config) (t : FileTree) (context : BuildContext) :
    Except BuildError (Option Path) × BuildContext × FileTree :=
  match context.take with
  | (none, context) => (.ok none, context, t)
  | (some m, context) =>
    match c.declarationTarget.writeOrStop t m.wrappers with
    | .ok (path, t) => (.ok (some path), context, t)
    | .error stopped =>
      (.error (.unwritable c.declarationTarget.outputPath stopped.fault), context, stopped.tree)

end Config

end ElementBindings
