import ElementBindings.Config.Options
import ElementBindings.Config.Template
import ElementBindings.Files.Access
import ElementBindings.Glob.Source
import ElementBindings.Wrapper.Declarations

/-!
# Config/Basic — options that fit together

A `Config` is made from options once and needs no checks afterwards: its root is absolute, its
pattern and its import template have been read, and the options of the mode that was not chosen are
absent.
-/

namespace ElementBindings

/-! ## Errors -/

/-- Why options do not fit together. -/
inductive ConfigError where
  | invalidRoot (root : Path) (fault : FileFault)
  | invalidGlob (error : ScanError)
  | invalidVirtualLocation (path : Path)
  | missingSourcePath
  | unexpectedSourcePath
  | missingWatchDist
  | unexpectedWatchDist
  | missingImportPath
  | unexpectedImportPath
  | ambiguousImportPath
  | invalidTemplate (template : String) (fault : ImportTemplate.Fault)
deriving DecidableEq, Repr

/-- What is said about options that do not fit together. -/
def ConfigError.message : ConfigError → String
  | invalidRoot root fault =>
    "Cannot resolve root directory " ++ root.text ++ ": " ++ fault.message
  | invalidGlob error => "Invalid component glob: " ++ error.message
  | invalidVirtualLocation path => "virtual_location " ++ path.text ++ " does not name a file"
  | missingSourcePath => "src_path is required when same_package is true"
  | unexpectedSourcePath => "src_path is only allowed when same_package is true"
  | missingWatchDist => "watch_dist is required when same_package is false"
  | unexpectedWatchDist => "watch_dist is only allowed when same_package is false"
  | missingImportPath => "Cross-package output needs an import_path template or a resolver"
  | unexpectedImportPath => "import_path is only used when same_package is false"
  | ambiguousImportPath => "Both an import_path template and a resolver were supplied"
  | invalidTemplate template fault =>
    "Invalid import_path template \"" ++ template ++ "\": " ++ fault.message

/-- What is said about the cause of an error, where it has one of its own. -/
def ConfigError.cause? : ConfigError → Option String
  | invalidRoot _ fault => some fault.message
  | invalidGlob error => some error.message
  | _ => none

/-! ## Configurations -/

/-- Where the wrappers are built. -/
inductive OutputMode where
  /-- with the components, whose sources lie below a directory -/
  | samePackage (sourcePath : Path)
  /-- against a published build, which is watched, and whose modules are found by wrapper name -/
  | crossPackage (watchDist : Path) (lookup : String → Option String)

/-- Options that fit together. -/
structure Config where
  /-- the absolute directory that relative paths start at -/
  root : Path
  glob : SourceGlob
  /-- what is taken off the front of tags -/
  lead : String
  policy : PrefixPolicy
  outDir : Path
  virtualLocation : Path
  mode : OutputMode

namespace Config

/-- The mode that options choose, with or without a lookup of modules. -/
def modeOf (o : Options) (lookup : Option (String → Option String)) :
    Except ConfigError OutputMode :=
  if o.samePackage then
    if o.watchDist.isSome then .error .unexpectedWatchDist
    else if o.importPath.isSome || lookup.isSome then .error .unexpectedImportPath
    else match o.sourcePath with
      | some p => .ok (.samePackage p)
      | none => .error .missingSourcePath
  else if o.sourcePath.isSome then .error .unexpectedSourcePath
  else match o.watchDist with
    | none => .error .missingWatchDist
    | some dist =>
      match o.importPath, lookup with
      | some _, some _ => .error .ambiguousImportPath
      | none, none => .error .missingImportPath
      | none, some f => .ok (.crossPackage dist f)
      | some text, none =>
        match ImportTemplate.read text with
        | .ok template => .ok (.crossPackage dist fun name => some (template.render name))
        | .error fault => .error (.invalidTemplate text fault)

/-- **The configuration that options make**, at a root that is seen from the directory `here`; the
modules of a published build may be found by a lookup instead of a template. -/
def ofOptions (here root : Path) (o : Options) (lookup : Option (String → Option String)) :
    Except ConfigError Config :=
  match Path.anchor? here root with
  | none => .error (.invalidRoot root .noPath)
  | some anchored =>
    match SourceGlob.read o.glob with
    | .error e => .error (.invalidGlob e)
    | .ok glob =>
      if o.virtualLocation.fileStem?.isNone then .error (.invalidVirtualLocation o.virtualLocation)
      else (modeOf o lookup).map fun mode =>
        { root := anchored, glob, lead := o.lead, policy := o.policy, outDir := o.outDir,
          virtualLocation := o.virtualLocation, mode }

/-! ## What follows from a configuration -/

/-- Whether the wrappers are built with the components. -/
def isSamePackage (c : Config) : Bool :=
  match c.mode with
  | .samePackage _ => true
  | .crossPackage .. => false

/-- Where the classes of wrapped elements are imported from. -/
def importSource (c : Config) : ImportSource :=
  match c.mode with
  | .samePackage sourcePath => .samePackage c.root sourcePath c.virtualLocation
  | .crossPackage _ lookup => .published lookup

/-- How the elements of a configuration are wrapped. -/
def wrapRules (c : Config) : WrapRules := ⟨c.lead, c.policy, c.importSource⟩

/-- Where the declarations are written. -/
def declarationTarget (c : Config) : DeclarationTarget :=
  ⟨c.root.join c.outDir, c.root.join c.virtualLocation, c.isSamePackage⟩

/-- The directory of the sources, where the wrappers are built with them. -/
def sourceRoot? (c : Config) : Option Path :=
  match c.mode with
  | .samePackage sourcePath => some (c.root.join sourcePath)
  | .crossPackage .. => none

/-- The directory of the virtual module. -/
def virtualDir (c : Config) : Path := virtualDirectory c.root c.virtualLocation

/-- The paths whose changes call for a new build. -/
def watchPaths (c : Config) : List Path :=
  match c.mode with
  | .samePackage _ => [c.root.join c.glob.base]
  | .crossPackage watchDist _ => [c.root.join watchDist]

end Config

end ElementBindings
