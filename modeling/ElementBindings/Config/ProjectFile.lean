import ElementBindings.Config.Options
import ElementBindings.Toml.Reader

/-!
# Config/ProjectFile — options in a project file

A project file is a TOML document with the sections `components`, `output` and `package`.  A section
is a table of its settings, or an array with the settings in their order.  A file states options
only if it has no other sections and settings and if each of them has a value of its kind.
-/

namespace ElementBindings

open Toml (Value)

/-! ## Values -/

namespace Toml.Value

/-- The text of a value. -/
def text? : Value → Option String
  | .text s => some s
  | _ => none

/-- The truth value of a value. -/
def boolean? : Value → Option Bool
  | .boolean b => some b
  | _ => none

/-- The path that a value names. -/
def path? (v : Value) : Option Path := v.text?.map (⟨·⟩)

/-- Whether a value holds no others. -/
def isEmpty : Value → Bool
  | .array [] | .table _ [] => true
  | _ => false

/-- The policy that a value names: by a text, or by the only key of a table with nothing under it. -/
def policy? : Value → Option PrefixPolicy
  | .text "strict" => some .strict
  | .text "pass-through" => some .passThrough
  | .table _ [(name, v)] => if v.isEmpty then policy? (.text name) else none
  | _ => none

/-- The settings of a section with the names given, of which an array states at least so many. -/
def settings? (names : List String) (least : Nat) : Value → Option Toml.Table
  | .table _ entries => if entries.all (·.1 ∈ names) then some entries else none
  | .array items => if least ≤ items.length then some (names.zip items) else none
  | _ => none

end Toml.Value

/-- A setting, or what it is when a section does not have it. -/
def Toml.Table.setting {α : Type} (t : Toml.Table) (name : String) (fallback : α)
    (read : Value → Option α) : Option α :=
  match t.lookup name with
  | none => some fallback
  | some v => read v

/-! ## Options -/

namespace ProjectFile

/-- The names of the sections. -/
def sections : List String := ["components", "output", "package"]

/-- Where declarations go when a file does not say. -/
def defaultOutDir : Path := ⟨"dist"⟩

open Toml.Table (setting)

/-- The options that a table states. -/
def optionsOf? (root : Toml.Table) : Option Options := do
  if !root.all (·.1 ∈ sections) then none
  let components ← (← root.lookup "components").settings? ["glob", "prefix", "prefix_policy"] 1
  let output ← setting root "output" [] (·.settings? ["dir", "virtual_location"] 0)
  let package ← setting root "package" []
    (·.settings? ["same_package", "src_path", "watch_dist", "import_path"] 4)
  let glob ← (← components.lookup "glob").text?
  let lead ← setting components "prefix" Options.defaults.lead Value.text?
  let policy ← setting components "prefix_policy" Options.defaults.policy Value.policy?
  let outDir ← setting output "dir" defaultOutDir Value.path?
  let virtualLocation ←
    setting output "virtual_location" Options.defaults.virtualLocation Value.path?
  let samePackage ← setting package "same_package" Options.defaults.samePackage Value.boolean?
  let sourcePath ← setting package "src_path" none (·.path?.map some)
  let watchDist ← setting package "watch_dist" none (·.path?.map some)
  let importPath ← setting package "import_path" none (·.text?.map some)
  return { glob, lead, policy, outDir, virtualLocation, samePackage, sourcePath, watchDist,
           importPath }

end ProjectFile

/-- **The options that a project file states**, unless it is malformed. -/
def Options.ofProjectFile (content : String) : Option Options := do
  ProjectFile.optionsOf? (← Toml.read content)

end ElementBindings
