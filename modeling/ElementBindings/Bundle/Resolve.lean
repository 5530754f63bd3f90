import ElementBindings.Config.Basic

/-!
# Bundle/Resolve — module ids of a bundle

A bundler asks what the ids in its modules stand for.  The virtual module has an id of its own, and
the relative imports of the virtual module lead to sources.
-/

namespace ElementBindings

/-- The id that the virtual module is imported by. -/
def virtualModuleId : String := "virtual:web-components-react-bindings"

/-- The id that the virtual module is loaded by; no file has it. -/
def resolvedVirtualModuleId : String := "\x00virtual:web-components-react-bindings"

/-- A path with the extension of a source, which is added where it is missing. -/
def withSourceExtension (p : Path) : Path :=
  match p.extension? with
  | some "ts" | some "tsx" => p
  | _ => ⟨p.text ++ ".ts"⟩

/-- **What an id stands for** — the virtual module, or a source below the source root that is named
from the virtual module. -/
def Config.resolveId? (c : Config) (id : String) : Option String :=
  if id = virtualModuleId then some resolvedVirtualModuleId
  else match c.sourceRoot? with
    | none => none
    | some sourceRoot =>
      let target := (c.virtualDir.join ⟨id⟩).normalize
      if id.toList.head? = some '.' ∧ target.isWithin sourceRoot then
        some (withSourceExtension target).text
      else none

end ElementBindings
