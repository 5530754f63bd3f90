import ElementBindings.Proofs.Config.Accepted
import ElementBindings.Proofs.Path.Extension
import ElementBindings.Proofs.Path.Specifier
import ElementBindings.Proofs.Wrapper.Derivation

/-!
# Proofs/Config/ImportPaths — the import paths of wrappers built with their sources

In the same package, the import path of a wrapper is the specifier of its stripped source as seen
from the virtual module (`exists_importPath`), and the declarations write it as the specifier of
the same source as seen from their own directory (`relativeSpecifier_outDir`).
-/

namespace ElementBindings.Config

variable {c : Config}

/-- The module of an element's class, with its extension taken off. -/
def moduleOf (c : Config) (e : Element) : Path := (c.root.join e.source).normalize.stripExtension

theorem Accepted.isAbsolute_moduleOf (h : c.Accepted) (e : Element) :
    (c.moduleOf e).isAbsolute = true :=
  Path.isAbsolute_stripExtension
    (Path.isAbsolute_normalize (Path.isAbsolute_join h.isAbsolute_root _))

theorem resolve?_samePackage {sourcePath : Path} (hmode : c.mode = .samePackage sourcePath)
    (e : Element) (name : String) :
    c.wrapRules.imports.resolve? e name = Path.relativeSpecifier c.virtualDir (c.moduleOf e) := by
  rw [wrapRules, importSource, hmode]
  rfl

/-- **In the same package every element has an import path**, which its wrapper gets in any
manifest. -/
theorem Accepted.exists_importPath (h : c.Accepted) {sourcePath : Path}
    (hmode : c.mode = .samePackage sourcePath) (e : Element) :
    ∃ p, Path.relativeSpecifier c.virtualDir (c.moduleOf e) = some p ∧
      (∀ name, c.wrapRules.imports.resolve? e name = some p) ∧
      ∀ (m : Manifest) (ws : List Wrapper) (i : ℕ), c.wrapRules.wrappers m = .ok ws →
        m.elements[i]? = some e → ws[i]?.map (·.importPath) = some p := by
  obtain ⟨p, hp⟩ := Option.isSome_iff_exists.1
    (Path.isSome_relativeSpecifier h.isAbsolute_virtualDir (h.isAbsolute_moduleOf e))
  have hresolve : ∀ name, c.wrapRules.imports.resolve? e name = some p := fun name =>
    (resolve?_samePackage hmode e name).trans hp
  refine ⟨p, hp, hresolve, fun m ws i hws he => ?_⟩
  obtain ⟨w, hw, hwrap⟩ :=
    WrapRules.exists_isWrapperOf_of_getElem? (WrapRules.wrappers_eq_ok_iff.1 hws).1 he
  rw [hw, Option.map_some]
  exact hwrap.importPath.symm.trans (hresolve w.name)

/-- Every wrapper is imported from the module of some element. -/
theorem exists_relativeSpecifier_of_mem {sourcePath : Path}
    (hmode : c.mode = .samePackage sourcePath) {m : Manifest} {ws : List Wrapper}
    (h : c.wrapRules.wrappers m = .ok ws) {w : Wrapper} (hw : w ∈ ws) : ∃ e ∈ m.elements,
      Path.relativeSpecifier c.virtualDir (c.moduleOf e) = some w.importPath := by
  obtain ⟨e, he, hwrap⟩ :=
    WrapRules.exists_isWrapperOf_of_mem (WrapRules.wrappers_eq_ok_iff.1 h).1 hw
  exact ⟨e, he, (resolve?_samePackage hmode e w.name).symm.trans hwrap.importPath⟩

/-- **Declarations name a module by its specifier from their own directory**, whatever the wrappers
call it. -/
theorem Accepted.relativeSpecifier_outDir (h : c.Accepted) {sourcePath : Path}
    (hmode : c.mode = .samePackage sourcePath) {target : Path} (ht : target.isAbsolute = true)
    {p : String} (hp : Path.relativeSpecifier c.virtualDir target = some p) :
    Path.relativeSpecifier c.declarationTarget.outDir target
      = some (c.declarationTarget.specifier p) := by
  have hjoin : (c.virtualDir.join ⟨p⟩).isAbsolute = true :=
    Path.isAbsolute_join h.isAbsolute_virtualDir _
  have hplace : (c.virtualDir.join ⟨p⟩).normalize.place = target.place :=
    (Path.place_normalize hjoin).trans
      (Path.place_join_relativeSpecifier h.isAbsolute_virtualDir ht hp)
  have hsame : (c.declarationTarget.samePackage && p.toList.head? == some '.') = true := by
    rw [Path.head?_relativeSpecifier hp, declarationTarget, isSamePackage, hmode]
    rfl
  have hdir : c.declarationTarget.virtualLocation.parent? = some c.virtualDir :=
    h.parent?_virtualLocation
  have hwritten : c.declarationTarget.specifier p
      = (Path.relativeSpecifier c.declarationTarget.outDir
          (c.virtualDir.join ⟨p⟩).normalize).getD p := by
    rw [DeclarationTarget.specifier, if_pos hsame, hdir]
    rfl
  obtain ⟨q, hq⟩ :=
    Option.isSome_iff_exists.1 (Path.isSome_relativeSpecifier h.isAbsolute_outDir ht)
  rw [hwritten, (Path.relativeSpecifier_eq_iff h.isAbsolute_outDir
    (Path.isAbsolute_normalize hjoin) ht).2 hplace, hq, Option.getD_some]

end ElementBindings.Config
