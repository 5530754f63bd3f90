import ElementBindings.Bundle.Resolve
import ElementBindings.Proofs.Config.ImportPaths

/-!
# Proofs/Bundle/Resolve — the imports of the wrapper module lead back to their sources

A relative id stands for the place that its specifier was made for (`resolveId?_relativeSpecifier`).
The wrappers are imported by specifiers of stripped sources, and resolving puts the extension back
(`resolveId?_importPath`).
-/

namespace ElementBindings

/-! ## Extensions put back -/

/-- **A place without the extension of a source gets one**, at its last name. -/
theorem withSourceExtension_ofPlace {ns : List String} {stem : String}
    (h : ∀ s ∈ ns ++ [stem], Path.IsFileName s) (hts : (Path.mk stem).extension? ≠ some "ts")
    (htsx : (Path.mk stem).extension? ≠ some "tsx") :
    withSourceExtension (Path.ofPlace (ns ++ [stem])) = Path.ofPlace (ns ++ [stem ++ ".ts"]) := by
  rw [withSourceExtension, Path.extension?_ofPlace h]
  split
  · next hc => exact absurd hc hts
  · next hc => exact absurd hc htsx
  · exact congrArg Path.mk (Path.text_ofPlace_append ns stem ".ts")

namespace Config

variable {c : Config}

/-! ## Relative ids -/

/-- **What an id stands for in one package**: an id that starts with a dot leads from the directory
of the virtual module to a place, and stands for the file there when that lies below the source
root. -/
theorem Accepted.resolveId?_samePackage (h : c.Accepted) {sourcePath : Path}
    (hmode : c.mode = .samePackage sourcePath) {id : String} (hid : id ≠ virtualModuleId) :
    c.resolveId? id = if id.toList.head? = some '.' ∧
        (c.root.join sourcePath).place <+: (c.virtualDir.join ⟨id⟩).place
      then some (withSourceExtension (Path.ofPlace (c.virtualDir.join ⟨id⟩).place)).text
      else none := by
  have hjoin := Path.isAbsolute_join h.isAbsolute_virtualDir ⟨id⟩
  have hnormal := Path.normalize_of_isAbsolute hjoin
  have hwithin : (Path.ofPlace (c.virtualDir.join ⟨id⟩).place).isWithin (c.root.join sourcePath)
        = true ↔ (c.root.join sourcePath).place <+: (c.virtualDir.join ⟨id⟩).place := by
    rw [Path.isWithin_iff (Path.isAbsolute_ofPlace _) (Path.isAbsolute_join h.isAbsolute_root _),
      Path.place_ofPlace (Path.isFileName_of_mem_place _)]
  rw [resolveId?, if_neg hid, sourceRoot?, hmode]
  simp only [hnormal, hwithin]

/-- **A specifier from the virtual module stands for the file of its target**, as long as that lies
below the source root. -/
theorem Accepted.resolveId?_relativeSpecifier (h : c.Accepted) {sourcePath : Path}
    (hmode : c.mode = .samePackage sourcePath) {target : Path} (ht : target.isAbsolute = true)
    {p : String} (hp : Path.relativeSpecifier c.virtualDir target = some p) :
    c.resolveId? p = if (c.root.join sourcePath).place <+: target.place
      then some (withSourceExtension (Path.ofPlace target.place)).text else none := by
  have hhead := Path.head?_relativeSpecifier hp
  have hvirtual : p ≠ virtualModuleId := by
    rintro rfl
    exact absurd hhead (by decide)
  have hplace : (c.virtualDir.join ⟨p⟩).place = target.place :=
    Path.place_join_relativeSpecifier h.isAbsolute_virtualDir ht hp
  rw [h.resolveId?_samePackage hmode hvirtual, hplace]
  simp only [hhead, true_and]

/-! ## Sources -/

/-- **Resolving inverts the imports of the wrapper module**: the path that the wrapper of an element
is imported from leads back to the source of the element, wherever the virtual module is.  The
source is a `.ts` file below the source root whose name without `.ts` is a name that has no such
extension itself. -/
theorem resolveId?_importPath (h : c.Accepted) {sourcePath : Path}
    (hmode : c.mode = .samePackage sourcePath) {e : Element} {source : Path} {stem : String}
    (hsource : (c.root.join e.source).normalize = source)
    (hwithin : source.isWithin (c.root.join sourcePath) = true)
    (hstrict : source ≠ (c.root.join sourcePath).normalize)
    (hext : source.extension? = some "ts") (hstem : source.fileStem? = some stem)
    (hdots : stem ≠ "." ∧ stem ≠ "..")
    (hbare : (Path.mk stem).extension? ≠ some "ts" ∧ (Path.mk stem).extension? ≠ some "tsx") :
    ∃ p, (∀ name, c.wrapRules.imports.resolve? e name = some p) ∧
      (∀ (m : Manifest) (ws : List Wrapper) (i : ℕ), c.wrapRules.wrappers m = .ok ws →
        m.elements[i]? = some e → ws[i]?.map (·.importPath) = some p) ∧
      c.resolveId? p = some source.text := by
  subst hsource
  have hroot := Path.isAbsolute_join h.isAbsolute_root sourcePath
  have habs := Path.isAbsolute_join h.isAbsolute_root e.source
  obtain ⟨above, hplace, hmodule, hnames⟩ :=
    Path.stripExtension_normalize habs hstem hext hdots.1 hdots.2
  obtain ⟨p, hp, hresolve, hwrapped⟩ := h.exists_importPath hmode e
  -- the module lies below the source root because its file does and is not the root itself
  have hbelow : (c.root.join sourcePath).place <+: (c.moduleOf e).place := by
    rw [Path.isWithin_iff (Path.isAbsolute_normalize habs) hroot, Path.place_normalize habs,
      hplace] at hwithin
    rw [Path.normalize_of_isAbsolute habs, Path.normalize_of_isAbsolute hroot, hplace] at hstrict
    rw [moduleOf, hmodule, Path.place_ofPlace hnames]
    rcases List.prefix_concat_iff.1 hwithin with heq | hprefix
    · exact absurd (congrArg Path.ofPlace heq.symm) hstrict
    · exact hprefix.trans (List.prefix_append above [stem])
  refine ⟨p, hresolve, hwrapped, ?_⟩
  rw [h.resolveId?_relativeSpecifier hmode (h.isAbsolute_moduleOf e) hp, if_pos hbelow, moduleOf,
    hmodule, Path.place_ofPlace hnames, withSourceExtension_ofPlace hnames hbare.1 hbare.2,
    Path.normalize_of_isAbsolute habs, hplace]
  rfl

/-- A package with `..`s in its root, its source root and its virtual module, which lies outside of
the root; the source has one more dot in its name. -/
theorem resolveId?_importPath_dotted :
    ∃ (c : Config) (e : Element), c.Accepted ∧ e.source = ⟨"src/ui/../ui/button.element.ts"⟩ ∧
      c.wrapRules.imports.resolve? e "Button" = some "../app/src/ui/button.element" ∧
      c.resolveId? "../app/src/ui/button.element" = some "/work/app/src/ui/button.element.ts" := by
  obtain ⟨glob, hc⟩ := exists_accepted
    (o := ⟨"src/**/*.ts", "acme-", .strict, ⟨"dist"⟩, ⟨"../site/./wrappers.ts"⟩, true,
      some ⟨"lib/../src/."⟩, none, none⟩)
    (show (Path.mk "/work").isAbsolute = true by decide +kernel)
    (show Path.anchor? ⟨"/work"⟩ ⟨"lib/../app"⟩ = some ⟨"/work/lib/../app"⟩ by decide +kernel)
    (by decide +kernel) (by decide +kernel)
    (show modeOf _ none = .ok (.samePackage ⟨"lib/../src/."⟩) from rfl)
  obtain ⟨p, hp, -, hid⟩ := resolveId?_importPath hc rfl
    (e := ⟨"acme-button", "Button", .named, ⟨"src/ui/../ui/button.element.ts"⟩, [], [], [], none⟩)
    (show (Path.join ⟨"/work/lib/../app"⟩ ⟨"src/ui/../ui/button.element.ts"⟩).normalize
      = ⟨"/work/app/src/ui/button.element.ts"⟩ by decide +kernel)
    (show Path.isWithin ⟨"/work/app/src/ui/button.element.ts"⟩
      (Path.join ⟨"/work/lib/../app"⟩ ⟨"lib/../src/."⟩) = true by decide +kernel)
    (show (⟨"/work/app/src/ui/button.element.ts"⟩ : Path)
      ≠ (Path.join ⟨"/work/lib/../app"⟩ ⟨"lib/../src/."⟩).normalize by decide +kernel)
    (by decide +kernel) (show _ = some "button.element" by decide +kernel)
    (by decide +kernel) (by decide +kernel)
  obtain rfl : p = "../app/src/ui/button.element" := by
    refine Option.some.inj ((hp "Button").symm.trans ?_)
    show ImportSource.resolve? (.samePackage ⟨"/work/lib/../app"⟩ ⟨"lib/../src/."⟩
      ⟨"../site/./wrappers.ts"⟩) _ _ = _
    decide +kernel
  exact ⟨_, _, hc, rfl, hp "Button", hid⟩

end Config

end ElementBindings
