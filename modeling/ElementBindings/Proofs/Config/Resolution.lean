import ElementBindings.Proofs.Config.ImportPaths
import ElementBindings.Proofs.Config.Template

/-!
# Proofs/Config/Resolution — options that are accepted resolve every import

Without a lookup of its own, a configuration finds imports either by a way between two absolute
places, which there always is, or by a template, which never gives a blank path
(`isSome_resolve?`).  So the wrappers of a manifest may be refused, but never for want of an import
path (`wrappers_ne_unresolvedImport`).
-/

namespace ElementBindings.Config

/-- **Without a lookup, the mode is that of one package or that of a template.** -/
theorem modeOf_none_eq_ok {o : Options} {mode : OutputMode} (h : modeOf o none = .ok mode) :
    (∃ sourcePath, mode = .samePackage sourcePath) ∨
      ∃ watchDist text template, ImportTemplate.read text = .ok template ∧
        mode = .crossPackage watchDist fun name => some (template.render name) := by
  rw [modeOf] at h
  split at h
  · split at h
    · exact absurd h (by simp)
    · split at h
      · exact absurd h (by simp)
      · split at h
        · next sourcePath _ => exact Or.inl ⟨sourcePath, (Except.ok.inj h).symm⟩
        · exact absurd h (by simp)
  · split at h
    · exact absurd h (by simp)
    · split at h
      · exact absurd h (by simp)
      · next watchDist _ =>
        cases hpath : o.importPath with
        | none => exact absurd (hpath ▸ h) (by simp)
        | some text =>
          rw [hpath] at h
          simp only at h
          split at h
          · next template htemplate =>
            exact Or.inr ⟨watchDist, text, template, htemplate, (Except.ok.inj h).symm⟩
          · exact absurd h (by simp)

/-- A lookup that finds a path which is not blank resolves an import. -/
theorem resolve?_published {lookup : String → Option String} {name path : String}
    (hlookup : lookup name = some path) (hpath : Text.NonBlank path.toList) (e : Element) :
    (ImportSource.published lookup).resolve? e name = some path := by
  have hblank : ¬(Text.trim path.toList).isEmpty = true := fun h =>
    Text.trim_ne_nil_iff.2 hpath (List.isEmpty_iff.1 h)
  rw [ImportSource.resolve?, hlookup]
  exact if_neg hblank

variable {here root : Path} {o : Options} {c : Config}

/-- **Every element whose name is that of a component has an import path.** -/
theorem isSome_resolve? (hhere : here.isAbsolute = true) (hc : ofOptions here root o none = .ok c)
    (e : Element) {name : String} (hname : Text.isComponentName name = true) :
    (c.wrapRules.imports.resolve? e name).isSome = true := by
  have haccepted : c.Accepted := ⟨here, root, o, none, hhere, hc⟩
  obtain ⟨anchored, glob, mode, -, -, -, hmode, rfl⟩ := ofOptions_eq_ok_iff.1 hc
  rcases modeOf_none_eq_ok hmode with
    ⟨sourcePath, rfl⟩ | ⟨watchDist, text, template, htemplate, rfl⟩
  · rw [resolve?_samePackage rfl]
    exact Path.isSome_relativeSpecifier haccepted.isAbsolute_virtualDir
      (haccepted.isAbsolute_moduleOf e)
  · have hpath := ImportTemplate.nonBlank_render htemplate hname
    exact Option.isSome_iff_exists.2 ⟨_, resolve?_published rfl hpath e⟩

/-- **Accepted options never leave an import unresolved**, whatever the manifest: every element that
has a wrapper name has an import path with it, so that no derivation fails for want of one. -/
theorem wrappers_ne_unresolvedImport (hhere : here.isAbsolute = true)
    (hc : ofOptions here root o none = .ok c) (m : Manifest) :
    (∀ e ∈ m.elements, ∀ name, c.wrapRules.wrapperName e.tagName = .ok name →
      (c.wrapRules.imports.resolve? e name).isSome = true) ∧
    ∀ tag, c.wrapRules.wrappers m ≠ .error (.unresolvedImport tag) := by
  have hresolved : ∀ (e : Element) (name : String), c.wrapRules.wrapperName e.tagName = .ok name →
      (c.wrapRules.imports.resolve? e name).isSome = true := fun e name hname => by
    obtain ⟨-, -, -, hcomponent⟩ := WrapRules.wrapperName_eq_ok_iff.1 hname
    exact isSome_resolve? hhere hc e hcomponent
  refine ⟨fun e _ => hresolved e, fun tag h => ?_⟩
  obtain ⟨front, e, rest, ws, -, -, hrefused⟩ := WrapRules.wrappers_eq_error_iff.1 h
  cases hrefused with
  | unresolvedImport hname _ hnone =>
    have hsome := hresolved e _ hname
    rw [hnone] at hsome
    exact absurd hsome (by simp)

/-- A virtual module above the root with sources outside of it, and a template that is nothing but
a placeholder between blanks. -/
theorem wrappers_ne_unresolvedImport_outside :
    (∃ c, ofOptions ⟨"/work"⟩ ⟨"lib/../app"⟩ ⟨"src/**/*.ts", "x-", .strict, ⟨"dist"⟩,
        ⟨"../../site/./wrappers.ts"⟩, true, some ⟨"src"⟩, none, none⟩ none = .ok c ∧
      ∀ tag, c.wrapRules.wrappers
        ⟨[⟨"x-tab", "Tab", .named, ⟨"/../other/./tab.ts"⟩, [], [], [], none⟩,
          ⟨"x-old-tab", "Tab", .byDefault, ⟨"../../.."⟩, [], [], [], none⟩]⟩
        ≠ .error (.unresolvedImport tag)) ∧
    ∃ c, ofOptions ⟨"/work"⟩ ⟨"app"⟩ ⟨"src/**/*.ts", "x-", .passThrough, ⟨"dist"⟩,
        ⟨"react.ts"⟩, false, none, some ⟨"lib"⟩, some " {lower}\n"⟩ none = .ok c ∧
      ∀ tag, c.wrapRules.wrappers
        ⟨[⟨"x-tab", "Tab", .named, ⟨""⟩, [], [], [], none⟩]⟩ ≠ .error (.unresolvedImport tag) := by
  have hresolved : ∀ (root : Path) (o : Options) (m : Manifest),
      (ofOptions ⟨"/work"⟩ root o none).isOk = true →
      ∃ c, ofOptions ⟨"/work"⟩ root o none = .ok c ∧
        ∀ tag, c.wrapRules.wrappers m ≠ .error (.unresolvedImport tag) := fun root o m h => by
    cases hc : ofOptions ⟨"/work"⟩ root o none with
    | error e => exact absurd (hc ▸ h) (by simp [Except.isOk, Except.toBool])
    | ok c => exact ⟨c, rfl, (wrappers_ne_unresolvedImport (by decide +kernel) hc m).2⟩
  exact ⟨hresolved _ _ _ (by decide +kernel), hresolved _ _ _ (by decide +kernel)⟩

end ElementBindings.Config
