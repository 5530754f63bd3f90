import ElementBindings.Proofs.Config.ImportPaths
import ElementBindings.Proofs.Wrapper.Specifiers

/-!
# Proofs/Config/Declarations — the wrapper module and its declarations bind alike

The wrapper module plans its imports by the import paths of the wrappers, the declarations by those
paths written anew.  Written anew, a path names the same module (`specifier_importPath`) and stays
apart from what it was apart from (`injOn_specifier`), so both plans have the same groups, bindings
and local names (`declarations_agree_with_module`).
-/

namespace ElementBindings.Config

variable {c : Config}

/-- Across packages, declarations keep the import paths. -/
theorem specifier_of_crossPackage {watchDist : Path} {lookup : String → Option String}
    (hmode : c.mode = .crossPackage watchDist lookup) :
    c.declarationTarget.specifier = id := by
  funext p
  rw [DeclarationTarget.specifier, declarationTarget, isSamePackage, hmode]
  rfl

/-- **Import paths written anew name the same modules.**  In the same package, the import path of an
element becomes the specifier of its stripped source as seen from the declarations, and leads from
there to the module that it led to from the virtual module; across packages it stays as it is. -/
theorem specifier_importPath (h : c.Accepted) :
    (∀ sourcePath, c.mode = .samePackage sourcePath → ∀ e : Element,
      let target := c.declarationTarget
      let source := (c.root.join e.source).normalize
      ∃ p, (∀ name, c.wrapRules.imports.resolve? e name = some p) ∧
        (∀ (m : Manifest) (ws : List Wrapper) (i : ℕ), c.wrapRules.wrappers m = .ok ws →
          m.elements[i]? = some e → ws[i]?.map (·.importPath) = some p) ∧
        Path.relativeSpecifier target.outDir source.stripExtension = some (target.specifier p) ∧
        (target.outDir.join ⟨target.specifier p⟩).normalize = (c.virtualDir.join ⟨p⟩).normalize) ∧
    ∀ watchDist lookup, c.mode = .crossPackage watchDist lookup →
      ∀ p, c.declarationTarget.specifier p = p := by
  refine ⟨fun sourcePath hmode e => ?_, fun watchDist lookup hmode p => ?_⟩
  · obtain ⟨p, hp, hresolve, hwrappers⟩ := h.exists_importPath hmode e
    have hmodule := h.isAbsolute_moduleOf e
    have hq := h.relativeSpecifier_outDir hmode hmodule hp
    refine ⟨p, hresolve, hwrappers, hq, ?_⟩
    rw [Path.normalize_of_isAbsolute (Path.isAbsolute_join h.isAbsolute_outDir _),
      Path.normalize_of_isAbsolute (Path.isAbsolute_join h.isAbsolute_virtualDir _),
      Path.place_join_relativeSpecifier h.isAbsolute_outDir hmodule hq,
      Path.place_join_relativeSpecifier h.isAbsolute_virtualDir hmodule hp]
  · rw [specifier_of_crossPackage hmode, id]

/-- A root, a virtual module and declarations that all climb. -/
theorem specifier_importPath_climbing :
    ∃ (c : Config) (e : Element), c.Accepted ∧ e.source = ⟨"src/button/button.ts"⟩ ∧
      c.wrapRules.imports.resolve? e "Button" = some "./button/button" ∧
      c.declarationTarget.specifier "./button/button" = "../../ui/src/button/button" ∧
      (c.declarationTarget.outDir.join ⟨"../../ui/src/button/button"⟩).normalize
        = (c.virtualDir.join ⟨"./button/button"⟩).normalize := by
  obtain ⟨glob, hc⟩ := exists_accepted
    (o := ⟨"src/**/*.ts", "acme-", .strict, ⟨"../types/./react"⟩, ⟨"src/react/../index.ts"⟩, true,
      some ⟨"src"⟩, none, none⟩)
    (show (Path.mk "/work").isAbsolute = true by decide +kernel)
    (show Path.anchor? ⟨"/work"⟩ ⟨"lib/../ui"⟩ = some ⟨"/work/lib/../ui"⟩ by decide +kernel)
    (by decide +kernel) (by decide +kernel)
    (show modeOf _ none = .ok (.samePackage ⟨"src"⟩) from rfl)
  obtain ⟨p, hp, -, hspecifier, hsame⟩ := (specifier_importPath hc).1 _ rfl
    ⟨"acme-button", "Button", .named, ⟨"src/button/button.ts"⟩, [], [], [], none⟩
  obtain rfl : p = "./button/button" := by
    refine Option.some.inj ((hp "Button").symm.trans ?_)
    show ImportSource.resolve? (.samePackage ⟨"/work/lib/../ui"⟩ ⟨"src"⟩ ⟨"src/react/../index.ts"⟩)
      _ _ = _
    decide +kernel
  have hwritten : Path.relativeSpecifier (Path.join ⟨"/work/lib/../ui"⟩ ⟨"../types/./react"⟩)
      (Path.join ⟨"/work/lib/../ui"⟩ ⟨"src/button/button.ts"⟩).normalize.stripExtension
        = some "../../ui/src/button/button" := by decide +kernel
  have hspec := Option.some.inj (hspecifier.symm.trans hwritten)
  rw [hspec] at hsame
  exact ⟨_, _, hc, rfl, hp "Button", hspec, hsame⟩

/-- **Writing import paths anew merges no two of them.** -/
theorem Accepted.injOn_specifier (h : c.Accepted) {m : Manifest} {ws : List Wrapper}
    (hws : c.wrapRules.wrappers m = .ok ws) :
    Set.InjOn c.declarationTarget.specifier {s | ∃ w ∈ ws, w.importPath = s} := by
  cases hmode : c.mode with
  | crossPackage watchDist lookup =>
    rw [specifier_of_crossPackage hmode]
    exact Set.injOn_id _
  | samePackage sourcePath =>
    rintro _ ⟨v, hv, rfl⟩ _ ⟨w, hw, rfl⟩ hvw
    obtain ⟨d, -, hd⟩ := exists_relativeSpecifier_of_mem hmode hws hv
    obtain ⟨e, -, he⟩ := exists_relativeSpecifier_of_mem hmode hws hw
    have hplace : (c.moduleOf d).place = (c.moduleOf e).place := by
      refine (Path.relativeSpecifier_eq_iff h.isAbsolute_outDir (h.isAbsolute_moduleOf d)
        (h.isAbsolute_moduleOf e)).1 ?_
      rw [h.relativeSpecifier_outDir hmode (h.isAbsolute_moduleOf d) hd,
        h.relativeSpecifier_outDir hmode (h.isAbsolute_moduleOf e) he, hvw]
    have hspec := (Path.relativeSpecifier_eq_iff h.isAbsolute_virtualDir (h.isAbsolute_moduleOf d)
      (h.isAbsolute_moduleOf e)).2 hplace
    exact Option.some.inj (hd.symm.trans (hspec.trans he))

/-- **The wrapper module and its declarations agree on every binding**: their plans have as many
groups, in one order, with the same default and named bindings and with each other's modules; the
local name and the element type are the same at every place; and two wrappers are imported from one
module in the declarations just when they are in the wrapper module. -/
theorem declarations_agree_with_module (h : c.Accepted) {m : Manifest} {ws : List Wrapper}
    (hws : c.wrapRules.wrappers m = .ok ws) :
    let rewrite := c.declarationTarget.specifier
    let inModule := ImportPlan.ofWrappers id ws
    let inDeclarations := ImportPlan.ofWrappers rewrite ws
    inDeclarations.groups.length = inModule.groups.length ∧
    inDeclarations.groups.map (fun g => (g.byDefault, g.named))
      = inModule.groups.map (fun g => (g.byDefault, g.named)) ∧
    inDeclarations.groups.map (·.specifier) = inModule.groups.map (fun g => rewrite g.specifier) ∧
    (∀ i, inDeclarations.local? i = inModule.local? i ∧
      inDeclarations.elementType i = inModule.elementType i) ∧
    ∀ v ∈ ws, ∀ w ∈ ws,
      rewrite v.importPath = rewrite w.importPath ↔ v.importPath = w.importPath := by
  intro rewrite inModule inDeclarations
  have hinj := h.injOn_specifier hws
  have hplan : inDeclarations = inModule.respecify rewrite :=
    ImportPlan.ofWrappers_eq_respecify hinj
  have hgroups : inDeclarations.groups = inModule.groups.map (·.respecify rewrite) :=
    congrArg (·.groups) hplan
  have hlocals : inDeclarations.locals = inModule.locals := congrArg (·.locals) hplan
  have hlocal : ∀ i, inDeclarations.local? i = inModule.local? i := fun i => by
    rw [ImportPlan.local?, hlocals, ImportPlan.local?]
  refine ⟨?_, ?_, ?_, fun i => ⟨hlocal i, ?_⟩, fun v hv w hw => ?_⟩
  · rw [hgroups, List.length_map]
  · rw [hgroups, List.map_map]
    rfl
  · rw [hgroups, List.map_map]
    rfl
  · rw [ImportPlan.elementType, hlocal, ImportPlan.elementType]
  · exact hinj.eq_iff ⟨v, hv, rfl⟩ ⟨w, hw, rfl⟩

/-- Two classes of one name from two modules, one of which is imported from twice: the declarations,
written elsewhere, bind them to the same local names. -/
theorem declarations_agree_with_module_sameClass :
    ∃ (c : Config) (m : Manifest) (ws : List Wrapper),
      c.Accepted ∧ c.wrapRules.wrappers m = .ok ws ∧
      (ImportPlan.ofWrappers id ws).groups.map (·.specifier) = ["./tabs/tab", "./old/tab"] ∧
      (ImportPlan.ofWrappers c.declarationTarget.specifier ws).groups.map (·.specifier)
        = ["../src/tabs/tab", "../src/old/tab"] ∧
      (ImportPlan.ofWrappers c.declarationTarget.specifier ws).elementType 1 = "TabElement2" := by
  obtain ⟨glob, hc⟩ := exists_accepted
    (o := ⟨"src/**/*.ts", "acme-", .strict, ⟨"types/../dist"⟩, ⟨"src/./react.ts"⟩, true,
      some ⟨"src"⟩, none, none⟩)
    (show (Path.mk "/work").isAbsolute = true by decide +kernel)
    (show Path.anchor? ⟨"/work"⟩ ⟨"app"⟩ = some ⟨"/work/app"⟩ by decide +kernel)
    (by decide +kernel) (by decide +kernel)
    (show modeOf _ none = .ok (.samePackage ⟨"src"⟩) from rfl)
  have hws : WrapRules.wrappers
      ⟨"acme-", .strict, .samePackage ⟨"/work/app"⟩ ⟨"src"⟩ ⟨"src/./react.ts"⟩⟩
      ⟨[⟨"acme-tab", "Tab", .named, ⟨"src/tabs/tab.ts"⟩, [], [], [], none⟩,
        ⟨"acme-old-tab", "Tab", .named, ⟨"src/old/tab.ts"⟩, [], [], [], none⟩,
        ⟨"acme-tab-list", "TabList", .byDefault, ⟨"src/./tabs/tab.ts"⟩, [], [], [], none⟩]⟩
      = .ok [⟨"Tab", "acme-tab", "Tab", .named, "./tabs/tab", [], [], [], none⟩,
        ⟨"OldTab", "acme-old-tab", "Tab", .named, "./old/tab", [], [], [], none⟩,
        ⟨"TabList", "acme-tab-list", "TabList", .byDefault, "./tabs/tab", [], [], [], none⟩] := by
    decide +kernel
  obtain ⟨-, -, hspecifiers, hlocals, -⟩ := declarations_agree_with_module hc hws
  refine ⟨_, _, _, hc, hws, by decide +kernel, hspecifiers.trans ?_, (hlocals 1).2.trans ?_⟩
  · show (ImportPlan.ofWrappers id _).groups.map (fun g => DeclarationTarget.specifier
        ⟨Path.join ⟨"/work/app"⟩ ⟨"types/../dist"⟩,
          Path.join ⟨"/work/app"⟩ ⟨"src/./react.ts"⟩, true⟩
        g.specifier) = _
    decide +kernel
  · decide +kernel

end ElementBindings.Config
