import ElementBindings.Proofs.Config.ImportPaths
import ElementBindings.Proofs.Wrapper.Planning

/-!
# Proofs/Config/Sources — which sources share a module

In the same package a wrapper is imported from its source without the extension.  Two wrappers have
one import path just when their sources are one place without it (`importPath_eq_iff`), and only
then can their classes be in one group of imports (`importPath_eq_of_sharesGroup`).  So sources that
differ are kept apart where they have the same extension (`distinctSources_apart`), and not
otherwise (`distinctSources_merged`).
-/

namespace ElementBindings

/-- Whether the classes of two wrappers are imported by one group of a plan. -/
def ImportPlan.SharesGroup (p : ImportPlan) (i j : ℕ) : Prop :=
  ∃ g ∈ p.groups, (∃ k ∈ g.locals, p.local? i = some k) ∧ ∃ l ∈ g.locals, p.local? j = some l

namespace Config

variable {c : Config} {sourcePath : Path} {m : Manifest} {ws : List Wrapper} {i j : ℕ}
  {d e : Element} {v w : Wrapper}

/-- The source of an element, without detours. -/
def sourceOf (c : Config) (e : Element) : Path := (c.root.join e.source).normalize

/-- A wrapper is imported from the module of the element in its place. -/
theorem relativeSpecifier_moduleOf (hmode : c.mode = .samePackage sourcePath)
    (hws : c.wrapRules.wrappers m = .ok ws) (he : m.elements[i]? = some e) (hw : ws[i]? = some w) :
    Path.relativeSpecifier c.virtualDir (c.moduleOf e) = some w.importPath := by
  obtain ⟨w', hw', hwrap⟩ :=
    WrapRules.exists_isWrapperOf_of_getElem? (WrapRules.wrappers_eq_ok_iff.1 hws).1 he
  obtain rfl : w = w' := Option.some.inj (hw.symm.trans hw')
  exact (resolve?_samePackage hmode e w.name).symm.trans hwrap.importPath

/-- **Two wrappers have one import path just when their sources, without extension, are one
place.** -/
theorem Accepted.importPath_eq_iff (h : c.Accepted) (hmode : c.mode = .samePackage sourcePath)
    (hws : c.wrapRules.wrappers m = .ok ws) (hd : m.elements[i]? = some d) (hv : ws[i]? = some v)
    (he : m.elements[j]? = some e) (hw : ws[j]? = some w) :
    v.importPath = w.importPath ↔ (c.moduleOf d).place = (c.moduleOf e).place := by
  rw [← Path.relativeSpecifier_eq_iff h.isAbsolute_virtualDir (h.isAbsolute_moduleOf d)
    (h.isAbsolute_moduleOf e), relativeSpecifier_moduleOf hmode hws hd hv,
    relativeSpecifier_moduleOf hmode hws he hw, Option.some.injEq]

/-- **Only wrappers of one import path share a group.** -/
theorem importPath_eq_of_sharesGroup (hv : ws[i]? = some v) (hw : ws[j]? = some w)
    (h : (ImportPlan.ofWrappers id ws).SharesGroup i j) : v.importPath = w.importPath := by
  obtain ⟨g, hg, ⟨k, hk, hik⟩, l, hl, hjl⟩ := h
  rw [← ImportPlan.specifier_of_local_mem hv hik hg hk,
    ← ImportPlan.specifier_of_local_mem hw hjl hg hl]

/-- **Distinct sources stay distinct modules where they have one extension**, as long as a name is
left of theirs without it: their wrappers have different import paths, and their classes are never
in one group.  In general two wrappers have one import path just when their sources are one place
without the extension. -/
theorem distinctSources_apart (h : c.Accepted) (hmode : c.mode = .samePackage sourcePath)
    (hws : c.wrapRules.wrappers m = .ok ws) (hd : m.elements[i]? = some d) (hv : ws[i]? = some v)
    (he : m.elements[j]? = some e) (hw : ws[j]? = some w) :
    (v.importPath = w.importPath ↔ (c.moduleOf d).place = (c.moduleOf e).place) ∧
    (v.importPath ≠ w.importPath → ¬(ImportPlan.ofWrappers id ws).SharesGroup i j) ∧
    (c.sourceOf d ≠ c.sourceOf e → (c.sourceOf d).extension? = (c.sourceOf e).extension? →
      (c.sourceOf d).HasModuleName → (c.sourceOf e).HasModuleName →
      v.importPath ≠ w.importPath ∧ ¬(ImportPlan.ofWrappers id ws).SharesGroup i j) := by
  have hiff := h.importPath_eq_iff hmode hws hd hv he hw
  have hshare : v.importPath ≠ w.importPath → ¬(ImportPlan.ofWrappers id ws).SharesGroup i j :=
    fun hne hshares => hne (importPath_eq_of_sharesGroup hv hw hshares)
  refine ⟨hiff, hshare, fun hsource hext hdname hename => ?_⟩
  have hne : v.importPath ≠ w.importPath := fun heq =>
    hsource <| Path.normalize_eq_of_place_stripExtension
      (Path.isAbsolute_join h.isAbsolute_root _) (Path.isAbsolute_join h.isAbsolute_root _) hext
      hdname hename (hiff.1 heq)
  exact ⟨hne, hshare hne⟩

/-- Two sources of which one is named like the other with a dot more, seen from a virtual module in
another directory. -/
theorem distinctSources_apart_dotted :
    ∃ (c : Config) (m : Manifest) (ws : List Wrapper) (d e : Element) (v w : Wrapper),
      c.Accepted ∧ c.wrapRules.wrappers m = .ok ws ∧
      (m.elements[0]? = some d ∧ ws[0]? = some v ∧ d.source = ⟨"src/ui/tab.ts"⟩) ∧
      (m.elements[1]? = some e ∧ ws[1]? = some w ∧ e.source = ⟨"src/./ui/tab.list.ts"⟩) ∧
      v.importPath ≠ w.importPath ∧ ¬(ImportPlan.ofWrappers id ws).SharesGroup 0 1 := by
  obtain ⟨glob, hc⟩ := exists_accepted
    (o := ⟨"src/**/*.ts", "acme-", .strict, ⟨"dist"⟩, ⟨"src/react/index.ts"⟩, true,
      some ⟨"src"⟩, none, none⟩)
    (show (Path.mk "/work").isAbsolute = true by decide +kernel)
    (show Path.anchor? ⟨"/work"⟩ ⟨"app"⟩ = some ⟨"/work/app"⟩ by decide +kernel)
    (by decide +kernel) (by decide +kernel)
    (show modeOf _ none = .ok (.samePackage ⟨"src"⟩) from rfl)
  have hws : WrapRules.wrappers
      ⟨"acme-", .strict, .samePackage ⟨"/work/app"⟩ ⟨"src"⟩ ⟨"src/react/index.ts"⟩⟩
      ⟨[⟨"acme-tab", "Tab", .named, ⟨"src/ui/tab.ts"⟩, [], [], [], none⟩,
        ⟨"acme-tabs", "Tabs", .named, ⟨"src/./ui/tab.list.ts"⟩, [], [], [], none⟩]⟩
      = .ok [⟨"Tab", "acme-tab", "Tab", .named, "../ui/tab", [], [], [], none⟩,
        ⟨"Tabs", "acme-tabs", "Tabs", .named, "../ui/tab.list", [], [], [], none⟩] := by
    decide +kernel
  obtain ⟨-, -, hapart⟩ := distinctSources_apart (i := 0) (j := 1) hc rfl hws rfl rfl rfl rfl
  have hsources : (Path.join ⟨"/work/app"⟩ ⟨"src/ui/tab.ts"⟩).normalize
        ≠ (Path.join ⟨"/work/app"⟩ ⟨"src/./ui/tab.list.ts"⟩).normalize ∧
      (Path.join ⟨"/work/app"⟩ ⟨"src/ui/tab.ts"⟩).normalize.extension?
        = (Path.join ⟨"/work/app"⟩ ⟨"src/./ui/tab.list.ts"⟩).normalize.extension? := by
    decide +kernel
  have hnames : (Path.join ⟨"/work/app"⟩ ⟨"src/ui/tab.ts"⟩).normalize.HasModuleName ∧
      (Path.join ⟨"/work/app"⟩ ⟨"src/./ui/tab.list.ts"⟩).normalize.HasModuleName := by
    rw [Path.HasModuleName, Path.HasModuleName]
    decide +kernel
  exact ⟨_, _, _, _, _, _, _, hc, hws, ⟨rfl, rfl, rfl⟩, ⟨rfl, rfl, rfl⟩,
    hapart hsources.1 hsources.2 hnames.1 hnames.2⟩

/-- Two sources in one directory whose names differ in the extension: both classes are imported from
one module. -/
theorem distinctSources_merged :
    ∃ (c : Config) (m : Manifest) (ws : List Wrapper) (d e : Element),
      c.Accepted ∧ c.wrapRules.wrappers m = .ok ws ∧ m.elements = [d, e] ∧
      d.source = ⟨"src/button.ts"⟩ ∧ e.source = ⟨"src/button.tsx"⟩ ∧
      ws.map (·.importPath) = ["./button", "./button"] ∧
      (ImportPlan.ofWrappers id ws).groups
        = [⟨"./button", none, [("XButton", "XButton"), ("XBadge", "XBadge")]⟩] ∧
      (ImportPlan.ofWrappers id ws).SharesGroup 0 1 := by
  obtain ⟨glob, hc⟩ := exists_accepted
    (o := ⟨"src/**/*", "x-", .strict, ⟨"dist"⟩, ⟨"src/react.ts"⟩, true, some ⟨"src"⟩, none, none⟩)
    (show (Path.mk "/work").isAbsolute = true by decide +kernel)
    (show Path.anchor? ⟨"/work"⟩ ⟨"/work"⟩ = some ⟨"/work"⟩ by decide +kernel)
    (by decide +kernel) (by decide +kernel)
    (show modeOf _ none = .ok (.samePackage ⟨"src"⟩) from rfl)
  have hws : WrapRules.wrappers
      ⟨"x-", .strict, .samePackage ⟨"/work"⟩ ⟨"src"⟩ ⟨"src/react.ts"⟩⟩
      ⟨[⟨"x-button", "XButton", .named, ⟨"src/button.ts"⟩, [], [], [], none⟩,
        ⟨"x-badge", "XBadge", .named, ⟨"src/button.tsx"⟩, [], [], [], none⟩]⟩
      = .ok [⟨"Button", "x-button", "XButton", .named, "./button", [], [], [], none⟩,
        ⟨"Badge", "x-badge", "XBadge", .named, "./button", [], [], [], none⟩] := by
    decide +kernel
  have hplan : ImportPlan.ofWrappers id
      [⟨"Button", "x-button", "XButton", .named, "./button", [], [], [], none⟩,
        ⟨"Badge", "x-badge", "XBadge", .named, "./button", [], [], [], none⟩]
      = ⟨[⟨"./button", none, [("XButton", "XButton"), ("XBadge", "XBadge")]⟩],
        [some "XButton", some "XBadge"]⟩ := by decide +kernel
  refine ⟨_, _, _, _, _, hc, hws, rfl, rfl, rfl, rfl, congrArg (·.groups) hplan, ?_⟩
  rw [hplan]
  exact ⟨_, List.mem_singleton_self _, ⟨"XButton", by decide, rfl⟩, "XBadge", by decide, rfl⟩

end Config

end ElementBindings
