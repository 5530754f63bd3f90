import ElementBindings.Proofs.Config.Template
import ElementBindings.Proofs.Wrapper.ClassNames
import ElementBindings.Proofs.Wrapper.Derivation
import ElementBindings.Wrapper.Module

/-!
# Proofs/Wrapper/ModuleNames — what a wrapper module declares

The names of a wrapper module come from tags, from classes and from fixed text.  Planning keeps the
local names of classes apart from the components and the helpers, and that settles all clashes but
three: a component may be called `React` (`moduleValues_nodup_iff`), a class may be called like the
props type of a component (`moduleTypes_nodup_iff`), and both may be called like a global that the
helpers use (`helperGlobals_free_iff`).
-/

namespace ElementBindings

/-! ## Names at module level -/

/-- The names that a wrapper module binds as values: the fixed ones, those of the imported classes
and those of the components. -/
def moduleValues (ws : List Wrapper) : List String :=
  moduleBindings ++ (ImportPlan.ofWrappers id ws).classLocals ++ ws.map (·.name)

/-- The names that a wrapper module binds as types: those of the imported classes and of the props
of the components. -/
def moduleTypes (ws : List Wrapper) : List String :=
  (ImportPlan.ofWrappers id ws).classLocals ++ ws.map (·.propsType)

/-- The globals that the helpers of a wrapper module use as values. -/
def helperGlobals : List String := ["WeakMap", "Set", "String", "customElements"]

/-! ## Components -/

variable {r : WrapRules} {m : Manifest} {ws : List Wrapper} {w : Wrapper}

/-- **Of the fixed names only `React` can be the name of a component**, and of the globals those
that begin with a capital letter. -/
theorem mem_moduleBindings_iff {name : String} (h : Text.isComponentName name = true) :
    name ∈ moduleBindings ↔ name = "React" := by
  have hreact : ∀ b ∈ moduleBindings, Text.isComponentName b = true → b = "React" := by decide
  exact ⟨fun hb => hreact name hb h, fun hb => hb ▸ List.mem_cons_self⟩

theorem mem_helperGlobals_iff {name : String} (h : Text.isComponentName name = true) :
    name ∈ helperGlobals ↔ name ∈ ["WeakMap", "Set", "String"] := by
  have hglobal : ∀ g ∈ helperGlobals,
      Text.isComponentName g = true → g ∈ ["WeakMap", "Set", "String"] := by decide
  exact ⟨fun hg => hglobal name hg h, fun hg => List.mem_append_left ["customElements"] hg⟩

/-- What the name of a props type ends in. -/
theorem propsSuffix_propsType (w : Wrapper) :
    "Props".toList <:+ w.propsType.toList ∧ w.propsType.toList.getLast? = some 's' := by
  have hword : "Props".toList = ['P', 'r', 'o', 'p'] ++ ['s'] := rfl
  rw [Wrapper.propsType, String.toList_append]
  refine ⟨List.suffix_append _ _, ?_⟩
  rw [hword, ← List.append_assoc, List.getLast?_concat]

theorem propsType_notMem_moduleBindings (w : Wrapper) : w.propsType ∉ moduleBindings := by
  have hfixed : ∀ b ∈ moduleBindings, ¬ "Props".toList <:+ b.toList := by decide
  exact fun hb => hfixed _ hb (propsSuffix_propsType w).1

theorem aliasLike_propsType (w : Wrapper) : aliasLike w.propsType = false := by
  rw [aliasLike, (propsSuffix_propsType w).2]
  exact Bool.and_false _

theorem isComponentName_of_mem (h : r.wrappers m = .ok ws) (hw : w ∈ ws) :
    Text.isComponentName w.name = true := by
  obtain ⟨e, -, he⟩ := WrapRules.exists_isWrapperOf_of_mem (WrapRules.wrappers_eq_ok_iff.1 h).1 hw
  exact he.wellFormed.1

/-! ## Clashes within the module -/

/-- **Values clash only where a component is called `React`.** -/
theorem moduleValues_nodup_iff (h : r.wrappers m = .ok ws) :
    (moduleValues ws).Nodup ↔ ∀ w ∈ ws, w.name ≠ "React" := by
  have hfresh := (ImportPlan.fresh_namesFor_ofWrappers ws).1
  have hnames : (ws.map (·.name)).Nodup := (WrapRules.wrappers_eq_ok_iff.1 h).2
  rw [moduleValues, List.append_assoc, List.nodup_append', List.nodup_append']
  constructor
  · rintro ⟨-, -, hdisjoint⟩ w hw hreact
    refine hdisjoint ?_ (List.mem_append_right _ (List.mem_map_of_mem hw))
    exact (mem_moduleBindings_iff (isComponentName_of_mem h hw)).2 hreact
  · intro hreact
    refine ⟨by decide, ⟨hfresh.nodup, hnames, fun l hl hname => ?_⟩, fun b hb hb' => ?_⟩
    · exact hfresh.free l hl (List.mem_append_left _ hname)
    · rcases List.mem_append.1 hb' with hl | hname
      · exact hfresh.free b hl (List.mem_append_right _ hb)
      · obtain ⟨w, hw, rfl⟩ := List.mem_map.1 hname
        exact hreact w hw ((mem_moduleBindings_iff (isComponentName_of_mem h hw)).1 hb)

/-- A class is bound to the name of a props type where it is called so, unless a component is. -/
theorem propsType_mem_classLocals_iff :
    w.propsType ∈ (ImportPlan.ofWrappers id ws).classLocals
      ↔ w.propsType ∈ importedClasses ws ∧ ∀ v ∈ ws, v.name ≠ w.propsType := by
  rw [ImportPlan.mem_classLocals_iff (aliasLike_propsType w), List.mem_append,
    or_iff_left (propsType_notMem_moduleBindings w), List.mem_map, not_exists]
  simp only [not_and, ne_eq]

/-- **Types clash only where a class is called like the props type of a component**, and no
component is. -/
theorem moduleTypes_nodup_iff (h : r.wrappers m = .ok ws) :
    (moduleTypes ws).Nodup
      ↔ ∀ w ∈ ws, w.propsType ∈ importedClasses ws → ∃ v ∈ ws, v.name = w.propsType := by
  have hprops : (ws.map (·.propsType)).Nodup := by
    have hsuffix : Function.Injective (· ++ "Props") := fun _ _ =>
      (String.append_left_inj "Props").1
    have hnodup := (WrapRules.wrappers_eq_ok_iff.1 h).2.map hsuffix
    rwa [List.map_map] at hnodup
  have hbound : ∀ w : Wrapper, (w.propsType ∈ importedClasses ws → ∃ v ∈ ws, v.name = w.propsType)
      ↔ w.propsType ∉ (ImportPlan.ofWrappers id ws).classLocals := fun w => by
    rw [propsType_mem_classLocals_iff, not_and]
    simp only [ne_eq, not_forall, not_not, exists_prop]
  have hclasses := (ImportPlan.fresh_namesFor_ofWrappers ws).1.nodup
  rw [moduleTypes, List.nodup_append', and_iff_right hclasses, and_iff_right hprops]
  simp only [hbound]
  exact ⟨fun hdisjoint w hw hl => hdisjoint hl (List.mem_map_of_mem hw), fun hfree l hl hl' => by
    obtain ⟨w, hw, rfl⟩ := List.mem_map.1 hl'
    exact hfree w hw hl⟩

/-- **The names of a wrapper module clash in these two cases only.** -/
theorem moduleNames_nodup_iff (h : r.wrappers m = .ok ws) :
    ((moduleValues ws).Nodup ↔ ∀ w ∈ ws, w.name ≠ "React") ∧
      ((moduleTypes ws).Nodup
        ↔ ∀ w ∈ ws, w.propsType ∈ importedClasses ws → ∃ v ∈ ws, v.name = w.propsType) :=
  ⟨moduleValues_nodup_iff h, moduleTypes_nodup_iff h⟩

/-- A class that is called like a props type and like a component: it is bound to another name. -/
theorem moduleNames_nodup_buttonProps :
    ∃ (r : WrapRules) (m : Manifest) (ws : List Wrapper), r.wrappers m = .ok ws ∧
      "ButtonProps" ∈ importedClasses ws ∧ (moduleValues ws).Nodup ∧ (moduleTypes ws).Nodup := by
  have hws : WrapRules.wrappers ⟨"x-", .strict, .published some⟩
      ⟨[⟨"x-button", "ButtonProps", .named, ⟨"button.ts"⟩, [], [], [], none⟩,
        ⟨"x-button-props", "Panel", .byDefault, ⟨"panel.ts"⟩, [], [], [], none⟩]⟩
      = .ok [⟨"Button", "x-button", "ButtonProps", .named, "Button", [], [], [], none⟩,
        ⟨"ButtonProps", "x-button-props", "Panel", .byDefault, "ButtonProps", [], [], [], none⟩]
      := by decide
  obtain ⟨hvalues, htypes⟩ := moduleNames_nodup_iff hws
  exact ⟨_, _, _, hws, by decide, hvalues.2 (by decide), htypes.2 (by decide)⟩

/-- Two elements whose tags differ: the component of one is called like the namespace of React, and
the class of the other like the props type of its component. -/
theorem moduleNames_not_nodup :
    ∃ (r : WrapRules) (m : Manifest) (ws : List Wrapper),
      (m.elements.map (·.tagName)).Nodup ∧ r.wrappers m = .ok ws ∧
      ¬ (moduleValues ws).Nodup ∧ ¬ (moduleTypes ws).Nodup := by
  have hws : WrapRules.wrappers ⟨"x-", .strict, .published some⟩
      ⟨[⟨"x-react", "XReact", .named, ⟨"react.ts"⟩, [], [], [], none⟩,
        ⟨"x-button", "ButtonProps", .named, ⟨"button.ts"⟩, [], [], [], none⟩]⟩
      = .ok [⟨"React", "x-react", "XReact", .named, "React", [], [], [], none⟩,
        ⟨"Button", "x-button", "ButtonProps", .named, "Button", [], [], [], none⟩] := by
    decide
  exact ⟨_, _, _, by decide, hws, by decide, by decide +kernel⟩

/-! ## Clashes with the globals -/

theorem helperGlobal_mem_classLocals_iff {g : String} (hg : g ∈ helperGlobals) :
    g ∈ (ImportPlan.ofWrappers id ws).classLocals
      ↔ g ∈ importedClasses ws ∧ g ∉ ws.map (·.name) := by
  have halias : ∀ g ∈ helperGlobals, aliasLike g = false ∧ g ∉ moduleBindings := by decide
  rw [ImportPlan.mem_classLocals_iff (halias g hg).1, List.mem_append, or_iff_left (halias g hg).2]

/-- **The helpers keep their globals just when no component and no imported class is called like
one**; no alias ever is. -/
theorem helperGlobals_free_iff (h : r.wrappers m = .ok ws) :
    (∀ g ∈ helperGlobals, g ∉ (ImportPlan.ofWrappers id ws).classLocals ++ ws.map (·.name))
      ↔ (∀ w ∈ ws, w.name ∉ ["WeakMap", "Set", "String"]) ∧
        ∀ c ∈ importedClasses ws, c ∉ helperGlobals := by
  constructor
  · refine fun hfree => ⟨fun w hw hglobal => ?_, fun c hc hglobal => ?_⟩
    · refine hfree w.name ?_ (List.mem_append_right _ (List.mem_map_of_mem hw))
      exact (mem_helperGlobals_iff (isComponentName_of_mem h hw)).2 hglobal
    · have hnone := hfree c hglobal
      rw [List.mem_append, not_or, helperGlobal_mem_classLocals_iff hglobal] at hnone
      exact hnone.1 ⟨hc, hnone.2⟩
  · rintro ⟨hnames, hclasses⟩ g hglobal hbound
    rcases List.mem_append.1 hbound with hl | hname
    · exact hclasses g ((helperGlobal_mem_classLocals_iff hglobal).1 hl).1 hglobal
    · obtain ⟨w, hw, rfl⟩ := List.mem_map.1 hname
      exact hnames w hw ((mem_helperGlobals_iff (isComponentName_of_mem h hw)).1 hglobal)

/-- A class `Map` is imported under its own name, and the helpers do without it. -/
theorem helperGlobals_free_map :
    ∃ (r : WrapRules) (m : Manifest) (ws : List Wrapper), r.wrappers m = .ok ws ∧
      "Map" ∈ importedClasses ws ∧ ∀ g ∈ helperGlobals,
        g ∉ (ImportPlan.ofWrappers id ws).classLocals ++ ws.map (·.name) := by
  have hws : WrapRules.wrappers ⟨"x-", .strict, .published some⟩
      ⟨[⟨"x-atlas", "Map", .named, ⟨"atlas.ts"⟩, [], [], [], none⟩]⟩
      = .ok [⟨"Atlas", "x-atlas", "Map", .named, "Atlas", [], [], [], none⟩] := by
    decide
  exact ⟨_, _, _, hws, by decide, (helperGlobals_free_iff hws).2 ⟨by decide, by decide⟩⟩

/-- A component called `Set` and a class called `String`: the helpers make their sets and texts with
these. -/
theorem helperGlobals_captured :
    ∃ (r : WrapRules) (m : Manifest) (ws : List Wrapper), r.wrappers m = .ok ws ∧
      "Set" ∈ ws.map (·.name) ∧ "String" ∈ (ImportPlan.ofWrappers id ws).classLocals := by
  have hws : WrapRules.wrappers ⟨"x-", .strict, .published some⟩
      ⟨[⟨"x-set", "XSet", .named, ⟨"set.ts"⟩, [], [], [], none⟩,
        ⟨"x-text", "String", .named, ⟨"text.ts"⟩, [], [], [], none⟩]⟩
      = .ok [⟨"Set", "x-set", "XSet", .named, "Set", [], [], [], none⟩,
        ⟨"Text", "x-text", "String", .named, "Text", [], [], [], none⟩] := by
    decide
  exact ⟨_, _, _, hws, by decide, by decide⟩

end ElementBindings
