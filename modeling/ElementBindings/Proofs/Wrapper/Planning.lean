import ElementBindings.Proofs.Element.Classes
import ElementBindings.Proofs.Wrapper.ClassNames

/-!
# Proofs/Wrapper/Planning — one name for each export, one export for each name

A plan writes down a group for each module that it meets and a name for each wrapper whose class is
exported (`Records`); what is written down stays (`local?_add_of_eq_some`).  As every name is bound
once, a name tells the module and the export that it stands for (`local?_group_eq_iff`).  So two
wrappers have one local name just when their classes are one export of one module
(`ofWrappers_names_exports`), and a name stands in the group of its module and in no other
(`specifier_of_local_mem`).
-/

namespace ElementBindings

/-! ## The names of one group -/

namespace ImportGroup

variable {g : ImportGroup} {w : Wrapper} {kind : ExportKind} {className l : String}

/-- The name of a class is among the names of its group. -/
theorem mem_locals_of_local? (h : g.local? kind className = some l) : l ∈ g.locals := by
  cases kind with
  | none => exact absurd h (by simp [local?])
  | named => exact List.mem_append_right _ (List.mem_map_of_mem (mem_named_of_lookup h))
  | byDefault =>
    have hdefault : g.byDefault = some l := h
    simp [locals, hdefault]

/-- **A group that binds every name once tells its exports apart by their names.** -/
theorem local?_eq_iff (hg : g.locals.Nodup) (h : g.local? kind className = some l)
    {kind' : ExportKind} {className' : String} :
    g.local? kind' className' = some l
      ↔ kind = .byDefault ∧ kind' = .byDefault ∨
        kind = .named ∧ kind' = .named ∧ className = className' := by
  rw [locals, List.nodup_append'] at hg
  obtain ⟨-, hnamed, hdisjoint⟩ := hg
  have hapart : ∀ {c : String}, g.named.lookup c = some l → g.byDefault ≠ some l := fun hc hd =>
    hdisjoint (by simp [hd]) (List.mem_map_of_mem (mem_named_of_lookup hc))
  constructor
  · intro h'
    cases kind with
    | none => exact absurd h (by simp [local?])
    | byDefault =>
      cases kind' with
      | none => exact absurd h' (by simp [local?])
      | byDefault => exact Or.inl ⟨rfl, rfl⟩
      | named => exact absurd h (hapart h')
    | named =>
      cases kind' with
      | none => exact absurd h' (by simp [local?])
      | byDefault => exact absurd h' (hapart h)
      | named =>
        have hpair := List.inj_on_of_nodup_map hnamed (mem_named_of_lookup h)
          (mem_named_of_lookup h') rfl
        exact Or.inr ⟨rfl, rfl, congrArg Prod.fst hpair⟩
  · rintro (⟨rfl, rfl⟩ | ⟨rfl, rfl, rfl⟩)
    · exact h
    · exact h

/-- A class that is bound has its name from then on… -/
theorem local?_bind_self (h : g.Lacks w) (l : String) :
    (g.bind w.className l w.exportKind).local? w.exportKind w.className = some l := by
  rcases h.cases with ⟨hkind, hnone⟩ | ⟨hkind, -⟩
  · simp [hkind, bind, local?, List.lookup_append, hnone]
  · rw [hkind]
    rfl

/-- …and every other keeps the one it has. -/
theorem local?_bind_of_eq_some (hw : g.Lacks w) (h : g.local? kind className = some l)
    (l' : String) : (g.bind w.className l' w.exportKind).local? kind className = some l := by
  rcases hw.cases with ⟨hexport, -⟩ | ⟨hexport, hnone⟩ <;> rw [hexport]
  · cases kind with
    | named =>
      have hnamed : g.named.lookup className = some l := h
      simp [bind, local?, List.lookup_append, hnamed]
    | _ => exact h
  · cases kind with
    | byDefault => exact absurd (hnone.symm.trans h) (by simp)
    | _ => exact h

/-- The name that a wrapper gets is the one that its class has in the group. -/
theorem local?_placed (used : List String) (g : ImportGroup) (w : Wrapper) :
    (g.placed used w).1.local? w.exportKind w.className = (g.placed used w).2 := by
  rw [placed]
  split
  · next hkind => rw [hkind]; rfl
  · next hsome _ => exact hsome
  · next hnone hkind => exact local?_bind_self ⟨hkind, hnone⟩ _

/-- An exported class gets a name. -/
theorem isSome_placed_iff (used : List String) (g : ImportGroup) (w : Wrapper) :
    (g.placed used w).2.isSome = true ↔ w.exportKind ≠ .none := by
  rw [placed]
  split
  · next hkind => simp [hkind]
  · next hkind => simpa using hkind
  · next hnone hkind => simpa using hkind

end ImportGroup

/-! ## Plans -/

namespace ImportPlan

variable {p : ImportPlan} {reserved : List String} {s t : String} {w : Wrapper}
  {kind : ExportKind} {className l : String}

/-- A group that binds a name is one of the groups of its plan. -/
theorem group_mem_of_mem_locals (h : l ∈ (p.group s).locals) : p.group s ∈ p.groups := by
  rw [group] at h ⊢
  cases hfind : p.groups.find? (·.specifier == s) with
  | some g => exact List.mem_of_find?_eq_some hfind
  | none =>
    rw [hfind] at h
    exact absurd h (by simp [ImportGroup.empty, ImportGroup.locals])

/-- **Names that are bound once stand in one group.** -/
theorem eq_of_mem_locals (h : p.classLocals.Nodup) {g k : ImportGroup} (hg : g ∈ p.groups)
    (hk : k ∈ p.groups) (hlg : l ∈ g.locals) (hlk : l ∈ k.locals) : g = k := by
  by_contra hne
  have : Std.Symm (Function.onFun List.Disjoint ImportGroup.locals) :=
    ⟨fun _ _ h _ hl hl' => h hl' hl⟩
  exact (List.nodup_flatMap.1 h).2.forall hg hk hne hlg hlk

/-- A class that is bound keeps its name in every step of planning… -/
theorem local?_add_of_eq_some (hp : p.DistinctModules)
    (h : (p.group t).local? kind className = some l) :
    ((p.add reserved s w).group t).local? kind className = some l := by
  by_cases hw : (p.group s).Lacks w
  · obtain ⟨hself, hother, -⟩ := add_of_lacks reserved hp hw
    rcases eq_or_ne t s with rfl | ht
    · rw [hself]
      exact ImportGroup.local?_bind_of_eq_some hw h _
    · rwa [hother t ht]
  · rwa [(add_of_not_lacks reserved hp hw).1]

/-- …and the step for a wrapper writes down the name of its class. -/
theorem locals_add (hp : p.DistinctModules) :
    (p.add reserved s w).locals
        = p.locals ++ [((p.add reserved s w).group s).local? w.exportKind w.className] ∧
      ((((p.add reserved s w).group s).local? w.exportKind w.className).isSome = true
        ↔ w.exportKind ≠ .none) := by
  have hgroup : (p.add reserved s w).group s
      = ((p.group s).placed (reserved ++ p.classLocals) w).1 := by
    rw [add_eq_put_placed]
    exact group_put_self hp ((ImportGroup.specifier_placed _ _ _).trans (specifier_group p _)) _
  rw [hgroup, ImportGroup.local?_placed, add_eq_put_placed]
  exact ⟨rfl, ImportGroup.isSome_placed_iff _ _ _⟩

/-- **What a plan has written down behind some wrappers**: a group for each of their modules, in the
order of first use, and for each wrapper the name of its class there. -/
structure Records (moduleOf : Wrapper → String) (ws : List Wrapper) (p : ImportPlan) : Prop where
  specifiers : p.groups.map (·.specifier) = (ws.map moduleOf).eraseDups
  locals : p.locals = ws.map fun w => (p.group (moduleOf w)).local? w.exportKind w.className
  exported : ∀ w ∈ ws, ((p.group (moduleOf w)).local? w.exportKind w.className).isSome = true
    ↔ w.exportKind ≠ .none

namespace Records

variable {moduleOf : Wrapper → String} {ws : List Wrapper}

theorem empty : Records moduleOf [] empty := ⟨rfl, rfl, by simp⟩

/-- The names written down stay as they are. -/
theorem local?_add (h : Records moduleOf ws p) (hp : p.DistinctModules) {v : Wrapper} (hv : v ∈ ws) :
    ((p.add reserved s w).group (moduleOf v)).local? v.exportKind v.className
      = (p.group (moduleOf v)).local? v.exportKind v.className := by
  cases hl : (p.group (moduleOf v)).local? v.exportKind v.className with
  | some l => exact local?_add_of_eq_some hp hl
  | none =>
    have hkind : v.exportKind = .none := by
      by_contra hkind
      have hsome := (h.exported v hv).2 hkind
      rw [hl] at hsome
      exact absurd hsome (by simp)
    rw [hkind]
    rfl

theorem add (h : Records moduleOf ws p) (hp : p.DistinctModules) (w : Wrapper) :
    Records moduleOf (ws ++ [w]) (p.add reserved (moduleOf w) w) where
  specifiers := by
    rw [add_eq_put_placed, map_specifier_put, ImportGroup.specifier_placed, specifier_group,
      h.specifiers, List.map_append, List.map_singleton, List.eraseDups_concat]
    simp only [List.mem_eraseDups]
  locals := by
    rw [(locals_add hp).1, List.map_append, List.map_singleton, h.locals]
    exact congrArg (· ++ _) (List.map_congr_left fun v hv => (h.local?_add hp hv).symm)
  exported v hv := by
    rcases List.mem_append.1 hv with hv | hv
    · rw [h.local?_add hp hv]
      exact h.exported v hv
    · obtain rfl := List.mem_singleton.1 hv
      exact (locals_add hp).2

/-- The name that is written down for the wrapper at a place. -/
theorem local?_eq (h : Records moduleOf ws p) {i : ℕ} (hw : ws[i]? = some w) :
    p.local? i = (p.group (moduleOf w)).local? w.exportKind w.className := by
  rw [local?, h.locals, List.getElem?_map, hw, Option.map_some, Option.join_some]

end Records

theorem fresh_records_ofWrappers (f : String → String) (ws : List Wrapper) :
    (ofWrappers f ws).Fresh (ws.map (·.name) ++ moduleBindings) ∧
      Records (fun w => f w.importPath) ws (ofWrappers f ws) :=
  fresh_holds_ofWrappers f ws .empty fun _ _ w hp h => h.add hp w

/-- **A name tells the module and the export that it stands for.** -/
theorem local?_group_eq_iff (hp : p.classLocals.Nodup)
    (h : (p.group s).local? kind className = some l) {kind' : ExportKind} {className' : String} :
    (p.group t).local? kind' className' = some l
      ↔ s = t ∧ (kind = .byDefault ∧ kind' = .byDefault ∨
        kind = .named ∧ kind' = .named ∧ className = className') := by
  have hl := ImportGroup.mem_locals_of_local? h
  have hgroup := group_mem_of_mem_locals hl
  have hexport : (p.group s).local? kind' className' = some l ↔ _ :=
    ImportGroup.local?_eq_iff ((List.nodup_flatMap.1 hp).1 _ hgroup) h
  rw [← hexport]
  constructor
  · intro h'
    have hl' := ImportGroup.mem_locals_of_local? h'
    have hsame : p.group s = p.group t :=
      eq_of_mem_locals hp hgroup (group_mem_of_mem_locals hl') hl hl'
    refine ⟨?_, hsame ▸ h'⟩
    rw [← specifier_group p s, hsame, specifier_group]
  · rintro ⟨rfl, h'⟩
    exact h'

/-- **A plan names exports soundly**, whatever the wrappers are and however their modules are
written.  The search for a name ends, at the first alias that is in use nowhere.  Every module has
one group, in the order of first use; a wrapper has a local name just when its class is exported, and
two have the same one just when their classes are one export of one module; every name is bound once,
to the class that it stands for; and none is the name of a component or of a helper. -/
theorem ofWrappers_names_exports (specifier : String → String) (ws : List Wrapper) :
    let p := ofWrappers specifier ws
    let moduleOf := fun w : Wrapper => specifier w.importPath
    (∀ (used : List String) (className : String),
      ∃ k, Text.firstFree used (classAlias className) = classAlias className k ∧
        classAlias className k ∉ used ∧ ∀ j < k, classAlias className j ∈ used) ∧
    ((p.groups.map (·.specifier)).Nodup ∧
      p.groups.map (·.specifier) = (ws.map moduleOf).eraseDups ∧
      ∀ w ∈ ws, ∃ g ∈ p.groups, g.specifier = moduleOf w) ∧
    (p.locals.length = ws.length ∧
      ∀ i w, ws[i]? = some w → ((p.local? i).isSome = true ↔ w.exportKind ≠ .none)) ∧
    (∀ i j v w, ws[i]? = some v → ws[j]? = some w → v.exportKind ≠ .none →
      (p.local? i = p.local? j ↔ moduleOf v = moduleOf w ∧
        (v.exportKind = .byDefault ∧ w.exportKind = .byDefault ∨
          v.exportKind = .named ∧ w.exportKind = .named ∧ v.className = w.className))) ∧
    ((p.groups.flatMap (·.locals)).Nodup ∧
      ∀ i w l, ws[i]? = some w → p.local? i = some l → ∃ g ∈ p.groups,
        g.specifier = moduleOf w ∧ g.local? w.exportKind w.className = some l ∧ l ∈ g.locals) ∧
    ∀ l ∈ p.groups.flatMap (·.locals), l ∉ ws.map (·.name) ∧ l ∉ moduleBindings := by
  intro p moduleOf
  obtain ⟨hfresh, hrecords⟩ : p.Fresh (ws.map (·.name) ++ moduleBindings) ∧ Records moduleOf ws p :=
    fresh_records_ofWrappers specifier ws
  refine ⟨fun used className => Text.exists_firstFree_eq (classAlias_injective className) used,
    ⟨hfresh.modules, hrecords.specifiers, fun w hw => ?_⟩, ⟨?_, fun i w hw => ?_⟩,
    fun i j v w hv hw hkind => ?_, ⟨hfresh.nodup, fun i w l hw hl => ?_⟩, fun l hl => ?_⟩
  · have hmem : moduleOf w ∈ p.groups.map (·.specifier) := by
      rw [hrecords.specifiers, List.mem_eraseDups]
      exact List.mem_map_of_mem hw
    exact List.mem_map.1 hmem
  · rw [hrecords.locals, List.length_map]
  · rw [hrecords.local?_eq hw]
    exact hrecords.exported w (List.mem_of_getElem? hw)
  · obtain ⟨l, hl⟩ := Option.isSome_iff_exists.1
      ((hrecords.exported v (List.mem_of_getElem? hv)).2 hkind)
    rw [hrecords.local?_eq hv, hrecords.local?_eq hw, hl, eq_comm,
      local?_group_eq_iff hfresh.nodup hl]
  · rw [hrecords.local?_eq hw] at hl
    have hmem := ImportGroup.mem_locals_of_local? hl
    exact ⟨_, group_mem_of_mem_locals hmem, specifier_group p _, hl, hmem⟩
  · rw [← not_or, ← List.mem_append]
    exact hfresh.free l hl

/-! ## The groups of wrappers -/

variable {ws : List Wrapper}

/-- **A wrapper has its class in the group of its module.** -/
theorem local_mem {i : ℕ} (hw : ws[i]? = some w) (hl : (ofWrappers id ws).local? i = some l) :
    l ∈ ((ofWrappers id ws).group w.importPath).locals := by
  rw [(fresh_records_ofWrappers id ws).2.local?_eq hw] at hl
  exact ImportGroup.mem_locals_of_local? hl

/-- **A local name stands in the group of the module that its class comes from**, and in no
other. -/
theorem specifier_of_local_mem {i : ℕ} {g : ImportGroup} (hw : ws[i]? = some w)
    (hl : (ofWrappers id ws).local? i = some l) (hg : g ∈ (ofWrappers id ws).groups)
    (hmem : l ∈ g.locals) : g.specifier = w.importPath := by
  have hnodup := (fresh_records_ofWrappers id ws).1.nodup
  have hown := local_mem hw hl
  rw [eq_of_mem_locals hnodup hg (group_mem_of_mem_locals hown) hmem hown, specifier_group]

end ImportPlan

end ElementBindings
