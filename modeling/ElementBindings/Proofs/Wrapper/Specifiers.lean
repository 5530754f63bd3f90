import ElementBindings.Wrapper.Imports
import Mathlib.Data.List.Find
import Mathlib.Data.Set.Function

/-!
# Proofs/Wrapper/Specifiers — a plan does not depend on how modules are written

Writing the specifiers of a plan anew commutes with every step of planning, as long as no two
modules are written alike: `ofWrappers_eq_respecify`.  Each operation on groups and plans has its
lemma, from the lookup in one group up to the whole list of wrappers.
-/

namespace ElementBindings

variable (f : String → String)

/-! ## Groups -/

namespace ImportGroup

/-- A group whose module is written anew. -/
def respecify (g : ImportGroup) : ImportGroup := { g with specifier := f g.specifier }

@[simp] theorem specifier_respecify (g : ImportGroup) :
    (g.respecify f).specifier = f g.specifier := rfl

@[simp] theorem local?_respecify (g : ImportGroup) (kind : ExportKind) (className : String) :
    (g.respecify f).local? kind className = g.local? kind className := by cases kind <;> rfl

theorem bind_respecify (g : ImportGroup) (className localName : String) (kind : ExportKind) :
    (g.respecify f).bind className localName kind = (g.bind className localName kind).respecify f :=
  by cases kind <;> rfl

theorem specifier_bind (g : ImportGroup) (className localName : String) (kind : ExportKind) :
    (g.bind className localName kind).specifier = g.specifier := by cases kind <;> rfl

/-- What a wrapper adds to the group of its module, and the local name it gets: the name its class
has there already, or else a free one. -/
def placed (used : List String) (g : ImportGroup) (w : Wrapper) : ImportGroup × Option String :=
  match w.exportKind, g.local? w.exportKind w.className with
  | .none, _ => (g, none)
  | _, some localName => (g, some localName)
  | kind, none =>
    let localName := Text.firstFree used (classAlias w.className)
    (g.bind w.className localName kind, some localName)

theorem placed_respecify (used : List String) (g : ImportGroup) (w : Wrapper) :
    (g.respecify f).placed used w = ((g.placed used w).1.respecify f, (g.placed used w).2) := by
  simp only [placed, local?_respecify]
  split
  · rfl
  · rfl
  · rw [bind_respecify]

theorem specifier_placed (used : List String) (g : ImportGroup) (w : Wrapper) :
    (g.placed used w).1.specifier = g.specifier := by
  rw [placed]
  split
  · rfl
  · rfl
  · exact specifier_bind g _ _ _

end ImportGroup

/-! ## Plans -/

namespace ImportPlan

/-- A plan whose modules are written anew. -/
def respecify (p : ImportPlan) : ImportPlan := ⟨p.groups.map (·.respecify f), p.locals⟩

/-- **One step of planning**: the group of the module takes the wrapper in and is put back. -/
theorem add_eq_put_placed (reserved : List String) (p : ImportPlan) (s : String) (w : Wrapper) :
    p.add reserved s w
      = let placed := (p.group s).placed (reserved ++ p.groups.flatMap (·.locals)) w
        ⟨p.put placed.1, p.locals ++ [placed.2]⟩ := by
  simp only [add, ImportGroup.placed]
  cases w.exportKind with
  | none => rfl
  | named => cases (p.group s).local? .named w.className <;> rfl
  | byDefault => cases (p.group s).local? .byDefault w.className <;> rfl

theorem specifier_group (p : ImportPlan) (s : String) : (p.group s).specifier = s := by
  rw [group]
  cases h : p.groups.find? (·.specifier == s) with
  | none => rfl
  | some g =>
    have hg := List.find?_some h
    exact beq_iff_eq.1 hg

/-- The modules of a plan after one more wrapper. -/
theorem specifier_of_mem_put {p : ImportPlan} {g h : ImportGroup} (hh : h ∈ p.put g) :
    h.specifier = g.specifier ∨ h ∈ p.groups := by
  rw [put] at hh
  split at hh
  · obtain ⟨k, hk, rfl⟩ := List.mem_map.1 hh
    split
    · exact Or.inl rfl
    · exact Or.inr hk
  · rcases List.mem_append.1 hh with hh | hh
    · exact Or.inr hh
    · exact Or.inl (congrArg _ (List.mem_singleton.1 hh))

/-- The modules of a plan. -/
def Within (modules : Set String) (p : ImportPlan) : Prop := ∀ g ∈ p.groups, g.specifier ∈ modules

variable {f} {modules : Set String}

theorem Within.add {p : ImportPlan} (hp : p.Within modules) (reserved : List String) {s : String}
    (hs : s ∈ modules) (w : Wrapper) : (p.add reserved s w).Within modules := by
  intro h hh
  rw [add_eq_put_placed] at hh
  rcases specifier_of_mem_put hh with hspec | hh
  · rw [hspec, ImportGroup.specifier_placed, specifier_group]
    exact hs
  · exact hp h hh

/-- Modules that are written apart are told apart by what is written. -/
theorem beq_specifier_respecify (hf : Set.InjOn f modules) {g : ImportGroup} {s : String}
    (hg : g.specifier ∈ modules) (hs : s ∈ modules) :
    ((g.respecify f).specifier == f s) = (g.specifier == s) := by
  rw [ImportGroup.specifier_respecify, Bool.eq_iff_iff, beq_iff_eq, beq_iff_eq]
  exact hf.eq_iff hg hs

theorem group_respecify (hf : Set.InjOn f modules) {p : ImportPlan} (hp : p.Within modules)
    {s : String} (hs : s ∈ modules) :
    (p.respecify f).group (f s) = (p.group s).respecify f := by
  have hfind : (p.respecify f).groups.find? (·.specifier == f s)
      = (p.groups.find? (·.specifier == s)).map (·.respecify f) :=
    List.find?_map.trans <| congrArg (Option.map _) <|
      List.find?_congr fun g hg => beq_specifier_respecify hf (hp g hg) hs
  rw [group, group, hfind]
  cases p.groups.find? (·.specifier == s) <;> rfl

theorem put_respecify (hf : Set.InjOn f modules) {p : ImportPlan} (hp : p.Within modules)
    {g : ImportGroup} (hg : g.specifier ∈ modules) :
    (p.respecify f).put (g.respecify f) = (p.put g).map (·.respecify f) := by
  have hsame : ∀ h ∈ p.groups,
      ((h.respecify f).specifier == (g.respecify f).specifier) = (h.specifier == g.specifier) :=
    fun h hh => beq_specifier_respecify hf (hp h hh) hg
  have hany : (p.respecify f).groups.any (·.specifier == (g.respecify f).specifier)
      = p.groups.any (·.specifier == g.specifier) := by
    refine List.any_map.trans ?_
    rw [Bool.eq_iff_iff, List.any_eq_true, List.any_eq_true]
    exact exists_congr fun h => and_congr_right fun hh => by rw [Function.comp_apply, hsame h hh]
  rw [put, put, hany]
  split
  · rw [respecify, List.map_map, List.map_map]
    refine List.map_congr_left fun h hh => ?_
    rw [Function.comp_apply, Function.comp_apply, hsame h hh]
    split <;> rfl
  · rw [List.map_append]
    rfl

/-- **A step of planning does not depend on how modules are written.** -/
theorem add_respecify (hf : Set.InjOn f modules) {p : ImportPlan} (hp : p.Within modules)
    (reserved : List String) {s : String} (hs : s ∈ modules) (w : Wrapper) :
    (p.respecify f).add reserved (f s) w = (p.add reserved s w).respecify f := by
  have hlocals : (p.respecify f).groups.flatMap (·.locals) = p.groups.flatMap (·.locals) := by
    rw [respecify, List.flatMap_map]
    rfl
  rw [add_eq_put_placed, add_eq_put_placed, group_respecify hf hp hs, hlocals]
  simp only [ImportGroup.placed_respecify]
  rw [put_respecify hf hp (by rw [ImportGroup.specifier_placed, specifier_group]; exact hs)]
  rfl

theorem foldl_add_respecify (hf : Set.InjOn f modules) (reserved : List String) :
    ∀ (ws : List Wrapper) (p : ImportPlan), (∀ w ∈ ws, w.importPath ∈ modules) → p.Within modules →
      ws.foldl (fun p w => p.add reserved (f w.importPath) w) (p.respecify f)
        = (ws.foldl (fun p w => p.add reserved w.importPath w) p).respecify f := by
  intro ws
  induction ws with
  | nil => exact fun _ _ _ => rfl
  | cons w ws ih =>
    intro p hws hp
    have hw := hws w List.mem_cons_self
    rw [List.foldl_cons, List.foldl_cons, add_respecify hf hp reserved hw]
    exact ih _ (fun v hv => hws v (List.mem_cons_of_mem w hv)) (hp.add reserved hw w)

/-- **…nor does the plan of a list of wrappers.** -/
theorem ofWrappers_eq_respecify {ws : List Wrapper}
    (hf : Set.InjOn f {s | ∃ w ∈ ws, w.importPath = s}) :
    ofWrappers f ws = (ofWrappers id ws).respecify f :=
  foldl_add_respecify hf _ ws empty (fun w hw => ⟨w, hw, rfl⟩) fun g hg =>
    absurd hg (by simp [empty])

end ImportPlan

end ElementBindings
