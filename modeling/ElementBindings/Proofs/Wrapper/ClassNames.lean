import ElementBindings.Proofs.List
import ElementBindings.Proofs.Wrapper.Specifiers
import Mathlib

/-!
# Proofs/Wrapper/ClassNames — the local names of imported classes

A class is bound to the first of its aliases that is in use nowhere (`exists_firstFree_eq`), and no
two aliases of a class agree (`classAlias_injective`).  One step of planning binds at most one name
(`add_of_lacks`, `add_of_not_lacks`).  So the names of a wrapper module's classes differ from each
other and from those that are reserved (`Fresh`), and they are aliases of the imported classes whose
own names are taken (`NamesFor`).
-/

namespace ElementBindings

/-! ## Free names -/

namespace Text

variable {candidate : ℕ → String}

/-- **The first free candidate is in use nowhere, and every one before it is** — when no two agree,
one candidate more than there are names in use cannot all be in use. -/
theorem exists_firstFree_eq (hinj : Function.Injective candidate) (used : List String) :
    ∃ k, firstFree used candidate = candidate k ∧ candidate k ∉ used ∧
      ∀ j < k, candidate j ∈ used := by
  rw [firstFree]
  cases h : ((List.range (used.length + 1)).map candidate).find? (!used.contains ·) with
  | some name =>
    obtain ⟨hfree, k, hk, rfl, hbefore⟩ := List.find?_eq_some_iff_getElem.1 h
    rw [List.length_map, List.length_range] at hk
    simp only [List.getElem_map, List.getElem_range] at hfree hbefore ⊢
    exact ⟨k, rfl, by simpa using hfree, fun j hj => by simpa using hbefore j hj⟩
  | none =>
    have hsub : (List.range (used.length + 1)).map candidate ⊆ used := fun name hname => by
      simpa using List.find?_eq_none.1 h name hname
    have hle := (List.nodup_range.map hinj).length_le_of_subset hsub
    rw [List.length_map, List.length_range] at hle
    omega

theorem firstFree_notMem (hinj : Function.Injective candidate) (used : List String) :
    firstFree used candidate ∉ used := by
  obtain ⟨k, hk, hfree, -⟩ := exists_firstFree_eq hinj used
  rwa [hk]

/-- The first candidate is passed over only where it is in use. -/
theorem eq_firstFree_or_mem (hinj : Function.Injective candidate) (used : List String) :
    candidate 0 = firstFree used candidate ∨ candidate 0 ∈ used := by
  obtain ⟨k, hk, -, hbefore⟩ := exists_firstFree_eq hinj used
  rcases Nat.eq_zero_or_pos k with rfl | hpos
  · exact Or.inl hk.symm
  · exact Or.inr (hbefore 0 hpos)

end Text

/-! ## Aliases -/

/-- Whether a name is at least as long as `Element` and ends in a `t` or in a digit. -/
def aliasLike (name : String) : Bool :=
  decide (7 ≤ name.length) && name.toList.getLast?.any fun c => c == 't' || c.isDigit

/-- **An alias shows**, unless it is the name of the class. -/
theorem aliasLike_classAlias (className : String) (k : ℕ) :
    aliasLike (classAlias className (k + 1)) = true := by
  have hseven : "Element".length = 7 := rfl
  have hword : "Element".toList = ['E', 'l', 'e', 'm', 'e', 'n'] ++ ['t'] := rfl
  rw [aliasLike, Bool.and_eq_true, decide_eq_true_eq, Option.any_eq_true]
  cases k with
  | zero =>
    refine ⟨?_, 't', ?_, rfl⟩
    · rw [classAlias, String.length_append]
      omega
    · rw [classAlias, String.toList_append, hword, ← List.append_assoc, List.getLast?_concat]
  | succ k =>
    have hne : Nat.toDigits 10 (k + 2) ≠ [] := Nat.toDigits_ne_nil
    refine ⟨?_, (Nat.toDigits 10 (k + 2)).getLast hne, ?_, ?_⟩
    · rw [classAlias, String.length_append, String.length_append]
      omega
    · rw [classAlias, String.toList_append, Nat.toString_eq_ofList_toDigits, String.toList_ofList,
        List.getLast?_append, List.getLast?_eq_some_getLast hne, Option.some_or]
    · rw [Nat.isDigit_of_mem_toDigits (by omega) (by omega) (List.getLast_mem hne), Bool.or_true]

/-- **Names that are numbered from the second one on are told apart by their numbers.** -/
theorem numbered_injective {name : ℕ → String} (base : String) (start : ℕ) (hfirst : name 0 = base)
    (hnext : ∀ n, name (n + 1) = base ++ toString (n + start)) : Function.Injective name := by
  have hne : ∀ n, name (n + 1) ≠ name 0 := fun n => by
    rw [hfirst, hnext, Ne, String.append_eq_left_iff]
    exact Nat.repr_ne_empty
  intro j k h
  cases j with
  | zero =>
    cases k with
    | zero => rfl
    | succ k => exact absurd h.symm (hne k)
  | succ j =>
    cases k with
    | zero => exact absurd h (hne j)
    | succ k =>
      rw [hnext, hnext, String.append_right_inj] at h
      have hnumber := Nat.repr_injective h
      omega

theorem classAlias_succ_ne (className : String) : ∀ k, classAlias className (k + 1) ≠ className
  | 0 => mt String.append_eq_left_iff.1 (by decide)
  | k + 1 => by
    rw [classAlias, String.append_assoc]
    exact mt String.append_eq_left_iff.1 (by simp)

/-- **No two aliases of a class agree.** -/
theorem classAlias_injective (className : String) : Function.Injective (classAlias className) := by
  have hnumbered : Function.Injective fun k => classAlias className (k + 1) :=
    numbered_injective (className ++ "Element") 2 rfl fun _ => rfl
  intro j k h
  cases j with
  | zero =>
    cases k with
    | zero => rfl
    | succ k => exact absurd h.symm (classAlias_succ_ne className k)
  | succ j =>
    cases k with
    | zero => exact absurd h (classAlias_succ_ne className j)
    | succ k => exact congrArg Nat.succ (hnumbered h)

/-! ## Imported classes -/

/-- Whether a wrapper brings a class into a module, behind the wrappers before it: an exported
class, and of the default exports of one file the first. -/
def Wrapper.importsClass (before : List Wrapper) (w : Wrapper) : Bool :=
  match w.exportKind with
  | .named => true
  | .byDefault => before.all fun v => v.importPath != w.importPath || v.exportKind != .byDefault
  | .none => false

theorem Wrapper.importsClass_byDefault {before : List Wrapper} {w : Wrapper}
    (hw : w.exportKind = .byDefault) :
    w.importsClass before = true
      ↔ ¬ ∃ v ∈ before, v.importPath = w.importPath ∧ v.exportKind = .byDefault := by
  rw [importsClass, hw]
  simp [or_iff_not_imp_left]

/-- The classes that a list of wrappers imports behind others. -/
def importedAfter : List Wrapper → List Wrapper → List String
  | _, [] => []
  | before, w :: ws =>
    (if w.importsClass before then [w.className] else []) ++ importedAfter (before ++ [w]) ws

/-- **The classes that a list of wrappers imports**, under the names they are declared with. -/
def importedClasses (ws : List Wrapper) : List String := importedAfter [] ws

theorem importedAfter_concat (before ws : List Wrapper) (w : Wrapper) :
    importedAfter before (ws ++ [w])
      = importedAfter before ws ++ if w.importsClass (before ++ ws) then [w.className] else [] := by
  induction ws generalizing before with
  | nil => simp [importedAfter]
  | cons v ws ih =>
    simp only [List.cons_append, importedAfter, ih, List.append_assoc, List.nil_append]

theorem importedClasses_concat (ws : List Wrapper) (w : Wrapper) :
    importedClasses (ws ++ [w])
      = importedClasses ws ++ if w.importsClass ws then [w.className] else [] :=
  importedAfter_concat [] ws w

/-! ## Groups -/

namespace ImportGroup

variable {g : ImportGroup} {w : Wrapper}

/-- Whether the class of a wrapper is still to be bound in the group of its module. -/
def Lacks (g : ImportGroup) (w : Wrapper) : Prop :=
  w.exportKind ≠ .none ∧ g.local? w.exportKind w.className = none

/-- A class that is still to be bound is a named export or the default one. -/
theorem Lacks.cases (h : g.Lacks w) :
    w.exportKind = .named ∧ g.named.lookup w.className = none ∨
      w.exportKind = .byDefault ∧ g.byDefault = none := by
  obtain ⟨hkind, hnone⟩ := h
  cases hexport : w.exportKind with
  | none => exact absurd hexport hkind
  | named =>
    rw [hexport] at hnone
    exact Or.inl ⟨rfl, hnone⟩
  | byDefault =>
    rw [hexport] at hnone
    exact Or.inr ⟨rfl, hnone⟩

theorem lacks_byDefault_iff (hw : w.exportKind = .byDefault) :
    g.Lacks w ↔ ¬ g.byDefault.isSome = true := by
  rw [Lacks, hw, Option.not_isSome_iff_eq_none]
  exact and_iff_right (by simp)

theorem mem_named_of_lookup {className l : String} (h : g.named.lookup className = some l) :
    (className, l) ∈ g.named := by
  obtain ⟨before, after, hnamed, -⟩ := List.lookup_eq_some_iff.1 h
  rw [hnamed]
  exact List.mem_append_right before List.mem_cons_self

theorem placed_of_lacks (h : g.Lacks w) (used : List String) :
    (g.placed used w).1
      = g.bind w.className (Text.firstFree used (classAlias w.className)) w.exportKind := by
  obtain ⟨hkind, hnone⟩ := h
  rw [placed]
  split
  · next h => exact absurd h hkind
  · next hsome _ => exact absurd (hnone.symm.trans hsome) (by simp)
  · rfl

theorem placed_of_not_lacks (h : ¬ g.Lacks w) (used : List String) : (g.placed used w).1 = g := by
  rw [placed]
  split
  · rfl
  · rfl
  · next hnone hkind => exact absurd ⟨hkind, hnone⟩ h

theorem isSome_byDefault_bind (g : ImportGroup) (className l : String) (kind : ExportKind) :
    (g.bind className l kind).byDefault.isSome = true
      ↔ g.byDefault.isSome = true ∨ kind = .byDefault := by
  cases kind <;> simp [bind]

theorem named_bind_subset (g : ImportGroup) (className l : String) (kind : ExportKind) :
    (g.bind className l kind).named.map (·.1) ⊆ className :: g.named.map (·.1) := by
  cases kind <;> simp [bind]

/-- The names of a group with one class more. -/
theorem locals_bind (h : g.Lacks w) (l : String) :
    (g.bind w.className l w.exportKind).locals.Perm (l :: g.locals) := by
  rcases h.cases with ⟨hkind, -⟩ | ⟨hkind, hnone⟩
  · simp only [hkind, bind, locals, List.map_append, ← List.append_assoc]
    exact List.perm_append_singleton _ _
  · simp [hkind, bind, locals, hnone]

end ImportGroup

/-! ## Plans -/

namespace ImportPlan

/-- The names a plan binds classes to. -/
def classLocals (p : ImportPlan) : List String := p.groups.flatMap (·.locals)

/-- Whether no module has two groups. -/
def DistinctModules (p : ImportPlan) : Prop := (p.groups.map (·.specifier)).Nodup

variable {p : ImportPlan}

/-- **Where a group is put**: in the place of the one group of its module, or at the end. -/
theorem group_cases (hp : p.DistinctModules) (s : String) :
    (∃ before after, p.groups = before ++ p.group s :: after ∧
        (∀ k ∈ before ++ after, k.specifier ≠ s) ∧
        ∀ g : ImportGroup, g.specifier = s → p.put g = before ++ g :: after) ∨
      p.group s = .empty s ∧ s ∉ p.groups.map (·.specifier) ∧
        ∀ g : ImportGroup, g.specifier = s → p.put g = p.groups ++ [g] := by
  cases hfind : p.groups.find? (·.specifier == s) with
  | none =>
    have hnone : ∀ g ∈ p.groups, g.specifier ≠ s := by simpa using hfind
    refine Or.inr ⟨by rw [group, hfind]; rfl, by simpa using hnone, fun g hg => ?_⟩
    rw [put, if_neg (by simpa [hg] using hnone)]
  | some h =>
    obtain ⟨hspec, before, after, hgroups, hbefore⟩ := List.find?_eq_some_iff_append.1 hfind
    have hs : h.specifier = s := beq_iff_eq.1 hspec
    have hgroup : p.group s = h := by rw [group, hfind]; rfl
    rw [DistinctModules, hgroups, List.map_append, List.map_cons] at hp
    have hother : ∀ k ∈ before ++ after, k.specifier ≠ s := fun k hk heq =>
      (List.nodup_middle.1 hp).notMem
        (by rw [← List.map_append, hs, ← heq]; exact List.mem_map_of_mem hk)
    refine Or.inl ⟨before, after, hgroup ▸ hgroups, hother, fun g hg => ?_⟩
    subst hg
    have hkept : ∀ l : List ImportGroup, l ⊆ before ++ after →
        l.map (fun k => if k.specifier == g.specifier then g else k) = l := fun l hl => by
      refine (List.map_congr_left fun k hk => ?_).trans (List.map_id l)
      rw [if_neg (by simpa using hother k (hl hk)), id]
    rw [put, if_pos (by simp [hgroups, hs]), hgroups, List.map_append, List.map_cons,
      if_pos hspec, hkept before (List.subset_append_left _ _),
      hkept after (List.subset_append_right _ _)]

/-- **A group that is put is a module more**, unless its module has one. -/
theorem map_specifier_put (p : ImportPlan) (g : ImportGroup) :
    (p.put g).map (·.specifier) = if g.specifier ∈ p.groups.map (·.specifier)
      then p.groups.map (·.specifier) else p.groups.map (·.specifier) ++ [g.specifier] := by
  have hany : p.groups.any (·.specifier == g.specifier) = true
      ↔ g.specifier ∈ p.groups.map (·.specifier) := by simp
  rw [put]
  split
  · next h =>
    rw [if_pos (hany.1 h), List.map_map]
    refine List.map_congr_left fun k _ => ?_
    rw [Function.comp_apply]
    split
    · next hk => exact (beq_iff_eq.1 hk).symm
    · rfl
  · next h => rw [if_neg (mt hany.2 h), List.map_append, List.map_singleton]

theorem distinctModules_put (hp : p.DistinctModules) (g : ImportGroup)
    (locals : List (Option String)) : DistinctModules ⟨p.put g, locals⟩ := by
  rw [DistinctModules] at hp ⊢
  rw [map_specifier_put]
  split
  · exact hp
  · next hnew => exact List.nodup_append_comm.1 (List.nodup_cons.2 ⟨hnew, hp⟩)

/-- Putting a group touches the names of its module only. -/
theorem exists_locals_perm (hp : p.DistinctModules) (s : String) :
    ∃ others, p.classLocals.Perm ((p.group s).locals ++ others) ∧
      ∀ g : ImportGroup, g.specifier = s →
        ((p.put g).flatMap (·.locals)).Perm (g.locals ++ others) := by
  rcases group_cases hp s with ⟨before, after, hgroups, -, hput⟩ | ⟨hempty, -, hput⟩
  · have hperm : ∀ g : ImportGroup, ((before ++ g :: after).flatMap (·.locals)).Perm
        (g.locals ++ (before ++ after).flatMap (·.locals)) := fun g => by
      simpa using List.perm_append_comm_assoc _ _ _
    refine ⟨_, ?_, fun g hg => hput g hg ▸ hperm g⟩
    rw [classLocals, hgroups]
    exact hperm _
  · refine ⟨p.classLocals, by rw [hempty]; rfl, fun g hg => ?_⟩
    rw [hput g hg, List.flatMap_append, List.flatMap_singleton]
    exact List.perm_append_comm

/-- The group of the module whose group is put… -/
theorem group_put_self (hp : p.DistinctModules) {g : ImportGroup} {s : String}
    (hs : g.specifier = s) (locals : List (Option String)) :
    (⟨p.put g, locals⟩ : ImportPlan).group s = g := by
  subst hs
  rcases group_cases hp g.specifier with ⟨before, after, -, hother, hput⟩ | ⟨-, hnew, hput⟩
  · have hnone : before.find? (·.specifier == g.specifier) = none :=
      List.find?_eq_none.2 fun k hk => by simpa using hother k (List.mem_append_left after hk)
    simp [group, hput g rfl, List.find?_append, hnone]
  · have hnone : p.groups.find? (·.specifier == g.specifier) = none := by simpa using hnew
    simp [group, hput g rfl, List.find?_append, hnone]

/-- …and of every other. -/
theorem group_put_of_ne (hp : p.DistinctModules) {g : ImportGroup} {s : String}
    (hs : g.specifier ≠ s) (locals : List (Option String)) :
    (⟨p.put g, locals⟩ : ImportPlan).group s = p.group s := by
  rcases group_cases hp g.specifier with ⟨before, after, hgroups, -, hput⟩ | ⟨-, -, hput⟩
  · have hgroup := specifier_group p g.specifier
    generalize p.group g.specifier = h at hgroups hgroup
    simp [group, hput g rfl, hgroups, List.find?_append, hgroup, hs]
  · simp [group, hput g rfl, List.find?_append, hs]

/-! ## One step of planning -/

variable {s : String} {w : Wrapper}

/-- **A class that has a name keeps it**: no group changes. -/
theorem add_of_not_lacks (reserved : List String) (hp : p.DistinctModules)
    (hw : ¬ (p.group s).Lacks w) :
    (∀ t, (p.add reserved s w).group t = p.group t) ∧
      (p.add reserved s w).classLocals.Perm p.classLocals := by
  obtain ⟨others, hold, hput⟩ := exists_locals_perm hp s
  rw [add_eq_put_placed]
  simp only [ImportGroup.placed_of_not_lacks hw]
  refine ⟨fun t => ?_, (hput _ (specifier_group p s)).trans hold.symm⟩
  rcases eq_or_ne s t with rfl | ht
  · exact group_put_self hp (specifier_group p s) _
  · exact group_put_of_ne hp ((specifier_group p s).trans_ne ht) _

/-- **A class without a name gets the first of its aliases that is free**, in the group of its
module. -/
theorem add_of_lacks (reserved : List String) (hp : p.DistinctModules)
    (hw : (p.group s).Lacks w) :
    let l := Text.firstFree (reserved ++ p.classLocals) (classAlias w.className)
    (p.add reserved s w).group s = (p.group s).bind w.className l w.exportKind ∧
      (∀ t, t ≠ s → (p.add reserved s w).group t = p.group t) ∧
      (p.add reserved s w).classLocals.Perm (l :: p.classLocals) := by
  intro l
  obtain ⟨others, hold, hput⟩ := exists_locals_perm hp s
  have hspec : ((p.group s).bind w.className l w.exportKind).specifier = s :=
    (ImportGroup.specifier_bind _ _ _ _).trans (specifier_group p s)
  rw [add_eq_put_placed]
  simp only [ImportGroup.placed_of_lacks hw]
  exact ⟨group_put_self hp hspec _, fun t ht => group_put_of_ne hp (hspec.trans_ne ht.symm) _,
    (hput _ hspec).trans
      (((ImportGroup.locals_bind hw l).append_right others).trans (hold.symm.cons l))⟩

variable {reserved : List String}

theorem distinctModules_add (hp : p.DistinctModules) : (p.add reserved s w).DistinctModules := by
  rw [add_eq_put_placed]
  exact distinctModules_put hp _ _

theorem mem_classLocals_add (hp : p.DistinctModules) {l : String} :
    l ∈ (p.add reserved s w).classLocals ↔ l ∈ p.classLocals ∨ (p.group s).Lacks w ∧
      l = Text.firstFree (reserved ++ p.classLocals) (classAlias w.className) := by
  by_cases hw : (p.group s).Lacks w
  · rw [(add_of_lacks reserved hp hw).2.2.mem_iff, List.mem_cons, and_iff_right hw, or_comm]
  · rw [(add_of_not_lacks reserved hp hw).2.mem_iff, or_iff_left fun h => hw h.1]

/-- The classes that a step of planning adds to a group. -/
theorem mem_named_add (hp : p.DistinctModules) {t c : String}
    (hc : c ∈ ((p.add reserved s w).group t).named.map (·.1)) :
    c ∈ (p.group t).named.map (·.1) ∨ (p.group s).Lacks w ∧ c = w.className := by
  by_cases hw : (p.group s).Lacks w
  · obtain ⟨hself, hother, -⟩ := add_of_lacks reserved hp hw
    rcases eq_or_ne t s with rfl | ht
    · rw [hself] at hc
      rcases List.mem_cons.1 (ImportGroup.named_bind_subset _ _ _ _ hc) with hc | hc
      · exact Or.inr ⟨hw, hc⟩
      · exact Or.inl hc
    · exact Or.inl (hother t ht ▸ hc)
  · exact Or.inl ((add_of_not_lacks reserved hp hw).1 t ▸ hc)

/-- A default export is bound from then on. -/
theorem isSome_byDefault_add (hp : p.DistinctModules) (t : String) :
    ((p.add reserved s w).group t).byDefault.isSome = true
      ↔ (p.group t).byDefault.isSome = true ∨ s = t ∧ w.exportKind = .byDefault := by
  by_cases hw : (p.group s).Lacks w
  · obtain ⟨hself, hother, -⟩ := add_of_lacks reserved hp hw
    rcases eq_or_ne s t with rfl | ht
    · rw [hself, ImportGroup.isSome_byDefault_bind, and_iff_right rfl]
    · rw [hother t ht.symm, or_iff_left fun h => ht h.1]
  · rw [(add_of_not_lacks reserved hp hw).1, or_iff_left_of_imp]
    rintro ⟨rfl, hkind⟩
    exact not_not.1 ((ImportGroup.lacks_byDefault_iff hkind).not.1 hw)

/-! ## The names of a whole list -/

/-- Whether the names of a plan differ from each other and from those that are reserved. -/
structure Fresh (reserved : List String) (p : ImportPlan) : Prop where
  modules : p.DistinctModules
  nodup : p.classLocals.Nodup
  free : ∀ l ∈ p.classLocals, l ∉ reserved

theorem Fresh.empty : Fresh reserved empty :=
  ⟨List.nodup_nil, List.nodup_nil, by simp [ImportPlan.empty, classLocals]⟩

theorem Fresh.add (h : p.Fresh reserved) (s : String) (w : Wrapper) :
    (p.add reserved s w).Fresh reserved := by
  have hfirst := Text.firstFree_notMem (classAlias_injective w.className)
    (reserved ++ p.classLocals)
  rw [List.mem_append, not_or] at hfirst
  refine ⟨distinctModules_add h.modules, ?_, fun l hl => ?_⟩
  · by_cases hw : (p.group s).Lacks w
    · obtain ⟨-, -, hperm⟩ := add_of_lacks reserved h.modules hw
      exact hperm.nodup_iff.2 (List.nodup_cons.2 ⟨hfirst.2, h.nodup⟩)
    · exact (add_of_not_lacks reserved h.modules hw).2.nodup_iff.2 h.nodup
  · rcases (mem_classLocals_add h.modules).1 hl with hl | ⟨-, rfl⟩
    · exact h.free l hl
    · exact hfirst.1

/-- **Which names a plan binds behind some wrappers**, when each is planned for the module that its
class is imported from: aliases of the imported classes, whose own names are taken either way. -/
structure NamesFor (reserved : List String) (ws : List Wrapper) (p : ImportPlan) : Prop where
  exists_alias : ∀ l ∈ p.classLocals, ∃ c ∈ importedClasses ws, ∃ k, l = classAlias c k
  taken : ∀ c ∈ importedClasses ws, c ∈ reserved ++ p.classLocals
  named : ∀ t, ∀ c ∈ (p.group t).named.map (·.1), c ∈ reserved ++ p.classLocals
  byDefault : ∀ t, (p.group t).byDefault.isSome = true
    ↔ ∃ v ∈ ws, v.importPath = t ∧ v.exportKind = .byDefault

variable {ws : List Wrapper}

namespace NamesFor

theorem empty : NamesFor reserved [] empty where
  exists_alias := by simp [ImportPlan.empty, classLocals]
  taken := by simp [importedClasses, importedAfter]
  named := by simp [ImportPlan.empty, group, ImportGroup.empty]
  byDefault := by simp [ImportPlan.empty, group, ImportGroup.empty]

/-- A class that lacks a name is imported… -/
theorem importsClass_of_lacks (h : NamesFor reserved ws p) (hw : (p.group w.importPath).Lacks w) :
    w.importsClass ws = true := by
  cases hkind : w.exportKind with
  | none => exact absurd hkind hw.1
  | named => rw [Wrapper.importsClass, hkind]
  | byDefault =>
    rw [Wrapper.importsClass_byDefault hkind, ← h.byDefault]
    exact (ImportGroup.lacks_byDefault_iff hkind).1 hw

/-- …and the name of one that is imported and lacks none is taken. -/
theorem taken_of_not_lacks (h : NamesFor reserved ws p) (hw : ¬ (p.group w.importPath).Lacks w)
    (himports : w.importsClass ws = true) : w.className ∈ reserved ++ p.classLocals := by
  cases hkind : w.exportKind with
  | none => rw [Wrapper.importsClass, hkind] at himports; exact absurd himports (by simp)
  | named =>
    rw [ImportGroup.Lacks, hkind] at hw
    obtain ⟨l, hl⟩ := Option.ne_none_iff_exists'.1 fun hnone => hw ⟨by simp, hnone⟩
    exact h.named w.importPath _
      (List.mem_map_of_mem (ImportGroup.mem_named_of_lookup (g := p.group w.importPath) hl))
  | byDefault =>
    rw [Wrapper.importsClass_byDefault hkind, ← h.byDefault,
      ← ImportGroup.lacks_byDefault_iff hkind] at himports
    exact absurd himports hw

/-- **A step of planning takes the name of the class it is for**, and gives none back. -/
theorem taken_add (h : NamesFor reserved ws p) (hp : p.DistinctModules) {c : String}
    (hc : c ∈ reserved ++ p.classLocals ∨ w.importsClass ws = true ∧ c = w.className) :
    c ∈ reserved ++ (p.add reserved w.importPath w).classLocals := by
  have hold : reserved ++ p.classLocals ⊆ reserved ++ (p.add reserved w.importPath w).classLocals :=
    fun c hc => List.mem_append.2 <|
      (List.mem_append.1 hc).imp id fun hc => (mem_classLocals_add hp).2 (Or.inl hc)
  rcases hc with hc | ⟨himports, rfl⟩
  · exact hold hc
  by_cases hw : (p.group w.importPath).Lacks w
  · rcases Text.eq_firstFree_or_mem (classAlias_injective w.className) (reserved ++ p.classLocals)
      with hc | hc
    · exact List.mem_append_right _ ((mem_classLocals_add hp).2 (Or.inr ⟨hw, hc⟩))
    · exact hold hc
  · exact hold (h.taken_of_not_lacks hw himports)

theorem add (h : NamesFor reserved ws p) (hp : p.DistinctModules) (w : Wrapper) :
    NamesFor reserved (ws ++ [w]) (p.add reserved w.importPath w) where
  exists_alias l hl := by
    rw [importedClasses_concat]
    rcases (mem_classLocals_add hp).1 hl with hl | ⟨hw, rfl⟩
    · obtain ⟨c, hc, hk⟩ := h.exists_alias l hl
      exact ⟨c, List.mem_append_left _ hc, hk⟩
    · rw [if_pos (h.importsClass_of_lacks hw)]
      obtain ⟨k, hk, -⟩ := Text.exists_firstFree_eq (classAlias_injective w.className)
        (reserved ++ p.classLocals)
      exact ⟨w.className, by simp, k, hk⟩
  taken c hc := by
    rw [importedClasses_concat, List.mem_append] at hc
    refine h.taken_add hp (hc.imp (h.taken c) fun hc => ?_)
    split at hc
    · next himports => exact ⟨himports, List.mem_singleton.1 hc⟩
    · exact absurd hc (List.not_mem_nil)
  named t c hc := h.taken_add hp <|
    (mem_named_add hp hc).imp (h.named t c) (And.imp_left h.importsClass_of_lacks)
  byDefault t := by rw [isSome_byDefault_add hp, h.byDefault, List.exists_mem_concat]

end NamesFor

/-- **What holds of the empty plan and is kept by every step holds of the plan of a list**, and the
names of that plan are fresh. -/
theorem fresh_holds_ofWrappers (f : String → String) (ws : List Wrapper)
    {Holds : List Wrapper → ImportPlan → Prop} (hempty : Holds [] empty)
    (hadd : ∀ (vs : List Wrapper) (p : ImportPlan) (w : Wrapper), p.DistinctModules → Holds vs p →
      Holds (vs ++ [w]) (p.add (ws.map (·.name) ++ moduleBindings) (f w.importPath) w)) :
    (ofWrappers f ws).Fresh (ws.map (·.name) ++ moduleBindings) ∧ Holds ws (ofWrappers f ws) := by
  rw [ofWrappers]
  generalize ws.map (·.name) ++ moduleBindings = reserved at hadd ⊢
  induction ws using List.reverseRecOn with
  | nil => exact ⟨.empty, hempty⟩
  | append_singleton ws w ih =>
    rw [List.foldl_concat]
    exact ⟨ih.1.add _ w, hadd ws _ w ih.1.modules ih.2⟩

/-- **The names of a wrapper module's classes.** -/
theorem fresh_namesFor_ofWrappers (ws : List Wrapper) :
    (ofWrappers id ws).Fresh (ws.map (·.name) ++ moduleBindings) ∧
      NamesFor (ws.map (·.name) ++ moduleBindings) ws (ofWrappers id ws) :=
  fresh_holds_ofWrappers id ws .empty fun _ _ w hp h => h.add hp w

/-- **A name that does not look like an alias is bound just when a class of that name is imported**
and the name is not reserved. -/
theorem mem_classLocals_iff {name : String} (hname : aliasLike name = false) :
    name ∈ (ofWrappers id ws).classLocals
      ↔ name ∈ importedClasses ws ∧ name ∉ ws.map (·.name) ++ moduleBindings := by
  obtain ⟨hfresh, hnames⟩ := fresh_namesFor_ofWrappers ws
  constructor
  · intro hl
    obtain ⟨c, hc, k, hk⟩ := hnames.exists_alias name hl
    cases k with
    | zero => exact ⟨hk ▸ hc, hfresh.free name hl⟩
    | succ k => rw [hk, aliasLike_classAlias] at hname; exact absurd hname (by simp)
  · rintro ⟨hc, hfree⟩
    exact (List.mem_append.1 (hnames.taken name hc)).resolve_left hfree

end ImportPlan

end ElementBindings
