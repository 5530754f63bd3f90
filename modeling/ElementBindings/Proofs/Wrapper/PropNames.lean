import ElementBindings.Proofs.Wrapper.ClassNames
import ElementBindings.Wrapper.Module

/-!
# Proofs/Wrapper/PropNames — the names of props in a component body

A component body takes its props apart.  A prop whose own name the body relies on is bound to the
first of its aliases that is free (`exists_alias_of_bindLocals`), and every other prop to its own
name; so no name of a body is bound twice (`propLocals_clean`).
-/

namespace ElementBindings

/-! ## Aliases -/

/-- **No two aliases of a prop agree.** -/
theorem propAlias_injective (key : String) : Function.Injective (propAlias key) :=
  numbered_injective (key ++ "Prop") 2 rfl fun _ => rfl

/-! ## Binding -/

variable {reserved taken keys : List String} {key l : String} {b : String × String}

theorem bindLocals_cons_of_mem (h : key ∈ reserved) :
    bindLocals reserved taken (key :: keys)
      = (key, Text.firstFree (reserved ++ taken) (propAlias key))
        :: bindLocals reserved (Text.firstFree (reserved ++ taken) (propAlias key) :: taken) keys := by
  rw [bindLocals, if_pos (List.contains_iff_mem.2 h)]

theorem bindLocals_cons_of_notMem (h : key ∉ reserved) :
    bindLocals reserved taken (key :: keys) = (key, key) :: bindLocals reserved taken keys := by
  rw [bindLocals, if_neg (mt List.contains_iff_mem.1 h)]

/-- **Each prop is bound once, in its place.** -/
theorem map_fst_bindLocals (reserved taken keys : List String) :
    (bindLocals reserved taken keys).map (·.1) = keys := by
  induction keys generalizing taken with
  | nil => rfl
  | cons key keys ih =>
    by_cases h : key ∈ reserved
    · rw [bindLocals_cons_of_mem h, List.map_cons, ih]
    · rw [bindLocals_cons_of_notMem h, List.map_cons, ih]

/-- **A prop keeps its name, unless that is reserved**; then it gets one that is neither reserved nor
taken. -/
theorem of_mem_bindLocals (h : b ∈ bindLocals reserved taken keys) :
    b.1 ∉ reserved ∧ b.2 = b.1 ∨ b.1 ∈ reserved ∧ b.2 ∉ reserved ∧ b.2 ∉ taken := by
  induction keys generalizing taken with
  | nil => exact absurd h List.not_mem_nil
  | cons key keys ih =>
    by_cases hkey : key ∈ reserved
    · rw [bindLocals_cons_of_mem hkey, List.mem_cons] at h
      rcases h with rfl | h
      · have hfree := Text.firstFree_notMem (propAlias_injective key) (reserved ++ taken)
        rw [List.mem_append, not_or] at hfree
        exact Or.inr ⟨hkey, hfree⟩
      · refine (ih h).imp_right fun hnew => ⟨hnew.1, hnew.2.1, fun hl => ?_⟩
        exact hnew.2.2 (List.mem_cons_of_mem _ hl)
    · rw [bindLocals_cons_of_notMem hkey, List.mem_cons] at h
      rcases h with rfl | h
      · exact Or.inl ⟨hkey, rfl⟩
      · exact ih h

/-- A name that is taken and not reserved is bound to the prop of that name, and to no other one. -/
theorem mem_locals_iff_of_taken (hl : l ∉ reserved) (htaken : l ∈ taken) :
    l ∈ (bindLocals reserved taken keys).map (·.2) ↔ l ∈ keys := by
  have hkeys : l ∈ keys ↔ ∃ b ∈ bindLocals reserved taken keys, b.1 = l := by
    rw [← List.mem_map, map_fst_bindLocals]
  rw [hkeys, List.mem_map]
  constructor
  · rintro ⟨b, hb, rfl⟩
    rcases of_mem_bindLocals hb with ⟨-, heq⟩ | ⟨-, -, hfree⟩
    · exact ⟨b, hb, heq.symm⟩
    · exact absurd htaken hfree
  · rintro ⟨b, hb, rfl⟩
    exact ⟨b, hb, (of_mem_bindLocals hb).elim And.right fun h => absurd h.1 hl⟩

/-- **No two props are bound to one name just when no two props that keep their names agree**, if
the names that props keep are taken from the start. -/
theorem nodup_bindLocals_iff (htaken : ∀ k ∈ keys, k ∉ reserved → k ∈ taken) :
    ((bindLocals reserved taken keys).map (·.2)).Nodup
      ↔ (keys.filter (!reserved.contains ·)).Nodup := by
  induction keys generalizing taken with
  | nil => exact iff_of_true List.nodup_nil List.nodup_nil
  | cons key keys ih =>
    obtain ⟨hhead, htail⟩ := List.forall_mem_cons.1 htaken
    by_cases hmem : key ∈ reserved
    · have hfree := Text.firstFree_notMem (propAlias_injective key) (reserved ++ taken)
      rw [List.mem_append, not_or] at hfree
      rw [bindLocals_cons_of_mem hmem, List.map_cons, List.nodup_cons,
        List.filter_cons_of_neg (by simpa using hmem),
        ih fun k hk hne => List.mem_cons_of_mem _ (htail k hk hne)]
      refine and_iff_right fun hl => ?_
      -- the alias would be a prop that keeps its name, and those are taken
      rw [mem_locals_iff_of_taken hfree.1 List.mem_cons_self] at hl
      exact hfree.2 (htail _ hl hfree.1)
    · rw [bindLocals_cons_of_notMem hmem, List.map_cons, List.nodup_cons,
        mem_locals_iff_of_taken hmem (hhead hmem), List.filter_cons_of_pos (by simpa using hmem),
        List.nodup_cons, List.mem_filter, ih htail]
      simp [hmem]

/-- **No two props are bound to one name**, when the names that props keep are taken from the
start. -/
theorem nodup_bindLocals (hkeys : keys.Nodup) (htaken : ∀ k ∈ keys, k ∉ reserved → k ∈ taken) :
    ((bindLocals reserved taken keys).map (·.2)).Nodup :=
  (nodup_bindLocals_iff htaken).2 (hkeys.filter _)

/-- Binding a prop takes its local name and no other, when the names that props keep are taken. -/
theorem exists_bindLocals_cons (htaken : key ∉ reserved → key ∈ taken) (keys : List String) :
    ∃ l taken', bindLocals reserved taken (key :: keys)
        = (key, l) :: bindLocals reserved taken' keys ∧
      (key ∈ reserved → l = Text.firstFree (reserved ++ taken) (propAlias key)) ∧
      ∀ name, name ∈ taken' ↔ name = l ∨ name ∈ taken := by
  by_cases hkey : key ∈ reserved
  · exact ⟨_, _, bindLocals_cons_of_mem hkey, fun _ => rfl, fun name => List.mem_cons⟩
  · refine ⟨_, _, bindLocals_cons_of_notMem hkey, fun h => absurd h hkey, fun name => ?_⟩
    exact (or_iff_right_of_imp fun heq => heq ▸ htaken hkey).symm

/-- **A prop that cannot keep its name is bound to the first of its aliases that is free** — neither
reserved nor taken from the start nor bound to a prop before it. -/
theorem exists_alias_of_bindLocals {before after : List (String × String)}
    (htaken : ∀ k ∈ keys, k ∉ reserved → k ∈ taken)
    (h : bindLocals reserved taken keys = before ++ (key, l) :: after) (hkey : key ∈ reserved) :
    ∃ n, l = propAlias key n ∧ l ∉ reserved ++ taken ++ before.map (·.2) ∧
      ∀ m < n, propAlias key m ∈ reserved ++ taken ++ before.map (·.2) := by
  induction keys generalizing taken before with
  | nil => exact absurd h (by simp [bindLocals])
  | cons k keys ih =>
    obtain ⟨hhead, hrest⟩ := List.forall_mem_cons.1 htaken
    obtain ⟨l', taken', hcons, hl', htaken'⟩ := exists_bindLocals_cons hhead keys
    rw [hcons] at h
    cases before with
    | nil =>
      obtain ⟨heq, -⟩ := List.cons.inj h
      obtain ⟨rfl, rfl⟩ := Prod.mk.inj heq
      obtain ⟨n, hn, hfree, hbefore⟩ :=
        Text.exists_firstFree_eq (propAlias_injective k) (reserved ++ taken)
      rw [← hl' hkey] at hn
      rw [List.map_nil, List.append_nil]
      exact ⟨n, hn, hn ▸ hfree, hbefore⟩
    | cons b before =>
      obtain ⟨rfl, htail⟩ := List.cons.inj h
      have hused : ∀ name, name ∈ reserved ++ taken' ++ before.map (·.2)
          ↔ name ∈ reserved ++ taken ++ ((k, l') :: before).map (·.2) := fun name => by
        simp only [List.map_cons, List.mem_append, List.mem_cons, htaken']
        tauto
      simp only [← hused]
      exact ih (fun k hk hne => (htaken' k).2 (Or.inr (hrest k hk hne))) htail

/-- A prop that cannot keep its name is bound to one of its aliases. -/
theorem exists_eq_propAlias (htaken : ∀ k ∈ keys, k ∉ reserved → k ∈ taken)
    (h : b ∈ bindLocals reserved taken keys) (hkey : b.1 ∈ reserved) :
    ∃ n, b.2 = propAlias b.1 n := by
  obtain ⟨before, after, heq⟩ := List.append_of_mem h
  obtain ⟨n, hn, -⟩ := exists_alias_of_bindLocals htaken heq hkey
  exact ⟨n, hn⟩

/-! ## The props of a component -/

theorem mem_reserved_iff {w : Wrapper} {element : String} :
    l ∈ w.reserved element
      ↔ l ∈ componentBindings ∨ l ∈ moduleBindings ∨ l = element ∨ l = w.name := by
  simp only [Wrapper.reserved, List.mem_append, List.mem_cons, List.not_mem_nil, or_false, or_assoc]

/-- **A component body binds every prop once, and to a name of its own.**  The props come in order;
none is bound to a name that the body or the module relies on, or to the name of another prop; a prop
called like none of those names is bound to its own, and one that is called so to the first of its
aliases that is free, whatever the other props are called. -/
theorem propLocals_clean (w : Wrapper) (element : String) :
    (w.propLocals element).map (·.1) = w.keys ∧
    (w.keys.Nodup → ((w.propLocals element).map (·.2)).Nodup) ∧
    (∀ b ∈ w.propLocals element, b.2 ∉ componentBindings ∧ b.2 ∉ moduleBindings ∧
      b.2 ≠ element ∧ b.2 ≠ w.name) ∧
    (∀ b ∈ w.propLocals element, b.1 ∉ w.reserved element → b.2 = b.1) ∧
    ∀ before key l after, w.propLocals element = before ++ (key, l) :: after →
      key ∈ w.reserved element → ∃ n, l = propAlias key n ∧ l ∉ w.keys ∧ l ∉ before.map (·.2) ∧
        ∀ m < n, propAlias key m ∈ w.reserved element ∨ propAlias key m ∈ w.keys ∨
          propAlias key m ∈ before.map (·.2) := by
  have htaken : ∀ k ∈ w.keys, k ∉ w.reserved element →
      k ∈ w.keys.filter (!(w.reserved element).contains ·) := fun k hk hne => by
    simpa using ⟨hk, hne⟩
  refine ⟨map_fst_bindLocals _ _ _, fun hkeys => nodup_bindLocals hkeys htaken, fun b hb => ?_,
    fun b hb hne => ?_, fun before key l after h hkey => ?_⟩
  · have hfree : b.2 ∉ w.reserved element := by
      rcases of_mem_bindLocals hb with ⟨hne, heq⟩ | ⟨-, hfree, -⟩
      · rwa [heq]
      · exact hfree
    simpa only [mem_reserved_iff, not_or] using hfree
  · exact (of_mem_bindLocals hb).elim And.right fun h => absurd h.1 hne
  · obtain ⟨n, hn, hfree, hbefore⟩ := exists_alias_of_bindLocals htaken h hkey
    simp only [List.mem_append, not_or] at hfree
    obtain ⟨⟨hreserved, hkept⟩, hbound⟩ := hfree
    refine ⟨n, hn, fun hl => hkept (htaken l hl hreserved), hbound, fun m hm => ?_⟩
    rcases List.mem_append.1 (hbefore m hm) with hm | hm
    · exact (List.mem_append.1 hm).imp_right fun hm => Or.inl (List.mem_of_mem_filter hm)
    · exact Or.inr (Or.inr hm)

/-- A component with a prop `event`, a prop called like its first alias, and a handler that is
called like its class. -/
def fieldWrapper : Wrapper :=
  ⟨"Field", "x-field", "onInput", .named, "./field",
    [⟨"event", "string", false, none, false, none⟩, ⟨"eventProp", "string", false, none, false, none⟩],
    [⟨⟨"input", none⟩, "onInput"⟩], [], none⟩

example : fieldWrapper.propLocals "onInput"
    = [("event", "eventProp2"), ("eventProp", "eventProp"), ("onInput", "onInputProp")] := by
  decide

theorem propLocals_clean_field :
    fieldWrapper.keys.Nodup ∧ ((fieldWrapper.propLocals "onInput").map (·.2)).Nodup ∧
      ∀ b ∈ fieldWrapper.propLocals "onInput", b.2 ∉ componentBindings ∧ b.2 ≠ "onInput" := by
  have hkeys : fieldWrapper.keys.Nodup := by decide
  obtain ⟨-, hnodup, hfree, -⟩ := propLocals_clean fieldWrapper "onInput"
  exact ⟨hkeys, hnodup hkeys, fun b hb => ⟨(hfree b hb).1, (hfree b hb).2.2.1⟩⟩

end ElementBindings
