import Mathlib.Data.List.Induction
import Mathlib.Data.List.Infix
import Mathlib.Data.List.Nodup

/-!
# Proofs/List — lists without repetitions, and words in lists

What is left of a list when an element may come once only (`nodup_eraseDups`), what a fold that adds
new elements makes of a list (`foldl_addNew_eq`), and where a word can stand in a list that an
element cuts in two (`infix_append_cons_iff`).
-/

namespace List

variable {α β : Type}

/-! ## Elements -/

theorem exists_mem_concat {as : List α} {a : α} {p : α → Prop} :
    (∃ b ∈ as ++ [a], p b) ↔ (∃ b ∈ as, p b) ∨ p a := by
  simp [or_and_right, exists_or]

theorem mem_of_lookup [BEq β] [LawfulBEq β] {entries : List (β × α)} {key : β} {a : α}
    (h : entries.lookup key = some a) : (key, a) ∈ entries := by
  obtain ⟨before, after, rfl, -⟩ := lookup_eq_some_iff.1 h
  exact mem_append_right _ mem_cons_self

theorem notMem_intercalate {c d : α} (hne : c ≠ d) {words : List (List α)}
    (h : ∀ word ∈ words, c ∉ word) : c ∉ [d].intercalate words := by
  induction words with
  | nil => simp
  | cons word words ih =>
    obtain ⟨hword, hwords⟩ := forall_mem_cons.1 h
    by_cases hnil : words = []
    · subst hnil
      simpa using hword
    · rw [intercalate_cons_of_ne_nil hnil]
      simp [hword, hne, ih hwords]

/-- Two lists put together from pieces of the same lengths agree piece by piece. -/
theorem forall_eq_of_flatMap_eq {f g : α → List β} {as : List α}
    (hlength : ∀ a ∈ as, (f a).length = (g a).length) (h : as.flatMap f = as.flatMap g) :
    ∀ a ∈ as, f a = g a := by
  induction as with
  | nil => simp
  | cons a as ih =>
    obtain ⟨ha, has⟩ := forall_mem_cons.1 hlength
    rw [flatMap_cons, flatMap_cons] at h
    obtain ⟨hhead, htail⟩ := append_inj h ha
    exact forall_mem_cons.2 ⟨hhead, ih has htail⟩

/-- What two lists begin with in common does not count for their order. -/
theorem lex_append_left [BEq α] [ReflBEq α] {lt : α → α → Bool} (hlt : ∀ a, lt a a = false)
    (cs as bs : List α) : (cs ++ as).lex (cs ++ bs) lt = as.lex bs lt := by
  induction cs with
  | nil => rfl
  | cons c cs ih => simp [hlt, ih]

/-! ## Words -/

section Words

variable {word before after : List α} {d : α}

/-- **A word that a list begins with ends before any element that is not in it.** -/
theorem prefix_of_append_cons (hd : d ∉ word) (h : word <+: before ++ d :: after) :
    word <+: before := by
  have hbefore : before ++ [d] <+: before ++ d :: after := ⟨after, by simp⟩
  rcases prefix_or_prefix_of_prefix h hbefore with h | h
  · rcases prefix_concat_iff.1 h with rfl | h
    · exact absurd (mem_append_right before mem_cons_self) hd
    · exact h
  · exact absurd (h.subset (mem_append_right before mem_cons_self)) hd

/-- **A word stands on one side of an element that is not in it.** -/
theorem infix_append_cons_iff (hd : d ∉ word) :
    word <:+: before ++ d :: after ↔ word <:+: before ∨ word <:+: after := by
  constructor
  · intro h
    induction before with
    | nil =>
      rcases infix_cons_iff.1 h with h | h
      · exact Or.inl (prefix_of_append_cons hd h).isInfix
      · exact Or.inr h
    | cons c before ih =>
      rcases infix_cons_iff.1 h with h | h
      · exact Or.inl (prefix_of_append_cons hd h).isInfix
      · exact (ih h).imp_left infix_cons
  · rintro (h | h)
    · exact h.trans (prefix_append before _).isInfix
    · exact h.trans (suffix_append_of_suffix (suffix_cons d after)).isInfix

/-- A word does not begin in a list without its first element. -/
theorem infix_of_append (hd : d ∉ before) (h : d :: word <:+: before ++ after) :
    d :: word <:+: after := by
  induction before with
  | nil => exact h
  | cons c before ih =>
    rw [mem_cons, not_or] at hd
    rcases infix_cons_iff.1 h with h | h
    · exact absurd (cons_prefix_cons.1 h).1 hd.1
    · exact ih hd.2 h

end Words

/-! ## Repetitions -/

section Repetitions

variable {same : α → α → Bool} {as : List α} {a : α}

/-- Where no two are the same, none is left out. -/
theorem eraseDupsBy_of_pairwise :
    ∀ {as : List α}, (as.Pairwise fun a b => same b a = false) → as.eraseDupsBy same = as
  | [], _ => rfl
  | a :: as, h => by
    obtain ⟨ha, has⟩ := pairwise_cons.1 h
    have hall : as.filter (fun b => same b a = false) = as :=
      filter_eq_self.2 fun b hb => decide_eq_true (ha b hb)
    rw [eraseDupsBy_cons, hall, eraseDupsBy_of_pairwise has]

theorem mem_of_mem_eraseDupsBy : ∀ {as : List α}, a ∈ as.eraseDupsBy same → a ∈ as
  | [], h => absurd h not_mem_nil
  | b :: as, h => by
    rw [eraseDupsBy_cons, mem_cons] at h
    rcases h with rfl | h
    · exact mem_cons_self
    · exact mem_cons_of_mem b (mem_of_mem_filter (mem_of_mem_eraseDupsBy h))
  termination_by as => as.length
  decreasing_by exact Nat.lt_succ_of_le (length_filter_le _ as)

/-- Where no two have the same name, the first of a name is the only one. -/
theorem find?_of_nodup_map [BEq β] [LawfulBEq β] {f : α → β} (h : (as.map f).Nodup)
    (ha : a ∈ as) : as.find? (f · == f a) = some a := by
  cases hfind : as.find? (f · == f a) with
  | none => exact absurd (beq_self_eq_true (f a)) (find?_eq_none.1 hfind a ha)
  | some b =>
    have hname := find?_some hfind
    rw [inj_on_of_nodup_map h (mem_of_find?_eq_some hfind) ha (beq_iff_eq.1 hname)]

variable [BEq α] [LawfulBEq α]

theorem eraseDups_of_nodup (h : as.Nodup) : as.eraseDups = as :=
  eraseDupsBy_of_pairwise (h.imp fun hne => beq_eq_false_iff_ne.2 hne.symm)

/-- An element more is dropped just when it is known. -/
theorem eraseDups_concat (as : List α) (a : α) :
    (as ++ [a]).eraseDups = if a ∈ as then as.eraseDups else as.eraseDups ++ [a] := by
  by_cases h : a ∈ as <;> simp [eraseDups_append, eraseDups_cons, removeAll, h]

theorem nodup_eraseDups (as : List α) : as.eraseDups.Nodup := by
  induction as using reverseRecOn with
  | nil => exact nodup_nil
  | append_singleton before a ih =>
    rw [eraseDups_concat]
    split
    · exact ih
    · next ha =>
      rw [← concat_eq_append, nodup_concat]
      exact ⟨fun h => ha (mem_eraseDups.1 h), ih⟩

/-- **What is new goes behind what is there**, each thing once. -/
theorem foldl_addNew_eq (stated more : List α) :
    more.foldl (fun as a => if as.contains a then as else as ++ [a]) stated
      = stated ++ (more.filter (!stated.contains ·)).eraseDups := by
  induction more using reverseRecOn with
  | nil => simp
  | append_singleton before a ih =>
    rw [foldl_concat, ih, filter_append, eraseDups_append]
    by_cases hstated : a ∈ stated
    · simp [hstated]
    · by_cases ha : a ∈ before.filter (!stated.contains ·)
      · have hbefore := mem_of_mem_filter ha
        simp [hstated, hbefore, removeAll]
      · have hbefore : a ∉ before := fun h => ha (by simpa [h] using hstated)
        simp [hstated, hbefore, removeAll, eraseDups_cons]

end Repetitions

/-! ## Folds -/

/-- What a fold has collected is there from the start, or one of the steps adds it. -/
theorem mem_or_exists_of_mem_foldl {σ : Type} {step : σ → β → σ} (items : σ → List α)
    {adds : β → α → Prop} (hstep : ∀ s b, ∀ a ∈ items (step s b), a ∈ items s ∨ adds b a)
    {bs : List β} {s : σ} {a : α} (h : a ∈ items (bs.foldl step s)) :
    a ∈ items s ∨ ∃ b ∈ bs, adds b a := by
  induction bs generalizing s with
  | nil => exact Or.inl h
  | cons b bs ih =>
    rcases ih h with h | ⟨b', hb', hadds⟩
    · exact (hstep s b a h).imp_right fun hadds => ⟨b, mem_cons_self, hadds⟩
    · exact Or.inr ⟨b', mem_cons_of_mem b hb', hadds⟩

end List
