import ElementBindings.Proofs.List
import ElementBindings.Proofs.Path.Specifier
import Mathlib.Data.String.Basic

/-!
# Proofs/Path/Order — the order of the paths below a directory

What is joined to a path comes behind its components (`components_join_names`), so below one
directory paths stand in the order of the names that lead to them, compared name by name
(`before_join_names_iff`).
-/

namespace ElementBindings.Path

variable {ns ms : List String} {dir : Path}

/-! ## Components below a directory -/

/-- A path opens with a `.` as a whole piece when it is one or goes on with a slash. -/
theorem head?_pieces_eq_dot_iff {p : Path} :
    p.pieces.head? = some ['.'] ↔ p.chars = ['.'] ∨ ['.', '/'] <+: p.chars := by
  rw [head?_pieces_iff]
  exact and_iff_right (by decide)

/-- **Joining names leaves the first piece of a path a `.`, or makes none of it.** -/
theorem head?_pieces_join_names (h : ∀ s ∈ ns, IsFileName s) (hdir : dir.isAbsolute = false) :
    (dir.join ⟨"/".intercalate ns⟩).pieces.head? = some ['.'] ↔ dir.pieces.head? = some ['.'] := by
  have hslash : ∀ s ∈ ns, '/' ∉ s.toList := fun s hs => (h s hs).slash_notMem
  have hrelative := isAbsolute_intercalate fun s hs => ⟨(h s hs).1, hslash s hs⟩
  rw [join, if_neg (by simp [hrelative])]
  rw [isAbsolute] at hdir
  cases hchars : dir.chars with
  | nil =>
    -- the names open the path, and none of them is a dot
    obtain rfl : dir = ⟨""⟩ := congrArg Path.mk (String.toList_inj.1 hchars)
    rw [if_pos (Or.inl rfl), String.empty_append]
    refine iff_of_false (fun hdot => ?_) (by decide)
    cases ns with
    | nil => exact absurd hdot (by decide)
    | cons s ns =>
      rw [pieces_intercalate (List.cons_ne_nil s ns) hslash] at hdot
      exact (h s List.mem_cons_self).2.1 (String.toList_inj.1 (Option.some.inj hdot))
  | cons c cs =>
    rw [hchars] at hdir
    have hc : c ≠ '/' := by simpa using hdir
    rw [head?_pieces_eq_dot_iff, head?_pieces_eq_dot_iff, hchars]
    split
    · next hlast =>
      -- behind its first character the path still has its last slash
      cases cs with
      | nil => simp_all
      | cons d ds => simp_all [chars, String.toList_append]
    · cases cs with
      | nil =>
        rw [chars] at hchars
        simpa [chars, String.toList_append, hchars] using ⟨Eq.symm, Eq.symm⟩
      | cons d ds => simp_all [chars, String.toList_append]

/-- **The components of a path are followed by the names that are joined to it.** -/
theorem components_join_names (h : ∀ s ∈ ns, IsFileName s) (dir : Path) :
    (dir.join ⟨"/".intercalate ns⟩).components = dir.components ++ ns.map .name := by
  have hslash : ∀ s ∈ ns, '/' ∉ s.toList := fun s hs => (h s hs).slash_notMem
  have hrelative := isAbsolute_intercalate fun s hs => ⟨(h s hs).1, hslash s hs⟩
  have hnamed : (dir.join ⟨"/".intercalate ns⟩).named = dir.named ++ ns.map .name := by
    rw [named_join hrelative, named_intercalate hslash, filterMap_ofPiece? h]
  have hsame := isAbsolute_join_eq hrelative dir
  cases hdir : dir.isAbsolute with
  | true =>
    rw [components_of_isAbsolute (hsame.trans hdir), components_of_isAbsolute hdir, hnamed,
      List.cons_append]
  | false =>
    have hdot := head?_pieces_join_names h hdir
    rw [named, named] at hnamed
    simp only [components, hsame, hdir, Bool.false_eq_true, if_false, hdot, hnamed]
    split
    · rfl
    · rfl

/-! ## Order -/

/-- **Whether a path comes before another one**, by the first component in which they differ; a path
comes before its extensions. -/
def Before (p q : Path) : Prop :=
  p.components.lex q.components (fun a b => a.le b && a != b) = true

theorem le_eq_true_iff {p q : Path} : p.le q = true ↔ ¬q.Before p := by
  rw [le, Before, Bool.not_eq_true, Bool.not_eq_true']

/-- Names as components stand in the order of the names. -/
theorem lex_map_name (ns ms : List String) :
    (ns.map Component.name).lex (ms.map Component.name) (fun a b => a.le b && a != b) = true
      ↔ ns < ms := by
  induction ns generalizing ms with
  | nil => cases ms <;> simp
  | cons s ns ih =>
    cases ms with
    | nil => simp
    | cons t ms =>
      have hlt : s < t ↔ s ≤ t ∧ s ≠ t := lt_iff_le_and_ne
      rw [List.map_cons, List.map_cons, List.lex, Bool.or_eq_true, Bool.and_eq_true,
        Bool.and_eq_true, ih, List.cons_lt_cons_iff, hlt]
      simp only [Component.le, decide_eq_true_iff, bne_iff_ne, beq_iff_eq, ne_eq,
        Component.name.injEq]

theorem Before.ne {p q : Path} (h : p.Before q) : p ≠ q := by
  rintro rfl
  rw [Before, ← List.append_nil p.components, List.lex_append_left (by simp)] at h
  exact absurd h (by simp)

/-- **Below one directory paths stand in the order of their names**, one name after the other. -/
theorem before_join_names_iff (hns : ∀ s ∈ ns, IsFileName s) (hms : ∀ s ∈ ms, IsFileName s)
    (dir : Path) :
    (dir.join ⟨"/".intercalate ns⟩).Before (dir.join ⟨"/".intercalate ms⟩) ↔ ns < ms := by
  rw [Before, components_join_names hns, components_join_names hms, List.lex_append_left (by simp),
    lex_map_name]

theorem le_join_names (hns : ∀ s ∈ ns, IsFileName s) (hms : ∀ s ∈ ms, IsFileName s) (dir : Path) :
    (dir.join ⟨"/".intercalate ns⟩).le (dir.join ⟨"/".intercalate ms⟩) = decide (ns ≤ ms) := by
  rw [Bool.eq_iff_iff, decide_eq_true_iff, le_eq_true_iff, before_join_names_iff hms hns, not_lt]

end ElementBindings.Path
