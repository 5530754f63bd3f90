import ElementBindings.Text.Scan
import Mathlib.Data.List.DropRight
import Mathlib.Data.List.Induction

/-!
# Proofs/Text/Cutting — what cutting and trimming leave

A cut text is its pieces, each of which stands in it; a text of lines is read line by line
(`lines_append_newline`).  Trimming takes away white space at the ends and nothing else
(`exists_trim_append`), and nothing that stands before a character that is not blank.  Replacing
goes over a text from one occurrence to the next (`replaceFrom_self`, `replaceFrom_of_notMem`).
-/

namespace ElementBindings.Text

/-! ## Cutting -/

/-- The cut of a text is the library's cut of a list. -/
theorem splitOn_eq_splitOnP (sep : Char → Bool) (cs : List Char) :
    splitOn sep cs = cs.splitOnP sep := by
  induction cs with
  | nil => rfl
  | cons c cs ih =>
    obtain ⟨p, ps, hp⟩ := List.exists_cons_of_ne_nil (List.splitOnP_ne_nil sep cs)
    rw [List.splitOnP_cons_eq_if_modifyHead, splitOn, ih, hp]
    rfl

variable {cs piece : List Char} {c : Char}

/-- **What a piece of a text begins with stands in the text.** -/
theorem prefix_headD_splitOn (sep : Char → Bool) (cs : List Char) :
    (splitOn sep cs).headD [] <+: cs := by
  induction cs with
  | nil => exact List.prefix_rfl
  | cons c cs ih =>
    rw [splitOn]
    split
    · exact List.nil_prefix
    · exact List.cons_prefix_cons.2 ⟨rfl, ih⟩

theorem infix_of_mem_splitOn {sep : Char → Bool} (h : piece ∈ splitOn sep cs) :
    piece <:+: cs := by
  induction cs generalizing piece with
  | nil => exact (List.mem_singleton.1 h) ▸ List.nil_infix
  | cons c cs ih =>
    have hhead := prefix_headD_splitOn sep (c :: cs)
    rw [splitOn] at h hhead
    split at h <;> rcases List.mem_cons.1 h with rfl | h
    · exact List.nil_infix
    · exact List.infix_cons (ih h)
    · next hsep =>
      rw [if_neg hsep] at hhead
      exact hhead.isInfix
    · exact List.infix_cons (ih (List.mem_of_mem_tail h))

/-! ## Lines -/

theorem dropReturn_isPrefix (line : List Char) : dropReturn line <+: line := by
  rw [dropReturn]
  split
  · exact List.dropLast_prefix line
  · exact List.prefix_rfl

theorem dropReturn_of_ne (h : cs.getLast? ≠ some '\r') : dropReturn cs = cs := if_neg h

/-- A carriage return at the end is not looked for before a character that is none. -/
theorem dropReturn_append_cons (hc : c ≠ '\r') (cs tail : List Char) :
    dropReturn (cs ++ c :: tail) = cs ++ c :: dropReturn tail := by
  cases tail using List.reverseRecOn with
  | nil => exact dropReturn_of_ne (by simpa using hc)
  | append_singleton tail d =>
    rw [← List.cons_append, ← List.append_assoc, dropReturn, dropReturn, List.getLast?_concat,
      List.getLast?_concat, List.dropLast_concat, List.dropLast_concat]
    split
    · rfl
    · rw [List.append_assoc, List.cons_append]

/-- **A text of lines is read line by line.** -/
theorem lines_append_newline (above below : List Char) :
    lines (above ++ '\n' :: below)
      = (splitOn (· == '\n') above).map dropReturn ++ lines below := by
  have hpieces : splitOn (· == '\n') (above ++ '\n' :: below)
      = splitOn (· == '\n') above ++ splitOn (· == '\n') below := by
    simp only [splitOn_eq_splitOnP]
    exact List.splitOnP_append_cons above below rfl
  have hne := splitOn_ne_nil (· == '\n') below
  obtain ⟨last, hlast⟩ : ∃ last, (splitOn (· == '\n') below).getLast? = some last :=
    ⟨_, List.getLast?_eq_some_getLast hne⟩
  have hlast' : (splitOn (· == '\n') above ++ splitOn (· == '\n') below).getLast? = some last := by
    rw [List.getLast?_append, hlast]
    rfl
  rw [lines, lines, hpieces, List.dropLast_append_of_ne_nil hne, hlast, hlast', List.map_append]
  cases last with
  | nil => rfl
  | cons c last => exact List.append_assoc _ _ _

theorem splitOn_of_notMem (h : '\n' ∉ cs) : splitOn (· == '\n') cs = [cs] := by
  rw [splitOn_eq_splitOnP]
  refine List.splitOnP_eq_singleton fun c hc => ?_
  rw [beq_eq_false_iff_ne]
  rintro rfl
  exact h hc

/-- A text without a line feed is its only line, and not even that if it is empty. -/
theorem lines_of_notMem (h : '\n' ∉ cs) : lines cs = if cs = [] then [] else [cs] := by
  rw [lines, splitOn_of_notMem h]
  cases cs <;> rfl

theorem infix_of_mem_lines {line : List Char} (h : line ∈ lines cs) : line <:+: cs := by
  have hlast : (lines cs = (splitOn (· == '\n') cs).dropLast.map dropReturn) ∨
      ∃ last ∈ splitOn (· == '\n') cs,
        lines cs = (splitOn (· == '\n') cs).dropLast.map dropReturn ++ [last] := by
    rw [lines]
    split
    · next c last hlast => exact Or.inr ⟨_, List.mem_of_getLast? hlast, rfl⟩
    · exact Or.inl rfl
  have hended : ∀ line ∈ (splitOn (· == '\n') cs).dropLast.map dropReturn, line <:+: cs := by
    intro line hline
    obtain ⟨piece, hpiece, rfl⟩ := List.mem_map.1 hline
    exact (dropReturn_isPrefix piece).isInfix.trans
      (infix_of_mem_splitOn ((List.dropLast_prefix _).subset hpiece))
  rcases hlast with hlines | ⟨last, hlast, hlines⟩
  · exact hended line (hlines ▸ h)
  · rcases List.mem_append.1 (hlines ▸ h) with h | h
    · exact hended line h
    · exact List.mem_singleton.1 h ▸ infix_of_mem_splitOn hlast

/-! ## Trimming -/

/-- What is dropped at the end of a list is blank. -/
theorem dropEnd_append {α : Type} (blank : α → Bool) (cs : List α) :
    ∃ tail, cs = dropEnd blank cs ++ tail ∧ ∀ c ∈ tail, blank c = true := by
  refine ⟨(cs.reverse.takeWhile blank).reverse, ?_, fun c hc => ?_⟩
  · rw [dropEnd, ← List.reverse_append, List.takeWhile_append_dropWhile, List.reverse_reverse]
  · exact List.all_eq_true.1 List.all_takeWhile c (List.mem_reverse.1 hc)

/-- Nothing is dropped behind an element that is not blank. -/
theorem dropEnd_concat {α : Type} {blank : α → Bool} {c : α} (h : blank c = false) (cs : List α) :
    dropEnd blank (cs ++ [c]) = cs ++ [c] := by
  rw [dropEnd, List.reverse_concat, List.dropWhile_cons_of_neg (by simp [h]), List.reverse_cons,
    List.reverse_reverse]

/-- Nothing is dropped before an element that is not blank. -/
theorem dropEnd_append_cons {α : Type} {blank : α → Bool} {c : α} (h : blank c = false)
    (cs tail : List α) :
    dropEnd blank (cs ++ c :: tail) = cs ++ c :: dropEnd blank tail := by
  rw [dropEnd, dropEnd, List.reverse_append, List.reverse_cons, List.append_assoc,
    List.dropWhile_append]
  split
  · next hnil =>
    rw [List.isEmpty_iff.1 hnil, List.singleton_append,
      List.dropWhile_cons_of_neg (by simp [h])]
    simp
  · simp

/-- An element at the end is dropped if it is blank. -/
theorem dropEnd_concat_of_pos {α : Type} {blank : α → Bool} {c : α} (h : blank c = true)
    (cs : List α) : dropEnd blank (cs ++ [c]) = dropEnd blank cs := by
  rw [dropEnd, dropEnd, List.reverse_concat, List.dropWhile_cons_of_pos h]

/-- A carriage return at the end is white space. -/
theorem trimEnd_dropReturn (cs : List Char) : trimEnd (dropReturn cs) = trimEnd cs := by
  rw [dropReturn]
  split
  · next hlast =>
    conv_rhs => rw [← List.dropLast_append_getLast? _ hlast]
    exact (dropEnd_concat_of_pos (by decide) _).symm
  · rfl

theorem trimEnd_isPrefix (cs : List Char) : trimEnd cs <+: cs := by
  obtain ⟨tail, htail, -⟩ := dropEnd_append isBlank cs
  exact ⟨tail, htail.symm⟩

/-- **Trimming takes away white space at both ends.** -/
theorem exists_trim_append (cs : List Char) :
    ∃ lead tail, cs = lead ++ trim cs ++ tail ∧
      (∀ c ∈ lead, isBlank c = true) ∧ ∀ c ∈ tail, isBlank c = true := by
  obtain ⟨tail, htail, hblank⟩ := dropEnd_append isBlank (cs.dropWhile isBlank)
  refine ⟨cs.takeWhile isBlank, tail, ?_, List.all_eq_true.1 List.all_takeWhile, hblank⟩
  rw [trim, strip, List.append_assoc, ← htail, List.takeWhile_append_dropWhile]

/-- Text that starts and ends with other characters is trimmed as it is. -/
theorem trim_cons_concat {d : Char} (hc : isBlank c = false) (hd : isBlank d = false)
    (cs : List Char) : trim (c :: cs ++ [d]) = c :: cs ++ [d] := by
  rw [trim, strip, List.cons_append, List.dropWhile_cons_of_neg (by simp [hc]),
    ← List.cons_append, dropEnd_concat hd]

theorem trim_cons (hc : isBlank c = false) (cs : List Char) :
    trim (c :: cs) = c :: trimEnd cs := by
  rw [trim, strip, List.dropWhile_cons_of_neg (by simp [hc])]
  exact dropEnd_append_cons hc [] cs

/-- A trimmed text is trimmed at its end. -/
theorem trimEnd_of_trim (h : trim cs = cs) : trimEnd cs = cs := by
  rw [← h, trim, trimEnd, strip, dropEnd, dropEnd, List.reverse_reverse,
    List.dropWhile_idempotent]

/-- **White space around a text is trimmed away.** -/
theorem trim_append {before after : List Char} (hbefore : ∀ c ∈ before, isBlank c = true)
    (hafter : ∀ c ∈ after, isBlank c = true) (cs : List Char) :
    trim (before ++ cs ++ after) = trim cs := by
  have hend : ∀ text, dropEnd isBlank (text ++ after) = dropEnd isBlank text := fun text => by
    rw [dropEnd, dropEnd, List.reverse_append,
      List.dropWhile_append_of_pos fun c hc => hafter c (List.mem_reverse.1 hc)]
  rw [trim, trim, strip, strip, List.append_assoc, List.dropWhile_append_of_pos hbefore,
    List.dropWhile_append]
  split
  · next hnil =>
    rw [List.isEmpty_iff.1 hnil, ← List.append_nil after, List.dropWhile_append_of_pos hafter]
    rfl
  · exact hend _

/-- **Trimming leaves nothing just of white space.** -/
theorem trim_eq_nil_iff : trim cs = [] ↔ ∀ c ∈ cs, isBlank c = true := by
  constructor
  · intro h
    obtain ⟨lead, tail, hcs, hlead, htail⟩ := exists_trim_append cs
    rw [h, List.append_nil] at hcs
    rw [hcs]
    exact List.forall_mem_append.2 ⟨hlead, htail⟩
  · intro h
    have htrim := trim_append h (List.forall_mem_nil _) []
    rwa [List.append_nil, List.append_nil] at htrim

theorem skipBlank_cons (hc : isBlank c = false) (cs : List Char) :
    skipBlank (c :: cs) = c :: cs := List.dropWhile_cons_of_neg (by simp [hc])

/-- White space is skipped up to the first character that is none. -/
theorem skipBlank_append {gap : List Char} (hgap : ∀ c ∈ gap, isBlank c = true)
    (hc : isBlank c = false) (cs : List Char) : skipBlank (gap ++ c :: cs) = c :: cs := by
  rw [skipBlank, List.dropWhile_append_of_pos hgap]
  exact skipBlank_cons hc cs

theorem skipBlank?_append {gap : List Char} (hne : gap ≠ []) (hgap : ∀ c ∈ gap, isBlank c = true)
    (hc : isBlank c = false) (cs : List Char) : skipBlank? (gap ++ c :: cs) = some (c :: cs) := by
  obtain ⟨d, gap, rfl⟩ := List.exists_cons_of_ne_nil hne
  obtain ⟨hd, hgap⟩ := List.forall_mem_cons.1 hgap
  rw [List.cons_append, skipBlank?, if_pos hd, skipBlank_append hgap hc]

/-! ## Replacing -/

theorem replaceFrom_skip (old new cs rest : List Char) :
    replaceFrom old new cs.length (cs ++ rest) = replaceFrom old new 0 rest := by
  induction cs with
  | nil => rfl
  | cons c cs ih => exact ih

/-- **An occurrence is replaced.** -/
theorem replaceFrom_self (new w rest : List Char) (c : Char) :
    replaceFrom (c :: w) new 0 (c :: w ++ rest) = new ++ replaceFrom (c :: w) new 0 rest := by
  have hlead : (c :: w).isPrefixOf (c :: (w ++ rest)) = true :=
    List.isPrefixOf_iff_prefix.2 (List.prefix_append (c :: w) rest)
  rw [List.cons_append, replaceFrom, if_pos hlead, List.length_cons, Nat.add_sub_cancel,
    replaceFrom_skip]

/-- A text without the character that occurrences begin with stays as it is. -/
theorem replaceFrom_of_notMem (h : c ∉ cs) (w new rest : List Char) :
    replaceFrom (c :: w) new 0 (cs ++ rest) = cs ++ replaceFrom (c :: w) new 0 rest := by
  induction cs with
  | nil => rfl
  | cons d cs ih =>
    rw [List.mem_cons, not_or] at h
    rw [List.cons_append, replaceFrom, if_neg (by simp [h.1]), ih h.2, List.cons_append]

/-- Replacing a character replaces it wherever it stands, and nothing else. -/
theorem replace_singleton (d : Char) (new cs : List Char) :
    replace [d] new cs = cs.flatMap fun c => if c = d then new else [c] := by
  rw [replace, if_neg (by simp)]
  induction cs with
  | nil => rfl
  | cons c cs ih =>
    rw [List.flatMap_cons, ← ih]
    by_cases h : c = d
    · subst h
      rw [if_pos rfl]
      exact replaceFrom_self new [] cs c
    · have hother : d ∉ [c] := by simp [Ne.symm h]
      rw [if_neg h]
      exact replaceFrom_of_notMem hother [] new cs

end ElementBindings.Text
