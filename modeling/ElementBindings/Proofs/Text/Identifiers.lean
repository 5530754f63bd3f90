import ElementBindings.Proofs.Text.Scan

/-!
# Proofs/Text/Identifiers — the characters of accepted names

A name that is accepted for a prop has word characters and `$` in it.  Such a character may stand in
an identifier of a script unless it is an ornament: a mark that encloses a letter, a letter in a
circle or a square, the vertical tilde (`isIdentifierPart_iff`).  An ornament may go on with any
accepted name (`isBindable_push`), and no identifier (`isIdentifierPart_of_isOrnament`).
-/

namespace ElementBindings.Text

/-! ## Rows of tables -/

/-- Whether a row of code points lies in one row of a table. -/
def coveredBy (table : Array (ℕ × ℕ)) (r : ℕ × ℕ) : Bool :=
  table.toList.any fun q => q.1.ble r.1 && r.2.ble q.2

/-- Whether a row of code points has none in common with a table. -/
def apartFrom (table : Array (ℕ × ℕ)) (r : ℕ × ℕ) : Bool :=
  table.toList.all fun q => r.2.blt q.1 || q.2.blt r.1

variable {c d : Char} {cs : List Char} {table : Array (ℕ × ℕ)} {r : ℕ × ℕ}

theorem inRanges_of_coveredBy (h : coveredBy table r = true) (hfirst : r.1 ≤ c.toNat)
    (hlast : c.toNat ≤ r.2) : inRanges table c = true := by
  obtain ⟨q, hq, hcovers⟩ := List.any_eq_true.1 h
  rw [Bool.and_eq_true, Nat.ble_eq, Nat.ble_eq] at hcovers
  exact inRanges_iff.2 ⟨q, hq, by omega, by omega⟩

theorem inRanges_of_apartFrom (h : apartFrom table r = true) (hfirst : r.1 ≤ c.toNat)
    (hlast : c.toNat ≤ r.2) : inRanges table c = false := by
  rw [Bool.eq_false_iff]
  intro hin
  obtain ⟨q, hq, hqfirst, hqlast⟩ := inRanges_iff.1 hin
  have hrow := List.all_eq_true.1 h q hq
  rw [Bool.or_eq_true, Nat.blt_eq, Nat.blt_eq] at hrow
  omega

/-! ## Ornaments -/

/-- Whether a character belongs to words but to no identifier: a mark that encloses a letter, a
letter in a circle or a square, the vertical tilde. -/
def isOrnament (c : Char) : Bool := inRanges wordNotContinueRanges c

/-- The rows of ornaments lie in rows of word characters that start no identifier… -/
theorem ornaments_covered : wordNotContinueRanges.toList.all (fun r =>
    coveredBy wordRanges r && coveredBy wordNotStartRanges r) = true := by
  decide +kernel

/-- …and apart from ASCII and the rows of other characters that identifiers have. -/
theorem ornaments_apart : wordNotContinueRanges.toList.all (fun r =>
    Nat.ble 128 r.1 && (apartFrom startNotWordRanges r && apartFrom continueNotWordRanges r))
      = true := by
  decide

/-- **Where the tables have an ornament.** -/
theorem tables_of_isOrnament (h : isOrnament c = true) :
    128 ≤ c.toNat ∧ inRanges wordRanges c = true ∧ inRanges wordNotStartRanges c = true ∧
      inRanges startNotWordRanges c = false ∧ inRanges continueNotWordRanges c = false := by
  obtain ⟨r, hr, hfirst, hlast⟩ := inRanges_iff.1 h
  have hcovered := List.all_eq_true.1 ornaments_covered r hr
  have hapart := List.all_eq_true.1 ornaments_apart r hr
  rw [Bool.and_eq_true] at hcovered
  rw [Bool.and_eq_true, Bool.and_eq_true, Nat.ble_eq] at hapart
  exact ⟨hapart.1.trans hfirst, inRanges_of_coveredBy hcovered.1 hfirst hlast,
    inRanges_of_coveredBy hcovered.2 hfirst hlast, inRanges_of_apartFrom hapart.2.1 hfirst hlast,
    inRanges_of_apartFrom hapart.2.2 hfirst hlast⟩

/-- A character of ASCII is no ornament. -/
theorem isOrnament_ascii (h : c.toNat < 128) : isOrnament c = false := by
  rw [Bool.eq_false_iff]
  intro hornament
  exact absurd (tables_of_isOrnament hornament).1 (by omega)

/-- An ornament is a word character. -/
theorem isWord_of_isOrnament (h : isOrnament c = true) : isWord c = true := by
  obtain ⟨hcode, hword, -⟩ := tables_of_isOrnament h
  rw [isWord, if_neg (by omega), hword]

/-- No identifier starts with an ornament. -/
theorem isIdentifierStart_of_isOrnament (h : isOrnament c = true) :
    isIdentifierStart c = false := by
  obtain ⟨hcode, -, hnot, hother, -⟩ := tables_of_isOrnament h
  rw [isIdentifierStart, if_neg (by omega), hnot, hother, Bool.not_true, Bool.and_false,
    Bool.or_false]

/-- …and none goes on with one. -/
theorem isIdentifierPart_of_isOrnament (h : isOrnament c = true) : isIdentifierPart c = false := by
  obtain ⟨hcode, -, -, -, hother⟩ := tables_of_isOrnament h
  rw [isIdentifierPart, if_neg (by omega), hother, Bool.or_false]
  rw [isOrnament] at h
  rw [h, Bool.not_true, Bool.and_false]

/-- **A character that an accepted name may go on with belongs to an identifier unless it is an
ornament.** -/
theorem isIdentifierPart_iff (h : isIdentifierChar c = true) :
    isIdentifierPart c = true ↔ isOrnament c = false := by
  refine ⟨fun hpart => ?_, fun hplain => ?_⟩
  · rw [Bool.eq_false_iff]
    intro hornament
    exact absurd ((isIdentifierPart_of_isOrnament hornament).symm.trans hpart) Bool.false_ne_true
  · rw [isIdentifierPart]
    rw [isIdentifierChar, isWord] at h
    rw [isOrnament] at hplain
    split at h
    · next hascii => rwa [if_pos hascii]
    · next hcode =>
      rw [if_neg hcode]
      rcases Bool.or_eq_true_iff.1 h with hword | hdollar
      · rw [hword, hplain]
        rfl
      · exact absurd (by rw [beq_iff_eq.1 hdollar]; decide) hcode

/-! ## Accepted names -/

/-- Whether a text has no ornament in it. -/
abbrev Unadorned (cs : List Char) : Prop := ∀ c ∈ cs, isOrnament c = false

/-- Whether all characters of a text are of ASCII. -/
def allAscii (cs : List Char) : Bool := cs.all (·.toNat < 128)

theorem toNat_of_allAscii (h : allAscii cs = true) (hc : c ∈ cs) : c.toNat < 128 :=
  of_decide_eq_true (List.all_eq_true.1 h c hc)

theorem unadorned_of_allAscii (h : allAscii cs = true) : Unadorned cs := fun _ hc =>
  isOrnament_ascii (toNat_of_allAscii h hc)

theorem toNat_of_isDigit (h : c.isDigit = true) : c.toNat < 128 :=
  Nat.lt_of_le_of_lt (Char.isDigit_iff_toNat.1 h).2 (by decide)

theorem toNat_of_isAlphanum (h : c.isAlphanum = true) : c.toNat < 128 :=
  (Bool.or_eq_true_iff.1 h).elim toNat_of_isAlpha toNat_of_isDigit

variable {name : String}

theorem isBindable_iff :
    isBindable name = true ↔ isIdentifier name.toList = true ∧ name ∉ reservedWords := by
  rw [isBindable, Bool.and_eq_true, Bool.not_eq_true', List.contains_eq_mem,
    decide_eq_false_iff_not]

theorem isIdentifier_cons_iff : isIdentifier (c :: cs) = true
    ↔ (c.isAlpha || c == '_' || c == '$') = true ∧ ∀ d ∈ cs, isIdentifierChar d = true := by
  rw [isIdentifier, Bool.and_eq_true, List.all_eq_true]

/-- **An accepted name starts as an identifier does**, with a character of ASCII. -/
theorem exists_cons_of_isIdentifier (h : isIdentifier cs = true) :
    ∃ c ds, cs = c :: ds ∧ c.toNat < 128 ∧ isIdentifierStart c = true ∧
      ∀ d ∈ ds, isIdentifierChar d = true := by
  cases cs with
  | nil => exact absurd h (by decide)
  | cons c ds =>
    obtain ⟨hc, hds⟩ := isIdentifier_cons_iff.1 h
    have hascii : c.toNat < 128 := by
      simp only [Bool.or_eq_true, beq_iff_eq] at hc
      rcases hc with (halpha | rfl) | rfl
      · exact toNat_of_isAlpha halpha
      · decide
      · decide
    exact ⟨c, ds, rfl, hascii, by rwa [isIdentifierStart, if_pos hascii], hds⟩

/-- **An ornament may go on with any accepted name.** -/
theorem isBindable_push (h : isBindable name = true) (hc : isOrnament c = true) :
    isBindable (name.push c) = true := by
  have hwords : reservedWords.all (fun word => allAscii word.toList) = true := by decide
  obtain ⟨hform, -⟩ := isBindable_iff.1 h
  obtain ⟨d, ds, hname, -⟩ := exists_cons_of_isIdentifier hform
  rw [hname, isIdentifier_cons_iff] at hform
  refine isBindable_iff.2 ⟨?_, fun hmem => ?_⟩
  · rw [String.toList_push, hname, List.cons_append, isIdentifier_cons_iff, List.forall_mem_append,
      List.forall_mem_singleton, isIdentifierChar, isWord_of_isOrnament hc]
    exact ⟨hform.1, hform.2, rfl⟩
  · have hlast : c ∈ (name.push c).toList := by simp
    have hplain := unadorned_of_allAscii (List.all_eq_true.1 hwords _ hmem) c hlast
    exact absurd (hplain.symm.trans hc) Bool.false_ne_true

end ElementBindings.Text
