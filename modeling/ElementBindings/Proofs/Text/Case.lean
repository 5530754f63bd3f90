import ElementBindings.Text.Names
import Mathlib.Data.List.Basic

/-!
# Proofs/Text/Case — upper case stays among the word characters

The tables of upper case and of word characters suit each other: a character whose upper case is
not itself is a word character, and so is every character of its upper case (`upper_cases`).  So a
capitalised piece has the characters of the piece, as far as words go (`forall_mem_capitalize_iff`).
-/

namespace ElementBindings.Text

/-! ## Code points of words -/

/-- Whether one row of the table of words holds all code points from `first` to `last`. -/
def coversWords (first last : ℕ) : Bool :=
  wordRanges.toList.any fun r => r.1.ble first && last.ble r.2

/-- Whether a code point is that of a word character. -/
def isWordCode (n : ℕ) : Bool :=
  if n < 128 then (Char.ofNat n).isAlphanum || Char.ofNat n == '_' else coversWords n n

theorem coversWords_iff {first last : ℕ} :
    coversWords first last = true ↔ ∃ r ∈ wordRanges.toList, r.1 ≤ first ∧ last ≤ r.2 := by
  simp only [coversWords, List.any_eq_true, Bool.and_eq_true, Nat.ble_eq]

theorem inRanges_iff {table : Array (ℕ × ℕ)} {c : Char} :
    inRanges table c = true ↔ ∃ r ∈ table.toList, r.1 ≤ c.toNat ∧ c.toNat ≤ r.2 := by
  rw [inRanges, Array.any_eq_true']
  simp only [Array.mem_toList_iff, Bool.and_eq_true, decide_eq_true_eq]

theorem isWord_eq_isWordCode (c : Char) : isWord c = isWordCode c.toNat := by
  rw [isWord, isWordCode, Char.ofNat_toNat]
  split
  · rfl
  · rw [Bool.eq_iff_iff, coversWords_iff, inRanges_iff]

/-- The rows of the table of words hold code points of characters only, and none below 128. -/
theorem wordRanges_valid :
    wordRanges.toList.all (fun r => Nat.ble 128 r.1 &&
      (r.2.ble 0xD7FF || Nat.ble 0xE000 r.1 && r.2.ble 0x10FFFF)) = true := by
  decide +kernel

theorem isWordCode_of_coversWords {first last n : ℕ} (h : coversWords first last = true)
    (hfirst : first ≤ n) (hlast : n ≤ last) : isWordCode n = true := by
  obtain ⟨r, hr, h1, h2⟩ := coversWords_iff.1 h
  have hvalid := List.all_eq_true.1 wordRanges_valid r hr
  simp only [Bool.and_eq_true, Nat.ble_eq] at hvalid
  rw [isWordCode, if_neg (by omega), coversWords_iff]
  exact ⟨r, hr, by omega, by omega⟩

/-- **The character of such a code point is a word character.** -/
theorem isWord_ofNat {n : ℕ} (h : isWordCode n = true) : isWord (Char.ofNat n) = true := by
  have hvalid : n.isValidChar := by
    rw [isWordCode] at h
    split at h
    · exact Or.inl (by omega)
    · obtain ⟨r, hr, h1, h2⟩ := coversWords_iff.1 h
      have hrow := List.all_eq_true.1 wordRanges_valid r hr
      simp only [Bool.and_eq_true, Bool.or_eq_true, Nat.ble_eq] at hrow
      rw [Nat.isValidChar]
      omega
  have hcode : (Char.ofNat n).toNat = n := by
    rw [Char.ofNat, dif_pos hvalid]
    rfl
  rw [isWord_eq_isWordCode, hcode, h]

/-! ## The tables of upper case -/

theorem isWordCode_upperSpecials :
    upperSpecials.toList.all (fun s => isWordCode s.1 && s.2.all isWordCode) = true := by
  decide +kernel

theorem coversWords_upperRuns :
    upperRuns.toList.all (fun r => coversWords r.first r.last) = true := by
  decide +kernel

/-- The images of a run lie in one row of the table of words, or are word characters one by one. -/
theorem isWordCode_image_upperRuns :
    upperRuns.toList.all (fun r => coversWords r.image (r.image + (r.last - r.first)) ||
      (List.range (r.last - r.first + 1)).all fun k =>
        k % r.step != 0 || isWordCode (r.image + k)) = true := by
  decide +kernel

/-- **A run leads from word characters to word characters.** -/
theorem isWordCode_of_image? {r : CaseRun} {n image : ℕ} (hr : r ∈ upperRuns.toList)
    (h : r.image? n = some image) : isWordCode n = true ∧ isWordCode image = true := by
  rw [CaseRun.image?, Option.ite_none_right_eq_some] at h
  obtain ⟨⟨hfirst, hlast, hstep⟩, himage⟩ := h
  obtain rfl := Option.some.inj himage
  have hwords := List.all_eq_true.1 coversWords_upperRuns r hr
  refine ⟨isWordCode_of_coversWords hwords hfirst hlast, ?_⟩
  rcases Bool.or_eq_true_iff.1 (List.all_eq_true.1 isWordCode_image_upperRuns r hr) with hrow | hall
  · exact isWordCode_of_coversWords hrow (by omega) (by omega)
  · have hk := List.all_eq_true.1 hall (n - r.first) (List.mem_range.2 (by omega))
    simpa only [hstep, bne_self_eq_false, Bool.false_or] using hk

/-! ## Upper case -/

theorem upper_ascii_cases {c : Char} (h : c.toNat < 128) :
    upper c = [c] ∨ isWord c = true ∧ ∀ d ∈ upper c, isWord d = true := by
  have hall : (List.range 128).all (fun n => (Char.ofNat n).toUpper == Char.ofNat n ||
      isWordCode n && isWordCode (Char.ofNat n).toUpper.toNat) = true := by decide
  have hc := List.all_eq_true.1 hall c.toNat (List.mem_range.2 h)
  rw [Char.ofNat_toNat, Bool.or_eq_true, beq_iff_eq, Bool.and_eq_true] at hc
  rw [upper_ascii h]
  refine hc.imp (congrArg ([·])) fun hwords => ?_
  simpa only [List.mem_singleton, forall_eq, isWord_eq_isWordCode] using hwords

/-- **A character is its own upper case, or is a word character with an upper case of such.** -/
theorem upper_cases (c : Char) :
    upper c = [c] ∨ isWord c = true ∧ ∀ d ∈ upper c, isWord d = true := by
  by_cases hascii : c.toNat < 128
  · exact upper_ascii_cases hascii
  rw [upper, if_neg hascii]
  cases hspecial : upperSpecials.find? (·.1 == c.toNat) with
  | some special =>
    -- one of the characters whose upper case is several
    have hcode := Array.find?_some hspecial
    have hwords := List.all_eq_true.1 isWordCode_upperSpecials special
      (Array.mem_toList_iff.2 (Array.mem_of_find?_eq_some hspecial))
    rw [beq_iff_eq] at hcode
    rw [Bool.and_eq_true, hcode, ← isWord_eq_isWordCode] at hwords
    refine Or.inr ⟨hwords.1, fun d hd => ?_⟩
    obtain ⟨n, hn, rfl⟩ := List.mem_map.1 hd
    exact isWord_ofNat (List.all_eq_true.1 hwords.2 n hn)
  | none =>
    cases himage : runImage? upperRuns c.toNat with
    | none => exact Or.inl rfl
    | some image =>
      obtain ⟨r, hr, himage⟩ := Array.exists_of_findSome?_eq_some himage
      obtain ⟨hc, himage⟩ := isWordCode_of_image? (Array.mem_toList_iff.2 hr) himage
      refine Or.inr ⟨(isWord_eq_isWordCode c).trans hc, fun d hd => ?_⟩
      obtain rfl := List.mem_singleton.1 hd
      exact isWord_ofNat himage

/-! ## Capitalised pieces -/

variable {p : Char → Bool}

/-- Upper case has the characters of a class that contains the word characters just when the
character is of it. -/
theorem forall_mem_upper_iff (hp : ∀ c, isWord c = true → p c = true) {c : Char} :
    (∀ d ∈ upper c, p d = true) ↔ p c = true := by
  rcases upper_cases c with hc | ⟨hc, hd⟩
  · rw [hc, List.forall_mem_singleton]
  · exact iff_of_true (fun d hd' => hp d (hd d hd')) (hp c hc)

theorem forall_mem_capitalize_iff (hp : ∀ c, isWord c = true → p c = true) {cs : List Char} :
    (∀ d ∈ capitalize cs, p d = true) ↔ ∀ c ∈ cs, p c = true := by
  cases cs with
  | nil => rfl
  | cons c cs =>
    rw [capitalize, List.forall_mem_append, List.forall_mem_cons, forall_mem_upper_iff hp]

/-- What the pieces of a text have in common is common to all that separates nothing. -/
theorem forall_mem_splitOn_iff {sep : Char → Bool} {cs : List Char} :
    (∀ piece ∈ splitOn sep cs, ∀ c ∈ piece, p c = true) ↔ ∀ c ∈ cs, sep c = true ∨ p c = true := by
  induction cs with
  | nil => simp
  | cons c cs ih =>
    obtain ⟨piece, pieces, hpieces⟩ := List.exists_cons_of_ne_nil (splitOn_ne_nil sep cs)
    rw [hpieces, List.forall_mem_cons] at ih
    rw [List.forall_mem_cons, ← ih, splitOn, hpieces]
    split
    · next hsep => simp [hsep]
    · next hsep => simp [hsep, and_assoc]

/-- **Run together in upper case, the pieces have the characters of the text**, as far as they are
of a class that contains the word characters. -/
theorem forall_mem_pascal_iff (hp : ∀ c, isWord c = true → p c = true) {sep : Char → Bool}
    {cs : List Char} :
    (∀ d ∈ pascal sep cs, p d = true) ↔ ∀ c ∈ cs, sep c = true ∨ p c = true := by
  rw [pascal, List.forall_mem_flatMap, ← forall_mem_splitOn_iff]
  exact forall₂_congr fun piece _ => forall_mem_capitalize_iff hp

end ElementBindings.Text
