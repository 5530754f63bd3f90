import ElementBindings.Proofs.List
import ElementBindings.Proofs.Text.Case
import ElementBindings.Proofs.Text.Cutting
import ElementBindings.Proofs.Text.Names

/-!
# Proofs/Text/Scan — what is found in free text

A find is read at some place of the text (`exists_read_of_search`), and a recogniser of things that
all begin with one character passes over text without it (`search_append_of_notMem`).  A scan goes
on behind each find (`scan_of_read`).  A name is read up to the first character that cannot go on
with it (`name?_append`).
-/

namespace ElementBindings.Text

/-! ## Finding -/

section Search

variable {α : Type} {read : List Char → Option (α × List Char)} {cs : List Char}

/-- What is found in a text is read at some place of it. -/
theorem exists_read_of_search {a : α} (h : search read cs = some a) :
    ∃ place rest, place <:+ cs ∧ read place = some (a, rest) := by
  induction cs with
  | nil => exact absurd h (Option.some_ne_none _).symm
  | cons c cs ih =>
    rw [search] at h
    split at h
    · next b rest hread => exact ⟨_, rest, List.suffix_rfl, Option.some.inj h ▸ hread⟩
    · obtain ⟨place, rest, hplace, hread⟩ := ih h
      exact ⟨place, rest, hplace.trans (List.suffix_cons c cs), hread⟩

/-- Where nothing is read at any place, nothing is found. -/
theorem search_eq_none (h : ∀ place, place <:+ cs → read place = none) :
    search read cs = none := by
  cases hsearch : search read cs with
  | none => rfl
  | some a =>
    obtain ⟨place, rest, hplace, hread⟩ := exists_read_of_search hsearch
    exact absurd ((h place hplace).symm.trans hread) (Option.some_ne_none _).symm

/-- What is read at the start of a text is found in it. -/
theorem search_of_read {a : α} {rest : List Char} (hne : cs ≠ [])
    (h : read cs = some (a, rest)) : search read cs = some a := by
  obtain ⟨c, cs, rfl⟩ := List.exists_cons_of_ne_nil hne
  rw [search, h]

/-- **Text without the character that finds begin with is passed over.** -/
theorem search_append_of_notMem {d : Char} (hread : ∀ c cs, c ≠ d → read (c :: cs) = none)
    {lead : List Char} (h : d ∉ lead) (cs : List Char) :
    search read (lead ++ cs) = search read cs := by
  induction lead with
  | nil => rfl
  | cons c lead ih =>
    rw [List.mem_cons, not_or] at h
    rw [List.cons_append, search, hread c _ (Ne.symm h.1)]
    exact ih h.2

theorem search_of_notMem {d : Char} (hread : ∀ c cs, c ≠ d → read (c :: cs) = none)
    (h : d ∉ cs) : search read cs = none := by
  simpa [search] using search_append_of_notMem hread h []

/-- A find that can begin nowhere else begins at the start. -/
theorem search_cons_of_notMem {d : Char} (hread : ∀ c cs, c ≠ d → read (c :: cs) = none)
    (h : d ∉ cs) : search read (d :: cs) = (read (d :: cs)).map Prod.fst := by
  rw [search, search_of_notMem hread h]
  cases read (d :: cs) <;> rfl

end Search

/-! ## Scanning -/

section Scan

variable {α : Type} {read : List Char → Option (α × List Char)}

/-- The characters of a find are passed over. -/
theorem scanFrom_append (read : List Char → Option (α × List Char)) (found cs : List Char) :
    scanFrom read found.length (found ++ cs) = scan read cs := by
  induction found with
  | nil => rfl
  | cons c found ih => exact ih

/-- **Scanning goes on behind what is read.** -/
theorem scan_of_read {a : α} {found rest : List Char} (hne : found ≠ [])
    (h : read (found ++ rest) = some (a, rest)) :
    scan read (found ++ rest) = a :: scan read rest := by
  obtain ⟨c, found, rfl⟩ := List.exists_cons_of_ne_nil hne
  rw [List.cons_append] at h ⊢
  rw [scan, scanFrom, h]
  dsimp only
  rw [List.length_append, Nat.add_sub_cancel, scanFrom_append]

/-- **Text is passed over if nothing is read at any place of it.** -/
theorem scan_append_of_forall {lead cs : List Char}
    (h : ∀ place, place <:+ lead → place ≠ [] → read (place ++ cs) = none) :
    scan read (lead ++ cs) = scan read cs := by
  induction lead with
  | nil => rfl
  | cons c lead ih =>
    have hc := h (c :: lead) List.suffix_rfl (List.cons_ne_nil c lead)
    rw [List.cons_append] at hc ⊢
    rw [scan, scanFrom, hc]
    exact ih fun place hplace => h place (hplace.trans (List.suffix_cons c lead))

theorem scan_cons_of_none {c : Char} {cs : List Char} (h : read (c :: cs) = none) :
    scan read (c :: cs) = scan read cs := by
  rw [scan, scanFrom, h]
  rfl

/-- **A text is scanned by itself if each place of it reads the same with more text behind.** -/
theorem scan_append_of_read {lead cs : List Char}
    (hrest : ∀ place a rest, read place = some (a, rest) → ∃ found ≠ [], place = found ++ rest)
    (h : ∀ place, place <:+ lead → place ≠ [] →
      read (place ++ cs) = (read place).map fun found => (found.1, found.2 ++ cs)) :
    scan read (lead ++ cs) = scan read lead ++ scan read cs := by
  induction hlen : lead.length using Nat.strongRecOn generalizing lead with
  | ind n ih =>
    cases lead with
    | nil => rfl
    | cons c lead =>
      have hplace := h (c :: lead) List.suffix_rfl (List.cons_ne_nil c lead)
      have hmore : ∀ rest, rest <:+ c :: lead → rest.length < n →
          scan read (rest ++ cs) = scan read rest ++ scan read cs := fun rest hsuffix hlt =>
        ih _ hlt (fun place hp => h place (hp.trans hsuffix)) rfl
      cases hread : read (c :: lead) with
      | none =>
        rw [hread, List.cons_append] at hplace
        rw [List.cons_append, scan_cons_of_none hplace, scan_cons_of_none hread]
        exact hmore lead (List.suffix_cons c lead) (by simp [← hlen])
      | some found =>
        obtain ⟨a, rest⟩ := found
        obtain ⟨found, hne, hfound⟩ := hrest _ _ _ hread
        rw [hread, hfound, List.append_assoc] at hplace
        rw [hfound] at hread
        rw [hfound, List.append_assoc, scan_of_read hne hplace, scan_of_read hne hread,
          hmore rest ⟨found, hfound.symm⟩ ?_, List.cons_append]
        have hpos := List.length_pos_of_ne_nil hne
        rw [← hlen, hfound, List.length_append]
        omega

end Scan

/-! ## Occurrences -/

section Occurrences

variable {word before after : List Char} {d : Char}

/-- A text contains what stands in it. -/
theorem contains_iff {cs : List Char} : contains word cs = true ↔ word <:+: cs := by
  induction cs with
  | nil => rw [contains, List.isEmpty_iff, List.infix_nil]
  | cons c cs ih =>
    rw [contains, Bool.or_eq_true_iff, List.isPrefixOf_iff_prefix, ih, List.infix_cons_iff]

end Occurrences

/-! ## White space -/

variable {c : Char} {cs : List Char}

/-- **No character of a word is blank.** -/
theorem isBlank_of_isWord (h : isWord c = true) : isBlank c = false := by
  have hcodes : ∀ n ∈ [0x9, 0xA, 0xB, 0xC, 0xD, 0x20, 0x85, 0xA0, 0x1680, 0x2000, 0x2001, 0x2002,
      0x2003, 0x2004, 0x2005, 0x2006, 0x2007, 0x2008, 0x2009, 0x200A, 0x2028, 0x2029, 0x202F,
      0x205F, 0x3000], isWordCode n = false := by decide +kernel
  by_contra hblank
  rw [Bool.not_eq_false] at hblank
  simp only [isBlank, Bool.or_eq_true, Bool.and_eq_true, decide_eq_true_eq, beq_iff_eq] at hblank
  rw [isWord_eq_isWordCode, hcodes c.toNat (by simp only [List.mem_cons]; omega)] at h
  exact absurd h (by decide)

theorem skipBlank?_space (hc : isBlank c = false) (cs : List Char) :
    skipBlank? (' ' :: c :: cs) = some (c :: cs) := by
  rw [skipBlank?, if_pos (by decide), skipBlank_cons hc]

/-! ## Names -/

/-- **Whether a text is a name**: a letter of ASCII or `_`, and more characters of a class. -/
def isName (part : Char → Bool) : List Char → Bool
  | [] => false
  | c :: cs => (c.isAlpha || c == '_') && cs.all part

variable {part : Char → Bool} {name : List Char}

/-- The letters that `isAlpha` knows are those of ASCII. -/
theorem toNat_of_isAlpha (h : c.isAlpha = true) : c.toNat < 128 := by
  rcases Bool.or_eq_true_iff.1 h with h | h
  · have hrange : c.val ≥ 'A'.val ∧ c.val ≤ 'Z'.val := of_decide_eq_true h
    exact Nat.lt_of_le_of_lt hrange.2 (by decide)
  · have hlast : c.val ≤ 'z'.val := of_decide_eq_true (Bool.and_eq_true_iff.1 h).2
    exact Nat.lt_of_le_of_lt hlast (by decide)

theorem isWord_of_isAlpha (h : c.isAlpha = true) : isWord c = true :=
  isWord_of_isAlphanum (Bool.or_eq_true_iff.2 (Or.inl h)) (toNat_of_isAlpha h)

/-- A name starts with a character of words. -/
theorem exists_cons_of_isName (h : isName part name = true) :
    ∃ c cs, name = c :: cs ∧ (c.isAlpha || c == '_') = true ∧ isWord c = true ∧
      ∀ d ∈ cs, part d = true := by
  cases name with
  | nil => exact absurd h (by simp [isName])
  | cons c cs =>
    obtain ⟨hc, hcs⟩ := Bool.and_eq_true_iff.1 h
    refine ⟨c, cs, rfl, hc, ?_, List.all_eq_true.1 hcs⟩
    rcases Bool.or_eq_true_iff.1 hc with hc | hc
    · exact isWord_of_isAlpha hc
    · obtain rfl := beq_iff_eq.1 hc
      decide

/-- A character that belongs to no word stands in a name only if it may go on with it. -/
theorem notMem_of_isName (hword : isWord c = false) (hpart : part c = false)
    (h : isName part name = true) : c ∉ name := by
  obtain ⟨d, cs, rfl, -, hd, hcs⟩ := exists_cons_of_isName h
  rw [List.mem_cons]
  rintro (rfl | hmem)
  · exact absurd (hword.symm.trans hd) (by decide)
  · exact absurd (hpart.symm.trans (hcs c hmem)) (by decide)

/-- A name has no white space in it, if its further characters are none. -/
theorem isBlank_of_mem_name (hpart : ∀ c, part c = true → isBlank c = false)
    (h : isName part name = true) : ∀ c ∈ name, isBlank c = false := by
  obtain ⟨c, cs, rfl, -, hc, hcs⟩ := exists_cons_of_isName h
  exact List.forall_mem_cons.2 ⟨isBlank_of_isWord hc, fun d hd => hpart d (hcs d hd)⟩

/-- **Text is trimmed no further than up to a name.** -/
theorem trimEnd_append_name (hpart : ∀ c, part c = true → isBlank c = false)
    (h : isName part name = true) (lead tail : List Char) :
    trimEnd (lead ++ (name ++ tail)) = lead ++ (name ++ trimEnd tail) := by
  have hne : name ≠ [] := by
    obtain ⟨c, cs, rfl, -⟩ := exists_cons_of_isName h
    exact List.cons_ne_nil c cs
  have hlast := isBlank_of_mem_name hpart h _ (List.getLast_mem hne)
  have hsplit : ∀ more, lead ++ (name ++ more)
      = (lead ++ name.dropLast) ++ name.getLast hne :: more := fun more => by
    conv_lhs => rw [← List.dropLast_concat_getLast hne]
    simp
  rw [hsplit, hsplit]
  exact dropEnd_append_cons hlast _ tail

/-- **A name is read up to the first character that cannot go on with it.** -/
theorem name?_append (h : isName part name = true) {rest : List Char}
    (hrest : ∀ c ∈ rest.head?, part c = false) :
    name? part (name ++ rest) = some (name, rest) := by
  obtain ⟨c, cs, rfl, hc, -, hcs⟩ := exists_cons_of_isName h
  have hstop : rest.takeWhile part = [] ∧ rest.dropWhile part = rest := by
    cases rest with
    | nil => exact ⟨rfl, rfl⟩
    | cons d rest =>
      have hd := hrest d rfl
      exact ⟨List.takeWhile_cons_of_neg (by simp [hd]), List.dropWhile_cons_of_neg (by simp [hd])⟩
  rw [List.cons_append, name?, if_pos hc, List.takeWhile_append_of_pos hcs,
    List.dropWhile_append_of_pos hcs, hstop.1, hstop.2, List.append_nil]

/-- A name has letters, underscores and the characters asked for. -/
theorem forall_of_name? (hpart : ∀ c, isWord c = true → part c = true)
    {rest : List Char} (h : name? part cs = some (name, rest)) :
    ∀ c ∈ name, part c = true := by
  cases cs with
  | nil => exact absurd h (Option.some_ne_none _).symm
  | cons c cs =>
    rw [name?, Option.ite_none_right_eq_some] at h
    obtain ⟨hc, h⟩ := h
    obtain ⟨rfl, -⟩ := Prod.mk.inj (Option.some.inj h)
    rw [List.forall_mem_cons]
    refine ⟨hpart c ?_, List.all_eq_true.1 List.all_takeWhile⟩
    rcases Bool.or_eq_true_iff.1 hc with hc | hc
    · exact isWord_of_isAlpha hc
    · obtain rfl := beq_iff_eq.1 hc
      decide

end ElementBindings.Text
