import ElementBindings.Text.Blank
import ElementBindings.Text.Names
import Mathlib

/-!
# Proofs/Text/Names — component names and what hyphens make of them

A component name has letters, digits, `_` and `$` of ASCII only, so its letters change case one by
one.  Its hyphenated form without the hyphens is its lower-case form (`filter_kebab`), and
capitalising the pieces of that form gives the name back (`pascalCase_kebabCase`).  The other way
round, a stem whose pieces each start with a lower-case letter is the hyphenated form of its
component name (`kebabCase_pascalCase`).
-/

namespace ElementBindings.Text

/-! ## Letters -/

variable {c : Char}

/-- What is true of the first 128 code points is true of the characters of ASCII. -/
theorem of_ascii {p : Char → Bool} (h : (List.range 128).all (fun n => p (Char.ofNat n)) = true)
    (hc : c.toNat < 128) : p c = true := by
  simpa only [Char.ofNat_toNat] using List.all_eq_true.1 h c.toNat (List.mem_range.2 hc)

/-- The letters and signs of ASCII are not blank. -/
theorem isBlank_of_ascii (hlow : 0x20 < c.toNat) (hhigh : c.toNat < 0x7F) :
    isBlank c = false := by
  simp only [isBlank, Bool.or_eq_false_iff, Bool.and_eq_false_iff, decide_eq_false_iff_not,
    beq_eq_false_iff_ne]
  omega

theorem toNat_of_isUpper (h : c.isUpper = true) : 65 ≤ c.toNat ∧ c.toNat ≤ 90 := by
  have hrange : c.val ≥ 'A'.val ∧ c.val ≤ 'Z'.val := of_decide_eq_true h
  exact ⟨hrange.1, hrange.2⟩

theorem toNat_toLower_of_isUpper (h : c.isUpper = true) : c.toLower.toNat = c.toNat + 32 := by
  have hrange := toNat_of_isUpper h
  rw [Char.toLower_eq_of_isUpper h, Char.toNat_ofNat, if_pos (Or.inl (by omega))]

theorem toUpper_toLower_of_isUpper (h : c.isUpper = true) : c.toLower.toUpper = c := by
  rw [Char.toUpper_toLower_eq_toUpper,
    Char.toUpper_eq_of_not_isLower (Char.not_isLower_of_isUpper h)]

theorem toLower_toUpper_of_isLower (h : c.isLower = true) :
    c.toUpper.isUpper = true ∧ c.toUpper.toLower = c := by
  rw [Char.isUpper_toUpper_eq_isAlpha, Char.toLower_toUpper_eq_toLower,
    Char.toLower_eq_of_not_isUpper (Char.not_isUpper_of_isLower h)]
  exact ⟨Bool.or_eq_true_iff.2 (Or.inr h), rfl⟩

/-! ## Component names -/

variable {name : String} {cs : List Char}

/-- A component name starts with an upper-case letter. -/
theorem exists_cons_of_isComponentName (h : isComponentName name = true) :
    ∃ c cs, name.toList = c :: cs ∧ c.isUpper = true := by
  rw [isComponentName] at h
  split at h
  · exact absurd h (by simp)
  · next c cs hname => exact ⟨c, cs, hname, (Bool.and_eq_true_iff.1 h).1⟩

theorem isComponentChar_of_mem (h : isComponentName name = true) (hc : c ∈ name.toList) :
    isComponentChar c = true := by
  rw [isComponentName] at h
  split at h
  · exact absurd h (by simp)
  · next d ds hname =>
    obtain ⟨hd, hds⟩ := Bool.and_eq_true_iff.1 h
    rw [hname] at hc
    rcases List.mem_cons.1 hc with rfl | hc
    · have halpha : c.isAlphanum = true :=
        Bool.or_eq_true_iff.2 (Or.inl (Bool.or_eq_true_iff.2 (Or.inl hd)))
      rw [isComponentChar, halpha, Bool.true_or, Bool.true_or]
    · exact List.all_eq_true.1 hds c hc

/-- The characters of a component name come before the braces. -/
theorem toNat_of_isComponentChar (h : isComponentChar c = true) : c.toNat < 123 := by
  change (c.isUpper || c.isLower || c.isDigit || c == '_' || c == '$') = true at h
  simp only [Bool.or_eq_true, beq_iff_eq, or_assoc] at h
  rcases h with hupper | hlower | hdigit | rfl | rfl
  · exact Nat.lt_of_le_of_lt (toNat_of_isUpper hupper).2 (by decide)
  · have hlast : c.val ≤ 'z'.val := of_decide_eq_true (Bool.and_eq_true_iff.1 hlower).2
    exact Nat.lt_of_le_of_lt hlast (by decide)
  · exact Nat.lt_of_le_of_lt (Char.isDigit_iff_toNat.1 hdigit).2 (by decide)
  · decide
  · decide

theorem toNat_toLower_of_isComponentChar (h : isComponentChar c = true) :
    c.toLower.toNat < 123 := by
  by_cases hupper : c.isUpper = true
  · have hrange := toNat_of_isUpper hupper
    rw [toNat_toLower_of_isUpper hupper]
    omega
  · rw [Char.toLower_eq_of_not_isUpper hupper]
    exact toNat_of_isComponentChar h

/-- No character of a component name is a hyphen, in upper case or in lower. -/
theorem ne_hyphen_of_isComponentChar (h : isComponentChar c = true) :
    c ≠ '-' ∧ c.toLower ≠ '-' := by
  have hc := toNat_of_isComponentChar h
  have hall := of_ascii (c := c) (p := fun c => !isComponentChar c || c != '-' && c.toLower != '-')
    (by decide) (by omega)
  simpa [h] using hall

/-- **In lower case the characters of a component name change one by one.** -/
theorem lowerAfter_eq_map {before : List Char} (h : ∀ c ∈ cs, isComponentChar c = true) :
    lowerAfter before cs = cs.map Char.toLower := by
  induction cs generalizing before with
  | nil => rfl
  | cons c cs ih =>
    obtain ⟨hc, hcs⟩ := List.forall_mem_cons.1 h
    have hascii := toNat_of_isComponentChar hc
    have hsigma : c ≠ 'Σ' := by
      rintro rfl
      exact absurd hascii (by decide)
    rw [lowerAfter, if_neg hsigma, lower_ascii (by omega), ih hcs]
    rfl

theorem toList_lowerString (h : isComponentName name = true) :
    (lowerString name).toList = name.toList.map Char.toLower := by
  rw [lowerString, String.toList_ofList]
  exact lowerAfter_eq_map fun c hc => isComponentChar_of_mem h hc

/-! ## Hyphenated names -/

/-- The first character of a name has no hyphen before it. -/
theorem kebab_cons_ascii (h : c.toNat < 128) (cs : List Char) :
    kebab (c :: cs) = c.toLower :: kebabTail cs := by
  rw [kebab, isUpper_ascii h, lower_ascii h]
  split
  · rfl
  · next hupper =>
    rw [Char.toLower_eq_of_not_isUpper hupper]
    rfl

/-- A later one has, when it is a capital letter. -/
theorem kebabTail_cons_ascii (h : c.toNat < 128) (cs : List Char) :
    kebabTail (c :: cs)
      = if c.isUpper then '-' :: c.toLower :: kebabTail cs else c :: kebabTail cs := by
  rw [kebabTail, List.flatMap_cons, isUpper_ascii h, lower_ascii h]
  split <;> rfl

/-- **Hyphenated, only the capital letters of a component name change**, each of them by itself. -/
theorem mem_kebab (h : ∀ c ∈ cs, isComponentChar c = true) {d : Char}
    (hd : d ∈ kebab cs) : d = '-' ∨ ∃ c ∈ cs, d = c ∨ d = c.toLower := by
  have hlower : ∀ c ∈ cs, lower c = [c.toLower] := fun c hc =>
    lower_ascii (by have := toNat_of_isComponentChar (h c hc); omega)
  cases cs with
  | nil => exact absurd hd List.not_mem_nil
  | cons c cs =>
    rw [kebab, kebabTail, List.mem_append, List.mem_flatMap] at hd
    rcases hd with hd | ⟨e, he, hd⟩
    · rw [hlower c List.mem_cons_self] at hd
      split at hd <;> exact Or.inr ⟨c, List.mem_cons_self, by simp_all⟩
    · rw [hlower e (List.mem_cons_of_mem c he)] at hd
      split at hd
      · rcases List.mem_cons.1 hd with hd | hd
        · exact Or.inl hd
        · exact Or.inr ⟨e, List.mem_cons_of_mem c he, Or.inr (List.mem_singleton.1 hd)⟩
      · exact Or.inr ⟨e, List.mem_cons_of_mem c he, Or.inl (List.mem_singleton.1 hd)⟩

theorem filter_kebabTail (h : ∀ c ∈ cs, isComponentChar c = true) :
    (kebabTail cs).filter (· != '-') = cs.map Char.toLower := by
  induction cs with
  | nil => rfl
  | cons c cs ih =>
    obtain ⟨hc, hcs⟩ := List.forall_mem_cons.1 h
    have hascii := toNat_of_isComponentChar hc
    have hne := ne_hyphen_of_isComponentChar hc
    rw [kebabTail_cons_ascii (by omega), List.map_cons, ← ih hcs]
    split
    · simp [hne.2]
    · next hupper => simp [hne.1, Char.toLower_eq_of_not_isUpper hupper]

/-- **Without the hyphens, a hyphenated name is in lower case.** -/
theorem filter_kebab (h : ∀ c ∈ cs, isComponentChar c = true) :
    (kebab cs).filter (· != '-') = cs.map Char.toLower := by
  cases cs with
  | nil => rfl
  | cons c cs =>
    obtain ⟨hc, hcs⟩ := List.forall_mem_cons.1 h
    have hascii := toNat_of_isComponentChar hc
    rw [kebab_cons_ascii (by omega), List.map_cons, ← filter_kebabTail hcs]
    simp [(ne_hyphen_of_isComponentChar hc).2]

/-! ## Names told apart by their hyphens -/

variable {ds rest rest' : List Char}

/-- **Where two names differ in case only, the first difference is a hyphen.** -/
theorem kebabTail_append_inj (hcs : ∀ c ∈ cs, isComponentChar c = true)
    (hds : ∀ d ∈ ds, isComponentChar d = true) (hlower : cs.map Char.toLower = ds.map Char.toLower)
    (h : kebabTail cs ++ rest = kebabTail ds ++ rest') : cs = ds := by
  induction cs generalizing ds with
  | nil => exact (List.map_eq_nil_iff.1 hlower.symm).symm
  | cons c cs ih =>
    obtain ⟨d, ds, rfl⟩ := List.exists_cons_of_ne_nil (l := ds) (by rintro rfl; simp at hlower)
    obtain ⟨hc, hcs⟩ := List.forall_mem_cons.1 hcs
    obtain ⟨hd, hds⟩ := List.forall_mem_cons.1 hds
    obtain ⟨hhead, htail⟩ := List.cons.inj hlower
    have hcascii := toNat_of_isComponentChar hc
    have hdascii := toNat_of_isComponentChar hd
    rw [kebabTail_cons_ascii (by omega), kebabTail_cons_ascii (by omega)] at h
    -- a capital letter against a small one is a hyphen against a letter
    split at h <;> split at h <;> rename_i hcu hdu
    · have hcd : c = d := by
        rw [← toUpper_toLower_of_isUpper hcu, hhead, toUpper_toLower_of_isUpper hdu]
      rw [hcd, ih hcs hds htail (List.cons.inj (List.cons.inj h).2).2]
    · exact absurd (List.cons.inj h).1.symm (ne_hyphen_of_isComponentChar hd).1
    · exact absurd (List.cons.inj h).1 (ne_hyphen_of_isComponentChar hc).1
    · obtain ⟨hcd, h⟩ := List.cons.inj h
      rw [hcd, ih hcs hds htail h]

/-- **Two component names that differ in case only have hyphenated forms of which neither goes on
like the other.** -/
theorem eq_of_kebabCase_append {n m : String} (hn : isComponentName n = true)
    (hm : isComponentName m = true)
    (hlower : n.toList.map Char.toLower = m.toList.map Char.toLower)
    (h : (kebabCase n).toList ++ rest = (kebabCase m).toList ++ rest') : n = m := by
  have hncs := fun c => isComponentChar_of_mem (c := c) hn
  have hmcs := fun c => isComponentChar_of_mem (c := c) hm
  obtain ⟨c, cs, hnl, hc⟩ := exists_cons_of_isComponentName hn
  obtain ⟨d, ds, hml, hd⟩ := exists_cons_of_isComponentName hm
  rw [kebabCase, kebabCase, String.toList_ofList, String.toList_ofList] at h
  rw [← String.toList_inj]
  rw [hnl] at hncs hlower h ⊢
  rw [hml] at hmcs hlower h ⊢
  have hcrange := toNat_of_isUpper hc
  have hdrange := toNat_of_isUpper hd
  rw [kebab_cons_ascii (by omega), kebab_cons_ascii (by omega)] at h
  obtain ⟨hhead, htail⟩ := List.cons.inj hlower
  have hcd : c = d := by
    rw [← toUpper_toLower_of_isUpper hc, hhead, toUpper_toLower_of_isUpper hd]
  rw [hcd, kebabTail_append_inj (List.forall_mem_cons.1 hncs).2 (List.forall_mem_cons.1 hmcs).2
    htail (List.cons.inj h).2]

/-! ## Capitalised pieces -/

/-- The pieces of a text run together, when the first of them has begun already. -/
def pascalTail (sep : Char → Bool) (cs : List Char) : List Char :=
  (splitOn sep cs).headD [] ++ (splitOn sep cs).tail.flatMap capitalize

/-- A piece starts with its first character in upper case. -/
theorem pascal_cons (sep : Char → Bool) (c : Char) (cs : List Char) :
    pascal sep (c :: cs) = if sep c then pascal sep cs else upper c ++ pascalTail sep cs := by
  rw [pascal, splitOn]
  split
  · rfl
  · rw [List.flatMap_cons, capitalize, List.append_assoc, pascalTail]

/-- It goes on as it is. -/
theorem pascalTail_cons (sep : Char → Bool) (c : Char) (cs : List Char) :
    pascalTail sep (c :: cs) = if sep c then pascal sep cs else c :: pascalTail sep cs := by
  rw [pascalTail, splitOn]
  split <;> rfl

theorem pascalTail_kebabTail (h : ∀ c ∈ cs, isComponentChar c = true) :
    pascalTail (· == '-') (kebabTail cs) = cs := by
  induction cs with
  | nil => rfl
  | cons c cs ih =>
    obtain ⟨hc, hcs⟩ := List.forall_mem_cons.1 h
    have hascii := toNat_of_isComponentChar hc
    have hlower := toNat_toLower_of_isComponentChar hc
    have hne := ne_hyphen_of_isComponentChar hc
    rw [kebabTail_cons_ascii (by omega)]
    split
    · next hupper =>
      rw [pascalTail_cons, if_pos (by decide), pascal_cons, if_neg (by simpa using hne.2),
        upper_ascii (by omega), toUpper_toLower_of_isUpper hupper, ih hcs, List.singleton_append]
    · rw [pascalTail_cons, if_neg (by simpa using hne.1), ih hcs]

/-- **A component name is the component name of its hyphenated form.** -/
theorem pascalCase_kebabCase (h : isComponentName name = true) :
    pascalCase (kebabCase name) = name := by
  have hchars := fun c => isComponentChar_of_mem (c := c) h
  obtain ⟨c, cs, hname, hc⟩ := exists_cons_of_isComponentName h
  have hrange := toNat_of_isUpper hc
  have hlower := toNat_toLower_of_isUpper hc
  rw [← String.toList_inj, pascalCase, kebabCase, String.toList_ofList, String.toList_ofList]
  rw [hname] at hchars ⊢
  obtain ⟨hc', hcs⟩ := List.forall_mem_cons.1 hchars
  rw [kebab_cons_ascii (by omega), pascal_cons,
    if_neg (by simpa using (ne_hyphen_of_isComponentChar hc').2), upper_ascii (by omega),
    toUpper_toLower_of_isUpper hc, pascalTail_kebabTail hcs, List.singleton_append]

/-! ## Stems -/

/-- **A stem that is made of words**: its characters are of ASCII, none of them is an upper-case
letter, and each of its pieces starts with a lower-case one. -/
structure IsStem (s : String) : Prop where
  plain : ∀ c ∈ s.toList, c.toNat < 128 ∧ c.isUpper = false
  heads : ∀ piece ∈ splitOn (· == '-') s.toList, piece.head?.any Char.isLower = true

instance (s : String) : Decidable (IsStem s) :=
  decidable_of_iff
    ((s.toList.all fun c => c.toNat < 128 && !c.isUpper) = true ∧
      ((splitOn (· == '-') s.toList).all fun piece => piece.head?.any Char.isLower) = true)
    ⟨fun h => ⟨by simpa using h.1, by simpa using h.2⟩,
      fun h => ⟨by simpa using h.plain, by simpa using h.heads⟩⟩

theorem exists_cons_of_heads {sep p : Char → Bool}
    (h : ∀ piece ∈ splitOn sep cs, piece.head?.any p = true) :
    ∃ d ds, cs = d :: ds ∧ sep d = false ∧ p d = true ∧
      ∀ piece ∈ (splitOn sep ds).tail, piece.head?.any p = true := by
  cases cs with
  | nil => exact absurd (h [] (by simp)) (by simp)
  | cons d ds =>
    rw [splitOn] at h
    split at h
    · exact absurd (h [] List.mem_cons_self) (by simp)
    · next hsep =>
      obtain ⟨hd, htail⟩ := List.forall_mem_cons.1 h
      exact ⟨d, ds, rfl, by simpa using hsep, by simpa using hd, htail⟩

/-- **Behind its first letter, a stem is got back from its capitals**, each of which gives way to a
hyphen and a small letter. -/
theorem kebabTail_pascalTail (hplain : ∀ c ∈ cs, c.toNat < 128 ∧ c.isUpper = false)
    (hheads : ∀ piece ∈ (splitOn (· == '-') cs).tail, piece.head?.any Char.isLower = true) :
    kebabTail (pascalTail (· == '-') cs) = cs := by
  induction cs with
  | nil => rfl
  | cons c cs ih =>
    obtain ⟨hc, hcs⟩ := List.forall_mem_cons.1 hplain
    rw [splitOn] at hheads
    split at hheads
    · next hsep =>
      -- a piece ends here, so the next character is the letter that becomes a capital
      obtain rfl : c = '-' := by simpa using hsep
      obtain ⟨d, ds, rfl, hd, hlower, htail⟩ := exists_cons_of_heads hheads
      have hdplain := (List.forall_mem_cons.1 hcs).1
      obtain ⟨hupper, hback⟩ := toLower_toUpper_of_isLower hlower
      have hascii := toNat_of_isUpper hupper
      have hds : kebabTail (pascalTail (· == '-') (d :: ds)) = d :: ds := by
        refine ih hcs ?_
        rw [splitOn, if_neg (by simpa using hd)]
        exact htail
      rw [pascalTail_cons, if_neg (by simpa using hd), kebabTail_cons_ascii hdplain.1,
        if_neg (by simp [hdplain.2])] at hds
      rw [pascalTail_cons, if_pos (by decide), pascal_cons, if_neg (by simpa using hd),
        upper_ascii hdplain.1, List.singleton_append, kebabTail_cons_ascii (by omega),
        if_pos hupper, hback, (List.cons.inj hds).2]
    · next hsep =>
      rw [pascalTail_cons, if_neg hsep, kebabTail_cons_ascii hc.1, if_neg (by simp [hc.2]),
        ih hcs hheads]

/-- **A stem is the hyphenated form of its component name.** -/
theorem kebabCase_pascalCase {s : String} (h : IsStem s) : kebabCase (pascalCase s) = s := by
  obtain ⟨c, cs, hs, hsep, hlower, htail⟩ := exists_cons_of_heads h.heads
  obtain ⟨hc, hcs⟩ := List.forall_mem_cons.1 (hs ▸ h.plain)
  obtain ⟨hupper, hback⟩ := toLower_toUpper_of_isLower hlower
  have hascii := toNat_of_isUpper hupper
  rw [← String.toList_inj, kebabCase, pascalCase, String.toList_ofList, String.toList_ofList, hs,
    pascal_cons, if_neg (by simpa using hsep), upper_ascii hc.1, List.singleton_append,
    kebab_cons_ascii (by omega), hback, kebabTail_pascalTail hcs htail]

end ElementBindings.Text
