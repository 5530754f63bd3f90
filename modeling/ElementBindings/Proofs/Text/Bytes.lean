import ElementBindings.Text.Basic
import Mathlib.Data.List.Infix

/-!
# Proofs/Text/Bytes — the bytes of a text

A character below 128 is one byte, and the bytes of any other one are all 128 or above.  So a byte
below 128 stands for its character wherever it is found (`exists_append_of_utf8_eq`), and a word of
such characters is found in the bytes of a text just where it is found in the text
(`utf8_infix_iff`).
-/

namespace ElementBindings.Text

variable {c d : Char} {cs word : List Char} {xs ys : List UInt8}

/-- The bytes that characters are written with. -/
def utf8 (cs : List Char) : List UInt8 := cs.flatMap String.utf8EncodeChar

theorem utf8_append (as bs : List Char) : utf8 (as ++ bs) = utf8 as ++ utf8 bs :=
  List.flatMap_append

/-! ## One character -/

/-- Whether a character is written with a single byte. -/
def IsAscii (c : Char) : Prop := c.toNat < 128

instance (c : Char) : Decidable (IsAscii c) := inferInstanceAs (Decidable (_ < _))

/-- The byte of a character that is written with one. -/
def asciiByte (c : Char) : UInt8 := UInt8.ofNat c.toNat

theorem IsAscii.toNat_asciiByte (h : IsAscii c) : (asciiByte c).toNat = c.toNat :=
  Nat.mod_eq_of_lt (h.trans (by decide))

theorem IsAscii.utf8EncodeChar (h : IsAscii c) : String.utf8EncodeChar c = [asciiByte c] :=
  if_pos (Nat.lt_succ_iff.1 h)

theorem IsAscii.eq_of_asciiByte (hc : IsAscii c) (hd : IsAscii d)
    (h : asciiByte c = asciiByte d) : c = d := by
  have hnat := congrArg UInt8.toNat h
  rw [hc.toNat_asciiByte, hd.toNat_asciiByte] at hnat
  exact Char.toNat_inj.1 hnat

/-- **All bytes of any other character are large.** -/
theorem le_toNat_of_mem_utf8EncodeChar (hc : ¬IsAscii c) {b : UInt8}
    (hb : b ∈ String.utf8EncodeChar c) : 128 ≤ b.toNat := by
  have hbyte : ∀ n < 256, (UInt8.ofNat n).toNat = n := fun n hn => Nat.mod_eq_of_lt hn
  have hc : ¬c.val.toNat ≤ 127 := fun h => hc (Nat.lt_succ_iff.2 h)
  simp only [String.utf8EncodeChar, if_neg hc] at hb
  split_ifs at hb <;> simp only [List.mem_cons, List.not_mem_nil, or_false] at hb <;>
    rcases hb with rfl | rfl | rfl | rfl <;> rw [hbyte _ (by omega)] <;> omega

theorem asciiByte_notMem_utf8EncodeChar (hd : IsAscii d) (h : c ≠ d) :
    asciiByte d ∉ String.utf8EncodeChar c := by
  intro hb
  by_cases hc : IsAscii c
  · rw [hc.utf8EncodeChar, List.mem_singleton] at hb
    exact h (hc.eq_of_asciiByte hd hb.symm)
  · have hlarge := le_toNat_of_mem_utf8EncodeChar hc hb
    rw [hd.toNat_asciiByte] at hlarge
    exact absurd hd (Nat.not_lt.2 hlarge)

/-! ## Characters in a text -/

theorem utf8_cons (c : Char) (cs : List Char) :
    utf8 (c :: cs) = String.utf8EncodeChar c ++ utf8 cs := List.flatMap_cons

theorem utf8_eq_nil_iff : utf8 cs = [] ↔ cs = [] := by
  cases cs with
  | nil => exact iff_of_true rfl rfl
  | cons c cs =>
    refine iff_of_false (fun h => ?_) (List.cons_ne_nil c cs)
    have hlength := congrArg List.length (List.append_eq_nil_iff.1 h).1
    rw [String.length_utf8EncodeChar] at hlength
    exact absurd hlength c.utf8Size_pos.ne'

/-- **A small byte stands for its character**, and parts a text where the character does. -/
theorem exists_append_of_utf8_eq (hd : IsAscii d) (h : utf8 cs = xs ++ asciiByte d :: ys) :
    ∃ as bs, cs = as ++ d :: bs ∧ utf8 as = xs ∧ utf8 bs = ys := by
  induction cs generalizing xs with
  | nil => exact absurd h.symm (by simp [utf8])
  | cons c cs ih =>
    have hbehind : ∀ zs, xs = String.utf8EncodeChar c ++ zs → utf8 cs = zs ++ asciiByte d :: ys →
        ∃ as bs, c :: cs = as ++ d :: bs ∧ utf8 as = xs ∧ utf8 bs = ys := by
      rintro zs rfl hcs
      obtain ⟨as, bs, rfl, rfl, rfl⟩ := ih hcs
      exact ⟨c :: as, bs, rfl, utf8_cons c as, rfl⟩
    rw [utf8_cons, List.append_eq_append_iff] at h
    rcases h with ⟨zs, hxs, hcs⟩ | ⟨zs, hc, hzs⟩
    · exact hbehind zs hxs hcs
    cases zs with
    | nil => exact hbehind [] (by simpa using hc.symm) hzs.symm
    | cons b zs =>
      -- the byte is one of the first character, which is the character looked for
      obtain ⟨rfl, rfl⟩ := List.cons.inj hzs
      have hcd : c = d := by
        by_contra hne
        exact asciiByte_notMem_utf8EncodeChar hd hne (by simp [hc])
      subst hcd
      rw [hd.utf8EncodeChar] at hc
      obtain ⟨rfl, rfl⟩ : xs = [] ∧ zs = [] := by
        simpa [List.append_eq_singleton_iff] using hc.symm
      exact ⟨[], cs, rfl, rfl, rfl⟩

theorem asciiByte_mem_utf8_iff (hd : IsAscii d) : asciiByte d ∈ utf8 cs ↔ d ∈ cs := by
  constructor
  · intro h
    obtain ⟨xs, ys, h⟩ := List.append_of_mem h
    obtain ⟨as, bs, rfl, -⟩ := exists_append_of_utf8_eq hd h
    simp
  · intro h
    obtain ⟨as, bs, rfl⟩ := List.append_of_mem h
    simp [utf8_append, utf8_cons, hd.utf8EncodeChar]

/-- A word of small characters opens a text when its bytes open those of the text. -/
theorem exists_append_of_utf8_eq_append (hword : ∀ d ∈ word, IsAscii d)
    (h : utf8 cs = utf8 word ++ ys) : ∃ rest, cs = word ++ rest ∧ utf8 rest = ys := by
  induction word generalizing cs with
  | nil => exact ⟨cs, rfl, h⟩
  | cons d word ih =>
    have hd := hword d List.mem_cons_self
    rw [utf8_cons, hd.utf8EncodeChar, List.append_assoc] at h
    obtain ⟨as, bs, rfl, has, hbs⟩ := exists_append_of_utf8_eq hd (h.trans (List.nil_append _).symm)
    obtain rfl := utf8_eq_nil_iff.1 has
    obtain ⟨rest, rfl, hrest⟩ := ih (fun c hc => hword c (List.mem_cons_of_mem d hc)) hbs
    exact ⟨rest, rfl, hrest⟩

/-- **A word of small characters is found in a text where its bytes are.** -/
theorem utf8_infix_iff (hword : ∀ d ∈ word, IsAscii d) (hne : word ≠ []) :
    utf8 word <:+: utf8 cs ↔ word <:+: cs := by
  constructor
  · rintro ⟨xs, ys, h⟩
    obtain ⟨d, word, rfl⟩ := List.exists_cons_of_ne_nil hne
    have hd := hword d List.mem_cons_self
    rw [utf8_cons, hd.utf8EncodeChar, List.append_assoc, List.append_assoc] at h
    obtain ⟨as, bs, rfl, -, hbs⟩ := exists_append_of_utf8_eq hd h.symm
    obtain ⟨rest, rfl, -⟩ :=
      exists_append_of_utf8_eq_append (fun c hc => hword c (List.mem_cons_of_mem d hc)) hbs
    exact ⟨as, rest, by simp⟩
  · rintro ⟨as, bs, rfl⟩
    exact ⟨utf8 as, utf8 bs, by rw [utf8_append, utf8_append]⟩

end ElementBindings.Text
