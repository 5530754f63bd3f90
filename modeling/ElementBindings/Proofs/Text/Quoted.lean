import ElementBindings.Proofs.Text.Cutting
import ElementBindings.Script.Token
import ElementBindings.Text.Quoted

/-!
# Proofs/Text/Quoted — quoted texts as string literals of a script

A string literal in double quotes stands for a row of units (`IsStringLiteral`).  What is quoted can
be read in one way only, character by character (`StringBody.eq_escape`): as itself, up to the last
quote.  It can be read at all unless there is a carriage return in it, which is written as it is and
may not stand in a literal (`quoted_isStringLiteral_iff`).  Quoting takes no two texts to one
(`escaped_injective`).
-/

namespace ElementBindings

/-! ## String literals -/

namespace Script

/-- The units that a code point is in the value of a string: itself, or the halves of a pair. -/
def unitsOf (n : Nat) : List Nat :=
  if n < 0x10000 then [n] else [0xD800 + (n - 0x10000) / 0x400, 0xDC00 + (n - 0x10000) % 0x400]

/-- The value of a text as a string of a script. -/
def unitsOfText (cs : List Char) : List Nat := cs.flatMap fun c => unitsOf c.toNat

/-- The characters that stand for a single other one behind a backslash, or for themselves where
they would mean something else. -/
def letterEscapes : List (Char × Nat) :=
  [('\'', 0x27), ('"', 0x22), ('\\', 0x5C), ('b', 0x8), ('f', 0xC), ('n', 0xA), ('r', 0xD),
    ('t', 0x9), ('v', 0xB)]

/-- **What may stand behind a backslash**, the units it stands for and what follows it. -/
inductive Escape : List Char → List Nat → List Char → Prop where
  | letter {c : Char} {n : Nat} {rest : List Char} (h : (c, n) ∈ letterEscapes) :
      Escape [c] [n] rest
  | itself {c : Char} {rest : List Char} (hletter : ∀ n, (c, n) ∉ letterEscapes)
      (hdigit : c.isDigit = false) (hx : c ≠ 'x') (hu : c ≠ 'u') (hline : isLineEnd c = false) :
      Escape [c] (unitsOf c.toNat) rest
  | zero {rest : List Char} (hrest : ∀ d ∈ rest.head?, d.isDigit = false) : Escape ['0'] [0] rest
  | hex {a b : Char} {n : Nat} {rest : List Char} (h : hexNumber? [a, b] = some n) :
      Escape ['x', a, b] [n] rest
  | unit {a b c d : Char} {n : Nat} {rest : List Char} (h : hexNumber? [a, b, c, d] = some n) :
      Escape ['u', a, b, c, d] [n] rest
  | codePoint {digits : List Char} {n : Nat} {rest : List Char} (h : hexNumber? digits = some n)
      (hn : n ≤ 0x10FFFF) : Escape ('u' :: '\x7b' :: (digits ++ ['\x7d'])) (unitsOf n) rest
  | lineEnd {c : Char} {rest : List Char} (h : isLineEnd c = true)
      (hrest : c = '\r' → rest.head? ≠ some '\n') : Escape [c] [] rest
  | returnAndFeed {rest : List Char} : Escape ['\r', '\n'] [] rest

/-- **What may stand between double quotes**, and the units it stands for.  A line feed or a
carriage return may not stand there but behind a backslash; the other ends of lines may. -/
inductive StringBody : List Char → List Nat → Prop where
  | nil : StringBody [] []
  | plain {c : Char} {cs : List Char} {us : List Nat} (hquote : c ≠ '"') (hslash : c ≠ '\\')
      (hfeed : c ≠ '\n') (hreturn : c ≠ '\r') (hcs : StringBody cs us) :
      StringBody (c :: cs) (unitsOf c.toNat ++ us)
  | escape {e cs : List Char} {vs us : List Nat} (he : Escape e vs cs) (hcs : StringBody cs us) :
      StringBody ('\\' :: (e ++ cs)) (vs ++ us)

/-- **Whether a text is one string literal in double quotes**, with a given value. -/
def IsStringLiteral (cs : List Char) (us : List Nat) : Prop :=
  ∃ body, cs = '"' :: (body ++ ['"']) ∧ StringBody body us

/-- The escapes of one letter stand for one unit, and nothing else begins with their letters. -/
theorem letterEscapes_spec {c : Char} {n : Nat} (h : (c, n) ∈ letterEscapes) :
    (∀ m, (c, m) ∈ letterEscapes → m = n) ∧ c ≠ '0' ∧ c ≠ 'x' ∧ c ≠ 'u' ∧ isLineEnd c = false := by
  simp only [letterEscapes, List.mem_cons, Prod.mk.injEq, List.not_mem_nil, or_false] at h
  rcases h with ⟨rfl, rfl⟩ | ⟨rfl, rfl⟩ | ⟨rfl, rfl⟩ | ⟨rfl, rfl⟩ | ⟨rfl, rfl⟩ | ⟨rfl, rfl⟩ |
    ⟨rfl, rfl⟩ | ⟨rfl, rfl⟩ | ⟨rfl, rfl⟩
  all_goals exact ⟨fun m hm => by simpa [letterEscapes] using hm, by decide⟩

/-- A letter behind a backslash can be read in one way only. -/
theorem Escape.eq_of_letter {e rest tail more : List Char} {vs : List Nat} {c : Char} {n : Nat}
    (h : Escape e vs rest) (hc : (c, n) ∈ letterEscapes) (heq : e ++ tail = c :: more) :
    e = [c] ∧ vs = [n] ∧ tail = more := by
  obtain ⟨hunique, hzero, hx, hu, hline⟩ := letterEscapes_spec hc
  cases h with
  | letter h =>
    obtain ⟨rfl, rfl⟩ := List.cons.inj heq
    exact ⟨rfl, by rw [hunique _ h], rfl⟩
  | itself hletter =>
    obtain ⟨rfl, rfl⟩ := List.cons.inj heq
    exact absurd hc (hletter n)
  | zero => exact absurd (List.head_eq_of_cons_eq heq).symm hzero
  | hex => exact absurd (List.head_eq_of_cons_eq heq).symm hx
  | unit => exact absurd (List.head_eq_of_cons_eq heq).symm hu
  | codePoint => exact absurd (List.head_eq_of_cons_eq heq).symm hu
  | lineEnd h =>
    obtain rfl := List.head_eq_of_cons_eq heq
    exact absurd (hline.symm.trans h) Bool.false_ne_true
  | returnAndFeed =>
    obtain rfl := List.head_eq_of_cons_eq heq
    exact absurd hline (by decide)

/-- Behind a backslash and a letter a body goes on behind both. -/
theorem StringBody.of_backslash {body tail more : List Char} {us : List Nat} {c : Char} {n : Nat}
    (h : StringBody body us) (hc : (c, n) ∈ letterEscapes)
    (heq : body ++ '"' :: tail = '\\' :: c :: more) :
    ∃ cs vs, body = '\\' :: c :: cs ∧ us = n :: vs ∧ StringBody cs vs ∧
      cs ++ '"' :: tail = more := by
  cases h with
  | nil => exact absurd (List.head_eq_of_cons_eq heq) (by decide)
  | plain _ hslash => exact absurd (List.head_eq_of_cons_eq heq) hslash
  | @escape e cs vs us he hcs =>
    rw [List.cons_append, List.cons.injEq, List.append_assoc] at heq
    obtain ⟨rfl, rfl, hmore⟩ := he.eq_of_letter hc heq.2
    exact ⟨cs, us, rfl, rfl, hcs, hmore⟩

/-- A character that stands for itself is followed by the body behind it. -/
theorem StringBody.of_plain {body tail more : List Char} {us : List Nat} {c : Char}
    (h : StringBody body us) (hquote : c ≠ '"') (hslash : c ≠ '\\')
    (heq : body ++ '"' :: tail = c :: more) :
    c ≠ '\r' ∧ ∃ cs vs, body = c :: cs ∧ us = unitsOf c.toNat ++ vs ∧ StringBody cs vs ∧
      cs ++ '"' :: tail = more := by
  cases h with
  | nil => exact absurd (List.head_eq_of_cons_eq heq).symm hquote
  | @plain d cs us _ _ _ hreturn hcs =>
    obtain ⟨rfl, hmore⟩ := List.cons.inj heq
    exact ⟨hreturn, cs, us, rfl, rfl, hcs, hmore⟩
  | escape => exact absurd (List.head_eq_of_cons_eq heq).symm hslash

end Script

/-! ## Quoting -/

namespace Text

open Script

/-- **A character is written behind a backslash as the letter that stands for it**, or as itself if
it may stand between quotes or is a carriage return. -/
theorem escapeChar_cases (c : Char) :
    (∃ letter, escapeChar c = ['\\', letter] ∧ (letter, c.toNat) ∈ letterEscapes ∧
      c ≠ '\r' ∧ unitsOf c.toNat = [c.toNat]) ∨
    escapeChar c = [c] ∧ c ≠ '"' ∧ c ≠ '\\' ∧ c ≠ '\n' := by
  rw [escapeChar.eq_def]
  split
  · exact Or.inl ⟨'\\', rfl, by decide, by decide, rfl⟩
  · exact Or.inl ⟨'"', rfl, by decide, by decide, rfl⟩
  · exact Or.inl ⟨'n', rfl, by decide, by decide, rfl⟩
  · next hslash hquote hfeed => exact Or.inr ⟨rfl, hquote, hslash, hfeed⟩

theorem escape_cons (c : Char) (cs : List Char) : escape (c :: cs) = escapeChar c ++ escape cs :=
  List.flatMap_cons

/-- **What is quoted can be read in one way only**: up to the quote that is put behind it, as the
text itself.  It cannot be read if there is a carriage return in it. -/
theorem eq_escape_of_stringBody {cs body tail more : List Char} {us : List Nat}
    (h : StringBody body us) (heq : body ++ '"' :: tail = escape cs ++ '"' :: more) :
    body = escape cs ∧ us = unitsOfText cs ∧ '\r' ∉ cs := by
  induction cs generalizing body us with
  | nil =>
    cases h with
    | nil => exact ⟨rfl, rfl, List.not_mem_nil⟩
    | plain hquote => exact absurd (List.head_eq_of_cons_eq heq) hquote
    | escape => exact absurd (List.head_eq_of_cons_eq heq) (by decide)
  | cons c cs ih =>
    rw [escape_cons, List.append_assoc] at heq
    rw [escape_cons, unitsOfText, List.flatMap_cons, List.mem_cons, not_or]
    rcases escapeChar_cases c with ⟨letter, hc, hletter, hreturn, hunit⟩ | ⟨hc, hquote, hslash, -⟩
    · rw [hc] at heq ⊢
      obtain ⟨rest, vs, rfl, rfl, hrest, htail⟩ := h.of_backslash hletter heq
      obtain ⟨rfl, rfl, hcs⟩ := ih hrest htail
      exact ⟨rfl, by rw [hunit]; rfl, hreturn.symm, hcs⟩
    · rw [hc] at heq ⊢
      obtain ⟨hreturn, rest, vs, rfl, rfl, hrest, htail⟩ := h.of_plain hquote hslash heq
      obtain ⟨rfl, rfl, hcs⟩ := ih hrest htail
      exact ⟨rfl, rfl, hreturn.symm, hcs⟩

/-- **Without a carriage return, what is quoted can be read.** -/
theorem stringBody_escape {cs : List Char} (h : '\r' ∉ cs) :
    StringBody (escape cs) (unitsOfText cs) := by
  induction cs with
  | nil => exact .nil
  | cons c cs ih =>
    rw [List.mem_cons, not_or] at h
    rw [escape_cons, unitsOfText, List.flatMap_cons]
    rcases escapeChar_cases c with ⟨letter, hc, hletter, -, hunit⟩ | ⟨hc, hquote, hslash, hfeed⟩
    · rw [hc, hunit]
      exact .escape (.letter hletter) (ih h.2)
    · rw [hc]
      exact .plain hquote hslash hfeed (Ne.symm h.1) (ih h.2)

/-! ## The scanner -/

/-- The scanner reads a letter behind a backslash as the grammar does. -/
theorem codePoints_letter {c : Char} {n : Nat} (h : (c, n) ∈ letterEscapes) (rest : List Char) :
    codePoints 0 ('\\' :: c :: rest) = n :: codePoints 0 rest := by
  simp only [letterEscapes, List.mem_cons, Prod.mk.injEq, List.not_mem_nil, or_false] at h
  rcases h with ⟨rfl, rfl⟩ | ⟨rfl, rfl⟩ | ⟨rfl, rfl⟩ | ⟨rfl, rfl⟩ | ⟨rfl, rfl⟩ | ⟨rfl, rfl⟩ |
    ⟨rfl, rfl⟩ | ⟨rfl, rfl⟩ | ⟨rfl, rfl⟩ <;> rfl

/-- **The code points of what is quoted are those of the text**, whatever is in it. -/
theorem codePoints_escape (cs : List Char) : codePoints 0 (escape cs) = cs.map Char.toNat := by
  induction cs with
  | nil => rfl
  | cons c cs ih =>
    rw [escape_cons, List.map_cons, ← ih]
    rcases escapeChar_cases c with ⟨letter, hc, hletter, -⟩ | ⟨hc, -, hslash, -⟩
    · rw [hc]
      exact codePoints_letter hletter _
    · rw [hc, List.singleton_append, codePoints]
      exact hslash

theorem quotedLength?_letter {c : Char} {n : Nat} (h : (c, n) ∈ letterEscapes) (k : ℕ)
    (more : List Char) :
    quotedLength? '"' false k ('\\' :: c :: more) = quotedLength? '"' false (k + 2) more := by
  rw [quotedLength?]
  rintro _ rfl
  exact absurd (letterEscapes_spec h).2.2.2.2 (by decide)

theorem quotedLength?_plain {c : Char} (hquote : c ≠ '"') (hslash : c ≠ '\\') (hfeed : c ≠ '\n')
    (k : ℕ) (more : List Char) : quotedLength? '"' false k (c :: more)
      = if '\r' = c then none else quotedLength? '"' false (k + 1) more := by
  rw [quotedLength?, if_neg hquote]
  · simp [hfeed, eq_comm]
  · exact fun _ hc => absurd hc hslash
  · exact fun _ _ hc => absurd hc hslash

/-- **The scanner reads what is quoted up to the quote put behind it**, and nothing if there is a
carriage return in it. -/
theorem quotedLength?_escape (k : ℕ) (cs more : List Char) :
    quotedLength? '"' false k (escape cs ++ '"' :: more)
      = if '\r' ∈ cs then none else some (k + (escape cs).length + 1) := by
  induction cs generalizing k with
  | nil => simp [quotedLength?]
  | cons c cs ih =>
    rw [escape_cons, List.append_assoc]
    simp only [List.mem_cons, List.length_append]
    rcases escapeChar_cases c with ⟨letter, hc, hletter, hreturn, -⟩ | ⟨hc, hquote, hslash, hfeed⟩
    · rw [hc, List.cons_append, List.singleton_append, quotedLength?_letter hletter, ih]
      simp [hreturn.symm, Nat.add_assoc]
    · rw [hc, List.singleton_append, quotedLength?_plain hquote hslash hfeed, ih]
      simp only [ite_or, List.length_singleton, Nat.add_assoc]

/-- No character is half of a pair. -/
theorem isSurrogate_toNat (c : Char) : isSurrogate c.toNat = false := by
  have hvalid : c.toNat < 0xD800 ∨ 0xDFFF < c.toNat ∧ c.toNat < 0x110000 := c.valid
  simp only [isSurrogate, isHighSurrogate, isLowSurrogate, Bool.or_eq_false_iff,
    Bool.and_eq_false_iff, decide_eq_false_iff_not]
  omega

theorem joinPairs_map_toNat (cs : List Char) :
    joinPairs (cs.map Char.toNat) = cs.map Char.toNat := by
  induction cs with
  | nil => rfl
  | cons c cs ih =>
    cases cs with
    | nil => rfl
    | cons d cs =>
      have hhigh : isHighSurrogate c.toNat = false :=
        (Bool.or_eq_false_iff.1 (isSurrogate_toNat c)).1
      rw [List.map_cons, List.map_cons] at *
      rw [joinPairs, hhigh, ih]
      rfl

/-- **A text is the text of its code points.** -/
theorem textOfCodePoints_map_toNat (s : String) :
    textOfCodePoints (s.toList.map Char.toNat) = s := by
  rw [textOfCodePoints]
  simp only [joinPairs_map_toNat]
  rw [if_neg (by simp [isSurrogate_toNat]), List.map_map]
  simp [Function.comp_def, Char.ofNat_toNat]

theorem toList_quoted (s : String) : (quoted s).toList = '"' :: (escape s.toList ++ ['"']) := by
  simp [quoted, escaped]

/-- Behind a double quote the scanner reads as far as a quote closes it. -/
theorem lexeme_quote (cs : List Char) :
    lexeme ('"' :: cs) = ((quotedLength? '"' false 0 cs).map fun n =>
      (.string (textOfCodePoints (codePoints 0 (cs.take (n - 1)))), n + 1)).getD (.invalid, 1) := by
  rw [lexeme, if_pos (Or.inl rfl)]
  · cases quotedLength? '"' false 0 cs <;> rfl
  all_goals simp

/-- **The scanner reads a quoted text as one string**, whatever follows, unless there is a carriage
return in it. -/
theorem lexeme_quoted_append (s : String) (rest : List Char) :
    lexeme ((quoted s).toList ++ rest) = if '\r' ∈ s.toList then (.invalid, 1)
      else (.string s, (quoted s).toList.length) := by
  rw [toList_quoted, List.cons_append, List.append_assoc, List.singleton_append, lexeme_quote,
    quotedLength?_escape]
  by_cases hreturn : '\r' ∈ s.toList
  · rw [if_pos hreturn, if_pos hreturn]
    rfl
  · simp [hreturn, codePoints_escape, textOfCodePoints_map_toNat]

/-! ## Other readings of quoting -/

/-- **Quoting takes no two texts to one**, carriage returns or not. -/
theorem escaped_injective : Function.Injective escaped := by
  intro s t h
  have hescape : escape s.toList = escape t.toList := String.ofList_injective h
  have hpoints : s.toList.map Char.toNat = t.toList.map Char.toNat := by
    rw [← codePoints_escape, hescape, codePoints_escape]
  exact String.toList_injective (List.map_injective_iff.2 (fun _ _ => Char.toNat_inj.1) hpoints)

/-- **Quoting is three replacements**, the backslash first, so that no replacement changes what an
earlier one has written. -/
theorem escape_eq_replace (cs : List Char) :
    escape cs = replace ['\n'] ['\\', 'n']
      (replace ['"'] ['\\', '"'] (replace ['\\'] ['\\', '\\'] cs)) := by
  simp only [replace_singleton, List.flatMap_assoc]
  refine List.flatMap_congr fun c _ => ?_
  rw [escapeChar.eq_def]
  split
  · rfl
  · rfl
  · rfl
  · next hslash hquote hfeed =>
    have h : c ≠ '\\' ∧ c ≠ '"' ∧ c ≠ '\n' := ⟨hslash, hquote, hfeed⟩
    simp [h]

/-- What is quoted has no line feed in it, and the carriage returns of the text. -/
theorem mem_escape (cs : List Char) :
    '\n' ∉ escape cs ∧ ('\r' ∈ escape cs ↔ '\r' ∈ cs) := by
  induction cs with
  | nil => simp
  | cons c cs ih =>
    rw [escape_cons, List.mem_append, List.mem_append, List.mem_cons, not_or, ih.2]
    rcases escapeChar_cases c with ⟨letter, hc, hletter, hreturn, -⟩ | ⟨hc, -, -, hfeed⟩
    · have hline := (letterEscapes_spec hletter).2.2.2.2
      have hends : letter ≠ '\n' ∧ letter ≠ '\r' :=
        ⟨by rintro rfl; exact absurd hline (by decide),
          by rintro rfl; exact absurd hline (by decide)⟩
      simp [hc, hends.1.symm, hends.2.symm, hreturn.symm, ih.1]
    · simp [hc, hfeed.symm, ih.1]

/-! ## Quoted texts as literals -/

/-- **A quoted text is one string literal just when there is no carriage return in it.**  Whatever
follows it, a beginning of the text is a string literal just when it is all that is quoted and no
carriage return is in it, and then its value is the text; so the scanner reads it as one string, up
to the last quote.  No line feed is left in it, and a carriage return is if the text has one.
Quoting takes no two texts to one, and is three replacements one after the other. -/
theorem quoted_isStringLiteral_iff (s : String) :
    (∀ literal rest, literal <+: (quoted s).toList ++ rest → ∀ us,
      (IsStringLiteral literal us ↔
        '\r' ∉ s.toList ∧ literal = (quoted s).toList ∧ us = unitsOfText s.toList)) ∧
    (∀ rest, lexeme ((quoted s).toList ++ rest) = if '\r' ∈ s.toList then (.invalid, 1)
      else (.string s, (quoted s).toList.length)) ∧
    '\n' ∉ (quoted s).toList ∧ ('\r' ∈ (quoted s).toList ↔ '\r' ∈ s.toList) ∧
    (∀ t, escaped t = escaped s → t = s) ∧
    (escaped s).toList = replace ['\n'] ['\\', 'n']
      (replace ['"'] ['\\', '"'] (replace ['\\'] ['\\', '\\'] s.toList)) := by
  refine ⟨fun literal rest hprefix us => ?_, lexeme_quoted_append s, ?_, ?_,
    fun t ht => escaped_injective ht, ?_⟩
  · constructor
    · rintro ⟨body, rfl, hbody⟩
      obtain ⟨tail, htail⟩ := hprefix
      rw [toList_quoted] at htail ⊢
      have heq : body ++ '"' :: tail = escape s.toList ++ '"' :: rest := by simpa using htail
      obtain ⟨rfl, rfl, hreturn⟩ := eq_escape_of_stringBody hbody heq
      exact ⟨hreturn, rfl, rfl⟩
    · rintro ⟨hreturn, rfl, rfl⟩
      exact ⟨_, toList_quoted s, stringBody_escape hreturn⟩
  · simp [toList_quoted, (mem_escape s.toList).1]
  · simp [toList_quoted, (mem_escape s.toList).2]
  · rw [escaped, String.toList_ofList, escape_eq_replace]

/-- **A text with a carriage return in it is quoted as no string literal**: the return stands in the
quotes as it is. -/
theorem quoted_carriageReturn :
    '\r' ∈ (quoted "a\rb").toList ∧ (¬∃ us, IsStringLiteral (quoted "a\rb").toList us) ∧
      lexeme (quoted "a\rb").toList = (.invalid, 1) := by
  refine ⟨by decide, ?_, by decide⟩
  rintro ⟨us, body, heq, hbody⟩
  rw [toList_quoted, List.cons.injEq] at heq
  exact (eq_escape_of_stringBody hbody heq.2.symm).2.2 (by decide)

end Text

end ElementBindings
