import ElementBindings.Proofs.Text.Identifiers
import ElementBindings.Script.Token

/-!
# Proofs/Script/Scanning — texts and their tokens

The tokens of a text are scanned one behind the other, and a text with something in it that is no
token has none (`Scans`).  An identifier is read up to the first character that cannot go on with it
(`lexeme_append`), and an ornament is no token (`lexeme_of_isOrnament`).  So a text that begins with
an accepted name is scanned with the name as its first token, unless there is an ornament in the
name; then it is not scanned at all (`scans_name_iff`).
-/

namespace ElementBindings.Script

open Text

/-! ## Identifiers -/

/-- **Whether a text is an identifier of a script**, the reserved words among them. -/
def isIdentifierName : List Char → Bool
  | [] => false
  | c :: cs => isIdentifierStart c && cs.all isIdentifierPart

/-- Whether an identifier ends where a text begins. -/
def endsName (rest : List Char) : Bool := rest.head?.all fun d => !isIdentifierPart d && d != '\\'

variable {cs rest : List Char} {c d : Char} {name : String}

/-- **An accepted name is an identifier just when there is no ornament in it.** -/
theorem isIdentifierName_iff (h : isIdentifier cs = true) :
    isIdentifierName cs = true ↔ Unadorned cs := by
  obtain ⟨c, ds, rfl, hascii, hstart, hds⟩ := exists_cons_of_isIdentifier h
  rw [isIdentifierName, hstart, Bool.true_and, List.all_eq_true, Unadorned, List.forall_mem_cons,
    and_iff_right (isOrnament_ascii hascii)]
  exact forall₂_congr fun d hd => isIdentifierPart_iff (hds d hd)

theorem nameLength?_cons {first : Bool}
    (hc : (if first then isIdentifierStart c else isIdentifierPart c) = true) (fuel : ℕ)
    (cs : List Char) : nameLength? (fuel + 1) first (c :: cs)
      = (nameLength? fuel false cs).map fun (tail, length) => (c :: tail, length + 1) := by
  rw [nameLength?, if_pos hc]
  intro more heq
  obtain ⟨rfl, -⟩ := List.cons.inj heq
  cases first <;> exact absurd hc (by decide)

theorem nameLength?_of_endsName (hrest : endsName rest = true) (fuel : ℕ) :
    nameLength? (fuel + 1) false rest = some ([], 0) := by
  cases rest with
  | nil => rfl
  | cons d rest =>
    have hd : isIdentifierPart d = false ∧ d ≠ '\\' := by simpa [endsName] using hrest
    obtain ⟨hd, hslash⟩ := hd
    rw [nameLength?]
    · simp [hd, hslash]
    · exact fun more heq => absurd (List.cons.inj heq).1 hslash

theorem nameLength?_append {fuel : ℕ} (hcs : ∀ d ∈ cs, isIdentifierPart d = true)
    (hrest : endsName rest = true) (hfuel : cs.length < fuel) :
    nameLength? fuel false (cs ++ rest) = some (cs, cs.length) := by
  induction cs generalizing fuel with
  | nil =>
    obtain ⟨fuel, rfl⟩ := Nat.exists_eq_add_one.2 hfuel
    exact nameLength?_of_endsName hrest fuel
  | cons c cs ih =>
    obtain ⟨hc, hcs⟩ := List.forall_mem_cons.1 hcs
    rw [List.length_cons] at hfuel
    obtain ⟨fuel, rfl⟩ := Nat.exists_eq_add_one.2 (Nat.zero_lt_of_lt hfuel)
    have hpart : (if false then isIdentifierStart c else isIdentifierPart c) = true := hc
    rw [List.cons_append, nameLength?_cons hpart, ih hcs (by omega)]
    rfl

/-- **An identifier is read up to the first character that cannot go on with it.** -/
theorem name?_append (h : isIdentifierName name.toList = true) (hrest : endsName rest = true) :
    name? (name.toList ++ rest) = some (name, name.toList.length) := by
  cases hname : name.toList with
  | nil => exact absurd h (by rw [hname]; decide)
  | cons c cs =>
    rw [hname, isIdentifierName, Bool.and_eq_true, List.all_eq_true] at h
    have hstart : (if true then isIdentifierStart c else isIdentifierPart c) = true := h.1
    rw [name?, List.cons_append, nameLength?_cons hstart,
      nameLength?_append h.2 hrest (by simp only [List.length_cons, List.length_append]; omega)]
    rw [← String.ofList_toList (s := name), hname]
    rfl

theorem isIdentifierStart_of_isDigit (h : c.isDigit = true) : isIdentifierStart c = false := by
  have hall := of_ascii (c := c) (p := fun c => !c.isDigit || !isIdentifierStart c)
    (by decide) (toNat_of_isDigit h)
  simpa [h] using hall

/-- The signs that tokens of other kinds begin with. -/
def tokenSigns : List Char := ['#', '\x60', '.', '?', '"', '\'']

/-- A text that begins with no sign of another kind of token begins with a name or an operator. -/
theorem lexeme_cons (hsign : c ∉ tokenSigns) (hdigit : c.isDigit = false) (cs : List Char) :
    lexeme (c :: cs) = match name? (c :: cs) with
      | some (s, n) => (.name s, n)
      | none =>
        match operator? longOperators (c :: cs) with
        | some o => (.punct o, o.length)
        | none => if isPunctuation c then (.punct (String.singleton c), 1) else (.invalid, 1) := by
  simp only [tokenSigns, List.mem_cons, List.not_mem_nil, or_false, not_or] at hsign
  obtain ⟨hhash, hback, hdot, hquestion, hdouble, hsingle⟩ := hsign
  rw [lexeme]
  · exact (if_neg (not_or.2 ⟨hdouble, hsingle⟩)).trans (if_neg (Bool.eq_false_iff.1 hdigit))
  · exact hhash
  · exact hback
  · exact fun d ds hc => absurd hc hdot
  · exact hquestion

/-- **The scanner reads an identifier up to the first character that cannot go on with it.** -/
theorem lexeme_append (h : isIdentifierName name.toList = true) (hrest : endsName rest = true) :
    lexeme (name.toList ++ rest) = (.name name, name.toList.length) := by
  have hread := name?_append h hrest
  cases hname : name.toList with
  | nil => exact absurd h (by rw [hname]; decide)
  | cons c cs =>
    rw [hname] at h hread
    have hstart := (Bool.and_eq_true_iff.1 h).1
    have hsigns : tokenSigns.all (fun d => !isIdentifierStart d) = true := by decide
    have hsign : c ∉ tokenSigns := fun hc => by
      simpa [hstart] using List.all_eq_true.1 hsigns c hc
    have hdigit : c.isDigit = false := Bool.eq_false_iff.2 fun hdigit =>
      absurd ((isIdentifierStart_of_isDigit hdigit).symm.trans hstart) Bool.false_ne_true
    rw [List.cons_append, lexeme_cons hsign hdigit, ← List.cons_append, hread]

/-! ## What is no token -/

theorem name?_eq_none (hstart : isIdentifierStart c = false) (hslash : c ≠ '\\') (cs : List Char) :
    name? (c :: cs) = none := by
  rw [name?, nameLength?, if_neg (by simp [hstart])]
  · rfl
  · exact fun more heq => absurd (List.cons.inj heq).1 hslash

/-- No operator begins with a character that none of them begins with. -/
theorem operator?_eq_none {operators : List String}
    (h : operators.all (fun o => o.toList.head?.any (· != c)) = true) (cs : List Char) :
    operator? operators (c :: cs) = none := by
  rw [operator?, List.find?_eq_none]
  intro o ho hlead
  have hhead := List.all_eq_true.1 h o ho
  cases htext : o.toList with
  | nil => simp [htext] at hhead
  | cons d ds => simp_all [List.isPrefixOf]

/-- **An ornament is no token**, and none begins with it. -/
theorem lexeme_of_isOrnament (h : isOrnament c = true) (cs : List Char) :
    lexeme (c :: cs) = (.invalid, 1) := by
  have hcode := (tables_of_isOrnament h).1
  have hne : ∀ d : Char, d.toNat < 128 → d ≠ c := by
    rintro d hd rfl
    omega
  have hsigns : allAscii tokenSigns = true := by decide
  have hsign : c ∉ tokenSigns := fun hc => hne c (toNat_of_allAscii hsigns hc) rfl
  have hdigit : c.isDigit = false :=
    Bool.eq_false_iff.2 fun hdigit => hne c (toNat_of_isDigit hdigit) rfl
  have hoperators : longOperators.all (fun o => o.toList.head?.any (·.toNat < 128)) = true := by
    decide
  have hoperator : operator? longOperators (c :: cs) = none := by
    refine operator?_eq_none (List.all_eq_true.2 fun o ho => ?_) cs
    obtain ⟨d, hd, hlow⟩ := (Option.any_eq_true _ _).1 (List.all_eq_true.1 hoperators o ho)
    exact (Option.any_eq_true _ _).2 ⟨d, hd, bne_iff_ne.2 (hne d (of_decide_eq_true hlow))⟩
  have hpunct : isPunctuation c = false := by
    have hall : allAscii "\x7b\x7d()[];,:~?.<>!=+-*/%&|^@".toList = true := by decide
    rw [isPunctuation, List.contains_eq_mem, decide_eq_false_iff_not]
    exact fun hc => hne c (toNat_of_allAscii hall hc) rfl
  rw [lexeme_cons hsign hdigit,
    name?_eq_none (isIdentifierStart_of_isOrnament h) (hne _ (by decide)).symm, hoperator, hpunct]
  rfl

/-! ## Tokens of a text -/

/-- **The tokens of a text**, up to its end, one scanned behind the other; a text with something in
it that is no token has none. -/
inductive Scans : List Char → List Kind → Prop where
  | done {cs : List Char} (h : (Token.readWith lexeme 0 cs).kind = .eof) : Scans cs []
  | token {cs : List Char} {ks : List Kind} (heof : (Token.readWith lexeme 0 cs).kind ≠ .eof)
      (hvalid : (Token.readWith lexeme 0 cs).kind ≠ .invalid)
      (hs : Scans (Token.readWith lexeme 0 cs).rest ks) :
      Scans cs ((Token.readWith lexeme 0 cs).kind :: ks)

variable {ks : List Kind} {k : Kind} {n : ℕ}

/-- Whether a character is no part of a gap between tokens, whatever follows it. -/
def startsToken (c : Char) : Bool := c != '/' && !isLineEnd c && !isSpace c

theorem readWith_of_startsToken (h : startsToken c = true) (position : ℕ) (cs : List Char) :
    (Token.readWith lexeme position (c :: cs)).kind = (lexeme (c :: cs)).1 ∧
      (Token.readWith lexeme position (c :: cs)).rest = (c :: cs).drop (lexeme (c :: cs)).2 := by
  simp only [startsToken, Bool.and_eq_true, bne_iff_ne, Bool.not_eq_true'] at h
  obtain ⟨⟨hslash, hline⟩, hspace⟩ := h
  have hgap : gap .blank position false (c :: cs) = ⟨position, c :: cs, false, false⟩ := by
    rw [gap, hline, hspace]
    · rfl
    · exact fun _ hc => absurd hc hslash
    · exact fun _ hc => absurd hc hslash
  rw [Token.readWith, hgap]
  exact ⟨rfl, by simp [Token.rest, Token.make]⟩

/-- The tokens of a text are none, or its first one and those behind it. -/
theorem scans_iff : Scans cs ks ↔
    (Token.readWith lexeme 0 cs).kind = .eof ∧ ks = [] ∨
    (Token.readWith lexeme 0 cs).kind ≠ .eof ∧ (Token.readWith lexeme 0 cs).kind ≠ .invalid ∧
      ∃ tail, ks = (Token.readWith lexeme 0 cs).kind :: tail ∧
        Scans (Token.readWith lexeme 0 cs).rest tail := by
  constructor
  · rintro (hdone | ⟨heof, hvalid, hs⟩)
    · exact Or.inl ⟨hdone, rfl⟩
    · exact Or.inr ⟨heof, hvalid, _, rfl, hs⟩
  · rintro (⟨hdone, rfl⟩ | ⟨heof, hvalid, tail, rfl, hs⟩)
    · exact .done hdone
    · exact .token heof hvalid hs

theorem scans_cons_iff (h : startsToken c = true) (hread : lexeme (c :: cs) = (k, n))
    (heof : k ≠ .eof) (hvalid : k ≠ .invalid) : Scans (c :: cs) ks
      ↔ ∃ tail, ks = k :: tail ∧ Scans ((c :: cs).drop n) tail := by
  obtain ⟨hkind, hrest⟩ := readWith_of_startsToken h 0 cs
  rw [scans_iff, hkind, hrest, hread]
  simp [heof, hvalid]

/-- A text that begins with no token has none. -/
theorem not_scans_of_invalid (h : startsToken c = true) (hread : lexeme (c :: cs) = (.invalid, n)) :
    ¬ Scans (c :: cs) ks := by
  obtain ⟨hkind, hrest⟩ := readWith_of_startsToken h 0 cs
  rw [scans_iff, hkind, hread]
  simp

/-- A space before a token or the end is passed over. -/
theorem scans_space_iff (h : cs.head?.all startsToken = true) :
    Scans (' ' :: cs) ks ↔ Scans cs ks := by
  have hspace : Token.readWith lexeme 0 (' ' :: cs) = Token.readWith lexeme 1 cs := rfl
  rw [scans_iff, @scans_iff cs, hspace]
  cases cs with
  | nil => rfl
  | cons c cs =>
    obtain ⟨hkind, hrest⟩ := readWith_of_startsToken h 0 cs
    obtain ⟨hkind', hrest'⟩ := readWith_of_startsToken h 1 cs
    rw [hkind, hrest, hkind', hrest']

/-- The signs that are tokens of their own, whatever follows them. -/
def loneSigns : List Char := [':', ',', ';', '\x7b', '\x7d']

theorem scans_sign_iff (h : c ∈ loneSigns) : Scans (c :: cs) ks
    ↔ ∃ tail, ks = .punct (String.singleton c) :: tail ∧ Scans cs tail := by
  have hsigns : loneSigns.all startsToken = true := by decide
  have hread : lexeme (c :: cs) = (.punct (String.singleton c), 1) := by
    simp only [loneSigns, List.mem_cons, List.not_mem_nil, or_false] at h
    rcases h with rfl | rfl | rfl | rfl | rfl <;> rfl
  exact scans_cons_iff (List.all_eq_true.1 hsigns c h) hread (by simp) (by simp)

theorem scans_nil_iff : Scans [] ks ↔ ks = [] := by
  rw [scans_iff]
  simp [show (Token.readWith lexeme 0 []).kind = .eof from rfl]

theorem scans_dots_iff : Scans ('.' :: '.' :: '.' :: cs) ks
    ↔ ∃ tail, ks = .punct "..." :: tail ∧ Scans cs tail :=
  scans_cons_iff (by decide) (show lexeme _ = (.punct "...", 3) from rfl) (by simp) (by simp)

theorem scans_equals_iff : Scans ('=' :: ' ' :: cs) ks
    ↔ ∃ tail, ks = .punct "=" :: tail ∧ Scans (' ' :: cs) tail :=
  scans_cons_iff (by decide) (show lexeme _ = (.punct "=", 1) from rfl) (by simp) (by simp)

/-- The characters that a gap may begin with. -/
def gapRanges : Array (ℕ × ℕ) := #[
  (0x9, 0xD), (0x20, 0x20), (0x2F, 0x2F), (0x85, 0x85), (0xA0, 0xA0), (0x1680, 0x1680),
  (0x2000, 0x200B), (0x2028, 0x2029), (0x202F, 0x202F), (0x205F, 0x205F), (0x3000, 0x3000),
  (0xFEFF, 0xFEFF)]

theorem startsToken_of_inRanges (h : inRanges gapRanges c = false) : startsToken c = true := by
  rw [Bool.eq_false_iff, ne_eq, inRanges_iff] at h
  by_contra hgap
  refine h ?_
  simp only [startsToken, isLineEnd, isSpace, Bool.and_eq_true, Bool.not_eq_true', bne_iff_ne,
    Bool.or_eq_false_iff, Bool.and_eq_false_iff, decide_eq_false_iff_not, beq_eq_false_iff_ne,
    ← Char.toNat_inj, Char.reduceToNat, ne_eq] at hgap
  simp only [gapRanges, List.mem_cons, List.not_mem_nil, or_false, exists_eq_or_imp, exists_eq_left]
  omega

/-- No gap begins with an ornament. -/
theorem startsToken_of_isOrnament (h : isOrnament c = true) : startsToken c = true := by
  have hrows : wordNotContinueRanges.toList.all (apartFrom gapRanges) = true := by decide
  obtain ⟨r, hr, hfirst, hlast⟩ := inRanges_iff.1 h
  exact startsToken_of_inRanges
    (inRanges_of_apartFrom (List.all_eq_true.1 hrows r hr) hfirst hlast)

theorem not_scans_of_isOrnament (h : isOrnament c = true) : ¬ Scans (c :: cs) ks :=
  not_scans_of_invalid (startsToken_of_isOrnament h) (lexeme_of_isOrnament h cs)

/-- No gap begins with what an accepted name starts with. -/
theorem startsToken_of_isIdentifierStart (h : isIdentifierStart c = true) (hascii : c.toNat < 128) :
    startsToken c = true := by
  have hall := of_ascii (c := c) (p := fun c => !isIdentifierStart c || startsToken c)
    (by decide) hascii
  simpa [h] using hall

theorem startsToken_of_isIdentifier (h : isIdentifier cs = true) (rest : List Char) :
    (cs ++ rest).head?.all startsToken = true := by
  obtain ⟨c, ds, rfl, hascii, hstart, -⟩ := exists_cons_of_isIdentifier h
  exact startsToken_of_isIdentifierStart hstart hascii

/-- An identifier ends before an ornament. -/
theorem endsName_of_isOrnament (h : isOrnament d = true) (rest : List Char) :
    endsName (d :: rest) = true := by
  have hslash : d ≠ '\\' := by
    rintro rfl
    exact absurd (tables_of_isOrnament h).1 (by decide)
  simpa [endsName] using ⟨isIdentifierPart_of_isOrnament h, hslash⟩

/-- An accepted name without ornaments is the first token of a text that begins with it. -/
theorem scans_plainName_iff (h : isIdentifier name.toList = true)
    (hplain : Unadorned name.toList) (hrest : endsName rest = true) :
    Scans (name.toList ++ rest) ks ↔ ∃ tail, ks = .name name :: tail ∧ Scans rest tail := by
  have hread := lexeme_append ((isIdentifierName_iff h).2 hplain) hrest
  obtain ⟨c, ds, hname, hascii, hstart, -⟩ := exists_cons_of_isIdentifier h
  rw [hname, List.cons_append] at hread ⊢
  rw [scans_cons_iff (startsToken_of_isIdentifierStart hstart hascii) hread (by simp) (by simp),
    ← List.cons_append, List.drop_left]

/-- A word of ASCII is the first token of a text that begins with it. -/
theorem scans_word_iff (h : isIdentifier name.toList = true)
    (hascii : allAscii name.toList = true) (hrest : endsName rest = true) :
    Scans (name.toList ++ rest) ks ↔ ∃ tail, ks = .name name :: tail ∧ Scans rest tail :=
  scans_plainName_iff h (unadorned_of_allAscii hascii) hrest

/-- **The tokens of a text that begins with an accepted name** are the name, if there is no ornament
in it, and those behind it; with an ornament in it there are none. -/
theorem scans_name_iff (h : isIdentifier name.toList = true) (hrest : endsName rest = true) :
    Scans (name.toList ++ rest) ks ↔ Unadorned name.toList ∧
      ∃ tail, ks = .name name :: tail ∧ Scans rest tail := by
  cases hfind : name.toList.find? isOrnament with
  | none =>
    have hplain : Unadorned name.toList := by simpa using hfind
    rw [scans_plainName_iff h hplain hrest, and_iff_right hplain]
  | some d =>
    obtain ⟨hd, before, after, hsplit, hbefore⟩ := List.find?_eq_some_iff_append.1 hfind
    have hplain : Unadorned before := by simpa using hbefore
    refine iff_of_false (fun hscan => ?_) fun hall => ?_
    · -- what stands before the first ornament is a name too, and nothing is scanned behind it
      have hform : isIdentifier before = true := by
        rw [hsplit] at h
        cases before with
        | nil =>
          obtain ⟨c, ds, heq, hascii, -⟩ := exists_cons_of_isIdentifier h
          obtain rfl := (List.cons.inj heq).1
          exact absurd ((isOrnament_ascii hascii).symm.trans hd) Bool.false_ne_true
        | cons c ds =>
          rw [List.cons_append, isIdentifier_cons_iff] at h
          exact isIdentifier_cons_iff.2
            ⟨h.1, fun e he => h.2 e (List.mem_append_left _ he)⟩
      rw [hsplit, List.append_assoc, List.cons_append, ← String.toList_ofList (l := before),
        scans_plainName_iff (by rwa [String.toList_ofList]) (by rwa [String.toList_ofList])
          (endsName_of_isOrnament hd _)] at hscan
      obtain ⟨tail, -, htail⟩ := hscan
      exact not_scans_of_isOrnament hd htail
    · have hmem : d ∈ name.toList := by
        rw [hsplit]
        simp
      exact absurd ((hall.1 d hmem).symm.trans hd) Bool.false_ne_true

end ElementBindings.Script
