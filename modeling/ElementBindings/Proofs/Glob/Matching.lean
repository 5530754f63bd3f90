import ElementBindings.Glob.Reader
import ElementBindings.Proofs.Text.Bytes
import Mathlib.Data.List.Dedup

/-!
# Proofs/Glob/Matching — what simple patterns match

A simple pattern has no special characters but `*` and `?`.  It is read character by character
(`readTokens_simple`), and behind a `**/` it is compared with the last component of a path
(`matchesText_anywhere_iff`): a `*` stands for any bytes, a `?` for one, and all else for itself
(`Spells`).
-/

namespace ElementBindings.Glob

variable {cs word : List Char} {bs rest : List UInt8} {t : Token} {ts : List Token}
  {texts : List (List UInt8)}

/-! ## What is left -/

theorem mem_runs_iff :
    rest ∈ runs (· == slash) bs ↔ ∃ run, bs = run ++ rest ∧ slash ∉ run := by
  induction bs with
  | nil =>
    rw [runs, List.mem_singleton]
    constructor
    · rintro rfl
      exact ⟨[], rfl, by simp⟩
    · rintro ⟨run, h, -⟩
      exact (List.append_eq_nil_iff.1 h.symm).2
  | cons b bs ih =>
    rw [runs, List.mem_cons]
    constructor
    · rintro (rfl | h)
      · exact ⟨[], rfl, by simp⟩
      · split at h
        · exact absurd h List.not_mem_nil
        · next hb =>
          obtain ⟨run, rfl, hrun⟩ := ih.1 h
          refine ⟨b :: run, rfl, fun hmem => ?_⟩
          rcases List.mem_cons.1 hmem with rfl | hmem
          · exact hb (beq_self_eq_true slash)
          · exact hrun hmem
    · rintro ⟨run, h, hrun⟩
      cases run with
      | nil => exact Or.inl h.symm
      | cons c run =>
        obtain ⟨rfl, rfl⟩ := List.cons.inj h
        rw [List.mem_cons, not_or] at hrun
        refine Or.inr ?_
        rw [if_neg (by simpa using Ne.symm hrun.1)]
        exact ih.2 ⟨run, rfl, hrun.2⟩

theorem mem_behindSlash_iff :
    rest ∈ behindSlash bs ↔ ∃ front, bs = front ++ slash :: rest := by
  induction bs with
  | nil => exact iff_of_false List.not_mem_nil (by simp)
  | cons b bs ih =>
    rw [behindSlash]
    split
    · next hb =>
      rw [List.mem_cons, ih]
      constructor
      · rintro (rfl | ⟨front, rfl⟩)
        · exact ⟨[], by rw [hb, List.nil_append]⟩
        · exact ⟨b :: front, rfl⟩
      · rintro ⟨front, h⟩
        cases front with
        | nil => exact Or.inl (List.cons.inj h).2.symm
        | cons c front => exact Or.inr ⟨front, (List.cons.inj h).2⟩
    · next hb =>
      rw [ih]
      constructor
      · rintro ⟨front, rfl⟩
        exact ⟨b :: front, rfl⟩
      · rintro ⟨front, h⟩
        cases front with
        | nil => exact absurd (List.cons.inj h).1 hb
        | cons c front => exact ⟨front, (List.cons.inj h).2⟩

/-- **What tokens leave of some texts they leave of one of them.** -/
theorem mem_allRests_iff : rest ∈ allRests ts texts ↔ ∃ bs ∈ texts, rest ∈ allRests ts [bs] := by
  induction ts generalizing texts with
  | nil => simp [allRests]
  | cons t ts ih =>
    rw [allRests, ih]
    simp only [List.mem_eraseDups, List.mem_flatMap]
    constructor
    · rintro ⟨m, ⟨bs, hbs, hm⟩, h⟩
      refine ⟨bs, hbs, ?_⟩
      rw [allRests, ih]
      exact ⟨m, by simpa using hm, h⟩
    · rintro ⟨bs, hbs, h⟩
      rw [allRests, ih] at h
      obtain ⟨m, hm, h⟩ := h
      exact ⟨m, ⟨bs, hbs, by simpa using hm⟩, h⟩

theorem mem_allRests_cons_iff :
    rest ∈ allRests (t :: ts) [bs] ↔ ∃ m ∈ t.rests bs, rest ∈ allRests ts [m] := by
  rw [allRests, mem_allRests_iff]
  simp

/-! ## Simple patterns -/

/-- Whether a character can stand in a simple pattern. -/
def IsSimple (c : Char) : Prop := c ∉ ['[', '{', '}', '\\', '/']

instance (c : Char) : Decidable (IsSimple c) := inferInstanceAs (Decidable (_ ∉ _))

/-- Whether a character of a pattern stands for some bytes. -/
def StandsFor (c : Char) (run : List UInt8) : Prop :=
  if c = '*' then True else if c = '?' then run.length = 1 else run = String.utf8EncodeChar c

/-- **Whether a pattern stands for some bytes**, piece by piece. -/
def Spells : List Char → List UInt8 → Prop
  | [], bs => bs = []
  | c :: cs, bs => ∃ run rest, bs = run ++ rest ∧ StandsFor c run ∧ Spells cs rest

/-- The token of a character. -/
def simpleToken (c : Char) : Token :=
  if c = '*' then .zeroOrMore else if c = '?' then .any else .literal c

theorem mem_rests_any_iff : rest ∈ Token.any.rests bs ↔ ∃ b, bs = b :: rest ∧ slash ≠ b := by
  cases bs with
  | nil => exact iff_of_false List.not_mem_nil (by simp)
  | cons b bs =>
    rw [Token.rests]
    split
    · next hb => exact iff_of_false List.not_mem_nil (by simp [hb])
    · next hb =>
      rw [List.mem_singleton]
      constructor
      · rintro rfl
        exact ⟨b, rfl, Ne.symm hb⟩
      · rintro ⟨_, h, -⟩
        exact (List.cons.inj h).2.symm

theorem mem_rests_literal_iff {c : Char} :
    rest ∈ (Token.literal c).rests bs ↔ bs = String.utf8EncodeChar c ++ rest := by
  rw [Token.rests]
  constructor
  · intro h
    split at h
    · next hprefix =>
      obtain ⟨tail, rfl⟩ := List.isPrefixOf_iff_prefix.1 hprefix
      rw [List.drop_left, List.mem_singleton] at h
      rw [h]
    · exact absurd h List.not_mem_nil
  · rintro rfl
    rw [if_pos (List.isPrefixOf_iff_prefix.2 (List.prefix_append _ _)), List.drop_left]
    exact List.mem_singleton_self rest

/-- **A token leaves what is left behind what its character stands for**, and passes no slash. -/
theorem mem_rests_simpleToken_iff {c : Char} (hc : c ≠ '/') :
    rest ∈ (simpleToken c).rests bs ↔ ∃ run, bs = run ++ rest ∧ slash ∉ run ∧ StandsFor c run := by
  rw [simpleToken]
  split
  · next hstar => simp only [Token.rests, mem_runs_iff, StandsFor, if_pos hstar, and_true]
  split
  · next hstar hany =>
    simp only [mem_rests_any_iff, StandsFor, if_neg hstar, if_pos hany, List.length_eq_one_iff]
    constructor
    · rintro ⟨b, rfl, hb⟩
      exact ⟨[b], rfl, by simpa using hb, b, rfl⟩
    · rintro ⟨_, rfl, hrun, b, rfl⟩
      exact ⟨b, rfl, by simpa using hrun⟩
  · next hstar hany =>
    have hslash : slash ∉ String.utf8EncodeChar c :=
      Text.asciiByte_notMem_utf8EncodeChar (show Text.IsAscii '/' by decide) hc
    simp only [mem_rests_literal_iff, StandsFor, if_neg hstar, if_neg hany]
    constructor
    · intro h
      exact ⟨_, h, hslash, rfl⟩
    · rintro ⟨_, h, -, rfl⟩
      exact h

/-- **A simple pattern leaves what is left behind what it stands for**, and passes no slash. -/
theorem mem_allRests_simple_iff (hcs : '/' ∉ cs) :
    rest ∈ allRests (cs.map simpleToken) [bs]
      ↔ ∃ front, bs = front ++ rest ∧ slash ∉ front ∧ Spells cs front := by
  induction cs generalizing bs with
  | nil =>
    simp only [List.map_nil, allRests, List.mem_singleton, Spells]
    constructor
    · rintro rfl
      exact ⟨[], rfl, by simp, rfl⟩
    · rintro ⟨front, rfl, -, rfl⟩
      rfl
  | cons c cs ih =>
    rw [List.mem_cons, not_or] at hcs
    rw [List.map_cons, mem_allRests_cons_iff]
    constructor
    · rintro ⟨m, hm, h⟩
      obtain ⟨run, rfl, hrun, hstands⟩ := (mem_rests_simpleToken_iff (Ne.symm hcs.1)).1 hm
      obtain ⟨front, rfl, hfront, hspells⟩ := (ih hcs.2).1 h
      exact ⟨run ++ front, by rw [List.append_assoc], by simp [hrun, hfront], run, front, rfl,
        hstands, hspells⟩
    · rintro ⟨_, rfl, hfront, run, front, rfl, hstands, hspells⟩
      rw [List.mem_append, not_or] at hfront
      refine ⟨front ++ rest, ?_, (ih hcs.2).2 ⟨front, rfl, hfront.2, hspells⟩⟩
      exact (mem_rests_simpleToken_iff (Ne.symm hcs.1)).2
        ⟨run, by rw [List.append_assoc], hfront.1, hstands⟩

/-! ## Words -/

/-- Whether a character stands for itself only. -/
def IsLiteral (c : Char) : Prop := c ≠ '*' ∧ c ≠ '?'

instance (c : Char) : Decidable (IsLiteral c) := inferInstanceAs (Decidable (_ ∧ _))

/-- **A word stands for its bytes.** -/
theorem spells_append_iff (hword : ∀ c ∈ word, IsLiteral c) :
    Spells (word ++ cs) bs ↔ ∃ rest, bs = Text.utf8 word ++ rest ∧ Spells cs rest := by
  induction word generalizing bs with
  | nil => simp [Text.utf8]
  | cons c word ih =>
    obtain ⟨⟨hstar, hany⟩, hword⟩ := List.forall_mem_cons.1 hword
    simp only [List.cons_append, Spells, StandsFor, if_neg hstar, if_neg hany, ih hword]
    constructor
    · rintro ⟨_, _, rfl, rfl, rest, rfl, hrest⟩
      exact ⟨rest, by rw [Text.utf8_cons, List.append_assoc], hrest⟩
    · rintro ⟨rest, rfl, hrest⟩
      exact ⟨_, _, by rw [Text.utf8_cons, List.append_assoc], rfl, rest, rfl, hrest⟩

theorem spells_word (hword : ∀ c ∈ word, IsLiteral c) : Spells word (Text.utf8 word) := by
  rw [← List.append_nil word, spells_append_iff hword]
  exact ⟨[], by rw [List.append_nil, List.append_nil], rfl⟩

/-- **A word between two stars stands for what the word is found in.** -/
theorem spells_between_stars_iff (hword : ∀ c ∈ word, IsLiteral c) :
    Spells ('*' :: (word ++ ['*'])) bs ↔ Text.utf8 word <:+: bs := by
  rw [Spells]
  simp only [spells_append_iff hword]
  constructor
  · rintro ⟨run, _, rfl, -, rest, rfl, -⟩
    exact ⟨run, rest, List.append_assoc ..⟩
  · rintro ⟨run, rest, rfl⟩
    exact ⟨run, _, List.append_assoc .., trivial, rest, rfl, rest, [], (List.append_nil _).symm,
      trivial, rfl⟩

/-! ## Reading simple patterns -/

/-- A character but a `*` is read on its own. -/
theorem readTokens_cons {c : Char} (hc : IsSimple c) (hstar : c ≠ '*') {d : Draft}
    (hgroups : d.groups = []) (previous : Option Char) (cs : List Char) :
    readTokens previous d (c :: cs) = readTokens (some c) (d.push (simpleToken c)) cs := by
  rw [simpleToken, if_neg hstar]
  by_cases hany : c = '?'
  · rw [hany, readTokens]
    rfl
  by_cases hcomma : c = ','
  · rw [hcomma, readTokens, Draft.nextAlternative, hgroups]
    rfl
  -- nothing else that a pattern has a meaning for is simple
  rw [if_neg hany, readTokens] <;> simp_all [IsSimple]

/-- Two stars that are no component of their own are two stars. -/
theorem readTokens_twoStars (hcs : ∀ c ∈ cs, IsSimple c) {previous : Option Char} {d : Draft}
    (hcurrent : d.current ≠ []) (hgroups : d.groups = []) (hstars : previous = some '/' → cs ≠ []) :
    readTokens previous d ('*' :: '*' :: cs) = readTokens (some '*') d.twoStars cs := by
  have hempty : d.current.isEmpty = false := by simpa using hcurrent
  have hnested : d.isNested = false := by rw [Draft.isNested, hgroups]; rfl
  cases cs with
  | nil =>
    have hprevious : d.recursesBehind previous = false := by
      simpa [Draft.recursesBehind, hnested] using hstars
    conv_lhs => rw [readTokens, hempty, hprevious]
    rfl
  | cons c cs =>
    have hslash : c ≠ '/' := fun h => absurd (h ▸ hcs c List.mem_cons_self) (by decide)
    have hends : d.endsBefore c = false := by rw [Draft.endsBefore, hnested, Bool.false_and]
    rw [readTokens, hempty, hends]
    · exact ite_self _
    · exact hslash

/-- **A simple pattern is read character by character**, unless it is a `**` of its own. -/
theorem readTokens_simple (hcs : ∀ c ∈ cs, IsSimple c) {previous : Option Char} {d : Draft}
    (hcurrent : d.current ≠ []) (hgroups : d.groups = [])
    (hstars : previous = some '/' → cs ≠ ['*', '*']) :
    readTokens previous d cs = .ok ⟨(cs.map simpleToken).reverse ++ d.current, d.groups⟩ := by
  -- on the length, because two stars are read at once
  induction hlength : cs.length using Nat.strong_induction_on generalizing cs previous d with
  | _ n ih =>
  have hnext : ∀ (front : List Token) (c : Char) (cs' : List Char), cs'.length < n →
      (∀ c ∈ cs', IsSimple c) → c ≠ '/' → readTokens (some c) ⟨front ++ d.current, d.groups⟩ cs'
        = .ok ⟨(cs'.map simpleToken).reverse ++ (front ++ d.current), d.groups⟩ := by
    intro front c cs' hlt hcs' hc
    exact ih _ hlt hcs' (List.append_ne_nil_of_right_ne_nil front hcurrent) hgroups
      (fun h => absurd (Option.some.inj h) hc) rfl
  cases cs with
  | nil => rw [readTokens]; rfl
  | cons c cs =>
    obtain ⟨hc, hrest⟩ := List.forall_mem_cons.1 hcs
    by_cases htwo : ∃ cs', c = '*' ∧ cs = '*' :: cs'
    · obtain ⟨cs', rfl, rfl⟩ := htwo
      have hrest' := (List.forall_mem_cons.1 hrest).2
      rw [readTokens_twoStars hrest' hcurrent hgroups fun h hnil => hstars h (by rw [hnil])]
      refine (hnext [.zeroOrMore, .zeroOrMore] '*' cs' (by simp at hlength; omega) hrest'
        (by decide)).trans ?_
      simp [simpleToken]
    · have hone : readTokens previous d (c :: cs)
          = readTokens (some c) ⟨[simpleToken c] ++ d.current, d.groups⟩ cs := by
        by_cases hstar : c = '*'
        · subst hstar
          rw [readTokens]
          · rfl
          · exact fun cs' h => htwo ⟨cs', rfl, h⟩
        · exact readTokens_cons hc hstar hgroups previous cs
      have hslash : c ≠ '/' := fun h => absurd (h ▸ hc) (by decide)
      rw [hone, hnext _ c cs (by simp at hlength; omega) hrest hslash]
      simp

/-- A simple pattern holds no slash. -/
theorem slash_notMem_of_isSimple (hcs : ∀ c ∈ cs, IsSimple c) : '/' ∉ cs :=
  fun h => absurd (hcs '/' h) (by decide)

/-! ## The last component -/

/-- The last component of a text is what stands behind its last slash. -/
theorem slash_of_splitOn {dirs : List (List Char)} {last : List Char}
    (h : Text.splitOn (· == '/') cs = dirs ++ [last]) :
    '/' ∉ last ∧ (cs = last ∨ ∃ front, cs = front ++ '/' :: last) := by
  refine ⟨fun hmem => ?_, ?_⟩
  · have hlast : last ∈ Text.splitOn (· == '/') cs := by simp [h]
    exact absurd (Text.not_mem_splitOn hlast hmem) (by decide)
  · have hjoin := Text.join_splitOn '/' cs
    rw [h] at hjoin
    clear h
    induction dirs generalizing cs with
    | nil => exact Or.inl (by simpa using hjoin.symm)
    | cons dir dirs ih =>
      rw [List.cons_append, List.intercalate_cons_of_ne_nil (by simp)] at hjoin
      refine Or.inr ?_
      rcases ih rfl with hrest | ⟨front, hrest⟩
      · exact ⟨dir, by rw [← hjoin, hrest]; simp⟩
      · exact ⟨dir ++ '/' :: front, by rw [← hjoin, hrest]; simp⟩

/-- What stands behind the last slash of some bytes is one thing. -/
theorem eq_of_append_slash_eq {xs ys as : List UInt8} (has : slash ∉ as) (hrest : slash ∉ rest)
    (h : xs ++ slash :: as = ys ++ slash :: rest) : rest = as := by
  have key : ∀ {zs as rest : List UInt8}, slash ∉ as → slash :: as = zs ++ slash :: rest →
      rest = as := by
    intro zs as rest has h
    cases zs with
    | nil => exact (List.cons.inj h).2.symm
    | cons z zs => exact absurd (by rw [(List.cons.inj h).2]; simp) has
  rcases List.append_eq_append_iff.1 h with ⟨zs, -, h⟩ | ⟨zs, -, h⟩
  · exact key has h
  · exact (key hrest h).symm

/-- **Behind a `**/` only the last component is left without a slash.** -/
theorem mem_rests_recursivePrefix_iff {last : List Char} (hlast : '/' ∉ last)
    (hcs : cs = last ∨ ∃ front, cs = front ++ '/' :: last) :
    rest ∈ Token.recursivePrefix.rests (Text.utf8 cs) ∧ slash ∉ rest ↔ rest = Text.utf8 last := by
  have hascii : Text.IsAscii '/' := by decide
  have hnone : slash ∉ Text.utf8 last := (Text.asciiByte_mem_utf8_iff hascii).not.2 hlast
  rw [Token.rests, List.mem_cons, mem_behindSlash_iff]
  rcases hcs with rfl | ⟨front, rfl⟩
  · constructor
    · rintro ⟨rfl | ⟨run, hrun⟩, -⟩
      · rfl
      · exact absurd (by rw [hrun]; simp) hnone
    · rintro rfl
      exact ⟨Or.inl rfl, hnone⟩
  · have hutf8 : Text.utf8 (front ++ '/' :: last) = Text.utf8 front ++ slash :: Text.utf8 last := by
      rw [Text.utf8_append, Text.utf8_cons, hascii.utf8EncodeChar]
      rfl
    rw [hutf8]
    constructor
    · rintro ⟨rfl | ⟨run, hrun⟩, hrest⟩
      · exact absurd (by simp) hrest
      · exact eq_of_append_slash_eq hnone hrest hrun
    · rintro rfl
      exact ⟨Or.inr ⟨_, rfl⟩, hnone⟩

/-! ## Patterns for any directory -/

/-- The tokens of a simple pattern behind a `**/`. -/
def anywhere (cs : List Char) : List Token :=
  if cs = ['*', '*'] then [.recursivePrefix] else .recursivePrefix :: cs.map simpleToken

theorem read_anywhere (hcs : ∀ c ∈ cs, IsSimple c) :
    Glob.read ("**/" ++ String.ofList cs) = .ok ⟨anywhere cs⟩ := by
  have hchars : ("**/" ++ String.ofList cs).toList = '*' :: '*' :: '/' :: cs := by
    simp [String.toList_append]
  have hread : readTokens none ⟨[], []⟩ ('*' :: '*' :: '/' :: cs)
      = readTokens (some '/') ⟨[.recursivePrefix], []⟩ cs := by
    rw [readTokens]
    rfl
  rw [Glob.read, hchars, hread, anywhere]
  split_ifs with hstars
  · subst hstars
    rfl
  · rw [readTokens_simple hcs (by simp) rfl fun _ => hstars]
    simp

theorem isChar_simpleToken_iff {c d : Char} (hstar : d ≠ '*') (hany : d ≠ '?') :
    (simpleToken c).isChar d = true ↔ c = d := by
  rw [simpleToken]
  split_ifs with hc hc'
  · exact iff_of_false (by simp [Token.isChar]) fun h => hstar (h.symm.trans hc)
  · exact iff_of_false (by simp [Token.isChar]) fun h => hany (h.symm.trans hc')
  · exact beq_iff_eq

/-- **A pattern asks for a dotted name when it ends in a dot.** -/
theorem asksForDottedName_iff (hcs : ∀ c ∈ cs, IsSimple c) (hne : cs ≠ []) :
    asksForDottedName (.recursivePrefix :: cs.map simpleToken) = true ↔ cs.getLast? = some '.' := by
  have hslash : (cs.map simpleToken).any (Token.isChar '/') = false := by
    rw [List.any_map, List.any_eq_false]
    intro c hc h
    exact slash_notMem_of_isSimple hcs ((isChar_simpleToken_iff (by decide) (by decide)).1 h ▸ hc)
  obtain ⟨init, c, rfl⟩ := (List.eq_nil_or_concat' cs).resolve_left hne
  rw [asksForDottedName, isPlainText, hslash, Bool.and_false, Bool.not_false, Bool.and_true,
    List.map_append, List.map_singleton, ← List.cons_append, List.getLast?_concat,
    List.getLast?_concat, Option.any_some, isChar_simpleToken_iff (by decide) (by decide),
    Option.some.injEq]

/-- **A simple pattern behind a `**/` matches what it stands for**: the last component of a path, in
whatever directory; but none that ends in a dot matches a `..`. -/
theorem matchesText_anywhere_iff (hcs : ∀ c ∈ cs, IsSimple c) (hne : cs ≠ []) {s : String}
    {dirs : List (List Char)} {last : List Char}
    (hs : Text.splitOn (· == '/') s.toList = dirs ++ [last]) :
    Glob.matchesText ⟨anywhere cs⟩ s = true
      ↔ Spells cs (Text.utf8 last) ∧ ¬(last = ['.', '.'] ∧ cs.getLast? = some '.') := by
  rw [anywhere]
  split_ifs with hstars
  · -- two stars stand for anything, and end in no dot
    subst hstars
    have hspells : Spells ['*', '*'] (Text.utf8 last) :=
      ⟨Text.utf8 last, [], (List.append_nil _).symm, trivial, [], [], rfl, trivial, rfl⟩
    exact iff_of_true rfl ⟨hspells, by simp⟩
  · obtain ⟨hlast, hchars⟩ := slash_of_splitOn hs
    have hparent : endsInParent s = true ↔ last = ['.', '.'] := by
      rw [endsInParent, hs, List.getLast?_concat, beq_iff_eq, Option.some.injEq]
    have hmatches : [] ∈ allRests (.recursivePrefix :: cs.map simpleToken) [bytes s]
        ↔ Spells cs (Text.utf8 last) := by
      rw [mem_allRests_cons_iff]
      simp only [mem_allRests_simple_iff (slash_notMem_of_isSimple hcs), List.append_nil]
      constructor
      · rintro ⟨m, hm, front, rfl, hfront, hspells⟩
        rwa [← (mem_rests_recursivePrefix_iff hlast hchars).1 ⟨hm, hfront⟩]
      · intro hspells
        obtain ⟨hm, hslash⟩ := (mem_rests_recursivePrefix_iff hlast hchars).2 rfl
        exact ⟨_, hm, _, rfl, hslash, hspells⟩
    have htokens : Glob.matchesText ⟨.recursivePrefix :: cs.map simpleToken⟩ s
        = ((allRests (.recursivePrefix :: cs.map simpleToken) [bytes s]).contains []
          && !(asksForDottedName (.recursivePrefix :: cs.map simpleToken) && endsInParent s)) := by
      obtain ⟨c, cs, rfl⟩ := List.exists_cons_of_ne_nil hne
      rfl
    rw [htokens, Bool.and_eq_true, List.contains_iff_mem, hmatches, Bool.not_eq_true',
      ← Bool.not_eq_true, Bool.and_eq_true, asksForDottedName_iff hcs hne, hparent,
      and_comm (b := last = _)]

end ElementBindings.Glob
