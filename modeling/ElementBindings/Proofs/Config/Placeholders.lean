import ElementBindings.Proofs.Config.Template
import ElementBindings.Proofs.Except
import ElementBindings.Proofs.Text.Cutting
import Mathlib.Data.List.Infix

/-!
# Proofs/Config/Placeholders — import templates as pieces

A template is read when each of its opening braces begins a placeholder (`read_eq_ok_iff`), and then
it falls in just one way into characters and placeholders (`exists_splits_of_check`,
`Splits.unique`).
The forms of a component name have no braces, so filling one placeholder neither makes nor unmakes
another, and the three fillings in a row fill all pieces at once (`render_eq`).
-/

namespace ElementBindings

namespace ImportTemplate

/-! ## Pieces -/

/-- What a template can ask for. -/
inductive Placeholder where
  | name
  | lower
  | kebab
deriving DecidableEq, Repr

namespace Placeholder

/-- A placeholder without its braces. -/
def word : Placeholder → String
  | name => "name"
  | lower => "lower"
  | kebab => "kebab"

/-- A placeholder as it stands in a template. -/
def written (p : Placeholder) : List Char := '{' :: (p.word.toList ++ ['}'])

/-- What a placeholder stands for. -/
def value (componentName : String) : Placeholder → String
  | name => componentName
  | lower => Text.lowerString componentName
  | kebab => Text.kebabCase componentName

theorem mem_placeholders_iff {s : String} : s ∈ placeholders ↔ ∃ p : Placeholder, p.word = s := by
  constructor
  · intro h
    simp only [placeholders, List.mem_cons, List.not_mem_nil, or_false] at h
    rcases h with rfl | rfl | rfl
    exacts [⟨name, rfl⟩, ⟨lower, rfl⟩, ⟨kebab, rfl⟩]
  · rintro ⟨p, rfl⟩
    cases p <;> decide

theorem brace_notMem (p : Placeholder) : '{' ∉ p.word.toList ++ ['}'] ∧ '}' ∉ p.word.toList := by
  cases p <;> decide

/-- No placeholder begins like another. -/
theorem eq_of_written_append {p q : Placeholder} {as bs : List Char}
    (h : p.written ++ as = q.written ++ bs) : p = q := by
  have hsecond : p.written[1]? = q.written[1]? := by
    have hp : 1 < p.written.length := by cases p <;> decide
    have hq : 1 < q.written.length := by cases q <;> decide
    have h := congrArg (·[1]?) h
    rwa [List.getElem?_append_left hp, List.getElem?_append_left hq] at h
  revert hsecond
  cases p <;> cases q <;> decide

end Placeholder

/-- A piece of a template. -/
inductive Piece where
  | literal (c : Char)
  | placeholder (p : Placeholder)

/-- A piece with something in the place of each placeholder. -/
def Piece.filled (values : Placeholder → List Char) : Piece → List Char
  | literal c => [c]
  | placeholder p => values p

/-- **How a text falls into pieces**: opening braces come in placeholders only. -/
inductive Splits : List Char → List Piece → Prop where
  | nil : Splits [] []
  | literal {c : Char} {cs : List Char} {ps : List Piece} (hc : c ≠ '{') (h : Splits cs ps) :
      Splits (c :: cs) (.literal c :: ps)
  | placeholder {cs : List Char} {ps : List Piece} (p : Placeholder) (h : Splits cs ps) :
      Splits (p.written ++ cs) (.placeholder p :: ps)

variable {cs w rest : List Char} {ps qs : List Piece}

/-- The pieces as written give the text. -/
theorem Splits.flatMap_written (h : Splits cs ps) :
    ps.flatMap (Piece.filled Placeholder.written) = cs := by
  induction h with
  | nil => rfl
  | literal _ _ ih => exact congrArg (_ :: ·) ih
  | placeholder p _ ih => exact congrArg (p.written ++ ·) ih

/-- **A text falls into pieces in one way only.** -/
theorem Splits.unique (h : Splits cs ps) (h' : Splits cs qs) : ps = qs := by
  generalize hcs : cs = ds at h'
  induction h generalizing ds qs with
  | nil =>
    cases h' with
    | nil => rfl
    | literal => exact absurd hcs (by simp)
    | placeholder p => exact absurd hcs (by simp [Placeholder.written])
  | literal hc _ ih =>
    cases h' with
    | nil => exact absurd hcs (by simp)
    | literal _ h' =>
      obtain ⟨rfl, htail⟩ := List.cons.inj hcs
      rw [ih _ htail h']
    | placeholder p => exact absurd (List.cons.inj hcs).1 hc
  | placeholder p _ ih =>
    cases h' with
    | nil => exact absurd hcs (by simp [Placeholder.written])
    | literal hc _ => exact absurd (List.cons.inj hcs).1.symm hc
    | placeholder q h' =>
      obtain rfl := Placeholder.eq_of_written_append hcs
      rw [ih _ (List.append_cancel_left hcs) h']

/-! ## Reading -/

theorem check_none_cons {c : Char} (hc : c ≠ '{') (cs : List Char) :
    check none (c :: cs) = check none cs := by
  rw [check]
  exact hc

theorem check_some_cons {c : Char} (hc : c ≠ '}') (inside cs : List Char) :
    check (some inside) (c :: cs) = check (some (c :: inside)) cs := by
  rw [check]
  exact hc

/-- A placeholder that is open is closed by the next closing brace. -/
theorem check_some_append (hw : '}' ∉ w) (inside rest : List Char) :
    check (some inside) (w ++ '}' :: rest)
      = if placeholders.contains (String.ofList (inside.reverse ++ w)) then check none rest
        else .error (.unknown (String.ofList (inside.reverse ++ w))) := by
  induction w generalizing inside with
  | nil => rw [List.nil_append, check, List.append_nil]
  | cons c w ih =>
    rw [List.mem_cons, not_or] at hw
    rw [List.cons_append, check_some_cons (Ne.symm hw.1), ih hw.2, List.reverse_cons,
      List.append_assoc, List.singleton_append]

/-- …or never. -/
theorem check_some_of_notMem (hcs : '}' ∉ cs) (inside : List Char) :
    check (some inside) cs = .error .unclosed := by
  induction cs generalizing inside with
  | nil => rfl
  | cons c cs ih =>
    rw [List.mem_cons, not_or] at hcs
    rw [check_some_cons (Ne.symm hcs.1), ih hcs.2]

/-- A placeholder is read and passed over. -/
theorem check_written_append (p : Placeholder) (rest : List Char) :
    check none (p.written ++ rest) = check none rest := by
  have hmem : placeholders.contains p.word = true :=
    List.contains_iff_mem.2 (Placeholder.mem_placeholders_iff.2 ⟨p, rfl⟩)
  rw [Placeholder.written, List.cons_append, List.append_assoc, check, List.singleton_append,
    check_some_append p.brace_notMem.2, List.reverse_nil, List.nil_append, String.ofList_toList,
    if_pos hmem]

/-- **What is read behind an opening brace** is the rest of a placeholder, and then more that is
read. -/
theorem exists_word_of_check (h : check none ('{' :: cs) = .ok ()) :
    ∃ (p : Placeholder) (rest : List Char), '{' :: cs = p.written ++ rest ∧
      check none rest = .ok () := by
  rw [check] at h
  by_cases hmem : '}' ∈ cs
  · obtain ⟨w, rest, rfl, hw⟩ := List.eq_append_cons_of_mem hmem
    rw [check_some_append hw, List.reverse_nil, List.nil_append] at h
    split at h
    · next hword =>
      obtain ⟨p, hp⟩ := Placeholder.mem_placeholders_iff.1 (List.contains_iff_mem.1 hword)
      refine ⟨p, rest, ?_, h⟩
      rw [Placeholder.written, hp, String.toList_ofList, List.cons_append, List.append_assoc,
        List.singleton_append]
    · exact absurd h (by simp)
  · rw [check_some_of_notMem hmem] at h
    exact absurd h (by simp)

/-- **What is read falls into pieces.** -/
theorem exists_splits_of_check (h : check none cs = .ok ()) : ∃ ps, Splits cs ps := by
  -- on the length, because a placeholder is passed over at once
  induction hn : cs.length using Nat.strong_induction_on generalizing cs with
  | _ n ih =>
    cases cs with
    | nil => exact ⟨[], .nil⟩
    | cons c cs =>
      by_cases hc : c = '{'
      · subst hc
        obtain ⟨p, rest, hcs, hrest⟩ := exists_word_of_check h
        have hlength : rest.length < n := by
          rw [← hn, hcs, List.length_append, Placeholder.written, List.length_cons]
          omega
        obtain ⟨ps, hps⟩ := ih _ hlength hrest rfl
        exact ⟨_, hcs ▸ hps.placeholder p⟩
      · rw [check_none_cons hc] at h
        obtain ⟨ps, hps⟩ := ih cs.length (by rw [← hn, List.length_cons]; omega) h rfl
        exact ⟨_, hps.literal hc⟩

/-- Whether every opening brace of a text begins a placeholder. -/
def BracesOpen (cs : List Char) : Prop :=
  ∀ before after, cs = before ++ '{' :: after →
    ∃ p : Placeholder, p.word.toList ++ ['}'] <+: after

/-- **In a text that falls into pieces every opening brace begins a placeholder.** -/
theorem Splits.bracesOpen (h : Splits cs ps) : BracesOpen cs := by
  induction h with
  | nil => exact fun before after h => absurd h (by simp)
  | literal hc _ ih =>
    intro before after h
    cases before with
    | nil => exact absurd (List.cons.inj h).1 hc
    | cons b before => exact ih before after (List.cons.inj h).2
  | @placeholder cs ps p _ ih =>
    intro before after h
    cases before with
    | nil => exact ⟨p, cs, (List.cons.inj h).2⟩
    | cons b before =>
      -- a brace behind the first one is not in the placeholder
      rcases List.append_eq_append_iff.1 (List.cons.inj h).2 with ⟨k, rfl, hk⟩ | ⟨k, hk, hafter⟩
      · exact ih k after hk
      · cases k with
        | nil => exact ih [] after hafter.symm
        | cons d k =>
          obtain rfl := (List.cons.inj hafter).1
          exact absurd (hk ▸ by simp) p.brace_notMem.1

theorem BracesOpen.of_append (as : List Char) (h : BracesOpen (as ++ cs)) : BracesOpen cs :=
  fun before after hcs => h (as ++ before) after (by rw [hcs, List.append_assoc])

/-- **Such a text is read.** -/
theorem BracesOpen.check (h : BracesOpen cs) : check none cs = .ok () := by
  induction hn : cs.length using Nat.strong_induction_on generalizing cs with
  | _ n ih =>
    cases cs with
    | nil => rfl
    | cons c cs =>
      rw [List.length_cons] at hn
      by_cases hc : c = '{'
      · subst hc
        obtain ⟨p, rest, rfl⟩ := h [] cs rfl
        rw [List.length_append] at hn
        have hrest : BracesOpen rest := BracesOpen.of_append p.written h
        exact (check_written_append p rest).trans (ih rest.length (by omega) hrest rfl)
      · rw [check_none_cons hc]
        exact ih cs.length (by omega) (BracesOpen.of_append [c] h) rfl

/-- **A template is read just when it says something and each of its opening braces begins a
placeholder.** -/
theorem read_eq_ok_iff {text : String} {t : ImportTemplate} :
    read text = .ok t
      ↔ Text.NonBlank text.toList ∧ BracesOpen text.toList ∧ t = ⟨text⟩ := by
  have hcheck : ImportTemplate.check none text.toList = .ok () ↔ BracesOpen text.toList :=
    ⟨fun h => (exists_splits_of_check h).elim fun _ hps => hps.bracesOpen, BracesOpen.check⟩
  rw [read, ← hcheck, ← Text.trim_ne_nil_iff]
  split
  · next hblank => exact iff_of_false (by simp) fun h => h.1 (List.isEmpty_iff.1 hblank)
  · next hblank =>
    rw [and_iff_right fun hnil => hblank (List.isEmpty_iff.2 hnil)]
    cases ImportTemplate.check none text.toList with
    | ok u => simp [Except.map, eq_comm]
    | error fault => simp [Except.map]

/-! ## Replacing placeholders -/

/-- A placeholder that is not the one asked for stays. -/
theorem replaceFrom_written_append {p q : Placeholder} (h : q ≠ p) (new rest : List Char) :
    Text.replaceFrom p.written new 0 (q.written ++ rest)
      = q.written ++ Text.replaceFrom p.written new 0 rest := by
  have hlead : ¬ p.written.isPrefixOf (q.written ++ rest) = true := fun hprefix => by
    obtain ⟨more, hmore⟩ := List.isPrefixOf_iff_prefix.1 hprefix
    exact h (Placeholder.eq_of_written_append hmore).symm
  rw [Placeholder.written, Placeholder.written, List.cons_append] at *
  rw [Text.replaceFrom, if_neg hlead, Text.replaceFrom_of_notMem q.brace_notMem.1,
    List.cons_append]

/-! ## The forms of component names -/

variable {name : String} {t : ImportTemplate}

/-- **No form of a component name has a brace in it.** -/
theorem Placeholder.brace_notMem_value (h : Text.isComponentName name = true) (p : Placeholder) :
    '{' ∉ (p.value name).toList := by
  have hchars := fun c => Text.isComponentChar_of_mem (c := c) h
  have hfree : ∀ c ∈ name.toList, c ≠ '{' ∧ c.toLower ≠ '{' := fun c hc => by
    have hself := Text.toNat_of_isComponentChar (hchars c hc)
    have hlower := Text.toNat_toLower_of_isComponentChar (hchars c hc)
    exact ⟨fun heq => absurd (heq ▸ hself) (by decide),
      fun heq => absurd (heq ▸ hlower) (by decide)⟩
  cases p with
  | name => exact fun hmem => (hfree _ hmem).1 rfl
  | lower =>
    rw [value, Text.toList_lowerString h]
    intro hmem
    obtain ⟨c, hc, heq⟩ := List.mem_map.1 hmem
    exact (hfree c hc).2 heq
  | kebab =>
    rw [value, Text.kebabCase, String.toList_ofList]
    intro hmem
    rcases Text.mem_kebab hchars hmem with heq | ⟨c, hc, heq | heq⟩
    · exact absurd heq (by decide)
    · exact (hfree c hc).1 heq.symm
    · exact (hfree c hc).2 heq.symm

/-! ## Filling -/

/-- The placeholders, some of them filled. -/
def Placeholder.partly (name : String) (done : List Placeholder) (p : Placeholder) : List Char :=
  if p ∈ done then (p.value name).toList else p.written

/-- **Filling a placeholder fills the pieces that ask for it** and leaves the others alone, whether
or not they have been filled before. -/
theorem fill_partly (h : Splits cs ps) (hname : Text.isComponentName name = true)
    {done : List Placeholder} {p : Placeholder} (hp : p ∉ done) :
    fill p.word (p.value name) (ps.flatMap (Piece.filled (Placeholder.partly name done)))
      = ps.flatMap (Piece.filled (Placeholder.partly name (p :: done))) := by
  change Text.replace p.written _ _ = _
  rw [Text.replace, if_neg (by simp [Placeholder.written])]
  induction h with
  | nil => rfl
  | @literal c _ _ hc _ ih =>
    have hfree : '{' ∉ [c] := by simpa using Ne.symm hc
    rw [List.flatMap_cons, List.flatMap_cons, ← ih]
    exact Text.replaceFrom_of_notMem hfree _ _ _
  | placeholder q _ ih =>
    rw [List.flatMap_cons, List.flatMap_cons, ← ih, Piece.filled, Piece.filled]
    rcases eq_or_ne q p with rfl | hq
    · rw [Placeholder.partly, if_neg hp, Placeholder.partly, if_pos List.mem_cons_self]
      exact Text.replaceFrom_self _ _ _ _
    · have hsame : q.partly name (p :: done) = q.partly name done := by
        simp only [Placeholder.partly, List.mem_cons, or_iff_right hq]
      rw [hsame, Placeholder.partly]
      split
      · exact Text.replaceFrom_of_notMem (q.brace_notMem_value hname) _ _ _
      · exact replaceFrom_written_append hq _ _

/-- A piece of an import path. -/
def Piece.value (name : String) : Piece → List Char :=
  Piece.filled fun p => (p.value name).toList

/-- **The three fillings fill all pieces at once.** -/
theorem render_eq (h : Splits t.text.toList ps) (hname : Text.isComponentName name = true) :
    (t.render name).toList = ps.flatMap (Piece.value name) := by
  have hall : Placeholder.partly name [.kebab, .lower, .name] = fun p => (p.value name).toList :=
    funext fun p => by cases p <;> rfl
  rw [render, String.toList_ofList, Piece.value, ← hall, ← fill_partly h hname (by decide),
    ← fill_partly h hname (by decide), ← fill_partly h hname (by decide)]
  exact congrArg (fun cs => fill _ _ (fill _ _ (fill _ _ cs))) h.flatMap_written.symm

/-- **Templates are read by their braces, and filled all at once.**  A text is a template just when
it says something and each of its opening braces begins a placeholder.  It falls in one way into
characters and placeholders then, and the import path of a component is those characters with the
forms of its name between them, which is not blank. -/
theorem read_render_law (text : String) :
    ((∃ t, read text = .ok t) ↔ Text.NonBlank text.toList ∧ BracesOpen text.toList) ∧
    ∀ t, read text = .ok t → ∃ ps, Splits text.toList ps ∧
      (∀ qs, Splits text.toList qs → qs = ps) ∧
      ∀ name, Text.isComponentName name = true →
        (t.render name).toList = ps.flatMap (Piece.value name) ∧
        Text.NonBlank (t.render name).toList := by
  refine ⟨⟨?_, ?_⟩, fun t ht => ?_⟩
  · rintro ⟨t, ht⟩
    obtain ⟨hblank, hbraces, -⟩ := read_eq_ok_iff.1 ht
    exact ⟨hblank, hbraces⟩
  · rintro ⟨hblank, hbraces⟩
    exact ⟨⟨text⟩, read_eq_ok_iff.2 ⟨hblank, hbraces, rfl⟩⟩
  · obtain ⟨-, hbraces, rfl⟩ := read_eq_ok_iff.1 ht
    obtain ⟨ps, hps⟩ := exists_splits_of_check hbraces.check
    refine ⟨ps, hps, fun qs hqs => hqs.unique hps, fun name hname => ⟨?_, ?_⟩⟩
    · exact render_eq hps hname
    · exact nonBlank_render ht hname

/-- A template of all three forms, behind a brace that closes nothing. -/
def acmeTemplate : String := "\x7d@acme/\x7bkebab\x7d/\x7blower\x7d\x7bname\x7d"

theorem read_render_law_acme :
    read acmeTemplate = .ok ⟨acmeTemplate⟩ ∧ Text.isComponentName "IconButton" = true ∧
      ∃ ps, Splits acmeTemplate.toList ps ∧
        "\x7d@acme/icon-button/iconbuttonIconButton".toList
          = ps.flatMap (Piece.value "IconButton") := by
  have hread : read acmeTemplate = .ok ⟨acmeTemplate⟩ := by decide +kernel
  have hname : Text.isComponentName "IconButton" = true := by decide
  obtain ⟨ps, hps, -, hrender⟩ := (read_render_law _).2 _ hread
  refine ⟨hread, hname, ps, hps, ?_⟩
  rw [← (hrender "IconButton" hname).1]
  decide +kernel

end ImportTemplate

end ElementBindings
