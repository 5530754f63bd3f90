import ElementBindings.Proofs.Glob.Matching
import ElementBindings.Proofs.Glob.Source
import ElementBindings.Proofs.List
import ElementBindings.Proofs.Path.Components

/-!
# Proofs/Glob/Negation — last segments that leave names out

A last segment `!(a|b)c` selects what a `*c` in its place would, but for what its alternatives stand
for in the last component, and but for stories, tests and specs (`selects_negation_iff`).
-/

namespace ElementBindings.SourceGlob

variable {g : SourceGlob} {pattern : String} {outer alternatives : List (List Char)}
  {suffix : List Char}

/-! ## Reading -/

/-- Whether a character can stand in an alternative, or behind the alternatives. -/
def IsOrdinary (c : Char) : Prop := Glob.IsSimple c ∧ c ∉ ['|', '(', ')', '\n']

instance (c : Char) : Decidable (IsOrdinary c) := inferInstanceAs (Decidable (_ ∧ _))

/-- The segment that leaves alternatives out before a suffix. -/
def negation (alternatives : List (List Char)) (suffix : List Char) : List Char :=
  '!' :: '(' :: (['|'].intercalate alternatives ++ ')' :: suffix)

/-- What a segment leaves out, of all the names that it could select. -/
def leftOut (alternatives : List (List Char)) (suffix : List Char) : List (List Char) :=
  (alternatives.filter (!·.isEmpty)).map (· ++ suffix)

/-- What a source pattern always leaves out. -/
def alwaysLeftOut : List (List Char) :=
  [".stories.", ".test.", ".spec."].map fun word => '*' :: (word.toList ++ ['*'])

/-- A text is cut at its first bracket. -/
theorem breakAt_append {inside : List Char} (h : ')' ∉ inside) (rest : List Char) :
    Text.breakAt (· == ')') (inside ++ ')' :: rest) = (inside, ')' :: rest) := by
  have hinside : ∀ c ∈ inside, (!(c == ')')) = true := fun c hc => by
    simpa using fun heq : c = ')' => h (heq ▸ hc)
  rw [Text.breakAt, List.takeWhile_append_of_pos hinside, List.dropWhile_append_of_pos hinside]
  simp

/-- **The alternatives are taken apart at their bars**; an empty one leaves nothing out. -/
theorem rewriteLast_negation (halternatives : ∀ a ∈ alternatives, ∀ c ∈ a, IsOrdinary c)
    (hsuffix : ∀ c ∈ suffix, IsOrdinary c) :
    rewriteLast (negation alternatives suffix) = ('*' :: suffix,
      (leftOut alternatives suffix).map fun cs => "**/" ++ String.ofList cs) := by
  have hnone : ∀ c : Char, ¬IsOrdinary c → ∀ a ∈ alternatives, c ∉ a := fun c hc a ha hmem =>
    hc (halternatives a ha c hmem)
  have hbracket : ')' ∉ ['|'].intercalate alternatives :=
    List.notMem_intercalate (by decide) (hnone ')' (by decide))
  have hline : suffix.contains '\n' = false := by
    rw [List.contains_eq_mem, decide_eq_false_iff_not]
    exact fun h => absurd (hsuffix _ h) (by decide)
  have hbars : (Text.splitOn (· == '|') (['|'].intercalate alternatives)).filter (!·.isEmpty)
      = alternatives.filter (!·.isEmpty) := by
    by_cases hnil : alternatives = []
    · subst hnil
      rfl
    · rw [Text.splitOn_eq_splitOnP]
      exact congrArg _ (List.splitOn_intercalate '|' (hnone '|' (by decide)) hnil)
  rw [rewriteLast, negation, negated?, breakAt_append hbracket]
  simp only [hline, Bool.false_eq_true, if_false, hbars, leftOut, List.map_map]
  rfl

/-- What is left out is written simply. -/
theorem isSimple_of_mem_leftOut (halternatives : ∀ a ∈ alternatives, ∀ c ∈ a, IsOrdinary c)
    (hsuffix : ∀ c ∈ suffix, IsOrdinary c) {cs : List Char}
    (hcs : cs ∈ alwaysLeftOut ++ leftOut alternatives suffix) :
    cs ≠ [] ∧ ∀ c ∈ cs, Glob.IsSimple c := by
  rcases List.mem_append.1 hcs with hcs | hcs
  · have halways : ∀ cs ∈ alwaysLeftOut, cs ≠ [] ∧ ∀ c ∈ cs, Glob.IsSimple c := by
      simp [alwaysLeftOut, Glob.IsSimple]
    exact halways cs hcs
  · obtain ⟨a, ha, rfl⟩ := List.mem_map.1 hcs
    obtain ⟨ha, hne⟩ := List.mem_filter.1 ha
    refine ⟨fun h => ?_, fun c hc => ?_⟩
    · rw [(List.append_eq_nil_iff.1 h).1] at hne
      exact absurd hne (by decide)
    · exact ((List.mem_append.1 hc).elim (halternatives a ha c) (hsuffix c)).1

/-- **What is left out is excluded in any directory.** -/
theorem excluded_eq_map (hread : IsRead pattern outer (negation alternatives suffix) g)
    (halternatives : ∀ a ∈ alternatives, ∀ c ∈ a, IsOrdinary c)
    (hsuffix : ∀ c ∈ suffix, IsOrdinary c) :
    g.excluded = (alwaysLeftOut ++ leftOut alternatives suffix).map fun cs =>
      ⟨Glob.anywhere cs⟩ := by
  have hparts : defaultExcludes ++ (rewriteLast (negation alternatives suffix)).2
      = (alwaysLeftOut ++ leftOut alternatives suffix).map fun cs =>
        "**/" ++ String.ofList cs := by
    rw [rewriteLast_negation halternatives hsuffix, List.map_append]
    rfl
  have hglobs := hread.excluded
  rw [hparts, List.forall₂_map_left_iff] at hglobs
  have hsimple : ∀ cs ∈ alwaysLeftOut ++ leftOut alternatives suffix, ∀ c ∈ cs, Glob.IsSimple c :=
    fun cs hcs => (isSimple_of_mem_leftOut halternatives hsuffix hcs).2
  generalize alwaysLeftOut ++ leftOut alternatives suffix = names at hglobs hsimple ⊢
  generalize g.excluded = excluded at hglobs ⊢
  induction hglobs with
  | nil => rfl
  | cons hglob _ ih =>
    obtain ⟨hcs, hsimple⟩ := List.forall_mem_cons.1 hsimple
    rw [List.map_cons, Except.ok.inj (hglob.symm.trans (Glob.read_anywhere hcs)), ih hsimple]

/-! ## Matching -/

/-- A path without a backslash is matched as it is. -/
theorem selects_iff (g : SourceGlob) {p : Path} (hp : '\\' ∉ p.chars) :
    g.selects p = true ↔ g.selected.matchesText p.text = true ∧
      ∀ glob ∈ g.excluded, ¬glob.matchesText p.text = true := by
  have htext : String.ofList (p.chars.map fun c => if c = '\\' then '/' else c) = p.text := by
    have hsame : p.chars.map (fun c => if c = '\\' then '/' else c) = p.chars :=
      (List.map_congr_left fun c hc => if_neg fun h : c = '\\' => hp (h ▸ hc)).trans (List.map_id _)
    rw [hsame, Path.chars, String.ofList_toList]
  rw [selects, htext, Bool.and_eq_true, Bool.not_eq_true', List.any_eq_false]

/-- What is always left out are stories, tests and specs. -/
theorem forall_alwaysLeftOut_iff {s : String} {dirs : List (List Char)} {last : List Char}
    (hs : Text.splitOn (· == '/') s.toList = dirs ++ [last]) :
    (∀ cs ∈ alwaysLeftOut, ¬Glob.matchesText ⟨Glob.anywhere cs⟩ s = true)
      ↔ ∀ word ∈ [".stories.", ".test.", ".spec."], ¬word.toList <:+: last := by
  have hwords : ∀ word ∈ [".stories.", ".test.", ".spec."], word.toList ≠ [] ∧
      ∀ c ∈ word.toList, Glob.IsSimple c ∧ Glob.IsLiteral c ∧ Text.IsAscii c := by
    simp [Glob.IsSimple, Glob.IsLiteral, Text.IsAscii]
  rw [alwaysLeftOut, List.forall_mem_map]
  refine forall₂_congr fun word hword => not_congr ?_
  obtain ⟨hne, hchars⟩ := hwords word hword
  have hsimple : ∀ c ∈ '*' :: (word.toList ++ ['*']), Glob.IsSimple c := by
    have hstar : Glob.IsSimple '*' := by decide
    simp only [List.forall_mem_cons, List.forall_mem_append]
    exact ⟨hstar, fun c hc => (hchars c hc).1, hstar, by simp⟩
  have hlast : ('*' :: (word.toList ++ ['*'])).getLast? ≠ some '.' := by
    rw [← List.cons_append, List.getLast?_concat]
    decide
  rw [Glob.matchesText_anywhere_iff hsimple (List.cons_ne_nil _ _) hs,
    and_iff_left fun h => hlast h.2,
    Glob.spells_between_stars_iff fun c hc => (hchars c hc).2.1,
    Text.utf8_infix_iff (fun c hc => (hchars c hc).2.2) hne]

/-- What the alternatives leave out. -/
theorem forall_leftOut_iff (halternatives : ∀ a ∈ alternatives, ∀ c ∈ a, IsOrdinary c)
    (hsuffix : ∀ c ∈ suffix, IsOrdinary c) {s : String} {dirs : List (List Char)}
    {last : List Char} (hs : Text.splitOn (· == '/') s.toList = dirs ++ [last]) :
    (∀ cs ∈ leftOut alternatives suffix, ¬Glob.matchesText ⟨Glob.anywhere cs⟩ s = true)
      ↔ ∀ a ∈ alternatives, a ≠ [] → Glob.Spells (a ++ suffix) (Text.utf8 last) →
        last = ['.', '.'] ∧ (a ++ suffix).getLast? = some '.' := by
  have hmatches : ∀ cs ∈ leftOut alternatives suffix,
      (¬Glob.matchesText ⟨Glob.anywhere cs⟩ s = true ↔ (Glob.Spells cs (Text.utf8 last) →
        last = ['.', '.'] ∧ cs.getLast? = some '.')) := fun cs hcs => by
    obtain ⟨hne, hsimple⟩ :=
      isSimple_of_mem_leftOut halternatives hsuffix (List.mem_append_right _ hcs)
    rw [Glob.matchesText_anywhere_iff hsimple hne hs, not_and_not_right]
  rw [forall₂_congr hmatches, leftOut, List.forall_mem_map]
  simp [List.mem_filter]

/-- **A last segment that leaves alternatives out selects what it should**: what a star in the place
of its alternatives selects, without what an alternative stands for in the last component, and
without stories, tests and specs.  Only where the last component is a `..`, which is no file name,
an alternative that ends in a dot leaves nothing out. -/
theorem selects_negation_iff (hread : SourceGlob.read pattern = .ok g)
    (hsegments : segments pattern = outer ++ [negation alternatives suffix])
    (halternatives : ∀ a ∈ alternatives, ∀ c ∈ a, IsOrdinary c)
    (hsuffix : ∀ c ∈ suffix, IsOrdinary c) :
    ∃ starred, Glob.read (String.ofList
        (['/'].intercalate (outer.dropWhile (!isSpecial ·) ++ ['*' :: suffix]))) = .ok starred ∧
      ∀ (p : Path) (dirs : List (List Char)) (last : List Char), '\\' ∉ p.chars →
        p.pieces = dirs ++ [last] →
        (g.selects p = true ↔ starred.matchesText p.text = true ∧
          (∀ a ∈ alternatives, a ≠ [] → Glob.Spells (a ++ suffix) (Text.utf8 last) →
            last = ['.', '.'] ∧ (a ++ suffix).getLast? = some '.') ∧
          ∀ word ∈ [".stories.", ".test.", ".spec."], ¬word.toList <:+: last) := by
  obtain ⟨outer', last', hg⟩ := read_eq_ok_iff.1 hread
  obtain ⟨rfl, rfl⟩ := List.append_singleton_inj.1 (hg.segments_eq.symm.trans hsegments)
  have hstarred := hg.selected
  rw [rewriteLast_negation halternatives hsuffix] at hstarred
  refine ⟨g.selected, hstarred, fun p dirs last hp hlast => ?_⟩
  rw [selects_iff g hp, excluded_eq_map hg halternatives hsuffix, List.forall_mem_map,
    List.forall_mem_append, forall_alwaysLeftOut_iff hlast,
    forall_leftOut_iff halternatives hsuffix hlast, and_comm (a := ∀ word ∈ _, _)]

/-- A module beside its types is left out where types are. -/
theorem selects_negation_types : ∃ g, SourceGlob.read "src/**/!(*.stories|*.types).ts" = .ok g ∧
    g.selects ⟨"button/button.types.ts"⟩ = false := by
  have hread : (SourceGlob.read "src/**/!(*.stories|*.types).ts").toOption.isSome = true := by
    decide +kernel
  obtain ⟨g, hread⟩ := Option.isSome_iff_exists.1 hread
  rw [Except.toOption_eq_some] at hread
  obtain ⟨starred, -, h⟩ := selects_negation_iff hread
    (show _ = ["src".toList, "**".toList] ++ [negation ["*.stories".toList, "*.types".toList]
      ".ts".toList] by decide +kernel) (by simp [IsOrdinary, Glob.IsSimple])
    (by simp [IsOrdinary, Glob.IsSimple])
  refine ⟨g, hread, Bool.eq_false_iff.2 fun hselects => ?_⟩
  have hleft := ((h ⟨"button/button.types.ts"⟩ ["button".toList] "button.types.ts".toList
    (by decide) (by decide)).1 hselects).2.1
  have hspells : Glob.Spells ("*.types".toList ++ ".ts".toList)
      (Text.utf8 "button.types.ts".toList) := by
    have htail : Glob.Spells ".types.ts".toList (Text.utf8 ".types.ts".toList) :=
      Glob.spells_word (by simp [Glob.IsLiteral])
    exact ⟨Text.utf8 "button".toList, _, by decide, trivial, htail⟩
  exact absurd (hleft "*.types".toList (by decide) (by decide) hspells).1 (by decide)

/-- A `..` is selected though it is what the one alternative stands for. -/
theorem selects_parent : ∃ g starred, SourceGlob.read "!(..)" = .ok g ∧
    segments "!(..)" = [negation [['.', '.']] []] ∧ Glob.read "*" = .ok starred ∧
    ¬(g.selects ⟨".."⟩ = true ↔ starred.matchesText ".." = true ∧
      (∀ a ∈ [['.', '.']], a ≠ [] → ¬Glob.Spells (a ++ []) (Text.utf8 ['.', '.'])) ∧
      ∀ word ∈ [".stories.", ".test.", ".spec."], ¬word.toList <:+: ['.', '.']) := by
  have hread : (SourceGlob.read "!(..)").toOption.any (·.selects ⟨".."⟩) = true := by
    decide +kernel
  obtain ⟨g, hread, hselects⟩ := (Option.any_eq_true _ _).1 hread
  have hspells : Glob.Spells ['.', '.'] (Text.utf8 ['.', '.']) :=
    Glob.spells_word (by simp [Glob.IsLiteral])
  exact ⟨g, ⟨[.zeroOrMore]⟩, Except.toOption_eq_some.1 hread, by decide, rfl,
    fun h => (h.1 hselects).2.1 _ List.mem_cons_self (by decide) hspells⟩

end ElementBindings.SourceGlob
