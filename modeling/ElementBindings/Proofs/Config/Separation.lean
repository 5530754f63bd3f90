import ElementBindings.Proofs.Config.Placeholders
import ElementBindings.Proofs.List

/-!
# Proofs/Config/Separation — templates that keep components apart

An import template gives two components one path only if it forgets the case of their names, and
that is so just when it asks for the lower-case form at most (`render_injective_iff`).  Without
hyphens, all forms of a name have its length, so equal paths agree piece by piece
(`map_toLower_eq_of_flatMap_eq`); and up to the first hyphenated form they agree with the hyphens.
-/

namespace ElementBindings.ImportTemplate

variable {cs : List Char} {ps : List Piece} {p : Placeholder} {t : ImportTemplate}

/-! ## Which placeholders a template has -/

/-- **A text has the placeholders that are written in it.** -/
theorem Splits.mem_iff_written_infix (h : Splits cs ps) :
    .placeholder p ∈ ps ↔ p.written <:+: cs := by
  constructor
  · intro hp
    obtain ⟨before, after, rfl⟩ := List.append_of_mem hp
    rw [← h.flatMap_written, List.flatMap_append, List.flatMap_cons]
    exact List.infix_append' _ _ _
  · rintro ⟨before, after, hcs⟩
    induction h generalizing before with
    | nil => exact absurd hcs (by simp [Placeholder.written])
    | literal hc _ ih =>
      cases before with
      | nil => exact absurd (List.cons.inj hcs).1.symm hc
      | cons b before => exact List.mem_cons_of_mem _ (ih before (List.cons.inj hcs).2)
    | @placeholder cs ps q _ ih =>
      rw [List.append_assoc] at hcs
      cases before with
      | nil =>
        obtain rfl := Placeholder.eq_of_written_append hcs
        exact List.mem_cons_self
      | cons b before =>
        -- a placeholder behind the first brace is not in the first placeholder
        rcases List.append_eq_append_iff.1 (List.cons.inj hcs).2 with ⟨k, hk, hafter⟩ | ⟨k, rfl, hk⟩
        · cases k with
          | nil => exact List.mem_cons_of_mem _ (ih [] (by simpa using hafter))
          | cons d k =>
            obtain rfl := (List.cons.inj hafter).1
            exact absurd (hk ▸ by simp) q.brace_notMem.1
        · exact List.mem_cons_of_mem _ (ih k (by rw [hk, List.append_assoc]))

/-! ## Lengths without hyphens -/

/-- A piece of an import path without hyphens. -/
def Piece.plain (name : String) (piece : Piece) : List Char :=
  (piece.value name).filter (· != '-')

/-- Without hyphens, what a placeholder stands for is the name, in its own case or in lower case. -/
theorem plain_placeholder {name : String} (h : Text.isComponentName name = true) :
    Piece.plain name (.placeholder p)
      = if p = .name then name.toList else name.toList.map Char.toLower := by
  have hchars := fun c => Text.isComponentChar_of_mem (c := c) h
  change List.filter _ (p.value name).toList = _
  cases p with
  | name =>
    exact List.filter_eq_self.2 fun c hc => by
      simp [(Text.ne_hyphen_of_isComponentChar (hchars c hc)).1]
  | lower =>
    rw [Placeholder.value, Text.toList_lowerString h]
    refine List.filter_eq_self.2 fun d hd => ?_
    obtain ⟨c, hc, rfl⟩ := List.mem_map.1 hd
    simp [(Text.ne_hyphen_of_isComponentChar (hchars c hc)).2]
  | kebab =>
    rw [Placeholder.value, Text.kebabCase, String.toList_ofList]
    exact Text.filter_kebab hchars

theorem length_plain_placeholder {name : String} (h : Text.isComponentName name = true) :
    (Piece.plain name (.placeholder p)).length = name.toList.length := by
  rw [plain_placeholder h]
  split
  · rfl
  · exact List.length_map _

/-- Whether a piece is a placeholder. -/
def Piece.isPlaceholder : Piece → Bool
  | literal _ => false
  | placeholder _ => true

/-- **Without hyphens, the length of an import path grows with that of the name**, once for each
placeholder. -/
theorem length_flatMap_plain {name : String} (h : Text.isComponentName name = true) :
    (ps.flatMap (Piece.plain name)).length
      = (ps.flatMap (Piece.plain "")).length
        + ps.countP Piece.isPlaceholder * name.toList.length := by
  induction ps with
  | nil => simp
  | cons piece ps ih =>
    rw [List.flatMap_cons, List.length_append, ih, List.flatMap_cons, List.length_append]
    cases piece with
    | literal c =>
      have hsame : Piece.plain name (.literal c) = Piece.plain "" (.literal c) := rfl
      rw [List.countP_cons_of_neg Bool.false_ne_true, hsame]
      omega
    | placeholder p =>
      have hempty : (Piece.plain "" (.placeholder p)).length = 0 := by cases p <;> rfl
      rw [List.countP_cons_of_pos rfl, length_plain_placeholder h, hempty, Nat.succ_mul]
      omega

/-! ## Equal paths -/

variable {n m : String}

/-- **Names with one import path differ in case only**, if the template has a placeholder at all. -/
theorem map_toLower_eq_of_flatMap_eq (hn : Text.isComponentName n = true)
    (hm : Text.isComponentName m = true) (hp : .placeholder p ∈ ps)
    (h : ps.flatMap (Piece.value n) = ps.flatMap (Piece.value m)) :
    n.toList.map Char.toLower = m.toList.map Char.toLower ∧ (p = .name → n = m) := by
  have hplain : ps.flatMap (Piece.plain n) = ps.flatMap (Piece.plain m) := by
    have hfilter := congrArg (List.filter (· != '-')) h
    rwa [List.filter_flatMap, List.filter_flatMap] at hfilter
  have hcount : 0 < ps.countP Piece.isPlaceholder := List.countP_pos_iff.2 ⟨_, hp, rfl⟩
  have hlength : n.toList.length = m.toList.length := by
    have hlengths := congrArg List.length hplain
    rw [length_flatMap_plain hn, length_flatMap_plain hm] at hlengths
    exact Nat.eq_of_mul_eq_mul_left hcount (Nat.add_left_cancel hlengths)
  have hblock := List.forall_eq_of_flatMap_eq (fun piece _ => ?_) hplain _ hp
  · rw [plain_placeholder hn, plain_placeholder hm] at hblock
    split at hblock
    · next hname =>
      obtain rfl := String.toList_inj.1 hblock
      exact ⟨rfl, fun _ => rfl⟩
    · next hname => exact ⟨hblock, fun h => absurd h hname⟩
  · cases piece with
    | literal c => rfl
    | placeholder q => rw [length_plain_placeholder hn, length_plain_placeholder hm, hlength]

/-- Before the first hyphenated form, the paths of names that differ in case only agree, unless a
name stands there in its own case. -/
theorem flatMap_value_eq (hn : Text.isComponentName n = true) (hm : Text.isComponentName m = true)
    (hlower : n.toList.map Char.toLower = m.toList.map Char.toLower)
    (hps : ∀ q : Placeholder, .placeholder q ∈ ps → q = .lower) :
    ps.flatMap (Piece.value n) = ps.flatMap (Piece.value m) := by
  refine List.flatMap_congr fun piece hpiece => ?_
  cases piece with
  | literal c => rfl
  | placeholder q =>
    obtain rfl := hps q hpiece
    change (Text.lowerString n).toList = (Text.lowerString m).toList
    rw [Text.toList_lowerString hn, Text.toList_lowerString hm, hlower]

/-- **A template that asks for the name, or for it with hyphens, tells components apart.** -/
theorem eq_of_flatMap_eq (hn : Text.isComponentName n = true) (hm : Text.isComponentName m = true)
    (hp : .placeholder .name ∈ ps ∨ .placeholder .kebab ∈ ps)
    (h : ps.flatMap (Piece.value n) = ps.flatMap (Piece.value m)) : n = m := by
  by_cases hname : .placeholder .name ∈ ps
  · exact (map_toLower_eq_of_flatMap_eq hn hm hname h).2 rfl
  have hkebab := hp.resolve_left hname
  have hlower := (map_toLower_eq_of_flatMap_eq hn hm hkebab h).1
  -- cut at the first hyphenated form
  obtain ⟨before, after, rfl, hfirst⟩ := List.eq_append_cons_of_mem hkebab
  have hbefore : before.flatMap (Piece.value n) = before.flatMap (Piece.value m) := by
    refine flatMap_value_eq hn hm hlower fun q hq => ?_
    cases q with
    | name => exact absurd (List.mem_append_left _ hq) hname
    | lower => rfl
    | kebab => exact absurd hq hfirst
  rw [List.flatMap_append, List.flatMap_append, hbefore, List.flatMap_cons, List.flatMap_cons] at h
  exact Text.eq_of_kebabCase_append hn hm hlower (List.append_cancel_left h)

/-- **A template keeps all components apart just when it has the name in it, or the name with
hyphens.**  Any other placeholders and any text may stand around it. -/
theorem render_injective_iff {text : String} (ht : read text = .ok t) :
    (∀ n m, Text.isComponentName n = true → Text.isComponentName m = true →
      t.render n = t.render m → n = m)
      ↔ Placeholder.name.written <:+: text.toList ∨
        Placeholder.kebab.written <:+: text.toList := by
  obtain ⟨-, hbraces, rfl⟩ := read_eq_ok_iff.1 ht
  obtain ⟨ps, hps⟩ := exists_splits_of_check hbraces.check
  rw [← hps.mem_iff_written_infix, ← hps.mem_iff_written_infix]
  constructor
  · intro hinj
    by_contra hnone
    rw [not_or] at hnone
    -- two names that differ in the case of one letter
    have hn : Text.isComponentName "AB" = true := by decide
    have hm : Text.isComponentName "Ab" = true := by decide
    refine absurd (hinj "AB" "Ab" hn hm ?_) (by decide)
    rw [← String.toList_inj, render_eq hps hn, render_eq hps hm]
    refine flatMap_value_eq hn hm (by decide) fun q hq => ?_
    cases q with
    | name => exact absurd hq hnone.1
    | lower => rfl
    | kebab => exact absurd hq hnone.2
  · intro hp n m hn hm h
    rw [← String.toList_inj, render_eq hps hn, render_eq hps hm] at h
    exact eq_of_flatMap_eq hn hm hp h

/-- A template in which hyphens stand between the forms of the name. -/
def hyphenTemplate : String := "@acme/\x7blower\x7d-\x7bkebab\x7d--\x7bkebab\x7d"

theorem render_injective_iff_hyphen :
    read hyphenTemplate = .ok ⟨hyphenTemplate⟩ ∧
      Placeholder.kebab.written <:+: hyphenTemplate.toList ∧
      (⟨hyphenTemplate⟩ : ImportTemplate).render "IconButton"
        ≠ (⟨hyphenTemplate⟩ : ImportTemplate).render "Iconbutton" := by
  have hread : read hyphenTemplate = .ok ⟨hyphenTemplate⟩ := by decide +kernel
  have hkebab : Placeholder.kebab.written <:+: hyphenTemplate.toList := by decide +kernel
  refine ⟨hread, hkebab, fun h => ?_⟩
  have hsame := (render_injective_iff hread).2 (Or.inr hkebab) _ _ (by decide) (by decide) h
  exact absurd hsame (by decide)

end ElementBindings.ImportTemplate
