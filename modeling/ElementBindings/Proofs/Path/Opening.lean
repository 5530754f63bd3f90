import ElementBindings.Proofs.Path.Specifier

/-!
# Proofs/Path/Opening — what a specifier opens with

The first step of a way shows in the first piece of its text (`opens_wayText`).  Between absolute
paths a specifier opens with `./` just when the target lies in the directory, and with `..` just when
it does not (`isWithin_iff_opens`).  What opens with `..` goes on behind a slash but for one text:
`..` alone, which is the specifier of the directory right above (`relativeSpecifier_opening`).
-/

namespace ElementBindings.Path

/-! ## The first step -/

/-- **The text of a way opens with `..` where its first step is one, and with `./` otherwise.** -/
theorem opens_wayText (climb : ℕ) {descent : List Component} (h : ∀ c ∈ descent, c.IsStep) :
    let first := (climbing climb [] ++ descent).head?
    let s := wayText climb (descent.map Component.text)
    (first = some .parent → (Path.mk s).pieces.head? = some "..".toList) ∧
      (first ≠ some .parent → "./".toList <+: s.toList) := by
  intro first s
  have htexts := text_of_mem_map (isStep_climbing_append climb h)
  have hs : s = _ := wayText_map_text h
  refine ⟨fun hfirst => ?_, fun hfirst => ?_⟩
  · obtain ⟨rest, hrest⟩ := List.head?_eq_some_iff.1 hfirst
    rw [hs, if_pos hfirst, pieces_intercalate (by simp [hrest]) fun s hs => (htexts s hs).2, hrest]
    rfl
  · rw [hs, if_neg hfirst, String.toList_append]
    exact List.prefix_append _ _

/-- A specifier that opens with `./` has a `.` for its first piece. -/
theorem head?_pieces_of_dot {s : String} (h : "./".toList <+: s.toList) :
    (Path.mk s).pieces.head? = some ".".toList := head?_pieces_iff.2 ⟨by decide, Or.inr h⟩

/-! ## Inside and outside of the directory -/

section Absolute

variable {p dir : Path} (hp : p.isAbsolute = true)

include hp

theorem parent_notMem_components_normalize : .parent ∉ p.normalize.components := by
  rw [components_normalize hp]
  simp

/-- **The way to an absolute path begins with `..` just when the path lies outside.** -/
theorem head?_way_eq_parent_iff {ns : List String} {descent : List Component}
    (hway : dropCommon dir.normalize.components p.normalize.components = (ns.map .name, descent)) :
    (climbing ns.length [] ++ descent).head? = some .parent ↔ p.isWithin dir = false := by
  have hns : ns = [] ↔ p.isWithin dir = true := by
    rw [isWithin, List.isPrefixOf_iff_prefix, ← dropCommon_fst_eq_nil_iff, hway,
      List.map_eq_nil_iff]
  rw [← Bool.not_eq_true, ← hns]
  constructor
  · -- what goes down from the directory is a part of the path
    rintro hhead rfl
    obtain ⟨common, -, htarget⟩ :=
      exists_append_dropCommon dir.normalize.components p.normalize.components
    rw [hway] at htarget
    refine parent_notMem_components_normalize hp (htarget ▸ ?_)
    exact List.mem_append_right common (List.mem_of_head? hhead)
  · intro hne
    obtain ⟨n, rest, rfl⟩ := List.exists_cons_of_ne_nil hne
    rfl

/-- **Containment and specifiers agree**: seen from a directory, a path has a specifier, which opens
with `./` just when the path lies in the directory, and whose first piece is `..` just when it does
not. -/
theorem isWithin_iff_opens (hdir : dir.isAbsolute = true) :
    ∃ s, relativeSpecifier dir p = some s ∧
      (p.isWithin dir = true ↔ "./".toList <+: s.toList) ∧
      (p.isWithin dir = false ↔ (Path.mk s).pieces.head? = some "..".toList) := by
  obtain ⟨s, hs⟩ := Option.isSome_iff_exists.1 (isSome_relativeSpecifier hdir hp)
  refine ⟨s, hs, ?_⟩
  obtain ⟨ns, descent, hway, hsteps, rfl⟩ := exists_wayText_of_relativeSpecifier hs
  obtain ⟨hclimbs, hdescends⟩ := opens_wayText ns.length hsteps
  rw [head?_way_eq_parent_iff hp hway] at hclimbs
  rw [ne_eq, head?_way_eq_parent_iff hp hway] at hdescends
  cases hwithin : p.isWithin dir with
  | true =>
    have hdot := hdescends (by simp [hwithin])
    refine ⟨iff_of_true rfl hdot, iff_of_false (by decide) ?_⟩
    rw [head?_pieces_of_dot hdot]
    decide
  | false =>
    have hdots := hclimbs hwithin
    refine ⟨iff_of_false (by decide) fun hdot => ?_, iff_of_true rfl hdots⟩
    rw [head?_pieces_of_dot hdot] at hdots
    exact absurd hdots (by decide)

end Absolute

/-- A name that begins with dots lies inside, and a directory whose name only goes on like that of
another lies outside of it. -/
theorem isWithin_iff_opens_dots :
    (∃ s, relativeSpecifier ⟨"/repo/src"⟩ ⟨"/repo/src/..button/x"⟩ = some s ∧
      "./".toList <+: s.toList ∧ (Path.mk s).pieces.head? ≠ some "..".toList) ∧
    ∃ s, relativeSpecifier ⟨"/repo/src"⟩ ⟨"/repo/src-old/x"⟩ = some s ∧
      ¬"./".toList <+: s.toList ∧ (Path.mk s).pieces.head? = some "..".toList := by
  have hdir : (Path.mk "/repo/src").isAbsolute = true := by decide
  obtain ⟨s, hs, hin, hout⟩ := isWithin_iff_opens
    (show (Path.mk "/repo/src/..button/x").isAbsolute = true by decide) hdir
  obtain ⟨t, ht, hin', hout'⟩ := isWithin_iff_opens
    (show (Path.mk "/repo/src-old/x").isAbsolute = true by decide) hdir
  refine ⟨⟨s, hs, hin.1 (by decide +kernel), fun h => ?_⟩,
    t, ht, fun h => ?_, hout'.1 (by decide +kernel)⟩
  · exact absurd (hout.2 h) (by decide +kernel)
  · exact absurd (hin'.2 h) (by decide +kernel)

/-! ## The directory right above -/

/-- A `.` in front resolves to nothing. -/
theorem resolve_components (p : Path) :
    resolve p.components = resolve (if p.isAbsolute then .root :: p.named else p.named) := by
  cases hp : p.isAbsolute with
  | true => rw [components_of_isAbsolute hp, if_pos rfl]
  | false =>
    rcases components_of_not_isAbsolute hp with hc | hc
    · rw [hc, if_neg (by decide)]
    · rw [hc, if_neg (by decide)]
      rfl

/-- **The directory above a path resolves in one step from the path.** -/
theorem components_normalize_join_parent (dir : Path) :
    (dir.join ⟨".."⟩).normalize.components
      = (step dir.normalize.components.reverse .parent).reverse := by
  have hnamed : (Path.mk "..").named = [.parent] := by decide
  rw [components_normalize_eq, components_normalize_eq, resolve_components, resolve_components dir,
    isAbsolute_join_eq (by decide), named_join (by decide), hnamed, ← resolve_concat]
  cases dir.isAbsolute <;> rfl

/-- A `..` goes nowhere, comes on top, or takes a name away. -/
theorem step_parent_cases (stack : List Component) :
    step stack .parent = stack ∨ step stack .parent = .parent :: stack ∨
      ∃ s, stack = .name s :: step stack .parent := by
  rcases stack with _ | ⟨_ | _ | _ | s, outer⟩
  · exact Or.inr (Or.inl rfl)
  · exact Or.inl rfl
  · exact Or.inr (Or.inl rfl)
  · exact Or.inr (Or.inl rfl)
  · exact Or.inr (Or.inr ⟨s, rfl⟩)

/-- **Where a specifier is `..`, its target is the directory right above…** -/
theorem normalize_eq_of_relativeSpecifier_eq_parent {dir target : Path}
    (h : relativeSpecifier dir target = some "..") :
    target.normalize = (dir.join ⟨".."⟩).normalize ∧ target.normalize ≠ dir.normalize := by
  refine ⟨normalize_eq_iff.2 fun b _ => ?_, fun heq => ?_⟩
  · rw [walk_join, ← place_join_eq_walk, ← place_join_eq_walk, ← place_join_eq_walk,
      place_join_of_relativeSpecifier h]
  · have hself := dropCommon_append_right dir.normalize.components []
    rw [List.append_nil] at hself
    obtain ⟨-, -, htext⟩ := relativeSpecifier_eq_some_iff.1 h
    rw [heq, hself] at htext
    exact absurd htext (by decide)

/-- **…and the other way round.** -/
theorem relativeSpecifier_eq_parent {dir target : Path}
    (habove : target.normalize = (dir.join ⟨".."⟩).normalize)
    (hne : target.normalize ≠ dir.normalize) : relativeSpecifier dir target = some ".." := by
  have htarget : target.normalize.components
      = (step dir.normalize.components.reverse .parent).reverse := by
    rw [habove, components_normalize_join_parent]
  rw [relativeSpecifier_eq_some_iff]
  rcases step_parent_cases dir.normalize.components.reverse with hstay | hup | ⟨s, hdown⟩
  · rw [hstay, List.reverse_reverse] at htarget
    exact absurd (normalize_eq_of_components htarget) hne
  · rw [hup, List.reverse_cons, List.reverse_reverse] at htarget
    rw [htarget, dropCommon_append_right]
    decide
  · have hdir : dir.normalize.components = target.normalize.components ++ [.name s] := by
      rw [htarget, ← List.reverse_cons, ← hdown, List.reverse_reverse]
    rw [hdir, dropCommon_append_left]
    exact ⟨rfl, rfl, show ".." = wayText 1 [] by decide⟩

/-- **A specifier starts with `./` or `../`, or it is `..` alone**, which it is just when the target
is the directory right above the one it is seen from. -/
theorem relativeSpecifier_opening (dir target : Path) :
    (∀ s, relativeSpecifier dir target = some s →
      "./".toList <+: s.toList ∨ "../".toList <+: s.toList ∨ s = "..") ∧
    (relativeSpecifier dir target = some ".." ↔
      target.normalize = (dir.join ⟨".."⟩).normalize ∧ target.normalize ≠ dir.normalize) := by
  refine ⟨fun s h => ?_, normalize_eq_of_relativeSpecifier_eq_parent,
    fun h => relativeSpecifier_eq_parent h.1 h.2⟩
  obtain ⟨ns, descent, -, hsteps, rfl⟩ := exists_wayText_of_relativeSpecifier h
  obtain ⟨hclimbs, hdescends⟩ := opens_wayText ns.length hsteps
  by_cases hfirst : (climbing ns.length [] ++ descent).head? = some .parent
  · rcases (head?_pieces_iff.1 (hclimbs hfirst)).2 with heq | hmore
    · exact Or.inr (Or.inr (String.toList_inj.1 heq))
    · exact Or.inr (Or.inl hmore)
  · exact Or.inl (hdescends hfirst)

/-- The directory of the sources, seen from one in it, has a specifier without a slash. -/
theorem relativeSpecifier_without_slash :
    ∃ (dir target : Path) (s : String), relativeSpecifier dir target = some s ∧
      ¬("./".toList <+: s.toList ∨ "../".toList <+: s.toList) :=
  ⟨⟨"/repo/src/ui"⟩, ⟨"/repo/src"⟩, "..", by decide +kernel, by decide⟩

end ElementBindings.Path
