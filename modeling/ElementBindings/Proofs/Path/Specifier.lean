import ElementBindings.Proofs.Path.Canonical

/-!
# Proofs/Path/Specifier — an import specifier leads to its target

A specifier is the text of a way that climbs out of a directory by its names and goes down as the
target does (`exists_of_relativeSpecifier`).  It leads to the target from wherever both are seen
(`place_join_of_relativeSpecifier`).  Between absolute paths there always is one
(`isSome_relativeSpecifier`), so that two targets have one specifier just when they are one place
(`relativeSpecifier_eq_iff`).
-/

namespace ElementBindings.Path

/-! ## The way between two paths -/

/-- What `dropCommon` takes off two lists is one list in front of both. -/
theorem exists_append_dropCommon : ∀ as bs : List Component, ∃ common,
    as = common ++ (dropCommon as bs).1 ∧ bs = common ++ (dropCommon as bs).2
  | [], bs => ⟨[], rfl, rfl⟩
  | a :: as, [] => ⟨[], rfl, rfl⟩
  | a :: as, b :: bs => by
    by_cases h : a = b
    · obtain ⟨common, has, hbs⟩ := exists_append_dropCommon as bs
      refine ⟨a :: common, ?_, ?_⟩
      · rw [dropCommon, if_pos h, List.cons_append, ← has]
      · rw [dropCommon, if_pos h, List.cons_append, ← hbs, h]
    · rw [dropCommon, if_neg h]
      exact ⟨[], rfl, rfl⟩

theorem dropCommon_append (common as bs : List Component) :
    dropCommon (common ++ as) (common ++ bs) = dropCommon as bs := by
  induction common with
  | nil => rfl
  | cons c common ih => rw [List.cons_append, List.cons_append, dropCommon, if_pos rfl, ih]

/-- A list in front of another is all that they have in common… -/
theorem dropCommon_append_right (as bs : List Component) : dropCommon as (as ++ bs) = ([], bs) := by
  have happend := dropCommon_append as [] bs
  rwa [List.append_nil] at happend

/-- …whichever of the two goes on. -/
theorem dropCommon_append_left (as bs : List Component) : dropCommon (as ++ bs) as = (bs, []) := by
  have hnone : dropCommon bs [] = (bs, []) := by cases bs <;> rfl
  rw [← hnone, ← dropCommon_append as bs [], List.append_nil]

/-- Nothing is left of a list just when it stands in front of the other. -/
theorem dropCommon_fst_eq_nil_iff {as bs : List Component} :
    (dropCommon as bs).1 = [] ↔ as <+: bs := by
  constructor
  · intro h
    obtain ⟨common, has, hbs⟩ := exists_append_dropCommon as bs
    rw [h, List.append_nil] at has
    exact ⟨(dropCommon as bs).2, (congrArg (· ++ _) has).trans hbs.symm⟩
  · rintro ⟨cs, rfl⟩
    rw [dropCommon_append_right]

/-- The text of a way that climbs some steps and then goes down by names. -/
def wayText (climb : ℕ) (descent : List String) : String :=
  let segments := List.replicate climb ".." ++ descent
  let joined := "/".intercalate segments
  if segments.head? = some ".." then joined else "./" ++ joined

/-- **A specifier is the text of a way** that climbs by names and goes down by names or more
climbing. -/
theorem relativeSpecifier_eq_some_iff {dir target : Path} {s : String} :
    relativeSpecifier dir target = some s ↔
      let way := dropCommon dir.normalize.components target.normalize.components
      way.1.all Component.isName = true ∧ way.2.all Component.descends = true ∧
        s = wayText way.1.length (way.2.map Component.text) := by
  simp only [relativeSpecifier, wayText, Option.ite_none_right_eq_some, Bool.and_eq_true, and_assoc,
    Option.some.injEq, eq_comm (b := s)]

/-- **There is a specifier where the directory goes down by names from what it has in common with
the target, and the target goes on from there.** -/
theorem isSome_relativeSpecifier_of_append {dir target : Path} {common descent : List Component}
    {ns : List String} (hdir : dir.normalize.components = common ++ ns.map .name)
    (htarget : target.normalize.components = common ++ descent)
    (hdescends : ∀ c ∈ descent, c.descends = true) :
    (relativeSpecifier dir target).isSome = true := by
  obtain ⟨more, hclimb, hrest⟩ := exists_append_dropCommon (ns.map .name) descent
  refine Option.isSome_iff_exists.2 ⟨_, relativeSpecifier_eq_some_iff.2 ⟨?_, ?_, rfl⟩⟩
  · rw [hdir, htarget, dropCommon_append]
    refine List.all_eq_true.2 fun c hc => ?_
    have hmem : c ∈ ns.map Component.name := hclimb ▸ List.mem_append_right more hc
    obtain ⟨s, -, rfl⟩ := List.mem_map.1 hmem
    rfl
  · rw [hdir, htarget, dropCommon_append]
    exact List.all_eq_true.2 fun c hc => hdescends c (hrest ▸ List.mem_append_right more hc)

theorem isSome_relativeSpecifier {dir target : Path} (hd : dir.isAbsolute = true)
    (ht : target.isAbsolute = true) : (relativeSpecifier dir target).isSome = true := by
  have hdir : dir.normalize.components = [.root] ++ dir.place.map .name := components_normalize hd
  have htarget : target.normalize.components = [.root] ++ target.place.map .name :=
    components_normalize ht
  refine isSome_relativeSpecifier_of_append hdir htarget fun c hc => ?_
  obtain ⟨s, -, rfl⟩ := List.mem_map.1 hc
  rfl

/-! ## The text of a way -/

theorem head?_intercalate_dots (segments : List String) :
    ("/".intercalate (".." :: segments)).toList.head? = some '.' := by
  cases segments <;> simp

/-- **A specifier starts with a dot.** -/
theorem head?_relativeSpecifier {dir target : Path} {s : String}
    (h : relativeSpecifier dir target = some s) : s.toList.head? = some '.' := by
  obtain ⟨-, -, rfl⟩ := relativeSpecifier_eq_some_iff.1 h
  rw [wayText]
  split
  · next hhead =>
    obtain ⟨segments, hs⟩ := List.head?_eq_some_iff.1 hhead
    rw [hs]
    exact head?_intercalate_dots segments
  · simp

theorem isAbsolute_of_head?_dot {s : String} (h : s.toList.head? = some '.') :
    (Path.mk s).isAbsolute = false := by
  rw [isAbsolute, chars, h]
  rfl

/-- Steps with slashes between them name the same with a `.` in front. -/
theorem named_dot_intercalate {cs : List Component} (h : ∀ c ∈ cs, c.IsStep) :
    (Path.mk ("./" ++ "/".intercalate (cs.map Component.text))).named = cs := by
  have hrel := isAbsolute_intercalate (text_of_mem_map h)
  have hdot : Path.mk ("./" ++ "/".intercalate (cs.map Component.text))
      = (Path.mk ".").join ⟨"/".intercalate (cs.map Component.text)⟩ := by
    rw [join, if_neg (by simp [hrel]), if_neg (by decide)]
    rfl
  rw [hdot, named_join hrel, named_intercalate_text h]
  rfl

section Way

variable {climb : ℕ} {descent : List Component}

theorem isStep_climbing_append (climb : ℕ) (h : ∀ c ∈ descent, c.IsStep) :
    ∀ c ∈ climbing climb [] ++ descent, c.IsStep := fun c hc => by
  rcases List.mem_append.1 hc with hc | hc
  · rw [climbing, List.map_nil, List.append_nil] at hc
    exact Or.inl (List.eq_of_mem_replicate hc)
  · exact h c hc

/-- The text of a way is that of its steps, with a `.` in front unless they begin with `..`. -/
theorem wayText_map_text (h : ∀ c ∈ descent, c.IsStep) :
    wayText climb (descent.map Component.text)
      = let steps := climbing climb [] ++ descent
        let joined := "/".intercalate (steps.map Component.text)
        if steps.head? = some .parent then joined else "./" ++ joined := by
  have htexts : List.replicate climb ".." ++ descent.map Component.text
      = (climbing climb [] ++ descent).map Component.text := by
    simp [climbing, Component.text]
  have hhead : ((climbing climb [] ++ descent).map Component.text).head? = some ".."
      ↔ (climbing climb [] ++ descent).head? = some .parent := by
    have hsteps := isStep_climbing_append climb h
    cases hcs : climbing climb [] ++ descent with
    | nil => simp
    | cons c cs =>
      rw [hcs] at hsteps
      rw [List.map_cons, List.head?_cons, List.head?_cons, Option.some_inj, Option.some_inj]
      rcases hsteps c List.mem_cons_self with rfl | ⟨s, hs, rfl⟩
      · exact iff_of_true rfl rfl
      · exact iff_of_false hs.2.2.1 (by simp)
  rw [wayText, htexts]
  simp only [hhead]

/-- **The text of a way names its steps.** -/
theorem named_wayText (h : ∀ c ∈ descent, c.IsStep) :
    (Path.mk (wayText climb (descent.map Component.text))).named
      = climbing climb [] ++ descent := by
  have hsteps := isStep_climbing_append climb h
  rw [wayText_map_text h]
  simp only
  split
  · exact named_intercalate_text hsteps
  · exact named_dot_intercalate hsteps

end Way

/-! ## Joining and walking -/

/-- Where a path leads is told by what it names, from the root if it is absolute. -/
theorem walk_components (place : List String) (p : Path) :
    walk place p.components = walk (if p.isAbsolute then [] else place) p.named := by
  cases h : p.isAbsolute with
  | true => rw [components_of_isAbsolute h, walk, if_pos rfl]
  | false =>
    rcases components_of_not_isAbsolute h with hp | hp
    · rw [hp, if_neg (by decide)]
    · rw [hp, walk, if_neg (by decide)]

/-- A relative path seen from a relative directory is relative. -/
theorem isAbsolute_join_of_not {dir p : Path} (hdir : dir.isAbsolute = false)
    (hp : p.isAbsolute = false) : (dir.join p).isAbsolute = false := by
  by_cases hd : dir.chars = []
  · rw [join, if_neg (by simp [hp]), if_pos (Or.inl hd), isAbsolute, chars, String.toList_append,
      ← chars, hd]
    exact hp
  · have hhead : ∀ tail : List Char, (dir.chars ++ tail).head? = dir.chars.head? := fun tail =>
      List.head?_append_of_ne_nil _ hd
    rw [isAbsolute] at hdir
    rw [join, if_neg (by simp [hp])]
    split
    · rw [isAbsolute, chars, String.toList_append, ← chars, hhead, hdir]
    · rw [isAbsolute, chars, String.toList_append, String.toList_append, ← chars,
        List.append_assoc, hhead, hdir]

theorem isAbsolute_join_eq {p : Path} (hp : p.isAbsolute = false) (dir : Path) :
    (dir.join p).isAbsolute = dir.isAbsolute := by
  cases hdir : dir.isAbsolute with
  | true => exact isAbsolute_join hdir p
  | false => exact isAbsolute_join_of_not hdir hp

/-- **Joining is walking on**, from any place. -/
theorem walk_join (place : List String) (dir p : Path) :
    walk place (dir.join p).components = walk (walk place dir.components) p.components := by
  cases hp : p.isAbsolute with
  | true => rw [join_of_isAbsolute hp, walk_of_isAbsolute hp, walk_of_isAbsolute hp]
  | false =>
    rw [walk_components place, walk_components place dir, walk_components _ p,
      isAbsolute_join_eq hp, named_join hp, walk_append, hp, if_neg Bool.false_ne_true]

theorem place_join_eq_walk (dir p : Path) : (dir.join p).place = walk dir.place p.components :=
  walk_join [] dir p

/-! ## Where a specifier leads -/

/-- A component that goes on from a place is a step. -/
theorem isStep_of_mem_components {p : Path} {c : Component} (hc : c ∈ p.components)
    (hdescends : c.descends = true) : c.IsStep := by
  cases h : p.isAbsolute with
  | true =>
    rw [components_of_isAbsolute h] at hc
    rcases List.mem_cons.1 hc with rfl | hc
    · exact absurd hdescends (by decide)
    · exact mem_named hc
  | false =>
    refine (eq_current_or_isStep h hc).resolve_left ?_
    rintro rfl
    exact absurd hdescends (by decide)

theorem exists_map_name {cs : List Component} (h : cs.all Component.isName = true) :
    ∃ ns : List String, cs = ns.map .name := by
  induction cs with
  | nil => exact ⟨[], rfl⟩
  | cons c cs ih =>
    rw [List.all_cons, Bool.and_eq_true] at h
    obtain ⟨ns, rfl⟩ := ih h.2
    cases c with
    | name s => exact ⟨s :: ns, rfl⟩
    | _ => exact absurd h.1 (by decide)

/-- **What a specifier is written from**: names to climb out of, and steps to go on by. -/
theorem exists_wayText_of_relativeSpecifier {dir target : Path} {s : String}
    (h : relativeSpecifier dir target = some s) :
    ∃ (ns : List String) (descent : List Component),
      dropCommon dir.normalize.components target.normalize.components
        = (ns.map .name, descent) ∧
      (∀ c ∈ descent, c.IsStep) ∧ s = wayText ns.length (descent.map Component.text) := by
  obtain ⟨common, -, htarget⟩ :=
    exists_append_dropCommon dir.normalize.components target.normalize.components
  obtain ⟨hnames, hdescends, rfl⟩ := relativeSpecifier_eq_some_iff.1 h
  obtain ⟨ns, hns⟩ := exists_map_name hnames
  refine ⟨ns, _, Prod.ext hns rfl, fun c hc => ?_, ?_⟩
  · have hmem : c ∈ target.normalize.components := htarget ▸ List.mem_append_right common hc
    exact isStep_of_mem_components hmem (List.all_eq_true.1 hdescends c hc)
  · rw [hns, List.length_map]

/-- **What a specifier is made of**: it climbs out of the directory by names, and goes down as the
target does. -/
theorem exists_of_relativeSpecifier {dir target : Path} {s : String}
    (h : relativeSpecifier dir target = some s) :
    ∃ (common : List Component) (ns : List String) (descent : List Component),
      dir.normalize.components = common ++ ns.map .name ∧
      target.normalize.components = common ++ descent ∧
      (Path.mk s).named = climbing ns.length [] ++ descent := by
  obtain ⟨ns, descent, hway, hsteps, rfl⟩ := exists_wayText_of_relativeSpecifier h
  obtain ⟨common, hdir, htarget⟩ :=
    exists_append_dropCommon dir.normalize.components target.normalize.components
  rw [hway] at hdir htarget
  exact ⟨common, ns, descent, hdir, htarget, named_wayText hsteps⟩

/-- **A specifier leads to its target**, from wherever both are seen. -/
theorem place_join_of_relativeSpecifier {dir target : Path} {s : String}
    (h : relativeSpecifier dir target = some s) (b : Path) :
    ((b.join dir).join ⟨s⟩).place = (b.join target).place := by
  obtain ⟨common, ns, descent, hdir, htarget, hs⟩ := exists_of_relativeSpecifier h
  have hrel := isAbsolute_of_head?_dot (head?_relativeSpecifier h)
  have hback : walk (walk b.place common ++ ns) (climbing ns.length []) = walk b.place common := by
    rw [climbing, List.map_nil, List.append_nil, walk_parents]
  calc ((b.join dir).join ⟨s⟩).place
      = walk (walk b.place dir.normalize.components) (Path.mk s).named := by
        rw [place_join hrel, place_join_eq_walk, walk_normalize]
    _ = walk (walk b.place common) descent := by
        rw [hdir, hs, walk_append, walk_append _ common, walk_names, hback]
    _ = walk b.place target.normalize.components := by rw [htarget, walk_append]
    _ = (b.join target).place := by rw [walk_normalize, place_join_eq_walk]

/-- …and between absolute paths as they are. -/
theorem place_join_relativeSpecifier {dir target : Path} {s : String} (hd : dir.isAbsolute = true)
    (ht : target.isAbsolute = true) (h : relativeSpecifier dir target = some s) :
    (dir.join ⟨s⟩).place = target.place := by
  have hplace := place_join_of_relativeSpecifier h ⟨"/"⟩
  rwa [join_of_isAbsolute hd, join_of_isAbsolute ht] at hplace

/-- **Seen from one directory, two targets have the same specifier just when they are the same
place.** -/
theorem relativeSpecifier_eq_iff {dir t u : Path} (hd : dir.isAbsolute = true)
    (ht : t.isAbsolute = true) (hu : u.isAbsolute = true) :
    relativeSpecifier dir t = relativeSpecifier dir u ↔ t.place = u.place := by
  constructor
  · intro h
    obtain ⟨s, hs⟩ := Option.isSome_iff_exists.1 (isSome_relativeSpecifier hd ht)
    rw [← place_join_relativeSpecifier hd ht hs, place_join_relativeSpecifier hd hu (h ▸ hs)]
  · intro h
    rw [relativeSpecifier, relativeSpecifier, components_normalize ht, components_normalize hu, h]

end ElementBindings.Path
