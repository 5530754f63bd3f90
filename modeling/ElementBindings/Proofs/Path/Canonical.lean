import ElementBindings.Proofs.Path.Place

/-!
# Proofs/Path/Canonical — the normal form of a path is its meaning

Normalising keeps where a path leads from any place (`walk_resolve`).  What it leaves is straight: a
root and names, or `..`s and then names (`climbing`).  Straight ways that differ part at some place
(`exists_walk_ne`), so two paths have one normal form just when they lead to one place from
everywhere (`normalize_canonical`).
-/

namespace ElementBindings.Path

/-! ## What resolving keeps -/

/-- **One step on the stack goes where the component goes**, from any place. -/
theorem walk_step (place : List String) (stack : List Component) (c : Component) :
    walk place (step stack c).reverse = walk place (stack.reverse ++ [c]) := by
  have hpush : ∀ d : Component,
      walk place (d :: stack).reverse = walk place (stack.reverse ++ [d]) := fun d => congrArg (walk place) List.reverse_cons
  cases c with
  | root => exact hpush _
  | name s => exact hpush _
  | current => rw [step, walk_append, walk, walk]
  | parent =>
    -- a `..` takes a name off the stack, and goes nowhere from the root
    rcases stack with _ | ⟨_ | _ | _ | s, outer⟩
    · rfl
    · simp only [step, List.reverse_cons, walk_append, walk, List.dropLast_nil]
    · exact hpush _
    · exact hpush _
    · simp only [step, List.reverse_cons, walk_append, walk, List.dropLast_concat]

theorem resolve_concat (cs : List Component) (c : Component) :
    resolve (cs ++ [c]) = (step (resolve cs).reverse c).reverse := by
  rw [resolve, resolve, List.foldl_concat, List.reverse_reverse]

/-- **Resolving keeps where components lead**, from any place. -/
theorem walk_resolve (place : List String) (cs : List Component) :
    walk place (resolve cs) = walk place cs := by
  induction cs using List.reverseRecOn with
  | nil => rfl
  | append_singleton cs c ih =>
    rw [resolve_concat, walk_step, List.reverse_reverse, walk_append, ih, walk_append]

/-- Resolving invents nothing, and leaves no `.`. -/
theorem mem_of_mem_resolve {cs : List Component} {c : Component} (h : c ∈ resolve cs) :
    c ∈ cs ∧ c ≠ .current := by
  have hstep : ∀ (stack : List Component) (d : Component), c ∈ step stack d →
      c ∈ stack ∨ c = d ∧ d ≠ .current := by
    intro stack d hc
    unfold step at hc
    split at hc
    · exact Or.inl hc
    · split at hc
      · exact Or.inl (List.mem_cons_of_mem _ hc)
      · exact Or.inl hc
      · exact (List.mem_cons.1 hc).symm.imp_right fun h => ⟨h, by simp⟩
    · next hcurrent _ => exact (List.mem_cons.1 hc).symm.imp_right fun h => ⟨h, hcurrent⟩
  induction cs using List.reverseRecOn with
  | nil => exact absurd h List.not_mem_nil
  | append_singleton cs d ih =>
    rw [resolve_concat, List.mem_reverse] at h
    rcases hstep _ _ h with h | ⟨rfl, hd⟩
    · obtain ⟨hmem, hne⟩ := ih (List.mem_reverse.1 h)
      exact ⟨List.mem_append_left [d] hmem, hne⟩
    · exact ⟨List.mem_append_right cs (List.mem_singleton_self c), hd⟩

/-! ## Straight ways -/

/-- So many steps up, and then down by names. -/
def climbing (ups : ℕ) (ns : List String) : List Component :=
  List.replicate ups .parent ++ ns.map .name

/-- **Without a root, what is left climbs first and then goes down.** -/
theorem exists_resolve_eq_climbing {cs : List Component} (h : ∀ c ∈ cs, c ≠ .root) :
    ∃ ups ns, resolve cs = climbing ups ns := by
  induction cs using List.reverseRecOn with
  | nil => exact ⟨0, [], rfl⟩
  | append_singleton cs c ih =>
    obtain ⟨ups, ns, hcs⟩ := ih fun c hc => h c (List.mem_append_left _ hc)
    rw [resolve_concat, hcs]
    cases c with
    | root => exact absurd rfl (h .root (List.mem_append_right cs (List.mem_singleton_self _)))
    | current => exact ⟨ups, ns, List.reverse_reverse _⟩
    | name s => exact ⟨ups, ns ++ [s], by simp [step, climbing]⟩
    | parent =>
      rcases List.eq_nil_or_concat' ns with rfl | ⟨init, s, rfl⟩
      · have hstep :
            step (List.replicate ups .parent) .parent = List.replicate (ups + 1) .parent := by
          cases ups <;> rfl
        exact ⟨ups + 1, [], by simp [climbing, hstep]⟩
      · exact ⟨ups, init, by simp [step, climbing]⟩

theorem walk_climbing (place : List String) (ups : ℕ) (ns : List String) :
    walk place (climbing ups ns) = place.take (place.length - ups) ++ ns := by
  have hups : walk place (List.replicate ups .parent) = place.take (place.length - ups) := by
    induction ups generalizing place with
    | zero => simp [walk]
    | succ ups ih =>
      rw [List.replicate_succ, walk, ih, List.dropLast_eq_take, List.take_take,
        List.length_take]
      congr 1
      omega
  rw [climbing, walk_append, walk_names, hups]

/-! ## Normal forms -/

/-- Whether a component is a `..` or a file name. -/
def Component.IsStep (c : Component) : Prop := c = .parent ∨ ∃ s, IsFileName s ∧ c = .name s

/-- A step has a text that stands between two slashes, and names it. -/
theorem Component.IsStep.text {c : Component} (h : c.IsStep) :
    (c.text ≠ "" ∧ '/' ∉ c.text.toList) ∧ c.text ≠ "." ∧ ofPiece? c.text.toList = some c := by
  rcases h with rfl | ⟨s, hs, rfl⟩
  · decide
  · exact ⟨⟨hs.1, hs.slash_notMem⟩, hs.2.1, ofPiece?_toList hs⟩

section Steps

variable {cs : List Component}

theorem text_of_mem_map (h : ∀ c ∈ cs, c.IsStep) :
    ∀ s ∈ cs.map Component.text, s ≠ "" ∧ '/' ∉ s.toList := fun s hs => by
  obtain ⟨c, hc, rfl⟩ := List.mem_map.1 hs
  exact (h c hc).text.1

/-- **Steps with slashes between them are what the path that they make names.** -/
theorem named_intercalate_text (h : ∀ c ∈ cs, c.IsStep) :
    (Path.mk ("/".intercalate (cs.map Component.text))).named = cs := by
  rw [named_intercalate fun s hs => (text_of_mem_map h s hs).2, List.map_map, List.filterMap_map]
  exact (List.filterMap_congr fun c hc => (h c hc).text.2.2).trans List.filterMap_some

/-- …and no `.` or root stands in front of them. -/
theorem components_intercalate_text (h : ∀ c ∈ cs, c.IsStep) :
    (Path.mk ("/".intercalate (cs.map Component.text))).components = cs := by
  have htexts := text_of_mem_map h
  have hdot : (Path.mk ("/".intercalate (cs.map Component.text))).pieces.head? ≠ some ['.'] := by
    cases cs with
    | nil => decide
    | cons c cs =>
      rw [pieces_intercalate (by simp) fun s hs => (htexts s hs).2]
      have hne : c.text ≠ "." := (h c List.mem_cons_self).text.2.1
      exact fun hdot => hne (String.toList_inj.1 (Option.some.inj hdot))
  rw [components, if_neg (by rw [isAbsolute_intercalate htexts]; decide), if_neg hdot]
  exact named_intercalate_text h

theorem ofComponents_of_isStep (h : ∀ c ∈ cs, c.IsStep) :
    ofComponents cs = ⟨"/".intercalate (cs.map Component.text)⟩ := by
  rcases cs with _ | ⟨_ | _ | _ | _, _⟩
  · rfl
  · exact absurd (h .root List.mem_cons_self) (by simp [Component.IsStep])
  · rfl
  · rfl
  · rfl

end Steps

theorem Component.IsStep.ne_root {c : Component} (h : c.IsStep) : c ≠ .root := by
  rcases h with rfl | ⟨s, -, rfl⟩ <;> simp

/-- A relative path has steps, and a `.` at most. -/
theorem eq_current_or_isStep {p : Path} (h : p.isAbsolute = false) {c : Component}
    (hc : c ∈ p.components) : c = .current ∨ c.IsStep := by
  rcases components_of_not_isAbsolute h with hp | hp
  · exact Or.inr (mem_named (hp ▸ hc))
  · exact (List.mem_cons.1 (hp ▸ hc)).imp_right mem_named

theorem isStep_of_mem_resolve {p : Path} (h : p.isAbsolute = false) {c : Component}
    (hc : c ∈ resolve p.components) : c.IsStep := by
  obtain ⟨hmem, hne⟩ := mem_of_mem_resolve hc
  exact (eq_current_or_isStep h hmem).resolve_left hne

theorem exists_resolve_of_not_isAbsolute {p : Path} (h : p.isAbsolute = false) :
    ∃ ups ns, resolve p.components = climbing ups ns :=
  exists_resolve_eq_climbing fun c hc => by
    rcases eq_current_or_isStep h hc with rfl | hc
    · simp
    · exact hc.ne_root

/-- **The text of a normal form has the components it was written from.** -/
theorem components_normalize_eq (p : Path) : p.normalize.components = resolve p.components := by
  cases h : p.isAbsolute with
  | true => rw [components_normalize h, resolve_of_isAbsolute h]
  | false =>
    have hsteps : ∀ c ∈ resolve p.components, c.IsStep := fun c => isStep_of_mem_resolve h
    rw [normalize, ofComponents_of_isStep hsteps, components_intercalate_text hsteps]

/-- …and so a normal form is told by its components. -/
theorem normalize_eq_of_components {p q : Path}
    (h : p.normalize.components = q.normalize.components) : p.normalize = q.normalize := by
  rw [components_normalize_eq, components_normalize_eq] at h
  rw [normalize, normalize, h]

theorem isAbsolute_normalize_eq (p : Path) : p.normalize.isAbsolute = p.isAbsolute := by
  cases h : p.isAbsolute with
  | true => exact isAbsolute_normalize h
  | false =>
    refine Bool.eq_false_iff.2 fun habs => ?_
    have hroot : .root ∈ resolve p.components := by
      rw [← components_normalize_eq, components_of_isAbsolute habs]
      exact List.mem_cons_self
    exact (isStep_of_mem_resolve h hroot).ne_root rfl

/-- **A path leads where its normal form does**, from any place. -/
theorem walk_normalize (place : List String) (p : Path) :
    walk place p.normalize.components = walk place p.components := by
  rw [components_normalize_eq, walk_resolve]

/-! ## Where straight ways part -/

theorem walk_of_isAbsolute {p : Path} (h : p.isAbsolute = true) (place : List String) :
    walk place p.components = p.place := by
  rw [Path.place, components_of_isAbsolute h, walk, walk]

/-- A straight way keeps the first name of a place that lies deeper than it climbs. -/
theorem head?_walk_climbing {ups n : ℕ} (h : ups < n) (x : String) (ns : List String) :
    (walk (List.replicate n x) (climbing ups ns)).head? = some x := by
  obtain ⟨k, hk⟩ : ∃ k, n - ups = k + 1 := ⟨n - ups - 1, by omega⟩
  rw [walk_climbing, List.length_replicate, List.take_replicate, Nat.min_eq_left (by omega), hk,
    List.replicate_succ, List.cons_append, List.head?_cons]

/-- A straight way keeps nothing of a place that it climbs out of. -/
theorem walk_climbing_of_le {ups n : ℕ} (h : n ≤ ups) (x : String) (ns : List String) :
    walk (List.replicate n x) (climbing ups ns) = ns := by
  rw [walk_climbing, List.length_replicate, Nat.sub_eq_zero_of_le h, List.take_zero,
    List.nil_append]

/-- **A way that shows the place it starts from parts from one that does not.** -/
theorem exists_walk_ne {as bs : List Component} {n : ℕ} {ending : List String}
    (has : ∀ x, (walk (List.replicate n x) as).head? = some x)
    (hbs : ∀ x, walk (List.replicate n x) bs = ending) :
    ∃ b : Path, b.isAbsolute = true ∧ walk b.place as ≠ walk b.place bs := by
  by_contra hall
  push Not at hall
  have hfirst : ∀ x, IsFileName x → ending.head? = some x := fun x hx => by
    have hplace : (ofPlace (List.replicate n x)).place = List.replicate n x :=
      place_ofPlace fun s hs => (List.eq_of_mem_replicate hs).symm ▸ hx
    have hsame := hall _ (isAbsolute_ofPlace (List.replicate n x))
    rw [hplace, hbs] at hsame
    rw [← hsame, has]
  exact absurd ((hfirst "a" (by decide)).symm.trans (hfirst "b" (by decide))) (by decide)

/-- **Where a path is relative and another is not, they part.** -/
theorem exists_walk_ne_of_isAbsolute {p q : Path} (hp : p.isAbsolute = false)
    (hq : q.isAbsolute = true) :
    ∃ b : Path, b.isAbsolute = true ∧ walk b.place p.components ≠ walk b.place q.components := by
  obtain ⟨ups, ns, hresolve⟩ := exists_resolve_of_not_isAbsolute hp
  have hfirst : ∀ x, (walk (List.replicate (ups + 1) x) p.components).head? = some x := fun x => by
    rw [← walk_resolve, hresolve, head?_walk_climbing (Nat.lt_succ_self ups)]
  exact exists_walk_ne hfirst fun x => walk_of_isAbsolute hq _

/-- …and straight ways that differ part as well. -/
theorem climbing_eq_of_walk_eq {u v : ℕ} {ns ms : List String}
    (h : ∀ b : Path, b.isAbsolute = true →
      walk b.place (climbing u ns) = walk b.place (climbing v ms)) :
    climbing u ns = climbing v ms := by
  rcases lt_trichotomy u v with huv | rfl | hvu
  · obtain ⟨b, hb, hne⟩ := exists_walk_ne (head?_walk_climbing huv · ns)
      (walk_climbing_of_le le_rfl · ms)
    exact absurd (h b hb) hne
  · have hplace : (ofPlace (List.replicate u "a")).place = List.replicate u "a" :=
      place_ofPlace fun s hs => (List.eq_of_mem_replicate hs).symm ▸ (by decide)
    have hsame := h _ (isAbsolute_ofPlace (List.replicate u "a"))
    rw [hplace, walk_climbing_of_le le_rfl, walk_climbing_of_le le_rfl] at hsame
    rw [hsame]
  · obtain ⟨b, hb, hne⟩ := exists_walk_ne (head?_walk_climbing hvu · ms)
      (walk_climbing_of_le le_rfl · ns)
    exact absurd (h b hb).symm hne

/-- **Paths that lead to one place from everywhere resolve to the same components.** -/
theorem resolve_eq_of_walk_eq {p q : Path}
    (h : ∀ b : Path, b.isAbsolute = true →
      walk b.place p.components = walk b.place q.components) :
    resolve p.components = resolve q.components := by
  cases hp : p.isAbsolute <;> cases hq : q.isAbsolute
  · obtain ⟨u, ns, hu⟩ := exists_resolve_of_not_isAbsolute hp
    obtain ⟨v, ms, hv⟩ := exists_resolve_of_not_isAbsolute hq
    rw [hu, hv]
    refine climbing_eq_of_walk_eq fun b hb => ?_
    rw [← hu, ← hv, walk_resolve, walk_resolve, h b hb]
  · obtain ⟨b, hb, hne⟩ := exists_walk_ne_of_isAbsolute hp hq
    exact absurd (h b hb) hne
  · obtain ⟨b, hb, hne⟩ := exists_walk_ne_of_isAbsolute hq hp
    exact absurd (h b hb).symm hne
  · have hplace : p.place = q.place := h ⟨"/"⟩ (by decide)
    rw [resolve_of_isAbsolute hp, resolve_of_isAbsolute hq, hplace]

theorem normalize_eq_iff {p q : Path} :
    p.normalize = q.normalize
      ↔ ∀ b : Path, b.isAbsolute = true →
        walk b.place p.components = walk b.place q.components := by
  constructor
  · intro h b _
    rw [← walk_normalize, h, walk_normalize]
  · intro h
    rw [normalize, normalize, resolve_eq_of_walk_eq h]

/-- **The normal form of a path is its meaning.**  Normalising once is enough; a normal form has no
`.`, and `..`s only in front and only where the path is relative; it leads where the path does, from
any directory; and two paths have the same one just when they lead to one place from everywhere. -/
theorem normalize_canonical (p : Path) :
    p.normalize.normalize = p.normalize ∧
    .current ∉ p.normalize.components ∧
    (∃ ups rest, p.normalize.components = List.replicate ups .parent ++ rest ∧ .parent ∉ rest ∧
      (p.normalize.isAbsolute = true → ups = 0)) ∧
    (∀ b : Path, b.isAbsolute = true →
      walk b.place p.normalize.components = walk b.place p.components) ∧
    ∀ q : Path, p.normalize = q.normalize
      ↔ ∀ b : Path, b.isAbsolute = true →
        walk b.place p.components = walk b.place q.components := by
  refine ⟨normalize_eq_iff.2 fun b _ => walk_normalize _ p, fun hc => ?_, ?_,
    fun b _ => walk_normalize _ p, fun q => normalize_eq_iff⟩
  · rw [components_normalize_eq] at hc
    exact (mem_of_mem_resolve hc).2 rfl
  · cases h : p.isAbsolute with
    | true =>
      exact ⟨0, .root :: p.place.map .name, components_normalize h, by simp, fun _ => rfl⟩
    | false =>
      obtain ⟨ups, ns, hresolve⟩ := exists_resolve_of_not_isAbsolute h
      refine ⟨ups, ns.map .name, ?_, by simp, fun habs => ?_⟩
      · rw [components_normalize_eq, hresolve, climbing]
      · rw [isAbsolute_normalize_eq, h] at habs
        exact absurd habs (by decide)

end ElementBindings.Path
