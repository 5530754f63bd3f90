import ElementBindings.Proofs.Path.Specifier

/-!
# Proofs/Path/Reach — what a specifier can lead to

Between relative paths there is a specifier when the target climbs as far as the directory
(`isSome_relativeSpecifier_of_climbing`).  Where none is given, the way back goes through a
directory whose name only the place knows, and nothing relative leads there from everywhere
(`exists_walk_ne_of_relativeSpecifier_eq_none`).
-/

namespace ElementBindings.Path

theorem descends_of_mem_climbing {ups : ℕ} {ns : List String} {c : Component}
    (h : c ∈ climbing ups ns) : c.descends = true := by
  rcases List.mem_append.1 h with h | h
  · rw [List.eq_of_mem_replicate h]
    rfl
  · obtain ⟨s, -, rfl⟩ := List.mem_map.1 h
    rfl

/-- **Between relative paths there is a specifier when the target climbs as far as the
directory.** -/
theorem isSome_relativeSpecifier_of_climbing {dir target : Path} {u v : ℕ} {ns ms : List String}
    (hdir : resolve dir.components = climbing u ns)
    (htarget : resolve target.components = climbing v ms) (huv : u ≤ v) :
    (relativeSpecifier dir target).isSome = true := by
  have hsplit : climbing v ms = List.replicate u .parent ++ climbing (v - u) ms := by
    rw [climbing, climbing, ← List.append_assoc, List.replicate_append_replicate,
      Nat.add_sub_cancel' huv]
  rw [← components_normalize_eq] at hdir htarget
  exact isSome_relativeSpecifier_of_append hdir (htarget.trans hsplit)
    fun c hc => descends_of_mem_climbing hc

/-- **Where no specifier is given, nothing relative leads to the target from everywhere.** -/
theorem exists_walk_ne_of_relativeSpecifier_eq_none {dir target : Path}
    (h : relativeSpecifier dir target = none) {p : Path} (hp : p.isAbsolute = false) :
    ∃ b : Path, b.isAbsolute = true ∧
      walk b.place (dir.join p).components ≠ walk b.place target.components := by
  cases hdir : dir.isAbsolute <;> cases htarget : target.isAbsolute
  · -- the way back climbs out of more than the target does
    obtain ⟨u, ns, hu⟩ := exists_resolve_of_not_isAbsolute hdir
    obtain ⟨v, ms, hv⟩ := exists_resolve_of_not_isAbsolute htarget
    have hvu : v < u := by
      by_contra hle
      have hsome := isSome_relativeSpecifier_of_climbing hu hv (not_lt.1 hle)
      rw [h] at hsome
      exact absurd hsome (by decide)
    have hfirst : ∀ x, (walk (List.replicate u x) target.components).head? = some x := fun x => by
      rw [← walk_resolve, hv, head?_walk_climbing hvu]
    have hback : ∀ x, walk (List.replicate u x) (dir.join p).components = walk ns p.components :=
      fun x => by rw [walk_join, ← walk_resolve _ dir.components, hu, walk_climbing_of_le le_rfl]
    obtain ⟨b, hb, hne⟩ := exists_walk_ne hfirst hback
    exact ⟨b, hb, hne.symm⟩
  · exact exists_walk_ne_of_isAbsolute (isAbsolute_join_of_not hdir hp) htarget
  · obtain ⟨b, hb, hne⟩ := exists_walk_ne_of_isAbsolute htarget (isAbsolute_join hdir p)
    exact ⟨b, hb, hne.symm⟩
  · have hsome := isSome_relativeSpecifier hdir htarget
    rw [h] at hsome
    exact absurd hsome (by decide)

/-- **A specifier is given just where one can be.**  One that is given leads from the directory to
the target, whatever directory both are seen from; between absolute paths there always is one; and
where none is given, no relative path leads to the target from every directory. -/
theorem relativeSpecifier_leads_or_nothing_does (dir target : Path) :
    (∀ s, relativeSpecifier dir target = some s → ∀ b : Path, b.isAbsolute = true →
      ((b.join dir).join ⟨s⟩).normalize = (b.join target).normalize) ∧
    (dir.isAbsolute = true → target.isAbsolute = true →
      (relativeSpecifier dir target).isSome = true) ∧
    (relativeSpecifier dir target = none → ∀ p : Path, p.isAbsolute = false →
      ∃ b : Path, b.isAbsolute = true ∧
        ((b.join dir).join p).normalize ≠ (b.join target).normalize) := by
  have hnormal : ∀ {q r : Path}, q.isAbsolute = true → r.isAbsolute = true →
      (q.normalize = r.normalize ↔ q.place = r.place) := fun hq hr => by
    refine ⟨fun h => ?_, fun h => ?_⟩
    · rw [← place_normalize hq, h, place_normalize hr]
    · rw [normalize_of_isAbsolute hq, normalize_of_isAbsolute hr, h]
  refine ⟨fun s h b hb => ?_, isSome_relativeSpecifier, fun h p hp => ?_⟩
  · rw [hnormal (isAbsolute_join (isAbsolute_join hb dir) _) (isAbsolute_join hb target)]
    exact place_join_of_relativeSpecifier h b
  · obtain ⟨b, hb, hne⟩ := exists_walk_ne_of_relativeSpecifier_eq_none h hp
    refine ⟨b, hb, fun heq => hne ?_⟩
    rw [hnormal (isAbsolute_join (isAbsolute_join hb dir) _) (isAbsolute_join hb target)] at heq
    rw [walk_join, ← place_join_eq_walk, ← place_join_eq_walk, ← place_join_eq_walk, heq]

end ElementBindings.Path
