import Mathlib.Data.List.Forall2

/-!
# Proofs/Except — computations that may fail, taken apart

What a chain of checks has done when it succeeds, and where it stopped when it fails.
-/

namespace Except

variable {ε ε' α β : Type}

/-- A chain succeeds when each of its steps does. -/
theorem bind_eq_ok {x : Except ε α} {f : α → Except ε β} {b : β} :
    (x >>= f) = .ok b ↔ ∃ a, x = .ok a ∧ f a = .ok b := by
  cases x <;> simp [bind, Except.bind]

/-- A chain fails at its first step or behind it. -/
theorem bind_eq_error {x : Except ε α} {f : α → Except ε β} {e : ε} :
    (x >>= f) = .error e ↔ x = .error e ∨ ∃ a, x = .ok a ∧ f a = .error e := by
  cases x <;> simp [bind, Except.bind]

@[simp]
theorem throw_ne_ok {e : ε} {a : α} : (throw e : Except ε α) ≠ .ok a := nofun

theorem toOption_eq_some {x : Except ε α} {a : α} : x.toOption = some a ↔ x = .ok a := by
  cases x <;> simp [Except.toOption]

theorem mapError_eq_ok {x : Except ε α} {f : ε → ε'} {a : α} :
    x.mapError f = .ok a ↔ x = .ok a := by
  cases x with
  | error e => exact iff_of_false nofun nofun
  | ok b => exact ⟨fun h => congrArg _ (Except.ok.inj h), fun h => congrArg _ (Except.ok.inj h)⟩

theorem mapError_eq_error {x : Except ε α} {f : ε → ε'} {e' : ε'} :
    x.mapError f = .error e' ↔ ∃ e, x = .error e ∧ f e = e' := by
  cases x with
  | error e =>
    refine ⟨fun h => ⟨e, rfl, Except.error.inj h⟩, ?_⟩
    rintro ⟨_, h, rfl⟩
    exact congrArg (fun e => Except.error (f e)) (Except.error.inj h)
  | ok a => exact iff_of_false nofun fun ⟨_, h, _⟩ => nomatch h

/-- **A loop fails at one of its elements**, behind those it has got through. -/
theorem foldlM_eq_error {σ : Type} {step : σ → α → Except ε σ} {as : List α} {s : σ} {e : ε} :
    as.foldlM step s = .error e
      ↔ ∃ before a after s', as = before ++ a :: after ∧ before.foldlM step s = .ok s' ∧
        step s' a = .error e := by
  induction as generalizing s with
  | nil => exact iff_of_false (by simp [pure, Except.pure]) (by simp)
  | cons a as ih =>
    rw [List.foldlM_cons, bind_eq_error]
    constructor
    · rintro (h | ⟨s', hs', h⟩)
      · exact ⟨[], a, as, s, rfl, rfl, h⟩
      · obtain ⟨before, b, after, s'', rfl, hbefore, hb⟩ := ih.1 h
        exact ⟨a :: before, b, after, s'', rfl, bind_eq_ok.2 ⟨s', hs', hbefore⟩, hb⟩
    · rintro ⟨before, b, after, s', has, hbefore, hb⟩
      cases before with
      | nil =>
        obtain ⟨rfl, rfl⟩ := List.cons.inj has
        obtain rfl := Except.ok.inj hbefore
        exact Or.inl hb
      | cons c before =>
        obtain ⟨rfl, rfl⟩ := List.cons.inj has
        obtain ⟨s'', hs'', hbefore⟩ := bind_eq_ok.1 hbefore
        exact Or.inr ⟨s'', hs'', ih.2 ⟨before, b, after, s', rfl, hbefore, hb⟩⟩

/-- A loop gets through one element more by one step more. -/
theorem foldlM_concat_eq_ok {σ : Type} {step : σ → α → Except ε σ} {as : List α} {a : α} {s t : σ} :
    (as ++ [a]).foldlM step s = .ok t ↔ ∃ s', as.foldlM step s = .ok s' ∧ step s' a = .ok t := by
  rw [List.foldlM_append, bind_eq_ok]
  exact exists_congr fun s' => and_congr_right fun _ => by
    rw [List.foldlM_cons, funext (fun _ => List.foldlM_nil), bind_pure]

/-- **A list is gone through when each of its elements is**, with one result for each. -/
theorem mapM_eq_ok {f : α → Except ε β} {as : List α} {bs : List β} :
    as.mapM f = .ok bs ↔ List.Forall₂ (fun a b => f a = .ok b) as bs := by
  induction as generalizing bs with
  | nil =>
    rw [List.mapM_nil, List.forall₂_nil_left_iff]
    exact ⟨fun h => (Except.ok.inj h).symm, fun h => congrArg Except.ok h.symm⟩
  | cons a as ih =>
    rw [List.mapM_cons, bind_eq_ok, List.forall₂_cons_left_iff]
    refine exists_congr fun b => ?_
    rw [bind_eq_ok]
    constructor
    · rintro ⟨hb, rest, hrest, h⟩
      exact ⟨rest, hb, ih.1 hrest, (Except.ok.inj h).symm⟩
    · rintro ⟨rest, hb, hrest, rfl⟩
      exact ⟨hb, rest, ih.2 hrest, rfl⟩

end Except
