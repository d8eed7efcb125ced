import AffinidiMessaging.Library.Fallible

/-! # Computations with a limit

A run that a limit may cut off either ends as the run without it, or gives up with the error of the limit. Where
that holds of any two limits, there is one threshold, and one end from it on.
-/

namespace AffinidiMessaging.Fallible

universe u
variable {ε σ α β : Type u}

/-- `x` ends as `y` does, unless it gives up with the error. -/
def UpTo (e : ε) (x y : EStateM ε σ α) : Prop := ∀ s, x s = y s ∨ ∃ s', x s = .error e s'

namespace UpTo

variable {e : ε}

theorem refl (x : EStateM ε σ α) : UpTo e x x := fun _ => .inl rfl

theorem throw (y : EStateM ε σ α) : UpTo e (MonadExcept.throw e : EStateM ε σ α) y := fun s => .inr ⟨s, rfl⟩

theorem bind {x y : EStateM ε σ α} {f g : α → EStateM ε σ β} (h : UpTo e x y)
    (hfg : ∀ a s s', x s = .ok a s' → UpTo e (f a) (g a)) : UpTo e (x >>= f) (y >>= g) := by
  intro s
  rcases h s with hSame | ⟨s', hCut⟩
  · cases hRun : x s with
    | ok a s' =>
      rw [bind_of_ok hRun, bind_of_ok (hSame ▸ hRun)]
      exact hfg a s s' hRun s'
    | error e' s' => exact .inl (by rw [bind_of_error hRun, bind_of_error (hSame ▸ hRun)])
  · exact .inr ⟨s', bind_of_error hCut⟩

theorem map (f : α → β) {x y : EStateM ε σ α} (h : UpTo e x y) : UpTo e (f <$> x) (f <$> y) := by
  rw [map_eq_pure_bind, map_eq_pure_bind]
  exact h.bind fun a _ _ _ => .refl (Pure.pure (f a))

end UpTo

/-- A limit is a threshold: below it every run is cut off, from it on all runs end alike. -/
theorem exists_threshold {x : Nat → EStateM ε σ α} {e : Nat → ε}
    (h : ∀ limit limit', limit ≤ limit' → UpTo (e limit) (x limit) (x limit')) (s : σ) :
    ∃ (n : ℕ∞) (r : EStateM.Result ε σ α), (∀ limit : Nat, n ≤ limit → x limit s = r) ∧
      ∀ limit : Nat, (limit : ℕ∞) < n → ∃ s', x limit s = .error (e limit) s' := by
  classical
  by_cases hEnds : ∃ limit, ¬ ∃ s', x limit s = .error (e limit) s'
  · refine ⟨Nat.find hEnds, x (Nat.find hEnds) s, fun limit hLimit => ?_, fun limit hLimit => ?_⟩
    · rcases h _ _ (ENat.natCast_le_natCast.mp hLimit) s with hSame | hCut
      · exact hSame.symm
      · exact absurd hCut (Nat.find_spec hEnds)
    · exact not_not.mp (Nat.find_min hEnds (ENat.natCast_lt_natCast.mp hLimit))
  · refine ⟨⊤, x 0 s, fun limit hLimit => absurd hLimit (not_le.mpr (ENat.natCast_lt_top limit)), fun limit _ => ?_⟩
    exact not_not.mp fun hNot => hEnds ⟨limit, hNot⟩

end AffinidiMessaging.Fallible
