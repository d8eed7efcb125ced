import AffinidiMessaging.Library.Redis

/-! # Two runs side by side

Two computations are coupled if from related states they end alike: both succeed, with related answers, or
both fail with the same error, and the states they reach are related again.
-/

namespace AffinidiMessaging.Fallible

universe u
variable {ε σ α β α' β' : Type u}

/-- How a run ends, without the state. -/
def outcome (x : EStateM ε σ α) (s : σ) : Except ε α :=
  match x s with
  | .ok a _ => .ok a
  | .error e _ => .error e

theorem outcome_of_ok {x : EStateM ε σ α} {s s' : σ} {a : α} (h : x s = .ok a s') : outcome x s = .ok a := by
  rw [outcome, h]

inductive Ends (R : σ → σ → Prop) (Q : α → β → Prop) : EStateM.Result ε σ α → EStateM.Result ε σ β → Prop
  | ok {a : α} {b : β} {s t : σ} (hQ : Q a b) (hR : R s t) : Ends R Q (.ok a s) (.ok b t)
  | error {e : ε} {s t : σ} (hR : R s t) : Ends R Q (.error e s) (.error e t)

theorem Ends.weaken {R R' : σ → σ → Prop} {Q Q' : α → β → Prop} {r : EStateM.Result ε σ α}
    {r' : EStateM.Result ε σ β} (h : Ends R Q r r') (hR : ∀ s t, R s t → R' s t)
    (hQ : ∀ a b, Q a b → Q' a b) : Ends R' Q' r r' := by
  cases h with
  | ok h hState => exact .ok (hQ _ _ h) (hR _ _ hState)
  | error hState => exact .error (hR _ _ hState)

theorem Ends.ran {R : σ → σ → Prop} {Q : α → β → Prop} {r : EStateM.Result ε σ α} {r' : EStateM.Result ε σ β}
    (h : Ends R Q r r') : Ends R (fun a b => Q a b ∧ ∃ s, r = .ok a s) r r' := by
  cases h with
  | ok hQ hR => exact .ok ⟨hQ, _, rfl⟩ hR
  | error hR => exact .error hR

theorem Ends.bind {R : σ → σ → Prop} {Q : α → β → Prop} {Q' : α' → β' → Prop} {x : EStateM ε σ α}
    {y : EStateM ε σ β} {f : α → EStateM ε σ α'} {g : β → EStateM ε σ β'} {s t : σ}
    (h : Ends R Q (x s) (y t)) (hfg : ∀ a b s t, Q a b → R s t → Ends R Q' (f a s) (g b t)) :
    Ends R Q' ((x >>= f) s) ((y >>= g) t) := by
  change Ends R Q' (EStateM.bind x f s) (EStateM.bind y g t)
  unfold EStateM.bind
  generalize x s = r, y t = r' at h
  cases h with
  | ok hQ hR => exact hfg _ _ _ _ hQ hR
  | error hR => exact .error hR

theorem Ends.outcome_eq {R : σ → σ → Prop} {x y : EStateM ε σ α} {s t : σ} (h : Ends R Eq (x s) (y t)) :
    outcome x s = outcome y t := by
  unfold outcome
  generalize x s = r, y t = r' at h
  cases h with
  | ok hQ hR => rw [hQ]
  | error hR => rfl

def Coupled (R : σ → σ → Prop) (Q : α → β → Prop) (x : EStateM ε σ α) (y : EStateM ε σ β) : Prop :=
  ∀ s t, R s t → Ends R Q (x s) (y t)

namespace Coupled

variable {R : σ → σ → Prop} {Q : α → β → Prop} {Q' : α' → β' → Prop}

theorem pure {a : α} {b : β} (h : Q a b) :
    Coupled R Q (Pure.pure a : EStateM ε σ α) (Pure.pure b : EStateM ε σ β) :=
  fun _ _ hR => .ok h hR

theorem throw (e : ε) : Coupled R Q (MonadExcept.throw e : EStateM ε σ α) (MonadExcept.throw e : EStateM ε σ β) :=
  fun _ _ hR => .error hR

theorem bind {x : EStateM ε σ α} {y : EStateM ε σ β} {f : α → EStateM ε σ α'} {g : β → EStateM ε σ β'}
    (hxy : Coupled R Q x y) (hfg : ∀ a b, Q a b → Coupled R Q' (f a) (g b)) :
    Coupled R Q' (x >>= f) (y >>= g) := fun s t hR =>
  (hxy s t hR).bind fun a b s' t' hQ hR' => hfg a b hQ s' t' hR'

theorem attempt {x y : EStateM ε σ α} (hxy : Coupled R Eq x y) :
    Coupled R Eq (Fallible.attempt x) (Fallible.attempt y) := by
  intro s t hR
  have hEnds := hxy s t hR
  unfold Fallible.attempt
  generalize x s = r, y t = r' at hEnds
  cases hEnds with
  | ok hQ hR' => exact .ok (by rw [hQ]) hR'
  | error hR' => exact .ok rfl hR'

theorem foldlM {f g : β → α → EStateM ε σ β} (h : ∀ b a, Coupled R Eq (f b a) (g b a)) (items : List α)
    (b : β) : Coupled R Eq (items.foldlM f b) (items.foldlM g b) := by
  induction items generalizing b with
  | nil => exact .pure rfl
  | cons a rest ih =>
    rw [List.foldlM_cons, List.foldlM_cons]
    refine (h b a).bind ?_
    rintro c _ rfl
    exact ih c

end Coupled

end AffinidiMessaging.Fallible

namespace AffinidiMessaging.Redis

open Fallible

variable {K α β : Type}

/-- Where a command succeeds twice, what it makes of a key depends on what it finds there. -/
def Tracks (k : K) (c : Command K α) : Prop :=
  ∀ db₁ db₂ : Keyspace K, db₁ k = db₂ k → ∀ a₁ a₂ db₁' db₂', c db₁ = .ok a₁ db₁' → c db₂ = .ok a₂ db₂' →
    a₁ = a₂ ∧ db₁' k = db₂' k

namespace Tracks

variable {k : K}

theorem pure (a : α) : Tracks k (Pure.pure a : Command K α) := by
  intro db₁ db₂ hk a₁ a₂ db₁' db₂' h₁ h₂
  cases h₁
  cases h₂
  exact ⟨rfl, hk⟩

theorem lift (x : Except RedisError α) : Tracks k (liftM x : Command K α) := by
  intro db₁ db₂ hk a₁ a₂ db₁' db₂' h₁ h₂
  obtain ⟨ha₁, rfl⟩ := (lift_ok_iff _ _ _ _).mp h₁
  obtain ⟨ha₂, rfl⟩ := (lift_ok_iff _ _ _ _).mp h₂
  rw [ha₁] at ha₂
  cases ha₂
  exact ⟨rfl, hk⟩

theorem bind {c : Command K α} {f : α → Command K β} (hc : Tracks k c) (hf : ∀ a, Tracks k (f a)) :
    Tracks k (c >>= f) := by
  intro db₁ db₂ hk b₁ b₂ db₁'' db₂'' h₁ h₂
  obtain ⟨a₁, db₁', hc₁, hf₁⟩ := (bind_ok_iff _ _ _ _ _).mp h₁
  obtain ⟨a₂, db₂', hc₂, hf₂⟩ := (bind_ok_iff _ _ _ _ _).mp h₂
  obtain ⟨rfl, hk'⟩ := hc db₁ db₂ hk a₁ a₂ db₁' db₂' hc₁ hc₂
  exact hf a₁ db₁' db₂' hk' b₁ b₂ db₁'' db₂'' hf₁ hf₂

theorem of_untouched {c : Command K Unit} (hc : Untouched k c) : Tracks k c := by
  intro db₁ db₂ hk a₁ a₂ db₁' db₂' h₁ h₂
  exact ⟨rfl, by rw [hc.of_ok h₁, hc.of_ok h₂, hk]⟩

variable [DecidableEq K]

theorem hincrby (k' : K) (f increment : String) : Tracks k (Redis.hincrby k' f increment) := by
  by_cases hk' : k = k'
  · subst hk'
    intro db₁ db₂ hk a₁ a₂ db₁' db₂' h₁ h₂
    obtain ⟨v₁, hv₁, rfl⟩ := (atKey_ok_iff _ _ _ _ _).mp h₁
    obtain ⟨v₂, hv₂, rfl⟩ := (atKey_ok_iff _ _ _ _ _).mp h₂
    rw [hk, hv₂] at hv₁
    cases hv₁
    exact ⟨rfl, by simp⟩
  · exact .of_untouched (.hincrby hk' _ _)

theorem del (k' : K) : Tracks k (Redis.del k') := by
  intro db₁ db₂ hk a₁ a₂ db₁' db₂' h₁ h₂
  cases h₁
  cases h₂
  refine ⟨rfl, ?_⟩
  by_cases hk' : k = k'
  · simp [hk']
  · simp [hk', hk]

theorem xdel (k' : K) (id : String) : Tracks k (Redis.xdel k' id) := by
  by_cases hk' : k = k'
  · subst hk'
    intro db₁ db₂ hk a₁ a₂ db₁' db₂' h₁ h₂
    unfold Redis.xdel at h₁ h₂
    rw [hk] at h₁
    cases hv : db₂ k with
    | none =>
      rw [hv] at h₁ h₂
      cases h₁
      cases h₂
      exact ⟨rfl, hk⟩
    | some v =>
      rw [hv] at h₁ h₂
      cases v with
      | stream s =>
        cases hId : StreamId.parse id with
        | none => simp [hId] at h₁
        | some id' =>
          simp only [hId] at h₁ h₂
          cases h₁
          cases h₂
          exact ⟨rfl, by simp⟩
      | _ => cases h₁
  · exact .of_untouched (.xdel hk' _)

end Tracks

end AffinidiMessaging.Redis
