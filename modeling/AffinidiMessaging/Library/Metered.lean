import AffinidiMessaging.Library.Fallible

/-! # Counting the steps of a computation

Beside the state of a computation runs a counter, which goes up where the computation says `tick`. Without the counter
it is the computation it was written from; how far the counter goes is a triple like any other.
-/

namespace AffinidiMessaging.Fallible

variable {ε σ α β : Type}

abbrev Metered (ε σ : Type) := EStateM ε (σ × Nat)

def tick : Metered ε σ Unit := modify fun s => (s.1, s.2 + 1)

/-- A result with a counter beside its state. -/
def counted (n : Nat) : EStateM.Result ε σ α → EStateM.Result ε (σ × Nat) α
  | .ok a s => .ok a (s, n)
  | .error e s => .error e (s, n)

/-- A computation in which nothing counts. -/
def unmetered (x : EStateM ε σ α) : Metered ε σ α := fun s => counted s.2 (x s.1)

theorem counted_ok_iff {n : Nat} {r : EStateM.Result ε σ α} {a : α} {t : σ × Nat} :
    counted n r = .ok a t ↔ r = .ok a t.1 ∧ t.2 = n := by
  obtain ⟨s, k⟩ := t
  cases r with
  | ok b s' => simp only [counted, EStateM.Result.ok.injEq, Prod.mk.injEq, and_assoc, eq_comm (a := k)]
  | error e s' => simp [counted]

theorem counted_error_iff {n : Nat} {r : EStateM.Result ε σ α} {e : ε} {t : σ × Nat} :
    counted n r = .error e t ↔ r = .error e t.1 ∧ t.2 = n := by
  obtain ⟨s, k⟩ := t
  cases r with
  | ok b s' => simp [counted]
  | error e' s' => simp only [counted, EStateM.Result.error.injEq, Prod.mk.injEq, and_assoc, eq_comm (a := k)]

theorem lift_bind (r : Except ε α) (f : α → Except ε β) :
    (liftM (r >>= f) : EStateM ε σ β) = liftM r >>= fun a => liftM (f a) := by
  cases r <;> rfl

theorem lift_ensure (c : Bool) (e : ε) :
    (liftM (ensure c e : Except ε Unit) : EStateM ε σ Unit) = ensure c e := by
  cases c <;> rfl

/-- Without its counter, which never goes down, the one computation is the other. -/
def Meters (m : Metered ε σ α) (x : EStateM ε σ α) : Prop :=
  ∀ s n, ∃ k, n ≤ k ∧ m (s, n) = counted k (x s)

namespace Meters

variable {m : Metered ε σ α} {x : EStateM ε σ α}

theorem unmetered (x : EStateM ε σ α) : Meters (unmetered x) x := fun _ n => ⟨n, Nat.le_refl n, rfl⟩

theorem pure (a : α) : Meters (Pure.pure a : Metered ε σ α) (Pure.pure a) :=
  fun _ n => ⟨n, Nat.le_refl n, rfl⟩

theorem throw (e : ε) : Meters (MonadExcept.throw e : Metered ε σ α) (MonadExcept.throw e) :=
  fun _ n => ⟨n, Nat.le_refl n, rfl⟩

theorem lift (r : Except ε α) : Meters (liftM r : Metered ε σ α) (liftM r) := by
  intro s n
  cases r with
  | ok a => exact ⟨n, Nat.le_refl n, rfl⟩
  | error e => exact ⟨n, Nat.le_refl n, rfl⟩

theorem ensure (c : Bool) (e : ε) : Meters (Fallible.ensure c e : Metered ε σ Unit) (Fallible.ensure c e) := by
  cases c with
  | true => exact pure ()
  | false => exact throw e

theorem bind {f : α → Metered ε σ β} {g : α → EStateM ε σ β} (h : Meters m x) (hRest : ∀ a, Meters (f a) (g a)) :
    Meters (m >>= f) (x >>= g) := by
  intro s n
  obtain ⟨k, hLe, hRun⟩ := h s n
  cases hx : x s with
  | ok a s' =>
    rw [hx] at hRun
    obtain ⟨k', hMore, hNext⟩ := hRest a s' k
    exact ⟨k', hLe.trans hMore, by rw [bind_of_ok hx, bind_of_ok hRun, hNext]⟩
  | error e s' =>
    rw [hx] at hRun
    exact ⟨k, hLe, by rw [bind_of_error hx, bind_of_error hRun]; rfl⟩

theorem tick_bind {f : Unit → Metered ε σ α} (h : Meters (f ()) x) : Meters (tick >>= f) x := by
  intro s n
  obtain ⟨k, hLe, hRun⟩ := h s (n + 1)
  exact ⟨k, Nat.le_of_succ_le hLe, hRun⟩

theorem map {f : α → β} (h : Meters m x) : Meters (f <$> m) (f <$> x) := by
  rw [map_eq_pure_bind, map_eq_pure_bind]
  exact h.bind fun a => pure (f a)

theorem ite {c : Prop} [Decidable c] {m' : Metered ε σ α} {x' : EStateM ε σ α} (h : Meters m x) (h' : Meters m' x') :
    Meters (if c then m else m') (if c then x else x') := by
  split
  · exact h
  · exact h'

theorem run_ok (h : Meters m x) {s s' : σ} {a : α} (hRun : x s = .ok a s') (n : Nat) :
    ∃ k, m (s, n) = .ok a (s', k) := by
  obtain ⟨k, -, hCounted⟩ := h s n
  exact ⟨k, by rw [hCounted, hRun]; rfl⟩

theorem ok_of_run (h : Meters m x) {s : σ} {n : Nat} {a : α} {t : σ × Nat} (hRun : m (s, n) = .ok a t) :
    x s = .ok a t.1 := by
  obtain ⟨k, -, hCounted⟩ := h s n
  exact (counted_ok_iff.mp (hCounted.symm.trans hRun)).1

end Meters

namespace Triple

variable {P : σ × Nat → Prop} {Q : α → σ × Nat → Prop} {E : ε → σ × Nat → Prop} {R : β → σ × Nat → Prop}

theorem tick_bind {f : Unit → Metered ε σ α} (h : Triple (fun s => ∃ n, s.2 = n + 1 ∧ P (s.1, n)) (f ()) Q E) :
    Triple P (tick >>= f) Q E := fun s hs => h (s.1, s.2 + 1) ⟨s.2, rfl, hs⟩

theorem unmetered {x : EStateM ε σ α} (hOk : ∀ s n a s', P (s, n) → x s = .ok a s' → Q a (s', n))
    (hError : ∀ s n e s', P (s, n) → x s = .error e s' → E e (s', n)) : Triple P (unmetered x) Q E := by
  intro s hs
  constructor
  · rintro a ⟨s', k⟩ hRun
    obtain ⟨hx, rfl⟩ := counted_ok_iff.mp hRun
    exact hOk s.1 s.2 a s' hs hx
  · rintro e ⟨s', k⟩ hRun
    obtain ⟨hx, rfl⟩ := counted_error_iff.mp hRun
    exact hError s.1 s.2 e s' hs hx

end Triple

/-- However it ends, the counter has gone up by `k` at most. -/
def AtMost (k : Nat) (m : Metered ε σ α) : Prop :=
  ∀ n, Triple (fun s => s.2 ≤ n) m (fun _ s => s.2 ≤ n + k) (fun _ s => s.2 ≤ n + k)

namespace AtMost

variable {k k' : Nat} {m m' : Metered ε σ α}

theorem mono (h : AtMost k m) (hLe : k ≤ k') : AtMost k' m := fun n =>
  (h n).weaken (fun _ => id) (fun _ _ hs => Nat.le_trans hs (Nat.add_le_add_left hLe n))
    fun _ _ hs => Nat.le_trans hs (Nat.add_le_add_left hLe n)

theorem of_zero (h : AtMost 0 m) : AtMost k m := h.mono (Nat.zero_le k)

theorem unmetered (x : EStateM ε σ α) : AtMost k (unmetered x) :=
  of_zero fun _ => .unmetered (fun _ _ _ _ h _ => h) fun _ _ _ _ h _ => h

theorem pure (a : α) : AtMost k (Pure.pure a : Metered ε σ α) := of_zero fun _ => .pure fun _ => id

theorem throw (e : ε) : AtMost k (MonadExcept.throw e : Metered ε σ α) := of_zero fun _ => .throw fun _ => id

theorem lift (r : Except ε α) : AtMost k (liftM r : Metered ε σ α) :=
  of_zero fun _ => .lift (fun _ _ h _ => h) fun _ _ h _ => h

theorem ensure (c : Bool) (e : ε) : AtMost k (Fallible.ensure c e : Metered ε σ Unit) := by
  cases c with
  | true => exact pure ()
  | false => exact throw e

theorem bind {f : α → Metered ε σ β} (h : AtMost k m) (hRest : ∀ a, AtMost k' (f a)) : AtMost (k + k') (m >>= f) := by
  intro n
  refine Triple.bind ((h n).weaken (fun _ => id) (fun _ _ => id) fun _ s hs => ?_) fun a => ?_
  · omega
  · rw [← Nat.add_assoc]
    exact hRest a (n + k)

theorem bind_zero {f : α → Metered ε σ β} (h : AtMost 0 m) (hRest : ∀ a, AtMost k (f a)) : AtMost k (m >>= f) :=
  (h.bind hRest).mono (Nat.le_of_eq (Nat.zero_add k))

theorem bind_last {f : α → Metered ε σ β} (h : AtMost k m) (hRest : ∀ a, AtMost 0 (f a)) : AtMost k (m >>= f) :=
  h.bind hRest

theorem tick_bind {f : Unit → Metered ε σ α} (h : AtMost k (f ())) : AtMost (k + 1) (tick >>= f) := by
  intro n
  refine Triple.tick_bind ((h (n + 1)).weaken ?_ ?_ ?_)
  · rintro s ⟨l, hl, hn⟩
    omega
  · intro a s hs
    omega
  · intro e s hs
    omega

theorem map {f : α → β} (h : AtMost k m) : AtMost k (f <$> m) := by
  rw [map_eq_pure_bind]
  exact h.bind_last fun a => pure (f a)

theorem ite {c : Prop} [Decidable c] (h : AtMost k m) (h' : AtMost k m') : AtMost k (if c then m else m') := by
  split
  · exact h
  · exact h'

theorem stateAfter_le (h : AtMost k m) (s : σ) : (stateAfter m (s, 0)).2 ≤ k := by
  have hBoth := h 0 (s, 0) (Nat.le_refl 0)
  unfold stateAfter
  cases hRun : m (s, 0) with
  | ok a t => exact Nat.zero_add k ▸ hBoth.1 a t hRun
  | error e t => exact Nat.zero_add k ▸ hBoth.2 e t hRun

end AtMost

/-- What a computation adds to the size of its state is what it counts, but for the difference `d` that its result
tells. -/
def Spends (size : σ → Nat) (d : α → Int) (m : Metered ε σ α) : Prop :=
  ∀ s n a t, m (s, n) = .ok a t → (size t.1 : Int) - t.2 = size s - n + d a

namespace Spends

variable {size : σ → Nat} {d : α → Int} {m m' : Metered ε σ α}

theorem unmetered {x : EStateM ε σ α} (h : ∀ s a s', x s = .ok a s' → (size s' : Int) = size s + d a) :
    Spends size d (unmetered x) := by
  rintro s n a ⟨s', k⟩ hRun
  obtain ⟨hx, rfl⟩ := counted_ok_iff.mp hRun
  have hSize := h s a s' hx
  simp only
  omega

theorem pure {a : α} (h : d a = 0) : Spends size d (Pure.pure a : Metered ε σ α) := by
  intro s n a' t hRun
  cases hRun
  simp only
  omega

theorem throw (e : ε) : Spends size d (MonadExcept.throw e : Metered ε σ α) := by
  intro s n a t hRun
  cases hRun

theorem lift {r : Except ε α} (h : ∀ a, r = .ok a → d a = 0) : Spends size d (liftM r : Metered ε σ α) := by
  cases r with
  | ok a => exact pure (h a rfl)
  | error e => exact throw e

theorem bind {f : α → Metered ε σ β} {d' : β → Int} (h : Spends size d m)
    (hRest : ∀ a, Spends size (fun b => d' b - d a) (f a)) : Spends size d' (m >>= f) := by
  intro s n b t hRun
  obtain ⟨a, ⟨s', k⟩, hFirst, hNext⟩ := (bind_ok_iff m f (s, n) t b).mp hRun
  have hBefore := h s n a (s', k) hFirst
  have hAfter := hRest a s' k b t hNext
  simp only at hBefore hAfter
  omega

theorem congr {d' : α → Int} (h : Spends size d m) (hEq : ∀ a, d a = d' a) : Spends size d' m := by
  obtain rfl : d = d' := funext hEq
  exact h

theorem bind_zero {f : α → Metered ε σ β} {d' : β → Int} (h : Spends size (fun _ => 0) m)
    (hRest : ∀ a, Spends size d' (f a)) : Spends size d' (m >>= f) :=
  h.bind fun a => (hRest a).congr fun _ => by omega

theorem lift_bind {r : Except ε β} {f : β → Metered ε σ α} (h : ∀ b, Spends size d (f b)) :
    Spends size d (liftM r >>= f) :=
  bind_zero (lift fun _ _ => rfl) h

theorem ensure_bind {c : Bool} {e : ε} {f : Unit → Metered ε σ α} (h : Spends size d (f ())) :
    Spends size d (Fallible.ensure c e >>= f) := by
  rw [← lift_ensure]
  exact lift_bind fun _ => h

theorem tick_bind {f : Unit → Metered ε σ α} (h : Spends size (fun a => d a + 1) (f ())) :
    Spends size d (tick >>= f) := by
  intro s n a t hRun
  have hSize : (size t.1 : Int) - t.2 = size s - (n + 1 : Nat) + (d a + 1) := h s (n + 1) a t hRun
  omega

theorem map {f : α → β} {d' : β → Int} (h : Spends size d m) (hEq : ∀ a, d a = d' (f a)) :
    Spends size d' (f <$> m) := by
  rw [map_eq_pure_bind]
  refine h.bind fun a => pure ?_
  have hSame := hEq a
  omega

theorem ite {c : Prop} [Decidable c] (h : Spends size d m) (h' : Spends size d m') :
    Spends size d (if c then m else m') := by
  split
  · exact h
  · exact h'

/-- Where all that counts adds to the state, the state tells how far the counter goes. -/
theorem run_ok_iff (hm : Spends size (fun _ => 0) m) {x : EStateM ε σ α} (h : Meters m x) (s : σ) (n : Nat) (a : α)
    (t : σ × Nat) : m (s, n) = .ok a t ↔ x s = .ok a t.1 ∧ t.2 + size s = n + size t.1 := by
  constructor
  · intro hRun
    have hSize : (size t.1 : Int) - t.2 = size s - n + 0 := hm s n a t hRun
    exact ⟨h.ok_of_run hRun, by omega⟩
  · obtain ⟨s', k⟩ := t
    rintro ⟨hRun, hCount⟩
    obtain ⟨k', hCounted⟩ := h.run_ok hRun n
    have hSize : (size s' : Int) - k' = size s - n + 0 := hm s n a _ hCounted
    obtain rfl : k' = k := by
      simp only at hCount
      omega
    exact hCounted

end Spends

/-- The counter never goes down. -/
def Grows (m : Metered ε σ α) : Prop := ∀ s, s.2 ≤ (stateAfter m s).2

/-- A computation in which nothing is counted. -/
def Idle (m : Metered ε σ α) : Prop := ∀ s, (stateAfter m s).2 = s.2

/-- However it ends, the counter has gone over the limit. -/
def Exceeds (limit : Nat) (m : Metered ε σ α) (s : σ × Nat) : Prop := limit < (stateAfter m s).2

theorem stateAfter_bind_of_ok {x : EStateM ε σ α} {f : α → EStateM ε σ β} {s s' : σ} {a : α} (h : x s = .ok a s') :
    stateAfter (x >>= f) s = stateAfter (f a) s' := by
  rw [stateAfter, stateAfter, bind_of_ok h]

theorem stateAfter_bind_of_error {x : EStateM ε σ α} {f : α → EStateM ε σ β} {s s' : σ} {e : ε}
    (h : x s = .error e s') : stateAfter (x >>= f) s = s' :=
  stateAfter_of_error (bind_of_error h)

theorem Grows.bind {m : Metered ε σ α} {f : α → Metered ε σ β} (h : Grows m) (hRest : ∀ a, Grows (f a)) :
    Grows (m >>= f) := by
  intro s
  have hFirst := h s
  cases hRun : m s with
  | ok a t =>
    rw [stateAfter_of_ok hRun] at hFirst
    rw [stateAfter_bind_of_ok hRun]
    exact hFirst.trans (hRest a t)
  | error e t =>
    rw [stateAfter_of_error hRun] at hFirst
    rw [stateAfter_bind_of_error hRun]
    exact hFirst

theorem Meters.grows {m : Metered ε σ α} {x : EStateM ε σ α} (h : Meters m x) : Grows m := by
  intro s
  obtain ⟨k, hLe, hRun⟩ := h s.1 s.2
  cases hx : x s.1 with
  | ok a s' =>
    rw [hx] at hRun
    exact (stateAfter_of_ok hRun).symm ▸ hLe
  | error e s' =>
    rw [hx] at hRun
    exact (stateAfter_of_error hRun).symm ▸ hLe

namespace Idle

variable {m : Metered ε σ α}

theorem grows (h : Idle m) : Grows m := fun s => Nat.le_of_eq (h s).symm

theorem pure (a : α) : Idle (Pure.pure a : Metered ε σ α) := fun _ => rfl

theorem throw (e : ε) : Idle (MonadExcept.throw e : Metered ε σ α) := fun _ => rfl

theorem lift (r : Except ε α) : Idle (liftM r : Metered ε σ α) := by
  cases r with
  | ok a => exact pure a
  | error e => exact throw e

theorem ensure (c : Bool) (e : ε) : Idle (Fallible.ensure c e : Metered ε σ Unit) := by
  cases c with
  | true => exact pure ()
  | false => exact throw e

theorem unmetered (x : EStateM ε σ α) : Idle (unmetered x) := by
  intro s
  cases hx : x s.1 with
  | ok a s' =>
    have hRun : Fallible.unmetered x s = .ok a (s', s.2) := counted_ok_iff.mpr ⟨hx, rfl⟩
    rw [stateAfter_of_ok hRun]
  | error e s' =>
    have hRun : Fallible.unmetered x s = .error e (s', s.2) := counted_error_iff.mpr ⟨hx, rfl⟩
    rw [stateAfter_of_error hRun]

theorem bind {f : α → Metered ε σ β} (h : Idle m) (hRest : ∀ a, Idle (f a)) : Idle (m >>= f) := by
  intro s
  cases hRun : m s with
  | ok a t => rw [stateAfter_bind_of_ok hRun, hRest a t, ← h s, stateAfter_of_ok hRun]
  | error e t => rw [stateAfter_bind_of_error hRun, ← h s, stateAfter_of_error hRun]

end Idle

section Exceeds

variable {limit : Nat} {m : Metered ε σ α} {f : α → Metered ε σ β} {s : σ × Nat}

theorem exceeds_idle_iff (h : Idle m) : Exceeds limit m s ↔ limit < s.2 := by
  rw [Exceeds, h s]

theorem exceeds_of_ok {a : α} {s' : σ × Nat} (hRun : m s = .ok a s') (hOver : limit < s'.2) : Exceeds limit m s := by
  rw [Exceeds, stateAfter_of_ok hRun]
  exact hOver

theorem exceeds_bind_iff (hRest : ∀ a, Grows (f a)) :
    Exceeds limit (m >>= f) s ↔
      Exceeds limit m s ∨ ∃ a s', m s = .ok a s' ∧ s'.2 ≤ limit ∧ Exceeds limit (f a) s' := by
  cases hRun : m s with
  | error e t => simp only [Exceeds, stateAfter_bind_of_error hRun, stateAfter_of_error hRun, reduceCtorEq, false_and,
      exists_false, or_false]
  | ok a t =>
    simp only [Exceeds, stateAfter_bind_of_ok hRun, stateAfter_of_ok hRun, EStateM.Result.ok.injEq]
    constructor
    · intro hOver
      rcases Nat.lt_or_ge limit t.2 with hBefore | hWithin
      · exact .inl hBefore
      · exact .inr ⟨a, t, ⟨rfl, rfl⟩, hWithin, hOver⟩
    · rintro (hBefore | ⟨_, _, ⟨rfl, rfl⟩, -, hOver⟩)
      · exact hBefore.trans_le (hRest a t)
      · exact hOver

theorem exceeds_bind_of_ok (hRest : ∀ a, Grows (f a)) {a : α} {s' : σ × Nat} (hRun : m s = .ok a s')
    (h : s'.2 ≤ limit → Exceeds limit (f a) s') : Exceeds limit (m >>= f) s := by
  rw [exceeds_bind_iff hRest]
  rcases Nat.lt_or_ge limit s'.2 with hBefore | hWithin
  · exact .inl (exceeds_of_ok hRun hBefore)
  · exact .inr ⟨a, s', hRun, hWithin, h hWithin⟩

theorem exceeds_bind_idle_iff (hRest : ∀ a, Idle (f a)) : Exceeds limit (m >>= f) s ↔ Exceeds limit m s := by
  cases hRun : m s with
  | error e t => rw [Exceeds, Exceeds, stateAfter_bind_of_error hRun, stateAfter_of_error hRun]
  | ok a t => rw [Exceeds, Exceeds, stateAfter_bind_of_ok hRun, stateAfter_of_ok hRun, hRest a t]

theorem exceeds_map_iff {g : α → β} : Exceeds limit (g <$> m) s ↔ Exceeds limit m s := by
  rw [map_eq_pure_bind]
  exact exceeds_bind_idle_iff fun a => .pure (g a)

theorem exceeds_tick_bind_iff {f : Unit → Metered ε σ α} :
    Exceeds limit (tick >>= f) s ↔ Exceeds limit (f ()) (s.1, s.2 + 1) := Iff.rfl

/-! The steps that do not count, while the counter is within the limit -/

variable (hs : s.2 ≤ limit)
include hs

theorem exceeds_unmetered_bind_iff {x : EStateM ε σ α} :
    Exceeds limit (unmetered x >>= f) s ↔ ∃ a s', x s.1 = .ok a s' ∧ Exceeds limit (f a) (s', s.2) := by
  cases hx : x s.1 with
  | ok a s' =>
    have hRun : unmetered x s = .ok a (s', s.2) := counted_ok_iff.mpr ⟨hx, rfl⟩
    rw [Exceeds, stateAfter_bind_of_ok hRun]
    constructor
    · exact fun hOver => ⟨a, s', rfl, hOver⟩
    · rintro ⟨_, _, ⟨⟩, hOver⟩
      exact hOver
  | error e s' =>
    have hRun : unmetered x s = .error e (s', s.2) := counted_error_iff.mpr ⟨hx, rfl⟩
    simp only [Exceeds, stateAfter_bind_of_error hRun, reduceCtorEq, false_and, exists_false, iff_false, Nat.not_lt]
    exact hs

theorem exceeds_lift_bind_iff {r : Except ε α} :
    Exceeds limit ((liftM r : Metered ε σ α) >>= f) s ↔ ∃ a, r = .ok a ∧ Exceeds limit (f a) s := by
  cases r with
  | ok a => simp only [Except.ok.injEq, exists_eq_left']; rfl
  | error e =>
    simp only [reduceCtorEq, false_and, exists_false, iff_false]
    exact Nat.not_lt.mpr hs

theorem exceeds_ensure_bind_iff {c : Bool} {e : ε} {f : Unit → Metered ε σ β} :
    Exceeds limit (ensure c e >>= f) s ↔ c = true ∧ Exceeds limit (f ()) s := by
  rw [← lift_ensure, exceeds_lift_bind_iff hs]
  constructor
  · rintro ⟨⟨⟩, hOk, hOver⟩
    exact ⟨(ensure_ok_iff _ _ _).mp hOk, hOver⟩
  · rintro ⟨hOk, hOver⟩
    exact ⟨(), (ensure_ok_iff _ _ _).mpr hOk, hOver⟩

end Exceeds

end AffinidiMessaging.Fallible
