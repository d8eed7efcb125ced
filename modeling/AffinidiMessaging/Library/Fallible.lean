import Mathlib

/-! # Stateful computations that can fail

A failing step of `EStateM` keeps the state it reached, which is what a script
without rollback and a function with a `&mut` argument both do. The rules below
take a successful or failed run of a sequence apart into its parts.
-/

namespace AffinidiMessaging.Fallible

universe u
variable {ε σ α β : Type u}

instance instMonadLiftExceptEStateM : MonadLift (Except ε) (EStateM ε σ) where
  monadLift
    | .ok a => pure a
    | .error e => throw e

/-- Stop with `e` unless the condition holds. -/
def ensure {m : Type → Type u} [Monad m] {ε : Type u} [MonadExceptOf ε m]
    (condition : Bool) (e : ε) : m Unit :=
  if condition then pure () else throwThe ε e

def okOr {α : Type u} (o : Option α) (e : ε) : Except ε α :=
  match o with
  | some a => .ok a
  | none => .error e

/-- The state a run leaves behind, however it ends. -/
def stateAfter (x : EStateM ε σ α) (s : σ) : σ :=
  match x s with
  | .ok _ s' => s'
  | .error _ s' => s'

theorem stateAfter_of_ok {x : EStateM ε σ α} {s s' : σ} {a : α} (h : x s = .ok a s') :
    stateAfter x s = s' := by
  rw [stateAfter, h]

theorem stateAfter_of_error {x : EStateM ε σ α} {s s' : σ} {e : ε} (h : x s = .error e s') :
    stateAfter x s = s' := by
  rw [stateAfter, h]

/-- The outcome of a computation, whose state change stays in either case. -/
def attempt (x : EStateM ε σ α) : EStateM ε σ (Except ε α) := fun s =>
  match x s with
  | .ok a s' => .ok (.ok a) s'
  | .error e s' => .ok (.error e) s'

theorem attempt_ok (x : EStateM ε σ α) (s : σ) : ∃ outcome s', attempt x s = .ok outcome s' := by
  unfold attempt
  cases x s with
  | ok a s' => exact ⟨.ok a, s', rfl⟩
  | error e s' => exact ⟨.error e, s', rfl⟩

@[simp] theorem okOr_ok_iff (o : Option α) (e : ε) (a : α) : okOr o e = .ok a ↔ o = some a := by
  cases o <;> simp [okOr]

@[simp] theorem okOr_error_iff (o : Option α) (e e' : ε) :
    okOr o e = .error e' ↔ o = none ∧ e = e' := by
  cases o <;> simp [okOr]

theorem except_bind_ok_iff (x : Except ε α) (f : α → Except ε β) (b : β) :
    (x >>= f) = .ok b ↔ ∃ a, x = .ok a ∧ f a = .ok b := by
  cases x <;> simp [bind, Except.bind]

theorem except_bind_error_iff (x : Except ε α) (f : α → Except ε β) (e : ε) :
    (x >>= f) = .error e ↔ x = .error e ∨ ∃ a, x = .ok a ∧ f a = .error e := by
  cases x <;> simp [bind, Except.bind]

theorem except_pure_eq (a : α) : (pure a : Except ε α) = .ok a := rfl

theorem except_map_eq (f : α → β) (x : Except ε α) : f <$> x = x >>= fun a => pure (f a) := by
  cases x <;> rfl

theorem bind_ok_iff (x : EStateM ε σ α) (f : α → EStateM ε σ β) (s s'' : σ) (b : β) :
    (x >>= f) s = .ok b s'' ↔ ∃ a s', x s = .ok a s' ∧ f a s' = .ok b s'' := by
  change EStateM.bind x f s = _ ↔ _
  unfold EStateM.bind
  cases h : x s with
  | ok a s' =>
    constructor
    · intro hf
      exact ⟨a, s', rfl, hf⟩
    · rintro ⟨_, _, hx, hf⟩
      cases hx
      exact hf
  | error e s' => simp

theorem bind_error_iff (x : EStateM ε σ α) (f : α → EStateM ε σ β) (s s'' : σ) (e : ε) :
    (x >>= f) s = .error e s'' ↔
      x s = .error e s'' ∨ ∃ a s', x s = .ok a s' ∧ f a s' = .error e s'' := by
  change EStateM.bind x f s = _ ↔ _
  unfold EStateM.bind
  cases h : x s with
  | ok a s' =>
    constructor
    · intro hf
      exact .inr ⟨a, s', rfl, hf⟩
    · rintro (hx | ⟨_, _, hx, hf⟩)
      · cases hx
      · cases hx
        exact hf
  | error e' s' => simp

theorem bind_of_ok {x : EStateM ε σ α} {f : α → EStateM ε σ β} {s s' : σ} {a : α}
    (h : x s = .ok a s') : (x >>= f) s = f a s' := by
  change EStateM.bind x f s = _
  unfold EStateM.bind
  rw [h]

theorem bind_of_error {x : EStateM ε σ α} {f : α → EStateM ε σ β} {s s' : σ} {e : ε}
    (h : x s = .error e s') : (x >>= f) s = .error e s' := by
  change EStateM.bind x f s = _
  unfold EStateM.bind
  rw [h]

@[simp] theorem pure_run (a : α) (s : σ) : (pure a : EStateM ε σ α) s = .ok a s := rfl

@[simp] theorem throw_run (e : ε) (s : σ) : (throw e : EStateM ε σ α) s = .error e s := rfl

@[simp] theorem get_run (s : σ) : (get : EStateM ε σ σ) s = .ok s s := rfl

@[simp] theorem set_run (t s : σ) : (set t : EStateM ε σ PUnit) s = .ok ⟨⟩ t := rfl

@[simp] theorem modify_run (f : σ → σ) (s : σ) :
    (modify f : EStateM ε σ PUnit) s = .ok ⟨⟩ (f s) := rfl

@[simp] theorem lift_ok_run (a : α) (s : σ) :
    (liftM (Except.ok a : Except ε α) : EStateM ε σ α) s = .ok a s := rfl

@[simp] theorem lift_error_run (e : ε) (s : σ) :
    (liftM (Except.error e : Except ε α) : EStateM ε σ α) s = .error e s := rfl

@[simp] theorem ensure_ok_iff (c : Bool) (e : ε) (u : Unit) :
    (ensure c e : Except ε Unit) = .ok u ↔ c = true := by
  cases c <;> simp [ensure, throwThe, MonadExceptOf.throw, pure, Except.pure]

@[simp] theorem ensure_run_ok_iff {ε σ : Type} (c : Bool) (e : ε) (s s' : σ) (u : Unit) :
    (ensure c e : EStateM ε σ Unit) s = .ok u s' ↔ c = true ∧ s' = s := by
  cases c
  · simp [ensure, throwThe, MonadExceptOf.throw, EStateM.throw]
  · simp [ensure, eq_comm]

theorem lift_ok_iff (x : Except ε α) (s s' : σ) (a : α) :
    (liftM x : EStateM ε σ α) s = .ok a s' ↔ x = .ok a ∧ s' = s := by
  cases x with
  | ok b => simp [eq_comm]
  | error e => simp

theorem lift_error_iff (x : Except ε α) (s s' : σ) (e : ε) :
    (liftM x : EStateM ε σ α) s = .error e s' ↔ x = .error e ∧ s' = s := by
  cases x with
  | ok b => simp
  | error e' => simp [eq_comm]

theorem lift_bind_ok_iff (x : Except ε α) (f : α → EStateM ε σ β) (s s' : σ) (b : β) :
    ((liftM x : EStateM ε σ α) >>= f) s = .ok b s' ↔ ∃ a, x = .ok a ∧ f a s = .ok b s' := by
  cases x with
  | ok a => simp [bind_of_ok (lift_ok_run a s)]
  | error e => simp [bind_of_error (lift_error_run e s)]

theorem ensure_bind_ok_iff {ε σ β : Type} (c : Bool) (e : ε) (f : Unit → EStateM ε σ β) (s s' : σ)
    (b : β) :
    ((ensure c e : EStateM ε σ Unit) >>= f) s = .ok b s' ↔ c = true ∧ f () s = .ok b s' := by
  simp only [bind_ok_iff, ensure_run_ok_iff]
  constructor
  · rintro ⟨_, _, ⟨hc, rfl⟩, h⟩
    exact ⟨hc, h⟩
  · rintro ⟨hc, h⟩
    exact ⟨(), s, ⟨hc, rfl⟩, h⟩

theorem get_bind_run (f : σ → EStateM ε σ β) (s : σ) :
    ((get : EStateM ε σ σ) >>= f) s = f s s := rfl

/-- From a state satisfying `P` a success ends in `Q` and a failure in `E`. -/
def Triple (P : σ → Prop) (x : EStateM ε σ α) (Q : α → σ → Prop) (E : ε → σ → Prop) : Prop :=
  ∀ s, P s → (∀ a s', x s = .ok a s' → Q a s') ∧ (∀ e s', x s = .error e s' → E e s')

namespace Triple

variable {P P' : σ → Prop} {Q Q' : α → σ → Prop} {R : β → σ → Prop} {E E' : ε → σ → Prop}

theorem bind {x : EStateM ε σ α} {f : α → EStateM ε σ β} (hx : Triple P x Q E)
    (hf : ∀ a, Triple (Q a) (f a) R E) : Triple P (x >>= f) R E := by
  intro s hs
  constructor
  · intro b s'' h
    obtain ⟨a, s', hRun, hRest⟩ := (bind_ok_iff x f s s'' b).mp h
    exact (hf a s' ((hx s hs).1 a s' hRun)).1 b s'' hRest
  · intro e s'' h
    rcases (bind_error_iff x f s s'' e).mp h with hRun | ⟨a, s', hRun, hRest⟩
    · exact (hx s hs).2 e s'' hRun
    · exact (hf a s' ((hx s hs).1 a s' hRun)).2 e s'' hRest

theorem pure {a : α} (h : ∀ s, P s → Q a s) : Triple P (Pure.pure a : EStateM ε σ α) Q E := by
  intro s hs
  constructor
  · rintro a' s' hRun
    cases hRun
    exact h s hs
  · intro e s' hRun
    cases hRun

theorem throw {e : ε} (h : ∀ s, P s → E e s) : Triple P (throw e : EStateM ε σ α) Q E := by
  intro s hs
  constructor
  · intro a s' hRun
    cases hRun
  · rintro e' s' hRun
    cases hRun
    exact h s hs

theorem lift {x : Except ε α} (hOk : ∀ s a, P s → x = .ok a → Q a s)
    (hError : ∀ s e, P s → x = .error e → E e s) : Triple P (liftM x : EStateM ε σ α) Q E := by
  intro s hs
  constructor
  · intro a s' hRun
    obtain ⟨hx, rfl⟩ := (lift_ok_iff x s s' a).mp hRun
    exact hOk s' a hs hx
  · intro e s' hRun
    obtain ⟨hx, rfl⟩ := (lift_error_iff x s s' e).mp hRun
    exact hError s' e hs hx

theorem weaken {x : EStateM ε σ α} (h : Triple P x Q E) (hP : ∀ s, P' s → P s)
    (hQ : ∀ a s, Q a s → Q' a s) (hE : ∀ e s, E e s → E' e s) : Triple P' x Q' E' := fun s hs =>
  ⟨fun a s' hRun => hQ a s' ((h s (hP s hs)).1 a s' hRun),
    fun e s' hRun => hE e s' ((h s (hP s hs)).2 e s' hRun)⟩

end Triple

/-- However the computation ends, `I` still holds. -/
def Keeps (I : σ → Prop) (x : EStateM ε σ α) : Prop := Triple I x (fun _ => I) (fun _ => I)

namespace Keeps

variable {I : σ → Prop}

theorem pure (a : α) : Keeps I (Pure.pure a : EStateM ε σ α) := Triple.pure fun _ => id

theorem throw (e : ε) : Keeps I (MonadExcept.throw e : EStateM ε σ α) := Triple.throw fun _ => id

theorem bind {x : EStateM ε σ α} {f : α → EStateM ε σ β} (hx : Keeps I x) (hf : ∀ a, Keeps I (f a)) :
    Keeps I (x >>= f) :=
  Triple.bind hx hf

theorem attempt {x : EStateM ε σ α} (hx : Keeps I x) : Keeps I (Fallible.attempt x) := by
  intro s hs
  unfold Fallible.attempt
  cases hRun : x s with
  | ok a s' =>
    constructor
    · rintro b s'' h
      cases h
      exact (hx s hs).1 a s' hRun
    · rintro e s'' h
      cases h
  | error e s' =>
    constructor
    · rintro b s'' h
      cases h
      exact (hx s hs).2 e s' hRun
    · rintro e s'' h
      cases h

theorem stateAfter {x : EStateM ε σ α} (hx : Keeps I x) {s : σ} (hs : I s) :
    I (Fallible.stateAfter x s) := by
  unfold Fallible.stateAfter
  cases hRun : x s with
  | ok a s' => exact (hx s hs).1 a s' hRun
  | error e s' => exact (hx s hs).2 e s' hRun

theorem of_stateAfter {x : EStateM ε σ α} (h : ∀ s, I s → I (Fallible.stateAfter x s)) :
    Keeps I x := by
  intro s hs
  constructor
  · intro a s' hRun
    rw [← stateAfter_of_ok hRun]
    exact h s hs
  · intro e s' hRun
    rw [← stateAfter_of_error hRun]
    exact h s hs

end Keeps

theorem foldlM_keeps {β : Type u} {P : β → Prop} {f : β → α → EStateM ε σ β}
    (hf : ∀ b a s b' s', P b → f b a s = .ok b' s' → P b') (l : List α) {b b' : β} {s s' : σ} (hb : P b)
    (h : l.foldlM f b s = .ok b' s') : P b' := by
  induction l generalizing b s with
  | nil =>
    cases h
    exact hb
  | cons a rest ih =>
    rw [List.foldlM_cons] at h
    obtain ⟨b₁, s₁, hFirst, hRest⟩ := (bind_ok_iff _ _ _ _ _).mp h
    exact ih (hf b a s b₁ s₁ hb hFirst) hRest

end AffinidiMessaging.Fallible
