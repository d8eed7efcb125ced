import Mathlib

/-! # Machines that run a list of operations

Every operation has one next state. A condition on a step is asked of every operation of a list, in the
state in which the machine performs it.
-/

namespace AffinidiMessaging.Machine

universe u v
variable {σ : Type u} {ι : Type v} (step : σ → ι → σ)

def run (s : σ) (ops : List ι) : σ := ops.foldl step s

@[simp] theorem run_nil (s : σ) : run step s [] = s := rfl

@[simp] theorem run_cons (s : σ) (op : ι) (ops : List ι) : run step s (op :: ops) = run step (step s op) ops := rfl

theorem run_append (s : σ) (before after : List ι) :
    run step s (before ++ after) = run step (run step s before) after :=
  List.foldl_append

def Along (C : σ → ι → Prop) (s : σ) (ops : List ι) : Prop :=
  ∀ before op after, ops = before ++ op :: after → C (run step s before) op

variable {step} {C D : σ → ι → Prop} {I : σ → Prop} {s : σ} {op : ι} {ops : List ι}

@[simp] theorem along_nil : Along step C s [] := by
  intro before op after h
  simp at h

@[simp] theorem along_cons : Along step C s (op :: ops) ↔ C s op ∧ Along step C (step s op) ops := by
  constructor
  · intro h
    refine ⟨h [] op ops rfl, ?_⟩
    rintro before op' after rfl
    exact h (op :: before) op' after rfl
  · rintro ⟨hFirst, hRest⟩ before op' after hSplit
    cases before with
    | nil =>
      cases hSplit
      exact hFirst
    | cons first before =>
      cases hSplit
      exact hRest before op' after rfl

theorem Along.start (h : Along step C s ops) {before after : List ι} (hOps : ops = before ++ after) :
    Along step C s before := by
  subst hOps
  rintro before' op after' rfl
  exact h before' op (after' ++ after) (by simp)

theorem Along.keeps (h : Along step C s ops) (hs : I s)
    (hStep : ∀ s op, I s → C s op → I (step s op)) : I (run step s ops) := by
  induction ops generalizing s with
  | nil => exact hs
  | cons op ops ih =>
    obtain ⟨hOp, hRest⟩ := along_cons.mp h
    exact ih hRest (hStep _ _ hs hOp)

theorem run_keeps (hs : I s) (hStep : ∀ s op, I s → I (step s op)) : I (run step s ops) :=
  Along.keeps (C := fun _ _ => True) (fun _ _ _ _ => trivial) hs fun s op h _ => hStep s op h

theorem Along.and (hC : Along step C s ops) (hD : Along step D s ops) :
    Along step (fun s op => C s op ∧ D s op) s ops :=
  fun before op after h => ⟨hC before op after h, hD before op after h⟩

/-- Two conditions that agree where an invariant holds, if what meets them keeps the invariant. -/
theorem along_congr_of {E : σ → ι → Prop} (hE : Along step E s ops) (hs : I s)
    (hIff : ∀ s op, I s → E s op → (C s op ↔ D s op))
    (hStep : ∀ s op, I s → E s op → C s op → I (step s op)) : Along step C s ops ↔ Along step D s ops := by
  induction ops generalizing s with
  | nil => simp
  | cons op ops ih =>
    obtain ⟨hOp, hRest⟩ := along_cons.mp hE
    rw [along_cons, along_cons, ← hIff s op hs hOp]
    exact and_congr_right fun hC => ih hRest (hStep s op hs hOp hC)

theorem along_congr (hs : I s) (hIff : ∀ s op, I s → (C s op ↔ D s op))
    (hStep : ∀ s op, I s → C s op → I (step s op)) : Along step C s ops ↔ Along step D s ops :=
  along_congr_of (E := fun _ _ => True) (fun _ _ _ _ => trivial) hs (fun s op h _ => hIff s op h)
    fun s op h _ => hStep s op h

variable (step) in
/-- What holds in every state of a run, the last one included. -/
def Throughout (I : σ → Prop) (s : σ) (ops : List ι) : Prop :=
  ∀ before after, ops = before ++ after → I (run step s before)

theorem throughout_iff :
    Throughout step I s ops ↔ I s ∧ Along step (fun s op => I (step s op)) s ops := by
  constructor
  · intro h
    refine ⟨h [] ops rfl, ?_⟩
    rintro before op after rfl
    have hNext := h (before ++ [op]) after (by simp)
    rwa [run_append] at hNext
  · rintro ⟨hs, hStep⟩ before after hSplit
    exact (hStep.start hSplit).keeps hs fun _ _ _ hNext => hNext

end AffinidiMessaging.Machine
