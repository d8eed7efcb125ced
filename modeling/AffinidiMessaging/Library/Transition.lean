import Mathlib

/-! # Transition systems and their runs

An invariant is proved by its first states and by one step; it then holds of
every reachable state. A step that is not taken says nothing, so a condition on
the steps is a system of its own.
-/

namespace AffinidiMessaging.Transition

universe u v

structure System (σ : Type u) (ι : Type v) where
  init : σ → Prop
  step : σ → ι → σ → Prop

namespace System

variable {σ : Type u} {ι : Type v}

/-- The same system, with the allowed steps only. -/
def restrict (S : System σ ι) (allowed : σ → ι → Prop) : System σ ι where
  init := S.init
  step s l s' := allowed s l ∧ S.step s l s'

inductive Reachable (S : System σ ι) : σ → Prop
  | init {s : σ} (h : S.init s) : S.Reachable s
  | step {s s' : σ} {l : ι} (hs : S.Reachable s) (h : S.step s l s') : S.Reachable s'

/-- Zero or more steps from one state to a later one. -/
inductive Path (S : System σ ι) (start : σ) : σ → Prop
  | refl : S.Path start start
  | tail {s s' : σ} {l : ι} (hs : S.Path start s) (h : S.step s l s') : S.Path start s'

/-- The steps from one state to a later one in their order, each with the state that it is taken in. -/
inductive Trace (S : System σ ι) (start : σ) : List (σ × ι) → σ → Prop
  | nil : S.Trace start [] start
  | snoc {steps : List (σ × ι)} {s s' : σ} {l : ι} (hs : S.Trace start steps s) (h : S.step s l s') :
    S.Trace start (steps ++ [(s, l)]) s'

structure Invariant (S : System σ ι) (I : σ → Prop) : Prop where
  init : ∀ s, S.init s → I s
  step : ∀ s l s', I s → S.step s l s' → I s'

variable {S : System σ ι} {I J : σ → Prop}

theorem Invariant.holds (h : S.Invariant I) {s : σ} (hs : S.Reachable s) : I s := by
  induction hs with
  | init hInit => exact h.init _ hInit
  | step _ hStep ih => exact h.step _ _ _ ih hStep

theorem Reachable.trans {s s' : σ} (hs : S.Reachable s) (hPath : S.Path s s') : S.Reachable s' := by
  induction hPath with
  | refl => exact hs
  | tail _ hStep ih => exact ih.step hStep

theorem Path.trans {s t u : σ} (h : S.Path s t) (h' : S.Path t u) : S.Path s u := by
  induction h' with
  | refl => exact h
  | tail _ hStep ih => exact ih.tail hStep

theorem Reachable.of_restrict {allowed : σ → ι → Prop} {s : σ}
    (hs : (S.restrict allowed).Reachable s) : S.Reachable s := by
  induction hs with
  | init hInit => exact .init hInit
  | step _ hStep ih => exact ih.step hStep.2

theorem Path.of_restrict {allowed : σ → ι → Prop} {s s' : σ}
    (h : (S.restrict allowed).Path s s') : S.Path s s' := by
  induction h with
  | refl => exact .refl
  | tail _ hStep ih => exact ih.tail hStep.2

theorem Path.keeps {s s' : σ} (h : S.Path s s') (hs : J s)
    (hStep : ∀ s l s', J s → S.step s l s' → J s') : J s' := by
  induction h with
  | refl => exact hs
  | tail _ hTail ih => exact hStep _ _ _ ih hTail

theorem Trace.cons {s t u : σ} {l : ι} {steps : List (σ × ι)} (h : S.step s l t) (hs : S.Trace t steps u) :
    S.Trace s ((s, l) :: steps) u := by
  induction hs with
  | nil => exact .snoc .nil h
  | snoc _ hStep ih => exact .snoc ih hStep

theorem Trace.path {s s' : σ} {steps : List (σ × ι)} (h : S.Trace s steps s') : S.Path s s' := by
  induction h with
  | nil => exact .refl
  | snoc _ hStep ih => exact ih.tail hStep

theorem Trace.reachable {s s' : σ} {steps : List (σ × ι)} (hs : S.Reachable s) (h : S.Trace s steps s') :
    S.Reachable s' :=
  hs.trans h.path

end System

end AffinidiMessaging.Transition
