import AffinidiMessaging.Didcomm.Document

/-! # Results without a panic -/

namespace AffinidiMessaging.Didcomm

open Fallible

/-- A value or an error. -/
def Result.Safe {α : Type} (r : Result α) : Prop := ∀ p, r ≠ .error (.panic p)

namespace Result

variable {α β : Type}

@[simp] theorem safe_ok (a : α) : Safe (.ok a : Result α) := by
  rintro p ⟨⟩

@[simp] theorem safe_pure (a : α) : Safe (pure a : Result α) := safe_ok a

@[simp] theorem safe_error (e : Error) : Safe (.error (.error e) : Result α) := by
  rintro p ⟨⟩

@[simp] theorem safe_errMsg (kind : ErrorKind) (msg : String) : Safe (.error (errMsg kind msg) : Result α) :=
  safe_error _

@[simp] theorem not_safe_panic (p : Panic) : ¬ Safe (.error (.panic p) : Result α) := fun h => h p rfl

theorem safe_bind_iff {x : Result α} {f : α → Result β} :
    (x >>= f).Safe ↔ x.Safe ∧ ∀ a, x = .ok a → (f a).Safe := by
  rcases x with (e | p) | a
  · exact iff_of_true (safe_error e) ⟨safe_error e, fun a h => by cases h⟩
  · exact iff_of_false (not_safe_panic p) fun h => not_safe_panic p h.1
  · constructor
    · intro h
      refine ⟨safe_ok a, ?_⟩
      rintro _ ⟨⟩
      exact h
    · exact fun h => h.2 a rfl

@[simp] theorem safe_messageOf (kind : ErrorKind) (msg : String) (x : Except String α) :
    Safe (messageOf kind msg x) := by
  cases x
  · exact safe_error _
  · exact safe_ok _

@[simp] theorem safe_ofKind (kind : ErrorKind) (msg : String) (x : Except String α) : Safe (ofKind kind msg x) := by
  cases x
  · exact safe_error _
  · exact safe_ok _

@[simp] theorem safe_kind_iff (kind : ErrorKind) (msg : String) (x : Result α) :
    Safe (Result.kind kind msg x) ↔ x.Safe := by
  rcases x with (e | p) | a
  · exact iff_of_true (safe_error _) (safe_error e)
  · exact Iff.rfl
  · exact Iff.rfl

@[simp] theorem safe_ensure (c : Bool) (kind : ErrorKind) (msg : String) :
    Safe (ensure c (errMsg kind msg) : Result Unit) := by
  cases c
  · exact safe_error _
  · exact safe_ok _

@[simp] theorem safe_splitAt_iff (bytes : ByteArray) (mid : Nat) : Safe (splitAt bytes mid) ↔ mid ≤ bytes.size := by
  unfold splitAt
  split
  · rename_i h
    exact iff_of_true (safe_ok _) h
  · rename_i h
    exact iff_of_false (not_safe_panic _) h

end Result

end AffinidiMessaging.Didcomm
