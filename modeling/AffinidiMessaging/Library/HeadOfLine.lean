import Mathlib

/-! # A queue served from its head

Each round serves at most so many entries from the head of a queue. Some of the served entries leave
it, the others stay and stand before what follows. An entry is reached as long as fewer entries that
stay are before it than a round serves.
-/

namespace AffinidiMessaging.HeadOfLine

variable {α : Type*} (before : α → α → Prop) [DecidableRel before]

/-- How many entries that stay are before an entry. -/
def staying (stays : α → Prop) [DecidablePred stays] (queue : List α) (e : α) : Nat :=
  queue.countP fun x => before x e ∧ stays x

variable {before} {stays : α → Prop} [DecidablePred stays] {queue : List α} {limit : Nat} {e : α}

omit [DecidableRel before] in
theorem not_before_of_mem_drop (hAsymm : ∀ a b, before a b → ¬ before b a)
    (hSorted : queue.Pairwise before) (he : e ∈ queue.take limit) :
    ∀ x ∈ queue.drop limit, ¬ before x e := by
  intro x hx
  rw [← List.take_append_drop limit queue, List.pairwise_append] at hSorted
  exact hAsymm e x (hSorted.2.2 e he x hx)

/-- Fewer entries than a round serves are before one that it serves. -/
theorem staying_lt_of_mem_take (hAsymm : ∀ a b, before a b → ¬ before b a)
    (hSorted : queue.Pairwise before) (he : e ∈ queue.take limit) :
    staying before stays queue e < limit := by
  have hIrrefl : ¬ before e e := fun h => hAsymm e e h h
  have hRest : (queue.drop limit).countP (fun x => before x e ∧ stays x) = 0 := by
    rw [List.countP_eq_zero]
    intro x hx h
    exact not_before_of_mem_drop hAsymm hSorted he x hx (of_decide_eq_true h).1
  have hFirst : (queue.take limit).countP (fun x => before x e ∧ stays x) ≠ (queue.take limit).length := by
    intro hAll
    exact hIrrefl (of_decide_eq_true (List.countP_eq_length.mp hAll e he)).1
  calc staying before stays queue e
      = (queue.take limit).countP (fun x => before x e ∧ stays x) +
          (queue.drop limit).countP (fun x => before x e ∧ stays x) := by
        rw [← List.countP_append, List.take_append_drop, staying]
    _ = (queue.take limit).countP (fun x => before x e ∧ stays x) := by
        rw [hRest, Nat.add_zero]
    _ < (queue.take limit).length := Nat.lt_of_le_of_ne List.countP_le_length hFirst
    _ ≤ limit := List.length_take_le limit queue

/-- A round that does not serve an entry serves one that leaves, unless too many that stay are before
it. -/
theorem exists_leaving (hSorted : queue.Pairwise before) (he : e ∈ queue)
    (hLater : e ∉ queue.take limit) (hFew : staying before stays queue e < limit) :
    ∃ x ∈ queue.take limit, ¬ stays x := by
  by_contra hNone
  push Not at hNone
  have hDrop : e ∈ queue.drop limit := by
    rw [← List.take_append_drop limit queue, List.mem_append] at he
    exact he.resolve_left hLater
  have hLong : limit < queue.length := by
    by_contra hShort
    rw [List.drop_eq_nil_of_le (Nat.le_of_not_lt hShort)] at hDrop
    cases hDrop
  have hBefore : ∀ x ∈ queue.take limit, before x e := by
    rw [← List.take_append_drop limit queue, List.pairwise_append] at hSorted
    exact fun x hx => hSorted.2.2 x hx e hDrop
  have hAll : (queue.take limit).countP (fun x => before x e ∧ stays x) = (queue.take limit).length := by
    rw [List.countP_eq_length]
    exact fun x hx => decide_eq_true ⟨hBefore x hx, hNone x hx⟩
  have hMany : (queue.take limit).length ≤ staying before stays queue e :=
    hAll ▸ (List.take_sublist limit queue).countP_le
  rw [List.length_take, Nat.min_eq_left (Nat.le_of_lt hLong)] at hMany
  omega

/-- What is before an entry does not change as long as only entries leave that do not stay. -/
theorem staying_filter {stays' : α → Prop} [DecidablePred stays'] {kept : α → Bool}
    (h : ∀ x ∈ queue, stays x ↔ kept x = true ∧ stays' x) (e : α) :
    staying before stays' (queue.filter kept) e = staying before stays queue e := by
  rw [staying, staying, List.countP_filter]
  apply List.countP_congr
  intro x hx
  simp only [Bool.and_eq_true, decide_eq_true_eq, h x hx]
  constructor
  · rintro ⟨⟨hBefore, hStays⟩, hKept⟩
    exact ⟨hBefore, hKept, hStays⟩
  · rintro ⟨hBefore, hKept, hStays⟩
    exact ⟨⟨hBefore, hStays⟩, hKept⟩

end AffinidiMessaging.HeadOfLine
