import Mathlib

/-! # A queue whose items are found by two keys

Every item has a key of its own and may belong to a group. The ledger of a queue notes what has been put in
and what has been handed out; what waits is the rest, by age. A group is severed while one of its items has
been handed out since the last one was put in.
-/

namespace AffinidiMessaging.KeyedQueue

universe u v

structure Ledger (α : Type u) (K : Type v) where
  inserted : List α := []
  returned : List α := []
  severed : Finset K := ∅

variable {α : Type u} {K : Type v} [DecidableEq K] (key : α → K) (group : α → Option K)

namespace Ledger

def insert (l : Ledger α K) (a : α) : Ledger α K :=
  { l with
    inserted := l.inserted ++ [a]
    severed := match group a with
      | some g => l.severed.erase g
      | none => l.severed }

def give (l : Ledger α K) (a : α) : Ledger α K :=
  { l with
    returned := l.returned ++ [a]
    severed := match group a with
      | some g => Insert.insert g l.severed
      | none => l.severed }

def waiting (l : Ledger α K) : List α :=
  l.inserted.filter fun a => key a ∉ l.returned.map key

/-- Nothing is lost and nothing is handed out twice. -/
structure Conserved (l : Ledger α K) : Prop where
  distinct : (l.inserted.map key).Nodup
  whole : (l.returned ++ l.waiting key).Perm l.inserted

variable {key group} {l : Ledger α K} {a b : α}

theorem mem_waiting_iff : a ∈ l.waiting key ↔ a ∈ l.inserted ∧ key a ∉ l.returned.map key := by
  rw [waiting, List.mem_filter, decide_eq_true_iff]

theorem mem_severed_insert_iff {k : K} :
    k ∈ (l.insert group a).severed ↔ group a ≠ some k ∧ k ∈ l.severed := by
  rw [insert]
  cases group a with
  | none => simp
  | some g => simp [eq_comm]

theorem mem_severed_give_iff {k : K} :
    k ∈ (l.give group a).severed ↔ group a = some k ∨ k ∈ l.severed := by
  rw [give]
  cases group a with
  | none => simp
  | some g => simp [eq_comm]

theorem Conserved.nodup_waiting (h : l.Conserved key) : ((l.waiting key).map key).Nodup :=
  h.distinct.sublist (List.filter_sublist.map key)

theorem Conserved.start : ({} : Ledger α K).Conserved key where
  distinct := List.nodup_nil
  whole := List.Perm.refl []

theorem waiting_insert (h : l.Conserved key) (hFresh : key a ∉ l.inserted.map key) :
    (l.insert group a).waiting key = l.waiting key ++ [a] := by
  have hNotReturned : key a ∉ l.returned.map key := by
    intro hMem
    obtain ⟨b, hb, hKey⟩ := List.mem_map.mp hMem
    have hInserted : b ∈ l.inserted := h.whole.subset (List.mem_append_left _ hb)
    exact hFresh (List.mem_map.mpr ⟨b, hInserted, hKey⟩)
  change (l.inserted ++ [a]).filter (fun b => key b ∉ l.returned.map key) = _
  rw [List.filter_append, waiting, List.filter_cons_of_pos (by simpa using hNotReturned), List.filter_nil]

theorem waiting_give : (l.give group a).waiting key = (l.waiting key).filter fun b => key b ≠ key a := by
  change l.inserted.filter (fun b => key b ∉ (l.returned ++ [a]).map key) = _
  rw [waiting, List.filter_filter]
  congr 1
  funext b
  rw [← Bool.decide_and]
  refine decide_eq_decide.mpr ?_
  rw [List.map_append, List.map_singleton, List.mem_append, List.mem_singleton, not_or, and_comm]

theorem Conserved.insert (h : l.Conserved key) (hFresh : key a ∉ l.inserted.map key) :
    (l.insert group a).Conserved key where
  distinct := by
    change ((l.inserted ++ [a]).map key).Nodup
    rw [List.map_append, List.map_singleton]
    refine List.nodup_append.mpr ⟨h.distinct, List.nodup_singleton _, ?_⟩
    rintro k hk _ hSame rfl
    exact hFresh (List.mem_singleton.mp hSame ▸ hk)
  whole := by
    rw [waiting_insert h hFresh]
    change (l.returned ++ (l.waiting key ++ [a])).Perm (l.inserted ++ [a])
    rw [← List.append_assoc]
    exact h.whole.append_right [a]

/-- Taking out what has the key of an item takes out this item alone. -/
theorem perm_cons_filter_ne {items : List α} (h : (items.map key).Nodup) (ha : a ∈ items) :
    items.Perm (a :: items.filter fun b => key b ≠ key a) := by
  induction items with
  | nil => cases ha
  | cons b rest ih =>
    rw [List.map_cons, List.nodup_cons] at h
    obtain ⟨hNew, hRest⟩ := h
    rcases List.mem_cons.mp ha with rfl | hLater
    · have hAll : rest.filter (fun b => key b ≠ key a) = rest := by
        refine List.filter_eq_self.mpr fun c hc => decide_eq_true fun hSame => hNew ?_
        exact hSame ▸ List.mem_map_of_mem hc
      rw [List.filter_cons_of_neg (by simp), hAll]
    · have hOther : key b ≠ key a := fun hSame => hNew (hSame ▸ List.mem_map_of_mem hLater)
      rw [List.filter_cons_of_pos (by simpa using hOther)]
      exact ((ih hRest hLater).cons b).trans (List.Perm.swap a b _)

theorem Conserved.give (h : l.Conserved key) (ha : a ∈ l.waiting key) :
    (l.give group a).Conserved key where
  distinct := h.distinct
  whole := by
    have hSplit := perm_cons_filter_ne h.nodup_waiting ha
    rw [waiting_give]
    change ((l.returned ++ [a]) ++ _).Perm l.inserted
    rw [List.append_assoc, List.singleton_append]
    exact (hSplit.symm.append_left l.returned).trans h.whole

end Ledger

end AffinidiMessaging.KeyedQueue
