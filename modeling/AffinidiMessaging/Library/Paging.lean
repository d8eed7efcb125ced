import Mathlib

/-! # Paging through a list

A reader gets page after page, each from a start that the last element of the page before it names.
It sees every element once, in order, when the last element of every page leads on to the next one.
-/

namespace AffinidiMessaging.Paging

universe u v

variable {α : Type u} {κ : Type v}

structure Reader (α : Type u) (κ : Type v) where
  /-- All elements from a start on. -/
  read : κ → List α
  accepts : κ → Prop
  /-- The start of the page after the one that ends with the element. -/
  next : α → κ

/-- Pages until an empty one. -/
inductive Pages (R : Reader α κ) (limit : Nat) : κ → List (List α) → Prop
  | done {start : κ} (hAccepts : R.accepts start) (hEmpty : R.read start = []) :
    Pages R limit start []
  | page {start : κ} {last : α} {rest : List (List α)} (hAccepts : R.accepts start)
    (hLast : ((R.read start).take limit).getLast? = some last) (hRest : Pages R limit (R.next last) rest) :
    Pages R limit start ((R.read start).take limit :: rest)

/-- The element is the last one of a page, or of the whole list. -/
def EndsPage (limit : Nat) (l : List α) (a : α) : Prop :=
  ∃ i, l[i]? = some a ∧ ((i + 1) % limit = 0 ∨ i + 1 = l.length)

theorem EndsPage.mem {limit : Nat} {l : List α} {a : α} (h : EndsPage limit l a) : a ∈ l := by
  obtain ⟨i, hGet, -⟩ := h
  exact List.mem_of_getElem? hGet

/-- The page after the one that ends with the element starts right after it. -/
def Reader.LeadsOn (R : Reader α κ) (whole : List α) (last : α) : Prop :=
  R.accepts (R.next last) ∧ ∃ before, whole = before ++ last :: R.read (R.next last)

theorem Pages.accepts {R : Reader α κ} {limit : Nat} {start : κ} {pages : List (List α)}
    (h : Pages R limit start pages) : R.accepts start := by
  cases h with
  | done hAccepts => exact hAccepts
  | page hAccepts => exact hAccepts

theorem getLast_take {limit : Nat} (hLimit : 0 < limit) {l : List α} (h : l ≠ []) :
    ∃ a, (l.take limit).getLast? = some a ∧ EndsPage limit l a := by
  have hLength := List.length_pos_of_ne_nil h
  have hIndex : min limit l.length - 1 < l.length := by omega
  refine ⟨l[min limit l.length - 1], ?_, min limit l.length - 1, List.getElem?_eq_getElem hIndex, ?_⟩
  · rw [List.getLast?_eq_getElem?, List.length_take, List.getElem?_take_of_lt (by omega),
      List.getElem?_eq_getElem hIndex]
  · by_cases hLess : limit ≤ l.length
    · have hEnd : min limit l.length - 1 + 1 = limit := by omega
      exact .inl (by rw [hEnd, Nat.mod_self])
    · exact .inr (by omega)

theorem EndsPage.of_drop {limit : Nat} {l : List α} {a : α} (h : EndsPage limit (l.drop limit) a) :
    EndsPage limit l a := by
  obtain ⟨i, hGet, hEnd⟩ := h
  rw [List.getElem?_drop] at hGet
  have hIndex := (List.getElem?_eq_some_iff.mp hGet).1
  refine ⟨limit + i, hGet, hEnd.imp (fun hMod => ?_) fun hLength => ?_⟩
  · rw [Nat.add_assoc, Nat.add_mod_left]
    exact hMod
  · rw [List.length_drop] at hLength
    omega

/-- Counting from the second page on, the ends are the same but for the first. -/
theorem EndsPage.take_or_drop {limit : Nat} {l : List α} {a : α} (h : EndsPage limit l a) :
    (l.take limit).getLast? = some a ∨ EndsPage limit (l.drop limit) a := by
  obtain ⟨i, hGet, hEnd⟩ := h
  have hIndex := (List.getElem?_eq_some_iff.mp hGet).1
  by_cases hLater : limit ≤ i
  · right
    refine ⟨i - limit, ?_, hEnd.imp (fun hMod => ?_) fun hLength => ?_⟩
    · rw [List.getElem?_drop, Nat.add_sub_cancel' hLater]
      exact hGet
    · rw [show i + 1 = limit + (i - limit + 1) by omega, Nat.add_mod_left] at hMod
      exact hMod
    · rw [List.length_drop]
      omega
  · left
    have hLast : min limit l.length - 1 = i := by
      rcases hEnd with hMod | hLength
      · have hLe := Nat.le_of_dvd (by omega) (Nat.dvd_of_mod_eq_zero hMod)
        omega
      · omega
    rw [List.getLast?_eq_getElem?, List.length_take, hLast, List.getElem?_take_of_lt (by omega), hGet]

/-- Two ends of a list without duplicates that start with the same element. -/
theorem suffix_eq_of_head {whole l l' : List α} (hNodup : whole.Nodup) (h : l <:+ whole)
    (h' : l' <:+ whole) {a : α} (hHead : l.head? = some a) (hHead' : l'.head? = some a) : l = l' := by
  obtain ⟨before, rfl⟩ := h
  obtain ⟨before', hEq⟩ := h'
  obtain ⟨rest, rfl⟩ := List.head?_eq_some_iff.mp hHead
  obtain ⟨rest', rfl⟩ := List.head?_eq_some_iff.mp hHead'
  rw [← hEq] at hNodup
  obtain ⟨-, hNodupRest, hDisjoint⟩ := List.nodup_append'.mp hNodup
  have hBefore : a ∉ before' := fun hMem => hDisjoint hMem List.mem_cons_self
  have hAfter : a ∉ rest' := (List.nodup_cons.mp hNodupRest).1
  obtain ⟨-, -, hRest⟩ := (List.append_cons_inj_of_notMem hBefore hAfter).mp hEq
  rw [hRest]

theorem take_cons_flatten {limit : Nat} {l l' : List α} {rest : List (List α)}
    (h : (l.take limit :: rest).flatten = l') {last : α} (hLast : (l.take limit).getLast? = some last) :
    ∃ a, l.head? = some a ∧ l'.head? = some a := by
  cases l with
  | nil => simp at hLast
  | cons a tail =>
    cases limit with
    | zero => simp at hLast
    | succ n =>
      refine ⟨a, rfl, ?_⟩
      rw [← h]
      rfl

theorem read_eq_of_pages {R : Reader α κ} {whole : List α} (hNodup : whole.Nodup)
    (hSuffix : ∀ start, R.read start <:+ whole) {limit : Nat} {start : κ} {pages : List (List α)}
    (h : Pages R limit start pages) {l : List α} (hl : l <:+ whole) (hFlatten : pages.flatten = l) :
    R.read start = l := by
  cases h with
  | done hAccepts hEmpty =>
    rw [hEmpty, ← hFlatten]
    rfl
  | page hAccepts hLast hRest =>
    obtain ⟨a, hHead, hHead'⟩ := take_cons_flatten hFlatten hLast
    exact suffix_eq_of_head hNodup (hSuffix start) hl hHead hHead'

/-- The pages are the whole list exactly when the last element of every page leads on. The induction
is on what is left to read. -/
theorem pages_iff (R : Reader α κ) {whole : List α} (hNodup : whole.Nodup)
    (hSuffix : ∀ start, R.read start <:+ whole) {limit : Nat} (hLimit : 0 < limit) {start : κ}
    (hAccepts : R.accepts start) :
    (∃ pages, Pages R limit start pages ∧ pages.flatten = R.read start) ↔
      ∀ a, EndsPage limit (R.read start) a → R.LeadsOn whole a := by
  induction hn : (R.read start).length using Nat.strong_induction_on generalizing start with
  | _ n ih =>
    by_cases hEmpty : R.read start = []
    · constructor
      · rintro - a ⟨i, hGet, -⟩
        simp [hEmpty] at hGet
      · rintro -
        exact ⟨[], .done hAccepts hEmpty, by rw [hEmpty]; rfl⟩
    obtain ⟨last, hLast, hEnds⟩ := getLast_take hLimit hEmpty
    obtain ⟨before, hWhole⟩ := hSuffix start
    obtain ⟨init, hInit⟩ := List.getLast?_eq_some_iff.mp hLast
    have hSplit : whole = (before ++ init) ++ last :: (R.read start).drop limit := by
      have hRead : init ++ last :: (R.read start).drop limit = R.read start := by
        have hTake := List.take_append_drop limit (R.read start)
        rw [hInit, List.append_assoc] at hTake
        exact hTake
      rw [← hWhole, List.append_assoc, hRead]
    have hLess : ((R.read start).drop limit).length < n := by
      have := List.length_pos_of_ne_nil hEmpty
      rw [List.length_drop]
      omega
    have hDrop : (R.read start).drop limit <:+ whole := ⟨before ++ init ++ [last], by rw [hSplit]; simp⟩
    constructor
    · rintro ⟨pages, hPages, hFlatten⟩ a ha
      cases hPages with
      | done _ hNone => exact absurd hNone hEmpty
      | @page _ last' rest _ hLast' hRest =>
        cases hLast.symm.trans hLast'
        have hRestFlatten : rest.flatten = (R.read start).drop limit := by
          have hRead := List.take_append_drop limit (R.read start)
          exact List.append_cancel_left ((List.flatten_cons.symm.trans hFlatten).trans hRead.symm)
        have hRead := read_eq_of_pages hNodup hSuffix hRest hDrop hRestFlatten
        rcases ha.take_or_drop with hTake | hLater
        · cases hLast.symm.trans hTake
          exact ⟨hRest.accepts, before ++ init, by rw [hRead]; exact hSplit⟩
        · rw [← hRead] at hLess hLater hRestFlatten
          exact (ih _ hLess hRest.accepts rfl).mp ⟨rest, hRest, hRestFlatten⟩ a hLater
    · intro hAll
      obtain ⟨hNext, before', hWhole'⟩ := hAll last hEnds
      have hRead : R.read (R.next last) = (R.read start).drop limit := by
        have hSame : last :: R.read (R.next last) = last :: (R.read start).drop limit :=
          suffix_eq_of_head hNodup ⟨before', hWhole'.symm⟩ ⟨before ++ init, hSplit.symm⟩ rfl rfl
        exact List.tail_eq_of_cons_eq hSame
      rw [← hRead] at hLess
      obtain ⟨rest, hRest, hFlatten⟩ := (ih _ hLess hNext rfl).mpr fun a ha =>
        hAll a (EndsPage.of_drop (by rwa [← hRead]))
      refine ⟨(R.read start).take limit :: rest, .page hAccepts hLast hRest, ?_⟩
      rw [List.flatten_cons, hFlatten, hRead, List.take_append_drop]

end AffinidiMessaging.Paging
