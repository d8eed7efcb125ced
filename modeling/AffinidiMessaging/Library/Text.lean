import Mathlib

/-! # Text: splitting at a separator and decimal numerals -/

namespace AffinidiMessaging.Text

theorem append_left_injective {s t u : String} (h : s ++ t = s ++ u) : t = u := by
  have hList := congrArg String.toList h
  rw [String.toList_append, String.toList_append] at hList
  exact String.toList_inj.mp (List.append_cancel_left hList)

theorem take_append (s t : String) (n : Nat) (h : n ≤ s.toList.length) :
    (s ++ t).toList.take n = s.toList.take n := by
  rw [String.toList_append, List.take_append_of_le_length h]

/-- The parts before and after the first `c`, if there is one. -/
def splitOnce (c : Char) (s : String) : Option (String × String) :=
  match s.toList.dropWhile (· != c) with
  | [] => none
  | _ :: rest => some (String.ofList (s.toList.takeWhile (· != c)), String.ofList rest)

theorem splitOnce_append (c : Char) (left right : String) (h : c ∉ left.toList) :
    splitOnce c (left ++ String.ofList (c :: right.toList)) = some (left, right) := by
  have hLeft : ∀ x ∈ left.toList, (x != c) = true := by
    intro x hx
    exact bne_iff_ne.mpr (fun e => h (e ▸ hx))
  unfold splitOnce
  rw [String.toList_append, String.toList_ofList, List.dropWhile_append_of_pos hLeft,
    List.takeWhile_append_of_pos hLeft]
  simp

theorem splitOnce_eq_none_iff (c : Char) (s : String) : splitOnce c s = none ↔ c ∉ s.toList := by
  unfold splitOnce
  cases h : s.toList.dropWhile (· != c) with
  | nil =>
    simp only [true_iff]
    intro hc
    have hAll : ∀ x ∈ s.toList, (x != c) = true := List.dropWhile_eq_nil_iff.mp h
    simpa using hAll c hc
  | cons x xs =>
    simp only [reduceCtorEq, false_iff, not_not]
    have hx : x = c := by
      have := List.head_dropWhile_not (fun y => y != c) (l := s.toList) (by simp [h])
      simpa [h] using this
    rw [← hx]
    exact (List.dropWhile_sublist _).subset (h ▸ List.mem_cons_self)

theorem not_mem_of_splitOnce {c : Char} {s left right : String} (h : splitOnce c s = some (left, right)) :
    c ∉ left.toList := by
  unfold splitOnce at h
  split at h
  · cases h
  · cases h
    rw [String.toList_ofList]
    intro hc
    simpa using List.mem_takeWhile_imp hc

/-- The parts between all the `c`. -/
def splitAll (c : Char) (s : String) : List String := (s.toList.splitOn c).map String.ofList

theorem splitAll_append (c : Char) (s t : String) :
    splitAll c (s ++ String.ofList [c] ++ t) = splitAll c s ++ splitAll c t := by
  have hList : (s ++ String.ofList [c] ++ t).toList = s.toList ++ c :: t.toList := by simp
  rw [splitAll, hList, List.splitOn_append_cons_self, List.map_append]
  rfl

theorem splitAll_ne_nil (c : Char) (s : String) : splitAll c s ≠ [] := by
  simp [splitAll, List.splitOn_ne_nil]

theorem splitAll_of_not_mem {c : Char} {s : String} (h : c ∉ s.toList) : splitAll c s = [s] := by
  rw [splitAll, List.splitOn_eq_singleton h]
  simp

theorem splitAll_eq_singleton_iff {c : Char} {s : String} : (∃ t, splitAll c s = [t]) ↔ c ∉ s.toList := by
  constructor
  · rintro ⟨t, h⟩ hMem
    obtain ⟨before, after, hSplit⟩ := List.append_of_mem hMem
    have hText : s = String.ofList before ++ String.ofList [c] ++ String.ofList after := by
      apply String.toList_inj.mp
      simp [hSplit]
    rw [hText, splitAll_append] at h
    have hLength := congrArg List.length h
    have hBefore := List.length_pos_iff.mpr (splitAll_ne_nil c (String.ofList before))
    have hAfter := List.length_pos_iff.mpr (splitAll_ne_nil c (String.ofList after))
    simp only [List.length_append, List.length_singleton] at hLength
    omega
  · exact fun h => ⟨s, splitAll_of_not_mem h⟩

theorem splitAll_three (c : Char) {s t u : String} (hs : c ∉ s.toList) (ht : c ∉ t.toList)
    (hu : c ∉ u.toList) :
    splitAll c (s ++ String.ofList [c] ++ t ++ String.ofList [c] ++ u) = [s, t, u] := by
  rw [splitAll_append, splitAll_append, splitAll_of_not_mem hs, splitAll_of_not_mem ht, splitAll_of_not_mem hu]
  rfl

def isNumeral (cs : List Char) : Bool := !cs.isEmpty && cs.all Char.isDigit

/-- The number an unsigned decimal numeral denotes; leading zeros are allowed. -/
def parseNat (s : String) : Option Nat :=
  if isNumeral s.toList then some (Nat.ofDigitChars 10 s.toList 0) else none

theorem isNumeral_repr (n : Nat) : isNumeral n.repr.toList = true := by
  rw [Nat.toList_repr]
  have hDigits : ∀ c ∈ Nat.toDigits 10 n, c.isDigit = true := fun c hc =>
    Nat.isDigit_of_mem_toDigits (by decide) (by decide) hc
  simp [isNumeral, Nat.toDigits_ne_nil, List.all_eq_true.mpr hDigits]

@[simp] theorem parseNat_repr (n : Nat) : parseNat n.repr = some n := by
  rw [parseNat, if_pos (isNumeral_repr n), Nat.toList_repr, Nat.ofDigitChars_ten_toDigits]

theorem parseNat_append_repr (m n : Nat) :
    parseNat (m.repr ++ n.repr) = some (m * 10 ^ n.repr.length + n) := by
  have hm := isNumeral_repr m
  have hn := isNumeral_repr n
  have hAll : isNumeral (m.repr ++ n.repr).toList = true := by
    simp only [isNumeral, String.toList_append, Bool.and_eq_true, List.all_append,
      Bool.not_eq_true', List.isEmpty_eq_false_iff] at *
    exact ⟨by simp, hm.2, hn.2⟩
  rw [parseNat, if_pos hAll, String.toList_append, Nat.ofDigitChars_append, Nat.toList_repr,
    Nat.toList_repr, Nat.ofDigitChars_ten_toDigits, Nat.ofDigitChars_eq_ofDigitChars_zero,
    Nat.ofDigitChars_ten_toDigits, ← Nat.toList_repr, String.length_toList, Nat.mul_comm]

theorem utf8ByteSize_le (s : String) : s.utf8ByteSize ≤ 4 * s.length := by
  have hList : ∀ cs : List Char, (String.ofList cs).utf8ByteSize ≤ 4 * cs.length := by
    intro cs
    induction cs with
    | nil => simp
    | cons c cs ih =>
      have hCons : String.ofList (c :: cs) = String.singleton c ++ String.ofList cs := by
        apply String.toList_inj.mp
        simp
      have := Char.utf8Size_le_four c
      rw [hCons, String.utf8ByteSize_append, String.utf8ByteSize_singleton, List.length_cons]
      omega
  have := hList s.toList
  rwa [String.ofList_toList, String.length_toList] at this

def inI64 (n : Int) : Prop := -(2 ^ 63) ≤ n ∧ n < 2 ^ 63

instance (n : Int) : Decidable (inI64 n) := inferInstanceAs (Decidable (_ ∧ _))

def parseSigned (s : String) : Option Int :=
  match s.toList with
  | '-' :: digits => (parseNat (String.ofList digits)).map fun n => -(n : Int)
  | _ => (parseNat s).map Int.ofNat

/-- Strict 64-bit reading: only the numeral that the number itself prints as. -/
def parseI64 (s : String) : Option Int :=
  match parseSigned s with
  | some n => if toString n = s ∧ inI64 n then some n else none
  | none => none

theorem parseSigned_toString (n : Int) : parseSigned (toString n) = some n := by
  cases n with
  | ofNat m =>
    change parseSigned m.repr = _
    have hHead : ∀ digits, m.repr.toList ≠ '-' :: digits := by
      intro digits h
      have := isNumeral_repr m
      rw [h] at this
      simp [isNumeral] at this
    unfold parseSigned
    split
    · rename_i digits h
      exact absurd h (hHead digits)
    · rw [parseNat_repr]
      rfl
  | negSucc m =>
    change parseSigned ("-" ++ (m + 1).repr) = _
    have hList : ("-" ++ (m + 1).repr).toList = '-' :: (m + 1).repr.toList := by
      rw [String.toList_append]
      rfl
    rw [parseSigned, hList]
    simp only [String.ofList_toList, parseNat_repr]
    rfl

@[simp] theorem parseI64_toString {n : Int} (h : inI64 n) : parseI64 (toString n) = some n := by
  rw [parseI64, parseSigned_toString]
  exact if_pos ⟨rfl, h⟩

theorem inI64_of_parseI64 {s : String} {n : Int} (h : parseI64 s = some n) : inI64 n := by
  unfold parseI64 at h
  split at h
  · split at h
    · rename_i hn
      cases h
      exact hn.2
    · cases h
  · cases h

theorem toString_of_parseI64 {s : String} {n : Int} (h : parseI64 s = some n) :
    toString n = s := by
  unfold parseI64 at h
  split at h
  · split at h
    · rename_i hn
      cases h
      exact hn.1
    · cases h
  · cases h

end AffinidiMessaging.Text
