import Mathlib

/-! # LEB128 numbers

Seven bits to a byte, the lowest first; a byte with its high bit set is not the last one. A number has many
encodings, and one of them is the shortest.
-/

namespace AffinidiMessaging.Leb128

/-- The shortest encoding. -/
def encode (n : Nat) : List UInt8 :=
  if n < 128 then [n.toUInt8] else (n % 128 + 128).toUInt8 :: encode (n / 128)
termination_by n
decreasing_by omega

/-- The number at the start of the bytes, and the bytes after it. -/
def read : List UInt8 → Option (Nat × List UInt8)
  | [] => none
  | b :: bytes =>
    if b.toNat < 128 then some (b.toNat, bytes)
    else (read bytes).map fun p => (b.toNat - 128 + 128 * p.1, p.2)

theorem encode_small {n : Nat} (h : n < 128) : encode n = [n.toUInt8] := by
  rw [encode, if_pos h]

theorem encode_large {digit n : Nat} (hDigit : digit < 128) (hn : 0 < n) :
    encode (digit + 128 * n) = (digit + 128).toUInt8 :: encode n := by
  have hMod : (digit + 128 * n) % 128 = digit := by omega
  have hDiv : (digit + 128 * n) / 128 = n := by omega
  rw [encode, if_neg (by omega), hMod, hDiv]

theorem length_encode_pos (n : Nat) : 0 < (encode n).length := by
  rw [encode]
  split <;> simp

/-- What is read takes up at least the bytes of the shortest encoding, and exactly these only if it is that. -/
theorem read_shortest {bytes rest : List UInt8} {n : Nat} (h : read bytes = some (n, rest)) :
    (encode n).length + rest.length ≤ bytes.length ∧
      (bytes.length ≤ (encode n).length + rest.length → bytes = encode n ++ rest) := by
  induction bytes generalizing n with
  | nil => cases h
  | cons b bytes ih =>
    rw [read] at h
    split at h
    · rename_i hLast
      cases h
      rw [encode_small hLast]
      simp [Nat.add_comm]
    · rename_i hMore
      simp only [Option.map_eq_some_iff, Prod.exists, Prod.mk.injEq] at h
      obtain ⟨m, _, hRead, rfl, rfl⟩ := h
      obtain ⟨hLength, hBytes⟩ := ih hRead
      have hb := b.toNat_lt
      rcases Nat.eq_zero_or_pos m with rfl | hm
      · -- the last digit is zero: there is a shorter encoding
        have hZero := length_encode_pos 0
        rw [Nat.mul_zero, Nat.add_zero, encode_small (by omega)]
        simp only [List.length_cons, List.length_nil]
        exact ⟨by omega, fun hShort => absurd hShort (by omega)⟩
      · have hDigit : (b.toNat - 128 + 128).toUInt8 = b := by
          rw [Nat.sub_add_cancel (by omega)]
          exact UInt8.ofNat_toNat
        rw [encode_large (by omega) hm, hDigit, List.length_cons, List.length_cons]
        refine ⟨by omega, fun hShort => ?_⟩
        rw [hBytes (by omega)]
        rfl

/-- A number is smaller than what its bytes have room for. -/
theorem read_lt {bytes rest : List UInt8} {n : Nat} (h : read bytes = some (n, rest)) :
    ∃ k, 0 < k ∧ bytes.length = rest.length + k ∧ n < 128 ^ k := by
  induction bytes generalizing n with
  | nil => cases h
  | cons b bytes ih =>
    rw [read] at h
    split at h
    · rename_i hLast
      cases h
      exact ⟨1, Nat.one_pos, rfl, by omega⟩
    · simp only [Option.map_eq_some_iff, Prod.exists, Prod.mk.injEq] at h
      obtain ⟨m, _, hRead, rfl, rfl⟩ := h
      obtain ⟨k, -, hLength, hLt⟩ := ih hRead
      have hb := b.toNat_lt
      refine ⟨k + 1, Nat.succ_pos k, by rw [List.length_cons, hLength, Nat.add_assoc], ?_⟩
      rw [Nat.pow_succ]
      omega

theorem read_encode (n : Nat) (rest : List UInt8) : read (encode n ++ rest) = some (n, rest) := by
  induction n using Nat.strongRecOn with
  | ind n ih =>
    rw [encode]
    split
    · rename_i hSmall
      have hByte : n.toUInt8.toNat = n := by simp [Nat.mod_eq_of_lt (by omega : n < 256)]
      simp [read, hByte, hSmall]
    · rename_i hLarge
      have hByte : (n % 128 + 128).toUInt8.toNat = n % 128 + 128 := by
        simp [Nat.mod_eq_of_lt (by omega : n % 128 + 128 < 256)]
      rw [List.cons_append, read, if_neg (by omega), hByte, ih (n / 128) (by omega)]
      simp only [Option.map_some, Option.some.injEq, Prod.mk.injEq, and_true]
      omega

/-- The bytes after the shortest encoding are the ones after the number that is read, exactly if the number is
written so. -/
theorem drop_encode_iff {bytes rest : List UInt8} {n : Nat} (h : read bytes = some (n, rest)) :
    bytes.drop (encode n).length = rest ↔ encode n <+: bytes := by
  obtain ⟨hLength, hBytes⟩ := read_shortest h
  constructor
  · intro hDrop
    have hRest := congrArg List.length hDrop
    rw [List.length_drop] at hRest
    exact ⟨rest, (hBytes (by omega)).symm⟩
  · rintro ⟨after, rfl⟩
    rw [List.drop_left]
    have hRead := (read_encode n after).symm.trans h
    exact congrArg Prod.snd (Option.some.inj hRead)

end AffinidiMessaging.Leb128
