import Mathlib

/-! # Base64 without padding, in the alphabet for URLs

Three bytes are four digits; one or two bytes at the end are two or three digits whose
last one has its low bits clear.
-/

namespace AffinidiMessaging.Base64

def digit (n : Nat) : Char :=
  if n < 26 then Char.ofNat (65 + n)
  else if n < 52 then Char.ofNat (71 + n)
  else if n < 62 then Char.ofNat (n - 4)
  else if n = 62 then '-'
  else '_'

def value (c : Char) : Option Nat :=
  let n := c.toNat
  if 65 ≤ n ∧ n < 91 then some (n - 65)
  else if 97 ≤ n ∧ n < 123 then some (n - 71)
  else if 48 ≤ n ∧ n < 58 then some (n + 4)
  else if c = '-' then some 62
  else if c = '_' then some 63
  else none

theorem value_digit : ∀ n < 64, value (digit n) = some n := by decide

def encodeBytes : List UInt8 → List Char
  | [] => []
  | [a] => [digit (a.toNat / 4), digit (a.toNat % 4 * 16)]
  | [a, b] =>
    [digit (a.toNat / 4), digit (a.toNat % 4 * 16 + b.toNat / 16), digit (b.toNat % 16 * 4)]
  | a :: b :: c :: rest =>
    digit (a.toNat / 4) :: digit (a.toNat % 4 * 16 + b.toNat / 16) ::
      digit (b.toNat % 16 * 4 + c.toNat / 64) :: digit (c.toNat % 64) :: encodeBytes rest

def decodeDigits : List Char → Option (List UInt8)
  | [] => some []
  | [w, x] => do
    let w ← value w
    let x ← value x
    if x % 16 = 0 then some [.ofNat (w * 4 + x / 16)] else none
  | [w, x, y] => do
    let w ← value w
    let x ← value x
    let y ← value y
    if y % 4 = 0 then some [.ofNat (w * 4 + x / 16), .ofNat (x % 16 * 16 + y / 4)] else none
  | w :: x :: y :: z :: rest => do
    let w ← value w
    let x ← value x
    let y ← value y
    let z ← value z
    let bytes ← decodeDigits rest
    return .ofNat (w * 4 + x / 16) :: .ofNat (x % 16 * 16 + y / 4) :: .ofNat (y % 4 * 64 + z) :: bytes
  | _ => none

theorem ofNat_eq {n : Nat} {a : UInt8} (h : n = a.toNat) : UInt8.ofNat n = a := by
  rw [h, UInt8.ofNat_toNat]

theorem decodeDigits_encodeBytes (bytes : List UInt8) :
    decodeDigits (encodeBytes bytes) = some bytes := by
  induction bytes using encodeBytes.induct with
  | case1 => rfl
  | case2 a =>
    have ha := a.toNat_lt
    rw [encodeBytes, decodeDigits, value_digit _ (by omega), value_digit _ (by omega)]
    have hLow : a.toNat % 4 * 16 % 16 = 0 := by omega
    simp only [Option.bind_eq_bind, Option.bind_some, if_pos hLow]
    rw [ofNat_eq (a := a) (by omega)]
  | case3 a b =>
    have ha := a.toNat_lt
    have hb := b.toNat_lt
    rw [encodeBytes, decodeDigits, value_digit _ (by omega), value_digit _ (by omega),
      value_digit _ (by omega)]
    have hLow : b.toNat % 16 * 4 % 4 = 0 := by omega
    simp only [Option.bind_eq_bind, Option.bind_some, if_pos hLow]
    rw [ofNat_eq (a := a) (by omega), ofNat_eq (a := b) (by omega)]
  | case4 a b c rest ih =>
    have ha := a.toNat_lt
    have hb := b.toNat_lt
    have hc := c.toNat_lt
    rw [encodeBytes, decodeDigits, value_digit _ (by omega), value_digit _ (by omega),
      value_digit _ (by omega), value_digit _ (by omega), ih]
    simp only [Option.bind_eq_bind, Option.bind_some, Option.pure_def]
    rw [ofNat_eq (a := a) (by omega), ofNat_eq (a := b) (by omega), ofNat_eq (a := c) (by omega)]

def encode (bytes : ByteArray) : String := String.ofList (encodeBytes bytes.data.toList)

def decode (text : String) : Option ByteArray :=
  (decodeDigits text.toList).map fun bytes => ⟨bytes.toArray⟩

theorem decode_encode (bytes : ByteArray) : decode (encode bytes) = some bytes := by
  rw [decode, encode, String.toList_ofList, decodeDigits_encodeBytes]
  rfl

theorem length_encode_le (bytes : ByteArray) : (encode bytes).length ≤ 2 * bytes.size + 2 := by
  have hList : ∀ bs : List UInt8, (encodeBytes bs).length ≤ 2 * bs.length + 2 := by
    intro bs
    induction bs using encodeBytes.induct with
    | case1 => simp [encodeBytes]
    | case2 a => simp [encodeBytes]
    | case3 a b => simp [encodeBytes]
    | case4 a b c rest ih =>
      simp only [encodeBytes, List.length_cons]
      omega
  have := hList bytes.data.toList
  rwa [encode, String.length_ofList]

theorem isSome_value_of_mem {bytes : List UInt8} {c : Char} (h : c ∈ encodeBytes bytes) :
    (value c).isSome := by
  have hDigit {n : Nat} (hn : n < 64) (hc : c = digit n) : (value c).isSome := by
    rw [hc, value_digit n hn]
    rfl
  induction bytes using encodeBytes.induct with
  | case1 => cases h
  | case2 a =>
    have ha := a.toNat_lt
    simp only [encodeBytes, List.mem_cons, List.not_mem_nil, or_false] at h
    rcases h with h | h <;> exact hDigit (by omega) h
  | case3 a b =>
    have ha := a.toNat_lt
    have hb := b.toNat_lt
    simp only [encodeBytes, List.mem_cons, List.not_mem_nil, or_false] at h
    rcases h with h | h | h <;> exact hDigit (by omega) h
  | case4 a b c' rest ih =>
    have ha := a.toNat_lt
    have hb := b.toNat_lt
    have hc := c'.toNat_lt
    simp only [encodeBytes, List.mem_cons] at h
    rcases h with h | h | h | h | h
    · exact hDigit (by omega) h
    · exact hDigit (by omega) h
    · exact hDigit (by omega) h
    · exact hDigit (by omega) h
    · exact ih h

theorem isSome_value_of_mem_encode {bytes : ByteArray} {c : Char} (h : c ∈ (encode bytes).toList) :
    (value c).isSome := by
  rw [encode, String.toList_ofList] at h
  exact isSome_value_of_mem h

end AffinidiMessaging.Base64
