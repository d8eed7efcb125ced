import Mathlib

/-! # JSON numbers

A number is an integer of 64 bits where it is written as one that fits, and otherwise a decimal.
-/

namespace AffinidiMessaging.Serde

inductive Number
  | posInt (n : UInt64)
  /-- The number -1 - n. -/
  | negInt (n : Fin (2 ^ 63))
  | float (mantissa exponent : Int)
deriving DecidableEq, Repr

end AffinidiMessaging.Serde

namespace AffinidiMessaging.JsonText

open Serde

/-- The digits at the start of a text. -/
def digits (cs : List Char) : List Char × List Char := cs.span Char.isDigit

def natural (cs : List Char) : Nat := Nat.ofDigitChars 10 cs 0

/-- The exponent, if there is one. -/
def exponent : List Char → Option (Int × List Char)
  | c :: cs =>
    if c = 'e' ∨ c = 'E' then
      match cs with
      | '-' :: cs => unsigned cs fun n => -(n : Int)
      | '+' :: cs => unsigned cs Int.ofNat
      | cs => unsigned cs Int.ofNat
    else some (0, c :: cs)
  | [] => some (0, [])
where
  unsigned (cs : List Char) (sign : Nat → Int) : Option (Int × List Char) :=
    if (digits cs).1.isEmpty then none else some (sign (natural (digits cs).1), (digits cs).2)

/-- The number with a sign, an integer where it fits into 64 bits. -/
def integer (negative : Bool) (n : Nat) : Number :=
  if negative then
    if h : 0 < n ∧ n ≤ 2 ^ 63 then .negInt ⟨n - 1, by omega⟩ else .float (-(n : Int)) 0
  else if n < 2 ^ 64 then .posInt n.toUInt64 else .float n 0

def decimal (negative : Bool) (n : Nat) (e : Int) : Number :=
  .float (if negative then -(n : Int) else n) e

/-- The number whose whole part has been read: a fraction or an exponent makes it a float. -/
def afterWhole (negative : Bool) (whole : List Char) : List Char → Option (Number × List Char)
  | '.' :: rest =>
    let (fraction, rest) := digits rest
    if fraction.isEmpty then none
    else (exponent rest).map fun p =>
      (decimal negative (natural (whole ++ fraction)) (p.1 - fraction.length), p.2)
  | c :: rest =>
    if c = 'e' ∨ c = 'E' then
      (exponent (c :: rest)).map fun p => (decimal negative (natural whole) p.1, p.2)
    else some (integer negative (natural whole), c :: rest)
  | [] => some (integer negative (natural whole), [])

def number (cs : List Char) : Option (Number × List Char) :=
  let negative := cs.head? == some '-'
  let (whole, rest) := digits (if negative then cs.tail else cs)
  if whole.isEmpty ∨ (whole.head? = some '0' ∧ whole.length ≠ 1) then none
  else afterWhole negative whole rest

/-- A text that is a number and nothing else. -/
def numberOf (text : String) : Option Number :=
  match number text.toList with
  | some (n, []) => some n
  | _ => none

end AffinidiMessaging.JsonText
