import AffinidiMessaging.Library.JsonNumber

/-! # JSON trees and how derived types are read from them

A tree keeps an object as it is written, with the order and the duplicates of its
keys. A derived struct finds its fields by name in an object or by position in an
array; a struct with a flattened field is read from an object only.
-/

namespace AffinidiMessaging.Serde

inductive Json
  | null
  | bool (b : Bool)
  | num (n : Number)
  | str (s : String)
  | arr (items : List Json)
  | obj (fields : List (String × Json))
deriving Repr

/-- A new entry of a sorted map; the value of a key that is there is replaced. -/
def insertField {α : Type} (k : String) (v : α) : List (String × α) → List (String × α)
  | [] => [(k, v)]
  | (k', v') :: rest =>
    if k = k' then (k, v) :: rest
    else if k < k' then (k, v) :: (k', v') :: rest
    else (k', v') :: insertField k v rest

mutual
/-- The tree as a `Value`: objects are sorted maps in which the last of equal keys wins. -/
def Json.toValue : Json → Json
  | .arr items => .arr (toValues items)
  | .obj fields => .obj (toMap [] fields)
  | j => j

def toValues : List Json → List Json
  | [] => []
  | j :: rest => j.toValue :: toValues rest

def toMap (acc : List (String × Json)) : List (String × Json) → List (String × Json)
  | [] => acc
  | (k, v) :: rest => toMap (insertField k v.toValue acc) rest
end

/-- The key under which `serde_json` hands on a number as its text. -/
def numberKey : String := "$serde_json::private::Number"

def startsNumber (fields : List (String × Json)) : Bool := fields.head?.any fun p => p.1 == numberKey

/-- The number that an object with `numberKey` stands for; there must be nothing else in it. -/
def numberObject : List (String × Json) → Option Json
  | [(_, .str text)] => (JsonText.numberOf text).map .num
  | _ => none

mutual
/-- The tree with a number for each object whose first key is `numberKey`. -/
def Json.withNumbers : Json → Option Json
  | .arr items => (itemsWithNumbers items).map .arr
  | .obj fields =>
    if startsNumber fields then numberObject fields else (fieldsWithNumbers fields).map .obj
  | j => some j

def itemsWithNumbers : List Json → Option (List Json)
  | [] => some []
  | j :: rest => do
    let j ← j.withNumbers
    let rest ← itemsWithNumbers rest
    return j :: rest

def fieldsWithNumbers : List (String × Json) → Option (List (String × Json))
  | [] => some []
  | (k, v) :: rest => do
    let v ← v.withNumbers
    let rest ← fieldsWithNumbers rest
    return (k, v) :: rest
end

namespace Json

def asStr : Json → Option String
  | .str s => some s
  | _ => none

/-- `value[key]`, which is null for a value that is no object or has no such key. -/
def index (key : String) : Json → Json
  | .obj fields => (fields.lookup key).getD .null
  | _ => .null

end Json

/-- The fields of a derived struct, each as far as it is there. -/
def record (names : List String) : Json → Option (String → Option Json)
  | .obj fields =>
    if names.all fun n => (fields.filter (·.1 == n)).length ≤ 1 then some fun n => fields.lookup n
    else none
  | .arr items =>
    if items.length = names.length then some fun n => (names.zip items).lookup n else none
  | _ => none

/-- The fields of a derived struct of which those after the first `needed` have a default. -/
def defaultedRecord (needed : Nat) (names : List String) : Json → Option (String → Option Json)
  | .arr items =>
    if needed ≤ items.length ∧ items.length ≤ names.length then some fun n => (names.zip items).lookup n
    else none
  | j => record names j

/-- The fields of a struct with a flattened field, and the entries left for that field. -/
def flatRecord (names : List String) :
    Json → Option ((String → Option Json) × List (String × Json))
  | .obj fields =>
    if names.all fun n => (fields.filter (·.1 == n)).length ≤ 1 then
      some (fun n => fields.lookup n, fields.filter fun p => p.1 ∉ names)
    else none
  | _ => none

section
variable {α : Type} (read : Json → Option α)

def required (o : Option Json) : Option α := o.bind read

/-- A field of type `Option`: absent, null or a value. -/
def optional : Option Json → Option (Option α)
  | none => some none
  | some .null => some none
  | some j => (read j).map some

def withDefault (a : α) : Option Json → Option α
  | none => some a
  | some j => read j

def list : Json → Option (List α)
  | .arr items => items.mapM read
  | _ => none

end

/-- A `Value`. -/
def value (j : Json) : Option Json := j.withNumbers.map Json.toValue

/-- A map of `Value`s. -/
def valueMap (fields : List (String × Json)) : Option (List (String × Json)) :=
  (fieldsWithNumbers fields).map (toMap [])

def u64 : Json → Option UInt64
  | .num (.posInt n) => some n
  | _ => none

def u8 : Json → Option UInt8
  | .num (.posInt n) => if n < 256 then some n.toUInt8 else none
  | _ => none

/-- The entry of an optional field that is skipped when there is no value. -/
def skipNone {α : Type} (name : String) (write : α → Json) : Option α → List (String × Json)
  | none => []
  | some a => [(name, write a)]

end AffinidiMessaging.Serde
