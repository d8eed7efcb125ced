import AffinidiMessaging.Library.Serde
import AffinidiMessaging.Library.Text

/-! # JSON texts

A writer of compact texts and a reader of texts, which inverts it.
-/

namespace AffinidiMessaging.JsonText

open Serde

def hexDigit (n : Nat) : Char := "0123456789abcdef".toList.getD n '0'

def hexValue (c : Char) : Option Nat :=
  if c.isDigit then some (c.toNat - '0'.toNat)
  else if 'a' ≤ c ∧ c ≤ 'f' then some (c.toNat - 'a'.toNat + 10)
  else if 'A' ≤ c ∧ c ≤ 'F' then some (c.toNat - 'A'.toNat + 10)
  else none

/-- A character as it stands in a string literal. -/
def escape (c : Char) : List Char :=
  if c = '"' then ['\\', '"']
  else if c = '\\' then ['\\', '\\']
  else if c = '\n' then ['\\', 'n']
  else if c = '\r' then ['\\', 'r']
  else if c = '\t' then ['\\', 't']
  else if c = '\x08' then ['\\', 'b']
  else if c = '\x0c' then ['\\', 'f']
  else if c.toNat < 32 then ['\\', 'u', '0', '0', hexDigit (c.toNat / 16), hexDigit (c.toNat % 16)]
  else [c]

def unescape : Char → Option Char
  | '"' => some '"'
  | '\\' => some '\\'
  | '/' => some '/'
  | 'n' => some '\n'
  | 'r' => some '\r'
  | 't' => some '\t'
  | 'b' => some '\x08'
  | 'f' => some '\x0c'
  | _ => none

/-- The scalar value of four hexadecimal digits, which is no half of a pair of surrogates. -/
def codePoint (a b c d : Char) : Option Char := do
  let a ← hexValue a
  let b ← hexValue b
  let c ← hexValue c
  let d ← hexValue d
  let n := ((a * 16 + b) * 16 + c) * 16 + d
  if n.isValidChar then some (Char.ofNat n) else none

/-- The characters of a literal up to the closing quote, and what follows it. -/
def string : List Char → Option (List Char × List Char)
  | [] => none
  | '"' :: rest => some ([], rest)
  | '\\' :: 'u' :: a :: b :: c :: d :: rest => do
    let x ← codePoint a b c d
    let (cs, rest) ← string rest
    return (x :: cs, rest)
  | '\\' :: c :: rest => do
    let x ← unescape c
    let (cs, rest) ← string rest
    return (x :: cs, rest)
  | c :: rest =>
    if c.toNat < 32 then none
    else do
      let (cs, rest) ← string rest
      return (c :: cs, rest)

def isSpace (c : Char) : Bool := c == ' ' || c == '\n' || c == '\r' || c == '\t'

def skipSpace (cs : List Char) : List Char := cs.dropWhile isSpace

mutual
/-- The value at the start of a text, and what follows it. Each step needs fuel; the length of
the text is enough. -/
def value : Nat → List Char → Option (Json × List Char)
  | 0, _ => none
  | fuel + 1, cs =>
    match skipSpace cs with
    | '"' :: cs => do
      let (s, rest) ← string cs
      return (.str (String.ofList s), rest)
    | '[' :: cs =>
      match skipSpace cs with
      | ']' :: rest => some (.arr [], rest)
      | cs => do
        let (j, rest) ← value fuel cs
        let (js, rest) ← moreItems fuel rest
        return (.arr (j :: js), rest)
    | '{' :: cs =>
      match skipSpace cs with
      | '}' :: rest => some (.obj [], rest)
      | cs => do
        let (f, rest) ← field fuel cs
        let (fs, rest) ← moreFields fuel rest
        return (.obj (f :: fs), rest)
    | 'n' :: 'u' :: 'l' :: 'l' :: rest => some (.null, rest)
    | 't' :: 'r' :: 'u' :: 'e' :: rest => some (.bool true, rest)
    | 'f' :: 'a' :: 'l' :: 's' :: 'e' :: rest => some (.bool false, rest)
    | cs => (number cs).map fun p => (.num p.1, p.2)

def moreItems : Nat → List Char → Option (List Json × List Char)
  | 0, _ => none
  | fuel + 1, cs =>
    match skipSpace cs with
    | ']' :: rest => some ([], rest)
    | ',' :: cs => do
      let (j, rest) ← value fuel cs
      let (js, rest) ← moreItems fuel rest
      return (j :: js, rest)
    | _ => none

def field : Nat → List Char → Option ((String × Json) × List Char)
  | 0, _ => none
  | fuel + 1, cs =>
    match skipSpace cs with
    | '"' :: cs => do
      let (k, rest) ← string cs
      match skipSpace rest with
      | ':' :: cs => do
        let (v, rest) ← value fuel cs
        return ((String.ofList k, v), rest)
      | _ => none
    | _ => none

def moreFields : Nat → List Char → Option (List (String × Json) × List Char)
  | 0, _ => none
  | fuel + 1, cs =>
    match skipSpace cs with
    | '}' :: rest => some ([], rest)
    | ',' :: cs => do
      let (f, rest) ← field fuel cs
      let (fs, rest) ← moreFields fuel rest
      return (f :: fs, rest)
    | _ => none
end

def read (s : String) : Option Json :=
  match value s.toList.length s.toList with
  | some (j, rest) => if (skipSpace rest).isEmpty then some j else none
  | none => none

def quote (s : String) : List Char := '"' :: s.toList.flatMap escape ++ ['"']

def numberChars : Number → List Char
  | .posInt n => n.toNat.repr.toList
  | .negInt n => '-' :: (n.val + 1).repr.toList
  | .float mantissa exponent => (toString mantissa ++ "e" ++ toString exponent).toList

mutual
def chars : Json → List Char
  | .null => ['n', 'u', 'l', 'l']
  | .bool true => ['t', 'r', 'u', 'e']
  | .bool false => ['f', 'a', 'l', 's', 'e']
  | .num n => numberChars n
  | .str s => quote s
  | .arr [] => ['[', ']']
  | .arr (j :: js) => '[' :: chars j ++ moreItemsChars js
  | .obj [] => ['{', '}']
  | .obj ((k, v) :: fs) => '{' :: quote k ++ ':' :: chars v ++ moreFieldsChars fs

def moreItemsChars : List Json → List Char
  | [] => [']']
  | j :: js => ',' :: chars j ++ moreItemsChars js

def moreFieldsChars : List (String × Json) → List Char
  | [] => ['}']
  | (k, v) :: fs => ',' :: quote k ++ ':' :: chars v ++ moreFieldsChars fs
end

def write (j : Json) : String := String.ofList (chars j)

theorem length_quote_le (s : String) : (quote s).length ≤ 6 * s.length + 2 := by
  have hEscape : ∀ c, (escape c).length ≤ 6 := by
    intro c
    unfold escape
    split_ifs <;> simp
  have hList : ∀ cs : List Char, (cs.flatMap escape).length ≤ 6 * cs.length := by
    intro cs
    induction cs with
    | nil => simp
    | cons c cs ih =>
      have := hEscape c
      rw [List.flatMap_cons, List.length_append, List.length_cons]
      omega
  have := hList s.toList
  rw [String.length_toList] at this
  simp only [quote, List.length_append, List.length_cons, List.length_nil]
  omega

mutual
/-- A bound on the text, where every character may have to be escaped. -/
def bound : Json → Nat
  | .null => 4
  | .bool _ => 5
  | .num n => (numberChars n).length
  | .str s => 6 * s.length + 2
  | .arr items => itemsBound items + 2
  | .obj fields => fieldsBound fields + 2

def itemsBound : List Json → Nat
  | [] => 0
  | j :: js => bound j + itemsBound js + 1

def fieldsBound : List (String × Json) → Nat
  | [] => 0
  | (k, v) :: fs => 6 * k.length + bound v + fieldsBound fs + 4
end

mutual
theorem length_chars_le : ∀ j, (chars j).length ≤ bound j
  | .null => Nat.le_refl 4
  | .bool true => Nat.le_succ 4
  | .bool false => Nat.le_refl 5
  | .num _ => Nat.le_refl _
  | .str s => length_quote_le s
  | .arr [] => Nat.le_refl 2
  | .arr (j :: js) => by
    have hFirst := length_chars_le j
    have hMore := length_moreItemsChars_le js
    simp only [chars, bound, itemsBound, List.length_append, List.length_cons]
    omega
  | .obj [] => Nat.le_refl 2
  | .obj ((k, v) :: fs) => by
    have hKey := length_quote_le k
    have hFirst := length_chars_le v
    have hMore := length_moreFieldsChars_le fs
    simp only [chars, bound, fieldsBound, List.length_append, List.length_cons]
    omega

theorem length_moreItemsChars_le : ∀ js, (moreItemsChars js).length ≤ itemsBound js + 1
  | [] => Nat.le_refl 1
  | j :: js => by
    have hFirst := length_chars_le j
    have hMore := length_moreItemsChars_le js
    simp only [moreItemsChars, itemsBound, List.length_append, List.length_cons]
    omega

theorem length_moreFieldsChars_le : ∀ fs, (moreFieldsChars fs).length ≤ fieldsBound fs + 1
  | [] => Nat.le_refl 1
  | (k, v) :: fs => by
    have hKey := length_quote_le k
    have hFirst := length_chars_le v
    have hMore := length_moreFieldsChars_le fs
    simp only [moreFieldsChars, fieldsBound, List.length_append, List.length_cons]
    omega
end

theorem length_write_le (j : Json) : (write j).length ≤ bound j :=
  (String.length_ofList (l := chars j)).trans_le (length_chars_le j)

theorem skipSpace_cons {c : Char} (h : isSpace c = false) (cs : List Char) :
    skipSpace (c :: cs) = c :: cs :=
  List.dropWhile_cons_of_neg (by simp [h])

theorem codePoint_control : ∀ n < 32,
    codePoint '0' '0' (hexDigit (n / 16)) (hexDigit (n % 16)) = some (Char.ofNat n) := by decide

/-- A character is read from its escape. -/
theorem string_escape (c : Char) (rest : List Char) :
    string (escape c ++ rest) = (string rest).map fun p => (c :: p.1, p.2) := by
  have hPlain : ∀ d : Char, d ≠ '"' → d ≠ '\\' → ¬ d.toNat < 32 →
      string (d :: rest) = (string rest).map fun p => (d :: p.1, p.2) := by
    intro d hQuote hBackslash hControl
    rw [string]
    · rw [if_neg hControl]
      cases string rest <;> rfl
    · exact hQuote
    · rintro a b c d rest rfl rfl
      exact hBackslash rfl
    · rintro c rest rfl rfl
      exact hBackslash rfl
  have hEscaped : ∀ d x : Char, d ≠ 'u' → unescape d = some x →
      string ('\\' :: d :: rest) = (string rest).map fun p => (x :: p.1, p.2) := by
    intro d x hNe hUnescape
    rw [string]
    · rw [hUnescape]
      cases string rest <;> rfl
    · rintro a b c d rest rfl
      exact absurd rfl hNe
  unfold escape
  split
  · subst c
    exact hEscaped '"' '"' (by decide) rfl
  split
  · subst c
    exact hEscaped '\\' '\\' (by decide) rfl
  split
  · subst c
    exact hEscaped 'n' '\n' (by decide) rfl
  split
  · subst c
    exact hEscaped 'r' '\r' (by decide) rfl
  split
  · subst c
    exact hEscaped 't' '\t' (by decide) rfl
  split
  · subst c
    exact hEscaped 'b' '\x08' (by decide) rfl
  split
  · subst c
    exact hEscaped 'f' '\x0c' (by decide) rfl
  split
  · rename_i hControl
    have hPoint := codePoint_control c.toNat hControl
    rw [Char.ofNat_toNat] at hPoint
    simp only [List.cons_append, List.nil_append]
    rw [string, hPoint]
    cases string rest <;> rfl
  · exact hPlain c ‹_› ‹_› ‹_›

theorem string_quoted (cs rest : List Char) :
    string (cs.flatMap escape ++ '"' :: rest) = some (cs, rest) := by
  induction cs with
  | nil => rfl
  | cons c cs ih => rw [List.flatMap_cons, List.append_assoc, string_escape, ih, Option.map_some]

/-- What follows a number does not go on with it. -/
def Ends (rest : List Char) : Prop :=
  ∀ c ∈ rest.head?, c.isDigit = false ∧ c ≠ '.' ∧ c ≠ 'e' ∧ c ≠ 'E'

theorem isDigit_of_mem_repr {n : Nat} {c : Char} (h : c ∈ n.repr.toList) : c.isDigit = true := by
  rw [Nat.toList_repr] at h
  exact Nat.isDigit_of_mem_toDigits (by decide) (by decide) h

theorem digits_append {cs rest : List Char} (hDigits : ∀ c ∈ cs, c.isDigit = true)
    (hRest : ∀ c ∈ rest.head?, c.isDigit = false) : digits (cs ++ rest) = (cs, rest) := by
  have hNone : rest.takeWhile Char.isDigit = [] ∧ rest.dropWhile Char.isDigit = rest := by
    cases rest with
    | nil => exact ⟨rfl, rfl⟩
    | cons c rest =>
      have hNot := hRest c rfl
      exact ⟨List.takeWhile_cons_of_neg (by simp [hNot]), List.dropWhile_cons_of_neg (by simp [hNot])⟩
  rw [digits, List.span_eq_takeWhile_dropWhile, List.takeWhile_append_of_pos hDigits,
    List.dropWhile_append_of_pos hDigits, hNone.1, hNone.2, List.append_nil]

theorem head_repr_ne {n : Nat} (h : 0 < n) : n.repr.toList.head? ≠ some '0' := by
  rw [Nat.toList_repr]
  induction n using Nat.strongRecOn with
  | ind n ih =>
    by_cases hSmall : n < 10
    · rw [Nat.toDigits_of_lt_base hSmall]
      have hDigit : ∀ m < 10, 0 < m → [Nat.digitChar m].head? ≠ some '0' := by decide
      exact hDigit n hSmall h
    · rw [Nat.toDigits_of_base_le (by decide) (by omega), List.head?_append]
      have hRest := ih (n / 10) (by omega) (by omega)
      cases hHead : (Nat.toDigits 10 (n / 10)).head? with
      | some c => rwa [hHead] at hRest
      | none => exact absurd (List.head?_eq_none_iff.mp hHead) Nat.toDigits_ne_nil

theorem natural_repr (n : Nat) : natural n.repr.toList = n := by
  rw [natural, Nat.toList_repr, Nat.ofDigitChars_ten_toDigits]

theorem repr_eq_cons (n : Nat) : ∃ c cs, n.repr.toList = c :: cs ∧ c.isDigit = true := by
  cases hChars : n.repr.toList with
  | nil => exact absurd (Nat.toList_repr ▸ hChars) Nat.toDigits_ne_nil
  | cons c cs => exact ⟨c, cs, rfl, isDigit_of_mem_repr (hChars ▸ List.mem_cons_self)⟩

theorem Ends.digits {rest : List Char} (h : Ends rest) : ∀ c ∈ rest.head?, c.isDigit = false :=
  fun c hc => (h c hc).1

theorem unsigned_repr (n : Nat) (sign : Nat → Int) {rest : List Char} (h : Ends rest) :
    exponent.unsigned (n.repr.toList ++ rest) sign = some (sign n, rest) := by
  rw [exponent.unsigned, digits_append (fun c => isDigit_of_mem_repr) h.digits]
  obtain ⟨c, cs, hChars, -⟩ := repr_eq_cons n
  rw [if_neg (by simp [hChars]), natural_repr]

theorem exponent_digit {c : Char} (hDigit : c.isDigit = true) (cs : List Char) :
    exponent ('e' :: c :: cs) = exponent.unsigned (c :: cs) Int.ofNat := by
  unfold exponent
  simp only [true_or, if_true]
  split
  · rename_i hCons
    injection hCons with hHead
    subst hHead
    cases hDigit
  · rename_i hCons
    injection hCons with hHead
    subst hHead
    cases hDigit
  · rfl

theorem exponent_toString (e : Int) {rest : List Char} (h : Ends rest) :
    exponent ('e' :: ((toString e).toList ++ rest)) = some (e, rest) := by
  cases e with
  | ofNat n =>
    change exponent ('e' :: (n.repr.toList ++ rest)) = _
    have hUnsigned := unsigned_repr n Int.ofNat h
    obtain ⟨c, cs, hChars, hDigit⟩ := repr_eq_cons n
    rw [hChars, List.cons_append] at hUnsigned ⊢
    rw [exponent_digit hDigit, hUnsigned]
  | negSucc n =>
    have hText : (toString (Int.negSucc n)).toList = '-' :: (n + 1).repr.toList := by
      change ("-" ++ (n + 1).repr).toList = _
      simp
    rw [hText]
    exact unsigned_repr (n + 1) (fun n => -(n : Int)) h

theorem repr_head {n : Nat} (h : n.repr.toList.head? = some '0') : n.repr.toList.length = 1 := by
  rcases Nat.eq_zero_or_pos n with rfl | hPos
  · rfl
  · exact absurd h (head_repr_ne hPos)

theorem number_repr (negative : Bool) (n : Nat) {rest : List Char}
    (hRest : ∀ c ∈ rest.head?, c.isDigit = false) :
    number ((if negative then ['-'] else []) ++ (n.repr.toList ++ rest)) =
      afterWhole negative n.repr.toList rest := by
  obtain ⟨c, cs, hChars, hDigit⟩ := repr_eq_cons n
  have hSign : (((if negative then ['-'] else []) ++ (n.repr.toList ++ rest)).head? == some '-') = negative := by
    cases negative with
    | true => rfl
    | false =>
      rw [hChars, beq_eq_false_iff_ne]
      rintro hHead
      cases Option.some.inj hHead
      cases hDigit
  have hTail : (if negative then ((if negative then ['-'] else []) ++ (n.repr.toList ++ rest)).tail
      else (if negative then ['-'] else []) ++ (n.repr.toList ++ rest)) = n.repr.toList ++ rest := by
    cases negative <;> rfl
  have hWhole : ¬ (n.repr.toList.isEmpty ∨ (n.repr.toList.head? = some '0' ∧ n.repr.toList.length ≠ 1)) := by
    rintro (hEmpty | ⟨hZero, hLong⟩)
    · simp [hChars] at hEmpty
    · exact hLong (repr_head hZero)
  unfold number
  simp only [hSign, hTail, digits_append (fun c => isDigit_of_mem_repr) hRest, if_neg hWhole]

theorem afterWhole_end (negative : Bool) (whole : List Char) {rest : List Char} (h : Ends rest) :
    afterWhole negative whole rest = some (integer negative (natural whole), rest) := by
  cases rest with
  | nil => rfl
  | cons c rest =>
    obtain ⟨-, hPoint, hLower, hUpper⟩ := h c rfl
    unfold afterWhole
    split
    · rename_i hCons
      injection hCons with hHead
      exact absurd hHead hPoint
    · rename_i hCons
      injection hCons with hHead hTail
      subst hHead hTail
      rw [if_neg (by simp [hLower, hUpper])]
    · rename_i hCons
      cases hCons

theorem number_integer (negative : Bool) (n : Nat) {rest : List Char} (h : Ends rest) :
    number ((if negative then ['-'] else []) ++ (n.repr.toList ++ rest)) =
      some (integer negative n, rest) := by
  rw [number_repr negative n h.digits, afterWhole_end negative _ h, natural_repr]

theorem number_decimal (negative : Bool) (n : Nat) (e : Int) {rest : List Char} (h : Ends rest) :
    number ((if negative then ['-'] else []) ++ (n.repr.toList ++ 'e' :: ((toString e).toList ++ rest))) =
      some (decimal negative n e, rest) := by
  rw [number_repr negative n (by simp), afterWhole]
  · rw [if_pos (.inl rfl), exponent_toString e h, natural_repr]
    rfl
  · simp

theorem number_chars (n : Number) {rest : List Char} (h : Ends rest) :
    number (numberChars n ++ rest) = some (n, rest) := by
  cases n with
  | posInt n =>
    have hInteger := number_integer false n.toNat h
    rw [if_neg (by simp), List.nil_append] at hInteger
    rw [numberChars, hInteger, integer, if_neg (by simp), if_pos n.toNat_lt]
    simp
  | negInt n =>
    have hInteger := number_integer true (n.val + 1) h
    rw [if_pos rfl] at hInteger
    have hFits : 0 < n.val + 1 ∧ n.val + 1 ≤ 2 ^ 63 := by omega
    rw [numberChars, List.cons_append, ← List.singleton_append, hInteger, integer, if_pos rfl, dif_pos hFits]
    rfl
  | float mantissa exponent =>
    have hText : numberChars (.float mantissa exponent) ++ rest =
        (if mantissa < 0 then ['-'] else []) ++
          (mantissa.natAbs.repr.toList ++ ('e' :: ((toString exponent).toList ++ rest))) := by
      cases mantissa with
      | ofNat m =>
        rw [if_neg (by simp)]
        change (m.repr ++ "e" ++ toString exponent).toList ++ rest = _
        simp
      | negSucc m =>
        rw [if_pos (Int.negSucc_lt_zero m)]
        change ("-" ++ (m + 1).repr ++ "e" ++ toString exponent).toList ++ rest = _
        simp
    have hRead := number_decimal (decide (mantissa < 0)) mantissa.natAbs exponent h
    simp only [decide_eq_true_eq] at hRead
    rw [hText, hRead, decimal]
    simp only [decide_eq_true_eq]
    congr 3
    split <;> omega

theorem numberChars_head (n : Number) :
    ∃ c cs, numberChars n = c :: cs ∧ (c.isDigit = true ∨ c = '-') := by
  cases n with
  | posInt n =>
    obtain ⟨c, cs, hChars, hDigit⟩ := repr_eq_cons n.toNat
    exact ⟨c, cs, hChars, .inl hDigit⟩
  | negInt n => exact ⟨'-', _, rfl, .inr rfl⟩
  | float mantissa exponent =>
    cases mantissa with
    | ofNat m =>
      obtain ⟨c, cs, hChars, hDigit⟩ := repr_eq_cons m
      refine ⟨c, cs ++ ('e' :: (toString exponent).toList), ?_, .inl hDigit⟩
      change (m.repr ++ "e" ++ toString exponent).toList = _
      simp [hChars]
    | negSucc m =>
      refine ⟨'-', (m + 1).repr.toList ++ ('e' :: (toString exponent).toList), ?_, .inr rfl⟩
      change ("-" ++ (m + 1).repr ++ "e" ++ toString exponent).toList = _
      simp

theorem ne_of_start {c d : Char} (h : c.isDigit = true ∨ c = '-') (hDigit : d.isDigit = false)
    (hSign : d ≠ '-') : c ≠ d := by
  rintro rfl
  rcases h with h | rfl
  · rw [hDigit] at h
    cases h
  · exact hSign rfl

theorem isSpace_of_start {c : Char} (h : c.isDigit = true ∨ c = '-') : isSpace c = false := by
  simp [isSpace, ne_of_start h]

theorem chars_head (j : Json) : ∃ c cs, chars j = c :: cs ∧ isSpace c = false ∧ c ≠ ']' := by
  cases j with
  | null => exact ⟨_, _, by rw [chars], by decide, by decide⟩
  | bool b => cases b <;> exact ⟨_, _, by rw [chars], by decide, by decide⟩
  | num n =>
    obtain ⟨c, cs, hChars, hStart⟩ := numberChars_head n
    exact ⟨c, cs, by rw [chars, hChars], isSpace_of_start hStart, ne_of_start hStart (by decide) (by decide)⟩
  | str s => exact ⟨'"', _, by rw [chars, quote, List.cons_append], by decide, by decide⟩
  | arr items =>
    cases items with
    | nil => exact ⟨_, _, by rw [chars], by decide, by decide⟩
    | cons j js => exact ⟨_, _, by rw [chars, List.cons_append], by decide, by decide⟩
  | obj fields =>
    cases fields with
    | nil => exact ⟨_, _, by rw [chars], by decide, by decide⟩
    | cons f fs => exact ⟨'{', _, by rw [chars, List.cons_append, List.cons_append], by decide, by decide⟩

theorem write_ne_empty (j : Json) : write j ≠ "" := by
  intro h
  obtain ⟨c, cs, hChars, -⟩ := chars_head j
  rw [write, hChars] at h
  exact absurd (congrArg String.length h) (by simp)

theorem value_string (fuel : Nat) (s : String) (rest : List Char) :
    value (fuel + 1) (quote s ++ rest) = some (.str s, rest) := by
  rw [quote, List.append_assoc, List.cons_append, value, skipSpace_cons (by decide)]
  simp only [List.singleton_append]
  rw [string_quoted]
  simp

theorem field_quoted {fuel : Nat} {k : String} {v : Json} {text rest : List Char}
    (h : value fuel text = some (v, rest)) :
    field (fuel + 1) (quote k ++ ':' :: text) = some ((k, v), rest) := by
  rw [quote, List.append_assoc, List.cons_append, field, skipSpace_cons (by decide)]
  simp only [List.singleton_append]
  rw [string_quoted]
  simp only [Option.bind_eq_bind, Option.bind_some]
  rw [skipSpace_cons (by decide)]
  simp [h]

theorem value_items {fuel : Nat} {c : Char} {cs : List Char} (hSpace : isSpace c = false)
    (hClose : c ≠ ']') :
    value (fuel + 1) ('[' :: c :: cs) = (do
      let (j, rest) ← value fuel (c :: cs)
      let (js, rest) ← moreItems fuel rest
      return (.arr (j :: js), rest)) := by
  rw [value, skipSpace_cons (by decide)]
  simp only
  rw [skipSpace_cons hSpace]
  split
  · rename_i hCons
    injection hCons with hHead
    exact absurd hHead hClose
  · rfl

theorem value_fields {fuel : Nat} {cs : List Char} :
    value (fuel + 1) ('{' :: '"' :: cs) = (do
      let (f, rest) ← field fuel ('"' :: cs)
      let (fs, rest) ← moreFields fuel rest
      return (.obj (f :: fs), rest)) := by
  rw [value, skipSpace_cons (by decide)]
  simp only
  rw [skipSpace_cons (by decide)]
  rfl

theorem value_number (fuel : Nat) (n : Number) {rest : List Char} (h : Ends rest) :
    value (fuel + 1) (numberChars n ++ rest) = some (.num n, rest) := by
  have hNumber := number_chars n h
  obtain ⟨c, cs, hChars, hStart⟩ := numberChars_head n
  rw [hChars, List.cons_append] at hNumber ⊢
  rw [value, skipSpace_cons (isSpace_of_start hStart)]
  split
  case h_7 => rw [hNumber, Option.map_some]
  all_goals
    rename_i hCons
    injection hCons with hHead
    exact absurd hHead (ne_of_start hStart (by decide) (by decide))

theorem ends_moreItemsChars (js : List Json) (rest : List Char) : Ends (moreItemsChars js ++ rest) := by
  cases js <;> simp [Ends, moreItemsChars]

theorem ends_moreFieldsChars (fs : List (String × Json)) (rest : List Char) :
    Ends (moreFieldsChars fs ++ rest) := by
  cases fs <;> simp [Ends, moreFieldsChars]

mutual
theorem value_chars (j : Json) (fuel : Nat) (hFuel : (chars j).length ≤ fuel) {rest : List Char}
    (hRest : Ends rest) : value fuel (chars j ++ rest) = some (j, rest) := by
  obtain ⟨first, others, hFirst, -, -⟩ := chars_head j
  obtain ⟨fuel, rfl⟩ : ∃ n, fuel = n + 1 := by
    rw [hFirst, List.length_cons] at hFuel
    exact ⟨fuel - 1, by omega⟩
  match j with
  | .num n =>
    rw [chars]
    exact value_number fuel n hRest
  | .null =>
    rw [chars, value, List.cons_append, skipSpace_cons (by decide)]
    rfl
  | .bool true =>
    rw [chars, value, List.cons_append, skipSpace_cons (by decide)]
    rfl
  | .bool false =>
    rw [chars, value, List.cons_append, skipSpace_cons (by decide)]
    rfl
  | .str s =>
    rw [chars]
    exact value_string fuel s rest
  | .arr [] =>
    rw [chars, value, List.cons_append, skipSpace_cons (by decide)]
    rfl
  | .arr (j :: js) =>
    rw [chars, List.cons_append, List.length_cons, List.length_append] at hFuel
    have hItem := value_chars j fuel (by omega) (ends_moreItemsChars js rest)
    have hItems := moreItems_chars js fuel (by omega) rest
    obtain ⟨c, cs, hChars, hSpace, hClose⟩ := chars_head j
    rw [hChars, List.cons_append] at hItem
    have hText : chars (.arr (j :: js)) ++ rest = '[' :: c :: (cs ++ (moreItemsChars js ++ rest)) := by
      simp [chars, hChars]
    rw [hText, value_items hSpace hClose, hItem]
    simp [hItems]
  | .obj [] =>
    rw [chars, value, List.cons_append, skipSpace_cons (by decide)]
    rfl
  | .obj ((k, v) :: fs) =>
    simp only [chars, List.length_append, List.length_cons] at hFuel
    have hQuote : 2 ≤ (quote k).length := by simp [quote]
    obtain ⟨fuel, rfl⟩ : ∃ n, fuel = n + 1 := ⟨fuel - 1, by omega⟩
    have hValue := value_chars v fuel (by omega) (ends_moreFieldsChars fs rest)
    have hFields := moreFields_chars fs (fuel + 1) (by omega) rest
    have hField := field_quoted (k := k) hValue
    have hText : chars (.obj ((k, v) :: fs)) ++ rest = '{' :: '"' ::
        (k.toList.flatMap escape ++ '"' :: ':' :: (chars v ++ (moreFieldsChars fs ++ rest))) := by
      simp [chars, quote]
    have hQuoted : quote k ++ ':' :: (chars v ++ (moreFieldsChars fs ++ rest)) = '"' ::
        (k.toList.flatMap escape ++ '"' :: ':' :: (chars v ++ (moreFieldsChars fs ++ rest))) := by
      simp [quote]
    rw [hQuoted] at hField
    rw [hText, value_fields, hField]
    simp [hFields]

theorem moreItems_chars (js : List Json) (fuel : Nat)
    (hFuel : (moreItemsChars js).length ≤ fuel) (rest : List Char) :
    moreItems fuel (moreItemsChars js ++ rest) = some (js, rest) := by
  match js with
  | [] =>
    obtain ⟨fuel, rfl⟩ : ∃ n, fuel = n + 1 := by
      rw [moreItemsChars, List.length_singleton] at hFuel
      exact ⟨fuel - 1, by omega⟩
    rw [moreItemsChars, moreItems, List.cons_append, skipSpace_cons (by decide)]
    rfl
  | j :: js =>
    rw [moreItemsChars, List.cons_append, List.length_cons, List.length_append] at hFuel
    obtain ⟨fuel, rfl⟩ : ∃ n, fuel = n + 1 := ⟨fuel - 1, by omega⟩
    have hItem := value_chars j fuel (by omega) (ends_moreItemsChars js rest)
    have hItems := moreItems_chars js fuel (by omega) rest
    rw [moreItemsChars, moreItems, List.cons_append, List.cons_append, skipSpace_cons (by decide)]
    simp only [List.append_assoc]
    rw [hItem]
    simp [hItems]

theorem moreFields_chars (fs : List (String × Json)) (fuel : Nat)
    (hFuel : (moreFieldsChars fs).length ≤ fuel) (rest : List Char) :
    moreFields fuel (moreFieldsChars fs ++ rest) = some (fs, rest) := by
  match fs with
  | [] =>
    obtain ⟨fuel, rfl⟩ : ∃ n, fuel = n + 1 := by
      rw [moreFieldsChars, List.length_singleton] at hFuel
      exact ⟨fuel - 1, by omega⟩
    rw [moreFieldsChars, moreFields, List.cons_append, skipSpace_cons (by decide)]
    rfl
  | (k, v) :: fs =>
    simp only [moreFieldsChars, List.length_append, List.length_cons] at hFuel
    have hQuote : 2 ≤ (quote k).length := by simp [quote]
    obtain ⟨fuel, rfl⟩ : ∃ n, fuel = n + 2 := ⟨fuel - 2, by omega⟩
    have hValue := value_chars v fuel (by omega) (ends_moreFieldsChars fs rest)
    have hFields := moreFields_chars fs (fuel + 1) (by omega) rest
    have hField := field_quoted (k := k) hValue
    have hText : moreFieldsChars ((k, v) :: fs) ++ rest =
        ',' :: (quote k ++ ':' :: (chars v ++ (moreFieldsChars fs ++ rest))) := by
      simp [moreFieldsChars]
    rw [hText, moreFields, skipSpace_cons (by decide)]
    simp only
    rw [hField]
    simp [hFields]
end

theorem read_write (j : Json) : read (write j) = some j := by
  have hEnds : Ends [] := by simp [Ends]
  have hValue := value_chars j (chars j).length (le_refl _) hEnds
  rw [List.append_nil] at hValue
  simp [read, write, hValue, skipSpace]

end AffinidiMessaging.JsonText
