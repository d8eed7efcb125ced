import AffinidiMessaging.Library.Fallible
import AffinidiMessaging.Library.Text

/-! # The Redis commands a script issues

A keyspace over an arbitrary type of keys. Every command either is accepted, or
is rejected and leaves the keyspace as it was; a script that is stopped by a
rejected command keeps the writes it made before.
-/

namespace AffinidiMessaging.Redis

open Text Fallible

structure StreamId where
  ms : Nat
  seq : Nat
  ms_lt : ms < 2 ^ 64 := by decide
  seq_lt : seq < 2 ^ 64 := by decide
deriving DecidableEq, Repr

namespace StreamId

instance : LT StreamId := ⟨fun a b => a.ms < b.ms ∨ (a.ms = b.ms ∧ a.seq < b.seq)⟩

theorem lt_iff (a b : StreamId) : a < b ↔ a.ms < b.ms ∨ (a.ms = b.ms ∧ a.seq < b.seq) := Iff.rfl

instance (a b : StreamId) : Decidable (a < b) := inferInstanceAs (Decidable (_ ∨ _))

theorem lt_trans {a b c : StreamId} (hab : a < b) (hbc : b < c) : a < c := by
  rw [lt_iff] at *
  omega

theorem lt_asymm {a b : StreamId} (h : a < b) : ¬ b < a := by
  rw [lt_iff] at *
  omega

theorem lt_of_not_lt_of_lt {a b c : StreamId} (hab : ¬ b < a) (hbc : b < c) : a < c := by
  rw [lt_iff] at *
  omega

theorem ne_of_lt {a b : StreamId} (h : a < b) : a ≠ b := by
  rintro rfl
  rw [lt_iff] at h
  omega

def text (id : StreamId) : String := id.ms.repr ++ String.ofList ('-' :: id.seq.repr.toList)

def zero : StreamId := { ms := 0, seq := 0 }

def ofNats (ms seq : Nat) : Option StreamId :=
  if h : ms < 2 ^ 64 ∧ seq < 2 ^ 64 then some ⟨ms, seq, h.1, h.2⟩ else none

def parse (s : String) : Option StreamId :=
  match splitOnce '-' s with
  | some (ms, seq) => (parseNat ms).bind fun m => (parseNat seq).bind fun n => ofNats m n
  | none => (parseNat s).bind fun m => ofNats m 0

@[simp] theorem parse_text (id : StreamId) : parse id.text = some id := by
  have hDash : '-' ∉ id.ms.repr.toList := by
    intro h
    rw [Nat.toList_repr] at h
    have := Nat.isDigit_of_mem_toDigits (by decide) (by decide) h
    simp at this
  have hNats : ofNats id.ms id.seq = some id := dif_pos ⟨id.ms_lt, id.seq_lt⟩
  rw [parse, text, splitOnce_append _ _ _ hDash]
  simp [hNats]

theorem text_injective {a b : StreamId} (h : a.text = b.text) : a = b := by
  have := congrArg parse h
  simpa using this

end StreamId

abbrev Fields := List (String × String)

/-- Set one field: in its place when it is there, else at the end. -/
def setField (f v : String) : Fields → Fields
  | [] => [(f, v)]
  | (g, w) :: rest => if g = f then (f, v) :: rest else (g, w) :: setField f v rest

theorem lookup_setField (f v g : String) (fields : Fields) :
    (setField f v fields).lookup g = if g = f then some v else fields.lookup g := by
  induction fields with
  | nil => by_cases h : g = f <;> simp [setField, List.lookup, h]
  | cons entry rest ih =>
    obtain ⟨k, w⟩ := entry
    by_cases hk : k = f
    · subst hk
      by_cases hg : g = k
      · simp [setField, hg]
      · simp [setField, List.lookup_cons, hg, beq_eq_false_iff_ne.mpr hg]
    · by_cases hg : g = k
      · subst hg
        simp [setField, hk]
      · simp [setField, hk, List.lookup_cons, ih, beq_eq_false_iff_ne.mpr hg]

@[simp] theorem lookup_setField_self (f v : String) (fields : Fields) :
    (setField f v fields).lookup f = some v := by
  simp [lookup_setField]

@[simp] theorem lookup_setField_of_ne {f g : String} (h : g ≠ f) (v : String) (fields : Fields) :
    (setField f v fields).lookup g = fields.lookup g := by
  simp [lookup_setField, h]

theorem setField_of_lookup {f v : String} {fields : Fields} (h : fields.lookup f = some v) :
    setField f v fields = fields := by
  induction fields with
  | nil => simp at h
  | cons entry rest ih =>
    obtain ⟨k, w⟩ := entry
    by_cases hk : k = f
    · subst hk
      simp at h
      simp [setField, h]
    · rw [List.lookup_cons, beq_eq_false_iff_ne.mpr (Ne.symm hk)] at h
      simp [setField, hk, ih h]

def setFields (pairs : Fields) (fields : Fields) : Fields :=
  pairs.foldl (fun acc p => setField p.1 p.2 acc) fields

theorem mem_keys_setField {f v g : String} {fields : Fields} :
    g ∈ (setField f v fields).map Prod.fst ↔ g = f ∨ g ∈ fields.map Prod.fst := by
  induction fields with
  | nil => simp [setField]
  | cons entry rest ih =>
    obtain ⟨k, w⟩ := entry
    by_cases hk : k = f
    · simp [setField, hk]
    · simp only [setField, if_neg hk, List.map_cons, List.mem_cons, ih]
      tauto

theorem nodup_setField {f v : String} {fields : Fields} (h : (fields.map Prod.fst).Nodup) :
    ((setField f v fields).map Prod.fst).Nodup := by
  induction fields with
  | nil => simp [setField]
  | cons entry rest ih =>
    obtain ⟨k, w⟩ := entry
    rw [List.map_cons, List.nodup_cons] at h
    by_cases hk : k = f
    · subst hk
      simp only [setField, if_pos, List.map_cons, List.nodup_cons]
      exact h
    · simp only [setField, if_neg hk, List.map_cons, List.nodup_cons, mem_keys_setField]
      refine ⟨?_, ih h.2⟩
      rintro (hEq | hMem)
      · exact hk hEq
      · exact h.1 hMem

theorem nodup_setFields {pairs fields : Fields} (h : (fields.map Prod.fst).Nodup) :
    ((setFields pairs fields).map Prod.fst).Nodup := by
  unfold setFields
  induction pairs generalizing fields with
  | nil => exact h
  | cons p rest ih => exact ih (nodup_setField h)

theorem foldl_keeps {σ β α : Type} {step : σ → α → σ} {place : σ → β}
    (h : ∀ s a, place (step s a) = place s) (items : List α) (s : σ) :
    place (items.foldl step s) = place s := by
  induction items generalizing s with
  | nil => rfl
  | cons a rest ih => rw [List.foldl_cons, ih, h]

/-- A reply read field by field into a record: what the record has in one place comes from the field
that names the place, if the reply has it. -/
theorem foldl_fields {σ β : Type} {step : σ → String × String → σ} {place : σ → β} {f : String}
    {read : String → β} (hSelf : ∀ s v, place (step s (f, v)) = read v)
    (hOther : ∀ s g v, g ≠ f → place (step s (g, v)) = place s) {fields : Fields}
    (h : (fields.map Prod.fst).Nodup) (s : σ) :
    place (fields.foldl step s) = (fields.lookup f).elim (place s) read := by
  induction fields generalizing s with
  | nil => rfl
  | cons p rest ih =>
    obtain ⟨k, v⟩ := p
    rw [List.map_cons, List.nodup_cons] at h
    rw [List.foldl_cons, ih h.2]
    by_cases hk : k = f
    · subst hk
      have hRest : rest.lookup k = none := by
        rw [List.lookup_eq_none_iff]
        intro p hp
        have hNe : p.1 ≠ k := fun hEq => h.1 (List.mem_map.mpr ⟨p, hp, hEq⟩)
        simpa using hNe.symm
      rw [hRest, List.lookup_cons_self]
      exact hSelf s v
    · have hNe : (f == k) = false := by simpa using Ne.symm hk
      rw [List.lookup_cons, hNe, hOther s k v hk]

structure StreamEntry where
  id : StreamId
  fields : Fields
deriving DecidableEq

/-- A stream keeps its last generated id when entries are deleted. -/
structure Stream where
  lastId : StreamId
  entries : List StreamEntry
deriving DecidableEq

inductive Value
  | string (text : String)
  | list (items : List String)
  | hash (fields : Fields)
  | stream (s : Stream)
  | set (members : List String)
deriving DecidableEq

inductive RedisError
  | wrongType
  | notAnInteger
  | hashValueNotAnInteger
  | overflow
  | invalidStreamId
  | idTooSmall
  | sequenceExhausted
  | wrongArity
  | reply (text : String)
  | script (text : String)
deriving DecidableEq, Repr

abbrev Keyspace (K : Type) := K → Option Value

abbrev Command (K α : Type) := EStateM RedisError (Keyspace K) α

variable {K α : Type}

def asString : Option Value → Except RedisError (Option String)
  | none => .ok none
  | some (.string s) => .ok (some s)
  | some _ => .error .wrongType

def asList : Option Value → Except RedisError (List String)
  | none => .ok []
  | some (.list xs) => .ok xs
  | some _ => .error .wrongType

def asHash : Option Value → Except RedisError Fields
  | none => .ok []
  | some (.hash fields) => .ok fields
  | some _ => .error .wrongType

@[simp] theorem asHash_hash (fields : Fields) : asHash (some (.hash fields)) = .ok fields := rfl

/-- A missing stream starts at id 0-0. -/
def asStream : Option Value → Except RedisError Stream
  | none => .ok ⟨.zero, []⟩
  | some (.stream s) => .ok s
  | some _ => .error .wrongType

@[simp] theorem asStream_stream (s : Stream) : asStream (some (.stream s)) = .ok s := rfl

/-- A command that only reads one key. -/
def ofKey (k : K) (f : Option Value → Except RedisError α) : Command K α := fun db =>
  match f (db k) with
  | .ok a => .ok a db
  | .error e => .error e db

theorem ofKey_ok_iff (k : K) (f : Option Value → Except RedisError α) (db db' : Keyspace K) (a : α) :
    ofKey k f db = .ok a db' ↔ f (db k) = .ok a ∧ db' = db := by
  unfold ofKey
  cases h : f (db k) with
  | ok b => simp [eq_comm]
  | error e => simp

theorem keeps_ofKey {I : Keyspace K → Prop} (k : K) (f : Option Value → Except RedisError α) :
    Keeps I (ofKey k f) := by
  intro db hdb
  unfold ofKey
  cases f (db k) with
  | ok a =>
    constructor
    · rintro b db' h
      cases h
      exact hdb
    · rintro e db' h
      cases h
  | error e =>
    constructor
    · rintro b db' h
      cases h
    · rintro e db' h
      cases h
      exact hdb

theorem ofKey_error_iff (k : K) (f : Option Value → Except RedisError α) (db db' : Keyspace K)
    (e : RedisError) : ofKey k f db = .error e db' ↔ f (db k) = .error e ∧ db' = db := by
  unfold ofKey
  cases h : f (db k) with
  | ok b => simp
  | error e' => simp [eq_comm]

/-- EXEC runs every queued command; the client sees an error if one of them failed. -/
def exec : List (Command K Unit) → Command K Unit
  | [] => pure ()
  | c :: cs => fun db =>
    match c db with
    | .ok _ db' => exec cs db'
    | .error e db' =>
      match exec cs db' with
      | .ok _ db'' => .error e db''
      | .error _ db'' => .error e db''

/-- A command queued after MULTI; one with too few arguments discards the transaction. -/
inductive Queued (K : Type)
  | command (c : Command K Unit)
  | malformed

def multi (queue : List (Queued K)) : Command K Unit :=
  match queue.mapM (fun | .command c => some c | .malformed => none) with
  | some cs => exec cs
  | none => throw .wrongArity

/-- The server takes the command in this state. -/
def accepts (c : Command K α) (db : Keyspace K) : Bool :=
  match c db with
  | .ok _ _ => true
  | .error _ _ => false

theorem accepts_iff (c : Command K α) (db : Keyspace K) :
    accepts c db = true ↔ ∃ a db', c db = .ok a db' := by
  unfold accepts
  split <;> simp_all

theorem accepts_eq_false_iff (c : Command K α) (db : Keyspace K) :
    accepts c db = false ↔ ∃ e db', c db = .error e db' := by
  unfold accepts
  split <;> simp_all

/-- A sequence is accepted when its parts are, if the first does not decide about the rest. -/
theorem accepts_bind {β : Type} {c : Command K α} {f : α → Command K β} {db : Keyspace K}
    (rest : Keyspace K → Bool) (hRest : ∀ a db', c db = .ok a db' → accepts (f a) db' = rest db) :
    accepts (c >>= f) db = (accepts c db && rest db) := by
  cases hRun : c db with
  | ok a db' =>
    have hc : accepts c db = true := (accepts_iff c db).mpr ⟨a, db', hRun⟩
    rw [hc, Bool.true_and, ← hRest a db' hRun]
    unfold accepts
    rw [bind_of_ok hRun]
  | error e db' =>
    have hc : accepts c db = false := (accepts_eq_false_iff c db).mpr ⟨e, db', hRun⟩
    rw [hc, Bool.false_and]
    exact (accepts_eq_false_iff _ db).mpr ⟨e, db', bind_of_error hRun⟩

/-- Every failing run from `start` ends in `db`. -/
def FailsInto (c : Command K α) (start db : Keyspace K) : Prop :=
  ∀ e db', c start = .error e db' → db' = db

namespace FailsInto

variable {β : Type} {c : Command K α} {f : α → Command K β} {start s db : Keyspace K}

theorem iff_of_error {e : RedisError} (h : c start = .error e s) :
    FailsInto c start db ↔ s = db := by
  constructor
  · intro hc
    exact hc e s h
  · rintro rfl e' db' h'
    rw [h] at h'
    cases h'
    rfl

theorem of_accepts (h : accepts c start = true) : FailsInto c start db := by
  obtain ⟨a, s, hRun⟩ := (accepts_iff c start).mp h
  intro e db' hError
  rw [hRun] at hError
  cases hError

theorem bind_iff_of_ok {a : α} (h : c start = .ok a s) :
    FailsInto (c >>= f) start db ↔ FailsInto (f a) s db := by
  unfold FailsInto
  rw [bind_of_ok h]

theorem bind_iff_of_error {e : RedisError} (h : c start = .error e s) :
    FailsInto (c >>= f) start db ↔ s = db :=
  iff_of_error (bind_of_error h)

end FailsInto

/-- The value at `k` is the same before and after, whether the command is accepted or not. -/
def Untouched (k : K) (c : Command K α) : Prop :=
  ∀ v, Keeps (fun db => db k = v) c

namespace Untouched

variable {β : Type} {k : K}

theorem bind {c : Command K α} {f : α → Command K β} (hc : Untouched k c)
    (hf : ∀ a, Untouched k (f a)) : Untouched k (c >>= f) := fun v =>
  (hc v).bind fun a => hf a v

theorem pure (a : α) : Untouched k (Pure.pure a : Command K α) := fun _ => Triple.pure fun _ => id

theorem of_error {c : Command K α} (h : Untouched k c) {db db' : Keyspace K} {e : RedisError}
    (hRun : c db = .error e db') : db' k = db k :=
  (h (db k) db rfl).2 e db' hRun

theorem of_ok {c : Command K α} (h : Untouched k c) {db db' : Keyspace K} {a : α}
    (hRun : c db = .ok a db') : db' k = db k :=
  (h (db k) db rfl).1 a db' hRun

end Untouched

/-- The text of one field of a hash. -/
def field (db : Keyspace K) (k : K) (f : String) : Option String :=
  match db k with
  | some (.hash fields) => fields.lookup f
  | _ => none

theorem lookup_of_asHash {db : Keyspace K} {k : K} {fields : Fields} (h : asHash (db k) = .ok fields)
    (f : String) : fields.lookup f = field db k f := by
  unfold field
  cases hk : db k with
  | none => simp_all [asHash]
  | some v => cases v <;> simp_all [asHash]

theorem eq_hash_of_lookup {db : Keyspace K} {k : K} {fields : Fields} {f v : String}
    (h : asHash (db k) = .ok fields) (hField : fields.lookup f = some v) : db k = some (.hash fields) := by
  cases hk : db k with
  | none =>
    rw [hk] at h
    cases h
    cases hField
  | some w =>
    rw [hk] at h
    cases w with
    | hash fields' =>
      cases h
      rfl
    | _ => cases h

theorem field_eq_some_iff {db : Keyspace K} {k : K} {f v : String} :
    field db k f = some v ↔ ∃ fields, db k = some (.hash fields) ∧ fields.lookup f = some v := by
  unfold field
  split <;> simp_all

theorem field_congr {db db' : Keyspace K} {k : K} (h : db k = db' k) (f : String) :
    field db k f = field db' k f := by
  rw [field, h, field]

/-- The number a field of a hash counts; a field that is not there counts nothing. -/
def counter (db : Keyspace K) (k : K) (f : String) : Int :=
  (parseI64 ((field db k f).getD "0")).getD 0

theorem counter_congr {db db' : Keyspace K} {k : K} {f : String}
    (h : field db k f = field db' k f) : counter db k f = counter db' k f := by
  rw [counter, h, counter]

/-- The entries of a stream. -/
def entriesAt (db : Keyspace K) (k : K) : List StreamEntry :=
  match db k with
  | some (.stream s) => s.entries
  | _ => []

def lastIdAt (db : Keyspace K) (k : K) : StreamId :=
  match db k with
  | some (.stream s) => s.lastId
  | _ => .zero

theorem lastId_of_asStream {db : Keyspace K} {k : K} {s : Stream} (h : asStream (db k) = .ok s) :
    s.lastId = lastIdAt db k := by
  unfold lastIdAt
  cases hk : db k with
  | none =>
    rw [hk] at h
    cases h
    rfl
  | some v => cases v <;> simp_all [asStream]

theorem lastIdAt_congr {db db' : Keyspace K} {k : K} (h : db k = db' k) :
    lastIdAt db k = lastIdAt db' k := by
  rw [lastIdAt, h, lastIdAt]

theorem entries_of_asStream {db : Keyspace K} {k : K} {s : Stream} (h : asStream (db k) = .ok s) :
    s.entries = entriesAt db k := by
  unfold entriesAt
  cases hk : db k with
  | none =>
    rw [hk] at h
    cases h
    rfl
  | some v => cases v <;> simp_all [asStream]

theorem entriesAt_congr {db db' : Keyspace K} {k : K} (h : db k = db' k) :
    entriesAt db k = entriesAt db' k := by
  rw [entriesAt, h, entriesAt]

variable [DecidableEq K]

/-- A command that rewrites the value of one key. -/
def atKey (k : K) (f : Option Value → Except RedisError (Value × α)) : Command K α := fun db =>
  match f (db k) with
  | .ok (v, a) => .ok a (Function.update db k (some v))
  | .error e => .error e db

theorem atKey_ok_iff (k : K) (f : Option Value → Except RedisError (Value × α))
    (db db' : Keyspace K) (a : α) :
    atKey k f db = .ok a db' ↔ ∃ v, f (db k) = .ok (v, a) ∧ db' = Function.update db k (some v) := by
  unfold atKey
  cases h : f (db k) with
  | ok p =>
    obtain ⟨v, b⟩ := p
    constructor
    · intro hRun
      cases hRun
      exact ⟨v, rfl, rfl⟩
    · rintro ⟨w, hEq, rfl⟩
      cases hEq
      rfl
  | error e => simp

theorem atKey_error_iff (k : K) (f : Option Value → Except RedisError (Value × α))
    (db db' : Keyspace K) (e : RedisError) :
    atKey k f db = .error e db' ↔ f (db k) = .error e ∧ db' = db := by
  unfold atKey
  cases h : f (db k) with
  | ok p => simp
  | error e' => simp [eq_comm]

def set (k : K) (text : String) : Command K Unit := atKey k fun _ => .ok (.string text, ())

def get (k : K) : Command K (Option String) := ofKey k asString

def del (k : K) : Command K Unit := modify fun db => Function.update db k none

def rpush (k : K) (item : String) : Command K Unit :=
  atKey k fun v => do
    let xs ← asList v
    return (.list (xs ++ [item]), ())

def hgetall (k : K) : Command K Fields := ofKey k asHash

def hmset (k : K) (pairs : Fields) : Command K Unit :=
  atKey k fun v => do
    let fields ← asHash v
    return (.hash (setFields pairs fields), ())

/-- The value a field holds after HINCRBY. -/
def incremented (fields : Fields) (f increment : String) : Except RedisError Int := do
  let n ← okOr (parseI64 increment) .notAnInteger
  let m ← okOr (parseI64 ((fields.lookup f).getD "0")) .hashValueNotAnInteger
  if inI64 (m + n) then .ok (m + n) else .error .overflow

def hincrby (k : K) (f increment : String) : Command K Unit :=
  atKey k fun v => do
    let fields ← asHash v
    let n ← incremented fields f increment
    return (.hash (setField f (toString n) fields), ())

/-- The id XADD gives an entry added under `<ms>-*`. -/
def nextId (last : StreamId) (ms : Fin (2 ^ 64)) : Except RedisError StreamId :=
  if last.ms < ms then .ok ⟨ms, 0, ms.isLt, by decide⟩
  else if ms < last.ms then .error .idTooSmall
  else if h : last.seq + 1 < 2 ^ 64 then .ok ⟨ms, last.seq + 1, ms.isLt, h⟩
  else .error .sequenceExhausted

def streamMs (ms : String) : Except RedisError (Fin (2 ^ 64)) :=
  match parseNat ms with
  | some n => if h : n < 2 ^ 64 then .ok ⟨n, h⟩ else .error .invalidStreamId
  | none => .error .invalidStreamId

/-- XADD with the id `<ms>-*`; answers the text of the id. -/
def xadd (k : K) (ms : String) (fields : Fields) : Command K String :=
  atKey k fun v => do
    let s ← asStream v
    let ms ← streamMs ms
    let id ← nextId s.lastId ms
    return (.stream ⟨id, s.entries ++ [⟨id, fields⟩]⟩, id.text)

def Stream.without (s : Stream) (id : StreamId) : Stream :=
  { s with entries := s.entries.filter (·.id ≠ id) }

def xdel (k : K) (id : String) : Command K Unit := fun db =>
  match db k with
  | none => .ok () db
  | some (.stream s) =>
    match StreamId.parse id with
    | some id => .ok () (Function.update db k (some (.stream (s.without id))))
    | none => .error .invalidStreamId db
  | some _ => .error .wrongType db

/-- The start of a range: `-`, an id, or an id with `(` before it that is left out. -/
def fromStart (start : String) (entries : List StreamEntry) :
    Except RedisError (List StreamEntry) :=
  if start = "-" then .ok entries
  else match start.toList with
    | '(' :: id => (okOr (StreamId.parse (String.ofList id)) .invalidStreamId).map fun id =>
      entries.filter (id < ·.id)
    | _ => (okOr (StreamId.parse start) .invalidStreamId).map fun id =>
      entries.filter (fun e => ¬ e.id < id)

/-- XRANGE up to the end with a COUNT; where there is a stream, a count of zero or less answers null. -/
def xrange (k : K) (start count : String) : Command K (Option (List StreamEntry)) :=
  ofKey k fun v => do
    let n ← okOr (parseI64 count) .notAnInteger
    let s ← asStream v
    let entries ← fromStart start s.entries
    return if v.isSome ∧ n ≤ 0 then none else some (entries.take n.toNat)

theorem accepts_atKey_congr {k : K} {f : Option Value → Except RedisError (Value × α)}
    {db db' : Keyspace K} (h : db' k = db k) : accepts (atKey k f) db' = accepts (atKey k f) db := by
  unfold accepts atKey
  rw [h]
  cases f (db k) <;> rfl

theorem Untouched.atKey {k k' : K} {f : Option Value → Except RedisError (Value × α)} (h : k ≠ k') :
    Untouched k (atKey k' f) := by
  intro v db hv
  constructor
  · intro a db' hRun
    obtain ⟨w, -, rfl⟩ := (atKey_ok_iff k' f db db' a).mp hRun
    rw [Function.update_of_ne h]
    exact hv
  · intro e db' hRun
    obtain ⟨-, rfl⟩ := (atKey_error_iff k' f db db' e).mp hRun
    exact hv

theorem Untouched.hincrby {k k' : K} (h : k ≠ k') (f increment : String) :
    Untouched k (hincrby k' f increment) :=
  .atKey h

theorem Untouched.set {k k' : K} (h : k ≠ k') (text : String) : Untouched k (set k' text) :=
  .atKey h

theorem Untouched.rpush {k k' : K} (h : k ≠ k') (item : String) : Untouched k (rpush k' item) :=
  .atKey h

theorem Untouched.xdel {k k' : K} (h : k ≠ k') (id : String) : Untouched k (xdel k' id) := by
  intro v db hv
  constructor
  · intro u db' hRun
    unfold Redis.xdel at hRun
    split at hRun
    · cases hRun
      exact hv
    · split at hRun <;> cases hRun
      rw [Function.update_of_ne h]
      exact hv
    · cases hRun
  · intro e db' hRun
    unfold Redis.xdel at hRun
    split at hRun
    · cases hRun
    · split at hRun <;> cases hRun
      exact hv
    · cases hRun
      exact hv

theorem Untouched.del {k k' : K} (h : k ≠ k') : Untouched k (del k' : Command K Unit) := by
  intro v db hv
  constructor
  · rintro u db' hRun
    cases hRun
    exact (Function.update_of_ne h _ _).trans hv
  · rintro e db' hRun
    cases hRun

theorem Untouched.hmset {k k' : K} (h : k ≠ k') (pairs : Fields) : Untouched k (hmset k' pairs) :=
  .atKey h

theorem Untouched.xadd {k k' : K} (h : k ≠ k') (ms : String) (fields : Fields) :
    Untouched k (xadd k' ms fields) :=
  .atKey h

theorem field_update (db : Keyspace K) (k k' : K) (fields : Fields) (f : String) :
    field (Function.update db k (some (.hash fields))) k' f =
      if k' = k then fields.lookup f else field db k' f := by
  unfold field
  by_cases h : k' = k
  · subst h
    simp
  · simp [h]

theorem entriesAt_update (db : Keyspace K) (k k' : K) (s : Stream) :
    entriesAt (Function.update db k (some (.stream s))) k' =
      if k' = k then s.entries else entriesAt db k' := by
  unfold entriesAt
  by_cases h : k' = k
  · subst h
    simp
  · simp [h]

theorem set_ok_iff (k : K) (text : String) (db db' : Keyspace K) (u : Unit) :
    set k text db = .ok u db' ↔ db' = Function.update db k (some (.string text)) := by
  simp [set, atKey_ok_iff]

theorem rpush_ok_iff (k : K) (item : String) (db db' : Keyspace K) (u : Unit) :
    rpush k item db = .ok u db' ↔
      ∃ xs, asList (db k) = .ok xs ∧ db' = Function.update db k (some (.list (xs ++ [item]))) := by
  unfold rpush
  rw [atKey_ok_iff]
  cases h : asList (db k) with
  | ok xs =>
    simp only [bind, Except.bind, pure, Except.pure, Except.ok.injEq, Prod.mk.injEq, and_true]
    simp
  | error e => simp [bind, Except.bind]

theorem hmset_ok_iff (k : K) (pairs : Fields) (db db' : Keyspace K) (u : Unit) :
    hmset k pairs db = .ok u db' ↔
      ∃ fields, asHash (db k) = .ok fields ∧
        db' = Function.update db k (some (.hash (setFields pairs fields))) := by
  unfold hmset
  rw [atKey_ok_iff]
  cases h : asHash (db k) with
  | ok fields =>
    simp only [bind, Except.bind, pure, Except.pure, Except.ok.injEq, Prod.mk.injEq, and_true]
    simp
  | error e => simp [bind, Except.bind]

theorem incremented_ok_iff (fields : Fields) (f increment : String) (n : Int) :
    incremented fields f increment = .ok n ↔
      ∃ i j, parseI64 increment = some i ∧ parseI64 ((fields.lookup f).getD "0") = some j ∧
        n = j + i ∧ inI64 (j + i) := by
  unfold incremented
  cases hi : parseI64 increment with
  | none => simp [okOr, bind, Except.bind]
  | some i =>
    cases hj : parseI64 ((fields.lookup f).getD "0") with
    | none => simp [okOr, bind, Except.bind]
    | some j =>
      by_cases h : inI64 (j + i)
      · simp [okOr, bind, Except.bind, h, eq_comm]
      · simp [okOr, bind, Except.bind, h]

/-- An accepted HINCRBY adds to one field of the hash and leaves the others. -/
theorem hincrby_ok_iff (k : K) (f increment : String) (db db' : Keyspace K) (u : Unit) :
    hincrby k f increment db = .ok u db' ↔
      ∃ fields i j, asHash (db k) = .ok fields ∧ parseI64 increment = some i ∧
        parseI64 ((field db k f).getD "0") = some j ∧ inI64 (j + i) ∧
        db' = Function.update db k (some (.hash (setField f (toString (j + i)) fields))) := by
  unfold hincrby
  rw [atKey_ok_iff]
  cases h : asHash (db k) with
  | error e => simp [bind, Except.bind]
  | ok fields =>
    rw [← lookup_of_asHash h]
    cases hn : incremented fields f increment with
    | error e =>
      have hNo : ¬ ∃ n, incremented fields f increment = .ok n := by simp [hn]
      simp only [bind, Except.bind, hn, reduceCtorEq, false_and, exists_false, false_iff]
      rintro ⟨fields', i, j, hFields, hi, hj, hRange, -⟩
      cases hFields
      exact hNo ⟨j + i, (incremented_ok_iff _ _ _ _).mpr ⟨i, j, hi, hj, rfl, hRange⟩⟩
    | ok n =>
      obtain ⟨i, j, hi, hj, rfl, hRange⟩ := (incremented_ok_iff _ _ _ _).mp hn
      simp only [bind, Except.bind, hn, pure, Except.pure, Except.ok.injEq, Prod.mk.injEq, and_true]
      constructor
      · rintro ⟨v, rfl, rfl⟩
        exact ⟨fields, i, j, rfl, hi, hj, hRange, rfl⟩
      · rintro ⟨fields', i', j', rfl, hi', hj', -, rfl⟩
        rw [hi] at hi'
        rw [hj] at hj'
        cases hi'
        cases hj'
        exact ⟨_, rfl, rfl⟩

theorem field_of_hincrby {k : K} {f increment : String} {db db' : Keyspace K} {u : Unit}
    (hRun : hincrby k f increment db = .ok u db') :
    ∃ i j, parseI64 increment = some i ∧ parseI64 ((field db k f).getD "0") = some j ∧
      inI64 (j + i) ∧ field db' k f = some (toString (j + i)) := by
  obtain ⟨fields, i, j, -, hi, hj, hRange, rfl⟩ := (hincrby_ok_iff _ _ _ _ _ _).mp hRun
  exact ⟨i, j, hi, hj, hRange, by simp [field_update]⟩

theorem field_of_hincrby_of_ne {k k' : K} {f g increment : String} {db db' : Keyspace K} {u : Unit}
    (h : k' ≠ k ∨ g ≠ f) (hRun : hincrby k f increment db = .ok u db') :
    field db' k' g = field db k' g := by
  obtain ⟨fields, i, j, hFields, -, -, -, rfl⟩ := (hincrby_ok_iff _ _ _ _ _ _).mp hRun
  rw [field_update]
  by_cases hk : k' = k
  · subst hk
    have hgf : g ≠ f := by
      rcases h with h | h
      · exact absurd rfl h
      · exact h
    simp [hgf, lookup_of_asHash hFields]
  · simp [hk]

theorem counter_of_hincrby {k : K} {f increment : String} {db db' : Keyspace K} {u : Unit}
    (hRun : hincrby k f increment db = .ok u db') :
    ∃ i, parseI64 increment = some i ∧ counter db' k f = counter db k f + i := by
  obtain ⟨i, j, hi, hj, hRange, hField⟩ := field_of_hincrby hRun
  refine ⟨i, hi, ?_⟩
  rw [counter, hField, Option.getD_some, parseI64_toString hRange, counter, hj]
  rfl

theorem counter_of_hincrby_of_ne {k k' : K} {f g increment : String} {db db' : Keyspace K} {u : Unit}
    (h : k' ≠ k ∨ g ≠ f) (hRun : hincrby k f increment db = .ok u db') :
    counter db' k' g = counter db k' g :=
  counter_congr (field_of_hincrby_of_ne h hRun)

theorem counter_of_hincrby_hincrby {k : K} {f g m n : String} {db db₁ db₂ : Keyspace K} {u : Unit}
    (hfg : f ≠ g) (h₁ : hincrby k f m db = .ok u db₁) (h₂ : hincrby k g n db₁ = .ok u db₂) :
    ∃ i j, parseI64 m = some i ∧ parseI64 n = some j ∧
      counter db₂ k f = counter db k f + i ∧ counter db₂ k g = counter db k g + j ∧
      ∀ x, x ≠ f → x ≠ g → counter db₂ k x = counter db k x := by
  obtain ⟨i, hi, hf⟩ := counter_of_hincrby h₁
  obtain ⟨j, hj, hg⟩ := counter_of_hincrby h₂
  refine ⟨i, j, hi, hj, ?_, ?_, ?_⟩
  · rw [counter_of_hincrby_of_ne (.inr hfg) h₂, hf]
  · rw [hg, counter_of_hincrby_of_ne (.inr hfg.symm) h₁]
  · intro x hxf hxg
    rw [counter_of_hincrby_of_ne (.inr hxg) h₂, counter_of_hincrby_of_ne (.inr hxf) h₁]

theorem eq_of_hincrby_zero {k : K} {f : String} {db db' : Keyspace K} {u : Unit}
    (hRun : hincrby k f "0" db = .ok u db') (hField : (field db k f).isSome = true) : db' = db := by
  obtain ⟨fields, i, j, hFields, hi, hj, -, rfl⟩ := (hincrby_ok_iff _ _ _ _ _ _).mp hRun
  obtain ⟨t, ht⟩ := Option.isSome_iff_exists.mp hField
  have hi : i = 0 := by
    have : parseI64 "0" = some 0 := by decide
    rw [this] at hi
    cases hi
    rfl
  subst hi
  rw [ht, Option.getD_some] at hj
  have hLookup : fields.lookup f = some (toString (j + 0)) := by
    rw [lookup_of_asHash hFields, ht, Int.add_zero, toString_of_parseI64 hj]
  rw [setField_of_lookup hLookup]
  have hValue : db k = some (.hash fields) := by
    cases hk : db k with
    | none => simp [field, hk] at ht
    | some v => cases v <;> simp_all [asHash]
  rw [← hValue, Function.update_eq_self]

theorem xadd_ok_iff (k : K) (ms : String) (fields : Fields) (db db' : Keyspace K) (answer : String) :
    xadd k ms fields db = .ok answer db' ↔
      ∃ s n id, asStream (db k) = .ok s ∧ streamMs ms = .ok n ∧ nextId s.lastId n = .ok id ∧
        answer = id.text ∧
        db' = Function.update db k (some (.stream ⟨id, s.entries ++ [⟨id, fields⟩]⟩)) := by
  unfold xadd
  rw [atKey_ok_iff]
  cases h : asStream (db k) with
  | error e => simp [bind, Except.bind]
  | ok s =>
    cases hn : streamMs ms with
    | error e => simp [bind, Except.bind]
    | ok n =>
      cases hid : nextId s.lastId n with
      | error e => simp [bind, Except.bind, hid]
      | ok id =>
        simp only [bind, Except.bind, hid, pure, Except.pure, Except.ok.injEq, Prod.mk.injEq]
        constructor
        · rintro ⟨v, ⟨rfl, rfl⟩, rfl⟩
          exact ⟨s, n, id, rfl, rfl, hid, rfl, rfl⟩
        · rintro ⟨s', n', id', rfl, rfl, hid', rfl, rfl⟩
          rw [hid] at hid'
          cases hid'
          exact ⟨_, ⟨rfl, rfl⟩, rfl⟩

theorem lt_of_nextId {last id : StreamId} {ms : Fin (2 ^ 64)} (h : nextId last ms = .ok id) : last < id := by
  unfold nextId at h
  split at h
  · cases h
    exact Or.inl ‹_›
  · split at h
    · cases h
    · split at h
      · cases h
        rw [StreamId.lt_iff]
        simp only
        omega
      · cases h

theorem accepts_hincrby_congr {k : K} {f increment : String} {db db' : Keyspace K}
    (h : db' k = db k) :
    accepts (hincrby k f increment) db' = accepts (hincrby k f increment) db :=
  accepts_atKey_congr h

theorem accepts_xdel_congr {k : K} {id : String} {db db' : Keyspace K} (h : db' k = db k) :
    accepts (xdel k id) db' = accepts (xdel k id) db := by
  unfold accepts xdel
  rw [h]
  cases db k with
  | none => rfl
  | some v =>
    cases v with
    | stream s => cases StreamId.parse id <;> rfl
    | _ => rfl

theorem accepts_rpush_congr {k : K} {item : String} {db db' : Keyspace K} (h : db' k = db k) :
    accepts (rpush k item) db' = accepts (rpush k item) db :=
  accepts_atKey_congr h

theorem accepts_hmset_congr {k : K} {pairs pairs' : Fields} {db db' : Keyspace K}
    (h : db' k = db k) : accepts (hmset k pairs) db' = accepts (hmset k pairs') db := by
  rw [Bool.eq_iff_iff]
  simp only [accepts_iff, hmset_ok_iff, h]
  constructor
  · rintro ⟨_, _, fields, hFields, -⟩
    exact ⟨(), _, fields, hFields, rfl⟩
  · rintro ⟨_, _, fields, hFields, -⟩
    exact ⟨(), _, fields, hFields, rfl⟩

theorem accepts_hmset_of_hash {k : K} {fields : Fields} {db : Keyspace K}
    (h : db k = some (.hash fields)) (pairs : Fields) : accepts (hmset k pairs) db = true :=
  (accepts_iff _ _).mpr ⟨(), _, (hmset_ok_iff _ _ _ _ _).mpr ⟨fields, by simp [h], rfl⟩⟩

theorem accepts_xadd_congr {k : K} {ms : String} {fields fields' : Fields} {db db' : Keyspace K}
    (h : db' k = db k) : accepts (xadd k ms fields) db' = accepts (xadd k ms fields') db := by
  rw [Bool.eq_iff_iff]
  simp only [accepts_iff, xadd_ok_iff, h]
  constructor
  · rintro ⟨_, _, s, n, id, hs, hn, hid, -, -⟩
    exact ⟨_, _, s, n, id, hs, hn, hid, rfl, rfl⟩
  · rintro ⟨_, _, s, n, id, hs, hn, hid, -, -⟩
    exact ⟨_, _, s, n, id, hs, hn, hid, rfl, rfl⟩

theorem hincrby_error {k : K} {f increment : String} {db db' : Keyspace K} {e : RedisError}
    (hRun : hincrby k f increment db = .error e db') : db' = db :=
  ((atKey_error_iff _ _ _ _ _).mp hRun).2

theorem accepts_hincrby_iff (k : K) (f increment : String) (db : Keyspace K) :
    accepts (hincrby k f increment) db = true ↔
      ∃ fields i j, asHash (db k) = .ok fields ∧ parseI64 increment = some i ∧
        parseI64 ((field db k f).getD "0") = some j ∧ inI64 (j + i) := by
  simp only [accepts_iff, hincrby_ok_iff]
  constructor
  · rintro ⟨u, db', fields, i, j, hFields, hi, hj, hRange, -⟩
    exact ⟨fields, i, j, hFields, hi, hj, hRange⟩
  · rintro ⟨fields, i, j, hFields, hi, hj, hRange⟩
    exact ⟨(), _, fields, i, j, hFields, hi, hj, hRange, rfl⟩

/-- An accepted XADD appends an entry with an id above all before it. -/
theorem xadd_effect {k : K} {ms : String} {fields : Fields} {db db' : Keyspace K} {answer : String}
    (hRun : xadd k ms fields db = .ok answer db') :
    ∃ id, answer = id.text ∧ lastIdAt db k < id ∧ lastIdAt db' k = id ∧
      entriesAt db' k = entriesAt db k ++ [⟨id, fields⟩] := by
  obtain ⟨s, n, id, hs, -, hid, rfl, rfl⟩ := (xadd_ok_iff _ _ _ _ _ _).mp hRun
  refine ⟨id, rfl, ?_, ?_, ?_⟩
  · rw [← lastId_of_asStream hs]
    exact lt_of_nextId hid
  · simp [lastIdAt]
  · rw [entriesAt_update, if_pos rfl, entries_of_asStream hs]

theorem xadd_error {k : K} {ms : String} {fields : Fields} {db db' : Keyspace K} {e : RedisError}
    (hRun : xadd k ms fields db = .error e db') : db' = db :=
  ((atKey_error_iff _ _ _ _ _).mp hRun).2

theorem del_ok_iff (k : K) (db db' : Keyspace K) (u : Unit) :
    del k db = .ok u db' ↔ db' = Function.update db k none := by
  change EStateM.Result.ok () (Function.update db k none) = _ ↔ _
  simp [eq_comm]

/-- An accepted XDEL finds no stream, or takes the entry out of it. -/
theorem xdel_ok_iff (k : K) (id : String) (db db' : Keyspace K) (u : Unit) :
    xdel k id db = .ok u db' ↔ (db k = none ∧ db' = db) ∨
      ∃ s i, db k = some (.stream s) ∧ StreamId.parse id = some i ∧
        db' = Function.update db k (some (.stream (s.without i))) := by
  unfold xdel
  cases hk : db k with
  | none => simp [eq_comm]
  | some v =>
    cases v with
    | stream s =>
      cases hId : StreamId.parse id with
      | none => simp
      | some i => simp [eq_comm]
    | _ => simp

theorem xdel_effect {k : K} {id : StreamId} {db db' : Keyspace K} {u : Unit}
    (hRun : xdel k id.text db = .ok u db') :
    lastIdAt db' k = lastIdAt db k ∧ entriesAt db' k = (entriesAt db k).filter (·.id ≠ id) := by
  rcases (xdel_ok_iff _ _ _ _ _).mp hRun with ⟨hk, rfl⟩ | ⟨s, i, hk, hi, rfl⟩
  · simp [entriesAt, hk]
  · rw [StreamId.parse_text, Option.some.injEq] at hi
    subst hi
    simp [entriesAt, lastIdAt, hk, Stream.without]

theorem xdel_error {k : K} {id : String} {db db' : Keyspace K} {e : RedisError}
    (hRun : xdel k id db = .error e db') :
    db' = db ∧ ((e = .wrongType ∧ ∃ v, db k = some v ∧ ∀ s, v ≠ .stream s) ∨
      (e = .invalidStreamId ∧ StreamId.parse id = none)) := by
  unfold xdel at hRun
  cases hk : db k with
  | none => simp [hk] at hRun
  | some v =>
    cases v with
    | stream s =>
      cases hId : StreamId.parse id <;> simp_all
    | _ => simp_all

theorem ms_of_nextId {last id : StreamId} {ms : Fin (2 ^ 64)} (h : nextId last ms = .ok id) : id.ms = ms := by
  unfold nextId at h
  split at h
  · cases h
    rfl
  · split at h
    · cases h
    · split at h <;> cases h
      rfl

theorem lt_of_nextId_idTooSmall {last : StreamId} {ms : Fin (2 ^ 64)}
    (h : nextId last ms = .error .idTooSmall) : ms < last.ms := by
  unfold nextId at h
  split at h
  · cases h
  · split at h
    · assumption
    · split at h <;> cases h

theorem accepts_hincrby_of_ne {k k' : K} {f g m n : String} {db db' : Keyspace K} {u : Unit}
    (h : k' ≠ k ∨ g ≠ f) (hRun : hincrby k f m db = .ok u db') :
    accepts (hincrby k' g n) db' = accepts (hincrby k' g n) db := by
  obtain ⟨fields, i, j, hFields, -, -, -, rfl⟩ := (hincrby_ok_iff k f m db db' u).mp hRun
  by_cases hk : k' = k
  · subst hk
    have hgf : g ≠ f := by
      rcases h with h | h
      · exact absurd rfl h
      · exact h
    rw [Bool.eq_iff_iff, accepts_hincrby_iff, accepts_hincrby_iff]
    simp [hFields, field_update, hgf, lookup_of_asHash hFields]
  · exact accepts_atKey_congr (Function.update_of_ne hk _ _)

end AffinidiMessaging.Redis
