import AffinidiMessaging.Mediator.Conservation

/-! # The state of the database after any calls

Stores may be rejected half way and may repeat a digest, so the books need not
balance. What still holds: every key has its kind of value, the metadata of a
message comes with the message and with its entry, and no counter can run out
before everything that is there is deleted.
-/

namespace AffinidiMessaging.Mediator

open Redis Text Fallible

def Numeric (fields : Fields) : Prop :=
  ∀ f t, fields.lookup f = some t → (parseI64 t).isSome = true

theorem Numeric.setField {fields : Fields} (h : Numeric fields) {f : String} {n : Int}
    (hn : inI64 n) : Numeric (Redis.setField f (toString n) fields) := by
  intro g t ht
  rw [lookup_setField] at ht
  split at ht
  · cases ht
    rw [parseI64_toString hn]
    rfl
  · exact h g t ht

/-- A queue as XADD grows it with the entries of `store_message`. -/
structure QueueShape (s : Redis.Stream) : Prop where
  sorted : s.entries.Pairwise (·.id < ·.id)
  newest : ∀ e ∈ s.entries, ¬ s.lastId < e.id
  entry : ∀ e ∈ s.entries, ∃ h bytes other, e.fields = [("MSG_ID", h), ("BYTES", bytes), other]

/-- The kind of value that belongs under a key. -/
def Key.Holds : Key → Value → Prop
  | .msg _, .string _ => True
  | .msgMeta _, .hash fields => (fields.map Prod.fst).Nodup
  | .msgExpiry, .list _ => True
  | .global, .hash fields => Numeric fields
  | .did _, .hash fields => Numeric fields
  | .receiveQ _, .stream s => QueueShape s
  | .sendQ _, .stream s => QueueShape s
  | .session _, .hash _ => True
  | .globalStreaming, .hash _ => True
  | .streamingSessions _, .set _ => True
  | _, _ => False

def Shaped (db : Db) : Prop := ∀ k v, db k = some v → k.Holds v

namespace Shaped

variable {db db' : Db}

theorem update (hdb : Shaped db) {k : Key} {v : Value} (hv : k.Holds v) :
    Shaped (Function.update db k (some v)) := by
  intro k' v' hv'
  by_cases hk : k' = k
  · subst hk
    rw [Function.update_self, Option.some.injEq] at hv'
    exact hv' ▸ hv
  · rw [Function.update_of_ne hk] at hv'
    exact hdb k' v' hv'

theorem erase (hdb : Shaped db) (k : Key) : Shaped (Function.update db k none) := by
  intro k' v' hv'
  by_cases hk : k' = k
  · simp [hk] at hv'
  · rw [Function.update_of_ne hk] at hv'
    exact hdb k' v' hv'

/-- The keys of counters. -/
def Counts (k : Key) : Prop := k = .global ∨ ∃ d, k = .did d

theorem counters (hdb : Shaped db) {k : Key} (hk : Counts k) :
    ∃ fields, asHash (db k) = .ok fields ∧ Numeric fields := by
  cases hv : db k with
  | none => exact ⟨[], rfl, by simp [Numeric]⟩
  | some v =>
    have hHolds := hdb k v hv
    rcases hk with rfl | ⟨d, rfl⟩
    all_goals
      cases v with
      | hash fields => exact ⟨fields, rfl, hHolds⟩
      | _ => exact absurd hHolds (by simp [Key.Holds])

theorem queue (hdb : Shaped db) (side : Side) (d : String) :
    ∃ s, asStream (db (side.queue d)) = .ok s ∧ QueueShape s := by
  cases hv : db (side.queue d) with
  | none => exact ⟨_, rfl, by simp, by simp, by simp⟩
  | some v =>
    have hHolds := hdb _ v hv
    cases side <;> cases v with
      | stream s => exact ⟨s, rfl, hHolds⟩
      | _ => exact absurd hHolds (by simp [Key.Holds, Side.queue])

theorem entries (hdb : Shaped db) (side : Side) (d : String) :
    QueueShape ⟨lastIdAt db (side.queue d), entriesAt db (side.queue d)⟩ := by
  obtain ⟨s, hs, hShape⟩ := hdb.queue side d
  rw [← lastId_of_asStream hs, ← entries_of_asStream hs]
  exact hShape

theorem metadata (hdb : Shaped db) (h : String) :
    ∃ fields, asHash (db (.msgMeta h)) = .ok fields ∧ (fields.map Prod.fst).Nodup := by
  cases hv : db (.msgMeta h) with
  | none => exact ⟨[], rfl, List.nodup_nil⟩
  | some v =>
    have hHolds := hdb _ v hv
    cases v with
    | hash fields => exact ⟨fields, rfl, hHolds⟩
    | _ => exact absurd hHolds (by simp [Key.Holds])

theorem body (hdb : Shaped db) (h : String) : ∃ o, asString (db (.msg h)) = .ok o := by
  cases hv : db (.msg h) with
  | none => exact ⟨none, rfl⟩
  | some v =>
    have hHolds := hdb _ v hv
    cases v with
    | string text => exact ⟨some text, rfl⟩
    | _ => exact absurd hHolds (by simp [Key.Holds])

theorem hincrby {k : Key} (hk : Counts k) (f increment : String) :
    Keeps Shaped (Redis.hincrby k f increment) := by
  intro db hdb
  constructor
  · intro u db' hRun
    obtain ⟨fields, i, j, hFields, -, -, hRange, rfl⟩ := (hincrby_ok_iff _ _ _ _ _ _).mp hRun
    obtain ⟨fields', hFields', hNumeric⟩ := hdb.counters hk
    rw [hFields] at hFields'
    cases hFields'
    refine hdb.update ?_
    rcases hk with rfl | ⟨d, rfl⟩
    · exact hNumeric.setField hRange
    · exact hNumeric.setField hRange
  · intro e db' hRun
    rwa [hincrby_error hRun]

theorem counter_inI64 (hdb : Shaped db) {k : Key} (hk : Counts k) (f : String) :
    parseI64 ((field db k f).getD "0") = some (counter db k f) ∧ inI64 (counter db k f) := by
  obtain ⟨fields, hFields, hNumeric⟩ := hdb.counters hk
  have hSome : (parseI64 ((field db k f).getD "0")).isSome = true := by
    cases hField : field db k f with
    | none => decide
    | some t => exact hNumeric f t (by rw [lookup_of_asHash hFields, hField])
  obtain ⟨n, hn⟩ := Option.isSome_iff_exists.mp hSome
  rw [counter, hn]
  exact ⟨rfl, inI64_of_parseI64 hn⟩

theorem hincrby_ok (hdb : Shaped db) {k : Key} (hk : Counts k) {f increment : String} {i : Int}
    (hi : parseI64 increment = some i) (hRoom : inI64 (counter db k f + i)) :
    ∃ db', Redis.hincrby k f increment db = .ok () db' ∧ Shaped db' := by
  obtain ⟨fields, hFields, -⟩ := hdb.counters hk
  have hRun := (hincrby_ok_iff k f increment db _ ()).mpr
    ⟨fields, i, _, hFields, hi, (hdb.counter_inI64 hk f).1, hRoom, rfl⟩
  exact ⟨_, hRun, (hincrby hk f increment db hdb).1 _ _ hRun⟩

theorem storeMetadata (messageHash time : String) (bytes : LuaNumber) (toDidHash rq : String)
    (sent : Option (String × String)) :
    Keeps Shaped (Mediator.storeMetadata messageHash time bytes toDidHash rq sent) := by
  have hHmset : ∀ pairs, Keeps Shaped (Redis.hmset (.msgMeta messageHash) pairs) := by
    intro pairs db hdb
    constructor
    · intro u db' hRun
      obtain ⟨fields, hFields, rfl⟩ := (hmset_ok_iff _ _ _ _ _).mp hRun
      obtain ⟨fields', hFields', hNodup⟩ := hdb.metadata messageHash
      rw [hFields] at hFields'
      cases hFields'
      exact hdb.update (nodup_setFields hNodup)
    · intro e db' hRun
      obtain ⟨-, rfl⟩ := (atKey_error_iff _ _ _ _ _).mp hRun
      exact hdb
  refine (hHmset _).bind fun _ => ?_
  cases sent with
  | none => exact Triple.pure fun _ => id
  | some p => exact hHmset _

theorem xdel_ok (hdb : Shaped db) (side : Side) (d : String) (id : StreamId) :
    ∃ db', Redis.xdel (side.queue d) id.text db = .ok () db' ∧ Shaped db' := by
  cases hv : db (side.queue d) with
  | none => exact ⟨db, (xdel_ok_iff _ _ _ _ _).mpr (.inl ⟨hv, rfl⟩), hdb⟩
  | some v =>
    obtain ⟨s, hs, hShape⟩ := hdb.queue side d
    rw [hv] at hs
    cases v with
    | stream s' =>
      rw [asStream_stream] at hs
      cases hs
      refine ⟨_, (xdel_ok_iff _ _ _ _ _).mpr (.inr ⟨s, id, hv, StreamId.parse_text id, rfl⟩), ?_⟩
      have hLess : QueueShape (s.without id) := {
        sorted := hShape.sorted.sublist List.filter_sublist
        newest := fun e he => hShape.newest e (List.filter_sublist.subset he)
        entry := fun e he => hShape.entry e (List.filter_sublist.subset he) }
      refine hdb.update ?_
      cases side <;> exact hLess
    | _ => cases hs

end Shaped

/-- What is counted: bytes or messages. -/
inductive Measure
  | bytes
  | count
deriving DecidableEq, Repr

namespace Measure

def received : Measure → String
  | .bytes => "RECEIVED_BYTES"
  | .count => "RECEIVED_COUNT"

def deleted : Measure → String
  | .bytes => "DELETED_BYTES"
  | .count => "DELETED_COUNT"

def queueField : Measure → Side → String
  | .bytes => Side.bytesField
  | .count => Side.countField

/-- What a message of that many bytes counts. -/
def weight : Measure → Nat → Int
  | .bytes, n => n
  | .count, _ => 1

theorem weight_nonneg (m : Measure) (n : Nat) : 0 ≤ m.weight n := by
  cases m <;> simp [weight]

theorem deleted_ne_received (m m' : Measure) : m.deleted ≠ m'.received := by
  cases m <;> cases m' <;> decide

end Measure

/-- The database after some of the writes of a store, none of them to metadata. -/
structure Grows (db db' : Db) : Prop where
  shaped : Shaped db'
  metadata : ∀ h, db' (.msgMeta h) = db (.msgMeta h)
  msg : ∀ h, db (.msg h) ≠ none → db' (.msg h) ≠ none
  entries : ∀ (side : Side) d, ∀ e ∈ entriesAt db (side.queue d), e ∈ entriesAt db' (side.queue d)
  deleted : ∀ m : Measure, counter db' .global m.deleted = counter db .global m.deleted
  received : ∀ m : Measure, counter db .global m.received ≤ counter db' .global m.received
  queued : ∀ (m : Measure) side d,
    counter db (.did d) (m.queueField side) ≤ counter db' (.did d) (m.queueField side)

namespace Grows

variable {db₀ db db' : Db}

theorem refl (hdb : Shaped db) : Grows db db where
  shaped := hdb
  metadata _ := rfl
  msg _ := id
  entries _ _ _ := id
  deleted _ := rfl
  received _ := le_refl _
  queued _ _ _ := le_refl _

theorem trans (h₀ : Grows db₀ db) (h : Grows db db') : Grows db₀ db' where
  shaped := h.shaped
  metadata x := (h.metadata x).trans (h₀.metadata x)
  msg x hx := h.msg x (h₀.msg x hx)
  entries side d e he := h.entries side d e (h₀.entries side d e he)
  deleted m := (h.deleted m).trans (h₀.deleted m)
  received m := (h₀.received m).trans (h.received m)
  queued m side d := (h₀.queued m side d).trans (h.queued m side d)

theorem atKey {α : Type} {k : Key} {f : Option Value → Except RedisError (Value × α)}
    (h : ∀ db a db', Shaped db → Redis.atKey k f db = .ok a db' → Grows db db') :
    Keeps (Grows db₀) (Redis.atKey k f) := by
  intro db hdb
  constructor
  · intro a db' hRun
    exact hdb.trans (h db a db' hdb.shaped hRun)
  · intro e db' hRun
    obtain ⟨-, rfl⟩ := (atKey_error_iff _ _ _ _ _).mp hRun
    exact hdb

theorem of_update (hdb : Shaped db) {k : Key} {v : Value} (hv : k.Holds v) (hOutside : k.Outside)
    (hMeta : ∀ h, k ≠ .msgMeta h) (hGlobal : k ≠ .global) :
    Grows db (Function.update db k (some v)) := by
  have hDid : ∀ d, Function.update db k (some v) (.did d) = db (.did d) := fun d =>
    Function.update_of_ne (hOutside.did d).symm _ _
  have hTotal : Function.update db k (some v) .global = db .global :=
    Function.update_of_ne hGlobal.symm _ _
  refine ⟨hdb.update hv, fun h => Function.update_of_ne (hMeta h).symm _ _, ?_, ?_, ?_, ?_, ?_⟩
  · intro h hMsg
    by_cases hk : Key.msg h = k
    · simp [hk]
    · rwa [Function.update_of_ne hk]
  · intro side d e he
    have hQueue : Function.update db k (some v) (side.queue d) = db (side.queue d) :=
      Function.update_of_ne (hOutside.queue side d).symm _ _
    rwa [entriesAt_congr hQueue]
  · exact fun m => counter_congr (field_congr hTotal _)
  · exact fun m => (counter_congr (field_congr hTotal _)).ge
  · exact fun m side d => (counter_congr (field_congr (hDid d) _)).ge

theorem set (h text : String) : Keeps (Grows db₀) (Redis.set (.msg h) text) := by
  refine atKey fun db a db' hdb hRun => ?_
  obtain rfl := (set_ok_iff _ _ _ _ _).mp hRun
  exact of_update hdb trivial ⟨by simp, by rintro (_ | _) d <;> simp [Side.queue]⟩ (by simp) (by simp)

theorem rpush (item : String) : Keeps (Grows db₀) (Redis.rpush .msgExpiry item) := by
  refine atKey fun db a db' hdb hRun => ?_
  obtain ⟨xs, -, rfl⟩ := (rpush_ok_iff _ _ _ _ _).mp hRun
  exact of_update hdb trivial ⟨by simp, by rintro (_ | _) d <;> simp [Side.queue]⟩ (by simp) (by simp)

theorem hincrby {k : Key} {f increment : String} (hk : Shaped.Counts k)
    (hf : ∀ m : Measure, .global ≠ k ∨ m.deleted ≠ f)
    (hPos : ∀ i, parseI64 increment = some i → 0 ≤ i) :
    Keeps (Grows db₀) (Redis.hincrby k f increment) := by
  refine atKey fun db a db' hdb hRun => ?_
  obtain ⟨i, hi, hSum⟩ := counter_of_hincrby hRun
  have hLe : ∀ k' g, counter db k' g ≤ counter db' k' g := by
    intro k' g
    by_cases h : k' ≠ k ∨ g ≠ f
    · exact (counter_of_hincrby_of_ne h hRun).ge
    · obtain ⟨rfl, rfl⟩ : k' = k ∧ g = f := by
        simpa using not_or.mp h
      have := hPos i hi
      omega
  have hOther : ∀ k', k' ≠ k → db' k' = db k' := fun k' hk' =>
    (Untouched.hincrby hk' _ _).of_ok hRun
  have hKey : ∀ k', (∀ d, k' ≠ .did d) → k' ≠ .global → k' ≠ k := by
    rintro k' hDid hGlobal rfl
    rcases hk with hk | ⟨d, hk⟩
    · exact hGlobal hk
    · exact hDid d hk
  refine ⟨(Shaped.hincrby hk f increment db hdb).1 a db' hRun, ?_, ?_, ?_, ?_, fun m => hLe _ _,
    fun m side d => hLe _ _⟩
  · exact fun h => hOther _ (hKey _ (by simp) (by simp))
  · intro h hMsg
    rwa [hOther _ (hKey _ (by simp) (by simp))]
  · intro side d e he
    rwa [entriesAt_congr (hOther _ (hKey _ (side.queue_ne_did d) (by cases side <;> simp [Side.queue])))]
  · exact fun m => counter_of_hincrby_of_ne (hf m) hRun

theorem queueShape_xadd {k : Key} {ms : String} {h bytes : String} {other : String × String}
    {db db' : Db} {answer : String}
    (hShape : QueueShape ⟨lastIdAt db k, entriesAt db k⟩)
    (hRun : Redis.xadd k ms [("MSG_ID", h), ("BYTES", bytes), other] db = .ok answer db') :
    QueueShape ⟨lastIdAt db' k, entriesAt db' k⟩ := by
  obtain ⟨id, -, hNewest, hLast, hEntries⟩ := xadd_effect hRun
  rw [hLast, hEntries]
  refine ⟨?_, ?_, ?_⟩
  · rw [List.pairwise_append]
    refine ⟨hShape.sorted, by simp, ?_⟩
    intro e he e' he'
    rw [List.mem_singleton] at he'
    subst he'
    exact StreamId.lt_of_not_lt_of_lt (hShape.newest e he) hNewest
  · intro e he
    rcases List.mem_append.mp he with he | he
    · exact StreamId.lt_asymm (StreamId.lt_of_not_lt_of_lt (hShape.newest e he) hNewest)
    · rw [List.mem_singleton] at he
      subst he
      exact fun hLt => StreamId.ne_of_lt hLt rfl
  · intro e he
    rcases List.mem_append.mp he with he | he
    · exact hShape.entry e he
    · rw [List.mem_singleton] at he
      subst he
      exact ⟨h, bytes, other, rfl⟩

theorem xadd (side : Side) (d ms h bytes : String) (other : String × String) :
    Keeps (Grows db₀)
      (Redis.xadd (side.queue d) ms [("MSG_ID", h), ("BYTES", bytes), other]) := by
  refine atKey fun db a db' hdb hRun => ?_
  have hOther : ∀ k, k ≠ side.queue d → db' k = db k := fun k hk => (Untouched.xadd hk _ _).of_ok hRun
  have hDid : ∀ d', db' (.did d') = db (.did d') := fun d' => hOther _ (side.queue_ne_did d d').symm
  have hGlobal : db' .global = db .global := hOther _ (by cases side <;> simp [Side.queue])
  have hMessage : ∀ k, k.OfMessage → db' k = db k := fun k hk => hOther k (hk.outside.queue side d)
  refine ⟨?_, fun x => hMessage _ trivial, ?_, ?_, ?_, ?_, ?_⟩
  · have hShape := queueShape_xadd (hdb.entries side d) hRun
    obtain ⟨s, n, id, -, -, -, -, rfl⟩ := (xadd_ok_iff _ _ _ _ _ _).mp hRun
    refine hdb.update ?_
    simp only [lastIdAt, entriesAt, Function.update_self] at hShape
    cases side <;> exact hShape
  · intro x hx
    rwa [hMessage (.msg x) trivial]
  · intro side' d' e he
    by_cases hQueue : side'.queue d' = side.queue d
    · obtain ⟨id, -, -, -, hEntries⟩ := xadd_effect hRun
      rw [hQueue] at he ⊢
      rw [hEntries]
      exact List.mem_append_left _ he
    · rwa [entriesAt_congr (hOther _ hQueue)]
  · exact fun m => counter_congr (field_congr hGlobal _)
  · exact fun m => (counter_congr (field_congr hGlobal _)).ge
  · exact fun m side' d' => (counter_congr (field_congr (hDid d') _)).ge

variable {bytes : LuaNumber}

theorem enqueue (hPos : ∀ i, parseI64 bytes.text = some i → 0 ≤ i) (side : Side)
    (d time h : String) (other : String × String) :
    Keeps (Grows db₀) (Mediator.enqueue d side.bytesField side.countField (side.queue d) time bytes
      [("MSG_ID", h), ("BYTES", bytes.text), other]) := by
  have hDid : Shaped.Counts (.did d) := .inr ⟨d, rfl⟩
  refine (hincrby hDid (by simp) hPos).bind fun _ => ?_
  refine (hincrby hDid (by simp) ?_).bind fun _ => xadd side d time h bytes.text other
  intro i hi
  have hOne : parseI64 "1" = some 1 := by decide
  rw [hOne] at hi
  cases hi
  decide

/-- The metadata is the last thing written, and writing it is not rejected. -/
theorem storeMetadata_ok (hdb : Shaped db) (messageHash time : String) (bytes : LuaNumber)
    (toDidHash rq : String) (sent : Option (String × String)) (e : RedisError) (db' : Db) :
    storeMetadata messageHash time bytes toDidHash rq sent db ≠ .error e db' := by
  obtain ⟨fields, hFields, -⟩ := hdb.metadata messageHash
  intro hRun
  rcases (bind_error_iff _ _ _ _ _).mp hRun with h₁ | ⟨u, db₁, h₁, h₂⟩
  · obtain ⟨he, -⟩ := (atKey_error_iff _ _ _ _ _).mp h₁
    simp [hFields, except_bind_error_iff, except_pure_eq] at he
  · obtain ⟨fields', -, rfl⟩ := (hmset_ok_iff _ _ _ _ _).mp h₁
    cases sent with
    | none => cases h₂
    | some p =>
      obtain ⟨he, -⟩ := (atKey_error_iff _ _ _ _ _).mp h₂
      simp [except_bind_error_iff, except_pure_eq] at he

/-- A store that is rejected half way has only grown the database. -/
theorem storeRecords (hPos : ∀ i, parseI64 bytes.text = some i → 0 ≤ i)
    (messageHash message time toDid toDidHash fromDid : String) (fromDidHash : Option String) :
    Triple (Grows db)
      (Mediator.storeRecords messageHash message time bytes toDid toDidHash fromDid fromDidHash)
      (fun _ => Shaped) (fun _ => Grows db) := by
  have hGlobal : Shaped.Counts .global := .inl rfl
  refine Triple.bind (set messageHash message) fun _ => ?_
  refine Triple.bind (hincrby hGlobal (by rintro (_ | _) <;> decide) hPos) fun _ => ?_
  refine Triple.bind (hincrby hGlobal (by rintro (_ | _) <;> decide) ?_) fun _ => ?_
  · intro i hi
    have hOne : parseI64 "1" = some 1 := by decide
    rw [hOne] at hi
    cases hi
    decide
  refine Triple.bind (rpush _) fun _ => ?_
  refine Triple.bind (enqueue hPos .receive _ _ _ _) fun rq => ?_
  refine Triple.bind (Q := fun _ => Grows db) ?_ fun sent => ?_
  · cases fromDidHash with
    | none => exact Triple.pure fun _ => id
    | some d => exact Triple.bind (enqueue hPos .send _ _ _ _) fun _ => Triple.pure fun _ => id
  · refine Triple.bind (Q := fun _ => Shaped) ?_ fun _ => Triple.pure fun _ => id
    intro db₁ hdb₁
    exact ⟨(Shaped.storeMetadata _ _ _ _ _ _ db₁ hdb₁.shaped).1, fun e db₂ h =>
      absurd h (storeMetadata_ok hdb₁.shaped _ _ _ _ _ _ _ _)⟩

end Grows

/-- What the metadata of a message counts, if it is there. -/
def weightAt (m : Measure) (db : Db) (h : String) : Int :=
  match db (.msgMeta h) with
  | some (.hash fields) => m.weight (((fields.lookup "BYTES").bind parseNat).getD 0)
  | _ => 0

theorem weightAt_congr {m : Measure} {db db' : Db} {h : String}
    (hMeta : db' (.msgMeta h) = db (.msgMeta h)) : weightAt m db' h = weightAt m db h := by
  rw [weightAt, hMeta, weightAt]

theorem weightAt_none {m : Measure} {db : Db} {h : String} (hMeta : db (.msgMeta h) = none) :
    weightAt m db h = 0 := by
  simp [weightAt, hMeta]

theorem weightAt_metadata {m : Measure} {db : Db} {h : String} {fields : Fields} {n : Nat}
    {id : Side → StreamId} (hMeta : db (.msgMeta h) = some (.hash fields))
    (hFields : Metadata fields n id) : weightAt m db h = m.weight n := by
  simp [weightAt, hMeta, hFields.bytes]

/-- A message that has metadata: its bytes are there, and its entry is in the receiver's queue. -/
def Kept (db : Db) (h : String) (fields : Fields) : Prop :=
  db (.msg h) ≠ none ∧ ∃ n id d, Metadata fields n id ∧ fields.lookup "TO" = some d ∧
    ∃ e ∈ entriesAt db (.receiveQ d), e.id = id .receive ∧ e.fields.lookup "MSG_ID" = some h

structure Sound (db : Db) : Prop where
  shaped : Shaped db
  kept : ∀ h fields, db (.msgMeta h) = some (.hash fields) → Kept db h fields
  /-- Everything that is there can still be counted as deleted. -/
  budget : ∀ (m : Measure) (S : Finset String),
    counter db .global m.deleted + S.sum (weightAt m db) ≤ counter db .global m.received
  drawn : ∀ (m : Measure) side d,
    0 ≤ counter db (.did d) (m.queueField side) + counter db .global m.deleted
  /-- No message is empty, so that its size has a negative. -/
  sized : ∀ h fields, db (.msgMeta h) = some (.hash fields) → fields.lookup "BYTES" ≠ some "0"

namespace Sound

variable {messageHash message time : String} {n : Nat} {toDidHash : String}
  {fromDidHash : Option String} {id : Side → StreamId} {db db' : Db}

theorem empty : Sound fun _ => none where
  shaped := by simp [Shaped]
  kept := by simp
  budget := by
    intro m S
    have hZero : ∀ f, counter (fun _ => none : Db) .global f = 0 := fun f => by
      change (parseI64 "0").getD 0 = 0
      decide
    rw [hZero, hZero, Finset.sum_eq_zero fun h _ => weightAt_none rfl]
    decide
  drawn := by
    intro m side d
    have hZero : ∀ k f, counter (fun _ => none : Db) k f = 0 := fun k f => by
      change (parseI64 "0").getD 0 = 0
      decide
    rw [hZero, hZero]
    decide
  sized := by simp

theorem grows (hdb : Sound db) (h : Grows db db') : Sound db' where
  shaped := h.shaped
  kept x fields hx := by
    rw [h.metadata] at hx
    obtain ⟨hMsg, n, id, d, hFields, hTo, e, he, hEntry⟩ := hdb.kept x fields hx
    exact ⟨h.msg x hMsg, n, id, d, hFields, hTo, e, h.entries .receive d e he, hEntry⟩
  budget m S := by
    have hWeight : ∀ x, weightAt m db' x = weightAt m db x := fun x => weightAt_congr (h.metadata x)
    rw [h.deleted, Finset.sum_congr rfl fun x _ => hWeight x]
    exact (hdb.budget m S).trans (h.received m)
  drawn m side d := by
    have := hdb.drawn m side d
    have := h.queued m side d
    rw [h.deleted]
    omega
  sized x fields hx := by
    rw [h.metadata] at hx
    exact hdb.sized x fields hx

theorem metadata_of_no_message (hdb : Sound db) {h : String} {metadata : Fields}
    (hMetadata : asHash (db (.msgMeta h)) = .ok metadata) (hMsg : db (.msg h) = none) :
    metadata = [] := by
  cases hv : db (.msgMeta h) with
  | none =>
    rw [hv] at hMetadata
    cases hMetadata
    rfl
  | some v =>
    cases v with
    | hash fields => exact absurd hMsg (hdb.kept h fields hv).1
    | _ => simp [hv, asHash] at hMetadata

theorem body_of_metadata (hdb : Sound db) {h : String} {fields : Fields}
    (hMeta : db (.msgMeta h) = some (.hash fields)) : ∃ body, db (.msg h) = some (.string body) := by
  cases hv : db (.msg h) with
  | none => exact absurd hv (hdb.kept h fields hMeta).1
  | some v =>
    have hHolds := hdb.shaped _ v hv
    cases v with
    | string body => exact ⟨body, rfl⟩
    | _ => exact absurd hHolds (by simp [Key.Holds])

theorem metadata_stored (hdb : Sound db) (hn : n < 2 ^ 53) {fields : Fields}
    (h : Stored messageHash message time (.integer n) toDidHash fromDidHash id n db db')
    (hMeta : db' (.msgMeta messageHash) = some (.hash fields)) :
    ∃ id', id' .receive = id .receive ∧ Metadata fields n id' ∧
      fields.lookup "TO" = some toDidHash := by
  obtain ⟨old, hOld, hNew⟩ := h.metadata
  rw [hMeta, Option.some.injEq, Value.hash.injEq] at hNew
  subst hNew
  have hLookup := fun side => lookup_metadataFields time (.integer n) toDidHash fromDidHash id side old
  -- a sender that was there before stays when this store has none
  have hSend : ∃ idS : StreamId, old.lookup "SEND_ID" = (old.lookup "FROM").map fun _ => idS.text := by
    cases hDb : db (.msgMeta messageHash) with
    | none =>
      rw [hDb] at hOld
      cases hOld
      exact ⟨.zero, rfl⟩
    | some v =>
      rw [hDb] at hOld
      cases v with
      | hash fields' =>
        rw [asHash_hash] at hOld
        cases hOld
        obtain ⟨-, _, id', _, hFields, -⟩ := hdb.kept _ _ hDb
        exact ⟨id' .send, hFields.ids .send⟩
      | _ => cases hOld
  obtain ⟨idS, hIdS⟩ := hSend
  refine ⟨Function.update id .send (if fromDidHash.isSome then id .send else idS), rfl, ⟨?_, hn, ?_⟩, ?_⟩
  · exact (hLookup .receive).2.2
  · rintro (_ | _)
    · rw [(hLookup .receive).1, (hLookup .receive).2.1]
      rfl
    · rw [(hLookup .send).1, (hLookup .send).2.1]
      cases fromDidHash with
      | none => simpa [owner, Side.ownerField, Side.idField] using hIdS
      | some d => rfl
  · exact (hLookup .receive).1

theorem positive (hdb : Sound db) {fields : Fields}
    (hMeta : db (.msgMeta messageHash) = some (.hash fields)) (hFields : Metadata fields n id) :
    0 < n := by
  rcases Nat.eq_zero_or_pos n with rfl | hPositive
  · exact absurd hFields.bytes (hdb.sized _ _ hMeta)
  · exact hPositive

theorem stored (hdb : Sound db) (hShaped : Shaped db') (hPositive : 0 < n) (hn : n < 2 ^ 53)
    (h : Stored messageHash message time (.integer n) toDidHash fromDidHash id n db db') :
    Sound db' := by
  have hOther : ∀ x, x ≠ messageHash → db' (.msgMeta x) = db (.msgMeta x) := fun x hx =>
    h.others _ trivial (by simp) (by simpa using hx)
  have hDeleted : ∀ m : Measure, counter db' .global m.deleted = counter db .global m.deleted := by
    rintro (_ | _) <;> exact h.totals.2.2 _ (by decide) (by decide)
  have hReceived : ∀ m : Measure,
      counter db' .global m.received = counter db .global m.received + m.weight n := by
    rintro (_ | _)
    · exact h.totals.1
    · exact h.totals.2.1
  have hEntries : ∀ d e, e ∈ entriesAt db (.receiveQ d) → e ∈ entriesAt db' (.receiveQ d) := by
    intro d e he
    by_cases hd : owner toDidHash fromDidHash .receive = some d
    · obtain ⟨other, hGains⟩ := h.gains .receive d hd
      have hNew : entriesAt db' (.receiveQ d) = entriesAt db (.receiveQ d) ++ [_] := hGains.entries
      rw [hNew]
      exact List.mem_append_left _ he
    · have hSame : entriesAt db' (.receiveQ d) = entriesAt db (.receiveQ d) :=
        (h.same .receive d hd).entries
      rwa [hSame]
  refine ⟨hShaped, ?_, ?_, ?_, ?_⟩
  · intro x fields hx
    by_cases hHash : x = messageHash
    · subst hHash
      obtain ⟨id', hId, hFields, hTo⟩ := hdb.metadata_stored hn h hx
      obtain ⟨other, hGains⟩ := h.gains .receive toDidHash rfl
      have hNew : entriesAt db' (.receiveQ toDidHash) = entriesAt db (.receiveQ toDidHash) ++ [_] :=
        hGains.entries
      have hMem := List.mem_append_right (entriesAt db (.receiveQ toDidHash))
        (List.mem_singleton_self ⟨id .receive, [("MSG_ID", x), ("BYTES", (LuaNumber.integer n).text),
          other]⟩)
      rw [← hNew] at hMem
      exact ⟨by simp [h.msg], n, id', toDidHash, hFields, hTo, _, hMem, hId.symm, by simp⟩
    · rw [hOther x hHash] at hx
      obtain ⟨hMsg, n', id', d, hFields, hTo, e, he, hEntry⟩ := hdb.kept x fields hx
      refine ⟨?_, n', id', d, hFields, hTo, e, hEntries d e he, hEntry⟩
      rwa [h.others (.msg x) trivial (by simpa using hHash) (by simp)]
  · intro m S
    obtain ⟨fields, -, hMeta⟩ := h.metadata
    obtain ⟨id', -, hFields, -⟩ := hdb.metadata_stored hn h hMeta
    have hErase : (S.erase messageHash).sum (weightAt m db') = (S.erase messageHash).sum (weightAt m db) :=
      Finset.sum_congr rfl fun x hx => weightAt_congr (hOther x (Finset.ne_of_mem_erase hx))
    have hSum : S.sum (weightAt m db') ≤ (S.erase messageHash).sum (weightAt m db) + m.weight n := by
      by_cases hMem : messageHash ∈ S
      · rw [← Finset.sum_erase_add S _ hMem, hErase, weightAt_metadata hMeta hFields]
      · have := m.weight_nonneg n
        rw [Finset.erase_eq_of_notMem hMem] at hErase ⊢
        omega
    have := hdb.budget m (S.erase messageHash)
    rw [hDeleted, hReceived]
    omega
  · intro m side d
    have hLe : counter db (.did d) (m.queueField side) ≤ counter db' (.did d) (m.queueField side) := by
      by_cases hd : owner toDidHash fromDidHash side = some d
      · obtain ⟨other, hGains⟩ := h.gains side d hd
        cases m with
        | bytes =>
          have := hGains.bytes
          simp only [Measure.queueField]
          omega
        | count =>
          have := hGains.count
          simp only [Measure.queueField]
          omega
      · cases m with
        | bytes => exact (h.same side d hd).bytes.ge
        | count => exact (h.same side d hd).count.ge
    have := hdb.drawn m side d
    rw [hDeleted]
    omega
  · intro x fields hx hZero
    by_cases hHash : x = messageHash
    · subst hHash
      obtain ⟨id', -, hFields, -⟩ := hdb.metadata_stored hn h hx
      have hRead := parseNat_repr n
      rw [Option.some.inj (hFields.bytes.symm.trans hZero)] at hRead
      exact hPositive.ne (Option.some.inj hRead)
    · rw [hOther x hHash] at hx
      exact hdb.sized x fields hx hZero

theorem deleted (hdb : Sound db) (hShaped : Shaped db') {fields : Fields}
    (hMeta : db (.msgMeta messageHash) = some (.hash fields)) (hFields : Metadata fields n id)
    (h : Deleted messageHash fields n id db db') : Sound db' := by
  have hOther : ∀ x, x ≠ messageHash → db' (.msgMeta x) = db (.msgMeta x) := fun x hx =>
    h.others _ trivial (by simp) (by simpa using hx)
  have hReceived : ∀ m : Measure, counter db' .global m.received = counter db .global m.received := by
    rintro (_ | _) <;> exact h.totals.2.2 _ (by decide) (by decide)
  have hDeleted : ∀ m : Measure,
      counter db' .global m.deleted = counter db .global m.deleted + m.weight n := by
    rintro (_ | _)
    · exact h.totals.1
    · exact h.totals.2.1
  refine ⟨hShaped, ?_, ?_, ?_, ?_⟩
  · intro x fields' hx
    have hHash : x ≠ messageHash := by
      rintro rfl
      simp [h.metadata] at hx
    rw [hOther x hHash] at hx
    obtain ⟨hMsg, n', id', d, hFields', hTo', e, he, hId, hMsgId⟩ := hdb.kept x fields' hx
    refine ⟨?_, n', id', d, hFields', hTo', e, ?_, hId, hMsgId⟩
    · rwa [h.others (.msg x) trivial (by simpa using hHash) (by simp)]
    · by_cases hOwner : fields.lookup "TO" = some d
      · -- the entry that goes names the message that goes
        obtain ⟨-, n₀, id₀, d₀, hFields₀, hTo₀, e₀, he₀, hId₀, hMsgId₀⟩ := hdb.kept _ _ hMeta
        rw [hOwner] at hTo₀
        cases hTo₀
        have hSameId : id .receive = id₀ .receive := by
          have hText := (hFields.ids .receive).symm.trans (hFields₀.ids .receive)
          rw [show fields.lookup Side.receive.ownerField = some d from hOwner] at hText
          exact StreamId.text_injective (Option.some.inj hText)
        have hLeft : entriesAt db' (.receiveQ d) =
            (entriesAt db (.receiveQ d)).filter (·.id ≠ id .receive) :=
          (h.loses .receive d hOwner).entries
        rw [hLeft, List.mem_filter]
        refine ⟨he, ?_⟩
        have hNe : e.id ≠ id .receive := by
          intro hEq
          have hSorted := (hdb.shaped.entries .receive d).sorted
          have := eq_of_id_eq hSorted he he₀ (by rw [hEq, hSameId, hId₀])
          rw [this, hMsgId₀] at hMsgId
          exact hHash (Option.some.inj hMsgId).symm
        simpa using hNe
      · have hSame : entriesAt db' (.receiveQ d) = entriesAt db (.receiveQ d) :=
          (h.same .receive d hOwner).entries
        rwa [hSame]
  · intro m S
    have hErase : (S.erase messageHash).sum (weightAt m db') =
        (S.erase messageHash).sum (weightAt m db) :=
      Finset.sum_congr rfl fun x hx => weightAt_congr (hOther x (Finset.ne_of_mem_erase hx))
    have hSum : S.sum (weightAt m db') = (S.erase messageHash).sum (weightAt m db) := by
      rw [← hErase]
      by_cases hMem : messageHash ∈ S
      · rw [← Finset.sum_erase_add S _ hMem, weightAt_none h.metadata, add_zero]
      · rw [Finset.erase_eq_of_notMem hMem]
    have hInsert := hdb.budget m (insert messageHash (S.erase messageHash))
    rw [Finset.sum_insert (Finset.notMem_erase _ _), weightAt_metadata hMeta hFields] at hInsert
    have hBudget : counter db .global m.deleted +
        (m.weight n + (S.erase messageHash).sum (weightAt m db)) ≤ counter db .global m.received :=
      hInsert
    rw [hSum, hDeleted, hReceived]
    omega
  · intro m side d
    have hGe : counter db (.did d) (m.queueField side) ≤
        counter db' (.did d) (m.queueField side) + m.weight n := by
      by_cases hd : fields.lookup side.ownerField = some d
      · cases m with
        | bytes =>
          have := (h.loses side d hd).bytes
          simp only [Measure.queueField, Measure.weight]
          omega
        | count =>
          have := (h.loses side d hd).count
          simp only [Measure.queueField, Measure.weight]
          omega
      · have := m.weight_nonneg n
        cases m with
        | bytes =>
          have := (h.same side d hd).bytes
          simp only [Measure.queueField] at *
          omega
        | count =>
          have := (h.same side d hd).count
          simp only [Measure.queueField] at *
          omega
    have := hdb.drawn m side d
    rw [hDeleted]
    omega
  · intro x fields' hx
    have hHash : x ≠ messageHash := by
      rintro rfl
      simp [h.metadata] at hx
    rw [hOther x hHash] at hx
    exact hdb.sized x fields' hx

/-- The counters have room for the delete of a message that is there. -/
theorem room (hdb : Sound db) {fields : Fields}
    (hMeta : db (.msgMeta messageHash) = some (.hash fields)) (hFields : Metadata fields n id)
    (m : Measure) : inI64 (counter db .global m.deleted + m.weight n) ∧
      ∀ side d, inI64 (counter db (.did d) (m.queueField side) + -m.weight n) := by
  have hBudget := hdb.budget m {messageHash}
  rw [Finset.sum_singleton, weightAt_metadata hMeta hFields] at hBudget
  have hReceived := (hdb.shaped.counter_inI64 (.inl rfl) m.received).2
  have hDeleted := (hdb.shaped.counter_inI64 (.inl rfl) m.deleted).2
  have hWeight := m.weight_nonneg n
  unfold inI64 at *
  refine ⟨by omega, fun side d => ?_⟩
  have hDrawn := hdb.drawn m side d
  have hQueue := (hdb.shaped.counter_inI64 (.inr ⟨d, rfl⟩) (m.queueField side)).2
  unfold inI64 at hQueue
  omega

end Sound

section

variable {n : Nat} {db : Db}

theorem deleteRecords_ok (strtod : String → Option LuaNumber) (hdb : Shaped db) (hPositive : 0 < n)
    (hn : n < 2 ^ 53) (side : Side) (d : String)
    (hBytes : inI64 (counter db (.did d) side.bytesField + -n))
    (hCount : inI64 (counter db (.did d) side.countField + -1)) (id : StreamId) :
    ∃ db', deleteRecords strtod d side.bytesField side.countField (side.queue d) n.repr (some id.text)
      db = .ok () db' ∧ Shaped db' := by
  have hDid : Shaped.Counts (.did d) := .inr ⟨d, rfl⟩
  obtain ⟨db₁, h₁, hdb₁⟩ := hdb.hincrby_ok hDid (f := side.bytesField)
    (parseI64_toString (inI64_of_small hn).2) hBytes
  rw [← counter_of_hincrby_of_ne (.inr (side.countField_ne side)) h₁] at hCount
  obtain ⟨db₂, h₂, hdb₂⟩ := hdb₁.hincrby_ok hDid (by decide : parseI64 "-1" = some (-1)) hCount
  obtain ⟨db₃, h₃, hdb₃⟩ := hdb₂.xdel_ok side d id
  refine ⟨db₃, ?_, hdb₃⟩
  rw [deleteRecords, bind_of_ok (negated_repr strtod hPositive hn db), bind_of_ok h₁, bind_of_ok h₂]
  exact h₃

theorem deleteOwned_ok (strtod : String → Option LuaNumber) (hdb : Sound db) {messageHash : String} {fields : Fields}
    {id : Side → StreamId} (hMeta : db (.msgMeta messageHash) = some (.hash fields))
    (hFields : Metadata fields n id) (hTo : (fields.lookup "TO").isSome = true) :
    ∃ db', deleteOwned strtod messageHash fields n.repr db = .ok "OK" db' ∧ Sound db' := by
  obtain ⟨receiver, hTo⟩ := Option.isSome_iff_exists.mp hTo
  have hPositive := hdb.positive hMeta hFields
  have hRoom := hdb.room hMeta hFields
  have hGlobal : Shaped.Counts .global := .inl rfl
  -- the message, and the totals
  obtain ⟨db₁, h₁⟩ : ∃ db₁, db₁ = Function.update db (.msg messageHash) none := ⟨_, rfl⟩
  have hdb₁ : Shaped db₁ := h₁ ▸ hdb.shaped.erase _
  have hDel : del (.msg messageHash) db = .ok () db₁ := (del_ok_iff _ _ _ _).mpr h₁
  have hKey₁ : ∀ k, k ≠ .msg messageHash → db₁ k = db k := fun k hk => (Untouched.del hk).of_ok hDel
  have hTotal : ∀ f, counter db₁ .global f = counter db .global f := fun f =>
    counter_congr (field_congr (hKey₁ _ (by simp)) f)
  have hParse : parseI64 n.repr = some (n : Int) := parseI64_toString (inI64_of_small hFields.small).1
  obtain ⟨db₂, h₂, hdb₂⟩ := hdb₁.hincrby_ok hGlobal (f := "DELETED_BYTES") hParse
    (by rw [hTotal]; exact (hRoom .bytes).1)
  obtain ⟨db₃, h₃, hdb₃⟩ := hdb₂.hincrby_ok hGlobal (f := "DELETED_COUNT")
    (by decide : parseI64 "1" = some 1)
    (by rw [counter_of_hincrby_of_ne (.inr (by decide)) h₂, hTotal]; exact (hRoom .count).1)
  have hDid : ∀ d f, counter db₃ (.did d) f = counter db (.did d) f := fun d f => by
    rw [counter_of_hincrby_of_ne (.inl (by simp)) h₃, counter_of_hincrby_of_ne (.inl (by simp)) h₂]
    exact counter_congr (field_congr (hKey₁ _ (by simp)) f)
  -- the receiver's side
  have hIdR : fields.lookup "RECEIVE_ID" = some (id .receive).text := by
    have := hFields.ids .receive
    simpa [Side.idField, Side.ownerField, hTo] using this
  obtain ⟨db₄, h₄, hdb₄⟩ := deleteRecords_ok strtod hdb₃ hPositive hFields.small .receive receiver
    (by rw [hDid]; exact (hRoom .bytes).2 .receive receiver)
    (by rw [hDid]; exact (hRoom .count).2 .receive receiver) (id .receive)
  have hReceiver : deleteReceiver strtod fields n.repr db₃ = .ok () db₄ := by
    rw [deleteReceiver, hTo, notNil_some_bind, hIdR]
    exact h₄
  obtain ⟨-, hSame, -⟩ := deleteRecords_effect .receive hFields.small h₄
  -- the sender's side
  obtain ⟨db₅, hSender, hdb₅⟩ : ∃ db₅, deleteSender strtod fields n.repr db₄ = .ok () db₅ ∧
      Shaped db₅ := by
    have hIds := hFields.ids .send
    simp only [Side.idField, Side.ownerField] at hIds
    cases hFrom : fields.lookup "FROM" with
    | none =>
      rw [hFrom] at hIds
      refine ⟨db₄, ?_, hdb₄⟩
      rw [deleteSender, hIds]
      rfl
    | some d =>
      rw [hFrom] at hIds
      have hSent := hSame .send d (by simp)
      obtain ⟨db₅, h₅, hdb₅⟩ := deleteRecords_ok strtod hdb₄ hPositive hFields.small .send d
        (by rw [hSent.bytes, hDid]; exact (hRoom .bytes).2 .send d)
        (by rw [hSent.count, hDid]; exact (hRoom .count).2 .send d) (id .send)
      refine ⟨db₅, ?_, hdb₅⟩
      rw [deleteSender, hIds, hFrom]
      exact h₅
  have hLast : del (.msgMeta messageHash) db₅ = .ok () (Function.update db₅ (.msgMeta messageHash) none) :=
    (del_ok_iff _ _ _ _).mpr rfl
  have hRun : deleteOwned strtod messageHash fields n.repr db =
      .ok "OK" (Function.update db₅ (.msgMeta messageHash) none) := by
    rw [deleteOwned, bind_of_ok hDel, bind_of_ok h₂, bind_of_ok h₃, bind_of_ok hReceiver,
      bind_of_ok hSender, bind_of_ok hLast]
    rfl
  exact ⟨_, hRun, hdb.deleted (hdb₅.erase _) hMeta hFields (deleteOwned_effect hFields hRun)⟩

end

end AffinidiMessaging.Mediator
