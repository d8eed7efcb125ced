import AffinidiMessaging.Mediator.DatabaseHandler

/-! # What an accepted call does to the queues

A stored message has an entry in the queue of its receiver and, if it has a sender,
in the sender's. The two sides differ in their keys and fields only.
-/

namespace AffinidiMessaging.Mediator

open Redis Text Fallible

inductive Side
  | receive
  | send
deriving DecidableEq, Repr

namespace Side

def queue : Side → String → Key
  | .receive => .receiveQ
  | .send => .sendQ

def bytesField : Side → String
  | .receive => "RECEIVE_QUEUE_BYTES"
  | .send => "SEND_QUEUE_BYTES"

def countField : Side → String
  | .receive => "RECEIVE_QUEUE_COUNT"
  | .send => "SEND_QUEUE_COUNT"

/-- The field of the metadata that names the owner of the queue. -/
def ownerField : Side → String
  | .receive => "TO"
  | .send => "FROM"

def idField : Side → String
  | .receive => "RECEIVE_ID"
  | .send => "SEND_ID"

theorem queue_ne_did (side : Side) (d d' : String) : side.queue d ≠ .did d' := by
  cases side <;> simp [queue]

theorem queue_inj {side side' : Side} {d d' : String} :
    side.queue d = side'.queue d' ↔ side = side' ∧ d = d' := by
  cases side <;> cases side' <;> simp [queue]

theorem countField_ne (side side' : Side) : side.countField ≠ side'.bytesField := by
  cases side <;> cases side' <;> decide

theorem bytesField_inj {side side' : Side} (h : side.bytesField = side'.bytesField) :
    side = side' := by
  cases side <;> cases side' <;> simp_all [bytesField]

theorem countField_inj {side side' : Side} (h : side.countField = side'.countField) :
    side = side' := by
  cases side <;> cases side' <;> simp_all [countField]

end Side

/-- The queue and its counters are as they were. -/
structure Same (side : Side) (d : String) (db db' : Db) : Prop where
  entries : entriesAt db' (side.queue d) = entriesAt db (side.queue d)
  lastId : lastIdAt db' (side.queue d) = lastIdAt db (side.queue d)
  bytes : counter db' (.did d) side.bytesField = counter db (.did d) side.bytesField
  count : counter db' (.did d) side.countField = counter db (.did d) side.countField

/-- The queue gains an entry, and its counters count it. -/
structure Gains (side : Side) (d : String) (entry : StreamEntry) (bytes : Int) (db db' : Db) :
    Prop where
  newest : lastIdAt db (side.queue d) < entry.id
  lastId : lastIdAt db' (side.queue d) = entry.id
  entries : entriesAt db' (side.queue d) = entriesAt db (side.queue d) ++ [entry]
  bytes : counter db' (.did d) side.bytesField = counter db (.did d) side.bytesField + bytes
  count : counter db' (.did d) side.countField = counter db (.did d) side.countField + 1

/-- The queue loses the entry of an id, and its counters a message of that many bytes. -/
structure Loses (side : Side) (d : String) (id : StreamId) (bytes : Int) (db db' : Db) : Prop where
  lastId : lastIdAt db' (side.queue d) = lastIdAt db (side.queue d)
  entries : entriesAt db' (side.queue d) = (entriesAt db (side.queue d)).filter (·.id ≠ id)
  bytes : counter db' (.did d) side.bytesField = counter db (.did d) side.bytesField - bytes
  count : counter db' (.did d) side.countField = counter db (.did d) side.countField - 1

section

variable {side : Side} {d : String} {entry : StreamEntry} {id : StreamId} {bytes : Int}
  {db₀ db db' : Db}

theorem Same.of_eq (hQueue : db' (side.queue d) = db (side.queue d))
    (hDid : db' (.did d) = db (.did d)) : Same side d db db' where
  entries := entriesAt_congr hQueue
  lastId := lastIdAt_congr hQueue
  bytes := counter_congr (field_congr hDid _)
  count := counter_congr (field_congr hDid _)

theorem Same.trans (h₀ : Same side d db₀ db) (h : Same side d db db') : Same side d db₀ db' where
  entries := h.entries.trans h₀.entries
  lastId := h.lastId.trans h₀.lastId
  bytes := h.bytes.trans h₀.bytes
  count := h.count.trans h₀.count

theorem Same.gains (h₀ : Same side d db₀ db) (h : Gains side d entry bytes db db') :
    Gains side d entry bytes db₀ db' where
  newest := h₀.lastId ▸ h.newest
  lastId := h.lastId
  entries := h.entries.trans (by rw [h₀.entries])
  bytes := h.bytes.trans (by rw [h₀.bytes])
  count := h.count.trans (by rw [h₀.count])

theorem Gains.same (h₀ : Gains side d entry bytes db₀ db) (h : Same side d db db') :
    Gains side d entry bytes db₀ db' where
  newest := h₀.newest
  lastId := h.lastId.trans h₀.lastId
  entries := h.entries.trans h₀.entries
  bytes := h.bytes.trans h₀.bytes
  count := h.count.trans h₀.count

theorem Same.loses (h₀ : Same side d db₀ db) (h : Loses side d id bytes db db') :
    Loses side d id bytes db₀ db' where
  lastId := h.lastId.trans h₀.lastId
  entries := h.entries.trans (by rw [h₀.entries])
  bytes := h.bytes.trans (by rw [h₀.bytes])
  count := h.count.trans (by rw [h₀.count])

theorem Loses.same (h₀ : Loses side d id bytes db₀ db) (h : Same side d db db') :
    Loses side d id bytes db₀ db' where
  lastId := h.lastId.trans h₀.lastId
  entries := h.entries.trans h₀.entries
  bytes := h.bytes.trans h₀.bytes
  count := h.count.trans h₀.count

end

/-- The counters of one queue after both its HINCRBYs: the ones of every other queue stay. -/
theorem counters_effect {side : Side} {d bytes count : String} {db db₁ db₂ : Db} {u : Unit}
    (h₁ : hincrby (.did d) side.bytesField bytes db = .ok u db₁)
    (h₂ : hincrby (.did d) side.countField count db₁ = .ok u db₂) :
    ∃ b c, parseI64 bytes = some b ∧ parseI64 count = some c ∧
      counter db₂ (.did d) side.bytesField = counter db (.did d) side.bytesField + b ∧
      counter db₂ (.did d) side.countField = counter db (.did d) side.countField + c ∧
      (∀ k, k ≠ .did d → db₂ k = db k) ∧
      ∀ side' d', (side', d') ≠ (side, d) → Same side' d' db db₂ := by
  obtain ⟨b, c, hb, hc, hBytes, hCount, hRest⟩ :=
    counter_of_hincrby_hincrby (side.countField_ne side).symm h₁ h₂
  have hKeys : ∀ k, k ≠ .did d → db₂ k = db k := fun k hk =>
    ((Untouched.hincrby hk _ _).of_ok h₂).trans ((Untouched.hincrby hk _ _).of_ok h₁)
  refine ⟨b, c, hb, hc, hBytes, hCount, hKeys, ?_⟩
  intro side' d' hOther
  by_cases hd : d' = d
  · subst hd
    have hSide : side' ≠ side := fun h => hOther (by rw [h])
    have hQueue := hKeys (side'.queue d') (side'.queue_ne_did d' d')
    exact {
      entries := entriesAt_congr hQueue
      lastId := lastIdAt_congr hQueue
      bytes := hRest _ (fun h => hSide (Side.bytesField_inj h)) (side.countField_ne side').symm
      count := hRest _ (side'.countField_ne side) fun h => hSide (Side.countField_inj h) }
  · exact Same.of_eq (hKeys _ (side'.queue_ne_did d' d)) (hKeys _ (by simpa using hd))

/-- What one accepted call of the receiver's or the sender's part of `store_message` does. -/
theorem enqueue_effect (side : Side) {d time : String} {bytes : LuaNumber} {entry : Fields}
    {db db' : Db} {answer : String}
    (h : enqueue d side.bytesField side.countField (side.queue d) time bytes entry db =
      .ok answer db') :
    ∃ id b, answer = id.text ∧ parseI64 bytes.text = some b ∧ Gains side d ⟨id, entry⟩ b db db' ∧
      (∀ side' d', (side', d') ≠ (side, d) → Same side' d' db db') ∧
      ∀ k, k ≠ .did d → k ≠ side.queue d → db' k = db k := by
  obtain ⟨_, db₁, h₁, h⟩ := (bind_ok_iff _ _ _ _ _).mp h
  obtain ⟨_, db₂, h₂, h⟩ := (bind_ok_iff _ _ _ _ _).mp h
  obtain ⟨b, c, hb, hc, hBytes, hCount, hKeys, hSame⟩ := counters_effect h₁ h₂
  obtain ⟨id, rfl, hNewest, hLast, hEntries⟩ := xadd_effect h
  have hOne : c = 1 := by
    have : parseI64 "1" = some 1 := by decide
    rw [this] at hc
    exact (Option.some.inj hc).symm
  have hQueue : db₂ (side.queue d) = db (side.queue d) := hKeys _ (side.queue_ne_did d d)
  have hXadd : ∀ k, k ≠ side.queue d → db' k = db₂ k := fun k hk =>
    (Untouched.xadd hk _ _).of_ok h
  have hDid : ∀ d', db' (.did d') = db₂ (.did d') := fun d' =>
    hXadd _ (side.queue_ne_did d d').symm
  refine ⟨id, b, rfl, hb, ?_, ?_, ?_⟩
  · exact {
      newest := lastIdAt_congr hQueue ▸ hNewest
      lastId := hLast
      entries := by rw [hEntries, entriesAt_congr hQueue]
      bytes := by rw [counter_congr (field_congr (hDid d) _), hBytes]
      count := by rw [counter_congr (field_congr (hDid d) _), hCount, hOne] }
  · intro side' d' hOther
    refine (hSame side' d' hOther).trans (Same.of_eq (hXadd _ ?_) (hDid d'))
    exact fun hEq => hOther (by simpa using Side.queue_inj.mp hEq)
  · intro k hk hk'
    exact (hXadd k hk').trans (hKeys k hk)

theorem untouched_enqueue {k : Key} {didHash : String} {queue : Key} (hDid : k ≠ .did didHash)
    (hQueue : k ≠ queue) (bytesField countField time : String) (bytes : LuaNumber) (entry : Fields) :
    Untouched k (enqueue didHash bytesField countField queue time bytes entry) :=
  (Untouched.hincrby hDid _ _).bind fun _ => (Untouched.hincrby hDid _ _).bind fun _ =>
    Untouched.xadd hQueue _ _

theorem untouched_storeSender {k : Key} (fromDidHash : Option String)
    (hk : ∀ d ∈ fromDidHash, k ≠ .did d ∧ k ≠ .sendQ d) (messageHash time : String)
    (bytes : LuaNumber) (toDid : String) :
    Untouched k (storeSender fromDidHash messageHash time bytes toDid) := by
  cases fromDidHash with
  | none => exact .pure none
  | some d =>
    exact (untouched_enqueue (hk d rfl).1 (hk d rfl).2 _ _ _ _ _).bind fun _ => .pure _

theorem untouched_storeMetadata {k : Key} {messageHash : String} (hk : k ≠ .msgMeta messageHash)
    (time : String) (bytes : LuaNumber) (toDidHash rq : String) (sent : Option (String × String)) :
    Untouched k (storeMetadata messageHash time bytes toDidHash rq sent) := by
  refine (Untouched.hmset hk _).bind fun _ => ?_
  cases sent with
  | none => exact .pure ()
  | some p => exact .hmset hk _

/-- The keys of messages and of their metadata. -/
def Key.OfMessage : Key → Prop
  | .msg _ => True
  | .msgMeta _ => True
  | _ => False

/-- No key of a queue or of the counters of a DID. -/
structure Key.Outside (k : Key) : Prop where
  did : ∀ d, k ≠ .did d
  queue : ∀ (side : Side) d, k ≠ side.queue d

theorem Key.OfMessage.outside {k : Key} (hk : k.OfMessage) : k.Outside where
  did := by
    rintro d rfl
    exact hk
  queue := by
    rintro (_ | _) d rfl <;> exact hk

theorem Key.outside_global : Key.Outside .global where
  did := by simp
  queue := by
    rintro (_ | _) d <;> simp [Side.queue]

/-- Who keeps an entry of a message, on either side. -/
def owner (toDidHash : String) (fromDidHash : Option String) : Side → Option String
  | .receive => some toDidHash
  | .send => fromDidHash

def metadataFields (time : String) (bytes : LuaNumber) (toDidHash : String)
    (fromDidHash : Option String) (id : Side → StreamId) : Fields :=
  [("BYTES", bytes.text), ("TO", toDidHash), ("TIMESTAMP", time),
    ("RECEIVE_ID", (id .receive).text)] ++
    match fromDidHash with
    | none => []
    | some d => [("FROM", d), ("SEND_ID", (id .send).text)]

/-- Everything an accepted store of a message changes. -/
structure Stored (messageHash message time : String) (bytes : LuaNumber) (toDidHash : String)
    (fromDidHash : Option String) (id : Side → StreamId) (b : Int) (db db' : Db) : Prop where
  length : parseI64 bytes.text = some b
  gains : ∀ side d, owner toDidHash fromDidHash side = some d → ∃ other,
    Gains side d ⟨id side, [("MSG_ID", messageHash), ("BYTES", bytes.text), other]⟩ b db db'
  same : ∀ side d, owner toDidHash fromDidHash side ≠ some d → Same side d db db'
  msg : db' (.msg messageHash) = some (.string message)
  metadata : ∃ fields, asHash (db (.msgMeta messageHash)) = .ok fields ∧
    db' (.msgMeta messageHash) =
      some (.hash (setFields (metadataFields time bytes toDidHash fromDidHash id) fields))
  others : ∀ k, k.OfMessage → k ≠ .msg messageHash → k ≠ .msgMeta messageHash → db' k = db k
  totals : counter db' .global "RECEIVED_BYTES" = counter db .global "RECEIVED_BYTES" + b ∧
    counter db' .global "RECEIVED_COUNT" = counter db .global "RECEIVED_COUNT" + 1 ∧
    ∀ f, f ≠ "RECEIVED_BYTES" → f ≠ "RECEIVED_COUNT" → counter db' .global f = counter db .global f

theorem storeSender_effect {fromDidHash : Option String} {messageHash time : String}
    {bytes : LuaNumber} {toDid : String} {db db' : Db} {sent : Option (String × String)}
    (h : storeSender fromDidHash messageHash time bytes toDid db = .ok sent db') :
    ∃ id : StreamId, sent = fromDidHash.map (fun d => (d, id.text)) ∧
      (∀ d, fromDidHash = some d → ∃ b, parseI64 bytes.text = some b ∧ Gains .send d
        ⟨id, [("MSG_ID", messageHash), ("BYTES", bytes.text), ("TO", toDid)]⟩ b db db') ∧
      (∀ side d, (side = .receive ∨ fromDidHash ≠ some d) → Same side d db db') ∧
      ∀ k, k.Outside → db' k = db k := by
  cases fromDidHash with
  | none =>
    cases h
    exact ⟨.zero, rfl, by simp, fun side d _ => Same.of_eq rfl rfl, fun _ _ => rfl⟩
  | some d =>
    obtain ⟨answer, db₁, h₁, h⟩ := (bind_ok_iff _ _ _ _ _).mp h
    cases h
    obtain ⟨id, b, rfl, hb, hGains, hSame, hKeys⟩ :=
      enqueue_effect .send h₁
    refine ⟨id, rfl, ?_, ?_, ?_⟩
    · rintro d' hd
      cases hd
      exact ⟨b, hb, hGains⟩
    · intro side d' h
      refine hSame side d' ?_
      rintro hEq
      cases hEq
      rcases h with h | h
      · cases h
      · exact h rfl
    · intro k hk
      exact hKeys k (hk.did d) (hk.queue .send d)

theorem storeMetadata_effect {messageHash time : String} {bytes : LuaNumber} {toDidHash : String}
    {fromDidHash : Option String} {id : Side → StreamId} {db db' : Db} {u : Unit}
    (h : storeMetadata messageHash time bytes toDidHash (id .receive).text
      (fromDidHash.map fun d => (d, (id .send).text)) db = .ok u db') :
    ∃ fields, asHash (db (.msgMeta messageHash)) = .ok fields ∧
      db' (.msgMeta messageHash) =
        some (.hash (setFields (metadataFields time bytes toDidHash fromDidHash id) fields)) := by
  obtain ⟨_, db₁, h₁, h⟩ := (bind_ok_iff _ _ _ _ _).mp h
  obtain ⟨fields, hFields, rfl⟩ := (hmset_ok_iff _ _ _ _ _).mp h₁
  refine ⟨fields, hFields, ?_⟩
  cases fromDidHash with
  | none =>
    cases h
    simp [metadataFields]
  | some d =>
    obtain ⟨fields', hFields', rfl⟩ := (hmset_ok_iff _ _ _ _ _).mp h
    rw [Function.update_self] at hFields'
    cases hFields'
    rw [Function.update_self]
    rfl

theorem storeRecords_effect {messageHash message time : String} {bytes : LuaNumber}
    {toDid toDidHash fromDid : String} {fromDidHash : Option String} {db db' : Db} {answer : String}
    (h : storeRecords messageHash message time bytes toDid toDidHash fromDid fromDidHash db =
      .ok answer db') :
    ∃ id b, Stored messageHash message time bytes toDidHash fromDidHash id b db db' := by
  obtain ⟨_, db₁, h₁, h⟩ := (bind_ok_iff _ _ _ _ _).mp h
  obtain ⟨_, db₂, h₂, h⟩ := (bind_ok_iff _ _ _ _ _).mp h
  obtain ⟨_, db₃, h₃, h⟩ := (bind_ok_iff _ _ _ _ _).mp h
  obtain ⟨_, db₄, h₄, h⟩ := (bind_ok_iff _ _ _ _ _).mp h
  obtain ⟨rq, db₅, h₅, h⟩ := (bind_ok_iff _ _ _ _ _).mp h
  obtain ⟨sent, db₆, h₆, h⟩ := (bind_ok_iff _ _ _ _ _).mp h
  obtain ⟨_, db₇, h₇, h⟩ := (bind_ok_iff _ _ _ _ _).mp h
  cases h
  have hBefore : ∀ k, k ≠ .msg messageHash → k ≠ .global → k ≠ .msgExpiry → db₄ k = db k :=
    fun k hMsg hGlobal hExpiry => calc
      db₄ k = db₃ k := (Untouched.rpush hExpiry _).of_ok h₄
      _ = db₂ k := (Untouched.hincrby hGlobal _ _).of_ok h₃
      _ = db₁ k := (Untouched.hincrby hGlobal _ _).of_ok h₂
      _ = db k := (Untouched.set hMsg _).of_ok h₁
  obtain ⟨idR, b, rfl, hb, hGains, hSame, hKeys⟩ := enqueue_effect .receive h₅
  obtain ⟨idS, rfl, hSent, hSame', hKeys'⟩ := storeSender_effect h₆
  generalize hId : (fun side : Side => match side with | .receive => idR | .send => idS) = id
  have hR : idR = id .receive := by rw [← hId]
  have hS : idS = id .send := by rw [← hId]
  subst hR hS
  obtain ⟨fields, hFields, hMeta⟩ := storeMetadata_effect h₇
  have hMetaKey : ∀ k, k ≠ .msgMeta messageHash → db' k = db₆ k := fun k hk =>
    (untouched_storeMetadata hk _ _ _ _ _).of_ok h₇
  have hStart : ∀ side d, Same side d db db₄ := fun side d =>
    Same.of_eq (hBefore _ (by cases side <;> simp [Side.queue]) (by cases side <;> simp [Side.queue])
      (by cases side <;> simp [Side.queue])) (hBefore _ (by simp) (by simp) (by simp))
  have hEnd : ∀ side d, Same side d db₆ db' := fun side d =>
    Same.of_eq (hMetaKey _ (by cases side <;> simp [Side.queue])) (hMetaKey _ (by simp))
  have hMessage : ∀ k, k.OfMessage → db₆ k = db₄ k := fun k hk =>
    (hKeys' k hk.outside).trans (hKeys k (hk.outside.did _) (hk.outside.queue .receive _))
  have hGlobal : db' .global = db₃ .global := calc
    db' .global = db₆ .global := hMetaKey _ (by simp)
    _ = db₅ .global := (untouched_storeSender _ (by simp) _ _ _ _).of_ok h₆
    _ = db₄ .global := hKeys _ (by simp) (by simp [Side.queue])
    _ = db₃ .global := (Untouched.rpush (by simp) _).of_ok h₄
  refine ⟨id, b, hb, ?_, ?_, ?_, ?_, ?_, ?_⟩
  · rintro (_ | _) d hOwner
    · cases hOwner
      refine ⟨_, ((hStart .receive _).gains hGains).same ?_⟩
      exact (hSame' .receive _ (.inl rfl)).trans (hEnd _ _)
    · obtain ⟨b', hb', hGains'⟩ := hSent d hOwner
      rw [hb] at hb'
      cases hb'
      refine ⟨_, (((hStart .send _).trans (hSame .send d (by simp))).gains hGains').same (hEnd _ _)⟩
  · intro side d hOwner
    refine (hStart side d).trans ((hSame side d ?_).trans ((hSame' side d ?_).trans (hEnd side d)))
    · rintro hEq
      cases hEq
      exact hOwner rfl
    · cases side with
      | receive => exact .inl rfl
      | send => exact .inr hOwner
  · calc db' (.msg messageHash)
        _ = db₆ (.msg messageHash) := hMetaKey _ (by simp)
        _ = db₄ (.msg messageHash) := hMessage _ trivial
        _ = db₁ (.msg messageHash) :=
          ((Untouched.rpush (by simp) _).of_ok h₄).trans (((Untouched.hincrby (by simp) _ _).of_ok
            h₃).trans ((Untouched.hincrby (by simp) _ _).of_ok h₂))
        _ = some (.string message) := by
          obtain rfl := (set_ok_iff _ _ _ _ _).mp h₁
          exact Function.update_self ..
  · refine ⟨fields, ?_, hMeta⟩
    rw [← hFields, hMessage (.msgMeta messageHash) trivial,
      hBefore _ (by simp) (by simp) (by simp)]
  · intro k hk hMsg hMeta
    rw [hMetaKey k hMeta, hMessage k hk]
    refine hBefore k hMsg ?_ ?_
    · rintro rfl
      exact hk
    · rintro rfl
      exact hk
  · obtain ⟨b', c, hb', hc, hBytes, hCount, hRest⟩ :=
      counter_of_hincrby_hincrby (by decide) h₂ h₃
    rw [hb] at hb'
    have hOne : parseI64 "1" = some 1 := by decide
    rw [hOne] at hc
    cases hb'
    cases hc
    have hFirst : ∀ f, counter db₁ .global f = counter db .global f := fun f =>
      counter_congr (field_congr ((Untouched.set (by simp) _).of_ok h₁) f)
    have hLast : ∀ f, counter db' .global f = counter db₃ .global f := fun f =>
      counter_congr (field_congr hGlobal f)
    refine ⟨?_, ?_, ?_⟩
    · rw [hLast, hBytes, hFirst]
    · rw [hLast, hCount, hFirst]
    · intro f hf hf'
      rw [hLast, hRest f hf hf', hFirst]

/-- The metadata a delete reads, as a store wrote it: the owner and the entry of each side. -/
structure Metadata (fields : Fields) (n : Nat) (id : Side → StreamId) : Prop where
  bytes : fields.lookup "BYTES" = some n.repr
  small : n < 2 ^ 53
  ids : ∀ side, fields.lookup side.idField =
    (fields.lookup side.ownerField).map fun _ => (id side).text

/-- Everything an accepted delete of a message changes. -/
structure Deleted (messageHash : String) (fields : Fields) (n : Nat) (id : Side → StreamId)
    (db db' : Db) : Prop where
  loses : ∀ side d, fields.lookup side.ownerField = some d → Loses side d (id side) n db db'
  same : ∀ side d, fields.lookup side.ownerField ≠ some d → Same side d db db'
  msg : db' (.msg messageHash) = none
  metadata : db' (.msgMeta messageHash) = none
  others : ∀ k, k.OfMessage → k ≠ .msg messageHash → k ≠ .msgMeta messageHash → db' k = db k
  totals : counter db' .global "DELETED_BYTES" = counter db .global "DELETED_BYTES" + n ∧
    counter db' .global "DELETED_COUNT" = counter db .global "DELETED_COUNT" + 1 ∧
    ∀ f, f ≠ "DELETED_BYTES" → f ≠ "DELETED_COUNT" → counter db' .global f = counter db .global f

theorem tonumber_repr {strtod : String → Option LuaNumber} {n : Nat} (h : n < 2 ^ 53) :
    tonumber strtod n.repr = some (.integer n) := by
  simp only [tonumber, parseNat_repr, if_pos h]

theorem inI64_of_small {n : Nat} (h : n < 2 ^ 53) : inI64 n ∧ inI64 (-n) := by
  unfold inI64
  omega

theorem negated_repr (strtod : String → Option LuaNumber) {n : Nat} (hPositive : 0 < n)
    (hn : n < 2 ^ 53) (db : Db) : negated strtod n.repr db = .ok (toString (-(n : Int))) db := by
  have hNeg : (LuaNumber.integer n).neg = .integer (-n) := if_neg (by omega)
  rw [negated, tonumber_repr hn, notNil_some_bind, hNeg]
  rfl

/-- Redis takes `-0` for no integer. -/
theorem deleteRecords_zero (strtod : String → Option LuaNumber) (d bytesField countField : String)
    (queue : Key) (id : Option String) (db : Db) :
    ∃ e, deleteRecords strtod d bytesField countField queue (0).repr id db = .error e db := by
  have hNegated : negated strtod (0).repr db = .ok "-0" db := by
    rw [negated, tonumber_repr (by decide)]
    rfl
  have hNot : parseI64 "-0" = none := by decide
  rw [deleteRecords, bind_of_ok hNegated]
  cases hRun : hincrby (.did d) bytesField "-0" db with
  | error e db₁ =>
    obtain rfl := hincrby_error hRun
    exact ⟨e, bind_of_error hRun⟩
  | ok u db₁ =>
    obtain ⟨i, j, hi, -⟩ := field_of_hincrby hRun
    rw [hNot] at hi
    cases hi

theorem positive_of_deleteRecords {strtod : String → Option LuaNumber} {d bytesField countField : String}
    {queue : Key} {id : Option String} {n : Nat} {db db' : Db} {u : Unit}
    (h : deleteRecords strtod d bytesField countField queue n.repr id db = .ok u db') : 0 < n := by
  rcases Nat.eq_zero_or_pos n with rfl | hPositive
  · obtain ⟨e, hZero⟩ := deleteRecords_zero strtod d bytesField countField queue id db
    rw [hZero] at h
    cases h
  · exact hPositive

theorem deleteRecords_effect {strtod : String → Option LuaNumber} (side : Side) {d : String}
    {n : Nat} {id : StreamId} {db db' : Db} {u : Unit} (hn : n < 2 ^ 53)
    (h : deleteRecords strtod d side.bytesField side.countField (side.queue d) n.repr (some id.text)
      db = .ok u db') :
    Loses side d id n db db' ∧ (∀ side' d', (side', d') ≠ (side, d) → Same side' d' db db') ∧
      ∀ k, k ≠ .did d → k ≠ side.queue d → db' k = db k := by
  rw [deleteRecords, bind_of_ok (negated_repr strtod (positive_of_deleteRecords h) hn db)] at h
  obtain ⟨_, db₁, h₁, h⟩ := (bind_ok_iff _ _ _ _ _).mp h
  obtain ⟨_, db₂, h₂, h⟩ := (bind_ok_iff _ _ _ _ _).mp h
  obtain ⟨b, c, hb, hc, hBytes, hCount, hKeys, hSame⟩ := counters_effect h₁ h₂
  rw [parseI64_toString (inI64_of_small hn).2] at hb
  have hOne : parseI64 "-1" = some (-1) := by decide
  rw [hOne] at hc
  cases hb
  cases hc
  obtain ⟨id', _, hId, h⟩ := (bind_ok_iff _ _ _ _ _).mp h
  cases hId
  obtain ⟨hLast, hEntries⟩ := xdel_effect h
  have hQueue : db₂ (side.queue d) = db (side.queue d) := hKeys _ (side.queue_ne_did d d)
  have hXdel : ∀ k, k ≠ side.queue d → db' k = db₂ k := fun k hk =>
    (Untouched.xdel hk _).of_ok h
  have hDid : ∀ d', db' (.did d') = db₂ (.did d') := fun d' =>
    hXdel _ (side.queue_ne_did d d').symm
  refine ⟨?_, ?_, ?_⟩
  · exact {
      lastId := by rw [hLast, lastIdAt_congr hQueue]
      entries := by rw [hEntries, entriesAt_congr hQueue]
      bytes := by
        rw [counter_congr (field_congr (hDid d) _), hBytes]
        omega
      count := by
        rw [counter_congr (field_congr (hDid d) _), hCount]
        omega }
  · intro side' d' hOther
    refine (hSame side' d' hOther).trans (Same.of_eq (hXdel _ ?_) (hDid d'))
    exact fun hEq => hOther (by simpa using Side.queue_inj.mp hEq)
  · intro k hk hk'
    exact (hXdel k hk').trans (hKeys k hk)

theorem deleteReceiver_effect {strtod : String → Option LuaNumber} {fields : Fields} {n : Nat}
    {id : Side → StreamId} {db db' : Db} {u : Unit} (hFields : Metadata fields n id)
    (h : deleteReceiver strtod fields n.repr db = .ok u db') :
    ∃ d, fields.lookup "TO" = some d ∧ Loses .receive d (id .receive) n db db' ∧
      (∀ side' d', (side', d') ≠ (.receive, d) → Same side' d' db db') ∧
      ∀ k, k.Outside → db' k = db k := by
  obtain ⟨d, db₁, hTo, h⟩ := (bind_ok_iff _ _ _ _ _).mp h
  cases hLookup : fields.lookup "TO" with
  | none =>
    rw [hLookup] at hTo
    cases hTo
  | some receiver =>
    rw [hLookup] at hTo
    cases hTo
    have hId : fields.lookup "RECEIVE_ID" = some (id .receive).text := by
      have := hFields.ids .receive
      simpa [Side.idField, Side.ownerField, hLookup] using this
    rw [hId] at h
    obtain ⟨hLoses, hSame, hKeys⟩ := deleteRecords_effect .receive hFields.small h
    exact ⟨d, rfl, hLoses, hSame, fun k hk => hKeys k (hk.did d) (hk.queue .receive d)⟩

theorem deleteSender_effect {strtod : String → Option LuaNumber} {fields : Fields} {n : Nat}
    {id : Side → StreamId} {db db' : Db} {u : Unit} (hFields : Metadata fields n id)
    (h : deleteSender strtod fields n.repr db = .ok u db') :
    (∀ d, fields.lookup "FROM" = some d → Loses .send d (id .send) n db db') ∧
      (∀ side d, (side = .receive ∨ fields.lookup "FROM" ≠ some d) → Same side d db db') ∧
      ∀ k, k.Outside → db' k = db k := by
  have hIds := hFields.ids .send
  simp only [Side.idField, Side.ownerField] at hIds
  unfold deleteSender at h
  cases hLookup : fields.lookup "FROM" with
  | none =>
    rw [hLookup] at hIds
    rw [hIds] at h
    cases h
    exact ⟨by simp, fun side d _ => Same.of_eq rfl rfl, fun _ _ => rfl⟩
  | some d =>
    rw [hLookup] at hIds
    rw [hIds, hLookup] at h
    obtain ⟨d', _, hd, h⟩ := (bind_ok_iff _ _ _ _ _).mp h
    cases hd
    obtain ⟨hLoses, hSame, hKeys⟩ := deleteRecords_effect .send hFields.small h
    refine ⟨?_, ?_, fun k hk => hKeys k (hk.did d) (hk.queue .send d)⟩
    · rintro d' hd
      cases hd
      exact hLoses
    · intro side d' hOther
      refine hSame side d' ?_
      rintro hEq
      cases hEq
      rcases hOther with h | h
      · cases h
      · exact h rfl

theorem deleteOwned_effect {strtod : String → Option LuaNumber} {messageHash : String}
    {fields : Fields} {n : Nat} {id : Side → StreamId} {db db' : Db} {answer : String}
    (hFields : Metadata fields n id)
    (h : deleteOwned strtod messageHash fields n.repr db = .ok answer db') :
    Deleted messageHash fields n id db db' := by
  obtain ⟨_, db₁, h₁, h⟩ := (bind_ok_iff _ _ _ _ _).mp h
  obtain ⟨_, db₂, h₂, h⟩ := (bind_ok_iff _ _ _ _ _).mp h
  obtain ⟨_, db₃, h₃, h⟩ := (bind_ok_iff _ _ _ _ _).mp h
  obtain ⟨_, db₄, h₄, h⟩ := (bind_ok_iff _ _ _ _ _).mp h
  obtain ⟨_, db₅, h₅, h⟩ := (bind_ok_iff _ _ _ _ _).mp h
  obtain ⟨_, db₆, h₆, h⟩ := (bind_ok_iff _ _ _ _ _).mp h
  cases h
  obtain ⟨d, hTo, hLoses, hSame, hKeys⟩ := deleteReceiver_effect hFields h₄
  obtain ⟨hLoses', hSame', hKeys'⟩ := deleteSender_effect hFields h₅
  obtain rfl := (del_ok_iff _ _ _ _).mp h₆
  have hBefore : ∀ k, k ≠ .msg messageHash → k ≠ .global → db₃ k = db k := fun k hMsg hGlobal => calc
    db₃ k = db₂ k := (Untouched.hincrby hGlobal _ _).of_ok h₃
    _ = db₁ k := (Untouched.hincrby hGlobal _ _).of_ok h₂
    _ = db k := (Untouched.del hMsg).of_ok h₁
  have hStart : ∀ side d, Same side d db db₃ := fun side d =>
    Same.of_eq (hBefore _ (by cases side <;> simp [Side.queue]) (by cases side <;> simp [Side.queue]))
      (hBefore _ (by simp) (by simp))
  have hEnd : ∀ side d, Same side d db₅ (Function.update db₅ (.msgMeta messageHash) none) :=
    fun side d => Same.of_eq (Function.update_of_ne (by cases side <;> simp [Side.queue]) _ _)
      (Function.update_of_ne (by simp) _ _)
  have hMessage : ∀ k, k.OfMessage → db₅ k = db₃ k := fun k hk =>
    (hKeys' k hk.outside).trans (hKeys k hk.outside)
  have hGlobal : Function.update db₅ (.msgMeta messageHash) none .global = db₃ .global := calc
    Function.update db₅ (.msgMeta messageHash) none .global = db₅ .global :=
      Function.update_of_ne (by simp) _ _
    _ = db₄ .global := hKeys' _ Key.outside_global
    _ = db₃ .global := hKeys _ Key.outside_global
  refine ⟨?_, ?_, ?_, Function.update_self .., ?_, ?_⟩
  · rintro (_ | _) d' hOwner
    · rw [Side.ownerField, hTo] at hOwner
      cases hOwner
      exact ((hStart .receive d).loses hLoses).same ((hSame' .receive d (.inl rfl)).trans (hEnd _ _))
    · exact (((hStart .send d').trans (hSame .send d' (by simp))).loses (hLoses' d' hOwner)).same
        (hEnd _ _)
  · intro side d' hOwner
    refine (hStart side d').trans ((hSame side d' ?_).trans ((hSame' side d' ?_).trans (hEnd _ _)))
    · rintro hEq
      cases hEq
      exact hOwner hTo
    · cases side with
      | receive => exact .inl rfl
      | send => exact .inr hOwner
  · rw [Function.update_of_ne (by simp), hMessage (.msg messageHash) trivial,
      (Untouched.hincrby (by simp) _ _).of_ok h₃, (Untouched.hincrby (by simp) _ _).of_ok h₂]
    obtain rfl := (del_ok_iff _ _ _ _).mp h₁
    exact Function.update_self ..
  · intro k hk hMsg hMeta
    rw [Function.update_of_ne hMeta, hMessage k hk]
    refine hBefore k hMsg ?_
    rintro rfl
    exact hk
  · obtain ⟨b, c, hb, hc, hBytes, hCount, hRest⟩ := counter_of_hincrby_hincrby (by decide) h₂ h₃
    have hParse : parseI64 n.repr = some (n : Int) := parseI64_toString (inI64_of_small hFields.small).1
    have hOne : parseI64 "1" = some 1 := by decide
    rw [hParse] at hb
    rw [hOne] at hc
    cases hb
    cases hc
    have hFirst : ∀ f, counter db₁ .global f = counter db .global f := fun f =>
      counter_congr (field_congr ((Untouched.del (by simp)).of_ok h₁) f)
    have hLast := fun f => counter_congr (f := f) (field_congr hGlobal f)
    refine ⟨?_, ?_, ?_⟩
    · rw [hLast, hBytes, hFirst]
    · rw [hLast, hCount, hFirst]
    · intro f hf hf'
      rw [hLast, hRest f hf hf', hFirst]

namespace DatabaseHandler

variable {env : Environment} {sessionId message toDid hash : String} {fromDid : Option String}
  {time : ServerTime} {db db' : Db}

theorem query_ok_iff {α : Type} {context : String} {c : Script α} {a : α} :
    query env sessionId context c db = .ok a db' ↔ c db = .ok a db' := by
  unfold query
  cases c db <;> simp

theorem query_of_ok {α : Type} {context : String} {c : Script α} {a : α} (h : c db = .ok a db') :
    query env sessionId context c db = .ok a db' := by
  rw [query, h]

theorem query_of_error {α : Type} {context : String} {c : Script α} {e : RedisError}
    (h : c db = .error e db') : query env sessionId context c db =
      .error (.databaseError sessionId (context ++ env.describe e)) db' := by
  rw [query, h]

/-- The records a store of the handler writes. -/
def records (env : Environment) (time : ServerTime) (message toDid : String)
    (fromDid : Option String) : Script String :=
  storeRecords (env.digest message) message (formatTime time) (.integer message.utf8ByteSize) toDid
    (env.digest toDid) (fromDid.getD "ANONYMOUS") (fromDid.map env.digest)

theorem fcall_storeMessage {env : Environment} {message toDid : String} {fromDid : Option String}
    (hArgs : ([env.digest message] ++ storeArgs env message toDid fromDid).all
      (·.utf8ByteSize ≤ protoMaxBulkLen) = true) (time : ServerTime) :
    message.utf8ByteSize < 2 ^ 53 ∧
      fcall (Mediator.storeMessage env.strtod time) [env.digest message] (storeArgs env message toDid fromDid) =
        records env time message toDid fromDid := by
  have hSmall : message.utf8ByteSize < 2 ^ 53 := by
    have hLimit : message.utf8ByteSize ≤ protoMaxBulkLen := by
      have := List.all_eq_true.mp hArgs message (by simp [storeArgs])
      simpa using this
    have : protoMaxBulkLen < 2 ^ 53 := by decide
    omega
  refine ⟨hSmall, ?_⟩
  rw [fcall, if_pos hArgs]
  cases fromDid <;> simp [Mediator.storeMessage, storeArgs, tonumber_repr hSmall, records]

/-- A store is refused for its size, or writes its records. -/
theorem storeMessage_cases (env : Environment) (time : ServerTime)
    (sessionId message toDid : String) (fromDid : Option String) (db : Db) :
    (∃ e, storeMessage env time sessionId message toDid fromDid db = .error e db) ∨
      message.utf8ByteSize < 2 ^ 53 ∧
        ((∃ answer db', records env time message toDid fromDid db = .ok answer db' ∧
          storeMessage env time sessionId message toDid fromDid db = .ok (env.digest message) db') ∨
        ∃ e e' db', records env time message toDid fromDid db = .error e db' ∧
          storeMessage env time sessionId message toDid fromDid db = .error e' db') := by
  unfold storeMessage
  by_cases hArgs : ([env.digest message] ++ storeArgs env message toDid fromDid).all
      (·.utf8ByteSize ≤ protoMaxBulkLen) = true
  · right
    obtain ⟨hSmall, hCall⟩ := fcall_storeMessage hArgs time
    rw [hCall]
    refine ⟨hSmall, ?_⟩
    cases hRun : records env time message toDid fromDid db with
    | ok answer db' => exact .inl ⟨answer, db', rfl, bind_of_ok (query_of_ok hRun)⟩
    | error e db' => exact .inr ⟨e, _, db', rfl, bind_of_error (query_of_error hRun)⟩
  · left
    have hRefused : fcall (Mediator.storeMessage env.strtod time) [env.digest message]
        (storeArgs env message toDid fromDid) db =
          .error (.reply "Protocol error: invalid bulk length") db := by
      rw [fcall, if_neg hArgs]
      rfl
    exact ⟨_, bind_of_error (query_of_error hRefused)⟩

/-- A store that the handler reports as done went through to the end of the function. -/
theorem storeMessage_effect
    (h : storeMessage env time sessionId message toDid fromDid db = .ok hash db') :
    message.utf8ByteSize < 2 ^ 53 ∧
      ∃ id, Stored (env.digest message) message (formatTime time)
        (.integer message.utf8ByteSize) (env.digest toDid) (fromDid.map env.digest) id
        message.utf8ByteSize db db' := by
  rcases storeMessage_cases env time sessionId message toDid fromDid db with
    ⟨e, hRefused⟩ | ⟨hSmall, ⟨answer, db₁, hRecords, hRun⟩ | ⟨e, e', db₁, -, hRun⟩⟩
  · rw [hRefused] at h
    cases h
  · rw [hRun] at h
    cases h
    obtain ⟨id, b, hStored⟩ := storeRecords_effect hRecords
    have hb : b = message.utf8ByteSize := by
      have := hStored.length
      rw [LuaNumber.text, parseI64_toString (inI64_of_small hSmall).1] at this
      exact (Option.some.inj this).symm
    exact ⟨hSmall, id, hb ▸ hStored⟩
  · rw [hRun] at h
    cases h

theorem deleteOwned_answer {strtod : String → Option LuaNumber} {messageHash bytes answer : String}
    {fields : Fields} (h : deleteOwned strtod messageHash fields bytes db = .ok answer db') :
    answer = "OK" := by
  obtain ⟨_, db₁, -, h⟩ := (bind_ok_iff _ _ _ _ _).mp h
  obtain ⟨_, db₂, -, h⟩ := (bind_ok_iff _ _ _ _ _).mp h
  obtain ⟨_, db₃, -, h⟩ := (bind_ok_iff _ _ _ _ _).mp h
  obtain ⟨_, db₄, -, h⟩ := (bind_ok_iff _ _ _ _ _).mp h
  obtain ⟨_, db₅, -, h⟩ := (bind_ok_iff _ _ _ _ _).mp h
  obtain ⟨_, db₆, -, h⟩ := (bind_ok_iff _ _ _ _ _).mp h
  cases h
  rfl

/-- A delete is refused, or the requester owns the message and it takes its records out. -/
theorem deleteMessage_cases (env : Environment) (sessionId didHash messageHash : String) (db : Db) :
    (∃ e, deleteMessage env sessionId didHash messageHash db = .error e db) ∨
      ∃ fields bytes, asHash (db (.msgMeta messageHash)) = .ok fields ∧
        (fields.lookup "TO" = some didHash ∨ fields.lookup "FROM" = some didHash) ∧
        fields.lookup "BYTES" = some bytes ∧
        ((∃ db', deleteOwned env.strtod messageHash fields bytes db = .ok "OK" db' ∧
          deleteMessage env sessionId didHash messageHash db = .ok () db') ∨
        ∃ e e' db', deleteOwned env.strtod messageHash fields bytes db = .error e db' ∧
          deleteMessage env sessionId didHash messageHash db = .error e' db') := by
  have hRefuse : ∀ e, fcall (Mediator.deleteMessage env.strtod) [messageHash] [didHash] db =
      .error e db → ∃ e, deleteMessage env sessionId didHash messageHash db = .error e db :=
    fun e h => ⟨_, bind_of_error (query_of_error h)⟩
  by_cases hArgs : ([messageHash] ++ [didHash]).all (·.utf8ByteSize ≤ protoMaxBulkLen) = true
  case neg =>
    refine .inl (hRefuse (.reply "Protocol error: invalid bulk length") ?_)
    rw [fcall, if_neg hArgs]
    rfl
  case pos =>
    have hCall : fcall (Mediator.deleteMessage env.strtod) [messageHash] [didHash] =
        Mediator.deleteMessage env.strtod [messageHash] [didHash] := by
      rw [fcall, if_pos hArgs]
    cases hMeta : hgetall (.msgMeta messageHash) db with
    | error e db₁ =>
      obtain ⟨-, rfl⟩ := (ofKey_error_iff _ _ _ _ _).mp hMeta
      refine .inl (hRefuse e ?_)
      rw [hCall]
      exact bind_of_error hMeta
    | ok fields db₁ =>
      obtain ⟨hFields, rfl⟩ := (ofKey_ok_iff _ _ _ _ _).mp hMeta
      have hScript : fcall (Mediator.deleteMessage env.strtod) [messageHash] [didHash] db₁ =
          deleteChecked env.strtod messageHash didHash fields db₁ := by
        rw [hCall]
        exact bind_of_ok hMeta
      by_cases hOwner : fields.lookup "TO" ≠ some didHash ∧ fields.lookup "FROM" ≠ some didHash
      · rw [deleteChecked, if_pos hOwner] at hScript
        exact .inl (hRefuse _ hScript)
      rw [deleteChecked, if_neg hOwner] at hScript
      cases hBytes : fields.lookup "BYTES" with
      | none =>
        rw [hBytes] at hScript
        exact .inl (hRefuse _ hScript)
      | some bytes =>
        rw [hBytes] at hScript
        refine .inr ⟨fields, bytes, hFields, ?_, hBytes, ?_⟩
        · by_contra hNo
          exact hOwner (not_or.mp hNo)
        · cases hOwned : deleteOwned env.strtod messageHash fields bytes db₁ with
          | ok answer db' =>
            obtain rfl := deleteOwned_answer hOwned
            exact .inl ⟨db', rfl, bind_of_ok (query_of_ok (hScript.trans hOwned))⟩
          | error e db' =>
            exact .inr ⟨e, _, db', rfl, bind_of_error (query_of_error (hScript.trans hOwned))⟩

/-- A delete that the handler reports as done went through to the end of the function. -/
theorem deleteMessage_effect {didHash messageHash : String} {u : Unit}
    (h : deleteMessage env sessionId didHash messageHash db = .ok u db') :
    ∃ fields bytes, asHash (db (.msgMeta messageHash)) = .ok fields ∧
      fields.lookup "BYTES" = some bytes ∧
      deleteOwned env.strtod messageHash fields bytes db = .ok "OK" db' := by
  rcases deleteMessage_cases env sessionId didHash messageHash db with ⟨e, hRefused⟩ |
    ⟨fields, bytes, hFields, -, hBytes, ⟨db₁, hOwned, hRun⟩ | ⟨e, e', db₁, -, hRun⟩⟩
  · rw [hRefused] at h
    cases h
  · rw [hRun] at h
    cases h
    exact ⟨fields, bytes, hFields, hBytes, hOwned⟩
  · rw [hRun] at h
    cases h

end DatabaseHandler

end AffinidiMessaging.Mediator
