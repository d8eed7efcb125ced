import AffinidiMessaging.Mediator.Availability

/-! # When `delete_message` is exact

A message is there once: its metadata name one entry of each owner's queue, and no
other entry names it. The function deletes it exactly if Redis accepts all writes.
-/

namespace AffinidiMessaging.Mediator

open Redis Text Fallible

/-- The writes for one queue, once Lua has negated the size. -/
def withdraw (side : Side) (d amount id : String) : Script Unit := do
  hincrby (.did d) side.bytesField amount
  hincrby (.did d) side.countField "-1"
  xdel (side.queue d) id

def withdrawOwner (fields : Fields) (amount : String) (side : Side) : Script Unit :=
  match fields.lookup side.ownerField, fields.lookup side.idField with
  | some d, some id => withdraw side d amount id
  | _, _ => pure ()

/-- `delete_message` on metadata with their ids, once Lua has negated the size. -/
def deleteWrites (h : String) (fields : Fields) (bytes amount : String) : Script String := do
  del (.msg h)
  hincrby .global "DELETED_BYTES" bytes
  hincrby .global "DELETED_COUNT" "1"
  withdrawOwner fields amount .receive
  withdrawOwner fields amount .send
  del (.msgMeta h)
  return "OK"

/-- The records of a message that was stored once. -/
structure StoredAs (db : Db) (h : String) (fields : Fields) (n : Nat) (id : Side → StreamId) : Prop where
  bytes : fields.lookup "BYTES" = some n.repr
  positive : 0 < n
  receiver : (fields.lookup "TO").isSome = true
  ids : ∀ side, fields.lookup side.idField =
    (fields.lookup side.ownerField).map fun _ => (id side).text
  named : ∀ side d, fields.lookup side.ownerField = some d →
    ∃ e ∈ entriesAt db (side.queue d), e.id = id side
  own : ∀ side d, ∀ e ∈ entriesAt db (side.queue d), e.fields.lookup "MSG_ID" = some h ↔
    fields.lookup side.ownerField = some d ∧ e.id = id side

def StoredOnce (db : Db) : Prop :=
  ∀ h fields, db (.msgMeta h) = some (.hash fields) → ∃ n id, StoredAs db h fields n id

/-- What an exact delete of a message changes, and everything else as it was. -/
structure MessageDeleted (h : String) (fields : Fields) (n : Nat) (db db' : Db) : Prop where
  msg : db' (.msg h) = none
  metadata : db' (.msgMeta h) = none
  entries : ∀ (side : Side) d, entriesAt db' (side.queue d) =
    (entriesAt db (side.queue d)).filter fun e => e.fields.lookup "MSG_ID" ≠ some h
  lastId : ∀ (side : Side) d, lastIdAt db' (side.queue d) = lastIdAt db (side.queue d)
  queueBytes : ∀ (side : Side) d, fields.lookup side.ownerField = some d →
    counter db' (.did d) side.bytesField = counter db (.did d) side.bytesField - n
  queueCount : ∀ (side : Side) d, fields.lookup side.ownerField = some d →
    counter db' (.did d) side.countField = counter db (.did d) side.countField - 1
  deletedBytes : counter db' .global "DELETED_BYTES" = counter db .global "DELETED_BYTES" + n
  deletedCount : counter db' .global "DELETED_COUNT" = counter db .global "DELETED_COUNT" + 1
  otherTotals : ∀ f, f ≠ "DELETED_BYTES" → f ≠ "DELETED_COUNT" →
    field db' .global f = field db .global f
  otherFields : ∀ d f, (∀ side : Side, fields.lookup side.ownerField = some d →
    f ≠ side.bytesField ∧ f ≠ side.countField) → field db' (.did d) f = field db (.did d) f
  otherKeys : ∀ k, k ≠ .msg h → k ≠ .msgMeta h → k ≠ .global →
    (∀ (side : Side) d, fields.lookup side.ownerField = some d → k ≠ .did d ∧ k ≠ side.queue d) →
      db' k = db k

/-- A delete answers exactly its owners, is exact then, and changes nothing else. -/
structure DeletesExactly (env : Environment) (sessionId d h : String) (db : Db) : Prop where
  answers : (∃ db', DatabaseHandler.deleteMessage env sessionId d h db = .ok () db') ↔ Owns db d h
  exact : ∀ db', DatabaseHandler.deleteMessage env sessionId d h db = .ok () db' →
    ∃ fields n, db (.msgMeta h) = some (.hash fields) ∧ fields.lookup "BYTES" = some n.repr ∧
      MessageDeleted h fields n db db'
  refused : ∀ e db', DatabaseHandler.deleteMessage env sessionId d h db = .error e db' → db' = db

def withdrawAccepted (side : Side) (d amount id : String) (db : Db) : Bool :=
  accepts (hincrby (.did d) side.bytesField amount) db &&
    (accepts (hincrby (.did d) side.countField "-1") db && accepts (xdel (side.queue d) id) db)

def ownerAccepted (fields : Fields) (amount : String) (side : Side) (db : Db) : Bool :=
  match fields.lookup side.ownerField, fields.lookup side.idField with
  | some d, some id => withdrawAccepted side d amount id db
  | _, _ => true

/-- Every write of the function, tried on the database as it stands, is accepted. -/
def deleteUnobstructed (fields : Fields) (bytes amount : String) (db : Db) : Bool :=
  accepts (hincrby .global "DELETED_BYTES" bytes) db &&
    (accepts (hincrby .global "DELETED_COUNT" "1") db &&
      (ownerAccepted fields amount .receive db && ownerAccepted fields amount .send db))

section
variable {side : Side} {d amount id : String} {db db' : Db}

theorem withdrawAccepted_congr (hDid : db' (.did d) = db (.did d))
    (hQueue : db' (side.queue d) = db (side.queue d)) :
    withdrawAccepted side d amount id db' = withdrawAccepted side d amount id db := by
  simp only [withdrawAccepted, accepts_hincrby_congr hDid, accepts_xdel_congr hQueue]

theorem accepts_withdraw (side : Side) (d amount id : String) (db : Db) :
    accepts (withdraw side d amount id) db = withdrawAccepted side d amount id db := by
  refine accepts_bind (fun db =>
    accepts (hincrby (.did d) side.countField "-1") db && accepts (xdel (side.queue d) id) db)
    fun _ db₁ h₁ => ?_
  have hQueue : db₁ (side.queue d) = db (side.queue d) :=
    (Untouched.hincrby (side.queue_ne_did d d) _ _).of_ok h₁
  rw [← accepts_hincrby_of_ne (.inr (side.countField_ne side)) h₁, ← accepts_xdel_congr hQueue]
  exact accepts_bind (fun db => accepts (xdel (side.queue d) id) db) fun _ db₂ h₂ =>
    accepts_xdel_congr ((Untouched.hincrby (side.queue_ne_did d d) _ _).of_ok h₂)

/-- What a withdrawal changes: a queue and two fields of a hash. -/
theorem withdraw_effect {id : StreamId} {u : Unit}
    (h : withdraw side d amount id.text db = .ok u db') :
    ∃ i, parseI64 amount = some i ∧ Loses side d id (-i) db db' ∧
      (∀ k f, k ≠ .did d ∨ (f ≠ side.bytesField ∧ f ≠ side.countField) →
        k ≠ side.queue d → field db' k f = field db k f) ∧
      ∀ k, k ≠ .did d → k ≠ side.queue d → db' k = db k := by
  obtain ⟨_, db₁, h₁, h⟩ := (bind_ok_iff _ _ _ _ _).mp h
  obtain ⟨_, db₂, h₂, h⟩ := (bind_ok_iff _ _ _ _ _).mp h
  obtain ⟨i, j, hi, hj, hBytes, hCount, -⟩ :=
    counter_of_hincrby_hincrby (side.countField_ne side).symm h₁ h₂
  have hOne : parseI64 "-1" = some (-1) := by decide
  rw [hOne] at hj
  cases hj
  obtain ⟨hLast, hEntries⟩ := xdel_effect h
  have hXdel : ∀ k, k ≠ side.queue d → db' k = db₂ k := fun k hk => (Untouched.xdel hk _).of_ok h
  have hDid : db' (.did d) = db₂ (.did d) := hXdel _ (side.queue_ne_did d d).symm
  have hQueue : db₂ (side.queue d) = db (side.queue d) :=
    ((Untouched.hincrby (side.queue_ne_did d d) _ _).of_ok h₂).trans
      ((Untouched.hincrby (side.queue_ne_did d d) _ _).of_ok h₁)
  refine ⟨i, hi, ?_, ?_, ?_⟩
  · exact {
      lastId := hLast.trans (lastIdAt_congr hQueue)
      entries := by rw [hEntries, entriesAt_congr hQueue]
      bytes := by
        rw [counter_congr (field_congr hDid _), hBytes]
        omega
      count := by
        rw [counter_congr (field_congr hDid _), hCount]
        omega }
  · intro k f hOther hk
    have hBytesField : k ≠ .did d ∨ f ≠ side.bytesField := hOther.imp_right And.left
    have hCountField : k ≠ .did d ∨ f ≠ side.countField := hOther.imp_right And.right
    calc field db' k f
        _ = field db₂ k f := field_congr (hXdel k hk) f
        _ = field db₁ k f := field_of_hincrby_of_ne hCountField h₂
        _ = field db k f := field_of_hincrby_of_ne hBytesField h₁
  · intro k hDidKey hk
    calc db' k
        _ = db₂ k := hXdel k hk
        _ = db₁ k := (Untouched.hincrby hDidKey _ _).of_ok h₂
        _ = db k := (Untouched.hincrby hDidKey _ _).of_ok h₁

/-- What was withdrawn from one side does not decide about the other. -/
theorem withdrawAccepted_of_withdraw {side' : Side} (hSide : side' ≠ side) {d' : String} {u : Unit}
    (h : withdraw side d amount id db = .ok u db') (amount' id' : String) :
    withdrawAccepted side' d' amount' id' db' = withdrawAccepted side' d' amount' id' db := by
  obtain ⟨_, db₁, h₁, h⟩ := (bind_ok_iff _ _ _ _ _).mp h
  obtain ⟨_, db₂, h₂, h⟩ := (bind_ok_iff _ _ _ _ _).mp h
  have hQueue : db' (side'.queue d') = db (side'.queue d') := calc
    db' (side'.queue d') = db₂ (side'.queue d') :=
      (Untouched.xdel (fun hEq => hSide (Side.queue_inj.mp hEq).1) _).of_ok h
    _ = db₁ (side'.queue d') := (Untouched.hincrby (side'.queue_ne_did d' d) _ _).of_ok h₂
    _ = db (side'.queue d') := (Untouched.hincrby (side'.queue_ne_did d' d) _ _).of_ok h₁
  have hDid : db' (.did d') = db₂ (.did d') :=
    (Untouched.xdel (side.queue_ne_did d d').symm _).of_ok h
  have hBytes : accepts (hincrby (.did d') side'.bytesField amount') db' =
      accepts (hincrby (.did d') side'.bytesField amount') db := by
    rw [accepts_hincrby_congr hDid,
      accepts_hincrby_of_ne (.inr (side.countField_ne side').symm) h₂,
      accepts_hincrby_of_ne (.inr fun hEq => hSide (Side.bytesField_inj hEq)) h₁]
  have hCount : accepts (hincrby (.did d') side'.countField "-1") db' =
      accepts (hincrby (.did d') side'.countField "-1") db := by
    rw [accepts_hincrby_congr hDid,
      accepts_hincrby_of_ne (.inr fun hEq => hSide (Side.countField_inj hEq)) h₂,
      accepts_hincrby_of_ne (.inr (side'.countField_ne side)) h₁]
  rw [withdrawAccepted, hBytes, hCount, accepts_xdel_congr hQueue, withdrawAccepted]

end

section
variable {db : Db} {h bytes amount : String} {fields : Fields} {n : Nat} {id : Side → StreamId}

theorem StoredAs.withdrawOwner_of_none {side : Side} (hOwner : fields.lookup side.ownerField = none) :
    withdrawOwner fields amount side = pure () := by
  rw [withdrawOwner, hOwner]

theorem StoredAs.withdrawOwner_of_some (hStored : StoredAs db h fields n id) {side : Side} {d : String}
    (hOwner : fields.lookup side.ownerField = some d) :
    withdrawOwner fields amount side = withdraw side d amount (id side).text := by
  have hId := hStored.ids side
  rw [hOwner] at hId
  rw [withdrawOwner, hOwner, hId]
  rfl

theorem ownerAccepted_congr {db db' : Db} (hDid : ∀ d, db' (.did d) = db (.did d))
    (hQueue : ∀ (side : Side) d, db' (side.queue d) = db (side.queue d)) (side : Side) :
    ownerAccepted fields amount side db' = ownerAccepted fields amount side db := by
  unfold ownerAccepted
  split
  · exact withdrawAccepted_congr (hDid _) (hQueue side _)
  · rfl

theorem accepts_withdrawOwner (fields : Fields) (amount : String) (side : Side) (db : Db) :
    accepts (withdrawOwner fields amount side) db = ownerAccepted fields amount side db := by
  unfold withdrawOwner ownerAccepted
  split
  · exact accepts_withdraw _ _ _ _ _
  · rfl

theorem ownerAccepted_of_withdrawOwner {side side' : Side} (hSide : side' ≠ side) {db db' : Db} {u : Unit}
    (hRun : withdrawOwner fields amount side db = .ok u db') :
    ownerAccepted fields amount side' db' = ownerAccepted fields amount side' db := by
  have hSame : withdrawOwner fields amount side = pure () → db' = db := fun hNothing => by
    rw [hNothing] at hRun
    cases hRun
    rfl
  cases hOwner : fields.lookup side.ownerField with
  | none => rw [hSame (by rw [withdrawOwner, hOwner])]
  | some d =>
    cases hId : fields.lookup side.idField with
    | none => rw [hSame (by rw [withdrawOwner, hOwner, hId])]
    | some id =>
      rw [withdrawOwner, hOwner, hId] at hRun
      unfold ownerAccepted
      split
      · exact withdrawAccepted_of_withdraw hSide hRun _ _
      · rfl

theorem accepts_deleteWrites (h : String) (fields : Fields) (bytes amount : String) (db : Db) :
    accepts (deleteWrites h fields bytes amount) db = deleteUnobstructed fields bytes amount db := by
  have hDel : del (.msg h) db = .ok () (Function.update db (.msg h) none) := (del_ok_iff _ _ _ _).mpr rfl
  generalize Function.update db (.msg h) none = db₁ at hDel
  have hKey : ∀ k, k ≠ .msg h → db₁ k = db k := fun k hk => (Untouched.del hk).of_ok hDel
  rw [deleteWrites, accepts_bind (deleteUnobstructed fields bytes amount),
    (accepts_iff _ _).mpr ⟨_, _, hDel⟩, Bool.true_and]
  rintro _ db₂ hRun
  rw [hDel] at hRun
  cases hRun
  rw [deleteUnobstructed, ← accepts_hincrby_congr (hKey .global (by simp))]
  refine accepts_bind (fun _ => _) fun _ db₂ h₂ => ?_
  rw [← accepts_hincrby_congr (hKey .global (by simp)),
    ← accepts_hincrby_of_ne (.inr (by decide)) h₂]
  refine accepts_bind (fun _ => _) fun _ db₃ h₃ => ?_
  have hBefore : ∀ k, k ≠ .msg h → k ≠ .global → db₃ k = db k := fun k hMsg hGlobal =>
    ((Untouched.hincrby hGlobal _ _).of_ok h₃).trans
      (((Untouched.hincrby hGlobal _ _).of_ok h₂).trans (hKey k hMsg))
  have hOwner : ∀ side, ownerAccepted fields amount side db₃ = ownerAccepted fields amount side db :=
    ownerAccepted_congr (fun d => hBefore _ (by simp) (by simp))
      fun side d => hBefore _ (by cases side <;> simp [Side.queue]) (by cases side <;> simp [Side.queue])
  rw [← hOwner, ← hOwner, ← accepts_withdrawOwner]
  refine accepts_bind (fun _ => _) fun _ db₄ h₄ => ?_
  rw [← ownerAccepted_of_withdrawOwner (by decide) h₄, ← accepts_withdrawOwner]
  exact (accepts_bind (fun _ => true) fun _ _ _ => rfl).trans (Bool.and_true _)

/-- The text of the negated size, as Lua passes it to Redis. -/
def negatedText (strtod : String → Option LuaNumber) (bytes : String) : Option String :=
  (tonumber strtod bytes).map (·.neg.text)

theorem negated_bind {β : Type} {strtod : String → Option LuaNumber}
    (hAmount : negatedText strtod bytes = some amount) (f : String → Script β) :
    negated strtod bytes >>= f = f amount := by
  obtain ⟨x, hRead, rfl⟩ := Option.map_eq_some_iff.mp hAmount
  rw [negated, hRead]
  rfl

theorem StoredAs.deleteOwned_eq {strtod : String → Option LuaNumber} (hStored : StoredAs db h fields n id)
    (hAmount : negatedText strtod bytes = some amount) :
    deleteOwned strtod h fields bytes = deleteWrites h fields bytes amount := by
  have hRecords : ∀ d (side : Side) (id : String),
      deleteRecords strtod d side.bytesField side.countField (side.queue d) bytes (some id) =
        withdraw side d amount id := fun d side id => by
    rw [deleteRecords, negated_bind hAmount]
    rfl
  have hReceiver : deleteReceiver strtod fields bytes = withdrawOwner fields amount .receive := by
    obtain ⟨d, hTo⟩ := Option.isSome_iff_exists.mp hStored.receiver
    have hId := hStored.ids .receive
    rw [show fields.lookup Side.receive.ownerField = some d from hTo] at hId
    have hWithdraw : withdrawOwner fields amount .receive = withdraw .receive d amount (id .receive).text :=
      hStored.withdrawOwner_of_some hTo
    rw [hWithdraw, deleteReceiver, hTo, notNil_some_bind,
      show fields.lookup "RECEIVE_ID" = _ from hId]
    exact hRecords d .receive _
  have hSender : deleteSender strtod fields bytes = withdrawOwner fields amount .send := by
    have hId := hStored.ids .send
    cases hFrom : fields.lookup "FROM" with
    | none =>
      rw [show fields.lookup Side.send.ownerField = none from hFrom] at hId
      have hNothing : withdrawOwner fields amount .send = pure () := StoredAs.withdrawOwner_of_none hFrom
      rw [hNothing, deleteSender, show fields.lookup "SEND_ID" = _ from hId]
      rfl
    | some d =>
      rw [show fields.lookup Side.send.ownerField = some d from hFrom] at hId
      have hWithdraw : withdrawOwner fields amount .send = withdraw .send d amount (id .send).text :=
        hStored.withdrawOwner_of_some hFrom
      rw [hWithdraw, deleteSender, show fields.lookup "SEND_ID" = _ from hId, hFrom]
      exact hRecords d .send _
  rw [deleteOwned, hReceiver, hSender, deleteWrites]

end

/-- One side without a message, `drawn` bytes being taken off its counter. -/
structure Withdrawn (side : Side) (fields : Fields) (drawn : Int) (id : StreamId) (db db' : Db) : Prop where
  loses : ∀ d, fields.lookup side.ownerField = some d → Loses side d id drawn db db'
  otherFields : ∀ d f, (fields.lookup side.ownerField = some d → f ≠ side.bytesField ∧ f ≠ side.countField) →
    field db' (.did d) f = field db (.did d) f
  otherKeys : ∀ k, (∀ d, fields.lookup side.ownerField = some d → k ≠ .did d ∧ k ≠ side.queue d) →
    db' k = db k

/-- Both sides without the message, and the message deleted. -/
structure Written (h : String) (fields : Fields) (bytes : Int) (drawn : Int) (id : Side → StreamId)
    (db db' : Db) : Prop where
  loses : ∀ side d, fields.lookup side.ownerField = some d → Loses side d (id side) drawn db db'
  same : ∀ side d, fields.lookup side.ownerField ≠ some d → Same side d db db'
  msg : db' (.msg h) = none
  metadata : db' (.msgMeta h) = none
  deletedBytes : counter db' .global "DELETED_BYTES" = counter db .global "DELETED_BYTES" + bytes
  deletedCount : counter db' .global "DELETED_COUNT" = counter db .global "DELETED_COUNT" + 1
  otherTotals : ∀ f, f ≠ "DELETED_BYTES" → f ≠ "DELETED_COUNT" →
    field db' .global f = field db .global f
  otherFields : ∀ d f, (∀ side : Side, fields.lookup side.ownerField = some d →
    f ≠ side.bytesField ∧ f ≠ side.countField) → field db' (.did d) f = field db (.did d) f
  otherKeys : ∀ k, k ≠ .msg h → k ≠ .msgMeta h → k ≠ .global →
    (∀ (side : Side) d, fields.lookup side.ownerField = some d → k ≠ .did d ∧ k ≠ side.queue d) →
      db' k = db k

section
variable {db db' : Db} {h bytes amount : String} {fields : Fields} {n : Nat} {drawn : Int}
  {id : Side → StreamId} {u : Unit}

theorem Withdrawn.same {side side' : Side} {id : StreamId} (hDrawn : Withdrawn side fields drawn id db db')
    {d : String} (hOther : side' ≠ side ∨ fields.lookup side.ownerField ≠ some d) : Same side' d db db' := by
  have hSide : fields.lookup side.ownerField = some d → side' ≠ side := fun hOwner =>
    hOther.resolve_right fun hNot => hNot hOwner
  have hQueue : db' (side'.queue d) = db (side'.queue d) := by
    refine hDrawn.otherKeys _ fun d' hOwner => ⟨side'.queue_ne_did d d', fun hEq => ?_⟩
    obtain ⟨hSame, rfl⟩ := Side.queue_inj.mp hEq
    exact hSide hOwner hSame
  exact {
    entries := entriesAt_congr hQueue
    lastId := lastIdAt_congr hQueue
    bytes := counter_congr (hDrawn.otherFields _ _ fun hOwner =>
      ⟨fun hEq => hSide hOwner (Side.bytesField_inj hEq), (side.countField_ne side').symm⟩)
    count := counter_congr (hDrawn.otherFields _ _ fun hOwner =>
      ⟨side'.countField_ne side, fun hEq => hSide hOwner (Side.countField_inj hEq)⟩) }

theorem withdrawOwner_effect {db₀ : Db} (hStored : StoredAs db₀ h fields n id) {side : Side}
    (hAmount : parseI64 amount = some (-drawn)) (hRun : withdrawOwner fields amount side db = .ok u db') :
    Withdrawn side fields drawn (id side) db db' := by
  cases hOwner : fields.lookup side.ownerField with
  | none =>
    rw [StoredAs.withdrawOwner_of_none hOwner] at hRun
    cases hRun
    exact ⟨by simp [hOwner], fun _ _ _ => rfl, fun _ _ => rfl⟩
  | some d =>
    rw [hStored.withdrawOwner_of_some hOwner] at hRun
    obtain ⟨i, hi, hLoses, hFields, hKeys⟩ := withdraw_effect hRun
    rw [hAmount] at hi
    cases hi
    rw [neg_neg] at hLoses
    refine ⟨?_, ?_, ?_⟩
    · rintro d' hd
      rw [hOwner] at hd
      cases hd
      exact hLoses
    · intro d' f hOther
      refine hFields _ f ?_ (side.queue_ne_did d d').symm
      by_cases hd : d' = d
      · exact .inr (hOther (hd ▸ hOwner))
      · exact .inl (by simpa using hd)
    · intro k hOther
      exact hKeys k (hOther d hOwner).1 (hOther d hOwner).2

theorem deleteWrites_effect {db₀ : Db} (hStored : StoredAs db₀ h fields n id) {answer : String}
    (hRun : deleteWrites h fields bytes amount db = .ok answer db') :
    ∃ i drawn, parseI64 bytes = some i ∧ parseI64 amount = some (-drawn) ∧
      Written h fields i drawn id db db' := by
  obtain ⟨_, db₁, h₁, hRun⟩ := (bind_ok_iff _ _ _ _ _).mp hRun
  obtain ⟨_, db₂, h₂, hRun⟩ := (bind_ok_iff _ _ _ _ _).mp hRun
  obtain ⟨_, db₃, h₃, hRun⟩ := (bind_ok_iff _ _ _ _ _).mp hRun
  obtain ⟨_, db₄, h₄, hRun⟩ := (bind_ok_iff _ _ _ _ _).mp hRun
  obtain ⟨_, db₅, h₅, hRun⟩ := (bind_ok_iff _ _ _ _ _).mp hRun
  obtain ⟨_, db₆, h₆, hRun⟩ := (bind_ok_iff _ _ _ _ _).mp hRun
  cases hRun
  obtain ⟨i, j, hi, hj, hBytes, hCount, -⟩ := counter_of_hincrby_hincrby (by decide) h₂ h₃
  have hOne : parseI64 "1" = some 1 := by decide
  rw [hOne] at hj
  cases hj
  obtain ⟨drawn, hAmount⟩ : ∃ drawn, parseI64 amount = some (-drawn) := by
    obtain ⟨d, hTo⟩ := Option.isSome_iff_exists.mp hStored.receiver
    have hReceive : withdrawOwner fields amount .receive = withdraw .receive d amount (id .receive).text :=
      hStored.withdrawOwner_of_some hTo
    rw [hReceive] at h₄
    obtain ⟨i, hi, -⟩ := withdraw_effect h₄
    exact ⟨-i, by rw [hi, neg_neg]⟩
  have hReceive := withdrawOwner_effect hStored hAmount h₄
  have hSend := withdrawOwner_effect hStored hAmount h₅
  have hDel : ∀ k, k ≠ .msg h → db₁ k = db k := fun k hk => (Untouched.del hk).of_ok h₁
  have hBefore : ∀ k, k ≠ .msg h → k ≠ .global → db₃ k = db k := fun k hMsg hGlobal => calc
    db₃ k = db₂ k := (Untouched.hincrby hGlobal _ _).of_ok h₃
    _ = db₁ k := (Untouched.hincrby hGlobal _ _).of_ok h₂
    _ = db k := hDel k hMsg
  have hOwners : ∀ k, (∀ (side : Side) d, fields.lookup side.ownerField = some d →
      k ≠ .did d ∧ k ≠ side.queue d) → db₅ k = db₃ k := fun k hk =>
    (hSend.otherKeys k (hk .send)).trans (hReceive.otherKeys k (hk .receive))
  have hLast : ∀ k, k ≠ .msgMeta h → db' k = db₅ k := fun k hk => (Untouched.del hk).of_ok h₆
  have hGlobal : db' .global = db₃ .global :=
    (hLast _ (by simp)).trans (hOwners _ fun side d _ => ⟨by simp, by cases side <;> simp [Side.queue]⟩)
  have hStart : ∀ side d, Same side d db db₃ := fun side d =>
    Same.of_eq (hBefore _ (by cases side <;> simp [Side.queue]) (by cases side <;> simp [Side.queue]))
      (hBefore _ (by simp) (by simp))
  have hEnd : ∀ side d, Same side d db₅ db' := fun side d =>
    Same.of_eq (hLast _ (by cases side <;> simp [Side.queue])) (hLast _ (by simp))
  refine ⟨i, drawn, hi, hAmount, ?_⟩
  exact {
    loses := by
      rintro (_ | _) d hOwner
      · exact ((hStart .receive d).loses (hReceive.loses d hOwner)).same
          ((hSend.same (.inl (by decide))).trans (hEnd .receive d))
      · exact (((hStart .send d).trans (hReceive.same (.inl (by decide)))).loses
          (hSend.loses d hOwner)).same (hEnd .send d)
    same := by
      rintro (_ | _) d hOwner
      · exact (hStart .receive d).trans ((hReceive.same (.inr hOwner)).trans
          ((hSend.same (.inl (by decide))).trans (hEnd .receive d)))
      · exact (hStart .send d).trans ((hReceive.same (.inl (by decide))).trans
          ((hSend.same (.inr hOwner)).trans (hEnd .send d)))
    msg := by
      obtain rfl := (del_ok_iff _ _ _ _).mp h₁
      rw [hLast _ (by simp), hOwners _ fun side d _ => ⟨by simp, by cases side <;> simp [Side.queue]⟩,
        (Untouched.hincrby (by simp) _ _).of_ok h₃, (Untouched.hincrby (by simp) _ _).of_ok h₂]
      exact Function.update_self ..
    metadata := by
      obtain rfl := (del_ok_iff _ _ _ _).mp h₆
      exact Function.update_self ..
    deletedBytes := by
      rw [counter_congr (field_congr hGlobal _), hBytes,
        counter_congr (field_congr (hDel .global (by simp)) _)]
    deletedCount := by
      rw [counter_congr (field_congr hGlobal _), hCount,
        counter_congr (field_congr (hDel .global (by simp)) _)]
    otherTotals := by
      intro f hBytesField hCountField
      rw [field_congr hGlobal, field_of_hincrby_of_ne (.inr hCountField) h₃,
        field_of_hincrby_of_ne (.inr hBytesField) h₂, field_congr (hDel .global (by simp))]
    otherFields := by
      intro d f hOther
      rw [field_congr (hLast _ (by simp)), hSend.otherFields d f (hOther .send),
        hReceive.otherFields d f (hOther .receive), field_congr (hBefore _ (by simp) (by simp))]
    otherKeys := by
      intro k hMsg hMeta hGlobalKey hOther
      rw [hLast k hMeta, hOwners k hOther, hBefore k hMsg hGlobalKey] }

end

theorem deletedExactly_of_written {db db' : Db} {h : String} {fields : Fields} {n : Nat} {id : Side → StreamId}
    (hStored : StoredAs db h fields n id) (hWritten : Written h fields n n id db db') :
    MessageDeleted h fields n db db' where
  msg := hWritten.msg
  metadata := hWritten.metadata
  entries side d := by
    by_cases hOwner : fields.lookup side.ownerField = some d
    · rw [(hWritten.loses side d hOwner).entries]
      apply List.filter_congr
      intro e he
      rw [decide_eq_decide, not_iff_not, hStored.own side d e he]
      exact (and_iff_right hOwner).symm
    · rw [(hWritten.same side d hOwner).entries, eq_comm, List.filter_eq_self]
      intro e he
      rw [decide_eq_true_eq]
      exact fun hNames => hOwner ((hStored.own side d e he).mp hNames).1
  lastId side d := by
    by_cases hOwner : fields.lookup side.ownerField = some d
    · exact (hWritten.loses side d hOwner).lastId
    · exact (hWritten.same side d hOwner).lastId
  queueBytes side d hOwner := (hWritten.loses side d hOwner).bytes
  queueCount side d hOwner := (hWritten.loses side d hOwner).count
  deletedBytes := hWritten.deletedBytes
  deletedCount := hWritten.deletedCount
  otherTotals := hWritten.otherTotals
  otherFields := hWritten.otherFields
  otherKeys := hWritten.otherKeys

theorem toString_neg_natCast {n : Nat} (hPositive : 0 < n) : toString (-(n : Int)) = "-" ++ n.repr := by
  cases n with
  | zero => exact absurd hPositive (Nat.lt_irrefl 0)
  | succ m => rfl

/-- Only the size with a minus takes the size off the counters. -/
theorem drawn_eq_iff {amount : String} {drawn : Int} {n : Nat} (hPositive : 0 < n)
    (hAmount : parseI64 amount = some (-drawn)) : drawn = n ↔ amount = "-" ++ n.repr := by
  have hText := toString_of_parseI64 hAmount
  rw [← toString_neg_natCast hPositive]
  constructor
  · rintro rfl
    exact hText.symm
  · intro hEq
    have hRead := parseSigned_toString (-drawn)
    rw [hText, hEq, parseSigned_toString, Option.some.injEq] at hRead
    omega

/-- A message of the requester whose delete meets no rejected write. -/
def Deletable (env : Environment) (d h : String) (db : Db) : Prop :=
  ∀ fields bytes, db (.msgMeta h) = some (.hash fields) → fields.lookup "BYTES" = some bytes →
    (fields.lookup "TO" = some d ∨ fields.lookup "FROM" = some d) →
      negatedText env.strtod bytes = some ("-" ++ bytes) ∧
        deleteUnobstructed fields bytes ("-" ++ bytes) db = true

section
variable {env : Environment} {sessionId d h : String} {db db' : Db} {fields : Fields} {bytes : String}
  {n : Nat} {id : Side → StreamId}

theorem StoredAs.negatedText_of_ok {strtod : String → Option LuaNumber} (hStored : StoredAs db h fields n id)
    {db₀ : Db} {answer : String} (hRun : deleteOwned strtod h fields bytes db₀ = .ok answer db') :
    ∃ amount, negatedText strtod bytes = some amount := by
  refine Option.ne_none_iff_exists'.mp fun hNone => ?_
  obtain ⟨_, db₁, -, hRun⟩ := (bind_ok_iff _ _ _ _ _).mp hRun
  obtain ⟨_, db₂, -, hRun⟩ := (bind_ok_iff _ _ _ _ _).mp hRun
  obtain ⟨_, db₃, -, hRun⟩ := (bind_ok_iff _ _ _ _ _).mp hRun
  obtain ⟨_, db₄, h₄, -⟩ := (bind_ok_iff _ _ _ _ _).mp hRun
  obtain ⟨receiver, hTo⟩ := Option.isSome_iff_exists.mp hStored.receiver
  have hRead : tonumber strtod bytes = none := Option.map_eq_none_iff.mp hNone
  rw [deleteReceiver, hTo, notNil_some_bind, deleteRecords, negated, hRead] at h₄
  cases h₄

theorem DatabaseHandler.deleteMessage_owned (env : Environment) (sessionId : String)
    (hHash : h.utf8ByteSize ≤ protoMaxBulkLen) (hDid : d.utf8ByteSize ≤ protoMaxBulkLen)
    (hMeta : db (.msgMeta h) = some (.hash fields))
    (hOwner : fields.lookup "TO" = some d ∨ fields.lookup "FROM" = some d)
    (hBytes : fields.lookup "BYTES" = some bytes)
    (hOwned : deleteOwned env.strtod h fields bytes db = .ok "OK" db') :
    deleteMessage env sessionId d h db = .ok () db' := by
  have hArgs : ([h] ++ [d]).all (·.utf8ByteSize ≤ protoMaxBulkLen) = true := by simp [hHash, hDid]
  have hGet : hgetall (.msgMeta h) db = .ok fields db :=
    (ofKey_ok_iff _ _ _ _ _).mpr ⟨by rw [hMeta]; rfl, rfl⟩
  have hCall : fcall (Mediator.deleteMessage env.strtod) [h] [d] db = .ok "OK" db' := by
    rw [fcall, if_pos hArgs]
    refine (bind_of_ok hGet).trans ?_
    rw [deleteChecked, if_neg (by tauto), hBytes]
    exact hOwned
  exact bind_of_ok (query_of_ok hCall)

theorem Deletable.deleted (hOnce : StoredOnce db) (hDeletable : Deletable env d h db)
    (hMeta : db (.msgMeta h) = some (.hash fields))
    (hOwner : fields.lookup "TO" = some d ∨ fields.lookup "FROM" = some d)
    (hBytes : fields.lookup "BYTES" = some bytes) :
    ∃ db', deleteOwned env.strtod h fields bytes db = .ok "OK" db' := by
  obtain ⟨n, id, hStored⟩ := hOnce h fields hMeta
  obtain ⟨hAmount, hFree⟩ := hDeletable fields bytes hMeta hBytes hOwner
  rw [← accepts_deleteWrites h, ← hStored.deleteOwned_eq hAmount] at hFree
  obtain ⟨answer, db', hRun⟩ := (accepts_iff _ _).mp hFree
  obtain rfl := DatabaseHandler.deleteOwned_answer hRun
  exact ⟨db', hRun⟩

/-- A delete that runs to its end, whatever amount Lua has read. -/
theorem StoredAs.written_of_ok {strtod : String → Option LuaNumber} (hStored : StoredAs db h fields n id)
    (hRun : deleteOwned strtod h fields n.repr db = .ok "OK" db') :
    ∃ amount drawn, negatedText strtod n.repr = some amount ∧
      deleteUnobstructed fields n.repr amount db = true ∧ parseI64 amount = some (-drawn) ∧
      Written h fields n drawn id db db' := by
  obtain ⟨amount, hAmount⟩ := hStored.negatedText_of_ok hRun
  rw [hStored.deleteOwned_eq hAmount] at hRun
  obtain ⟨i, drawn, hi, hDrawn, hWritten⟩ := deleteWrites_effect hStored hRun
  have hFree := (accepts_iff _ _).mpr ⟨_, _, hRun⟩
  rw [accepts_deleteWrites] at hFree
  have hSize : i = n := by
    have hRead := parseSigned_toString i
    rw [toString_of_parseI64 hi, show n.repr = toString (n : Int) from rfl, parseSigned_toString,
      Option.some.injEq] at hRead
    exact hRead.symm
  exact ⟨amount, drawn, hAmount, hFree, hDrawn, hSize ▸ hWritten⟩

theorem owns_of_fields (hMeta : db (.msgMeta h) = some (.hash fields)) :
    Owns db d h ↔ fields.lookup "TO" = some d ∨ fields.lookup "FROM" = some d := by
  simp [Owns, field, hMeta]

theorem Deletable.deletesExactly (sessionId : String) (hOnce : StoredOnce db)
    (hHash : h.utf8ByteSize ≤ protoMaxBulkLen) (hDid : d.utf8ByteSize ≤ protoMaxBulkLen)
    (hDeletable : Deletable env d h db) : DeletesExactly env sessionId d h db := by
  have hCases := DatabaseHandler.deleteMessage_cases env sessionId d h db
  constructor
  case answers =>
    constructor
    · rintro ⟨db', hRun⟩
      rcases hCases with ⟨e, hRefused⟩ | ⟨fields, bytes, hFields, hOwner, hBytes, -⟩
      · rw [hRefused] at hRun
        cases hRun
      · exact (owns_of_fields (eq_hash_of_lookup hFields hBytes)).mpr hOwner
    · intro hOwns
      obtain ⟨fields, hMeta⟩ : ∃ fields, db (.msgMeta h) = some (.hash fields) := by
        rcases hOwns with hOwns | hOwns
        all_goals
          obtain ⟨fields, hMeta, -⟩ := field_eq_some_iff.mp hOwns
          exact ⟨fields, hMeta⟩
      have hOwner := (owns_of_fields hMeta).mp hOwns
      obtain ⟨n, id, hStored⟩ := hOnce h fields hMeta
      obtain ⟨db', hOwned⟩ := hDeletable.deleted hOnce hMeta hOwner hStored.bytes
      exact ⟨db', DatabaseHandler.deleteMessage_owned env sessionId hHash hDid hMeta hOwner hStored.bytes hOwned⟩
  case exact =>
    intro db' hRun
    rcases hCases with ⟨e, hRefused⟩ | ⟨fields, bytes, hFields, hOwner, hBytes, ⟨db₁, hOwned, hDone⟩ |
      ⟨e, e', db₁, -, hFailed⟩⟩
    · rw [hRefused] at hRun
      cases hRun
    · rw [hDone] at hRun
      cases hRun
      have hMeta := eq_hash_of_lookup hFields hBytes
      obtain ⟨n, id, hStored⟩ := hOnce h fields hMeta
      obtain rfl := Option.some.inj (hStored.bytes.symm.trans hBytes)
      obtain ⟨amount, drawn, hAmount, -, hDrawn, hWritten⟩ := hStored.written_of_ok hOwned
      obtain ⟨hRead, -⟩ := hDeletable fields n.repr hMeta hBytes hOwner
      obtain rfl := Option.some.inj (hAmount.symm.trans hRead)
      obtain rfl := (drawn_eq_iff hStored.positive hDrawn).mpr rfl
      exact ⟨fields, n, hMeta, hBytes, deletedExactly_of_written hStored hWritten⟩
    · rw [hFailed] at hRun
      cases hRun
  case refused =>
    intro e db' hRun
    rcases hCases with ⟨e, hRefused⟩ | ⟨fields, bytes, hFields, hOwner, hBytes, ⟨db₁, -, hDone⟩ |
      ⟨e₁, e', db₁, hFails, -⟩⟩
    · rw [hRefused] at hRun
      cases hRun
      rfl
    · rw [hDone] at hRun
      cases hRun
    · obtain ⟨db₂, hOwned⟩ := hDeletable.deleted hOnce (eq_hash_of_lookup hFields hBytes) hOwner hBytes
      rw [hOwned] at hFails
      cases hFails

theorem DeletesExactly.deletable (hOnce : StoredOnce db) (hExact : DeletesExactly env sessionId d h db) :
    Deletable env d h db := by
  intro fields bytes hMeta hBytes hOwner
  obtain ⟨n, id, hStored⟩ := hOnce h fields hMeta
  obtain rfl := Option.some.inj (hStored.bytes.symm.trans hBytes)
  obtain ⟨db', hRun⟩ := hExact.answers.mpr ((owns_of_fields hMeta).mpr hOwner)
  obtain ⟨fields', bytes', hFields', hBytes', hOwned⟩ := DatabaseHandler.deleteMessage_effect hRun
  rw [hMeta, asHash_hash] at hFields'
  cases hFields'
  obtain rfl := Option.some.inj (hBytes.symm.trans hBytes')
  obtain ⟨amount, drawn, hAmount, hFree, hDrawn, hWritten⟩ := hStored.written_of_ok hOwned
  -- the counter of the receiver tells which amount it was
  obtain ⟨receiver, hTo⟩ := Option.isSome_iff_exists.mp hStored.receiver
  obtain ⟨fields', n', hMeta', hBytes', hDeleted⟩ := hExact.exact db' hRun
  rw [hMeta, Option.some.injEq, Value.hash.injEq] at hMeta'
  subst hMeta'
  have hSize : n' = n := by
    have hRead := parseNat_repr n'
    rw [Option.some.inj (hBytes'.symm.trans hBytes), parseNat_repr] at hRead
    exact (Option.some.inj hRead).symm
  have hTaken := (hDeleted.queueBytes .receive receiver hTo).symm.trans (hWritten.loses .receive receiver hTo).bytes
  have hDrawnSize : drawn = n := by omega
  have hText := (drawn_eq_iff hStored.positive hDrawn).mp hDrawnSize
  exact ⟨hText ▸ hAmount, hText ▸ hFree⟩

end

/-- A delete is exact and all-or-nothing unless one of its writes on the requester's message is rejected. -/
theorem deleteMessage_exact_iff (env : Environment) (sessionId d h : String) (db : Db) (hOnce : StoredOnce db)
    (hHash : h.utf8ByteSize ≤ protoMaxBulkLen) (hDid : d.utf8ByteSize ≤ protoMaxBulkLen) :
    DeletesExactly env sessionId d h db ↔ Deletable env d h db :=
  ⟨fun hExact => hExact.deletable hOnce, fun hDeletable => hDeletable.deletesExactly sessionId hOnce hHash hDid⟩

theorem StoredOnce.of_global {db db' : Db} (hOnce : StoredOnce db) (hSame : ∀ k, k ≠ .global → db' k = db k) :
    StoredOnce db' := by
  intro h fields hMeta
  rw [hSame _ (by simp)] at hMeta
  obtain ⟨n, id, hStored⟩ := hOnce h fields hMeta
  have hQueue : ∀ (side : Side) d, entriesAt db' (side.queue d) = entriesAt db (side.queue d) := fun side d =>
    entriesAt_congr (hSame _ (by cases side <;> simp [Side.queue]))
  exact ⟨n, id, {
    bytes := hStored.bytes
    positive := hStored.positive
    receiver := hStored.receiver
    ids := hStored.ids
    named := fun side d => by rw [hQueue]; exact hStored.named side d
    own := fun side d => by rw [hQueue]; exact hStored.own side d }⟩

/-- While no store repeats a digest that is there, every message is stored once. -/
theorem storedOnce_of_conserved {db : Db} (hSound : Sound db) (hdb : Conserved db) : StoredOnce db := by
  intro h fields hMeta
  obtain ⟨fields', n, id, hv, hFields, hTo⟩ := hdb.metadata h _ hMeta
  cases hv
  have hField : ∀ f, field db (.msgMeta h) f = fields.lookup f := fun f => by simp [field, hMeta]
  have hId : ∀ side d, fields.lookup side.ownerField = some d →
      field db (.msgMeta h) side.idField = some (id side).text := fun side d hOwner => by
    rw [hField, hFields.ids side, hOwner]
    rfl
  refine ⟨n, id, hFields.bytes, hSound.positive hMeta hFields, hTo, hFields.ids, ?_, ?_⟩
  · intro side d hOwner
    obtain ⟨e, he, hNames⟩ := hdb.queued side d h (by rw [hField, hOwner])
    exact ⟨e, he, StreamId.text_injective (Option.some.inj (hNames.id.symm.trans (hId side d hOwner)))⟩
  · intro side d e he
    constructor
    · intro hMsgId
      obtain ⟨h', hNames⟩ := hdb.named side d e he
      obtain rfl := Option.some.inj (hNames.msgId.symm.trans hMsgId)
      have hOwner : fields.lookup side.ownerField = some d := by rw [← hField, hNames.owner]
      exact ⟨hOwner, StreamId.text_injective (Option.some.inj (hNames.id.symm.trans (hId side d hOwner)))⟩
    · rintro ⟨hOwner, hSame⟩
      obtain ⟨e', he', hNames⟩ := hdb.queued side d h (by rw [hField, hOwner])
      have hSame' := StreamId.text_injective (Option.some.inj (hNames.id.symm.trans (hId side d hOwner)))
      rw [eq_of_id_eq (hdb.sorted side d) he he' (hSame.trans hSame'.symm)]
      exact hNames.msgId

/-- No write is rejected on a database that the mediator's own calls have made. -/
theorem deletable_of_sound {env : Environment} {db : Db} (hSound : Sound db) (hOnce : StoredOnce db)
    (d h : String) : Deletable env d h db := by
  intro fields bytes hMeta hBytes hOwner
  obtain ⟨-, n, id, receiver, hFields, hTo, -⟩ := hSound.kept h fields hMeta
  obtain rfl := Option.some.inj (hFields.bytes.symm.trans hBytes)
  obtain ⟨n', id', hStored⟩ := hOnce h fields hMeta
  have hPositive := hSound.positive hMeta hFields
  have hAmount : negatedText env.strtod n.repr = some ("-" ++ n.repr) := by
    have hNeg : (LuaNumber.integer n).neg = .integer (-n) := if_neg (by omega)
    rw [negatedText, tonumber_repr hFields.small, Option.map_some, hNeg, LuaNumber.text,
      toString_neg_natCast hPositive]
  obtain ⟨db', hRun, -⟩ := deleteOwned_ok env.strtod hSound hMeta hFields (by simp [hTo])
  refine ⟨hAmount, ?_⟩
  rw [← accepts_deleteWrites h, ← hStored.deleteOwned_eq hAmount]
  exact (accepts_iff _ _).mpr ⟨_, _, hRun⟩

theorem storedOnce_hello : StoredOnce helloStored := by
  have hReachable : (databaseCalls sampleEnvironment).Reachable helloStored :=
    .step (l := helloToAlice) (.init rfl) rfl
  have hFresh : (freshStores sampleEnvironment).Reachable helloStored :=
    .step (l := .storeMessage ⟨1700000000, 100000, by decide⟩ "s" "hello" "did:example:alice" none)
      (.init rfl) ⟨rfl, helloHash, rfl⟩
  exact storedOnce_of_conserved (sound_of_reachable hReachable).1 (conserved_of_reachable hFresh)

theorem deleteMessage_exact_hello : DeletesExactly sampleEnvironment "s" aliceHash helloHash helloStored := by
  have hReachable : (databaseCalls sampleEnvironment).Reachable helloStored :=
    .step (l := helloToAlice) (.init rfl) rfl
  exact (deleteMessage_exact_iff sampleEnvironment "s" aliceHash helloHash helloStored storedOnce_hello
    (by decide) (by decide)).mpr (deletable_of_sound (sound_of_reachable hReachable).1 storedOnce_hello _ _)

/-- The counter of deleted bytes has no room for five more. -/
def fullCounter : Db :=
  Function.update helloStored .global (some (.hash [("RECEIVED_BYTES", "5"), ("RECEIVED_COUNT", "1"),
    ("DELETED_BYTES", "9223372036854775807")]))

/-- The message goes, and its metadata and its entry stay. -/
theorem deleteMessage_not_exact :
    StoredOnce fullCounter ∧ ¬ DeletesExactly sampleEnvironment "s" aliceHash helloHash fullCounter := by
  refine ⟨storedOnce_hello.of_global fun k hk => Function.update_of_ne hk _ _, fun hExact => ?_⟩
  obtain ⟨e, db', hRun, hMsg⟩ : ∃ e db',
      DatabaseHandler.deleteMessage sampleEnvironment "s" aliceHash helloHash fullCounter = .error e db' ∧
        db' (.msg helloHash) = none := ⟨_, _, rfl, rfl⟩
  have hThere : fullCounter (.msg helloHash) = some (.string "hello") := rfl
  rw [← hExact.refused e db' hRun, hMsg] at hThere
  cases hThere

end AffinidiMessaging.Mediator
