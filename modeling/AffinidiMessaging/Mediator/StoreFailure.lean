import AffinidiMessaging.Mediator.Effects

/-! # When a failing `store_message` leaves the database as it was

A function of Redis keeps the writes it made before a rejected call. The first write
is the message itself, and the global counters follow.
-/

namespace AffinidiMessaging.Mediator

open Redis Text Fallible

/-- The writes for one queue, tried on the database as it stands. -/
def enqueueAccepted (db : Db) (didHash bytesField countField : String) (queue : Key) (time : String)
    (bytes : LuaNumber) : Bool :=
  accepts (hincrby (.did didHash) bytesField bytes.text) db &&
    (accepts (hincrby (.did didHash) countField "1") db && accepts (xadd queue time []) db)

def receiverAccepted (db : Db) (didHash time : String) (bytes : LuaNumber) : Bool :=
  enqueueAccepted db didHash "RECEIVE_QUEUE_BYTES" "RECEIVE_QUEUE_COUNT" (.receiveQ didHash) time
    bytes

def senderAccepted (db : Db) (didHash : Option String) (time : String) (bytes : LuaNumber) : Bool :=
  match didHash with
  | none => true
  | some didHash =>
    enqueueAccepted db didHash "SEND_QUEUE_BYTES" "SEND_QUEUE_COUNT" (.sendQ didHash) time bytes

/-- The writes that follow those to the message and to the global counters. -/
def recordsAccepted (messageHash time : String) (bytes : LuaNumber) (toDidHash : String)
    (fromDidHash : Option String) (db : Db) : Bool :=
  accepts (rpush .msgExpiry (messageHash ++ ":" ++ time)) db &&
    (receiverAccepted db toDidHash time bytes &&
      (senderAccepted db fromDidHash time bytes && accepts (hmset (.msgMeta messageHash) []) db))

/-- Every write of the function, tried on the database as it stands, is accepted. -/
def unobstructed (messageHash time : String) (bytes : LuaNumber) (toDidHash : String)
    (fromDidHash : Option String) (db : Db) : Bool :=
  accepts (hincrby .global "RECEIVED_BYTES" bytes.text) db &&
    (accepts (hincrby .global "RECEIVED_COUNT" "1") db &&
      recordsAccepted messageHash time bytes toDidHash fromDidHash db)

theorem enqueueAccepted_congr {db db' : Db} {didHash : String} {queue : Key}
    (hDid : db' (.did didHash) = db (.did didHash)) (hQueue : db' queue = db queue)
    (bytesField countField time : String) (bytes : LuaNumber) :
    enqueueAccepted db' didHash bytesField countField queue time bytes =
      enqueueAccepted db didHash bytesField countField queue time bytes := by
  have hXadd : accepts (xadd queue time []) db' = accepts (xadd queue time []) db :=
    accepts_xadd_congr hQueue
  simp only [enqueueAccepted, accepts_hincrby_congr hDid, hXadd]

theorem accepts_enqueue {didHash bytesField countField : String} {queue : Key}
    (hFields : countField ≠ bytesField) (hQueue : queue ≠ .did didHash) (db : Db) (time : String)
    (bytes : LuaNumber) (entry : Fields) :
    accepts (enqueue didHash bytesField countField queue time bytes entry) db =
      enqueueAccepted db didHash bytesField countField queue time bytes := by
  refine accepts_bind (fun db =>
    accepts (hincrby (.did didHash) countField "1") db && accepts (xadd queue time []) db)
    fun _ db₁ h₁ => ?_
  have hCount : accepts (hincrby (.did didHash) countField "1") db₁ =
      accepts (hincrby (.did didHash) countField "1") db :=
    accepts_hincrby_of_ne (.inr hFields) h₁
  have hXadd : accepts (xadd queue time []) db₁ = accepts (xadd queue time []) db :=
    accepts_xadd_congr ((Untouched.hincrby hQueue _ _).of_ok h₁)
  rw [← hCount, ← hXadd]
  exact accepts_bind (fun db => accepts (xadd queue time []) db) fun _ db₂ h₂ =>
    accepts_xadd_congr ((Untouched.hincrby hQueue _ _).of_ok h₂)

theorem accepts_storeMetadata (db : Db) (messageHash time : String) (bytes : LuaNumber)
    (toDidHash rq : String) (sent : Option (String × String)) :
    accepts (storeMetadata messageHash time bytes toDidHash rq sent) db =
      accepts (hmset (.msgMeta messageHash) []) db := by
  have hPairs : accepts (hmset (.msgMeta messageHash) [("BYTES", bytes.text), ("TO", toDidHash),
      ("TIMESTAMP", time), ("RECEIVE_ID", rq)]) db = accepts (hmset (.msgMeta messageHash) []) db :=
    accepts_hmset_congr rfl
  rw [← hPairs]
  refine (accepts_bind (fun _ => true) fun _ db₁ h₁ => ?_).trans (Bool.and_true _)
  cases sent with
  | none => rfl
  | some p =>
    obtain ⟨fields, -, rfl⟩ := (hmset_ok_iff _ _ _ _ _).mp h₁
    exact accepts_hmset_of_hash (Function.update_self ..) _

theorem untouched_global_storeQueues (messageHash time : String) (bytes : LuaNumber)
    (toDid toDidHash fromDid : String) (fromDidHash : Option String) :
    Untouched .global (storeQueues messageHash time bytes toDid toDidHash fromDid fromDidHash) := by
  refine (Untouched.rpush (by simp) _).bind fun _ => ?_
  refine (untouched_enqueue (by simp) (by simp) _ _ _ _ _).bind fun rq => ?_
  refine (untouched_storeSender _ (by simp) _ _ _ _).bind fun sent => ?_
  exact (untouched_storeMetadata (by simp) _ _ _ _ _).bind fun _ => .pure "OK"

/-- Filling one queue does not decide about the counters of another. -/
theorem accepts_hincrby_of_enqueue {didHash bytesField countField : String} {queue : Key}
    {time : String} {bytes : LuaNumber} {entry : Fields} {db db' : Db} {id d f n : String}
    (hBytes : f ≠ bytesField) (hCount : f ≠ countField) (hQueue : .did d ≠ queue)
    (hRun : enqueue didHash bytesField countField queue time bytes entry db = .ok id db') :
    accepts (hincrby (.did d) f n) db' = accepts (hincrby (.did d) f n) db := by
  obtain ⟨_, db₁, h₁, hRun⟩ := (bind_ok_iff _ _ _ _ _).mp hRun
  obtain ⟨_, db₂, h₂, hRun⟩ := (bind_ok_iff _ _ _ _ _).mp hRun
  calc accepts (hincrby (.did d) f n) db'
      _ = accepts (hincrby (.did d) f n) db₂ :=
        accepts_hincrby_congr ((Untouched.xadd hQueue _ _).of_ok hRun)
      _ = accepts (hincrby (.did d) f n) db₁ := accepts_hincrby_of_ne (.inr hCount) h₂
      _ = accepts (hincrby (.did d) f n) db := accepts_hincrby_of_ne (.inr hBytes) h₁

theorem senderAccepted_of_storeReceiver {toDidHash messageHash time fromDid id : String}
    {bytes : LuaNumber} {db db' : Db}
    (hRun : storeReceiver toDidHash messageHash time bytes fromDid db = .ok id db')
    (fromDidHash : Option String) :
    senderAccepted db' fromDidHash time bytes = senderAccepted db fromDidHash time bytes := by
  cases fromDidHash with
  | none => rfl
  | some d =>
    have hQueue : db' (.sendQ d) = db (.sendQ d) :=
      (untouched_enqueue (by simp) (by simp) _ _ _ _ _).of_ok hRun
    have hXadd : accepts (xadd (.sendQ d) time []) db' = accepts (xadd (.sendQ d) time []) db :=
      accepts_xadd_congr hQueue
    simp only [senderAccepted, enqueueAccepted]
    rw [hXadd, accepts_hincrby_of_enqueue (by decide) (by decide) (by simp) hRun,
      accepts_hincrby_of_enqueue (by decide) (by decide) (by simp) hRun]

theorem accepts_storeSender (fromDidHash : Option String) (messageHash time : String)
    (bytes : LuaNumber) (toDid : String) (db : Db) :
    accepts (storeSender fromDidHash messageHash time bytes toDid) db =
      senderAccepted db fromDidHash time bytes := by
  cases fromDidHash with
  | none => rfl
  | some d =>
    rw [senderAccepted, ← accepts_enqueue (by decide) (by simp) db time bytes
      [("MSG_ID", messageHash), ("BYTES", bytes.text), ("TO", toDid)]]
    exact (accepts_bind (fun _ => true) fun _ _ _ => rfl).trans (Bool.and_true _)

/-- The keys of the writes that follow those to the message and to the global counters. -/
def Key.Recorded (messageHash : String) : Key → Prop
  | .msgMeta h => h = messageHash
  | .msgExpiry | .did _ | .receiveQ _ | .sendQ _ => True
  | _ => False

theorem Key.Recorded.ne {k : Key} {messageHash : String} (hk : k.Recorded messageHash) :
    k ≠ .msg messageHash ∧ k ≠ .global := by
  cases k with
  | msg h => exact hk.elim
  | global => exact hk.elim
  | _ => simp

theorem recordsAccepted_congr {db db' : Db} {messageHash : String}
    (h : ∀ k : Key, k.Recorded messageHash → db' k = db k) (time : String) (bytes : LuaNumber)
    (toDidHash : String) (fromDidHash : Option String) :
    recordsAccepted messageHash time bytes toDidHash fromDidHash db' =
      recordsAccepted messageHash time bytes toDidHash fromDidHash db := by
  have hReceiver : receiverAccepted db' toDidHash time bytes =
      receiverAccepted db toDidHash time bytes :=
    enqueueAccepted_congr (h (.did _) trivial) (h (.receiveQ _) trivial) _ _ _ _
  have hSender : senderAccepted db' fromDidHash time bytes =
      senderAccepted db fromDidHash time bytes := by
    cases fromDidHash with
    | none => rfl
    | some d => exact enqueueAccepted_congr (h (.did d) trivial) (h (.sendQ d) trivial) _ _ _ _
  have hMeta : accepts (hmset (.msgMeta messageHash) []) db' =
      accepts (hmset (.msgMeta messageHash) []) db :=
    accepts_hmset_congr (h (.msgMeta _) rfl)
  rw [recordsAccepted, hReceiver, hSender, hMeta, accepts_rpush_congr (h .msgExpiry trivial), recordsAccepted]

theorem unobstructed_congr {db db' : Db} {messageHash : String}
    (h : ∀ k : Key, k.Recorded messageHash → db' k = db k) (hGlobal : db' .global = db .global) (time : String)
    (bytes : LuaNumber) (toDidHash : String) (fromDidHash : Option String) :
    unobstructed messageHash time bytes toDidHash fromDidHash db' =
      unobstructed messageHash time bytes toDidHash fromDidHash db := by
  rw [unobstructed, recordsAccepted_congr h, accepts_hincrby_congr hGlobal, accepts_hincrby_congr hGlobal,
    unobstructed]

theorem accepts_storeQueues (messageHash time : String) (bytes : LuaNumber)
    (toDid toDidHash fromDid : String) (fromDidHash : Option String) (db : Db) :
    accepts (storeQueues messageHash time bytes toDid toDidHash fromDid fromDidHash) db =
      recordsAccepted messageHash time bytes toDidHash fromDidHash db := by
  refine accepts_bind (fun db => receiverAccepted db toDidHash time bytes &&
    (senderAccepted db fromDidHash time bytes && accepts (hmset (.msgMeta messageHash) []) db))
    fun _ db₁ h₁ => ?_
  have hKey : ∀ k, k ≠ .msgExpiry → db₁ k = db k := fun k hk => (Untouched.rpush hk _).of_ok h₁
  have hReceiver : receiverAccepted db₁ toDidHash time bytes =
      receiverAccepted db toDidHash time bytes :=
    enqueueAccepted_congr (hKey _ (by simp)) (hKey _ (by simp)) _ _ _ _
  have hSender : senderAccepted db₁ fromDidHash time bytes =
      senderAccepted db fromDidHash time bytes := by
    cases fromDidHash with
    | none => rfl
    | some d => exact enqueueAccepted_congr (hKey _ (by simp)) (hKey _ (by simp)) _ _ _ _
  have hMeta : accepts (hmset (.msgMeta messageHash) []) db₁ =
      accepts (hmset (.msgMeta messageHash) []) db :=
    accepts_hmset_congr (hKey _ (by simp))
  rw [← hReceiver, ← hSender, ← hMeta, receiverAccepted,
    ← accepts_enqueue (by decide) (by simp) db₁ time bytes
      [("MSG_ID", messageHash), ("BYTES", bytes.text), ("FROM", fromDid)]]
  refine accepts_bind (fun db =>
    senderAccepted db fromDidHash time bytes && accepts (hmset (.msgMeta messageHash) []) db)
    fun rq db₂ h₂ => ?_
  have hMeta₂ : accepts (hmset (.msgMeta messageHash) []) db₂ =
      accepts (hmset (.msgMeta messageHash) []) db₁ :=
    accepts_hmset_congr ((untouched_enqueue (by simp) (by simp) _ _ _ _ _).of_ok h₂)
  rw [← senderAccepted_of_storeReceiver h₂, ← hMeta₂,
    ← accepts_storeSender fromDidHash messageHash time bytes toDid]
  refine accepts_bind (fun db : Db => accepts (hmset (.msgMeta messageHash) []) db) fun sent db₃ h₃ => ?_
  have hMeta₃ : accepts (hmset (.msgMeta messageHash) []) db₃ =
      accepts (hmset (.msgMeta messageHash) []) db₂ :=
    accepts_hmset_congr ((untouched_storeSender _ (by simp) _ _ _ _).of_ok h₃)
  rw [← hMeta₃, ← accepts_storeMetadata db₃ messageHash time bytes toDidHash rq sent]
  exact (accepts_bind (fun _ => true) fun _ _ _ => rfl).trans (Bool.and_true _)

/-- The writes that were made rewrite what was there, and the next one is rejected. -/
def rewritesOnly (messageHash message : String) (bytes : LuaNumber) (db : Db) : Prop :=
  db (.msg messageHash) = some (.string message) ∧
    (accepts (hincrby .global "RECEIVED_BYTES" bytes.text) db = false ∨
      (bytes.text = "0" ∧ (field db .global "RECEIVED_BYTES").isSome = true ∧
        accepts (hincrby .global "RECEIVED_COUNT" "1") db = false))

theorem count_ne {db db' : Db} {u : Unit}
    (hRun : hincrby .global "RECEIVED_COUNT" "1" db = .ok u db') :
    field db' .global "RECEIVED_COUNT" ≠ field db .global "RECEIVED_COUNT" := by
  intro hEq
  obtain ⟨i, j, hi, hj, hRange, hField⟩ := field_of_hincrby hRun
  rw [hEq] at hField
  rw [hField, Option.getD_some, parseI64_toString hRange] at hj
  have hOne : parseI64 "1" = some 1 := by decide
  rw [hOne] at hi
  have hSum := Option.some.inj hj
  have hStep := Option.some.inj hi
  omega

/-- The message counts as zero bytes if adding them leaves the counters as they were. -/
theorem bytes_eq_zero_of_global {bytes : String} {db db' : Db} {u : Unit}
    (hRun : hincrby .global "RECEIVED_BYTES" bytes db = .ok u db') (hEq : db' .global = db .global) :
    bytes = "0" ∧ (field db .global "RECEIVED_BYTES").isSome = true := by
  obtain ⟨i, j, hi, hj, hRange, hField⟩ := field_of_hincrby hRun
  rw [field_congr hEq] at hField
  rw [hField, Option.getD_some, parseI64_toString hRange] at hj
  have hZero : i = 0 := by
    have hSum := Option.some.inj hj
    omega
  subst hZero
  exact ⟨(toString_of_parseI64 hi).symm, by simp [hField]⟩

/-- When `store_message` can leave no half-made writes behind: it refuses its arguments, nothing
stands in the way of its writes, or the writes before the rejected one rewrite what was there. -/
def storeSafe (strtod : String → Option LuaNumber) (time : ServerTime) (keys args : List String)
    (db : Db) : Prop :=
  match args with
  | message :: length :: _ :: toDidHash :: _ :: rest =>
    1 < rest.length ∨
      ∀ bytes ∈ tonumber strtod length, ∀ messageHash ∈ keys.head?,
        unobstructed messageHash (formatTime time) bytes toDidHash rest.head? db = true ∨
          rewritesOnly messageHash message bytes db
  | _ => True

theorem storeSafe_of_args (strtod : String → Option LuaNumber) (time : ServerTime)
    (keys : List String) (message length toDid toDidHash fromDid : String) (rest : List String)
    (db : Db) :
    storeSafe strtod time keys (message :: length :: toDid :: toDidHash :: fromDid :: rest) db ↔
      1 < rest.length ∨
        ∀ bytes ∈ tonumber strtod length, ∀ messageHash ∈ keys.head?,
          unobstructed messageHash (formatTime time) bytes toDidHash rest.head? db = true ∨
            rewritesOnly messageHash message bytes db := Iff.rfl

theorem storeSafe_of_few {strtod : String → Option LuaNumber} {time : ServerTime}
    {keys args : List String} {db : Db}
    (h : ∀ message length toDid toDidHash fromDid rest,
      args ≠ message :: length :: toDid :: toDidHash :: fromDid :: rest) :
    storeSafe strtod time keys args db := by
  unfold storeSafe
  split
  · exact absurd rfl (h _ _ _ _ _ _)
  · trivial

section

variable {messageHash message time : String} {bytes : LuaNumber} {toDidHash : String}
  {fromDidHash : Option String} {db db₂ db₃ : Db} {u : Unit}

theorem accepts_count_of_bytes {db' : Db}
    (hRun : hincrby .global "RECEIVED_BYTES" bytes.text db' = .ok u db₂)
    (hGlobal : db' .global = db .global) :
    accepts (hincrby .global "RECEIVED_COUNT" "1") db₂ =
      accepts (hincrby .global "RECEIVED_COUNT" "1") db :=
  (accepts_hincrby_of_ne (.inr (by decide)) hRun).trans (accepts_hincrby_congr hGlobal)

/-- The counter of bytes is the last write made. -/
theorem bytes_last_iff {db₁ : Db}
    (h₁ : db₁ = Function.update db (.msg messageHash) (some (.string message)))
    (h₂ : hincrby .global "RECEIVED_BYTES" bytes.text db₁ = .ok u db₂) :
    db₂ = db ↔ db (.msg messageHash) = some (.string message) ∧ bytes.text = "0" ∧
      (field db .global "RECEIVED_BYTES").isSome = true := by
  constructor
  · intro hEq
    have hMsg : db₂ (.msg messageHash) = db₁ (.msg messageHash) :=
      (Untouched.hincrby (by simp) _ _).of_ok h₂
    have hGlobal : db₁ .global = db .global := by simp [h₁]
    have hZero := bytes_eq_zero_of_global h₂ ((congrFun hEq _).trans hGlobal.symm)
    rw [field_congr hGlobal] at hZero
    rw [← hEq, hMsg, h₁, Function.update_self]
    exact ⟨rfl, hZero.1, hEq ▸ hZero.2⟩
  · rintro ⟨hMsg, hZero, hField⟩
    have hSame : db₁ = db := by rw [h₁, ← hMsg, Function.update_eq_self]
    rw [hSame, hZero] at h₂
    exact eq_of_hincrby_zero h₂ hField

end

theorem storeRecords_failsInto_iff (messageHash message time : String) (bytes : LuaNumber)
    (toDid toDidHash fromDid : String) (fromDidHash : Option String) (db : Db) :
    FailsInto (storeRecords messageHash message time bytes toDid toDidHash fromDid fromDidHash)
      db db ↔
    (unobstructed messageHash time bytes toDidHash fromDidHash db = true ∨
      rewritesOnly messageHash message bytes db) := by
  have hSet : set (.msg messageHash) message db =
      .ok () (Function.update db (.msg messageHash) (some (.string message))) :=
    (set_ok_iff _ _ _ _ _).mpr rfl
  generalize h₁ : Function.update db (.msg messageHash) (some (.string message)) = db₁ at hSet
  have hKey : ∀ k, k ≠ .msg messageHash → db₁ k = db k := fun k hk =>
    (Untouched.set hk _).of_ok hSet
  have hBytes : accepts (hincrby .global "RECEIVED_BYTES" bytes.text) db₁ =
      accepts (hincrby .global "RECEIVED_BYTES" bytes.text) db :=
    accepts_hincrby_congr (hKey _ (by simp))
  rw [storeRecords, FailsInto.bind_iff_of_ok hSet, unobstructed, rewritesOnly, ← hBytes]
  cases h₂ : hincrby .global "RECEIVED_BYTES" bytes.text db₁ with
  | error e db₂ =>
    obtain rfl := hincrby_error h₂
    rw [FailsInto.bind_iff_of_error h₂, (accepts_eq_false_iff _ _).mpr ⟨e, db₂, h₂⟩, ← h₁]
    constructor
    · intro hEq
      refine .inr ⟨?_, .inl rfl⟩
      have := congrFun hEq (.msg messageHash)
      rwa [Function.update_self, eq_comm] at this
    · rintro (h | ⟨hMsg, -⟩)
      · cases h
      · rw [← hMsg, Function.update_eq_self]
  | ok u db₂ =>
    have hCount := accepts_count_of_bytes h₂ (hKey _ (by simp))
    rw [FailsInto.bind_iff_of_ok h₂, (accepts_iff _ _).mpr ⟨u, db₂, h₂⟩, ← hCount]
    cases h₃ : hincrby .global "RECEIVED_COUNT" "1" db₂ with
    | error e db₃ =>
      obtain rfl := hincrby_error h₃
      rw [FailsInto.bind_iff_of_error h₃, (accepts_eq_false_iff _ _).mpr ⟨e, db₃, h₃⟩,
        bytes_last_iff h₁.symm h₂]
      simp
    | ok u db₃ =>
      have hGlobal : ∀ k, k ≠ .msg messageHash → k ≠ .global → db₃ k = db k := fun k hMsg hk =>
        ((Untouched.hincrby hk _ _).of_ok h₃).trans
          (((Untouched.hincrby hk _ _).of_ok h₂).trans (hKey k hMsg))
      rw [FailsInto.bind_iff_of_ok h₃, (accepts_iff _ _).mpr ⟨u, db₃, h₃⟩,
        ← recordsAccepted_congr fun k hk => hGlobal k hk.ne.1 hk.ne.2,
        ← accepts_storeQueues messageHash time bytes toDid toDidHash fromDid fromDidHash]
      simp only [Bool.true_and, Bool.true_eq_false, and_false, or_self, or_false]
      constructor
      · intro hFails
        -- a later rejection would leave the count of messages changed
        by_contra hRejected
        obtain ⟨e, db', hRun⟩ :=
          (accepts_eq_false_iff _ _).mp (Bool.eq_false_iff.mpr hRejected)
        have hDb := hFails e db' hRun
        have hFinal : db' .global = db₃ .global :=
          Untouched.of_error (untouched_global_storeQueues _ _ _ _ _ _ _) hRun
        have hStart : field db₂ .global "RECEIVED_COUNT" = field db .global "RECEIVED_COUNT" :=
          (field_of_hincrby_of_ne (.inr (by decide)) h₂).trans (field_congr (hKey _ (by simp)) _)
        apply count_ne h₃
        rw [hStart, ← hDb, field_congr hFinal]
      · exact FailsInto.of_accepts

theorem accepts_storeRecords (messageHash message time : String) (bytes : LuaNumber)
    (toDid toDidHash fromDid : String) (fromDidHash : Option String) (db : Db) :
    accepts (storeRecords messageHash message time bytes toDid toDidHash fromDid fromDidHash) db =
      unobstructed messageHash time bytes toDidHash fromDidHash db := by
  have hSet : set (.msg messageHash) message db =
      .ok () (Function.update db (.msg messageHash) (some (.string message))) :=
    (set_ok_iff _ _ _ _ _).mpr rfl
  rw [storeRecords, accepts_bind (unobstructed messageHash time bytes toDidHash fromDidHash),
    (accepts_iff _ _).mpr ⟨_, _, hSet⟩, Bool.true_and]
  intro u db₁ h₁
  have hKey : ∀ k, k ≠ .msg messageHash → db₁ k = db k := fun k hk =>
    (Untouched.set hk _).of_ok h₁
  rw [unobstructed, ← accepts_hincrby_congr (hKey .global (by simp))]
  refine accepts_bind (fun _ => _) fun _ db₂ h₂ => ?_
  rw [← accepts_count_of_bytes h₂ (hKey .global (by simp))]
  refine accepts_bind (fun _ => _) fun _ db₃ h₃ => ?_
  have hGlobal : ∀ k, k ≠ .msg messageHash → k ≠ .global → db₃ k = db k := fun k hMsg hk =>
    ((Untouched.hincrby hk _ _).of_ok h₃).trans
      (((Untouched.hincrby hk _ _).of_ok h₂).trans (hKey k hMsg))
  rw [accepts_storeQueues, recordsAccepted_congr fun k hk => hGlobal k hk.ne.1 hk.ne.2]

section
variable {n : Int} (hn : inI64 n)
include hn

theorem accepts_hincrby_empty (k : Key) (f : String) :
    accepts (hincrby k f (toString n)) (fun _ => none : Db) = true := by
  have hZero : parseI64 "0" = some 0 := by decide
  refine (accepts_hincrby_iff _ _ _ _).mpr ⟨[], n, 0, rfl, parseI64_toString hn, hZero, ?_⟩
  rwa [Int.zero_add]

theorem enqueueAccepted_empty (didHash bytesField countField : String) (queue : Key) {time : String}
    (hTime : accepts (xadd queue time []) (fun _ => none : Db) = true) :
    enqueueAccepted (fun _ => none) didHash bytesField countField queue time (.integer n) = true := by
  have hOne : accepts (hincrby (.did didHash) countField "1") (fun _ => none : Db) = true :=
    accepts_hincrby_empty (by decide : inI64 1) _ _
  rw [enqueueAccepted, LuaNumber.text, accepts_hincrby_empty hn, hOne, hTime]
  rfl

theorem unobstructed_empty (messageHash toDidHash : String) (fromDidHash : Option String) {time : String}
    (hTime : ∀ queue, accepts (xadd queue time []) (fun _ => none : Db) = true) :
    unobstructed messageHash time (.integer n) toDidHash fromDidHash (fun _ => none) = true := by
  have hOne : accepts (hincrby .global "RECEIVED_COUNT" "1") (fun _ => none : Db) = true :=
    accepts_hincrby_empty (by decide : inI64 1) _ _
  have hPush : accepts (rpush .msgExpiry (messageHash ++ ":" ++ time)) (fun _ => none : Db) = true :=
    (accepts_iff _ _).mpr ⟨(), _, (rpush_ok_iff _ _ _ _ _).mpr ⟨[], rfl, rfl⟩⟩
  have hMeta : accepts (hmset (.msgMeta messageHash) []) (fun _ => none : Db) = true :=
    (accepts_iff _ _).mpr ⟨(), _, (hmset_ok_iff _ _ _ _ _).mpr ⟨[], rfl, rfl⟩⟩
  have hSender : senderAccepted (fun _ => none) fromDidHash time (.integer n) = true := by
    cases fromDidHash with
    | none => rfl
    | some didHash => exact enqueueAccepted_empty hn _ _ _ _ (hTime _)
  rw [unobstructed, LuaNumber.text, accepts_hincrby_empty hn, hOne, recordsAccepted, hPush, receiverAccepted,
    enqueueAccepted_empty hn _ _ _ _ (hTime _), hSender, hMeta]
  rfl

end

namespace DatabaseHandler

variable {env : Environment} {message toDid : String} {fromDid : Option String} {time : ServerTime}
  (hArgs : ([env.digest message] ++ storeArgs env message toDid fromDid).all
    (·.utf8ByteSize ≤ protoMaxBulkLen) = true)
include hArgs

/-- A message is stored if nothing in it is too long and nothing stands in its way. -/
theorem storeMessage_ok {db : Db}
    (hFree : unobstructed (env.digest message) (formatTime time) (.integer message.utf8ByteSize) (env.digest toDid)
      (fromDid.map env.digest) db = true) (sessionId : String) :
    ∃ db', storeMessage env time sessionId message toDid fromDid db = .ok (env.digest message) db' := by
  obtain ⟨hSmall, hCall⟩ := fcall_storeMessage hArgs time
  have hAccepted : accepts (records env time message toDid fromDid) db = true := by
    rwa [records, accepts_storeRecords]
  obtain ⟨answer, db', hRun⟩ := (accepts_iff _ _).mp hAccepted
  refine ⟨db', bind_of_ok (query_of_ok (a := answer) ?_)⟩
  rw [hCall]
  exact hRun

theorem storeMessage_first
    (hTime : ∀ queue, accepts (xadd queue (formatTime time) []) (fun _ => none : Db) = true) (sessionId : String) :
    ∃ db, storeMessage env time sessionId message toDid fromDid (fun _ => none) = .ok (env.digest message) db := by
  obtain ⟨hSmall, -⟩ := fcall_storeMessage hArgs time
  exact storeMessage_ok hArgs (unobstructed_empty (inI64_of_small hSmall).1 _ _ _ hTime) sessionId

end DatabaseHandler

/-- `store_message` is all-or-nothing exactly when it is safe. -/
theorem storeMessage_atomic_iff (strtod : String → Option LuaNumber) (time : ServerTime)
    (keys args : List String) (db : Db) :
    (∀ e db', storeMessage strtod time keys args db = .error e db' → db' = db) ↔
      storeSafe strtod time keys args db := by
  change FailsInto (storeMessage strtod time keys args) db db ↔ _
  have hRefused (e : RedisError) : FailsInto (throw e : Script String) db db :=
    (FailsInto.iff_of_error rfl).mpr rfl
  unfold storeMessage
  split
  · rename_i message length toDid toDidHash fromDid rest
    rw [storeSafe_of_args]
    split
    · rename_i hMany
      exact iff_of_true (hRefused _) (.inl hMany)
    · rename_i hMany
      cases hLength : tonumber strtod length with
      | none => exact iff_of_true (hRefused _) (.inr (by simp))
      | some bytes =>
        cases hKey : keys.head? with
        | none =>
          have hNil : notNil (none : Option String) "attempt to concatenate field '?' (a nil value)" db =
              .error (.script "attempt to concatenate field '?' (a nil value)") db := rfl
          exact iff_of_true ((FailsInto.bind_iff_of_error hNil).mpr rfl) (.inr (by simp))
        | some messageHash =>
          have hSome : notNil (some messageHash) "attempt to concatenate field '?' (a nil value)" db =
              .ok messageHash db := rfl
          simp only [hMany, false_or, Option.mem_def, Option.some.injEq, forall_eq']
          rw [FailsInto.bind_iff_of_ok hSome, storeRecords_failsInto_iff]
  · rename_i hArgs
    exact iff_of_true (hRefused _) (storeSafe_of_few hArgs)

/-- The queue of `d` was last written at 1700000000.999 s and emptied since. -/
def queueAhead : Db := fun k =>
  if k = .receiveQ "d" then some (.stream ⟨{ ms := 1700000000999, seq := 0, seq_lt := StreamId.zero.seq_lt },
    []⟩) else none

/-- Five milliseconds later XADD is rejected after the message is written. -/
theorem storeMessage_leaves_writes :
    ∃ e db', storeMessage (fun _ => none) ⟨1700000001, 5000, by decide⟩ ["h"]
      ["hello", "5", "did:example:bob", "d", "ANONYMOUS"] queueAhead = .error e db' ∧
      db' ≠ queueAhead := by
  refine ⟨.idTooSmall, _, rfl, ?_⟩
  intro h
  have hMsg := congrFun h (.msg "h")
  revert hMsg
  decide

end AffinidiMessaging.Mediator
