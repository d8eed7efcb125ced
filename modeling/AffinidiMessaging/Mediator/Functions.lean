import AffinidiMessaging.Library.Redis

/-! # The message store functions loaded into Redis

`store_message`, `delete_message` and `fetch_messages` of atm-functions.lua, one
`redis.call` after the other. A function stopped by a rejected call keeps the
writes made before it; `redis.error_reply` returns without raising.
-/

namespace AffinidiMessaging.Mediator

open Redis Text Fallible

/-- The keys of the mediator's database. -/
inductive Key
  | msg (messageHash : String)
  | msgMeta (messageHash : String)
  | msgExpiry
  | global
  | did (didHash : String)
  | receiveQ (didHash : String)
  | sendQ (didHash : String)
  | session (sessionId : String)
  | globalStreaming
  | streamingSessions (uuid : String)
deriving DecidableEq, Repr

def Key.name : Key → String
  | .msg h => "MSG:" ++ h
  | .msgMeta h => "MSG:META:" ++ h
  | .msgExpiry => "MSG_EXPIRY"
  | .global => "GLOBAL"
  | .did h => "DID:" ++ h
  | .receiveQ h => "RECEIVE_Q:" ++ h
  | .sendQ h => "SEND_Q:" ++ h
  | .session sid => "SESSION:" ++ sid
  | .globalStreaming => "GLOBAL_STREAMING"
  | .streamingSessions uuid => "STREAMING_SESSIONS:" ++ uuid

/-- Message hashes are hexadecimal digests; on these the key names do not collide. -/
def Key.Plain : Key → Prop
  | .msg h => ':' ∉ h.toList
  | _ => True

/-- The first four characters of the name, which all but two pairs of keys differ in. -/
def Key.tag : Key → String
  | .msg _ => "MSG:"
  | .msgMeta _ => "MSG:"
  | .msgExpiry => "MSG_"
  | .global => "GLOB"
  | .did _ => "DID:"
  | .receiveQ _ => "RECE"
  | .sendQ _ => "SEND"
  | .session _ => "SESS"
  | .globalStreaming => "GLOB"
  | .streamingSessions _ => "STRE"

theorem Key.take_name (k : Key) : k.name.toList.take 4 = k.tag.toList := by
  cases k with
  | msgExpiry => decide
  | global => decide
  | globalStreaming => decide
  | msg h => exact (take_append "MSG:" _ 4 (by decide)).trans (by decide : _ = "MSG:".toList)
  | msgMeta h => exact (take_append "MSG:META:" _ 4 (by decide)).trans (by decide : _ = "MSG:".toList)
  | did h => exact (take_append "DID:" _ 4 (by decide)).trans (by decide : _ = "DID:".toList)
  | receiveQ h => exact (take_append "RECEIVE_Q:" _ 4 (by decide)).trans (by decide : _ = "RECE".toList)
  | sendQ h => exact (take_append "SEND_Q:" _ 4 (by decide)).trans (by decide : _ = "SEND".toList)
  | session sid => exact (take_append "SESSION:" _ 4 (by decide)).trans (by decide : _ = "SESS".toList)
  | streamingSessions uuid =>
    exact (take_append "STREAMING_SESSIONS:" _ 4 (by decide)).trans (by decide : _ = "STRE".toList)

theorem Key.tag_eq_of_name {a b : Key} (h : a.name = b.name) : a.tag = b.tag :=
  String.toList_inj.mp <| calc
    a.tag.toList = a.name.toList.take 4 := a.take_name.symm
    _ = b.name.toList.take 4 := by rw [h]
    _ = b.tag.toList := b.take_name

/-- The name of a metadata key has a colon where the digest of a message key would be. -/
theorem Key.msg_name_ne_msgMeta {h h' : String} (hPlain : (Key.msg h).Plain) :
    (Key.msg h).name ≠ (Key.msgMeta h').name := by
  intro hName
  have hMeta : (Key.msgMeta h').name = "MSG:" ++ ("META:" ++ h') := by
    rw [← String.append_assoc]
    rfl
  have hArg : h = "META:" ++ h' := append_left_injective (hName.trans hMeta)
  refine hPlain ?_
  rw [hArg, String.toList_append]
  exact List.mem_append_left _ (by decide)

theorem Key.name_injective {a b : Key} (ha : a.Plain) (hb : b.Plain) (h : a.name = b.name) :
    a = b := by
  have hTag := Key.tag_eq_of_name h
  cases a <;> cases b <;> first
    | rfl
    | exact congrArg _ (append_left_injective h)
    | exact absurd h (Key.msg_name_ne_msgMeta ha)
    | exact absurd h.symm (Key.msg_name_ne_msgMeta hb)
    | (simp [Key.tag] at hTag; done)
    | (revert h; decide)

abbrev Db := Keyspace Key

abbrev Script := Command Key

/-- What Redis TIME answers. -/
structure ServerTime where
  sec : Nat
  usec : Nat
  usec_lt : usec < 1000000

instance : LE ServerTime := ⟨fun s t => s.sec < t.sec ∨ (s.sec = t.sec ∧ s.usec ≤ t.usec)⟩

theorem ServerTime.le_iff (s t : ServerTime) :
    s ≤ t ↔ s.sec < t.sec ∨ (s.sec = t.sec ∧ s.usec ≤ t.usec) := Iff.rfl

/-- A Lua number, as far as a script passes it on to Redis: an integer in decimal, or
any other number with the text Redis prints for it. -/
inductive LuaNumber
  | integer (n : Int)
  | fraction (text : String)
deriving DecidableEq

def LuaNumber.text : LuaNumber → String
  | .integer n => toString n
  | .fraction t => t

/-- Numbers are doubles, and zero has a sign that Redis prints. -/
def LuaNumber.neg : LuaNumber → LuaNumber
  | .integer n => if n = 0 then .fraction "-0" else .integer (-n)
  | .fraction t =>
    match t.toList with
    | '-' :: digits => .fraction (String.ofList digits)
    | _ => .fraction ("-" ++ t)

/-- Reading a text as a number. Decimal numerals below 2^53 are exact; every other text
(hexadecimal, exponents, blanks) is left to the C library's `strtod`. -/
def tonumber (strtod : String → Option LuaNumber) (s : String) : Option LuaNumber :=
  match parseNat s with
  | some n => if n < 2 ^ 53 then some (.integer n) else strtod s
  | none => strtod s

/-- `string.format("%d%d", time[1], time[2] / 1000)`; `%d` truncates. -/
def formatTime (time : ServerTime) : String := time.sec.repr ++ (time.usec / 1000).repr

def errorReply {α : Type} (text : String) : Script α := throw (.reply text)

/-- A Lua value used where it must not be nil. -/
def notNil {α : Type} (o : Option α) (text : String) : Script α := liftM (okOr o (RedisError.script text))

@[simp] theorem notNil_some_bind {α β : Type} (a : α) (text : String) (f : α → Script β) :
    notNil (some a) text >>= f = f a := rfl

section
variable (strtod : String → Option LuaNumber)

/-- The counters of one queue and its new entry, as `store_message` writes them for the receiver
and for the sender; answers the id of the entry. -/
def enqueue (didHash bytesField countField : String) (queue : Key) (time : String)
    (bytes : LuaNumber) (entry : Fields) : Script String := do
  hincrby (.did didHash) bytesField bytes.text
  hincrby (.did didHash) countField "1"
  xadd queue time entry

def storeReceiver (didHash messageHash time : String) (bytes : LuaNumber) (fromDid : String) :
    Script String :=
  enqueue didHash "RECEIVE_QUEUE_BYTES" "RECEIVE_QUEUE_COUNT" (.receiveQ didHash) time bytes
    [("MSG_ID", messageHash), ("BYTES", bytes.text), ("FROM", fromDid)]

/-- The sender's records, when there is a sender; answers its hash and the id of the entry. -/
def storeSender (fromDidHash : Option String) (messageHash time : String) (bytes : LuaNumber)
    (toDid : String) : Script (Option (String × String)) :=
  match fromDidHash with
  | none => pure none
  | some didHash => do
    let sq ← enqueue didHash "SEND_QUEUE_BYTES" "SEND_QUEUE_COUNT" (.sendQ didHash) time bytes
      [("MSG_ID", messageHash), ("BYTES", bytes.text), ("TO", toDid)]
    return some (didHash, sq)

def storeMetadata (messageHash time : String) (bytes : LuaNumber) (toDidHash rq : String)
    (sent : Option (String × String)) : Script Unit := do
  hmset (.msgMeta messageHash)
    [("BYTES", bytes.text), ("TO", toDidHash), ("TIMESTAMP", time), ("RECEIVE_ID", rq)]
  match sent with
  | none => pure ()
  | some (fromDidHash, sq) => hmset (.msgMeta messageHash) [("FROM", fromDidHash), ("SEND_ID", sq)]

/-- `store_message` from the expiry record on. -/
def storeQueues (messageHash time : String) (bytes : LuaNumber) (toDid toDidHash fromDid : String)
    (fromDidHash : Option String) : Script String := do
  rpush .msgExpiry (messageHash ++ ":" ++ time)
  let rq ← storeReceiver toDidHash messageHash time bytes fromDid
  let sent ← storeSender fromDidHash messageHash time bytes toDid
  storeMetadata messageHash time bytes toDidHash rq sent
  return "OK"

/-- `store_message` once its arguments are read. -/
def storeRecords (messageHash message time : String) (bytes : LuaNumber)
    (toDid toDidHash fromDid : String) (fromDidHash : Option String) : Script String := do
  set (.msg messageHash) message
  hincrby .global "RECEIVED_BYTES" bytes.text
  hincrby .global "RECEIVED_COUNT" "1"
  storeQueues messageHash time bytes toDid toDidHash fromDid fromDidHash

/-- keys = message_hash; args = message, its length, to_did, to_did_hash, from_did and, when
there is a sender, from_did_hash. -/
def storeMessage (time : ServerTime) (keys args : List String) : Script String :=
  match args with
  | message :: length :: toDid :: toDidHash :: fromDid :: rest =>
    if 1 < rest.length then errorReply "store_message: too many arguments"
    else do
      let time := formatTime time
      match tonumber strtod length with
      | none => errorReply "store_message: invalid bytes"
      | some bytes => do
        let messageHash ← notNil keys.head? "attempt to concatenate field '?' (a nil value)"
        storeRecords messageHash message time bytes toDid toDidHash fromDid rest.head?
  | _ => errorReply "store_message: not enough arguments"

/-- `-bytes` for a text: Lua reads it as a number first. -/
def negated (bytes : String) : Script String := do
  let n ← notNil (tonumber strtod bytes) "attempt to perform arithmetic on local 'bytes' (a string value)"
  return n.neg.text

/-- One side of `delete_message`: the queue counters and the stream entry. -/
def deleteRecords (didHash queueBytes queueCount : String) (queue : Key) (bytes : String)
    (id : Option String) : Script Unit := do
  hincrby (.did didHash) queueBytes (← negated strtod bytes)
  hincrby (.did didHash) queueCount "-1"
  xdel queue (← notNil id "Lua redis lib command arguments must be strings or integers")

def deleteReceiver (fields : Fields) (bytes : String) : Script Unit := do
  let receiver ← notNil (fields.lookup "TO") "attempt to concatenate field 'TO' (a nil value)"
  deleteRecords strtod receiver "RECEIVE_QUEUE_BYTES" "RECEIVE_QUEUE_COUNT" (.receiveQ receiver) bytes
    (fields.lookup "RECEIVE_ID")

def deleteSender (fields : Fields) (bytes : String) : Script Unit :=
  match fields.lookup "SEND_ID" with
  | none => pure ()
  | some sendId => do
    let sender ← notNil (fields.lookup "FROM") "attempt to concatenate field 'FROM' (a nil value)"
    deleteRecords strtod sender "SEND_QUEUE_BYTES" "SEND_QUEUE_COUNT" (.sendQ sender) bytes
      (some sendId)

/-- `delete_message` once the metadata is read and the requester owns the message. -/
def deleteOwned (messageHash : String) (fields : Fields) (bytes : String) : Script String := do
  del (.msg messageHash)
  hincrby .global "DELETED_BYTES" bytes
  hincrby .global "DELETED_COUNT" "1"
  deleteReceiver strtod fields bytes
  deleteSender strtod fields bytes
  del (.msgMeta messageHash)
  return "OK"

/-- `delete_message` once the metadata is read. -/
def deleteChecked (messageHash didHash : String) (fields : Fields) : Script String :=
  if fields.lookup "TO" ≠ some didHash ∧ fields.lookup "FROM" ≠ some didHash then
    errorReply "Requesting DID does not have ownership of this message"
  else match fields.lookup "BYTES" with
    | none => errorReply ("message (" ++ messageHash ++ ") metadata did not contain BYTES field.")
    | some bytes => deleteOwned strtod messageHash fields bytes

/-- keys = message_hash; args = did_hash. RESP3 answers HGETALL on a missing key with an empty
map, so the test for nil never succeeds and the ownership test refuses. -/
def deleteMessage (keys args : List String) : Script String :=
  match keys with
  | [messageHash] =>
    match args with
    | [didHash] => do
      let fields ← hgetall (.msgMeta messageHash)
      deleteChecked strtod messageHash didHash fields
    | _ => errorReply "delete_message: Requires DID hash argument"
  | _ => errorReply "delete_message: only accepts one key"

end

/-- One element of the answer of `fetch_messages`: a flat list of names and values. A missing
body is a nil, which `table.insert` does not append. -/
def flatElement (id messageIdName messageHash fromDid : String) (body : Option String)
    (metadata : Fields) : List String :=
  ["STREAM_ID", id, messageIdName, messageHash, "FROM_DID", fromDid, "MSG"] ++ body.toList ++
    metadata.flatMap fun p => ["META_" ++ p.1, p.2]

def fetchElement (entry : StreamEntry) : Script (List String) :=
  match entry.fields with
  | (messageIdName, messageHash) :: _ :: (_, fromDid) :: _ => do
    let body ← get (.msg messageHash)
    let metadata ← hgetall (.msgMeta messageHash)
    return flatElement entry.id.text messageIdName messageHash fromDid body metadata
  | _ => throw (.script "attempt to concatenate field '?' (a nil value)")

def fetchElements : List StreamEntry → Script (List (List String))
  | [] => return []
  | entry :: rest => do
    let element ← fetchElement entry
    let elements ← fetchElements rest
    return element :: elements

/-- keys = did_hash; args = start_id (or "-") and the limit. -/
def fetchMessages (keys args : List String) : Script (List (List String)) :=
  match args with
  | [startId, limit] => do
    let didHash ← notNil keys.head? "attempt to concatenate field '?' (a nil value)"
    let start := if startId = "-" then "-" else "(" ++ startId
    let list ← xrange (.receiveQ didHash) start limit
    fetchElements (← notNil list "bad argument #1 to 'ipairs' (table expected, got nil)")
  | _ => errorReply "fetch_messages: wrong arguments"

end AffinidiMessaging.Mediator
