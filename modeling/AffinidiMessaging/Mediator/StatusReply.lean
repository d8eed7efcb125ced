import AffinidiMessaging.Mediator.Inbound
import AffinidiMessaging.Mediator.ReadPaths

/-! # The status reply

The reply is made of the counters of a DID, of the first and the last entry of its queue and of
whether the registry of live clients has a row for it.
-/

namespace AffinidiMessaging.Mediator

open Redis Text Fallible Serde Didcomm Transition

/-- A value as the client receives it over RESP2, where a boolean is an integer. -/
inductive Reply
  | nil
  | int (n : Int)
  | bulk (text : String)
deriving DecidableEq

/-- Reading an unsigned number below a bound. -/
def unsigned (bound : Nat) (s : String) : Option Nat :=
  let digits := match s.toList with
    | '+' :: rest => String.ofList rest
    | _ => s
  (parseNat digits).filter (· < bound)

theorem unsigned_of_parseNat {bound : Nat} {s : String} {n : Nat} (h : parseNat s = some n) (hn : n < bound) :
    unsigned bound s = some n := by
  have hPlus : ∀ rest, s.toList ≠ '+' :: rest := by
    intro rest hList
    have hNumeral : isNumeral s.toList = false := by
      rw [hList]
      simp [isNumeral]
    simp [parseNat, hNumeral] at h
  unfold unsigned
  dsimp only
  split
  · exact absurd ‹_› (hPlus _)
  · rw [h]
    simp [hn]

namespace Reply

def asText : Reply → Option String
  | .nil => none
  | .int n => some (toString n)
  | .bulk text => some text

/-- An integer is cast, a text is parsed. -/
def asU32 : Reply → Option UInt32
  | .nil => none
  | .int n => some (UInt32.ofInt n)
  | .bulk text => (unsigned (2 ^ 32) text).map UInt32.ofNat

def asU64 : Reply → Option UInt64
  | .nil => none
  | .int n => some (UInt64.ofInt n)
  | .bulk text => (unsigned (2 ^ 64) text).map UInt64.ofNat

def asBool : Reply → Option Bool
  | .nil => some false
  | .int n => some (n ≠ 0)
  | .bulk "1" => some true
  | .bulk "0" => some false
  | .bulk _ => none

end Reply

section
variable (strtod : String → Option LuaNumber) (truncate : String → Int)

/-- A number of Lua in a reply: `truncate` makes an integer of the text of a fraction. -/
def numberReply : LuaNumber → Reply
  | .integer n => .int n
  | .fraction text => .int (truncate text)

/-- `tonumber` of a nil is nil, and a nil is no entry of a table. -/
def statusNumber (name : String) (text : Option String) : List (String × Reply) :=
  ((text.bind (tonumber strtod)).map fun n => (name, numberReply truncate n)).toList

def entryReply : Option StreamEntry → Reply
  | some entry => .bulk entry.id.text
  | none => .int 0

/-- What XINFO says of a queue; its error is caught. -/
def statusQueue : Except RedisError Redis.Stream → List (String × Reply)
  | .ok s => [("oldest_received", entryReply s.entries.head?),
      ("newest_received", entryReply s.entries.getLast?), ("queue_count", .int s.entries.length)]
  | .error _ => []

/-- keys = did_hash. The entries of a Lua table come in no particular order. -/
def getStatusReply (keys args : List String) : Script (List (String × Reply)) :=
  match keys with
  | [didHash] =>
    match args with
    | [] => do
      let counters ← hmget (.did didHash) ["RECEIVE_QUEUE_COUNT", "RECEIVE_QUEUE_BYTES"]
      let info ← attempt (xinfoStream (.receiveQ didHash))
      let live ← hexists .globalStreaming didHash
      return [("recipient_did", .bulk didHash)] ++
        statusNumber strtod truncate "message_count" counters[0]?.join ++
        statusNumber strtod truncate "total_bytes" counters[1]?.join ++ statusQueue info ++
        [("live_delivery", .int (if live then 1 else 0))]
    | _ => errorReply "get_status_reply: No arguments required"
  | _ => errorReply "get_status_reply: only accepts one key (recipient_did_hash)"

end

structure MessagePickupStatusReply where
  recipientDid : String := ""
  messageCount : UInt32 := 0
  longestWaitedSeconds : Option UInt64 := none
  newestReceivedTime : Option UInt64 := none
  oldestReceivedTime : Option UInt64 := none
  totalBytes : UInt64 := 0
  liveDelivery : Bool := false

def MessagePickupStatusReply.toJson (status : MessagePickupStatusReply) : Json :=
  .obj ([("live_delivery", .bool status.liveDelivery)] ++
    skipNone "longest_waited_seconds" u64Json status.longestWaitedSeconds ++
    [("message_count", u64Json status.messageCount.toUInt64)] ++
    skipNone "newest_received_time" u64Json status.newestReceivedTime ++
    skipNone "oldest_received_time" u64Json status.oldestReceivedTime ++
    [("recipient_did", .str status.recipientDid), ("total_bytes", u64Json status.totalBytes)])

namespace MessagePickup

/-- The seconds of an entry's id; what is no id leaves the time as it was. -/
def receivedTime (v : Reply) (time : Option UInt64) : Option UInt64 :=
  match v.asText with
  | some text =>
    match splitAll '-' text with
    | [ms, _] => (unsigned (2 ^ 64) ms).map fun t => UInt64.ofNat (t / 1000)
    | _ => time
  | none => time

def statusField (status : MessagePickupStatusReply) (p : String × Reply) : MessagePickupStatusReply :=
  match p.1 with
  | "newest_received" =>
    { status with newestReceivedTime := receivedTime p.2 status.newestReceivedTime }
  | "oldest_received" =>
    { status with oldestReceivedTime := receivedTime p.2 status.oldestReceivedTime }
  | "message_count" => { status with messageCount := p.2.asU32.getD status.messageCount }
  | "live_delivery" => { status with liveDelivery := p.2.asBool.getD status.liveDelivery }
  | "total_bytes" => { status with totalBytes := p.2.asU64.getD status.totalBytes }
  | _ => status

variable (shared : SharedData) (truncate : String → Int) (clock : Clock) (session : Common.Session)

/-- The status that the reply reports. -/
def readStatus (overrideLiveDelivery : Option Bool) (response : List (String × Reply)) :
    MessagePickupStatusReply :=
  let status := response.foldl statusField { recipientDid := session.did }
  { status with
    liveDelivery := overrideLiveDelivery.getD status.liveDelivery
    longestWaitedSeconds := status.oldestReceivedTime.map (clock.now - ·) }

def statusMessage (thid : String) (status : MessagePickupStatusReply) : Message :=
  { Message.build clock.newId "https://didcomm.org/messagepickup/3.0/status" status.toJson with
    thid := some thid
    to_ := some [session.did]
    from_ := some shared.mediatorDid
    createdTime := some clock.now
    expiresTime := some (clock.now + 300) }

def generateStatusReply (didHash thid : String) (forceLiveDelivery : Bool)
    (overrideLiveDelivery : Option Bool) : Handler (Option ProcessMessageResponse) := do
  let response ← DatabaseHandler.query shared.env session.sessionId
    ("get_status_reply(" ++ didHash ++ ") failed. Reason: ")
    (fcall (getStatusReply shared.env.strtod truncate) [didHash] [])
  return some
    { storeMessage := false
      forceLiveDelivery
      messageResponse := .message (statusMessage shared clock session thid
        (readStatus clock session overrideLiveDelivery response)) }

def readStatusRequest (body : Json) : Option (Option String) := do
  let get ← record ["recipient_did"] body
  optional Json.asStr (get "recipient_did")

/-- The DID that a status is asked for: a body that cannot be read asks for the session's. -/
def statusRecipient (msg : Message) : Except MediatorError String :=
  match readStatusRequest msg.body with
  | some (some recipientDid) =>
    if recipientDid ≠ session.did then .error (MediatorError.requestDataError session.sessionId
      ("recipient_did: (" ++ recipientDid ++ ") doesn't match session.did!"))
    else .ok (shared.env.digest recipientDid)
  | _ => .ok session.didHash

def statusRequest (msg : Message) : PickupHandler (Option ProcessMessageResponse) := do
  unwrapOk (validateMsg shared clock session msg)
  let recipientDid ← orFail (statusRecipient shared session msg)
  onDatabase (generateStatusReply shared truncate clock session recipientDid (replyThread msg) false none)

end MessagePickup

end AffinidiMessaging.Mediator
