import AffinidiMessaging.Didcomm.Routing
import AffinidiMessaging.Mediator.MessagePickup
import AffinidiMessaging.Mediator.Streaming

/-! # Inbound messages

A message for the mediator is unpacked and processed by the protocol its type names. What the protocol
answers is packed for its receivers, sent to those that stream, and stored where that is asked for.
-/

namespace AffinidiMessaging.Mediator

open Redis Text Fallible Serde Didcomm

inductive MessageType
  | affinidiAuthenticate
  | forwardRequest
  | messagePickupStatusRequest
  | messagePickupDeliveryRequest
  | messagePickupMessagesReceived
  | messagePickupLiveDeliveryChange
  | trustPing
deriving DecidableEq, Repr

def MessageType.fromStr (s : String) : Except MediatorError MessageType :=
  match s with
  | "https://didcomm.org/trust-ping/2.0/ping" => .ok .trustPing
  | "https://affinidi.com/atm/1.0/authenticate" => .ok .affinidiAuthenticate
  | "https://didcomm.org/messagepickup/3.0/status-request" => .ok .messagePickupStatusRequest
  | "https://didcomm.org/messagepickup/3.0/live-delivery-change" =>
    .ok .messagePickupLiveDeliveryChange
  | "https://didcomm.org/messagepickup/3.0/delivery-request" => .ok .messagePickupDeliveryRequest
  | "https://didcomm.org/messagepickup/3.0/messages-received" => .ok .messagePickupMessagesReceived
  | "https://didcomm.org/routing/2.0/forward" => .ok .forwardRequest
  | _ => .error (.parseError "-1" s "Couldn't match on MessageType")

inductive MessageResponse
  | message (message : Message)
  | packedMessage (to_ packedMessage : String)

structure ProcessMessageResponse where
  storeMessage : Bool
  forceLiveDelivery : Bool
  messageResponse : MessageResponse

section
variable (clock : Clock) (session : Common.Session) (msg : Message)

namespace Ping

def readBool : Json → Option Bool
  | .bool b => some b
  | _ => none

/-- A body that cannot be read asks for a response. -/
def responseRequested (body : Json) : Bool :=
  ((record ["response_requested"] body).bind fun get =>
    required readBool (get "response_requested")).getD true

def responseMsg (to_ from_ : String) : Message :=
  { Message.build clock.newId "https://didcomm.org/trust-ping/2.0/ping" (.obj []) with
    thid := some msg.id
    to_ := some [from_]
    from_ := some to_
    createdTime := some clock.now
    expiresTime := some (clock.now + 300) }

def process : Except MediatorError (Option ProcessMessageResponse) := do
  MessagePickup.validateExpiry clock session msg
  let to_ ← MessagePickup.firstAddress session msg
  if responseRequested msg.body then do
    let from_ ← okOr msg.from_ (MediatorError.requestDataError session.sessionId
      "Anonymous Trust-Ping is asking for a response, this is an invalid request!")
    return some { storeMessage := true, forceLiveDelivery := false
                  messageResponse := .message (responseMsg clock msg to_ from_) }
  else return none

end Ping

/-- `routing::process`; `debug` is the text of a message in a log. -/
def Routing.process (crates : Crates) (debug : Message → String) :
    Except MediatorError (Option ProcessMessageResponse) := do
  MessagePickup.validateExpiry clock session msg
  match tryParseForward msg with
  | some forward =>
    return some { storeMessage := true, forceLiveDelivery := true
                  messageResponse :=
                    .packedMessage forward.next (crates.jsonToString forward.forwardedMsg) }
  | none => throw (MediatorError.requestDataError session.sessionId
      ("Message is not a valid ForwardRequest:\n " ++ debug msg ++ "\n"))

/-- A handler of the message pickup protocol. -/
abbrev Pickup := MessageType → Message → PickupHandler (Option ProcessMessageResponse)

variable (crates : Crates) (debug : Message → String) (pickup : Pickup)

def MessageType.process (type_ : MessageType) : PickupHandler (Option ProcessMessageResponse) :=
  match type_ with
  | .trustPing => orFail (Ping.process clock session msg)
  | .forwardRequest => orFail (Routing.process clock session msg crates debug)
  | .affinidiAuthenticate => orFail (.error (.notImplemented session.sessionId
      "Affinidi Authentication is only handled by the Authorization handler"))
  | type_ => pickup type_ msg

/-- `process` of a message; its own check of the expiry does not know the session. -/
def processMessage : PickupHandler (Option ProcessMessageResponse) := do
  let msgType ← orFail (MessageType.fromStr msg.type_)
  orFail (MessagePickup.validateExpiry clock { session with sessionId := "-1" } msg)
  msgType.process clock session msg crates debug pickup

theorem orFail_ok_iff {α : Type} (x : Except MediatorError α) (a : α) (db db' : Db) :
    orFail x db = .ok a db' ↔ x = .ok a ∧ db' = db := by
  cases x with
  | ok b =>
    rw [orFail, pure_run, EStateM.Result.ok.injEq, Except.ok.injEq]
    exact and_congr_right fun _ => eq_comm
  | error e => simp [orFail]

/-- The second check of the expiry of a message in time changes nothing. -/
theorem processMessage_ok_iff {msgType : MessageType} (hType : MessageType.fromStr msg.type_ = .ok msgType)
    {db db' : Db} {r : Option ProcessMessageResponse} :
    processMessage clock session msg crates debug pickup db = .ok r db' ↔
      MessagePickup.validateExpiry clock { session with sessionId := "-1" } msg = .ok () ∧
        msgType.process clock session msg crates debug pickup db = .ok r db' := by
  simp only [processMessage, bind_ok_iff, orFail_ok_iff, hType, Except.ok.injEq]
  constructor
  · rintro ⟨_, _, ⟨rfl, rfl⟩, _, _, ⟨hFresh, rfl⟩, h⟩
    exact ⟨hFresh, h⟩
  · rintro ⟨hFresh, h⟩
    exact ⟨msgType, db, ⟨rfl, rfl⟩, (), db, ⟨hFresh, rfl⟩, h⟩

end

end AffinidiMessaging.Mediator
