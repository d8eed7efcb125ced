import AffinidiMessaging.Didcomm.Message
import AffinidiMessaging.Mediator.InboxFetch

/-! # Message pickup

The delivery of queued messages as attachments of one reply, and the deletion of those that the
client says it has received. A message that `_validate_msg` refuses makes the handler panic.
-/

namespace AffinidiMessaging.Mediator

open Redis Text Fallible Serde Didcomm

/-- What ends a handler: an error of its own, or `unwrap` on one. -/
inductive HandlerFault
  | error (e : MediatorError)
  | panic (e : MediatorError)
deriving DecidableEq

/-- What the handlers share: the database, the libraries, the configuration, and the text of serde
for a value that is not of a type. -/
structure SharedData where
  env : Environment
  crates : Crates
  mediatorDid : String
  valueError : (type : String) → Json → String

/-- The time of a call, long before the seconds run out, and a fresh id. -/
structure Clock where
  now : UInt64
  newId : String
  far : now.toNat + 300 < 2 ^ 64

abbrev PickupHandler := EStateM HandlerFault Db

def unwrapOk {α : Type} : Except MediatorError α → PickupHandler α
  | .ok a => pure a
  | .error e => throw (.panic e)

def orFail {α : Type} : Except MediatorError α → PickupHandler α
  | .ok a => pure a
  | .error e => throw (.error e)

/-- `?` on a call of the database. -/
def onDatabase {α : Type} (x : Handler α) : PickupHandler α := fun db =>
  match x db with
  | .ok a db' => .ok a db'
  | .error e db' => .error (.error e) db'

namespace MessagePickup

variable (shared : SharedData) (clock : Clock) (session : Common.Session) (msg : Message)

def validateExpiry : Except MediatorError Unit :=
  match msg.expiresTime with
  | some expires => ensure (!decide (expires ≤ clock.now))
      (MediatorError.messageExpired session.sessionId (toString expires) (toString clock.now))
  | none => pure ()

def firstAddress : Except MediatorError String :=
  match msg.to_ with
  | some (first :: _) => .ok first
  | some [] => .error (MediatorError.requestDataError session.sessionId
      "Message missing valid 'to' field, expect at least one address in array.")
  | none => .error (MediatorError.requestDataError session.sessionId "Message missing 'to' field")

def validateReturnRoute : Except MediatorError Unit :=
  match msg.extraHeaders.lookup "return_route" with
  | some header => ensure (header.asStr == some "all") (MediatorError.requestDataError session.sessionId
      ("return_route: extra-header exists. Expected (all) but received (" ++
        shared.crates.jsonToString header ++ ")"))
  | none => .error (MediatorError.requestDataError session.sessionId
      "return_route: extra-header does not exist! It should!")

def validateMsg : Except MediatorError Unit := do
  validateExpiry clock session msg
  let address ← firstAddress session msg
  ensure (address == shared.mediatorDid) (MediatorError.requestDataError session.sessionId
    ("message to: (" ++ address ++ ") didn't match ATM DID (" ++ shared.mediatorDid ++
      "). messages-received messages must be addressed directly to ATM!"))
  ensure msg.from_.isSome (MediatorError.requestDataError session.sessionId
    "Message Pickup 3.0 messages-received can not be anonymous as it is needed from to validate permissions")
  validateReturnRoute shared session msg

/-- The thread of the reply. -/
def replyThread : String := msg.thid.getD msg.id

/-- The body of a delivery request: the recipient and the limit. -/
def readDeliveryRequest (body : Json) : Option (String × Nat) := do
  let get ← record ["recipient_did", "limit"] body
  let recipientDid ← required Json.asStr (get "recipient_did")
  let limit ← required u64 (get "limit")
  return (recipientDid, limit.toNat)

def parseAndValidateDeliveryRequestBody : Except MediatorError (String × Nat) := do
  let (recipientDid, limit) ← okOr (readDeliveryRequest msg.body) (MediatorError.requestDataError session.sessionId
    ("delivery-request body isn't valid. Reason: " ++
      shared.valueError "MessagePickupDeliveryRequest" msg.body))
  ensure (session.did == recipientDid) (MediatorError.unauthorized session.sessionId
    ("Session DID \"" ++ session.did ++ "\" doesn't match recipient DID \"" ++ recipientDid ++ "\""))
  ensure (!decide (limit < 1 ∨ 100 < limit)) (MediatorError.requestDataError session.sessionId
    ("limit must be between 1 and 100 inclusive. Received limit(" ++ limit.repr ++ ")"))
  return (recipientDid, limit)

def readMessagesReceived (body : Json) : Option (List String) := do
  let get ← record ["message_id_list"] body
  required (list Json.asStr) (get "message_id_list")

def parseMessageReceivedBody : Except MediatorError (List String) :=
  okOr (readMessagesReceived msg.body) (MediatorError.requestDataError session.sessionId
    ("messages-received body isn't valid. Reason: " ++
      shared.valueError "MessagePickupMessagesReceived" msg.body))

/-- A fetched message as an attachment under its digest, if its body was there. -/
def attachmentOf (element : MessageListElement) : Option Attachment :=
  element.msg.map fun body =>
    { data := .base64 { base64 := shared.crates.base64Encode body.toUTF8, jws := none }
      id := some element.msgId
      description := none, filename := none, mediaType := none, format := none
      lastmodTime := none, byteCount := none }

/-- The reply to a delivery request. With nothing to deliver it is a status, which has no
attachments. -/
inductive DeliveryReply
  | delivery (message : Message)
  | status

def deliveryMessage (recipientDid thid : String) (messages : List MessageListElement) : Message :=
  { Message.build clock.newId "https://didcomm.org/messagepickup/3.0/delivery"
      (.obj [("recipient_did", .str recipientDid)]) with
    thid := some thid
    attachments := some (messages.filterMap (attachmentOf shared))
    to_ := some [session.did]
    from_ := some shared.mediatorDid
    createdTime := some clock.now
    expiresTime := some (clock.now + 300) }

def deliveryRequest : PickupHandler DeliveryReply := do
  unwrapOk (validateMsg shared clock session msg)
  let (recipientDid, limit) ← orFail (parseAndValidateDeliveryRequestBody shared session msg)
  let messages ← onDatabase (DatabaseHandler.fetchMessages shared.env session.sessionId
    (shared.env.digest recipientDid) { limit := limit })
  if messages.success.isEmpty then return .status
  else
    return .delivery
      (deliveryMessage shared clock session recipientDid (replyThread msg) messages.success)

/-- One id of the list: what cannot be read or deleted is logged. -/
def receiveMessage (msgId : String) : Handler Unit := do
  match ← attempt (DatabaseHandler.getMessage shared.env session.didHash msgId) with
  | .ok _ =>
    let _ ← attempt (DatabaseHandler.deleteMessage shared.env session.sessionId session.didHash msgId)
  | .error _ => pure ()

def receiveAll : List String → Handler Unit
  | [] => pure ()
  | msgId :: rest => do
    receiveMessage shared session msgId
    receiveAll rest

/-- `messages_received`, up to its status reply, which only reads. -/
def messagesReceived : PickupHandler Unit := do
  unwrapOk (validateMsg shared clock session msg)
  let messageIdList ← orFail (parseMessageReceivedBody shared session msg)
  onDatabase (receiveAll shared session messageIdList)

end MessagePickup

/-- The digest and the text of the message that an entry names, as long as it is there. -/
def queuedMessage (db : Db) (entry : StreamEntry) : Option (String × String) :=
  (entry.fields.lookup "MSG_ID").bind fun h =>
    match db (.msg h) with
    | some (.string body) => some (h, body)
    | _ => none

theorem queuedMessage_eq_some_iff {db : Db} {entry : StreamEntry} {h body : String} :
    queuedMessage db entry = some (h, body) ↔
      entry.fields.lookup "MSG_ID" = some h ∧ db (.msg h) = some (.string body) := by
  unfold queuedMessage
  rw [Option.bind_eq_some_iff]
  constructor
  · rintro ⟨h', hMsgId, hBody⟩
    split at hBody
    · cases hBody
      exact ⟨hMsgId, ‹_›⟩
    · cases hBody
  · rintro ⟨hMsgId, hMsg⟩
    exact ⟨h, hMsgId, by simp [hMsg]⟩

theorem listed_queued {db : Db} (hdb : Sound db) {entry : StreamEntry} {h bytes : String}
    {other : String × String} (hFields : entry.fields = [("MSG_ID", h), ("BYTES", bytes), other]) :
    (listed db entry).msg.map ((listed db entry).msgId, ·) = queuedMessage db entry := by
  have hMsgId : entry.fields.lookup "MSG_ID" = some h := by
    rw [hFields]
    simp
  obtain ⟨hId, hBody⟩ := DatabaseHandler.listed_message hdb hFields
  rw [hId, hBody, queuedMessage, hMsgId, Option.bind_some, storedBytes]
  cases db (.msg h) with
  | none => rfl
  | some v => cases v <;> rfl

namespace MessagePickup

variable {shared : SharedData} {clock : Clock} {session : Common.Session} {msg : Message}

def attachmentFor (shared : SharedData) (message : String × String) : Attachment where
  data := .base64 { base64 := shared.crates.base64Encode message.2.toUTF8, jws := none }
  id := some message.1
  description := none
  filename := none
  mediaType := none
  format := none
  lastmodTime := none
  byteCount := none

theorem attachmentOf_listed {db : Db} (hdb : Sound db) {didHash : String} {entry : StreamEntry}
    (h : entry ∈ entriesAt db (.receiveQ didHash)) :
    attachmentOf shared (listed db entry) = (queuedMessage db entry).map (attachmentFor shared) := by
  obtain ⟨messageHash, bytes, other, hFields⟩ := entry_shape hdb h
  rw [← listed_queued hdb hFields, Option.map_map]
  rfl

theorem deliveryRequestBody_ok {recipientDid : String} {limit : Nat}
    (h : parseAndValidateDeliveryRequestBody shared session msg = .ok (recipientDid, limit)) :
    recipientDid = session.did ∧ 1 ≤ limit ∧ limit ≤ 100 := by
  unfold parseAndValidateDeliveryRequestBody at h
  obtain ⟨⟨did, n⟩, -, h⟩ := (except_bind_ok_iff _ _ _).mp h
  obtain ⟨u, hDid, h⟩ := (except_bind_ok_iff _ _ _).mp h
  obtain ⟨u, hLimit, h⟩ := (except_bind_ok_iff _ _ _).mp h
  cases h
  have hDid : session.did = recipientDid := by simpa using (ensure_ok_iff _ _ _).mp hDid
  have hLimit : ¬ (limit < 1 ∨ 100 < limit) := by simpa using (ensure_ok_iff _ _ _).mp hLimit
  exact ⟨hDid.symm, by omega, by omega⟩

/-- What a fetch lists of the first entries of a queue. -/
def firstListed (db : Db) (didHash : String) (limit : Nat) : List MessageListElement :=
  ((entriesAt db (.receiveQ didHash)).take limit).map (listed db)

/-- The reply to a request that is well formed: the first messages of the queue, attached. -/
theorem deliveryRequest_ok {db : Db} (hdb : Sound db) {limit : Nat}
    (hValid : validateMsg shared clock session msg = .ok ())
    (hBody : parseAndValidateDeliveryRequestBody shared session msg = .ok (session.did, limit)) :
    deliveryRequest shared clock session msg db = .ok
      (if (firstListed db (shared.env.digest session.did) limit).isEmpty then .status
      else .delivery (deliveryMessage shared clock session session.did (replyThread msg)
        (firstListed db (shared.env.digest session.did) limit))) db := by
  obtain ⟨-, hLimit⟩ := deliveryRequestBody_ok hBody
  have hHash : (shared.env.digest session.did).utf8ByteSize ≤ protoMaxBulkLen := by
    simp [shared.env.digest_size, protoMaxBulkLen]
  have hStart : ∀ startId, (none : Option String) = some startId → ∃ id : StreamId, startId = id.text := by
    simp
  have hFetch := DatabaseHandler.fetchMessages_listed shared.env hdb hHash session.sessionId hLimit hStart
  have hQuery : onDatabase (DatabaseHandler.fetchMessages shared.env session.sessionId
      (shared.env.digest session.did) { limit := limit }) db =
      .ok { success := firstListed db (shared.env.digest session.did) limit } db := by
    rw [onDatabase, hFetch]
    rfl
  rw [deliveryRequest, hValid, hBody]
  refine (bind_of_ok rfl).trans ((bind_of_ok rfl).trans ((bind_of_ok hQuery).trans ?_))
  dsimp only
  split <;> rfl

end MessagePickup

end AffinidiMessaging.Mediator
