import AffinidiMessaging.Didcomm.Onion
import AffinidiMessaging.Mediator.Inbound
import AffinidiMessaging.Mediator.StreamingTask
import AffinidiMessaging.Mediator.StreamingUuid

/-! # `handle_inbound`

A text that comes in is unpacked and processed, and what the protocol answers is packed. The packed
messages are published for the receivers that stream, and then stored if they are to be.
-/

namespace AffinidiMessaging.Mediator

open Redis Text Fallible Serde Didcomm

/-- What the mediator works with, and what it was configured with. -/
structure Config extends SharedData where
  dids : DidResolver
  mediatorSecrets : SecretsResolver
  cryptoOperationsPerMessageLimit : Nat
  toRecipientsLimit : Nat
  toKeysPerRecipientLimit : Nat
  debug : Message → String
  debugResponse : MessageResponse → String
  pickup : Pickup

/-- What one call reads of its surroundings: the clocks, and what is drawn at random. -/
structure Surroundings (crates : Crates) where
  clock : Clock
  draws : String → Message.PackDraws crates
  stored : Nat → ServerTime

/-- What ends `handle_inbound`: what ends a handler, a panic of unpacking or packing, or that there is no
first message to answer with. -/
inductive InboundFault
  | handler (fault : HandlerFault)
  | panic (p : Panic)
  | noMessage
deriving DecidableEq

structure InboundMessageList where
  messages : List (String × String) := []
  errors : List (String × String) := []
deriving DecidableEq, Repr

inductive InboundMessageResponse
  | stored (list : InboundMessageList)
  | ephemeral (packed : String)
  | empty
deriving DecidableEq, Repr

/-- The database, and what was published: the mediator of the channel and the record. -/
structure Broker where
  db : Db
  published : List (String × PubSubRecord)

abbrev InboundHandler := EStateM InboundFault Broker

/-- An error of the crate as the error of a handler. -/
def ofFault (error : String → MediatorError) : Fault → InboundFault
  | .error e => .handler (.error (error e.text))
  | .panic p => .panic p

def orFault {α : Type} (error : String → MediatorError) : Result α → Except InboundFault α
  | .ok a => .ok a
  | .error e => .error (ofFault error e)

section
variable (config : Config) (session : Common.Session)

/-- The message of a text, unpacked with the secrets of the mediator. -/
def unpackInbound (message : String) : Except InboundFault (Message × UnpackMetadata) :=
  match MetaEnvelope.new config.crates config.dids config.mediatorSecrets message (.fresh config.crates) with
  | .error e _ => .error (ofFault (.parseError session.sessionId "Raw inbound DIDComm message") e)
  | .ok () s =>
    match Message.unpack config.crates config.dids config.mediatorSecrets
      { cryptoOperationsLimitPerMessage := config.cryptoOperationsPerMessageLimit } s with
    | .error e _ => .error (ofFault (fun text => .messageUnpackError session.sessionId
        ("Couldn't unpack incoming message. Reason: " ++ text)) e)
    | .ok unpacked _ => .ok unpacked

/-- The answer of the mediator goes encrypted, and signed in its name, where the request was encrypted. -/
def packFor (draws : String → Message.PackDraws config.crates) (metadata : UnpackMetadata) (message : Message)
    (toDid : String) : Except InboundFault (String × String) :=
  if metadata.encrypted then do
    let packed ← orFault (.messagePackError "-1") (message.packEncrypted config.crates config.dids
      config.mediatorSecrets (draws toDid) toDid message.from_ (some config.mediatorDid)
      { toKidsLimit := config.toKeysPerRecipientLimit })
    return (toDid, packed.1)
  else throw (.handler (.error (.messagePackError "-1" "PACK METHOD NOT IMPLEMENTED")))

def packError {α : Type} (text : String) : Except InboundFault α :=
  throw (.handler (.error (.messagePackError session.sessionId text)))

/-- The receivers of an answer, each with the text for it. -/
def packResponse (draws : String → Message.PackDraws config.crates) (metadata : UnpackMetadata) :
    MessageResponse → Except InboundFault (List (String × String))
  | .packedMessage to_ packedMessage => .ok [(to_, packedMessage)]
  | .message message =>
    match message.to_ with
    | some toDids => do
      if config.toRecipientsLimit < toDids.length then
        packError session ("Recipient count(" ++ toDids.length.repr ++ ") exceeds limit")
      else if toDids.isEmpty then packError session "Recipients are empty"
      else toDids.mapM (packFor config draws metadata message)
    | none => packError session ("MessageResponse is unmatched: " ++ config.debugResponse (.message message))

def orRaise {α : Type} : Except InboundFault α → InboundHandler α
  | .ok a => pure a
  | .error e => throw e

/-- A handler of a protocol works on the database. -/
def onBroker {α : Type} (x : PickupHandler α) : InboundHandler α := fun s =>
  match x s.db with
  | .ok a db => .ok a { s with db }
  | .error e db => .error (.handler e) { s with db }

/-- What there is to publish and to store. -/
structure Outgoing where
  storeMessage : Bool
  forceLiveDelivery : Bool
  packed : List (String × String)

/-- The first part of the handler, up to the packed answer. -/
def prepareOutgoing (around : Surroundings config.crates) (message : String) : InboundHandler Outgoing := do
  let (msg, metadata) ← orRaise (unpackInbound config session message)
  let response ← onBroker (processMessage around.clock session msg config.crates config.debug config.pickup)
  match response with
  | none => throw (.handler (.error (.internalError session.sessionId "Expected a message to return, but got None")))
  | some response => do
    let packed ← orRaise (packResponse config session around.draws metadata response.messageResponse)
    return { storeMessage := response.storeMessage, forceLiveDelivery := response.forceLiveDelivery, packed }

/-- The text that is published. -/
def PubSubRecord.text (crates : Crates) (record : PubSubRecord) : String :=
  crates.jsonToString (.obj [("did_hash", .str record.didHash), ("message", .str record.message),
    ("force_delivery", .bool record.forceDelivery)])

/-- PUBLISH on the channel of a mediator; a record that is too long is lost, and the error not looked at. -/
def publish (uuid : String) (record : PubSubRecord) : InboundHandler Unit := fun s =>
  if (record.text config.crates).utf8ByteSize ≤ protoMaxBulkLen then
    .ok () { s with published := s.published ++ [(uuid, record)] }
  else .ok () s

/-- `_try_live_stream`: the row of the receiver names the mediator whose channel is published on. -/
def tryLiveStream (force : Bool) (p : String × String) : InboundHandler Unit := do
  let live ← onBroker (onDatabase (DatabaseHandler.streamingIsClientLive config.env (config.env.digest p.1) force))
  match live with
  | some uuid => publish config uuid ⟨config.env.digest p.1, p.2, force⟩
  | none => return ()

/-- One packed message is stored for its receiver, from the mediator. -/
def storePacked (time : ServerTime) (list : InboundMessageList) (p : String × String) :
    InboundHandler InboundMessageList := fun s =>
  match DatabaseHandler.storeMessage config.env time session.sessionId p.2 p.1 (some config.mediatorDid) s.db with
  | .ok msgId db => .ok { list with messages := list.messages ++ [(p.1, msgId)] } { s with db }
  | .error e db => .ok { list with errors := list.errors ++ [(p.1, e.text)] } { s with db }

/-- What is left of the handler once the messages are published. -/
def storeOutgoing (stored : Nat → ServerTime) (out : Outgoing) : InboundHandler InboundMessageResponse :=
  if out.storeMessage then do
    let list ← out.packed.zipIdx.foldlM (fun list p => storePacked config session (stored p.2) list p.1) {}
    return .stored list
  else
    match out.packed with
    | p :: _ => pure (.ephemeral p.2)
    | [] => throw .noMessage

def handleInbound (around : Surroundings config.crates) (message : String) :
    InboundHandler InboundMessageResponse := do
  let out ← prepareOutgoing config session around message
  out.packed.forM (tryLiveStream config out.forceLiveDelivery)
  storeOutgoing config session around.stored out

end

section
variable {config : Config} {session : Common.Session}

theorem orRaise_ok_iff {α : Type} (x : Except InboundFault α) (a : α) (s s' : Broker) :
    orRaise x s = .ok a s' ↔ x = .ok a ∧ s' = s := by
  cases x with
  | ok b =>
    rw [orRaise, pure_run, EStateM.Result.ok.injEq, Except.ok.injEq]
    exact and_congr_right fun _ => eq_comm
  | error e => simp [orRaise]

theorem onBroker_ok_iff {α : Type} (x : PickupHandler α) (a : α) (s s' : Broker) :
    onBroker x s = .ok a s' ↔ ∃ db, x s.db = .ok a db ∧ s' = { s with db } := by
  unfold onBroker
  cases x s.db with
  | ok b db =>
    simp only [EStateM.Result.ok.injEq]
    constructor
    · rintro ⟨rfl, rfl⟩
      exact ⟨db, ⟨rfl, rfl⟩, rfl⟩
    · rintro ⟨db, ⟨rfl, rfl⟩, rfl⟩
      exact ⟨rfl, rfl⟩
  | error e db => simp

theorem publish_ok (uuid : String) (record : PubSubRecord) (s : Broker) :
    ∃ published, publish config uuid record s = .ok () { s with published } := by
  unfold publish
  split
  · exact ⟨_, rfl⟩
  · exact ⟨s.published, rfl⟩

theorem onBroker_isClientLive (didHash : String) (force : Bool) (s : Broker) :
    onBroker (onDatabase (DatabaseHandler.streamingIsClientLive config.env didHash force)) s =
      .ok ((field s.db .globalStreaming didHash).bind (DatabaseHandler.liveRow · force)) s := by
  rw [onBroker, onDatabase, DatabaseHandler.streamingIsClientLive_eq]

/-- The record is published on the channel that the registry names. -/
theorem tryLiveStream_run {force : Bool} {p : String × String} {s : Broker}
    (hRecord : (field s.db .globalStreaming (config.env.digest p.1)).bind (DatabaseHandler.liveRow · force) ≠ none →
      (PubSubRecord.text config.crates ⟨config.env.digest p.1, p.2, force⟩).utf8ByteSize ≤ protoMaxBulkLen) :
    tryLiveStream config force p s = .ok () ⟨s.db, s.published ++
      ((field s.db .globalStreaming (config.env.digest p.1)).bind (DatabaseHandler.liveRow · force)).toList.map
        ((·, ⟨config.env.digest p.1, p.2, force⟩))⟩ := by
  rw [tryLiveStream, bind_of_ok (onBroker_isClientLive (config.env.digest p.1) force s)]
  cases hRow : (field s.db .globalStreaming (config.env.digest p.1)).bind (DatabaseHandler.liveRow · force) with
  | none => simp
  | some uuid =>
    change publish config uuid _ s = _
    rw [publish, if_pos (hRecord (by simp [hRow]))]
    rfl

theorem publish_record {uuid : String} {record : PubSubRecord} {s s' : Broker}
    (h : publish config uuid record s = .ok () s') :
    ∀ p ∈ s'.published, p ∈ s.published ∨ p.2 = record := by
  unfold publish at h
  split at h
  · cases h
    intro p hp
    rcases List.mem_append.mp hp with hp | hp
    · exact .inl hp
    · exact .inr (congrArg Prod.snd (List.mem_singleton.mp hp))
  · cases h
    exact fun p hp => .inl hp

theorem tryLiveStream_record {force : Bool} {p : String × String} {s s' : Broker}
    (h : tryLiveStream config force p s = .ok () s') :
    ∀ q ∈ s'.published, q ∈ s.published ∨ q.2 = ⟨config.env.digest p.1, p.2, force⟩ := by
  rw [tryLiveStream, bind_of_ok (onBroker_isClientLive (config.env.digest p.1) force s)] at h
  cases hLive : (field s.db .globalStreaming (config.env.digest p.1)).bind (DatabaseHandler.liveRow · force) with
  | none =>
    rw [hLive] at h
    cases h
    exact fun q hq => .inl hq
  | some uuid =>
    rw [hLive] at h
    exact publish_record h

/-- Publishing does not fail, and leaves the database as it is. -/
theorem tryLiveStream_ok (force : Bool) (p : String × String) (s : Broker) :
    ∃ published, tryLiveStream config force p s = .ok () { s with published } := by
  rw [tryLiveStream, bind_of_ok (onBroker_isClientLive (config.env.digest p.1) force s)]
  cases (field s.db .globalStreaming (config.env.digest p.1)).bind (DatabaseHandler.liveRow · force) with
  | none => exact ⟨s.published, rfl⟩
  | some uuid => exact publish_ok uuid _ s

theorem forM_tryLiveStream_ok (force : Bool) (packed : List (String × String)) (s : Broker) :
    ∃ published, packed.forM (tryLiveStream config force) s = .ok () { s with published } := by
  induction packed generalizing s with
  | nil => exact ⟨s.published, rfl⟩
  | cons p rest ih =>
    obtain ⟨published, hFirst⟩ := @tryLiveStream_ok config force p s
    obtain ⟨published', hRest⟩ := ih { s with published }
    exact ⟨published', (bind_of_ok hFirst).trans hRest⟩

end

end AffinidiMessaging.Mediator
