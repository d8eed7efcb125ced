import AffinidiMessaging.Mediator.ForwardedInbox
import AffinidiMessaging.Mediator.PickupHandlers
import AffinidiMessaging.Mediator.ReadIsolation

/-! # Replies on a WebSocket

`handle_socket` passes the texts of its client to `handle_inbound` and drops what is returned. What the
client gets is what the streaming task sends to the channel of the socket.
-/

namespace AffinidiMessaging.Mediator

open Redis Text Fallible Serde Didcomm

/-- The request of message pickup that a type names. -/
def MessageType.pickupRequest : MessageType → Option PickupRequest
  | .messagePickupStatusRequest => some .statusRequest
  | .messagePickupDeliveryRequest => some .deliveryRequest
  | .messagePickupMessagesReceived => some .messagesReceived
  | .messagePickupLiveDeliveryChange => some .toggleLiveDelivery
  | _ => none

/-- The handlers of message pickup as `process` calls them. -/
def PickupProtocol.pickup (shared : SharedData) (truncate : String → Int) (clock : Clock)
    (session : Common.Session) (streamingTask : Option Bool) : Pickup := fun type_ msg db =>
  match type_.pickupRequest with
  | none => .ok none db
  | some request =>
    match handle shared clock session (redis shared.env truncate) streamingTask msg request
      (⟨db, []⟩ : PickupState Db Unit) with
    | .ok response s => .ok response s.db
    | .error e s => .error e s.db

/-- A fault that unwinds the task. -/
def InboundFault.panics : InboundFault → Bool
  | .handler (.error _) => false
  | .handler (.panic _) | .panic _ | .noMessage => true

inductive TurnEnd
  | loops
  | breaks
  | panics
deriving DecidableEq, Repr

/-- A turn of the loop of `handle_socket`, and what it passes to `socket.send`. -/
structure SocketTurn where
  ends : TurnEnd
  sent : List String
  broker : Broker

/-- A text of the client: the response of `handle_inbound` is the value of a statement. -/
def handleText (config : Config) (session : Common.Session) (around : Surroundings config.crates)
    (wsSizeLimit : Nat) (msg : String) (s : Broker) : SocketTurn :=
  if wsSizeLimit < msg.utf8ByteSize then ⟨.breaks, [], s⟩
  else
    match handleInbound config session around msg s with
    | .ok _response s' => ⟨.loops, [], s'⟩
    | .error e s' => ⟨if e.panics then .panics else .loops, [], s'⟩

/-- A message of the streaming task, or that its end of the channel is dropped. -/
def handleDelivery (value : Option String) (s : Broker) : SocketTurn :=
  match value with
  | some msg => ⟨.loops, [msg], s⟩
  | none => ⟨.breaks, [], s⟩

/-- A WebSocket of a session, and the map of the streaming task, if the mediator has one, when the task
takes what a turn of the socket has published. -/
structure OpenSocket (Tx : Type) where
  uuid : String
  sessionId : String
  did : String
  wsSizeLimit : Nat
  tx : Tx
  task : Option (Clients Tx)

namespace OpenSocket

variable {Tx : Type} [DecidableEq Tx] (socket : OpenSocket Tx)

def session (env : Environment) : Common.Session := .authenticated env socket.sessionId socket.did

/-- The mediator of the socket, with the handlers of message pickup. -/
def mediator (config : Config) (truncate : String → Int) (clock : Clock) : Config :=
  { config with
    pickup := PickupProtocol.pickup config.toSharedData truncate clock (socket.session config.env)
      (socket.task.map fun _ => true) }

/-- What the streaming task sends to the channel of the socket. -/
def forwarded (published : List (String × PubSubRecord)) : List String :=
  match socket.task with
  | some clients => published.filterMap fun p =>
      if p.1 = socket.uuid ∧ clients.recipient p.2 = some socket.tx then some p.2.message else none
  | none => []

/-- A turn sends the text, or the socket does when the streaming task has taken what the turn published. -/
def Delivers (before : Broker) (turn : SocketTurn) (text : String) : Prop :=
  text ∈ turn.sent ∨
    ∃ msg ∈ socket.forwarded (turn.broker.published.drop before.published.length),
      text ∈ (handleDelivery (some msg) turn.broker).sent

/-- The mediator whose channel the registry has for the DID. -/
def channel (env : Environment) (force : Bool) (db : Db) : Option String :=
  (field db .globalStreaming (env.digest socket.did)).bind (DatabaseHandler.liveRow · force)

/-- The row of the DID names the mediator of the socket and the map the socket itself, and what is not forced
finds both live. -/
def Streams (env : Environment) (force : Bool) (db : Db) : Prop :=
  socket.channel env force db = some socket.uuid ∧
    ∃ clients active, socket.task = some clients ∧
      clients (env.digest socket.did) = some (socket.tx, active) ∧ (force = true ∨ active = true)

end OpenSocket

/-- A text that asks for a change of live delivery. -/
def changesLiveDelivery (config : Config) (session : Common.Session) (text : String) : Bool :=
  match unpackInbound config session text with
  | .ok (m, _) => m.type_ = "https://didcomm.org/messagepickup/3.0/live-delivery-change"
  | .error _ => false

theorem untouched_streaming_deleteChecked (strtod : String → Option LuaNumber) (messageHash didHash : String)
    (fields : Fields) : Untouched .globalStreaming (deleteChecked strtod messageHash didHash fields) := by
  unfold deleteChecked
  split
  · exact fun _ => .throw _
  · split
    · exact fun _ => .throw _
    · exact untouched_streaming_deleteOwned strtod messageHash fields _

section
variable (env : Environment) {v : Option Redis.Value}

theorem keeps_fcall {I : Db → Prop} {α : Type} {f : List String → List String → Script α} {keys args : List String}
    (h : Keeps I (f keys args)) : Keeps I (fcall f keys args) := by
  unfold fcall
  split
  · exact h
  · exact .throw _

namespace DatabaseHandler

theorem keeps_streaming_deleteMessage (sessionId didHash messageHash : String) :
    Keeps (fun db => db .globalStreaming = v) (deleteMessage env sessionId didHash messageHash) := by
  refine Keeps.bind (keeps_query env (keeps_fcall ?_) _ _) fun response => ?_
  · exact (keeps_ofKey _ _).bind fun fields => untouched_streaming_deleteChecked env.strtod messageHash didHash fields v
  · split
    · exact .pure _
    · exact .throw _

end DatabaseHandler

theorem keeps_getStatusReply {I : Db → Prop} (truncate : String → Int) (didHash : String) :
    Keeps I (getStatusReply env.strtod truncate [didHash] []) := by
  refine (keeps_ofKey _ _).bind fun counters => ?_
  exact (Keeps.attempt (keeps_ofKey _ _)).bind fun info => (keeps_ofKey _ _).bind fun live => .pure _

end

namespace PickupProtocol

section
variable {shared : SharedData} {clock : Clock} {session : Common.Session} {truncate : String → Int}
  {streamingTask : Option Bool} {msg : Message} {Tx : Type} {v : Option Redis.Value}

/-- What the handlers answer with: a message for the session, which is not stored. -/
def Replies (session : Common.Session) (force : Bool) (r : Option ProcessMessageResponse) : Prop :=
  ∃ m : Message, r = some ⟨false, force, .message m⟩ ∧ m.to_ = some [session.did]

/-- On a success the registry is as it was, and what is returned has the property. -/
def Yields {α : Type} (v : Option Redis.Value) (x : PickupCall Db Tx α) (P : α → Prop) : Prop :=
  Triple (fun s => s.db .globalStreaming = v) x (fun a s => P a ∧ s.db .globalStreaming = v) fun _ _ => True

namespace Yields

variable {α β : Type} {P : α → Prop}

theorem bind {x : PickupCall Db Tx α} {f : α → PickupCall Db Tx β} {Q : β → Prop} (hx : Yields v x P)
    (hf : ∀ a, P a → Yields v (f a) Q) : Yields v (x >>= f) Q :=
  Triple.bind hx fun a s hs => hf a hs.1 s hs.2

theorem pure {a : α} (h : P a) : Yields v (Pure.pure a : PickupCall Db Tx α) P :=
  Triple.pure fun _ hs => ⟨h, hs⟩

theorem lift {x : Except HandlerFault α} (h : ∀ a, x = .ok a → P a) : Yields v (liftM x : PickupCall Db Tx α) P :=
  Triple.lift (fun _ a hs hx => ⟨h a hx, hs⟩) fun _ _ _ _ => trivial

theorem call {x : EStateM MediatorError Db α} (hx : Keeps (fun db => db .globalStreaming = v) x) :
    Yields v (PickupProtocol.call x : PickupCall Db Tx _) fun _ => True := by
  intro s hs
  constructor
  · intro r s' h
    cases hRun : x s.db with
    | ok a db =>
      rw [call_of_ok hRun] at h
      cases h
      exact ⟨trivial, (hx s.db hs).1 a db hRun⟩
    | error e db =>
      rw [call_of_error hRun] at h
      cases h
      exact ⟨trivial, (hx s.db hs).2 e db hRun⟩
  · exact fun _ _ _ => trivial

end Yields

theorem report_ok_iff {α : Type} {x : Except MediatorError α} {a : α} : report x = .ok a ↔ x = .ok a := by
  cases x <;> simp [report, Except.mapError]

theorem unwrap_ok_iff {α : Type} {x : Except MediatorError α} {a : α} : unwrap x = .ok a ↔ x = .ok a := by
  cases x <;> simp [unwrap, Except.mapError]

theorem yields_sendUpdate (state : StreamingUpdateState Tx) (failure : String) :
    Yields v (sendUpdate session streamingTask state failure) fun _ => True := by
  intro s hs
  unfold sendUpdate
  constructor
  · intro u s' h
    cases streamingTask with
    | none =>
      cases h
      exact ⟨trivial, hs⟩
    | some alive =>
      cases alive with
      | true =>
        cases h
        exact ⟨trivial, hs⟩
      | false => cases h
  · exact fun _ _ _ => trivial

theorem yields_generateStatusReply (didHash thid : String) (force : Bool) (live : Option Bool) :
    Yields v (generateStatusReply shared clock session (redis shared.env truncate) didHash thid force live :
      PickupCall Db Tx _) fun r => ∀ a, r = .ok a → Replies session force a := by
  refine (Yields.call ?_).bind fun response _ => .pure fun a ha => ?_
  · exact DatabaseHandler.keeps_query shared.env (keeps_fcall (keeps_getStatusReply shared.env truncate didHash)) _ _
  · cases response with
    | error e => cases ha
    | ok response =>
      cases ha
      exact ⟨_, rfl, rfl⟩

theorem yields_receiveAll (ids : List String) :
    Yields v (receiveAll session (redis shared.env truncate) ids : PickupCall Db Tx Unit) fun _ => True := by
  induction ids with
  | nil => exact .pure trivial
  | cons msgId rest ih =>
    refine Yields.bind (P := fun _ => True) ?_ fun _ _ => ih
    refine (Yields.call (DatabaseHandler.keeps_getMessage shared.env _ _)).bind fun message _ => ?_
    cases message with
    | error e => exact .pure trivial
    | ok message =>
      exact (Yields.call (DatabaseHandler.keeps_streaming_deleteMessage shared.env _ _ _)).bind fun _ _ => .pure trivial

/-- A handler that succeeds has a reply for the session; only that to a live-delivery-change is forced. -/
theorem yields_handle (request : PickupRequest) :
    Yields v (handle shared clock session (redis shared.env truncate) streamingTask msg request : PickupCall Db Tx _)
      (Replies session (request = .toggleLiveDelivery)) := by
  have hStatus (didHash : String) (force : Bool) (live : Option Bool) : Yields v (do
      let reply ← generateStatusReply shared clock session (redis shared.env truncate) didHash
        (MessagePickup.replyThread msg) force live
      report reply : PickupCall Db Tx _) (Replies session force) :=
    (yields_generateStatusReply didHash _ force live).bind fun reply hReply =>
      .lift fun a ha => hReply a (report_ok_iff.mp ha)
  have hValid : Yields v (liftM (unwrap (MessagePickup.validateMsg shared clock session msg)) : PickupCall Db Tx Unit)
      fun _ => True := .lift fun _ _ => trivial
  cases request with
  | statusRequest =>
    exact hValid.bind fun _ _ => (Yields.lift fun _ _ => trivial).bind fun recipientDid _ => hStatus _ _ _
  | deliveryRequest =>
    refine hValid.bind fun _ _ => (Yields.lift fun _ _ => trivial).bind fun body _ => ?_
    refine (Yields.call (DatabaseHandler.keeps_fetchMessages shared.env (fun id =>
      DatabaseHandler.keeps_streaming_deleteMessage shared.env _ _ _) _)).bind fun fetched _ => ?_
    refine (Yields.lift fun _ _ => trivial).bind fun messages _ => ?_
    split
    · exact hStatus _ _ _
    · exact .pure ⟨_, rfl, rfl⟩
  | messagesReceived =>
    refine hValid.bind fun _ _ => (Yields.lift fun _ _ => trivial).bind fun ids _ => ?_
    refine (yields_receiveAll ids).bind fun _ _ => (yields_generateStatusReply _ _ _ _).bind fun reply hReply => ?_
    exact .lift fun a ha => hReply a (unwrap_ok_iff.mp ha)
  | toggleLiveDelivery =>
    refine hValid.bind fun _ _ => (Yields.lift fun _ _ => trivial).bind fun liveDelivery _ => ?_
    split
    · exact (yields_sendUpdate _ _).bind fun _ _ => hStatus _ _ _
    · exact (yields_sendUpdate _ _).bind fun _ _ => hStatus _ _ _

theorem pickup_of_ok {type_ : MessageType} {request : PickupRequest} (hRequest : type_.pickupRequest = some request)
    {db : Db} {response : Option ProcessMessageResponse} {s : PickupState Db Unit}
    (h : handle shared clock session (redis shared.env truncate) streamingTask msg request ⟨db, []⟩ = .ok response s) :
    pickup shared truncate clock session streamingTask type_ msg db = .ok response s.db := by
  simp only [pickup, hRequest, h]

end

end PickupProtocol

theorem MessageType.fromStr_toggle_iff {s : String} {type_ : MessageType} (h : MessageType.fromStr s = .ok type_) :
    s = "https://didcomm.org/messagepickup/3.0/live-delivery-change" ↔
      type_.pickupRequest = some .toggleLiveDelivery := by
  unfold MessageType.fromStr at h
  split at h <;> cases h <;> simp [pickupRequest]

section
variable {config : Config} {session : Common.Session} {around : Surroundings config.crates} {text reply : String}
  {s s' : Broker}

/-- What is answered without being stored is the first packed message. -/
theorem handleInbound_ephemeral (h : handleInbound config session around text s = .ok (.ephemeral reply) s') :
    ∃ m metadata r db toDid rest, unpackInbound config session text = .ok (m, metadata) ∧
      processMessage around.clock session m config.crates config.debug config.pickup s.db = .ok (some r) db ∧
      r.storeMessage = false ∧
      packResponse config session around.draws metadata r.messageResponse = .ok ((toDid, reply) :: rest) ∧
      ((toDid, reply) :: rest).forM (tryLiveStream config r.forceLiveDelivery) { s with db } = .ok () s' := by
  obtain ⟨out, s₁, hOut, h⟩ := (bind_ok_iff _ _ _ _ _).mp h
  obtain ⟨u, s₂, hStream, hStore⟩ := (bind_ok_iff _ _ _ _ _).mp h
  simp only [prepareOutgoing, bind_ok_iff, orRaise_ok_iff] at hOut
  obtain ⟨⟨m, metadata⟩, _, ⟨hUnpack, rfl⟩, response, s₃, hProcess, hOut⟩ := hOut
  obtain ⟨db, hRun, rfl⟩ := (onBroker_ok_iff _ _ _ _).mp hProcess
  cases response with
  | none => cases hOut
  | some r =>
    simp only [bind_ok_iff, orRaise_ok_iff] at hOut
    obtain ⟨packed, _, ⟨hPack, rfl⟩, hOut⟩ := hOut
    cases hOut
    unfold storeOutgoing at hStore
    split at hStore
    · obtain ⟨list, s₄, -, hStored⟩ := (bind_ok_iff _ _ _ _ _).mp hStore
      cases hStored
    · rename_i hNotStored
      cases packed with
      | nil => cases hStore
      | cons p rest =>
        cases hStore
        exact ⟨m, metadata, r, db, p.1, rest, hUnpack, hRun, Bool.eq_false_iff.mpr hNotStored, hPack, hStream⟩

theorem handleInbound_of_ephemeral {m : Message} {metadata : UnpackMetadata} {r : ProcessMessageResponse} {db : Db}
    {toDid : String} (hUnpack : unpackInbound config session text = .ok (m, metadata))
    (hProcess : processMessage around.clock session m config.crates config.debug config.pickup s.db = .ok (some r) db)
    (hNotStored : r.storeMessage = false)
    (hPack : packResponse config session around.draws metadata r.messageResponse = .ok [(toDid, reply)]) :
    ∃ s', handleInbound config session around text s = .ok (.ephemeral reply) s' := by
  have hOut : prepareOutgoing config session around text s =
      .ok ⟨r.storeMessage, r.forceLiveDelivery, [(toDid, reply)]⟩ ⟨db, s.published⟩ := by
    simp only [prepareOutgoing, bind_ok_iff, orRaise_ok_iff]
    refine ⟨_, s, ⟨hUnpack, rfl⟩, _, _, (onBroker_ok_iff _ _ _ _).mpr ⟨_, hProcess, rfl⟩, ?_⟩
    exact (bind_ok_iff _ _ _ _ _).mpr ⟨_, _, (orRaise_ok_iff _ _ _ _).mpr ⟨hPack, rfl⟩, rfl⟩
  obtain ⟨published, hPublish⟩ := @forM_tryLiveStream_ok config r.forceLiveDelivery [(toDid, reply)] ⟨db, s.published⟩
  refine ⟨⟨db, published⟩, (bind_of_ok hOut).trans ((bind_of_ok hPublish).trans ?_)⟩
  rw [storeOutgoing, hNotStored]
  rfl

theorem handleText_of_ok {limit : Nat} {response : InboundMessageResponse} (hSize : text.utf8ByteSize ≤ limit)
    (h : handleInbound config session around text s = .ok response s') :
    handleText config session around limit text s = ⟨.loops, [], s'⟩ := by
  rw [handleText, if_neg (Nat.not_lt.mpr hSize), h]

/-- Only message pickup answers with a message that is not stored. -/
theorem processMessage_ephemeral {clock : Clock} {m : Message} {crates : Crates} {debug : Message → String}
    {pickup : Pickup} {r : ProcessMessageResponse} {db db' : Db}
    (h : processMessage clock session m crates debug pickup db = .ok (some r) db')
    (hNotStored : r.storeMessage = false) :
    ∃ type_ request, MessageType.fromStr m.type_ = .ok type_ ∧ type_.pickupRequest = some request ∧
      pickup type_ m db = .ok (some r) db' := by
  obtain ⟨type_, db₁, hParse, -⟩ := (bind_ok_iff _ _ _ _ _).mp h
  obtain ⟨hType, rfl⟩ := (orFail_ok_iff _ _ _ _).mp hParse
  obtain ⟨-, hProcess⟩ := (processMessage_ok_iff _ _ _ _ _ _ hType).mp h
  cases type_ with
  | affinidiAuthenticate => cases hProcess
  | forwardRequest =>
    obtain ⟨hRouting, -⟩ := (orFail_ok_iff _ _ _ _).mp hProcess
    obtain ⟨u, -, hRouting⟩ := (except_bind_ok_iff _ _ _).mp hRouting
    split at hRouting
    · cases hRouting
      cases hNotStored
    · cases hRouting
  | trustPing =>
    obtain ⟨hPing, -⟩ := (orFail_ok_iff _ _ _ _).mp hProcess
    obtain ⟨u, -, hPing⟩ := (except_bind_ok_iff _ _ _).mp hPing
    obtain ⟨to_, -, hPing⟩ := (except_bind_ok_iff _ _ _).mp hPing
    split at hPing
    · obtain ⟨from_, -, hPing⟩ := (except_bind_ok_iff _ _ _).mp hPing
      cases hPing
      cases hNotStored
    · cases hPing
  | messagePickupStatusRequest => exact ⟨_, _, hType, rfl, hProcess⟩
  | messagePickupDeliveryRequest => exact ⟨_, _, hType, rfl, hProcess⟩
  | messagePickupMessagesReceived => exact ⟨_, _, hType, rfl, hProcess⟩
  | messagePickupLiveDeliveryChange => exact ⟨_, _, hType, rfl, hProcess⟩

theorem packResponse_one_iff {draws : String → Message.PackDraws config.crates}
    {metadata : UnpackMetadata} {m : Message}
    {did : String} (hTo : m.to_ = some [did]) {packed : List (String × String)} :
    packResponse config session draws metadata (.message m) = .ok packed ↔
      1 ≤ config.toRecipientsLimit ∧ metadata.encrypted = true ∧
        ∃ p, m.packEncrypted config.crates config.dids config.mediatorSecrets (draws did) did m.from_
          (some config.mediatorDid) { toKidsLimit := config.toKeysPerRecipientLimit } = .ok p ∧
          packed = [(did, p.1)] := by
  have hFault {α : Type} (error : String → MediatorError) (x : Result α) (a : α) : orFault error x = .ok a ↔
      x = .ok a := by
    cases x <;> simp [orFault]
  simp only [packResponse, hTo, packFor, List.mapM_cons, List.mapM_nil, List.length_singleton, List.isEmpty_cons]
  split
  · rename_i hMany
    simp [packError, throw, throwThe, MonadExceptOf.throw]
    omega
  · rename_i hFew
    cases metadata.encrypted with
    | false => simp [bind, Except.bind, throw, throwThe, MonadExceptOf.throw]
    | true =>
      simp only [if_true, Bool.false_eq_true, if_false, except_bind_ok_iff, except_pure_eq, Except.ok.injEq, hFault]
      constructor
      · rintro ⟨_, ⟨p, hPack, rfl⟩, _, rfl, rfl⟩
        exact ⟨Nat.le_of_not_lt hFew, trivial, p, hPack, rfl⟩
      · rintro ⟨-, -, p, hPack, rfl⟩
        exact ⟨_, ⟨p, hPack, rfl⟩, _, rfl, rfl⟩

end

namespace OpenSocket

variable {Tx : Type} [DecidableEq Tx] (socket : OpenSocket Tx)

/-- The streaming task forwards the record of a client that is live or forced. -/
theorem mem_forwarded_iff {record : PubSubRecord} {live : Option String} {text : String} :
    text ∈ socket.forwarded (live.toList.map ((·, record))) ↔
      live = some socket.uuid ∧ record.message = text ∧ ∃ clients active, socket.task = some clients ∧
        clients record.didHash = some (socket.tx, active) ∧ (record.forceDelivery = true ∨ active = true) := by
  have hRecipient (clients : Clients Tx) : clients.recipient record = some socket.tx ↔
      ∃ active, clients record.didHash = some (socket.tx, active) ∧ (record.forceDelivery = true ∨ active = true) := by
    unfold Clients.recipient
    split
    · rename_i tx active hClient
      rw [hClient]
      constructor
      · intro h
        split at h
        · rename_i hLive
          cases h
          exact ⟨active, rfl, by simpa using hLive⟩
        · cases h
      · rintro ⟨_, ⟨⟩, hLive⟩
        rw [if_pos (by simpa using hLive)]
    · rename_i hClient
      simp [hClient]
  unfold forwarded
  cases hTask : socket.task with
  | none => simp
  | some clients =>
    cases live with
    | none => simp
    | some uuid =>
      simp only [List.mem_filterMap, Option.toList_some, List.map_cons, List.map_nil, List.mem_singleton]
      constructor
      · rintro ⟨_, rfl, h⟩
        split at h
        · rename_i hTo
          cases h
          obtain ⟨active, hClient, hLive⟩ := (hRecipient clients).mp hTo.2
          exact ⟨congrArg some hTo.1, rfl, clients, active, rfl, hClient, hLive⟩
        · cases h
      · rintro ⟨hUuid, rfl, _, active, ⟨⟩, hClient, hLive⟩
        refine ⟨_, rfl, ?_⟩
        rw [if_pos ⟨Option.some.inj hUuid, (hRecipient clients).mpr ⟨active, hClient, hLive⟩⟩]

theorem delivers_iff {before : Broker} {turn : SocketTurn} {text : String} (h : turn.sent = []) :
    socket.Delivers before turn text ↔
      text ∈ socket.forwarded (turn.broker.published.drop before.published.length) := by
  simp [Delivers, handleDelivery, h]

variable {config : Config} {truncate : String → Int} {around : Surroundings config.crates} {text reply : String}
  {s s' : Broker}

omit [DecidableEq Tx] in
/-- What is published with a reply is the reply itself, where the registry has a channel for it. -/
theorem published_of_ephemeral {force : Bool}
    (hForce : changesLiveDelivery config (socket.session config.env) text = force)
    (hReply : handleInbound (socket.mediator config truncate around.clock) (socket.session config.env) around text s =
      .ok (.ephemeral reply) s')
    (hRecord : socket.channel config.env force s.db ≠ none →
      (PubSubRecord.text config.crates ⟨config.env.digest socket.did, reply, force⟩).utf8ByteSize ≤ protoMaxBulkLen) :
    s'.published = s.published ++
      (socket.channel config.env force s.db).toList.map ((·, ⟨config.env.digest socket.did, reply, force⟩)) := by
  obtain ⟨m, metadata, r, db, toDid, rest, hUnpack, hProcess, hNotStored, hPack, hStream⟩ :=
    handleInbound_ephemeral hReply
  obtain ⟨type_, request, hType, hRequest, hPickup⟩ := processMessage_ephemeral hProcess hNotStored
  obtain rfl : decide (request = .toggleLiveDelivery) = force := by
    have hUnpacked := unpackInbound_ok_iff.mp hUnpack
    have hText : unpackInbound config (socket.session config.env) text = .ok (m, metadata) :=
      unpackInbound_ok_iff.mpr hUnpacked
    simpa only [changesLiveDelivery, hText, MessageType.fromStr_toggle_iff hType, hRequest,
      Option.some.injEq] using hForce
  -- the handler answers the session and leaves the registry alone
  obtain ⟨⟨answer, hAnswer, hTo⟩, hSame⟩ : PickupProtocol.Replies (socket.session config.env)
      (request = .toggleLiveDelivery) (some r) ∧ db .globalStreaming = s.db .globalStreaming := by
    simp only [mediator, PickupProtocol.pickup, hRequest] at hPickup
    split at hPickup
    · rename_i response s₁ hRun
      cases hPickup
      exact (PickupProtocol.yields_handle request _ rfl).1 _ _ hRun
    · cases hPickup
  cases hAnswer
  obtain ⟨-, -, packed, -, hPacked⟩ := (packResponse_one_iff hTo).mp hPack
  obtain ⟨hPair, rfl⟩ := List.cons.inj hPacked
  obtain ⟨rfl, -⟩ := Prod.mk.inj hPair
  obtain ⟨u, s₁, hFirst, hRest⟩ := (bind_ok_iff _ _ _ _ _).mp hStream
  cases hRest
  rw [channel, ← field_congr hSame] at hRecord ⊢
  have hRun := @tryLiveStream_run (socket.mediator config truncate around.clock) (request = .toggleLiveDelivery)
    (socket.did, reply) ⟨db, s.published⟩ hRecord
  cases hFirst.symm.trans hRun
  rfl

/-- The reply to a text is delivered on the socket exactly when the registry has the DID with the mediator of the
socket, and the task the socket with the DID, and both are live unless it is live delivery that is changed. -/
theorem reply_delivered_iff {force : Bool}
    (hForce : changesLiveDelivery config (socket.session config.env) text = force)
    (hReply : handleInbound (socket.mediator config truncate around.clock) (socket.session config.env) around text s =
      .ok (.ephemeral reply) s')
    (hSize : text.utf8ByteSize ≤ socket.wsSizeLimit)
    (hRecord : socket.channel config.env force s.db ≠ none →
      (PubSubRecord.text config.crates ⟨config.env.digest socket.did, reply, force⟩).utf8ByteSize ≤ protoMaxBulkLen) :
    socket.Delivers s (handleText (socket.mediator config truncate around.clock) (socket.session config.env) around
        socket.wsSizeLimit text s) reply ↔
      socket.Streams config.env force s.db := by
  have hPublished := socket.published_of_ephemeral hForce hReply hRecord
  rw [handleText_of_ok hSize hReply, socket.delivers_iff rfl, hPublished, List.drop_left, mem_forwarded_iff]
  simp only [Streams, true_and]

end OpenSocket

/-! ## Examples -/

/-- Alice asks for her status. -/
def statusAsked : Message :=
  { Message.build "1" "https://didcomm.org/messagepickup/3.0/status-request" (.obj []) with
    from_ := some "did:example:alice"
    to_ := some ["did:example:mediator"]
    extraHeaders := [("return_route", .str "all")] }

/-- The request, encrypted for the mediator. -/
def statusFrame : String :=
  JsonText.write (sampleJwe (agreeKid "did:example:mediator") (agreeKid "did:example:mediator").toUTF8
    (JsonText.write statusAsked.toJson).toUTF8).toJson

def socketConfig : Config := { sampleConfig with dids := everyDid fun _ => [] }

def socketAround : Surroundings socketConfig.crates := ⟨helloTime, sampleAround.draws, sampleAround.stored⟩

theorem unpacked_statusFrame : ∃ metadata, Message.unpacked (ideal id) (everyDid fun _ => [])
    (secretsOf "did:example:mediator") { cryptoOperationsLimitPerMessage := 1000 } statusFrame =
      some (statusAsked, metadata) ∧ metadata.encrypted = true := by
  have hAnoncrypt : anoncrypt (ideal id) (everyDid fun _ => []) ⟨.empty, .empty, .empty⟩ "did:example:mediator"
      (JsonText.write statusAsked.toJson).toUTF8 .xc20pEcdhEsA256kw 100 =
        .ok (statusFrame, [agreeKid "did:example:mediator"]) :=
    ideal_anoncrypt_eq id _ (by decide) (didOrUrl_noFragment (by decide)) (.inl rfl) _ _ _ (ideal_encrypt_eq _ _)
  obtain ⟨doc, jwe, hDoc, -, hPacked, hSealed⟩ := anoncrypt_sealed (ideal_lawful id) hAnoncrypt
  have hParse : parseEnvelope (ideal id) (JsonText.write statusAsked.toJson) = .ok (.message statusAsked) :=
    parseEnvelope_message (ideal_lawful id) rfl (by decide) rfl ⟨rfl, rfl⟩
  let opts : UnpackOptions := { cryptoOperationsLimitPerMessage := 1000 }
  obtain ⟨metadata, hUnpacked, hEncrypted, -⟩ := hSealed.unpacked_message (ideal_holdsKeys_of id (by decide) hDoc)
    (by decide : 1 < opts.cryptoOperationsLimitPerMessage) hPacked hParse rfl ⟨rfl, none, rfl⟩
  exact ⟨metadata, hUnpacked, hEncrypted⟩

/-- The socket of alice, which streams nothing yet. -/
def aliceSocket : OpenSocket Nat where
  uuid := "m"
  sessionId := "s"
  did := "did:example:alice"
  wsSizeLimit := 10485760
  tx := 1
  task := some fun d => if d = aliceHash then some (1, false) else none

theorem size_statusFrame : statusFrame.utf8ByteSize ≤ aliceSocket.wsSizeLimit := by
  have hPlain : (JsonText.write statusAsked.toJson).toUTF8.size ≤ 300 := by decide +kernel
  have hKidSize : (agreeKid "did:example:mediator").toUTF8.size ≤ 40 := by decide
  have hKidLength : (agreeKid "did:example:mediator").length ≤ 40 := by decide
  have hSize := Text.utf8ByteSize_le statusFrame
  have hLength := length_sampleJwe_le (agreeKid "did:example:mediator") (agreeKid "did:example:mediator").toUTF8
    (JsonText.write statusAsked.toJson).toUTF8
  rw [← Jwe.length_toJson rfl] at hLength
  change statusFrame.length ≤ _ at hLength
  change _ ≤ 10485760
  omega

/-- What she is answered. -/
def aliceStatus (db : Db) : Message :=
  MessagePickup.statusMessage sampleShared helloTime aliceSession "1"
    (MessagePickup.readStatus helloTime aliceSession none
    (statusResponse sampleEnvironment.strtod (fun _ => 0) db aliceHash))

theorem packPlaintext_aliceStatus (db : Db) : (aliceStatus db).packPlaintext (ideal id) (everyDid fun _ => []) =
    .ok (JsonText.write (aliceStatus db).toJson) := rfl

theorem processMessage_statusAsked {db : Db} (hdb : Shaped db) :
    processMessage helloTime aliceSession statusAsked socketConfig.crates socketConfig.debug
      (aliceSocket.mediator socketConfig (fun _ => 0) helloTime).pickup db =
        .ok (some ⟨false, false, .message (aliceStatus db)⟩) db := by
  refine (processMessage_ok_iff _ _ _ _ _ _ rfl).mpr ⟨by decide, ?_⟩
  have hStatus : MessagePickup.statusRequest sampleShared (fun _ => 0) helloTime aliceSession statusAsked db =
      .ok (some ⟨false, false, .message (aliceStatus db)⟩) db := by
    have hReply := @MessagePickup.generateStatusReply_run sampleShared (fun _ => 0) helloTime aliceSession db
      "did:example:alice" hdb "1" false none
    have hValid : MessagePickup.validateMsg sampleShared helloTime aliceSession statusAsked = .ok () := by decide
    rw [MessagePickup.statusRequest, hValid]
    exact (bind_of_ok rfl).trans ((bind_of_ok rfl).trans (PickupProtocol.onDatabase_of_ok hReply))
  have hHandled := (PickupProtocol.statusRequest_redis (⟨db, []⟩ : PickupState Db Unit)).trans
    (PickupProtocol.onDb_of_ok hStatus)
  have hRequest : MessageType.messagePickupStatusRequest.pickupRequest = some .statusRequest := rfl
  exact PickupProtocol.pickup_of_ok hRequest hHandled

theorem handleInbound_statusFrame {db : Db} (hdb : Shaped db) :
    ∃ reply s', handleInbound (aliceSocket.mediator socketConfig (fun _ => 0) socketAround.clock)
      (aliceSocket.session socketConfig.env) socketAround statusFrame ⟨db, []⟩ = .ok (.ephemeral reply) s' ∧
      reply.length ≤ 10000 * (JsonText.write (aliceStatus db).toJson).toUTF8.size + 5000000 := by
  obtain ⟨metadata, hUnpacked, hEncrypted⟩ := unpacked_statusFrame
  have hUnpack : unpackInbound (aliceSocket.mediator socketConfig (fun _ => 0) socketAround.clock)
      aliceSession statusFrame = .ok (statusAsked, metadata) := unpackInbound_ok_iff.mpr hUnpacked
  obtain ⟨packed, hPacked, hService, -⟩ := packEncrypted_everyDid (by decide) (by decide) rfl rfl (by decide)
    (by decide) (packPlaintext_aliceStatus db) sampleDraws
  have hPack : packResponse socketConfig aliceSession socketAround.draws metadata (.message (aliceStatus db)) =
      .ok [("did:example:alice", packed.1)] :=
    (packResponse_one_iff rfl).mpr ⟨by decide, hEncrypted, packed, hPacked, rfl⟩
  obtain ⟨s', hRun⟩ := @handleInbound_of_ephemeral
    (aliceSocket.mediator socketConfig (fun _ => 0) socketAround.clock) aliceSession socketAround statusFrame _
    ⟨db, []⟩ _ metadata _ db _ hUnpack (processMessage_statusAsked hdb) rfl hPack
  refine ⟨packed.1, s', hRun, ?_⟩
  have hHeader : JsonText.bound (authHeader (agreeKid "did:example:mediator")
      (Base64.encode (agreeKid "did:example:alice").toUTF8)).toJson ≤ 2000 := by decide +kernel
  have hLength := packEncrypted_length (by decide) (by decide) (by decide)
    ((JsonText.length_write_le _).trans hHeader) (packPlaintext_aliceStatus db) hPacked hService
  have hKids : (agreeKid "did:example:mediator").length + (agreeKid "did:example:alice").length +
      (signKid "did:example:mediator").length ≤ 100 := by decide
  generalize (JsonText.write (aliceStatus db).toJson).toUTF8.size = plain at hLength ⊢
  generalize (agreeKid "did:example:mediator").length = sender at hLength hKids
  generalize (agreeKid "did:example:alice").length = receiver at hLength hKids
  generalize (signKid "did:example:mediator").length = signer at hLength hKids
  omega

theorem changesLiveDelivery_statusFrame :
    changesLiveDelivery socketConfig (aliceSocket.session socketConfig.env) statusFrame = false := by
  obtain ⟨metadata, hUnpacked, -⟩ := unpacked_statusFrame
  have hUnpack : unpackInbound socketConfig (aliceSocket.session socketConfig.env) statusFrame =
      .ok (statusAsked, metadata) := unpackInbound_ok_iff.mpr hUnpacked
  rw [changesLiveDelivery, hUnpack]
  exact (by decide : decide (statusAsked.type_ = "https://didcomm.org/messagepickup/3.0/live-delivery-change") = false)

theorem shaped_aliceRegistered : Shaped aliceRegistered :=
  have hReachable : (mediatorCalls sampleEnvironment).Reachable aliceRegistered :=
    .step (l := .registry "m" (.register aliceHash)) (.step (l := .database helloToAlice) (.init rfl) rfl) rfl
  (sound_of_mediatorCalls hReachable).1.shaped

theorem channel_aliceRegistered : aliceSocket.channel socketConfig.env false aliceRegistered = none := by
  have hRow : field aliceRegistered .globalStreaming aliceHash = some "m:FALSE" := by decide
  have hStopped : (some "m:FALSE").bind (DatabaseHandler.liveRow · false) = none := by decide
  exact (congrArg (Option.bind · (DatabaseHandler.liveRow · false)) hRow).trans hStopped

/-- The same socket once delivery is started. -/
def liveSocket : OpenSocket Nat :=
  { aliceSocket with task := some fun d => if d = aliceHash then some (1, true) else none }

theorem shaped_aliceLive : Shaped aliceLive :=
  have hRegistered : (mediatorCalls sampleEnvironment).Reachable aliceRegistered :=
    .step (l := .registry "m" (.register aliceHash)) (.step (l := .database helloToAlice) (.init rfl) rfl) rfl
  (sound_of_mediatorCalls (hRegistered.step (l := .registry "m" (.startLive aliceHash)) rfl)).1.shaped

theorem size_aliceStatus : (JsonText.write (aliceStatus aliceLive).toJson).toUTF8.size ≤ 1000 := by decide +kernel

/-- Alice is connected, and delivery is started: her status comes over her socket. -/
theorem reply_delivered_status : ∃ reply s',
    handleInbound (liveSocket.mediator socketConfig (fun _ => 0) socketAround.clock)
      (liveSocket.session socketConfig.env) socketAround statusFrame ⟨aliceLive, []⟩ =
        .ok (.ephemeral reply) s' ∧
    liveSocket.Delivers ⟨aliceLive, []⟩
      (handleText (liveSocket.mediator socketConfig (fun _ => 0) socketAround.clock)
        (liveSocket.session socketConfig.env) socketAround liveSocket.wsSizeLimit statusFrame
        ⟨aliceLive, []⟩) reply := by
  obtain ⟨reply, s', hReply, hLength⟩ := handleInbound_statusFrame shaped_aliceLive
  have hShort : reply.length ≤ 2 * 10 ^ 7 := by
    have := size_aliceStatus
    omega
  have hRow : field aliceLive .globalStreaming aliceHash = some "m:TRUE" := by decide
  have hLive : (some "m:TRUE").bind (DatabaseHandler.liveRow · false) = some "m" := by decide
  have hChannel : liveSocket.channel socketConfig.env false aliceLive = some "m" :=
    (congrArg (Option.bind · (DatabaseHandler.liveRow · false)) hRow).trans hLive
  exact ⟨reply, s', hReply, (liveSocket.reply_delivered_iff changesLiveDelivery_statusFrame hReply size_statusFrame
    fun _ => pubSubRecord_size (by decide) hShort).mpr ⟨hChannel, _, true, rfl, rfl, .inr rfl⟩⟩

/-- Alice is connected, and live delivery is off: her status is sent to nobody. -/
theorem status_not_delivered : ∃ reply s',
    handleInbound (aliceSocket.mediator socketConfig (fun _ => 0) socketAround.clock)
      (aliceSocket.session socketConfig.env) socketAround statusFrame ⟨aliceRegistered, []⟩ =
        .ok (.ephemeral reply) s' ∧
    statusFrame.utf8ByteSize ≤ aliceSocket.wsSizeLimit ∧
    ¬ aliceSocket.Delivers ⟨aliceRegistered, []⟩
      (handleText (aliceSocket.mediator socketConfig (fun _ => 0) socketAround.clock)
        (aliceSocket.session socketConfig.env) socketAround aliceSocket.wsSizeLimit statusFrame
        ⟨aliceRegistered, []⟩) reply := by
  obtain ⟨reply, s', hReply, -⟩ := handleInbound_statusFrame shaped_aliceRegistered
  refine ⟨reply, s', hReply, size_statusFrame, ?_⟩
  have hPublished := aliceSocket.published_of_ephemeral changesLiveDelivery_statusFrame hReply
    fun h => absurd channel_aliceRegistered h
  rw [handleText_of_ok size_statusFrame hReply, aliceSocket.delivers_iff rfl, hPublished, channel_aliceRegistered]
  exact List.not_mem_nil

end AffinidiMessaging.Mediator
