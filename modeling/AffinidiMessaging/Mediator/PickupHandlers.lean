import AffinidiMessaging.Didcomm.IdealCrates
import AffinidiMessaging.Mediator.Acknowledgement
import AffinidiMessaging.Mediator.StatusReply
import AffinidiMessaging.Mediator.StreamingTask

/-! # The handlers of message pickup on any database

How the calls of the database end is up to the database here, and the streaming task may have closed its
channel. What is refused by `_validate_msg` is unwrapped by all four handlers, and so is the status that
`messages_received` answers with.
-/

namespace AffinidiMessaging.Mediator

open Redis Text Fallible Serde Didcomm

/-- The calls that the handlers make. -/
structure PickupDatabase (σ : Type) where
  getStatusReply (sessionId didHash : String) : EStateM MediatorError σ (List (String × Reply))
  fetchMessages (sessionId didHash : String) (options : FetchOptions) : EStateM MediatorError σ GetMessagesResponse
  getMessage (didHash msgId : String) : EStateM MediatorError σ MessageListElement
  deleteMessage (sessionId didHash messageHash : String) : EStateM MediatorError σ Unit

/-- The database, and what was sent to the streaming task. -/
structure PickupState (σ Tx : Type) where
  db : σ
  updates : List (StreamingUpdate Tx) := []

abbrev PickupCall (σ Tx : Type) := EStateM HandlerFault (PickupState σ Tx)

/-- The requests of the protocol. -/
inductive PickupRequest
  | statusRequest
  | deliveryRequest
  | messagesReceived
  | toggleLiveDelivery
deriving DecidableEq, Repr

def HandlerFault.Reported : HandlerFault → Prop
  | .error _ => True
  | .panic _ => False

namespace PickupProtocol

variable {σ Tx : Type}

/-- `unwrap` on a result. -/
def unwrap {α : Type} (x : Except MediatorError α) : Except HandlerFault α := x.mapError .panic

/-- `?` on a result. -/
def report {α : Type} (x : Except MediatorError α) : Except HandlerFault α := x.mapError .error

/-- A call of the database, as its result. -/
def call {α : Type} (x : EStateM MediatorError σ α) : PickupCall σ Tx (Except MediatorError α) := fun s =>
  match x s.db with
  | .ok a db => .ok (.ok a) { s with db }
  | .error e db => .ok (.error e) { s with db }

variable (shared : SharedData) (clock : Clock) (session : Common.Session) (database : PickupDatabase σ)
  (streamingTask : Option Bool) (msg : Message)

/-- `channel.send`: the task may be gone, and a mediator may have none. -/
def sendUpdate (state : StreamingUpdateState Tx) (failure : String) : PickupCall σ Tx Unit := fun s =>
  match streamingTask with
  | none => .ok () s
  | some true => .ok () { s with updates := s.updates ++ [⟨session.didHash, state⟩] }
  | some false => .error (.error (.internalError session.sessionId failure)) s

def generateStatusReply (didHash thid : String) (forceLiveDelivery : Bool) (overrideLiveDelivery : Option Bool) :
    PickupCall σ Tx (Except MediatorError (Option ProcessMessageResponse)) := do
  let response ← call (database.getStatusReply session.sessionId didHash)
  return response.map fun response => some
    { storeMessage := false
      forceLiveDelivery
      messageResponse := .message (MessagePickup.statusMessage shared clock session thid
        (MessagePickup.readStatus clock session overrideLiveDelivery response)) }

def statusRequest : PickupCall σ Tx (Option ProcessMessageResponse) := do
  unwrap (MessagePickup.validateMsg shared clock session msg)
  let recipientDid ← report (MessagePickup.statusRecipient shared session msg)
  let reply ← generateStatusReply shared clock session database recipientDid (MessagePickup.replyThread msg) false none
  report reply

def readLiveDelivery (body : Json) : Option Bool := do
  let get ← record ["live_delivery"] body
  required Ping.readBool (get "live_delivery")

def toggleLiveDelivery : PickupCall σ Tx (Option ProcessMessageResponse) := do
  unwrap (MessagePickup.validateMsg shared clock session msg)
  let liveDelivery ← report (okOr (readLiveDelivery msg.body) (MediatorError.requestDataError session.sessionId
    "Failed to parse live_delivery from message body"))
  if liveDelivery then
    sendUpdate session streamingTask .start "Error sending start message to streaming task"
  else
    sendUpdate session streamingTask .stop "Error sending stop message to streaming task"
  let reply ← generateStatusReply shared clock session database session.didHash (MessagePickup.replyThread msg) true
    (some liveDelivery)
  report reply

def deliveryRequest : PickupCall σ Tx (Option ProcessMessageResponse) := do
  unwrap (MessagePickup.validateMsg shared clock session msg)
  let (recipientDid, limit) ← report (MessagePickup.parseAndValidateDeliveryRequestBody shared session msg)
  let recipientDidHash := shared.env.digest recipientDid
  let fetched ← call (database.fetchMessages session.sessionId recipientDidHash { limit := limit })
  let messages ← report fetched
  if messages.success.isEmpty then do
    let reply ← generateStatusReply shared clock session database recipientDidHash (MessagePickup.replyThread msg)
      false none
    report reply
  else
    return some
      { storeMessage := false
        forceLiveDelivery := false
        messageResponse := .message (MessagePickup.deliveryMessage shared clock session recipientDid
          (MessagePickup.replyThread msg) messages.success) }

/-- One id of the list: what cannot be read or deleted is logged. -/
def receiveMessage (msgId : String) : PickupCall σ Tx Unit := do
  match ← call (database.getMessage session.didHash msgId) with
  | .ok _ =>
    let _ ← call (database.deleteMessage session.sessionId session.didHash msgId)
  | .error _ => pure ()

def receiveAll : List String → PickupCall σ Tx Unit
  | [] => pure ()
  | msgId :: rest => do
    receiveMessage session database msgId
    receiveAll rest

def messagesReceived : PickupCall σ Tx (Option ProcessMessageResponse) := do
  unwrap (MessagePickup.validateMsg shared clock session msg)
  let messageIdList ← report (MessagePickup.parseMessageReceivedBody shared session msg)
  receiveAll session database messageIdList
  let reply ← generateStatusReply shared clock session database session.didHash (MessagePickup.replyThread msg)
    false none
  unwrap reply

def handle : PickupRequest → PickupCall σ Tx (Option ProcessMessageResponse)
  | .statusRequest => statusRequest shared clock session database msg
  | .deliveryRequest => deliveryRequest shared clock session database msg
  | .messagesReceived => messagesReceived shared clock session database msg
  | .toggleLiveDelivery => toggleLiveDelivery shared clock session database streamingTask msg

/-- A request is answered or refused; one that `_validate_msg` refuses is refused for this reason, and nothing is
written or sent. -/
structure Rejects (request : PickupRequest) (s : PickupState σ Tx) : Prop where
  reports : ∀ e s', handle shared clock session database streamingTask msg request s = .error e s' → e.Reported
  refuses : ∀ e, MessagePickup.validateMsg shared clock session msg = .error e →
    handle shared clock session database streamingTask msg request s = .error (.error e) s

/-- The database answers the query for the status after the messages of the list were received. -/
def AnswersStatus (s : PickupState σ Tx) : Prop :=
  ∀ ids s', MessagePickup.parseMessageReceivedBody shared session msg = .ok ids →
    receiveAll session database ids s = .ok () s' →
    ∃ response db', database.getStatusReply session.sessionId session.didHash s'.db = .ok response db'

/-- Whatever happens, no panic. -/
def Reports {α : Type} (x : PickupCall σ Tx α) : Prop :=
  Triple (fun _ => True) x (fun _ _ => True) fun e _ => e.Reported

section
variable {shared clock session database streamingTask msg} {α : Type}

theorem reports_report (x : Except MediatorError α) : Reports (liftM (report x) : PickupCall σ Tx α) := by
  refine Triple.lift (fun _ _ _ _ => trivial) fun _ e _ h => ?_
  cases x with
  | ok a => cases h
  | error e =>
    cases h
    trivial

theorem reports_call (x : EStateM MediatorError σ α) : Reports (call x : PickupCall σ Tx (Except MediatorError α)) := by
  intro s _
  unfold call
  cases x s.db with
  | ok a db => exact ⟨fun _ _ _ => trivial, fun _ _ h => by cases h⟩
  | error e db => exact ⟨fun _ _ _ => trivial, fun _ _ h => by cases h⟩

theorem Reports.bind {β : Type} {x : PickupCall σ Tx α} {f : α → PickupCall σ Tx β} (hx : Reports x)
    (hf : ∀ a, Reports (f a)) : Reports (x >>= f) :=
  Triple.bind hx fun a => (hf a).weaken (fun _ _ => trivial) (fun _ _ h => h) fun _ _ h => h

theorem Reports.pure (a : α) : Reports (Pure.pure a : PickupCall σ Tx α) :=
  Triple.pure fun _ _ => trivial

theorem reports_sendUpdate (state : StreamingUpdateState Tx) (failure : String) :
    Reports (sendUpdate session streamingTask state failure : PickupCall σ Tx Unit) := by
  rintro s -
  refine ⟨fun _ _ _ => trivial, fun e s' h => ?_⟩
  unfold sendUpdate at h
  split at h
  · cases h
  · cases h
  · cases h
    trivial

theorem reports_generateStatusReply (didHash thid : String) (force : Bool) (live : Option Bool) :
    Reports (generateStatusReply shared clock session database didHash thid force live : PickupCall σ Tx _) :=
  (reports_call _).bind fun _ => .pure _

theorem call_of_ok {x : EStateM MediatorError σ α} {s : PickupState σ Tx} {a : α} {db : σ} (h : x s.db = .ok a db) :
    call x s = .ok (.ok a) { s with db } := by
  rw [call, h]

theorem call_of_error {x : EStateM MediatorError σ α} {s : PickupState σ Tx} {e : MediatorError} {db : σ}
    (h : x s.db = .error e db) : call x s = .ok (.error e) { s with db } := by
  rw [call, h]

theorem call_ok (x : EStateM MediatorError σ α) (s : PickupState σ Tx) :
    ∃ r db, call x s = .ok r { s with db } := by
  unfold call
  cases x s.db with
  | ok a db => exact ⟨_, _, rfl⟩
  | error e db => exact ⟨_, _, rfl⟩

theorem receiveMessage_ok (msgId : String) (s : PickupState σ Tx) :
    ∃ s', receiveMessage session database msgId s = .ok () s' := by
  obtain ⟨found, db, hGet⟩ := call_ok (database.getMessage session.didHash msgId) s
  rw [receiveMessage, bind_of_ok hGet]
  cases found with
  | ok message =>
    obtain ⟨deleted, db', hDelete⟩ :=
      call_ok (database.deleteMessage session.sessionId session.didHash msgId) ({ s with db } : PickupState σ Tx)
    exact ⟨_, bind_of_ok hDelete⟩
  | error e => exact ⟨_, rfl⟩

theorem receiveAll_ok (ids : List String) (s : PickupState σ Tx) :
    ∃ s', receiveAll session database ids s = .ok () s' := by
  induction ids generalizing s with
  | nil => exact ⟨s, rfl⟩
  | cons msgId rest ih =>
    obtain ⟨s', hFirst⟩ := @receiveMessage_ok σ Tx session database msgId s
    obtain ⟨s'', hRest⟩ := ih s'
    exact ⟨s'', (bind_of_ok hFirst).trans hRest⟩

variable {request : PickupRequest} {s s' : PickupState σ Tx}

/-- All four handlers unwrap what `_validate_msg` returns. -/
theorem handle_refused {e : MediatorError} (h : MessagePickup.validateMsg shared clock session msg = .error e) :
    handle shared clock session database streamingTask msg request s = .error (.panic e) s := by
  have hUnwrap : (liftM (unwrap (MessagePickup.validateMsg shared clock session msg)) : PickupCall σ Tx Unit) s =
      .error (.panic e) s := by
    rw [h]
    rfl
  cases request with
  | statusRequest => exact bind_of_error hUnwrap
  | deliveryRequest => exact bind_of_error hUnwrap
  | messagesReceived => exact bind_of_error hUnwrap
  | toggleLiveDelivery => exact bind_of_error hUnwrap

theorem reports_validated (h : MessagePickup.validateMsg shared clock session msg = .ok ()) :
    Reports (liftM (unwrap (MessagePickup.validateMsg shared clock session msg)) : PickupCall σ Tx Unit) := by
  rw [h]
  exact .pure ()

theorem messagesReceived_run {ids : List String}
    (hValid : MessagePickup.validateMsg shared clock session msg = .ok ())
    (hIds : MessagePickup.parseMessageReceivedBody shared session msg = .ok ids)
    (hReceive : receiveAll session database ids s = .ok () s') :
    messagesReceived shared clock session database msg s =
      (do
        let reply ← generateStatusReply shared clock session database session.didHash (MessagePickup.replyThread msg)
          false none
        unwrap reply : PickupCall σ Tx _) s' := by
  rw [messagesReceived, hValid, hIds]
  exact (bind_of_ok rfl).trans ((bind_of_ok rfl).trans (bind_of_ok hReceive))

theorem messagesReceived_reports (hValid : MessagePickup.validateMsg shared clock session msg = .ok ())
    (hStatus : AnswersStatus shared session database msg s) {e : HandlerFault}
    (h : messagesReceived shared clock session database msg s = .error e s') : e.Reported := by
  cases hIds : MessagePickup.parseMessageReceivedBody shared session msg with
  | error reason =>
    have hRun : messagesReceived shared clock session database msg s = .error (.error reason) s := by
      rw [messagesReceived, hValid, hIds]
      exact (bind_of_ok rfl).trans (bind_of_error rfl)
    rw [hRun] at h
    cases h
    trivial
  | ok ids =>
    obtain ⟨received, hReceive⟩ := @receiveAll_ok σ Tx session database ids s
    obtain ⟨response, db', hResponse⟩ := hStatus ids received hIds hReceive
    rw [messagesReceived_run hValid hIds hReceive, generateStatusReply, bind_assoc,
      bind_of_ok (call_of_ok hResponse)] at h
    cases h

theorem handle_reports (hValid : MessagePickup.validateMsg shared clock session msg = .ok ())
    (hStatus : request = .messagesReceived → AnswersStatus shared session database msg s) {e : HandlerFault}
    (h : handle shared clock session database streamingTask msg request s = .error e s') : e.Reported := by
  cases request with
  | statusRequest =>
    have hReports : Reports (statusRequest shared clock session database msg : PickupCall σ Tx _) :=
      (reports_validated hValid).bind fun _ => (reports_report _).bind fun _ =>
        (reports_generateStatusReply _ _ _ _).bind fun _ => reports_report _
    exact (hReports s trivial).2 e s' h
  | deliveryRequest =>
    have hReports : Reports (deliveryRequest shared clock session database msg : PickupCall σ Tx _) := by
      refine (reports_validated hValid).bind fun _ => (reports_report _).bind fun _ => (reports_call _).bind fun _ =>
        (reports_report _).bind fun messages => ?_
      split
      · exact (reports_generateStatusReply _ _ _ _).bind fun _ => reports_report _
      · exact .pure _
    exact (hReports s trivial).2 e s' h
  | messagesReceived => exact messagesReceived_reports hValid (hStatus rfl) h
  | toggleLiveDelivery =>
    have hReports : Reports (toggleLiveDelivery shared clock session database streamingTask
        msg : PickupCall σ Tx _) := by
      refine (reports_validated hValid).bind fun _ => (reports_report _).bind fun liveDelivery => ?_
      dsimp only
      split
      · exact (reports_sendUpdate _ _).bind fun _ => (reports_generateStatusReply _ _ _ _).bind fun _ =>
          reports_report _
      · exact (reports_sendUpdate _ _).bind fun _ => (reports_generateStatusReply _ _ _ _).bind fun _ =>
          reports_report _
    exact (hReports s trivial).2 e s' h

end

/-- A handler behaves on a request that `_validate_msg` accepts, if the status that `messages_received` ends with
can be had; on any other request it panics. -/
theorem rejects_iff (request : PickupRequest) (s : PickupState σ Tx) :
    Rejects shared clock session database streamingTask msg request s ↔
      MessagePickup.validateMsg shared clock session msg = .ok () ∧
        (request = .messagesReceived → AnswersStatus shared session database msg s) := by
  constructor
  · intro h
    have hValid : MessagePickup.validateMsg shared clock session msg = .ok () := by
      cases hValid : MessagePickup.validateMsg shared clock session msg with
      | ok u => rfl
      | error e => exact (h.reports _ _ (handle_refused hValid)).elim
    refine ⟨hValid, ?_⟩
    rintro rfl ids s' hIds hReceive
    cases hStatus : database.getStatusReply session.sessionId session.didHash s'.db with
    | ok response db' => exact ⟨response, db', rfl⟩
    | error e db' =>
      have hRun : handle shared clock session database streamingTask msg .messagesReceived s =
          .error (.panic e) { s' with db := db' } := by
        rw [handle, messagesReceived_run hValid hIds hReceive, generateStatusReply, bind_assoc,
          bind_of_ok (call_of_error hStatus)]
        rfl
      exact (h.reports _ _ hRun).elim
  · rintro ⟨hValid, hStatus⟩
    refine ⟨fun e s' h => handle_reports hValid hStatus h, fun e h => ?_⟩
    rw [hValid] at h
    cases h

/-! ## On the database of the mediator -/

/-- The calls on Redis. -/
def redis (env : Environment) (truncate : String → Int) : PickupDatabase Db where
  getStatusReply sessionId didHash := DatabaseHandler.query env sessionId
    ("get_status_reply(" ++ didHash ++ ") failed. Reason: ")
    (fcall (getStatusReply env.strtod truncate) [didHash] [])
  fetchMessages := DatabaseHandler.fetchMessages env
  getMessage := DatabaseHandler.getMessage env
  deleteMessage := DatabaseHandler.deleteMessage env

/-- A handler that works on the database alone. -/
def onDb {α : Type} (x : PickupHandler α) : PickupCall Db Tx α := fun s =>
  match x s.db with
  | .ok a db => .ok a { s with db }
  | .error e db => .error e { s with db }

section
variable {shared clock session msg} {truncate : String → Int}

theorem onDb_of_ok {α : Type} {x : PickupHandler α} {s : PickupState Db Tx} {a : α} {db : Db}
    (h : x s.db = .ok a db) : onDb x s = .ok a { s with db } := by
  rw [onDb, h]

theorem onDb_of_error {α : Type} {x : PickupHandler α} {s : PickupState Db Tx} {e : HandlerFault} {db : Db}
    (h : x s.db = .error e db) : onDb x s = .error e { s with db } := by
  rw [onDb, h]

theorem onDatabase_of_ok {α : Type} {x : Handler α} {db db' : Db} {a : α} (h : x db = .ok a db') :
    onDatabase x db = .ok a db' := by
  rw [onDatabase, h]

theorem onDatabase_of_error {α : Type} {x : Handler α} {db db' : Db} {e : MediatorError} (h : x db = .error e db') :
    onDatabase x db = .error (.error e) db' := by
  rw [onDatabase, h]

theorem generateStatusReply_redis (didHash thid : String) (force : Bool) (live : Option Bool) (s : PickupState Db Tx) :
    ((do
      let reply ← generateStatusReply shared clock session (redis shared.env truncate) didHash thid force live
      report reply : PickupCall Db Tx _) s) =
    onDb (onDatabase (MessagePickup.generateStatusReply shared truncate clock session didHash thid force live)) s := by
  rw [generateStatusReply, bind_assoc]
  cases hQuery : (redis shared.env truncate).getStatusReply session.sessionId didHash s.db with
  | ok response db =>
    have hReply : MessagePickup.generateStatusReply shared truncate clock session didHash thid force live s.db = _ :=
      bind_of_ok hQuery
    rw [bind_of_ok (call_of_ok hQuery), onDb_of_ok (onDatabase_of_ok hReply)]
    rfl
  | error e db =>
    have hReply : MessagePickup.generateStatusReply shared truncate clock session didHash thid force live s.db = _ :=
      bind_of_error hQuery
    rw [bind_of_ok (call_of_error hQuery), onDb_of_error (onDatabase_of_error hReply)]
    rfl

theorem statusRequest_redis (s : PickupState Db Tx) :
    statusRequest shared clock session (redis shared.env truncate) msg s =
      onDb (MessagePickup.statusRequest shared truncate clock session msg) s := by
  unfold statusRequest MessagePickup.statusRequest
  cases MessagePickup.validateMsg shared clock session msg with
  | error e => rfl
  | ok u =>
    cases MessagePickup.statusRecipient shared session msg with
    | error e => rfl
    | ok recipientDid => exact generateStatusReply_redis recipientDid (MessagePickup.replyThread msg) false none s

theorem onDb_bind {α β : Type} (x : Handler α) (f : α → Handler β) (s : PickupState Db Tx) :
    onDb (onDatabase (x >>= f)) s = (onDb (onDatabase x) >>= fun a => onDb (onDatabase (f a))) s := by
  cases hx : x s.db with
  | ok a db =>
    rw [bind_of_ok (onDb_of_ok (onDatabase_of_ok hx))]
    have hBind : (x >>= f) s.db = f a db := bind_of_ok hx
    unfold onDb onDatabase
    rw [hBind]
  | error e db =>
    rw [bind_of_error (onDb_of_error (onDatabase_of_error hx)),
      onDb_of_error (onDatabase_of_error (bind_of_error hx))]

theorem call_eq_attempt {α : Type} (x : Handler α) :
    (call x : PickupCall Db Tx _) = onDb (onDatabase (attempt x)) := by
  funext s
  unfold call onDb onDatabase attempt
  cases x s.db <;> rfl

theorem receiveMessage_redis (msgId : String) (s : PickupState Db Tx) :
    receiveMessage session (redis shared.env truncate) msgId s =
      onDb (onDatabase (MessagePickup.receiveMessage shared session msgId)) s := by
  rw [receiveMessage, MessagePickup.receiveMessage, onDb_bind, call_eq_attempt]
  obtain ⟨found, db, hGet⟩ := attempt_ok (DatabaseHandler.getMessage shared.env session.didHash msgId) s.db
  have hGet' : onDb (onDatabase (attempt (DatabaseHandler.getMessage shared.env session.didHash msgId))) s = _ :=
    onDb_of_ok (onDatabase_of_ok hGet)
  refine (bind_of_ok hGet').trans (Eq.trans ?_ (bind_of_ok hGet').symm)
  cases found with
  | ok message =>
    dsimp only
    rw [onDb_bind, call_eq_attempt]
    rfl
  | error e => rfl

theorem receiveAll_redis (ids : List String) (s : PickupState Db Tx) :
    receiveAll session (redis shared.env truncate) ids s =
      onDb (onDatabase (MessagePickup.receiveAll shared session ids)) s := by
  induction ids generalizing s with
  | nil => rfl
  | cons msgId rest ih =>
    rw [receiveAll, MessagePickup.receiveAll, onDb_bind]
    obtain ⟨s', hFirst⟩ := @receiveMessage_ok Db Tx session (redis shared.env truncate) msgId s
    have hFirst' := hFirst
    rw [receiveMessage_redis] at hFirst'
    rw [bind_of_ok hFirst, bind_of_ok hFirst']
    exact ih s'

/-- Up to the status that is unwrapped, the handler is the one that acknowledges messages. -/
theorem messagesReceived_redis (s : PickupState Db Tx) :
    messagesReceived shared clock session (redis shared.env truncate) msg s =
      (do
        onDb (MessagePickup.messagesReceived shared clock session msg)
        let reply ← generateStatusReply shared clock session (redis shared.env truncate) session.didHash
          (MessagePickup.replyThread msg) false none
        unwrap reply : PickupCall Db Tx _) s := by
  cases hValid : MessagePickup.validateMsg shared clock session msg with
  | error e =>
    have hSource : MessagePickup.messagesReceived shared clock session msg s.db = .error (.panic e) s.db := by
      rw [MessagePickup.messagesReceived, hValid]
      rfl
    have hRefused : handle shared clock session (redis shared.env truncate) none msg .messagesReceived s = _ :=
      handle_refused hValid
    rw [bind_of_error (onDb_of_error hSource)]
    exact hRefused
  | ok u =>
    cases hIds : MessagePickup.parseMessageReceivedBody shared session msg with
    | error e =>
      have hSource : MessagePickup.messagesReceived shared clock session msg s.db = .error (.error e) s.db := by
        rw [MessagePickup.messagesReceived, hValid, hIds]
        rfl
      rw [bind_of_error (onDb_of_error hSource), messagesReceived, hValid, hIds]
      rfl
    | ok ids =>
      obtain ⟨s', hReceive⟩ := @receiveAll_ok Db Tx session (redis shared.env truncate) ids s
      have hSource : onDb (MessagePickup.messagesReceived shared clock session msg) s =
          onDb (onDatabase (MessagePickup.receiveAll shared session ids)) s := by
        rw [MessagePickup.messagesReceived, hValid, hIds]
        rfl
      rw [messagesReceived_run hValid hIds hReceive, bind_of_ok (hSource.trans (receiveAll_redis ids s ▸ hReceive))]

/-- What a delivery is answered with. -/
def deliveryResponse (shared : SharedData) (clock : Clock) (session : Common.Session) (truncate : String → Int)
    (thid : String) : MessagePickup.DeliveryReply → PickupCall Db Tx (Option ProcessMessageResponse)
  | .delivery message =>
    pure (some { storeMessage := false, forceLiveDelivery := false, messageResponse := .message message })
  | .status => onDb (onDatabase (MessagePickup.generateStatusReply shared truncate clock session
      (shared.env.digest session.did) thid false none))

theorem deliveryRequest_redis (s : PickupState Db Tx) :
    deliveryRequest shared clock session (redis shared.env truncate) msg s =
      (onDb (MessagePickup.deliveryRequest shared clock session msg) >>=
        deliveryResponse shared clock session truncate (MessagePickup.replyThread msg)) s := by
  cases hValid : MessagePickup.validateMsg shared clock session msg with
  | error e =>
    have hSource : MessagePickup.deliveryRequest shared clock session msg s.db = .error (.panic e) s.db := by
      rw [MessagePickup.deliveryRequest, hValid]
      rfl
    rw [bind_of_error (onDb_of_error hSource), deliveryRequest, hValid]
    rfl
  | ok u =>
    cases hBody : MessagePickup.parseAndValidateDeliveryRequestBody shared session msg with
    | error e =>
      have hSource : MessagePickup.deliveryRequest shared clock session msg s.db = .error (.error e) s.db := by
        rw [MessagePickup.deliveryRequest, hValid, hBody]
        rfl
      rw [bind_of_error (onDb_of_error hSource), deliveryRequest, hValid, hBody]
      rfl
    | ok body =>
      obtain ⟨recipientDid, limit⟩ := body
      obtain ⟨rfl, -⟩ := MessagePickup.deliveryRequestBody_ok hBody
      rw [deliveryRequest, hValid, hBody]
      refine (bind_of_ok rfl).trans ((bind_of_ok rfl).trans ?_)
      cases hFetch : DatabaseHandler.fetchMessages shared.env session.sessionId (shared.env.digest session.did)
          { limit := limit } s.db with
      | error e db =>
        have hSource : MessagePickup.deliveryRequest shared clock session msg s.db = .error (.error e) db := by
          rw [MessagePickup.deliveryRequest, hValid, hBody]
          exact (bind_of_ok rfl).trans ((bind_of_ok rfl).trans (bind_of_error (onDatabase_of_error hFetch)))
        rw [bind_of_error (onDb_of_error hSource)]
        exact (bind_of_ok (call_of_error hFetch)).trans (bind_of_error rfl)
      | ok messages db =>
        refine (bind_of_ok (call_of_ok hFetch)).trans ((bind_of_ok rfl).trans ?_)
        by_cases hEmpty : messages.success.isEmpty = true
        · have hSource : MessagePickup.deliveryRequest shared clock session msg s.db = .ok .status db := by
            rw [MessagePickup.deliveryRequest, hValid, hBody]
            refine (bind_of_ok rfl).trans ((bind_of_ok rfl).trans ((bind_of_ok (onDatabase_of_ok hFetch)).trans ?_))
            rw [if_pos hEmpty]
            rfl
          rw [bind_of_ok (onDb_of_ok hSource), if_pos hEmpty]
          exact generateStatusReply_redis (shared.env.digest session.did) (MessagePickup.replyThread msg) false none _
        · have hSource : MessagePickup.deliveryRequest shared clock session msg s.db =
              .ok (.delivery (MessagePickup.deliveryMessage shared clock session session.did
                (MessagePickup.replyThread msg) messages.success)) db := by
            rw [MessagePickup.deliveryRequest, hValid, hBody]
            refine (bind_of_ok rfl).trans ((bind_of_ok rfl).trans ((bind_of_ok (onDatabase_of_ok hFetch)).trans ?_))
            rw [if_neg hEmpty]
            rfl
          rw [bind_of_ok (onDb_of_ok hSource), if_neg hEmpty]
          rfl

end

/-- A database that cannot be reached. -/
def unreachable : PickupDatabase Unit where
  getStatusReply _ _ := throw (.databaseError "NA" "Couldn't get database connection: timed out")
  fetchMessages _ _ _ := throw (.databaseError "NA" "Couldn't get database connection: timed out")
  getMessage _ _ := throw (.databaseError "NA" "Couldn't get database connection: timed out")
  deleteMessage _ _ _ := throw (.databaseError "NA" "Couldn't get database connection: timed out")

def sampleShared : SharedData where
  env := sampleEnvironment
  crates := ideal id
  mediatorDid := "did:example:mediator"
  valueError _ _ := "invalid type"

/-- A status request without `to`. -/
def unaddressed : Message :=
  { Message.build "1" "https://didcomm.org/messagepickup/3.0/status-request" (.obj []) with
    from_ := some "did:example:alice"
    extraHeaders := [("return_route", .str "all")] }

/-- An acknowledgement of nothing. -/
def acknowledgement : Message :=
  { Message.build "1" "https://didcomm.org/messagepickup/3.0/messages-received"
      (.obj [("message_id_list", .arr [])]) with
    from_ := some "did:example:alice"
    to_ := some ["did:example:mediator"]
    extraHeaders := [("return_route", .str "all")] }

/-- A request that is refused, and one that is accepted where the database is not there any more. -/
theorem pickup_panics :
    (¬Rejects sampleShared ⟨1700000000, "2", by decide⟩ (.authenticated sampleEnvironment "s" "did:example:alice")
      unreachable none unaddressed .statusRequest (⟨(), []⟩ : PickupState Unit Unit)) ∧
    ¬Rejects sampleShared ⟨1700000000, "2", by decide⟩ (.authenticated sampleEnvironment "s" "did:example:alice")
      unreachable none acknowledgement .messagesReceived (⟨(), []⟩ : PickupState Unit Unit) := by
  constructor
  · intro h
    exact h.reports (.panic _) _ rfl
  · intro h
    exact h.reports (.panic _) _ rfl

end PickupProtocol

end AffinidiMessaging.Mediator
