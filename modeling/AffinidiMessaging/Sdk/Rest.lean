import AffinidiMessaging.Didcomm.Lawful
import AffinidiMessaging.Library.Wire
import AffinidiMessaging.Mediator.Batches

/-! # The REST interface

The requests of the SDK that carry JSON, and the answers of the mediator to them. What the one side writes the other
side reads, so that a call of the SDK says what the handler of the mediator says.
-/

namespace AffinidiMessaging.Sdk

open Redis Fallible Serde Didcomm Mediator

structure GetMessagesRequest where
  messageIds : List String
  delete : Bool

/-- The answer of a handler that succeeds. -/
structure SuccessResponse (α : Type) where
  sessionId : String
  httpCode : Nat
  errorCode : Int
  errorCodeStr : String
  message : String
  data : Option α

structure ErrorResponse where
  sessionId : String
  httpCode : Nat
  errorCode : Nat
  errorCodeStr : String
  message : String

/-! ## The bodies -/

/-- The policy as the name of the variant; a map from that name to nothing is read as well. -/
def policyWire : Wire FetchDeletePolicy where
  write
    | .optimistic => .str "Optimistic"
    | .onReceive => .str "OnReceive"
    | .doNotDelete => .str "DoNotDelete"
  read
    | .str "Optimistic" | .obj [("Optimistic", .null)] => some .optimistic
    | .str "OnReceive" | .obj [("OnReceive", .null)] => some .onReceive
    | .str "DoNotDelete" | .obj [("DoNotDelete", .null)] => some .doNotDelete
    | _ => none
  Fits _ := True
  depth := 0
  read_write policy _ := by cases policy <;> rfl
  floatless_write policy := by cases policy <;> rfl
  depth_write policy := by cases policy <;> exact le_rfl

def idsWire : Wire (List String) := Wire.string.list

def errorsWire : Wire (List (String × String)) := (Wire.string.pair Wire.string).list

theorem optional_string (o : Option String) : optional Wire.string.read (o.map Wire.string.write) = some o :=
  Wire.string.optional_map fun _ _ => ⟨trivial, nofun⟩

def fetchOptionsFields : Wire.Fields FetchOptions where
  names := ["limit", "start_id", "delete_policy"]
  fields o := [("limit", some ((Wire.unsigned 64).write o.limit)),
    ("start_id", some (Wire.string.option.write o.startId)),
    ("delete_policy", some (policyWire.write o.deletePolicy))]
  get g := do
    let limit ← required (Wire.unsigned 64).read (g "limit")
    let startId ← optional Wire.string.read (g "start_id")
    let deletePolicy ← required policyWire.read (g "delete_policy")
    return { limit, startId, deletePolicy }
  Fits o := o.limit < 2 ^ 64
  depth := 0
  names_fields _ := rfl
  nodup := by decide
  get_fields o h := by
    have hLimit := (Wire.unsigned 64).read_write o.limit h
    obtain ⟨limit, startId, policy⟩ := o
    change (((Wire.unsigned 64).read ((Wire.unsigned 64).write limit)).bind fun limit =>
      (Wire.string.option.read (Wire.string.option.write startId)).bind fun startId =>
      (policyWire.read (policyWire.write policy)).bind fun deletePolicy =>
      some (FetchOptions.mk limit startId deletePolicy)) = _
    rw [hLimit, Wire.string.option.read_write startId fun _ _ => ⟨trivial, nofun⟩, policyWire.read_write policy trivial]
    rfl
  plain o := by
    simp only [List.forall_mem_cons]
    exact ⟨(Wire.unsigned 64).plain_some _ le_rfl, Wire.string.option.plain_some _ le_rfl,
      policyWire.plain_some _ le_rfl, by simp⟩

def deleteMessageRequestFields : Wire.Fields (List String) where
  names := ["message_ids"]
  fields ids := [("message_ids", some (idsWire.write ids))]
  get g := required idsWire.read (g "message_ids")
  Fits _ := True
  depth := 1
  names_fields _ := rfl
  nodup := by decide
  get_fields ids _ := idsWire.read_write ids fun _ _ => trivial
  plain ids := by
    simp only [List.forall_mem_cons]
    exact ⟨idsWire.plain_some ids le_rfl, by simp⟩

def getMessagesRequestFields : Wire.Fields GetMessagesRequest where
  names := ["message_ids", "delete"]
  fields r := [("message_ids", some (idsWire.write r.messageIds)), ("delete", some (Wire.bool.write r.delete))]
  get g := do
    let messageIds ← required idsWire.read (g "message_ids")
    let delete ← required Wire.bool.read (g "delete")
    return { messageIds, delete }
  Fits _ := True
  depth := 1
  names_fields _ := rfl
  nodup := by decide
  get_fields r _ := by
    change ((idsWire.read (idsWire.write r.messageIds)).bind fun messageIds =>
      some (GetMessagesRequest.mk messageIds r.delete)) = _
    rw [idsWire.read_write _ fun _ _ => trivial]
    rfl
  plain r := by
    simp only [List.forall_mem_cons]
    exact ⟨idsWire.plain_some _ le_rfl, Wire.bool.plain_some _ (Nat.zero_le 1), by simp⟩

/-- Every field of an element has a default; an optional field is skipped when it is not there. -/
def messageListElementFields : Wire.Fields MessageListElement where
  names := ["msg_id", "send_id", "receive_id", "size", "timestamp", "to_address", "from_address", "msg"]
  fields m := [("msg_id", some (Wire.string.write m.msgId)), ("send_id", m.sendId.map Wire.string.write),
    ("receive_id", m.receiveId.map Wire.string.write), ("size", some ((Wire.unsigned 64).write m.size)),
    ("timestamp", some ((Wire.unsigned 64).write m.timestamp)), ("to_address", m.toAddress.map Wire.string.write),
    ("from_address", m.fromAddress.map Wire.string.write), ("msg", m.msg.map Wire.string.write)]
  get g := do
    let msgId ← withDefault Wire.string.read "" (g "msg_id")
    let sendId ← optional Wire.string.read (g "send_id")
    let receiveId ← optional Wire.string.read (g "receive_id")
    let size ← withDefault (Wire.unsigned 64).read 0 (g "size")
    let timestamp ← withDefault (Wire.unsigned 64).read 0 (g "timestamp")
    let toAddress ← optional Wire.string.read (g "to_address")
    let fromAddress ← optional Wire.string.read (g "from_address")
    let msg ← optional Wire.string.read (g "msg")
    return { msgId, sendId, receiveId, size, timestamp, toAddress, fromAddress, msg }
  Fits m := m.size < 2 ^ 64 ∧ m.timestamp < 2 ^ 64
  depth := 0
  names_fields _ := rfl
  nodup := by decide
  get_fields m h := by
    change ((optional Wire.string.read (m.sendId.map Wire.string.write)).bind fun sendId =>
      (optional Wire.string.read (m.receiveId.map Wire.string.write)).bind fun receiveId =>
      ((Wire.unsigned 64).read ((Wire.unsigned 64).write m.size)).bind fun size =>
      ((Wire.unsigned 64).read ((Wire.unsigned 64).write m.timestamp)).bind fun timestamp =>
      (optional Wire.string.read (m.toAddress.map Wire.string.write)).bind fun toAddress =>
      (optional Wire.string.read (m.fromAddress.map Wire.string.write)).bind fun fromAddress =>
      (optional Wire.string.read (m.msg.map Wire.string.write)).bind fun msg =>
      some (MessageListElement.mk m.msgId sendId receiveId size timestamp toAddress fromAddress msg)) = _
    simp only [optional_string, (Wire.unsigned 64).read_write _ h.1, (Wire.unsigned 64).read_write _ h.2,
      Option.bind_some]
  plain m := by
    simp only [List.forall_mem_cons]
    exact ⟨Wire.string.plain_some _ le_rfl, Wire.string.plain_map _ le_rfl, Wire.string.plain_map _ le_rfl,
      (Wire.unsigned 64).plain_some _ le_rfl, (Wire.unsigned 64).plain_some _ le_rfl, Wire.string.plain_map _ le_rfl,
      Wire.string.plain_map _ le_rfl, Wire.string.plain_map _ le_rfl, by simp⟩

def messageListWire : Wire (List MessageListElement) := (Wire.object messageListElementFields).list

def getMessagesResponseFields : Wire.Fields GetMessagesResponse where
  names := ["success", "get_errors", "delete_errors"]
  fields r := [("success", some (messageListWire.write r.success)), ("get_errors", some (errorsWire.write r.getErrors)),
    ("delete_errors", some (errorsWire.write r.deleteErrors))]
  get g := do
    let success ← required messageListWire.read (g "success")
    let getErrors ← required errorsWire.read (g "get_errors")
    let deleteErrors ← required errorsWire.read (g "delete_errors")
    return { success, getErrors, deleteErrors }
  Fits r := messageListWire.Fits r.success
  depth := 2
  names_fields _ := rfl
  nodup := by decide
  get_fields r h := by
    have hErrors : ∀ errors, errorsWire.read (errorsWire.write errors) = some errors := fun errors =>
      errorsWire.read_write errors fun _ _ => ⟨trivial, trivial⟩
    change ((messageListWire.read (messageListWire.write r.success)).bind fun success =>
      (errorsWire.read (errorsWire.write r.getErrors)).bind fun getErrors =>
      (errorsWire.read (errorsWire.write r.deleteErrors)).bind fun deleteErrors =>
      some (GetMessagesResponse.mk success getErrors deleteErrors)) = _
    rw [messageListWire.read_write _ h, hErrors, hErrors]
    rfl
  plain r := by
    simp only [List.forall_mem_cons]
    exact ⟨messageListWire.plain_some _ le_rfl, errorsWire.plain_some _ le_rfl, errorsWire.plain_some _ le_rfl, by simp⟩

def deleteMessageResponseFields : Wire.Fields DeleteMessageResponse where
  names := ["success", "errors"]
  fields r := [("success", some (idsWire.write r.success)), ("errors", some (errorsWire.write r.errors))]
  get g := do
    let success ← required idsWire.read (g "success")
    let errors ← required errorsWire.read (g "errors")
    return { success, errors }
  Fits _ := True
  depth := 2
  names_fields _ := rfl
  nodup := by decide
  get_fields r _ := by
    change ((idsWire.read (idsWire.write r.success)).bind fun success =>
      (errorsWire.read (errorsWire.write r.errors)).bind fun errors =>
        some (DeleteMessageResponse.mk success errors)) = _
    rw [idsWire.read_write _ fun _ _ => trivial, errorsWire.read_write _ fun _ _ => ⟨trivial, trivial⟩]
    rfl
  plain r := by
    simp only [List.forall_mem_cons]
    exact ⟨idsWire.plain_some _ (Nat.le_succ 1), errorsWire.plain_some _ le_rfl, by simp⟩

/-- The fields of an answer with data of some type. -/
def successResponseFields {α : Type} (w : Wire α) : Wire.Fields (SuccessResponse α) where
  names := ["sessionId", "httpCode", "errorCode", "errorCodeStr", "message", "data"]
  fields r := [("sessionId", some (Wire.string.write r.sessionId)),
    ("httpCode", some ((Wire.unsigned 16).write r.httpCode)),
    ("errorCode", some (Wire.i32.write r.errorCode)), ("errorCodeStr", some (Wire.string.write r.errorCodeStr)),
    ("message", some (Wire.string.write r.message)), ("data", some (w.option.write r.data))]
  get g := do
    let sessionId ← required Wire.string.read (g "sessionId")
    let httpCode ← required (Wire.unsigned 16).read (g "httpCode")
    let errorCode ← required Wire.i32.read (g "errorCode")
    let errorCodeStr ← required Wire.string.read (g "errorCodeStr")
    let message ← required Wire.string.read (g "message")
    let data ← optional w.read (g "data")
    return { sessionId, httpCode, errorCode, errorCodeStr, message, data }
  Fits r := r.httpCode < 2 ^ 16 ∧ Wire.i32.Fits r.errorCode ∧ w.option.Fits r.data
  depth := w.depth
  names_fields _ := rfl
  nodup := by decide
  get_fields r h := by
    obtain ⟨sessionId, httpCode, errorCode, errorCodeStr, message, data⟩ := r
    obtain ⟨hCode, hError, hData⟩ := h
    change (((Wire.unsigned 16).read ((Wire.unsigned 16).write httpCode)).bind fun httpCode =>
      (Wire.i32.read (Wire.i32.write errorCode)).bind fun errorCode =>
      (w.option.read (w.option.write data)).bind fun data =>
      some (SuccessResponse.mk sessionId httpCode errorCode errorCodeStr message data)) = _
    rw [(Wire.unsigned 16).read_write _ hCode, Wire.i32.read_write _ hError, w.option.read_write _ hData]
    rfl
  plain r := by
    simp only [List.forall_mem_cons]
    exact ⟨Wire.string.plain_some _ (Nat.zero_le _), (Wire.unsigned 16).plain_some _ (Nat.zero_le _),
      Wire.i32.plain_some _ (Nat.zero_le _), Wire.string.plain_some _ (Nat.zero_le _),
      Wire.string.plain_some _ (Nat.zero_le _), w.option.plain_some _ le_rfl, by simp⟩

/-! ## Requests and answers -/

namespace Rest

inductive StatusCode
  | ok
  | badRequest
  | unauthorized
  | forbidden
  | notAcceptable
  | payloadTooLarge
  | unsupportedMediaType
  | unprocessableEntity
  | internalServerError
  | notImplemented
  | serviceUnavailable
deriving DecidableEq

namespace StatusCode

def asU16 : StatusCode → Nat
  | ok => 200
  | badRequest => 400
  | unauthorized => 401
  | forbidden => 403
  | notAcceptable => 406
  | payloadTooLarge => 413
  | unsupportedMediaType => 415
  | unprocessableEntity => 422
  | internalServerError => 500
  | notImplemented => 501
  | serviceUnavailable => 503

def isSuccess (status : StatusCode) : Bool := 200 ≤ status.asU16 && status.asU16 < 300

def text : StatusCode → String
  | ok => "200 OK"
  | badRequest => "400 Bad Request"
  | unauthorized => "401 Unauthorized"
  | forbidden => "403 Forbidden"
  | notAcceptable => "406 Not Acceptable"
  | payloadTooLarge => "413 Payload Too Large"
  | unsupportedMediaType => "415 Unsupported Media Type"
  | unprocessableEntity => "422 Unprocessable Entity"
  | internalServerError => "500 Internal Server Error"
  | notImplemented => "501 Not Implemented"
  | serviceUnavailable => "503 Service Unavailable"

end StatusCode

structure HttpResponse where
  status : StatusCode
  body : String

def errorJson (response : ErrorResponse) : Json :=
  .obj [("sessionId", .str response.sessionId), ("httpCode", (Wire.unsigned 16).write response.httpCode),
    ("errorCode", (Wire.unsigned 16).write response.errorCode), ("errorCodeStr", .str response.errorCodeStr),
    ("message", .str response.message)]

/-- The status and the body of an error. -/
def appError (e : MediatorError) : StatusCode × ErrorResponse :=
  let response (status : StatusCode) (sessionId : String) (errorCode : Nat) (errorCodeStr message : String) :
      StatusCode × ErrorResponse := (status, ⟨sessionId, status.asU16, errorCode, errorCodeStr, message⟩)
  match e with
  | .internalError sessionId msg => response .internalServerError sessionId 2 "InternalError" msg
  | .parseError sessionId _ msg => response .badRequest sessionId 3 "BadRequest: ParseError" msg
  | .permissionError sessionId msg => response .forbidden sessionId 4 "Forbidden: PermissionError" msg
  | .requestDataError sessionId msg =>
    response .badRequest sessionId 5 "BadRequest: RequestDataError" ("Bad Request: (" ++ msg ++ ")")
  | .unauthorized sessionId msg => response .unauthorized sessionId 7 "Unauthorized" ("Unauthorized access: " ++ msg)
  | .configError sessionId message => response .serviceUnavailable sessionId 9 "ConfigError" message
  | .databaseError sessionId message => response .serviceUnavailable sessionId 10 "DatabaseError" message
  | .messageUnpackError sessionId message => response .badRequest sessionId 11 "MessageUnpackError" message
  | .messageExpired sessionId expired now =>
    response .unprocessableEntity sessionId 12 "MessageExpired"
      ("Message expired: expiry(" ++ expired ++ ") now(" ++ now ++ ")")
  | .messagePackError sessionId message => response .badRequest sessionId 13 "MessagePackError" message
  | .notImplemented sessionId message => response .notImplemented sessionId 14 "NotImplemented" message
  | .sessionError sessionId message => response .notAcceptable sessionId 15 "SessionError" message

theorem appError_not_success (e : MediatorError) : (appError e).1.isSuccess = false := by
  cases e <;> rfl

inductive ATMError
  | transportError (text : String)
  | msgSendError (text : String)
  | configError (text : String)
  | authenticationError (text : String)

/-- An error that is returned, or an `unwrap` that panics. -/
inductive Fault
  | returned (e : ATMError)
  | panic

abbrev Call := EStateM Rest.Fault Db

section
variable {α β : Type} (crates : Crates)

/-- What the mediator answers when a handler has run. -/
def answer (w : Wire β) (sessionId : String) : Except MediatorError β → HttpResponse
  | .ok data => ⟨.ok, crates.jsonToString ((Wire.object (successResponseFields w)).write
      ⟨sessionId, StatusCode.ok.asU16, 0, "NA", "Success", some data⟩)⟩
  | .error e => ⟨(appError e).1, crates.jsonToString (errorJson (appError e).2)⟩

/-- What the SDK makes of an answer. -/
def readAnswer (w : Wire β) (response : HttpResponse) : Except Rest.Fault β :=
  if !response.status.isSuccess then
    .error (.returned (.transportError ("Status not successful. status(" ++ response.status.text ++ "), response(" ++
      response.body ++ ")")))
  else
    match (crates.jsonFromStr response.body).bind (Wire.object (successResponseFields w)).read with
    | none => .error .panic
    | some body =>
      match body.data with
      | some data => .ok data
      | none => .error (.returned (.transportError "No messages found"))

/-- A request that is answered by a run of a handler. -/
def get (w : Wire β) (session : Common.Session) (handler : Handler β) : Call β := fun db =>
  match readAnswer crates w (answer crates w session.sessionId (Fallible.outcome handler db)) with
  | .ok data => .ok data (stateAfter handler db)
  | .error fault => .error fault (stateAfter handler db)

/-- A request with a JSON body, which the extractor of the mediator reads; what it answers to a body that it cannot read
is up to that extractor. -/
def post (rejection : String → HttpResponse) (w : Wire α) (w' : Wire β) (session : Common.Session)
    (handler : α → Handler β) (request : α) : Call β :=
  let body := crates.jsonToString (w.write request)
  match (crates.jsonFromStr body).bind w.read with
  | some request => get crates w' session (handler request)
  | none => fun db =>
    match readAnswer crates w' (rejection body) with
    | .ok data => .ok data db
    | .error fault => .error fault db

/-- The error of a handler as the SDK returns it. -/
def relayedError (e : MediatorError) : ATMError :=
  .transportError ("Status not successful. status(" ++ (appError e).1.text ++ "), response(" ++
    crates.jsonToString (errorJson (appError e).2) ++ ")")

/-- A handler whose errors are relayed to the SDK. -/
def relay (handler : Handler β) : Call β := fun db =>
  match handler db with
  | .ok data db' => .ok data db'
  | .error e db' => .error (.returned (relayedError crates e)) db'

end

section
variable {crates : Crates} {hasPrivate : {curve : Curve} → crates.KeyPair curve → Prop}
  {reread : Int → Int → Int × Int} {limit : ℕ∞} (laws : Lawful crates hasPrivate reread limit)
include laws

theorem read_wire {α : Type} (w : Wire α) (hDepth : w.depth ≤ recursionLimit) {a : α} (hFits : w.Fits a) :
    (crates.jsonFromStr (crates.jsonToString (w.write a))).bind w.read = some a := by
  obtain ⟨hFloatless, hDepth⟩ := w.plain_write a hDepth
  rw [laws.read_written hFloatless hDepth, Option.bind_some, w.read_write a hFits]

theorem read_success {β : Type} (w : Wire β) (hDepth : w.depth + 1 ≤ recursionLimit) (sessionId : String) {data : β}
    (hFits : w.Fits data) (hValue : w.write data ≠ .null) :
    (crates.jsonFromStr (answer crates w sessionId (.ok data)).body).bind (Wire.object (successResponseFields w)).read =
      some ⟨sessionId, StatusCode.ok.asU16, 0, "NA", "Success", some data⟩ :=
  read_wire laws (Wire.object (successResponseFields w)) hDepth
    ⟨(by decide : 200 < 2 ^ 16), (by decide : 0 < 2 ^ 31), fun a ha => Option.some.inj ha ▸ ⟨hFits, hValue⟩⟩

theorem readAnswer_answer {β : Type} (w : Wire β) (hDepth : w.depth + 1 ≤ recursionLimit) (sessionId : String)
    (result : Except MediatorError β) (hFits : ∀ data, result = .ok data → w.Fits data ∧ w.write data ≠ .null) :
    readAnswer crates w (answer crates w sessionId result) =
      match result with
      | .ok data => .ok data
      | .error e => .error (.returned (relayedError crates e)) := by
  cases result with
  | error e =>
    have hStatus : (answer crates w sessionId (.error e)).status.isSuccess = false := appError_not_success e
    rw [readAnswer, hStatus]
    rfl
  | ok data =>
    have hRead := read_success laws w hDepth sessionId (hFits data rfl).1 (hFits data rfl).2
    rw [readAnswer, hRead]
    rfl

theorem get_eq {β : Type} (w : Wire β) (hDepth : w.depth + 1 ≤ recursionLimit) (session : Common.Session)
    {handler : Handler β} {db : Db}
    (hFits : ∀ data db', handler db = .ok data db' → w.Fits data ∧ w.write data ≠ .null) :
    get crates w session handler db = relay crates handler db := by
  unfold get relay Fallible.outcome stateAfter
  cases hRun : handler db with
  | ok data db' =>
    have hAnswer := readAnswer_answer laws w hDepth session.sessionId (.ok data) fun data' h => by
      cases h
      exact hFits data db' hRun
    dsimp only
    rw [hAnswer]
  | error e db' =>
    have hAnswer := readAnswer_answer laws w hDepth session.sessionId (.error e) nofun
    dsimp only
    rw [hAnswer]

/-- A request and its answer lose nothing on the way. -/
theorem post_eq {α β : Type} (rejection : String → HttpResponse) (w : Wire α) (hDepth : w.depth ≤ recursionLimit)
    (w' : Wire β) (hDepth' : w'.depth + 1 ≤ recursionLimit) (session : Common.Session) (handler : α → Handler β)
    {request : α} (hRequest : w.Fits request) {db : Db}
    (hFits : ∀ data db', handler request db = .ok data db' → w'.Fits data ∧ w'.write data ≠ .null) :
    post crates rejection w w' session handler request db = relay crates (handler request) db := by
  rw [post, read_wire laws w hDepth hRequest]
  exact get_eq laws w' hDepth' session hFits

end

end Rest

end AffinidiMessaging.Sdk
