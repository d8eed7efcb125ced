import AffinidiMessaging.Didcomm.Metadata
import AffinidiMessaging.Didcomm.Sender
import AffinidiMessaging.Mediator.ConsumedOnce
import AffinidiMessaging.Mediator.ForwardedInbox

/-! # Who gets tokens

`authentication_response` compares the `from` of the message, if there is one, with the DID of the session
that the body names. It looks neither at who encrypted or signed the message nor at the challenge in it.
-/

namespace AffinidiMessaging.Mediator

open Redis Text Fallible Serde Didcomm Transition

def AuthenticationChallenge.ofJson (j : Json) : Option AuthenticationChallenge := do
  let get ← record ["challenge", "session_id"] j
  let challenge ← required Json.asStr (get "challenge")
  let sessionId ← required Json.asStr (get "session_id")
  return { challenge, sessionId }

section
variable (config : Config)

/-- The text that the body of a request is made to again; it has the fields of a JWE. -/
def inboundText (body : Jwe) : String := config.crates.jsonToString body.toJson

/-- The message of a response, unpacked with the default options. -/
def unpackResponse (body : Jwe) : Except InboundFault (Message × UnpackMetadata) :=
  match MetaEnvelope.new config.crates config.dids config.mediatorSecrets (inboundText config body)
    (.fresh config.crates) with
  | .error e _ => .error (ofFault (.parseError "UNKNOWN" "Raw inbound DIDComm message") e)
  | .ok () envelope =>
    match Message.unpack config.crates config.dids config.mediatorSecrets {} envelope with
    | .error e _ => .error (ofFault (fun text => .messageUnpackError "UNKNOWN"
        ("Couldn't unpack incoming message. Reason: " ++ text)) e)
    | .ok unpacked _ => .ok unpacked

def checkAuthenticate (msg : Message) : Except MediatorError Unit := do
  match ← MessageType.fromStr msg.type_ with
  | .affinidiAuthenticate => return ()
  | _ => throw (.sessionError "UNKNOWN" "Only accepts Affinidi Authentication protocol messages")

def checkFresh (arrived : UInt64) (msg : Message) : Except MediatorError Unit :=
  match msg.expiresTime with
  | some expires =>
    ensure (!decide (expires ≤ arrived))
      (MediatorError.messageExpired "-1" (toString expires) (toString arrived))
  | none => pure ()

/-- What a message that arrives at the time says in answer to a challenge. -/
def readRequest (arrived : UInt64) (msg : Message) : Except MediatorError AuthRequest := do
  checkAuthenticate msg
  checkFresh arrived msg
  let challenge ← okOr (AuthenticationChallenge.ofJson msg.body) (.sessionError "UNKNOWN"
    ("Couldn't parse body into ChallengeBody. Reason: " ++ config.valueError "AuthenticationChallenge" msg.body))
  return { from_ := msg.from_, challenge }

/-- `authentication_response` up to the session. -/
def requestOf (arrived : UInt64) (body : Jwe) : Except InboundFault AuthRequest := do
  let (msg, _) ← unpackResponse config body
  match readRequest config arrived msg with
  | .ok request => .ok request
  | .error e => .error (.handler (.error e))

end

/-- The calls of both handlers, with what came in for each response. -/
structure Exchange where
  auth : Authentication
  bodies : List Jwe
  /-- The challenge that was last given out with a session id. Not kept by the code. -/
  given : String → Option String

inductive ExchangeEvent
  | response (body : Jwe) (arrived : UInt64) (newSessionId : String) (now : Nat)
  /-- Everything but a response. -/
  | auth (event : AuthEvent)

namespace AuthEvent

def isResponse : AuthEvent → Bool
  | .response .. => true
  | _ => false

/-- What has been given after the event. -/
def given (given : String → Option String) : AuthEvent → String → Option String
  | .challenge sessionId text _ => Function.update given sessionId (some text)
  | _ => given

end AuthEvent

namespace Exchange

def start : Exchange := { auth := .start, bodies := [], given := fun _ => none }

variable (config : Config) (jwt : JwtEncoding)

inductive Step (s : Exchange) : ExchangeEvent → Exchange → Prop
  | response (body : Jwe) (arrived : UInt64) (request : AuthRequest) (newSessionId : String) (now : Nat)
    (h : requestOf config arrived body = .ok request) :
    Step s (.response body arrived newSessionId now)
      { s with auth := s.auth.respond config.env jwt request newSessionId now, bodies := s.bodies ++ [body] }
  | refused (body : Jwe) (arrived : UInt64) (newSessionId : String) (now : Nat) (e : InboundFault)
    (h : requestOf config arrived body = .error e) : Step s (.response body arrived newSessionId now) s
  | auth (event : AuthEvent) (auth : Authentication) (hOther : event.isResponse = false)
    (h : s.auth.Step config.env jwt event auth) :
    Step s (.auth event) { s with auth, given := event.given s.given }

end Exchange

/-- Clients and attackers alike: whoever asks for a challenge, whoever answers with whatever. -/
def exchange (config : Config) (jwt : JwtEncoding) : System Exchange ExchangeEvent where
  init s := s = .start
  step s event s' := s.Step config jwt event s'

/-- The message of the body was decrypted or verified with a key of the DID of the session, and has the
challenge of the session; the tokens are for that DID. -/
def TokensDue (config : Config) (jwt : JwtEncoding) (body : Jwe) (session : Session)
    (response : AuthorizationResponse) : Prop :=
  ∃ m metadata unpacked, Message.unpackString config.crates config.dids config.mediatorSecrets {}
      (inboundText config body) (.fresh config.crates) = .ok (m, metadata) unpacked ∧
    (∃ op ∈ unpacked.ops, op.Performed config.crates config.dids config.mediatorSecrets m ∧
      ∃ kid, op.senderKid = some kid ∧ (didOrUrl kid).1 = session.did) ∧
    (∃ answer, AuthenticationChallenge.ofJson m.body = some answer ∧ answer.challenge = session.challenge) ∧
    ∃ now newSessionId, createTokens jwt now { session with sessionId := newSessionId } = .ok response

/-- Tokens are returned to those only that they are due to. -/
def Exchange.Authenticated (config : Config) (jwt : JwtEncoding) (s : Exchange) : Prop :=
  ∀ (call : Nat) request session response, s.auth.calls[call]? = some (.returned request session response) →
    ∃ body, s.bodies[call]? = some body ∧ TokensDue config jwt body session response

/-- There is a session with the id, and it waits for an answer. -/
def Waits (db : Db) (sid : String) : Prop :=
  ∃ fields, db (.session sid) = some (.hash fields) ∧
    fields.lookup "state" = some SessionState.challengeSent.display

/-- The message names its sender, and a key of the sender has encrypted or signed it. -/
def InOwnName {crates : Crates} (layers : List (Layer crates)) (m : Message) : Prop :=
  ∃ sender, m.from_ = some sender ∧ ∃ layer ∈ layers, ∃ kid, layer.senderKid = some kid ∧ (didOrUrl kid).1 = sender

/-- Whoever answers a session that waits, be it their own or not, does so in their own name and quotes the
challenge that was given out with the session. Messages of other kinds or that come too late may say anything. -/
def Exchange.InGoodFaith (config : Config) (s : Exchange) : ExchangeEvent → Prop
  | .response body arrived _ _ => ∀ layers m prior answer,
    Opens config.crates config.dids config.mediatorSecrets {} (inboundText config body) layers m prior →
    checkAuthenticate m = .ok () → checkFresh arrived m = .ok () →
    AuthenticationChallenge.ofJson m.body = some answer → Waits s.auth.db answer.sessionId →
    InOwnName layers m ∧ s.given answer.sessionId = some answer.challenge
  | _ => True

section
variable {config : Config} {jwt : JwtEncoding}

theorem unpackResponse_ok_iff {body : Jwe} {r : Message × UnpackMetadata} :
    unpackResponse config body = .ok r ↔ ∃ unpacked,
      Message.unpackString config.crates config.dids config.mediatorSecrets {} (inboundText config body)
        (.fresh config.crates) = .ok r unpacked := by
  rw [Message.unpackString]
  unfold unpackResponse
  cases hNew : MetaEnvelope.new config.crates config.dids config.mediatorSecrets (inboundText config body)
      (.fresh config.crates) with
  | error e s =>
    rw [bind_of_error hNew]
    simp
  | ok u s =>
    rw [bind_of_ok hNew]
    cases hUnpack : Message.unpack config.crates config.dids config.mediatorSecrets {} s <;> simp [hUnpack]

theorem requestOf_ok_iff {arrived : UInt64} {body : Jwe} {request : AuthRequest} :
    requestOf config arrived body = .ok request ↔ ∃ m metadata unpacked,
      Message.unpackString config.crates config.dids config.mediatorSecrets {} (inboundText config body)
        (.fresh config.crates) = .ok (m, metadata) unpacked ∧ readRequest config arrived m = .ok request := by
  simp only [requestOf, except_bind_ok_iff, unpackResponse_ok_iff]
  constructor
  · rintro ⟨⟨m, metadata⟩, ⟨unpacked, hUnpack⟩, h⟩
    split at h
    · rename_i hRead
      cases h
      exact ⟨m, metadata, unpacked, hUnpack, hRead⟩
    · cases h
  · rintro ⟨m, metadata, unpacked, hUnpack, hRead⟩
    exact ⟨(m, metadata), ⟨unpacked, hUnpack⟩, by rw [hRead]⟩

/-- A request is what a message of the right type says in time. -/
theorem readRequest_ok {arrived : UInt64} {m : Message} {request : AuthRequest}
    (h : readRequest config arrived m = .ok request) :
    checkAuthenticate m = .ok () ∧ checkFresh arrived m = .ok () ∧ request.from_ = m.from_ ∧
      AuthenticationChallenge.ofJson m.body = some request.challenge := by
  simp only [readRequest, except_bind_ok_iff, okOr_ok_iff] at h
  obtain ⟨_, hType, _, hFresh, challenge, hChallenge, h⟩ := h
  cases h
  exact ⟨hType, hFresh, rfl, hChallenge⟩

theorem getSession_waiting {env : Environment} {sessionId : String} {db db' : Db} {session : Session}
    (h : DatabaseHandler.getSession env sessionId db = .ok session db') (hState : session.state = .challengeSent) :
    ∃ fields, db (.session sessionId) = some (.hash fields) ∧
      fields.lookup "state" = some SessionState.challengeSent.display ∧
      fields.lookup "challenge" = some session.challenge := by
  obtain ⟨fields, hFields, hSession, -⟩ := (DatabaseHandler.getSession_ok_iff _ _ _ _ _).mp h
  obtain ⟨-, hChallenge, ⟨state, hLookup, hFrom⟩, -⟩ := (Session.tryFrom_ok_iff _ _ _).mp hSession
  refine ⟨fields, ?_, ?_, hChallenge⟩
  · cases hv : db (.session sessionId) with
    | none =>
      rw [hv] at hFields
      cases hFields
      cases hChallenge
    | some v =>
      rw [hv] at hFields
      cases v <;> cases hFields
      rfl
  · rw [hLookup]
    rw [hState] at hFrom
    unfold SessionState.tryFrom at hFrom
    split at hFrom
    · rfl
    · cases hFrom
    · cases hFrom

/-- The challenge that is recorded for a session that waits for an answer is the one that was given out. -/
def Exchange.Recorded (given : String → Option String) (sid : String) (fields : Fields) : Prop :=
  fields.lookup "state" = some SessionState.challengeSent.display → given sid = fields.lookup "challenge"

/-- The tokens of a call are due. -/
def AuthCall.Due (config : Config) (jwt : JwtEncoding) (body : Jwe) : AuthCall → Prop
  | .checked _ session _ response | .returned _ session response => TokensDue config jwt body session response
  | .failed _ => True

structure Exchange.Kept (config : Config) (jwt : JwtEncoding) (s : Exchange) : Prop where
  recorded : Sessions (Exchange.Recorded s.given) s.auth.db
  due : List.Forall₂ (AuthCall.Due config jwt) s.bodies s.auth.calls

/-- What is answered in good faith gets tokens that are due: the `from` that names its sender is compared with
the DID of the session. -/
theorem tokensDue_of_checked {s : Exchange} (hRecorded : Sessions (Exchange.Recorded s.given) s.auth.db) {body : Jwe}
    {arrived : UInt64} {request : AuthRequest} {newSessionId : String} {now : Nat} {db : Db} {session : Session}
    {response : AuthorizationResponse} (hRequest : requestOf config arrived body = .ok request)
    (hGoodFaith : s.InGoodFaith config (.response body arrived newSessionId now))
    (hChecked : authenticationChecked config.env jwt request newSessionId now s.auth.db = .ok (session, response) db) :
    TokensDue config jwt body session response := by
  obtain ⟨m, metadata, unpacked, hUnpack, hRead⟩ := requestOf_ok_iff.mp hRequest
  obtain ⟨hSession, hCheck, hTokens, -⟩ := (authenticationChecked_ok_iff _ _ _ _ _ _ _ _ _).mp hChecked
  obtain ⟨layers, prior, hOpens, -, hOps⟩ := (unpackString_ok_iff _ _ _ _ _ _ _ _).mp ⟨unpacked, hUnpack, rfl⟩
  obtain ⟨hType, hFresh, hFrom, hBody⟩ := readRequest_ok hRead
  obtain ⟨hSameDid, hState⟩ := (checkSession_ok_iff _ _).mp hCheck
  obtain ⟨fields, hFields, hWaits, hChallenge⟩ := getSession_waiting hSession hState
  obtain ⟨⟨sender, hSender, layer, hLayer, kid, hKid, hDid⟩, hGiven⟩ :=
    hGoodFaith layers m prior request.challenge hOpens hType hFresh hBody ⟨fields, hFields, hWaits⟩
  obtain rfl : sender = session.did := hSameDid sender (hFrom.trans hSender)
  -- the record that was read is the one that was made with the challenge
  obtain ⟨_, hSame, hRecord⟩ := hRecorded _ _ hFields
  cases hSame
  have hText : request.challenge.challenge = session.challenge :=
    Option.some.inj (hGiven.symm.trans ((hRecord hWaits).trans hChallenge))
  obtain ⟨outer, -, hEnvelope⟩ := hOpens
  obtain ⟨op, hOp, hOpKid⟩ := (hEnvelope.exists_op_iff kid).mpr ⟨layer, hLayer, hKid⟩
  refine ⟨m, metadata, unpacked, hUnpack, ⟨op, hOps ▸ hOp, hEnvelope.performed op hOp, kid, hOpKid, hDid⟩,
    ⟨_, hBody, hText⟩, now, newSessionId, hTokens⟩

theorem forall₂_replace {α β : Type} {R : α → β → Prop} {l : List α} {before after : List β} {b b' : β}
    (h : List.Forall₂ R l (before ++ b :: after)) (hb : ∀ a, R a b → R a b') :
    List.Forall₂ R l (before ++ b' :: after) := by
  induction before generalizing l with
  | nil =>
    cases h with
    | cons hHead hTail => exact .cons (hb _ hHead) hTail
  | cons first before ih =>
    cases h with
    | cons hHead hTail => exact .cons hHead (ih hTail)

/-- A challenge for another session changes nothing of what was given. -/
theorem Exchange.Recorded.challenge {given : String → Option String} {sid sessionId text : String}
    {fields : Fields} (h : Exchange.Recorded given sid fields) (hNe : sid ≠ sessionId) (body : ChallengeBody) :
    Exchange.Recorded ((AuthEvent.challenge sessionId text body).given given) sid fields := by
  intro hState
  rw [← h hState]
  exact Function.update_of_ne hNe _ _

theorem recorded_authenticate {given : String → Option String} {db : Db}
    (h : Sessions (Exchange.Recorded given) db) (env : Environment) (oldSid newSid : String) :
    Sessions (Exchange.Recorded given)
      (stateAfter (DatabaseHandler.updateSessionAuthenticated env oldSid newSid) db) := by
  refine h.authenticate env oldSid newSid fun fields hState hWaits => ?_
  exact absurd (hState.symm.trans hWaits) (by decide)

theorem Exchange.Kept.step {s s' : Exchange} {event : ExchangeEvent} (h : s.Kept config jwt)
    (hGoodFaith : s.InGoodFaith config event) (hStep : s.Step config jwt event s') : s'.Kept config jwt := by
  cases hStep with
  | response body arrived request newSessionId now hRequest =>
    unfold Authentication.respond
    cases hChecked : authenticationChecked config.env jwt request newSessionId now s.auth.db with
    | ok checked db =>
      have hDue := tokensDue_of_checked h.recorded hRequest hGoodFaith hChecked
      exact ⟨h.recorded, List.rel_append h.due (.cons hDue .nil)⟩
    | error e db => exact ⟨h.recorded, List.rel_append h.due (.cons trivial .nil)⟩
  | refused body arrived newSessionId now e hRefused => exact h
  | auth event auth hOther hAuth =>
    cases hAuth with
    | challenge sessionId text body =>
      constructor
      · dsimp only
        rw [Authentication.stateAfter_authenticationChallenge]
        refine Sessions.createSession _ h.recorded _ (fun sid fields hNe hRecord => hRecord.challenge hNe body) ?_
        intro fields _
        exact (Function.update_self _ _ _).trans (by simp [setFields])
      · exact h.due
    | response => cases hOther
    | update before after request session newSessionId response hCalls =>
      refine ⟨recorded_authenticate h.recorded _ _ _, ?_⟩
      refine forall₂_replace (hCalls ▸ h.due) fun body hDue => ?_
      unfold AuthCall.outcome
      split
      · exact hDue
      · trivial
    | expire sessionId =>
      refine ⟨fun sid v hv => ?_, h.due⟩
      dsimp only at hv
      rw [Function.update_apply] at hv
      split at hv
      · cases hv
      · exact h.recorded sid v hv
    | other db hUnrelated =>
      refine ⟨fun sid v hv => ?_, h.due⟩
      dsimp only at hv
      rw [hUnrelated.1 sid] at hv
      exact h.recorded sid v hv

/-- Whatever is asked and answered in whatever order: as long as sessions that wait are answered in good faith,
tokens go to those only that they are due to. -/
theorem tokens_due (config : Config) (jwt : JwtEncoding) (s : Exchange)
    (hs : ((exchange config jwt).restrict (Exchange.InGoodFaith config)).Reachable s) :
    s.Authenticated config jwt := by
  have hInvariant : ((exchange config jwt).restrict (Exchange.InGoodFaith config)).Invariant
      (Exchange.Kept config jwt) := by
    constructor
    · rintro s rfl
      exact ⟨(fun sid v hv => by cases hv), .nil⟩
    · rintro s event s' h ⟨hGoodFaith, hStep⟩
      exact h.step hGoodFaith hStep
  intro call request session response hCall
  obtain ⟨hLength, hDue⟩ := List.forall₂_iff_get.mp (hInvariant.holds hs).due
  obtain ⟨hLt, hGet⟩ := List.getElem?_eq_some_iff.mp hCall
  have hBody := hDue call (hLength ▸ hLt) hLt
  rw [List.get_eq_getElem, List.get_eq_getElem, hGet] at hBody
  exact ⟨_, List.getElem?_eq_getElem (hLength ▸ hLt), hBody⟩

end

section
variable {config : Config}

theorem opens_unique {text : String} {layers layers' : List (Layer config.crates)} {m m' : Message}
    {prior prior' : Option (FromPrior × String)}
    (h : Opens config.crates config.dids config.mediatorSecrets {} text layers m prior)
    (h' : Opens config.crates config.dids config.mediatorSecrets {} text layers' m' prior') :
    m' = m ∧ layers'.flatMap Layer.ops = layers.flatMap Layer.ops := by
  obtain ⟨s, hRun, hOps⟩ := (unpackString_ok_iff _ _ _ _ text m _ _).mpr ⟨layers, prior, h, rfl, rfl⟩
  obtain ⟨s', hRun', hOps'⟩ := (unpackString_ok_iff _ _ _ _ text m' _ _).mpr ⟨layers', prior', h', rfl, rfl⟩
  obtain ⟨hSame, rfl⟩ := EStateM.Result.ok.inj (hRun.symm.trans hRun')
  exact ⟨(congrArg Prod.fst hSame).symm, hOps'.symm.trans hOps⟩

theorem Exchange.inGoodFaith_auth (s : Exchange) (event : AuthEvent) : s.InGoodFaith config (.auth event) := trivial

theorem Exchange.inGoodFaith_of_opens {s : Exchange} {body : Jwe} {layers : List (Layer config.crates)} {m : Message}
    {prior : Option (FromPrior × String)}
    (h : Opens config.crates config.dids config.mediatorSecrets {} (inboundText config body) layers m prior)
    {answer : AuthenticationChallenge} (hBody : AuthenticationChallenge.ofJson m.body = some answer)
    (hGiven : s.given answer.sessionId = some answer.challenge) (hName : InOwnName layers m) (arrived : UInt64)
    (newSessionId : String) (now : Nat) : s.InGoodFaith config (.response body arrived newSessionId now) := by
  intro layers' m' prior' answer' h' _ _ hBody' _
  obtain ⟨rfl, hOps⟩ := opens_unique h h'
  cases hBody.symm.trans hBody'
  obtain ⟨sender, hSender, layer, hLayer, kid, hKid, hDid⟩ := hName
  obtain ⟨outer, -, hEnvelope⟩ := h
  obtain ⟨outer', -, hEnvelope'⟩ := h'
  have hOp := (hEnvelope.exists_op_iff kid).mpr ⟨layer, hLayer, hKid⟩
  rw [← hOps] at hOp
  obtain ⟨layer', hLayer', hKid'⟩ := (hEnvelope'.exists_op_iff kid).mp hOp
  exact ⟨⟨sender, hSender, layer', hLayer', kid, hKid', hDid⟩, hGiven⟩

end

/-! ## Examples -/

/-- An answer to the challenge for the first session. -/
def authenticateMessage (from_ : Option String) (challenge : String) : Message :=
  { Message.build "1" "https://affinidi.com/atm/1.0/authenticate"
      (.obj [("challenge", .str challenge), ("session_id", .str "session-1")]) with from_ }

theorem parseEnvelope_authenticate (from_ : Option String) (challenge : String) :
    parseEnvelope (ideal id) ((ideal id).jsonToString (authenticateMessage from_ challenge).toJson) =
      .ok (.message (authenticateMessage from_ challenge)) := by
  refine parseEnvelope_message (ideal_lawful id) ?_ ?_ (Message.ofJson_toJson rfl rfl fun _ h => by cases h)
    (Message.envelope_toJson rfl)
  · cases from_ <;> rfl
  · cases from_ <;> exact Nat.le_add_left 2 125

/-- The state while bob's session waits, after some calls with these bodies. -/
def bobWaits (calls : List AuthCall) (bodies : List Jwe) : Exchange where
  auth := { challenged with calls }
  bodies := bodies
  given := Function.update (fun _ => none) "session-1" (some "challenge-1")

theorem step_bobWaits : Exchange.Step sampleConfig sampleJwt .start
    (.auth (.challenge "session-1" "challenge-1" ⟨"did:example:bob"⟩)) (bobWaits [] []) :=
  .auth (.challenge "session-1" "challenge-1" ⟨"did:example:bob"⟩) challenged rfl step_challenged

/-- The state once a body has passed for bob's session. -/
def bobChecked (calls : List AuthCall) (bodies : List Jwe) (body : Jwe) (request : AuthRequest) : Exchange where
  auth := { challenged with
    calls := calls ++ [.checked request bobSession "session-2" answered], drawn := ["session-2", "session-1"] }
  bodies := bodies ++ [body]
  given := (bobWaits calls bodies).given

/-- The state once it has got tokens. -/
def bobServed (calls : List AuthCall) (bodies : List Jwe) (body : Jwe) (request : AuthRequest) : Exchange where
  auth :=
    { db := stateAfter (transaction "session-2") challenged.db
      calls := calls ++ [.returned request bobSession answered]
      drawn := ["session-2", "session-1"] }
  bodies := bodies ++ [body]
  given := (bobWaits calls bodies).given

section
variable (calls : List AuthCall) (bodies : List Jwe)

theorem step_bobChecked {body : Jwe} {request : AuthRequest}
    (hRequest : requestOf sampleConfig 0 body = .ok request)
    (hFrom : request.from_ = none ∨ request.from_ = some "did:example:bob")
    (hSession : request.challenge.sessionId = "session-1") :
    (bobWaits calls bodies).Step sampleConfig sampleJwt (.response body 0 "session-2" 0)
      (bobChecked calls bodies body request) := by
  have hRespond : (bobWaits calls bodies).auth.respond sampleEnvironment sampleJwt request "session-2" 0 =
      (bobChecked calls bodies body request).auth := by
    obtain ⟨from_, ⟨challenge, sessionId⟩⟩ := request
    cases hSession
    rcases hFrom with hFrom | hFrom <;> cases hFrom <;> rfl
  have hStep : (bobWaits calls bodies).Step sampleConfig sampleJwt (.response body 0 "session-2" 0)
      { bobWaits calls bodies with
        auth := (bobWaits calls bodies).auth.respond sampleEnvironment sampleJwt request "session-2" 0
        bodies := bodies ++ [body] } := .response body 0 request "session-2" 0 hRequest
  rwa [hRespond] at hStep

theorem step_bobServed (body : Jwe) (request : AuthRequest) :
    (bobChecked calls bodies body request).Step sampleConfig sampleJwt (.auth (.update calls.length))
      (bobServed calls bodies body request) :=
  .auth (.update calls.length) _ rfl (.update calls [] request bobSession "session-2" answered rfl)

end

theorem requestOf_authenticate {body : Jwe} {from_ : Option String} {challenge : String}
    {layers : List (Layer sampleConfig.crates)}
    (h : Opens sampleConfig.crates sampleConfig.dids sampleConfig.mediatorSecrets {} (inboundText sampleConfig body)
      layers (authenticateMessage from_ challenge) none) :
    requestOf sampleConfig 0 body = .ok ⟨from_, ⟨challenge, "session-1"⟩⟩ := by
  obtain ⟨unpacked, hRun, -⟩ := (unpackString_ok_iff _ _ _ _ _ _ _ _).mpr ⟨layers, none, h, rfl, rfl⟩
  exact requestOf_ok_iff.mpr ⟨_, _, unpacked, hRun, rfl⟩

/-- The call of somebody else who has answered for bob's session in their own name. -/
def malloryRefused : AuthCall :=
  .failed (.sessionError "session-1"
    "DID (did:example:mallory) from authorization message does not match DID from session")

theorem step_malloryRefused {body : Jwe}
    (hRequest : requestOf sampleConfig 0 body = .ok ⟨some "did:example:mallory", ⟨"challenge-1", "session-1"⟩⟩) :
    (bobWaits [] []).Step sampleConfig sampleJwt (.response body 0 "session-2" 0)
      (bobWaits [malloryRefused] [body]) :=
  .response body 0 _ "session-2" 0 hRequest

theorem opens_answer {sender : String} (h : '#' ∉ sender.toList) : ∃ (body : Jwe) (layers : List (Layer (ideal id))),
    Opens sampleConfig.crates sampleConfig.dids sampleConfig.mediatorSecrets {} (inboundText sampleConfig body) layers
      (authenticateMessage (some sender) "challenge-1") none ∧
    InOwnName layers (authenticateMessage (some sender) "challenge-1") := by
  obtain ⟨jwe, -, hOpens⟩ := opens_authcrypted_message id bobService {} rfl
    (parseEnvelope_authenticate (some sender) "challenge-1") rfl rfl (by decide) h
    (by decide : '#' ∉ "did:example:mediator".toList)
  exact ⟨jwe.jwe, _, hOpens, sender, rfl, _, List.mem_singleton_self _, _, rfl,
    congrArg Prod.fst (didOrUrl_agreeKid h)⟩

/-- Mallory asks for bob's tokens in her own name, and then bob does. -/
theorem tokens_due_bob : ∃ s,
    ((exchange sampleConfig sampleJwt).restrict (Exchange.InGoodFaith sampleConfig)).Reachable s ∧
      s.auth.calls = [malloryRefused, .returned answer bobSession answered] ∧
      s.Authenticated sampleConfig sampleJwt := by
  obtain ⟨mallory, _, hMallory, hMalloryNamed⟩ := opens_answer (by decide : '#' ∉ "did:example:mallory".toList)
  obtain ⟨bob, _, hBob, hBobNamed⟩ := opens_answer (by decide : '#' ∉ "did:example:bob".toList)
  have hWaits : ((exchange sampleConfig sampleJwt).restrict (Exchange.InGoodFaith sampleConfig)).Reachable
      (bobWaits [] []) := .step (.init rfl) ⟨Exchange.inGoodFaith_auth _ _, step_bobWaits⟩
  have hRefused := hWaits.step
    ⟨Exchange.inGoodFaith_of_opens hMallory rfl rfl hMalloryNamed 0 "session-2" 0,
      step_malloryRefused (requestOf_authenticate hMallory)⟩
  have hChecked := hRefused.step
    ⟨Exchange.inGoodFaith_of_opens hBob rfl rfl hBobNamed 0 "session-2" 0,
      step_bobChecked _ _ (requestOf_authenticate hBob) (.inr rfl) rfl⟩
  have hReturned := hChecked.step ⟨Exchange.inGoodFaith_auth _ _, step_bobServed _ _ _ _⟩
  exact ⟨_, hReturned, rfl, tokens_due _ _ _ hReturned⟩

/-- Bob's tokens for somebody who has encrypted a guess in nobody's name. -/
theorem tokens_not_due : ∃ s body metadata unpacked, (exchange sampleConfig sampleJwt).Reachable s ∧
    s.auth.calls = [.returned ⟨none, ⟨"guess", "session-1"⟩⟩ bobSession answered] ∧ s.bodies = [body] ∧
    Message.unpackString sampleConfig.crates sampleConfig.dids sampleConfig.mediatorSecrets {}
      (inboundText sampleConfig body) (.fresh _) = .ok (authenticateMessage none "guess", metadata) unpacked ∧
    metadata.authenticated = false ∧ ¬ s.Authenticated sampleConfig sampleJwt := by
  obtain ⟨jwe, hOpens⟩ := opens_anoncrypted_message id bobService {} rfl
    (parseEnvelope_authenticate none "guess") rfl rfl (by decide) rfl (by decide : '#' ∉ "did:example:mediator".toList)
  obtain ⟨unpacked, hRun, -⟩ := (unpackString_ok_iff _ _ _ _ _ _ _ _).mpr ⟨_, none, hOpens, rfl, rfl⟩
  have hWaits : (exchange sampleConfig sampleJwt).Reachable (bobWaits [] []) := .step (.init rfl) step_bobWaits
  have hChecked := hWaits.step (step_bobChecked _ _ (requestOf_authenticate hOpens) (.inl rfl) rfl)
  refine ⟨_, jwe.jwe, _, unpacked, hChecked.step (step_bobServed _ _ _ _), rfl, rfl, hRun, rfl,
    fun hAuthenticated => ?_⟩
  obtain ⟨body, hBody, m, metadata, unpacked', hRun', -, ⟨given, hGiven, hSame⟩, -⟩ := hAuthenticated 0 _ _ _ rfl
  cases hBody
  obtain ⟨hUnpacked, -⟩ := EStateM.Result.ok.inj (hRun.symm.trans hRun')
  obtain rfl : authenticateMessage none "guess" = m := congrArg Prod.fst hUnpacked
  cases hGiven
  exact absurd hSame (by decide)

end AffinidiMessaging.Mediator
