import AffinidiMessaging.Mediator.JwtAuth
import AffinidiMessaging.Sdk.Authentication
import AffinidiMessaging.Sdk.Rest

/-! # A session of the SDK

`authenticate` asks for a challenge, answers it and keeps the tokens that it is given. Every later request has the
access token with it, also when that has expired: the SDK never authenticates again, and never uses the refresh token.
-/

namespace AffinidiMessaging.Sdk

open Redis Fallible Serde Didcomm Mediator

namespace Rest

/-! ## The bodies -/

def ChallengeBody.ofJson (j : Json) : Option ChallengeBody := do
  let get ← record ["did"] j
  let did ← required Json.asStr (get "did")
  return { did }

/-- The body that `authenticate` writes by hand. -/
def challengeText (did : String) : String := "\x7b\"did\": \"" ++ did ++ "\"\x7d"

/-- A struct of two texts. -/
def twoTexts {α : Type} (name name' : String) (hNames : name ≠ name') (make : String → String → α)
    (first second : α → String)
    (hMake : ∀ a, make (first a) (second a) = a) : Wire.Fields α where
  names := [name, name']
  fields a := [(name, some (Wire.string.write (first a))), (name', some (Wire.string.write (second a)))]
  get g := do
    let text ← required Wire.string.read (g name)
    let text' ← required Wire.string.read (g name')
    return make text text'
  Fits _ := True
  depth := 0
  names_fields _ := rfl
  nodup := by simp [hNames]
  get_fields a _ := by
    have hSecond : (name' == name) = false := beq_eq_false_iff_ne.mpr hNames.symm
    simp only [List.lookup_cons, beq_self_eq_true, hSecond, Option.join_some]
    exact congrArg some (hMake a)
  plain a := by
    simp only [List.forall_mem_cons]
    exact ⟨Wire.string.plain_some _ le_rfl, Wire.string.plain_some _ le_rfl, by simp⟩

def challengeFields : Wire.Fields AuthenticationChallenge :=
  twoTexts "challenge" "session_id" (by decide) .mk (·.challenge) (·.sessionId) fun _ => rfl

def tokensFields : Wire.Fields AuthorizationResponse :=
  twoTexts "access_token" "refresh_token" (by decide) .mk (·.accessToken) (·.refreshToken) fun _ => rfl

/-! ## The mediator -/

/-- The mediator as it answers those who authenticate. -/
structure AuthServer where
  config : Config
  jwt : JwtEncoding
  decoding : JwtDecoding
  rejection : String → HttpResponse

/-- What is drawn at random and read from clocks on both sides. -/
structure AuthDraws (crates : Crates) where
  sessionId : String
  challenge : String
  newSessionId : String
  messageId : String
  pack : Message.PackDraws crates
  /-- The clock of the SDK. -/
  now : UInt64
  /-- The clock of the mediator, when it reads the message and when it makes the tokens. -/
  arrived : UInt64
  time : Nat

section
variable (server : AuthServer) (draws : AuthDraws server.config.crates)

/-- POST /authenticate/challenge -/
def challengeAnswer (body : String) (db : Db) : HttpResponse × Db :=
  match (server.config.crates.jsonFromStr body).bind ChallengeBody.ofJson with
  | none => (server.rejection body, db)
  | some body =>
    let handler := authenticationChallenge server.config.env draws.sessionId draws.challenge body
    (answer server.config.crates (Wire.object challengeFields) draws.sessionId (Fallible.outcome handler db),
      stateAfter handler db)

/-- POST /authenticate; a panic ends the connection without an answer. -/
def responseAnswer (body : String) (db : Db) : Option HttpResponse × Db :=
  match (server.config.crates.jsonFromStr body).bind Jwe.ofJson with
  | none => (some (server.rejection body), db)
  | some body =>
    match requestOf server.config draws.arrived body with
    | .ok request =>
      let handler := authenticationResponse server.config.env server.jwt request draws.newSessionId draws.time
      (some (answer server.config.crates (Wire.object tokensFields) draws.newSessionId (Fallible.outcome handler db)),
        stateAfter handler db)
    | .error (.handler (.error e)) =>
      (some (answer server.config.crates (Wire.object tokensFields) draws.newSessionId (.error e)), db)
    | .error _ => (none, db)

/-- The answer to a request that the extractor of the session refuses; `json!` sorts its fields. -/
def authError (crates : Crates) (e : AuthError) : HttpResponse :=
  let (status, message) : StatusCode × String := match e with
    | .wrongCredentials => (.unauthorized, "Wrong credentials")
    | .missingCredentials => (.badRequest, "Missing credentials")
    | .invalidToken => (.badRequest, "Invalid token")
    | .internalServerError text => (.internalServerError, "Internal Server Error: " ++ text)
  ⟨status, crates.jsonToString (errorJson ⟨"UNAUTHORIZED", status.asU16, status.asU16, status.text, message⟩).toValue⟩

end

/-! ## The SDK -/

/-- What `ATM` keeps of its authentication. -/
structure Atm where
  authenticated : Bool := false
  jwtTokens : Option AuthorizationResponse := none

/-- The configuration of the SDK, and the texts of the libraries for what fails. -/
structure Client where
  dids : AtmDids
  secrets : SecretsResolver
  debug : Didcomm.Fault → String
  unreadable : String → String
  dropped : String

/-- The state of the SDK and the database of the mediator. -/
abbrev AtmCall := EStateM Rest.Fault (Atm × Db)

def onServer {α : Type} (x : Db → α × Db) : AtmCall α := fun s => .ok (x s.2).1 (s.1, (x s.2).2)

def onDatabase {α : Type} (x : Call α) : AtmCall α := fun s =>
  match x s.2 with
  | .ok a db => .ok a (s.1, db)
  | .error e db => .error e (s.1, db)

def orSendError {α : Type} : Except SendError α → Except Rest.Fault α
  | .ok a => .ok a
  | .error (.configError text) => .error (.returned (.configError text))
  | .error (.msgSendError text) => .error (.returned (.msgSendError text))

/-- The data of an answer, and what the SDK says if there are none. -/
def readData {β : Type} (crates : Crates) (w : Wire β) (failed missing : String) (unreadable : String → Rest.Fault)
    (response : HttpResponse) : Except Rest.Fault β :=
  if !response.status.isSuccess then .error (.returned (.authenticationError failed))
  else
    match (crates.jsonFromStr response.body).bind (Wire.object (successResponseFields w)).read with
    | none => .error (unreadable response.body)
    | some body => okOr body.data (.returned (.authenticationError missing))

section
variable (server : AuthServer) (client : Client)

def readChallenge : HttpResponse → Except Rest.Fault AuthenticationChallenge :=
  readData server.config.crates (Wire.object challengeFields) "Failed to get authentication challenge"
    "No challenge received from ATM" fun _ => .panic

def readTokens : HttpResponse → Except Rest.Fault AuthorizationResponse :=
  readData server.config.crates (Wire.object tokensFields) "Failed to get authentication response"
    "No tokens received from ATM" fun body =>
      .returned (.authenticationError ("Couldn't deserialize AuthorizationResponse: " ++ client.unreadable body))

def authenticate (draws : AuthDraws server.config.crates) : AtmCall AuthorizationResponse := do
  let s ← MonadState.get
  if s.1.authenticated then
    liftM (okOr s.1.jwtTokens (Rest.Fault.returned (.authenticationError "Authenticated but no tokens found")))
  else do
    let (myDid, _) ← liftM (orSendError client.dids.dids)
    let res ← onServer (challengeAnswer server draws (challengeText myDid))
    let challenge ← liftM (readChallenge server res)
    let (authMsg, _) ← liftM (orSendError
      (answerChallenge server.config.crates server.config.dids client.secrets client.debug
      client.dids draws.messageId draws.now draws.pack challenge))
    let res ← onServer (responseAnswer server draws authMsg)
    let res ← liftM (okOr res (Rest.Fault.returned
      (.transportError ("Could not post authentication response: " ++ client.dropped))))
    let tokens ← liftM (readTokens server client res)
    modify fun s => (⟨true, some tokens⟩, s.2)
    return tokens

/-- A request to a protected route at some time of the mediator. -/
def request {β : Type} (draws : AuthDraws server.config.crates) (now : Nat) (address : String) (w : Wire β)
    (call : Common.Session → Call β) : AtmCall β := do
  let tokens ← authenticate server client draws
  match sessionFromRequest server.config.env server.decoding now (some address) (some tokens.accessToken) with
  | .ok session => onDatabase (call session)
  | .error e => liftM (readAnswer server.config.crates w (authError server.config.crates e))

end

/-! ## The first authentication -/

section
variable {server : AuthServer} {client : Client} {draws : AuthDraws server.config.crates}
  {hasPrivate : {curve : Curve} → server.config.crates.KeyPair curve → Prop}
  {reread : Int → Int → Int × Int} {limit : ℕ∞} (laws : Lawful server.config.crates hasPrivate reread limit)
include laws

theorem readData_answer {β : Type} (f : Wire.Fields β) (hDepth : f.depth + 2 ≤ recursionLimit)
    (sessionId : String) {data : β}
    (hFits : f.Fits data) (failed missing : String) (unreadable : String → Rest.Fault) :
    readData server.config.crates (Wire.object f) failed missing unreadable
      (answer server.config.crates (Wire.object f) sessionId (.ok data)) = .ok data := by
  have hRead := read_success laws (Wire.object f) hDepth sessionId hFits nofun
  rw [readData, hRead]
  rfl

theorem readChallenge_challengeAnswer {did : String} (hRaw : server.config.crates.jsonFromStr (challengeText did) =
      some (.obj [("did", .str did)])) {db db₁ : Db}
    (hCreated : DatabaseHandler.createSession server.config.env
      ⟨draws.sessionId, draws.challenge, .challengeSent, did⟩ db = .ok () db₁) :
    readChallenge server (challengeAnswer server draws (challengeText did) db).1 =
      .ok ⟨draws.challenge, draws.sessionId⟩ ∧ (challengeAnswer server draws (challengeText did) db).2 = db₁ := by
  have hHandler : authenticationChallenge server.config.env draws.sessionId draws.challenge ⟨did⟩ db =
      .ok ⟨draws.challenge, draws.sessionId⟩ db₁ := bind_of_ok hCreated
  have hAnswer : challengeAnswer server draws (challengeText did) db =
      (answer server.config.crates (Wire.object challengeFields) draws.sessionId
        (.ok ⟨draws.challenge, draws.sessionId⟩), db₁) := by
    rw [challengeAnswer, hRaw]
    have hBody : ChallengeBody.ofJson (.obj [("did", .str did)]) = some ⟨did⟩ := rfl
    rw [Option.bind_some, hBody]
    dsimp only
    rw [outcome_of_ok hHandler, stateAfter_of_ok hHandler]
  rw [hAnswer]
  exact ⟨readData_answer laws _ (by decide) _ trivial _ _ _, rfl⟩

/-- The answer that the SDK posts in time gets it the tokens. -/
theorem readTokens_responseAnswer (hLookup : LooksUp server.config.crates)
    (hUrls : OwnUrls server.config.crates server.config.dids)
    (hOwn : OwnSecrets server.config.crates server.config.dids client.secrets) {myDid atmDid : String}
    (hDids : client.dids.dids = .ok (myDid, atmDid)) {packed : String × PackEncryptedMetadata}
    (hAnswer : answerChallenge server.config.crates server.config.dids client.secrets client.debug client.dids
      draws.messageId draws.now draws.pack ⟨draws.challenge, draws.sessionId⟩ = .ok packed)
    (hService : packed.2.messagingService = none)
    (hHolds : HoldsSecret server.config.crates hasPrivate server.config.dids server.config.mediatorSecrets
      packed.2.toKids)
    (hFresh : draws.arrived < draws.now + 60) {tokens : AuthorizationResponse}
    (hTokens : createTokens server.jwt draws.time ⟨draws.newSessionId, draws.challenge, .challengeSent,
      myDid⟩ = .ok tokens)
    {db db' : Db} (hSession : DatabaseHandler.getSession server.config.env draws.sessionId db =
      .ok ⟨draws.sessionId, draws.challenge, .challengeSent, myDid⟩ db)
    (hRun : DatabaseHandler.updateSessionAuthenticated server.config.env draws.sessionId draws.newSessionId
      db = .ok () db') :
    ∃ response, responseAnswer server draws packed.1 db = (some response, db') ∧
      readTokens server client response = .ok tokens := by
  obtain ⟨jwe, hText⟩ : ∃ jwe : Jwe, packed.1 = server.config.crates.jsonToString jwe.toJson := by
    simp only [answerChallenge, except_bind_ok_iff] at hAnswer
    obtain ⟨_, -, m, -, hPack⟩ := hAnswer
    split at hPack
    · next hPacked =>
      cases hPack
      exact packEncrypted_text hPacked hService
    · cases hPack
  have hBody : (server.config.crates.jsonFromStr packed.1).bind Jwe.ofJson = some jwe := by
    rw [hText, laws.read_written jwe.floatless_toJson (jwe.depth_toJson.trans (by decide)), Option.bind_some,
      Jwe.ofJson_toJson]
  have hRequest := requestOf_answer laws hLookup hUrls hOwn hDids hAnswer hService hHolds hBody hFresh
  have hHandler : authenticationResponse server.config.env server.jwt ⟨some myDid, ⟨draws.challenge, draws.sessionId⟩⟩
      draws.newSessionId draws.time db = .ok tokens db' := by
    have hChecked := (authenticationChecked_ok_iff server.config.env server.jwt
      ⟨some myDid, ⟨draws.challenge, draws.sessionId⟩⟩
      draws.newSessionId draws.time db db ⟨draws.sessionId, draws.challenge, .challengeSent, myDid⟩ tokens).mpr
        ⟨hSession, (checkSession_ok_iff _ _).mpr ⟨fun _ h => (Option.some.inj h).symm, rfl⟩, hTokens, rfl⟩
    rw [authenticationResponse, bind_of_ok hChecked]
    exact bind_of_ok hRun
  refine ⟨_, ?_, readData_answer laws tokensFields (by decide) draws.newSessionId trivial _ _ _⟩
  rw [responseAnswer, hBody]
  dsimp only
  rw [hRequest]
  dsimp only
  rw [outcome_of_ok hHandler, stateAfter_of_ok hHandler]

/-- The SDK authenticates with a mediator whose database takes its two calls. -/
theorem authenticate_first (hLookup : LooksUp server.config.crates)
    (hUrls : OwnUrls server.config.crates server.config.dids)
    (hOwn : OwnSecrets server.config.crates server.config.dids client.secrets) {myDid atmDid : String}
    (hDids : client.dids.dids = .ok (myDid, atmDid))
    (hRaw : server.config.crates.jsonFromStr (challengeText myDid) = some (.obj [("did", .str myDid)]))
    {db db₁ : Db} (hSessions : Sessions (fun _ _ => True) db)
    (hCreated : DatabaseHandler.createSession server.config.env
      ⟨draws.sessionId, draws.challenge, .challengeSent, myDid⟩ db = .ok () db₁)
    {packed : String × PackEncryptedMetadata}
    (hAnswer : answerChallenge server.config.crates server.config.dids client.secrets client.debug client.dids
      draws.messageId draws.now draws.pack ⟨draws.challenge, draws.sessionId⟩ = .ok packed)
    (hService : packed.2.messagingService = none)
    (hHolds : HoldsSecret server.config.crates hasPrivate server.config.dids server.config.mediatorSecrets
      packed.2.toKids)
    (hFresh : draws.arrived < draws.now + 60) {tokens : AuthorizationResponse}
    (hTokens : createTokens server.jwt draws.time ⟨draws.newSessionId, draws.challenge, .challengeSent,
      myDid⟩ = .ok tokens)
    (hCounts : accepts (hincrby .global "SESSIONS_SUCCESS" "1") db₁ = true) :
    ∃ db', authenticate server client draws ({}, db) = .ok tokens (⟨true, some tokens⟩, db') ∧
      DatabaseHandler.getSession server.config.env draws.newSessionId db' =
        .ok ⟨draws.newSessionId, draws.challenge, .authenticated, myDid⟩ db' := by
  obtain ⟨fields, hRecord⟩ := createSession_record server.config.env hSessions
    ⟨draws.sessionId, draws.challenge, .challengeSent, myDid⟩
  rw [stateAfter_of_ok hCreated] at hRecord
  obtain ⟨db', hRun, hAuthenticated⟩ := authenticate_ok server.config.env draws.newSessionId hRecord hCounts
  obtain ⟨hChallenge, hDb⟩ := readChallenge_challengeAnswer laws hRaw hCreated
  obtain ⟨response, hResponse, hRead⟩ :=
    readTokens_responseAnswer laws hLookup hUrls hOwn hDids hAnswer hService hHolds hFresh
    hTokens (getSession_recorded hRecord) hRun
  refine ⟨db', ?_, hAuthenticated⟩
  have hOwnDid : (liftM (orSendError client.dids.dids) : AtmCall (String × String)) ({}, db) = .ok (myDid, atmDid)
      ({}, db) := by
    rw [hDids]
    rfl
  have hAsked : onServer (challengeAnswer server draws (challengeText myDid)) (({} : Atm), db) =
      .ok (challengeAnswer server draws (challengeText myDid) db).1 ({}, db₁) := by
    rw [onServer, hDb]
  have hGiven : (liftM (readChallenge server (challengeAnswer server draws (challengeText myDid) db).1) :
      AtmCall AuthenticationChallenge) ({}, db₁) = .ok ⟨draws.challenge, draws.sessionId⟩ ({}, db₁) := by
    rw [hChallenge]
    rfl
  have hPacked : (liftM (orSendError
      (answerChallenge server.config.crates server.config.dids client.secrets client.debug
      client.dids draws.messageId draws.now draws.pack ⟨draws.challenge, draws.sessionId⟩)) :
      AtmCall (String × PackEncryptedMetadata)) ({}, db₁) = .ok packed ({}, db₁) := by
    rw [hAnswer]
    rfl
  have hPosted : onServer (responseAnswer server draws packed.1) (({} : Atm), db₁) = .ok (some response) ({}, db') := by
    rw [onServer, hResponse]
  have hTaken : (liftM (readTokens server client response) : AtmCall AuthorizationResponse) ({}, db') =
      .ok tokens ({}, db') := by
    rw [hRead]
    rfl
  rw [authenticate, get_bind_run, if_neg (by decide : ¬ ({} : Atm).authenticated = true), bind_of_ok hOwnDid]
  dsimp only
  rw [bind_of_ok hAsked, bind_of_ok hGiven, bind_of_ok hPacked, bind_of_ok hPosted]
  exact bind_of_ok hTaken

end

/-! ## The session -/

/-- The SDK is served with the session up to a second, and is refused from then on, whenever and however often it asks.
-/
structure ServedUntil (server : AuthServer) (client : Client) (atm : Atm) (tokens : AuthorizationResponse)
    (session : Common.Session) (last : Nat) : Prop where
  again : ∀ draws db, authenticate server client draws (atm, db) = .ok tokens (atm, db)
  served : ∀ {β : Type} draws now address (w : Wire β) call db, now ≤ last →
    request server client draws now address w call (atm, db) = onDatabase (call session) (atm, db)
  refused : ∀ {β : Type} draws now address (w : Wire β) call db, last < now →
    request server client draws now address w call (atm, db) =
      .error (.returned (.transportError ("Status not successful. status(400 Bad Request), response(" ++
        (authError server.config.crates .invalidToken).body ++ ")"))) (atm, db)

theorem servedUntil_expiry {server : AuthServer} {client : Client} {encode : SessionClaims → Except String String}
    {decode : Validation → (now : Nat) → String → Except String SessionClaims} (hJwt : TokenLaws encode decode)
    (hDecoding : server.decoding = some decode) {time : Nat} {session : Session} {tokens : AuthorizationResponse}
    (hTokens : createTokens (some encode) time session = .ok tokens) :
    ServedUntil server client ⟨true, some tokens⟩ tokens
      { sessionId := session.sessionId, did := session.did, didHash := server.config.env.digest session.did }
      (time + 900 + 60) := by
  have hAgain : ∀ draws db, authenticate server client draws (⟨true, some tokens⟩, db) =
    .ok tokens (⟨true, some tokens⟩, db) :=
    fun _ _ => rfl
  have hAccess := (createTokens_ok_iff.mp hTokens).1
  refine ⟨hAgain, fun draws now address w call db hNow => ?_, fun draws now address w call db hNow => ?_⟩
  · have hClaims := (hJwt.decode_ok_iff sessionValidation now tokens.accessToken (claimsAt session (time + 900))).mpr
      ⟨hAccess, by simp [claimsAt, sessionValidation], hNow⟩
    have hSession : sessionFromRequest server.config.env server.decoding now (some address) (some tokens.accessToken) =
        .ok { sessionId := session.sessionId, did := session.did,
              didHash := server.config.env.digest session.did } := by
      rw [hDecoding]
      simp only [sessionFromRequest, okOr, bind, Except.bind, hClaims]
      rfl
    rw [request, bind_of_ok (hAgain draws db), hSession]
  · have hSession : sessionFromRequest server.config.env server.decoding now (some address) (some tokens.accessToken) =
        .error .invalidToken := by
      rw [hDecoding]
      simp only [sessionFromRequest, okOr, bind, Except.bind]
      cases hClaims : decode sessionValidation now tokens.accessToken with
      | error e => rfl
      | ok claims =>
        obtain ⟨hEncode, -, hExp⟩ := (hJwt.decode_ok_iff _ _ _ _).mp hClaims
        obtain rfl := hJwt.encode_injective hAccess hEncode
        exact absurd hExp (Nat.not_le.mpr hNow)
    rw [request, bind_of_ok (hAgain draws db), hSession]
    rfl

/-- The SDK authenticates once: a mediator whose database works gives it tokens and an authenticated session. For a
quarter of an hour and the minute of leeway every request is served with that session; after that every request is
refused, although the SDK authenticates before each of them. -/
theorem served_until_expiry {server : AuthServer} {client : Client} {draws : AuthDraws server.config.crates}
    {hasPrivate : {curve : Curve} → server.config.crates.KeyPair curve → Prop}
    {reread : Int → Int → Int × Int} {limit : ℕ∞}
    (laws : Lawful server.config.crates hasPrivate reread limit) {encode : SessionClaims → Except String String}
    {decode : Validation → (now : Nat) → String → Except String SessionClaims} (hJwt : TokenLaws encode decode)
    (hEncoding : server.jwt = some encode) (hDecoding : server.decoding = some decode)
    (hLookup : LooksUp server.config.crates) (hUrls : OwnUrls server.config.crates server.config.dids)
    (hOwn : OwnSecrets server.config.crates server.config.dids client.secrets) {myDid atmDid : String}
    (hDids : client.dids.dids = .ok (myDid, atmDid))
    (hRaw : server.config.crates.jsonFromStr (challengeText myDid) = some (.obj [("did", .str myDid)]))
    {db db₁ : Db} (hSessions : Sessions (fun _ _ => True) db)
    (hCreated : DatabaseHandler.createSession server.config.env
      ⟨draws.sessionId, draws.challenge, .challengeSent, myDid⟩ db = .ok () db₁)
    {packed : String × PackEncryptedMetadata}
    (hAnswer : answerChallenge server.config.crates server.config.dids client.secrets client.debug client.dids
      draws.messageId draws.now draws.pack ⟨draws.challenge, draws.sessionId⟩ = .ok packed)
    (hService : packed.2.messagingService = none)
    (hHolds : HoldsSecret server.config.crates hasPrivate server.config.dids server.config.mediatorSecrets
      packed.2.toKids)
    (hFresh : draws.arrived < draws.now + 60) {tokens : AuthorizationResponse}
    (hTokens : createTokens (some encode) draws.time
      ⟨draws.newSessionId, draws.challenge, .challengeSent, myDid⟩ = .ok tokens)
    (hCounts : accepts (hincrby .global "SESSIONS_SUCCESS" "1") db₁ = true) :
    ∃ db', authenticate server client draws ({}, db) = .ok tokens (⟨true, some tokens⟩, db') ∧
      DatabaseHandler.getSession server.config.env draws.newSessionId db' =
        .ok ⟨draws.newSessionId, draws.challenge, .authenticated, myDid⟩ db' ∧
      ServedUntil server client ⟨true, some tokens⟩ tokens (.authenticated server.config.env draws.newSessionId myDid)
        (draws.time + 900 + 60) := by
  obtain ⟨db', hRun, hSession⟩ :=
    authenticate_first laws hLookup hUrls hOwn hDids hRaw hSessions hCreated hAnswer hService hHolds
    hFresh (hEncoding ▸ hTokens) hCounts
  exact ⟨db', hRun, hSession, servedUntil_expiry hJwt hDecoding hTokens⟩

/-! ## An example -/

def bobServer : AuthServer := ⟨quietConfig, some plainEncode, some plainDecode, fun _ => ⟨.badRequest, ""⟩⟩

def bobClient : Client := ⟨bobSdk, secretsOf "did:example:bob", fun _ => "", id, ""⟩

def bobAuthDraws : AuthDraws quietConfig.crates :=
    ⟨"session-1", "challenge-1", "session-2", "1", sampleDraws, 0, 0, 1000⟩

/-- The body that is written by hand is the object it looks like. -/
theorem challengeText_bob : (ideal id).jsonFromStr (challengeText "did:example:bob") =
    some (.obj [("did", .str "did:example:bob")]) := by
  have hWritten : (JsonText.read (challengeText "did:example:bob")).map JsonText.write =
      some (JsonText.write (.obj [("did", .str "did:example:bob")])) := by decide +kernel
  obtain ⟨j, hRead, hSame⟩ := Option.map_eq_some_iff.mp hWritten
  have hBack := congrArg JsonText.read hSame
  rw [JsonText.read_write, JsonText.read_write] at hBack
  simp only [ideal]
  exact hRead.trans hBack

theorem served_until_expiry_bob : ∃ db',
    authenticate bobServer bobClient bobAuthDraws ({}, fun _ => none) = .ok bobTokens (⟨true, some bobTokens⟩, db') ∧
      DatabaseHandler.getSession sampleEnvironment "session-2" db' =
        .ok ⟨"session-2", "challenge-1", .authenticated, "did:example:bob"⟩ db' ∧
      ServedUntil bobServer bobClient ⟨true, some bobTokens⟩ bobTokens
        (.authenticated sampleEnvironment "session-2" "did:example:bob") 1960 := by
  obtain ⟨packed, hAnswer, hService, hKids, -⟩ := answerChallenge_bob
  have hBob : '#' ∉ "did:example:bob".toList := by decide
  have hHolds : HoldsSecret (ideal id) (fun _ => True) (everyDid fun _ => []) (secretsOf "did:example:mediator")
      packed.2.toKids := by
    rw [hKids]
    exact everyDid_holdsSecret id _ (by decide)
  have hUrls : OwnUrls quietConfig.crates quietConfig.dids := everyDid_ownUrls id fun _ => []
  have hOwn : OwnSecrets quietConfig.crates quietConfig.dids (secretsOf "did:example:bob") :=
    everyDid_ownSecrets id (fun _ => []) hBob
  have hFresh : (0 : UInt64) < 0 + 60 := by decide
  have hNone : Sessions (fun _ _ => True) fun _ => none := fun _ _ h => by cases h
  obtain ⟨db₁, hCreated, hCounts⟩ : ∃ db₁, DatabaseHandler.createSession sampleEnvironment
      ⟨"session-1", "challenge-1", .challengeSent, "did:example:bob"⟩ (fun _ => none) = .ok () db₁ ∧
        accepts (hincrby .global "SESSIONS_SUCCESS" "1") db₁ = true := ⟨_, rfl, rfl⟩
  exact @served_until_expiry bobServer bobClient bobAuthDraws _ _ _ (ideal_lawful id) _ _ plain_laws rfl rfl
    (ideal_looksUp id)
    hUrls hOwn _ _ rfl challengeText_bob _ _ hNone hCreated _ hAnswer hService hHolds hFresh _ rfl hCounts

end Rest

end AffinidiMessaging.Sdk
