import AffinidiMessaging.Library.Transition
import AffinidiMessaging.Mediator.Conservation
import AffinidiMessaging.Mediator.Session

/-! # Authentication with a challenge

`authentication_challenge` makes a session; `authentication_response` reads it, checks it and makes
it an authenticated one. Reading and making are two calls of the database, with the calls of others
in between.
-/

namespace AffinidiMessaging.Mediator

open Redis Fallible Transition

structure ChallengeBody where
  did : String

structure AuthenticationChallenge where
  challenge : String
  sessionId : String
deriving DecidableEq

structure SessionClaims where
  aud : String
  sub : String
  sessionId : String
  exp : Nat
deriving DecidableEq

structure AuthorizationResponse where
  accessToken : String
  refreshToken : String
deriving DecidableEq

/-- What a response brings along once its message is unpacked and read. -/
structure AuthRequest where
  from_ : Option String
  challenge : AuthenticationChallenge
deriving DecidableEq

/-- The signing of claims as a JWT, when the mediator has a key for that. -/
abbrev JwtEncoding := Option (SessionClaims → Except String String)

section
variable (env : Environment)

/-- The session id and the challenge are random strings. -/
def authenticationChallenge (sessionId challenge : String) (body : ChallengeBody) :
    Handler AuthenticationChallenge := do
  DatabaseHandler.createSession env ⟨sessionId, challenge, .challengeSent, body.did⟩
  return ⟨challenge, sessionId⟩

def checkSession (request : AuthRequest) (session : Session) : Except MediatorError Unit := do
  match request.from_ with
  | some fromDid =>
    if fromDid ≠ session.did then
      throw (.sessionError request.challenge.sessionId
        ("DID (" ++ fromDid ++ ") from authorization message does not match DID from session"))
  | none => pure ()
  if session.state ≠ .challengeSent then
    throw (.sessionError session.sessionId "Session is in an invalid state for authentication")

def encodeToken (encode : SessionClaims → Except String String) (name : String)
    (claims : SessionClaims) : Except MediatorError String :=
  match encode claims with
  | .ok token => .ok token
  | .error e => .error (.internalError "UNKNOWN" ("Couldn't encode " ++ name ++ " token. Reason: " ++ e))

def createTokens (jwt : JwtEncoding) (now : Nat) (session : Session) :
    Except MediatorError AuthorizationResponse := do
  let accessClaims : SessionClaims :=
    { aud := "ATM", sub := session.did, sessionId := session.sessionId, exp := now + 900 }
  let refreshClaims := { accessClaims with exp := accessClaims.exp + 85500 }
  match jwt with
  | some encode =>
    let accessToken ← encodeToken encode "access" accessClaims
    let refreshToken ← encodeToken encode "refresh" refreshClaims
    return { accessToken, refreshToken }
  | none => throw (.internalError "NA" "JWT Encoding Key not found")

/-- `authentication_response` from the session on, up to its transaction; the new session id is a
random string. -/
def authenticationChecked (jwt : JwtEncoding) (request : AuthRequest) (newSessionId : String)
    (now : Nat) : Handler (Session × AuthorizationResponse) := do
  let session ← DatabaseHandler.getSession env request.challenge.sessionId
  liftM (checkSession request session)
  let response ← liftM (createTokens jwt now { session with sessionId := newSessionId })
  return (session, response)

def authenticationResponse (jwt : JwtEncoding) (request : AuthRequest) (newSessionId : String)
    (now : Nat) : Handler AuthorizationResponse := do
  let (session, response) ← authenticationChecked env jwt request newSessionId now
  DatabaseHandler.updateSessionAuthenticated env session.sessionId newSessionId
  return response

end

/-- Where a call of `authentication_response` is. -/
inductive AuthCall
  /-- Before its transaction. -/
  | checked (request : AuthRequest) (session : Session) (newSessionId : String)
    (response : AuthorizationResponse)
  | returned (request : AuthRequest) (session : Session) (response : AuthorizationResponse)
  | failed (error : MediatorError)
deriving DecidableEq

structure Authentication where
  db : Db
  calls : List AuthCall
  /-- The session ids that `create_random_string` gave, the last one first. Not kept by the code. -/
  drawn : List String

inductive AuthEvent
  | challenge (sessionId challenge : String) (body : ChallengeBody)
  | response (request : AuthRequest) (newSessionId : String) (now : Nat)
  | update (call : Nat)
  | expire (sessionId : String)
  | other (db : Db)

namespace AuthCall

def outcome (request : AuthRequest) (session : Session) (response : AuthorizationResponse) :
    EStateM.Result MediatorError Db Unit → AuthCall
  | .ok _ _ => .returned request session response
  | .error e _ => .failed e

def isReturned : AuthCall → Bool
  | .returned .. => true
  | _ => false

/-- The call returned tokens for the session with this id. -/
def returnedFor (sid : String) : AuthCall → Bool
  | .returned _ session _ => session.sessionId = sid
  | _ => false

/-- The call is about to give a session this id. -/
def awaits (sid : String) : AuthCall → Bool
  | .checked _ _ newSessionId _ => newSessionId = sid
  | _ => false

end AuthCall

/-- Everything else that happens to the database: no session and not the counter. -/
def Unrelated (db db' : Db) : Prop :=
  (∀ sid, db' (.session sid) = db (.session sid)) ∧
    field db' .global "SESSIONS_SUCCESS" = field db .global "SESSIONS_SUCCESS"

namespace Authentication

def start : Authentication := { db := fun _ => none, calls := [], drawn := [] }

variable (env : Environment) (jwt : JwtEncoding)

def respond (s : Authentication) (request : AuthRequest) (newSessionId : String) (now : Nat) :
    Authentication :=
  match authenticationChecked env jwt request newSessionId now s.db with
  | .ok (session, response) _ =>
    { s with calls := s.calls ++ [.checked request session newSessionId response]
             drawn := newSessionId :: s.drawn }
  | .error e _ => { s with calls := s.calls ++ [.failed e] }

/-- One call of the database by one of the handlers, or a session expires. -/
inductive Step (s : Authentication) : AuthEvent → Authentication → Prop
  | challenge (sessionId challenge : String) (body : ChallengeBody) :
    Step s (.challenge sessionId challenge body)
      { s with db := stateAfter (authenticationChallenge env sessionId challenge body) s.db
               drawn := sessionId :: s.drawn }
  | response (request : AuthRequest) (newSessionId : String) (now : Nat) :
    Step s (.response request newSessionId now) (s.respond env jwt request newSessionId now)
  | update (before after : List AuthCall) (request : AuthRequest) (session : Session)
    (newSessionId : String) (response : AuthorizationResponse)
    (h : s.calls = before ++ .checked request session newSessionId response :: after) :
    Step s (.update before.length)
      { s with
        db := stateAfter
          (DatabaseHandler.updateSessionAuthenticated env session.sessionId newSessionId) s.db
        calls := before ++ AuthCall.outcome request session response
          (DatabaseHandler.updateSessionAuthenticated env session.sessionId newSessionId s.db) :: after }
  | expire (sessionId : String) :
    Step s (.expire sessionId) { s with db := Function.update s.db (.session sessionId) none }
  | other (db : Db) (h : Unrelated s.db db) : Step s (.other db) { s with db := db }

end Authentication

def authentication (env : Environment) (jwt : JwtEncoding) : System Authentication AuthEvent where
  init s := s = .start
  step s event s' := s.Step env jwt event s'

end AffinidiMessaging.Mediator
