import AffinidiMessaging.Library.JsonText
import AffinidiMessaging.Mediator.ConsumedOnce
import AffinidiMessaging.Mediator.InboxFetch

/-! # Tokens at the protected routes

The claims of an access token and of a refresh token differ in their expiry only, and the extractor of a
session looks at nothing else: a refresh token opens the protected routes for a day.
-/

namespace AffinidiMessaging.Mediator

open Redis Fallible Serde Transition

/-- What a token must fulfil, besides the EdDSA signature. -/
structure Validation where
  audience : List String
  requiredSpecClaims : List String
  leeway : Nat

/-- The reading of a token, at a time, when the mediator has a key for that. -/
abbrev JwtDecoding := Option (Validation → (now : Nat) → String → Except String SessionClaims)

inductive AuthError
  | wrongCredentials
  | missingCredentials
  | invalidToken
  | internalServerError (text : String)
deriving DecidableEq

/-- The default leeway of the library is a minute. -/
def sessionValidation : Validation where
  audience := ["ATM"]
  requiredSpecClaims := ["exp", "sub", "aud", "session_id"]
  leeway := 60

/-- `from_request_parts`, for a request with or without a remote address and a bearer token. -/
def sessionFromRequest (env : Environment) (decoding : JwtDecoding) (now : Nat) (address bearer : Option String) :
    Except AuthError Common.Session := do
  let _ ← okOr address AuthError.missingCredentials
  let bearer ← okOr bearer AuthError.missingCredentials
  let decode ← okOr decoding AuthError.missingCredentials
  match decode sessionValidation now bearer with
  | .ok claims =>
    return { sessionId := claims.sessionId, did := claims.sub, didHash := env.digest claims.sub }
  | .error _ => throw .invalidToken

/-- The library reads what the key has signed, for one of the audience, up to the expiry. -/
structure TokenLaws (encode : SessionClaims → Except String String)
    (decode : Validation → (now : Nat) → String → Except String SessionClaims) : Prop where
  decode_ok_iff : ∀ validation now token claims, decode validation now token = .ok claims ↔
    encode claims = .ok token ∧ claims.aud ∈ validation.audience ∧ now ≤ claims.exp + validation.leeway

/-- A request from some address is let in with the token. -/
def Accepts (env : Environment) (decode : Validation → (now : Nat) → String → Except String SessionClaims)
    (now : Nat) (token : String) : Prop :=
  ∃ session, sessionFromRequest env (some decode) now (some "127.0.0.1:7037") (some token) = .ok session

/-- One of the calls returned the response, with tokens made at the time. -/
def IssuedAt (encode : SessionClaims → Except String String) (calls : List AuthCall) (time : Nat)
    (response : AuthorizationResponse) : Prop :=
  ∃ request session newSessionId, .returned request session response ∈ calls ∧
    createTokens (some encode) time { session with sessionId := newSessionId } = .ok response

/-- Authentication with a clock, which a response reads and which never goes back. -/
def timedAuthentication (env : Environment) (encode : SessionClaims → Except String String) :
    System (Nat × Authentication) AuthEvent where
  init s := s.2 = .start
  step s event s' := s.1 ≤ s'.1 ∧ s.2.Step env (some encode) event s'.2 ∧
    ∀ request newSessionId now, event = .response request newSessionId now → now = s.1

/-- A call has tokens that were made at some time up to now. -/
def AuthCall.Timed (encode : SessionClaims → Except String String) (now : Nat) : AuthCall → Prop
  | .checked _ session newSessionId response => ∃ time ≤ now,
    createTokens (some encode) time { session with sessionId := newSessionId } = .ok response
  | .returned _ session response => ∃ newSessionId, ∃ time ≤ now,
    createTokens (some encode) time { session with sessionId := newSessionId } = .ok response
  | .failed _ => True

section
variable {env : Environment} {encode : SessionClaims → Except String String}

theorem AuthCall.Timed.later {now now' : Nat} (hNow : now ≤ now') {call : AuthCall}
    (h : call.Timed encode now) : call.Timed encode now' := by
  cases call with
  | checked request session newSessionId response =>
    obtain ⟨time, hTime, hTokens⟩ := h
    exact ⟨time, hTime.trans hNow, hTokens⟩
  | returned request session response =>
    obtain ⟨newSessionId, time, hTime, hTokens⟩ := h
    exact ⟨newSessionId, time, hTime.trans hNow, hTokens⟩
  | failed e => trivial

theorem timed_step {s s' : Nat × Authentication} {event : AuthEvent}
    (hs : ∀ call ∈ s.2.calls, call.Timed encode s.1)
    (hStep : (timedAuthentication env encode).step s event s') :
    ∀ call ∈ s'.2.calls, call.Timed encode s'.1 := by
  obtain ⟨now, auth⟩ := s
  obtain ⟨now', auth'⟩ := s'
  obtain ⟨hNow, hAuth, hClock⟩ := hStep
  have hLater : ∀ call ∈ auth.calls, call.Timed encode now' := fun call hCall => (hs call hCall).later hNow
  intro call hCall
  cases hAuth with
  | challenge sessionId challenge body => exact hLater call hCall
  | response request newSessionId time =>
    obtain rfl : time = now := hClock request newSessionId time rfl
    dsimp only at hCall
    split at hCall
    · rename_i session response db' hRun
      rcases List.mem_append.mp hCall with hCall | hCall
      · exact hLater call hCall
      · rw [List.mem_singleton.mp hCall]
        obtain ⟨-, -, hTokens, -⟩ := (authenticationChecked_ok_iff _ _ _ _ _ _ _ _ _).mp hRun
        exact ⟨time, hNow, hTokens⟩
    · rcases List.mem_append.mp hCall with hCall | hCall
      · exact hLater call hCall
      · rw [List.mem_singleton.mp hCall]
        trivial
  | update before after request session newSessionId response h =>
    have hCalls : auth.calls = before ++ .checked request session newSessionId response :: after := h
    have hChecked := hLater (.checked request session newSessionId response) (by simp [hCalls])
    rcases List.mem_append.mp hCall with hCall | hCall
    · exact hLater call (hCalls ▸ List.mem_append_left _ hCall)
    · rcases List.mem_cons.mp hCall with rfl | hCall
      · unfold AuthCall.outcome
        split
        · exact ⟨newSessionId, hChecked⟩
        · trivial
      · exact hLater call (hCalls ▸ List.mem_append_right _ (List.mem_cons_of_mem _ hCall))
  | expire sessionId => exact hLater call hCall
  | other db h => exact hLater call hCall

theorem issued_of_reachable {s : Nat × Authentication} (hs : (timedAuthentication env encode).Reachable s)
    {request : AuthRequest} {session : Session} {response : AuthorizationResponse}
    (h : .returned request session response ∈ s.2.calls) :
    ∃ time ≤ s.1, IssuedAt encode s.2.calls time response := by
  have hInvariant : (timedAuthentication env encode).Invariant fun s =>
      ∀ call ∈ s.2.calls, call.Timed encode s.1 := by
    constructor
    · rintro ⟨now, auth⟩ rfl call hCall
      cases hCall
    · exact fun s event s' hs hStep => timed_step hs hStep
  obtain ⟨newSessionId, time, hTime, hTokens⟩ := hInvariant.holds hs _ h
  exact ⟨time, hTime, request, session, newSessionId, h, hTokens⟩

theorem expiry_sum {a b c : Nat} (h : a + b = c) (now time : Nat) :
    now ≤ time + a + b + 60 ↔ now ≤ time + c + 60 := by omega

theorem encodeToken_ok_iff {name token : String} {claims : SessionClaims} :
    encodeToken encode name claims = .ok token ↔ encode claims = .ok token := by
  unfold encodeToken
  cases encode claims <;> simp

/-- The claims of the two tokens. -/
def claimsAt (session : Session) (exp : Nat) : SessionClaims :=
  { aud := "ATM", sub := session.did, sessionId := session.sessionId, exp }

theorem createTokens_ok_iff {time : Nat} {session : Session} {response : AuthorizationResponse} :
    createTokens (some encode) time session = .ok response ↔
      encode (claimsAt session (time + 900)) = .ok response.accessToken ∧
        encode (claimsAt session (time + 900 + 85500)) = .ok response.refreshToken := by
  simp only [createTokens, except_bind_ok_iff, encodeToken_ok_iff]
  constructor
  · rintro ⟨access, hAccess, refresh, hRefresh, h⟩
    cases h
    exact ⟨hAccess, hRefresh⟩
  · rintro ⟨hAccess, hRefresh⟩
    exact ⟨_, hAccess, _, hRefresh, rfl⟩

variable {decode : Validation → (now : Nat) → String → Except String SessionClaims}
  (laws : TokenLaws encode decode)
include laws

theorem TokenLaws.encode_injective {claims claims' : SessionClaims} {token : String}
    (h : encode claims = .ok token) (h' : encode claims' = .ok token) : claims = claims' := by
  let validation : Validation := ⟨[claims.aud, claims'.aud], [], 0⟩
  have hRead := (laws.decode_ok_iff validation 0 token claims).mpr ⟨h, by simp [validation], Nat.zero_le _⟩
  have hRead' := (laws.decode_ok_iff validation 0 token claims').mpr ⟨h', by simp [validation], Nat.zero_le _⟩
  exact Except.ok.inj (hRead.symm.trans hRead')

/-- A token with claims of the mediator is accepted up to their expiry. -/
theorem accepts_claimsAt_iff (env : Environment) (now : Nat) {session : Session} {exp : Nat} {token : String}
    (hToken : encode (claimsAt session exp) = .ok token) : Accepts env decode now token ↔ now ≤ exp + 60 := by
  unfold Accepts sessionFromRequest
  simp only [okOr, bind, Except.bind]
  constructor
  · rintro ⟨accepted, h⟩
    split at h
    · rename_i claims hClaims
      obtain ⟨hEncode, -, hExp⟩ := (laws.decode_ok_iff _ _ _ _).mp hClaims
      obtain rfl := laws.encode_injective hToken hEncode
      exact hExp
    · cases h
  · intro hExp
    have hClaims := (laws.decode_ok_iff sessionValidation now token _).mpr
      ⟨hToken, by simp [claimsAt, sessionValidation], hExp⟩
    exact ⟨_, by rw [hClaims]; rfl⟩

omit laws in
/-- Whether a token that was returned is let in just while it is an access token that is fresh. -/
def OnlyFreshAccess (env : Environment) (encode : SessionClaims → Except String String)
    (decode : Validation → (now : Nat) → String → Except String SessionClaims) (calls : List AuthCall)
    (token : String) (now : Nat) : Prop :=
  Accepts env decode now token ↔ ∃ time response, IssuedAt encode calls time response ∧
    response.accessToken = token ∧ time ≤ now ∧ now ≤ time + 900 + 60

theorem IssuedAt.accepts_access {calls : List AuthCall} {time now : Nat} {response : AuthorizationResponse}
    (h : IssuedAt encode calls time response) :
    Accepts env decode now response.accessToken ↔ now ≤ time + 900 + 60 := by
  obtain ⟨request, session, newSessionId, -, hTokens⟩ := h
  exact accepts_claimsAt_iff laws env now (createTokens_ok_iff.mp hTokens).1

theorem IssuedAt.accepts_refresh {calls : List AuthCall} {time now : Nat} {response : AuthorizationResponse}
    (h : IssuedAt encode calls time response) :
    Accepts env decode now response.refreshToken ↔ now ≤ time + 86400 + 60 := by
  obtain ⟨request, session, newSessionId, -, hTokens⟩ := h
  have hExpiry := accepts_claimsAt_iff laws env now (createTokens_ok_iff.mp hTokens).2
  exact hExpiry.trans (expiry_sum (by decide : 900 + 85500 = 86400) now time)

end

/-- At the protected routes a returned token is what it should be exactly when it is not the refresh
token of a response of the last day, or is an access token of the last 15 minutes as well. -/
theorem only_fresh_access_iff (env : Environment) (encode : SessionClaims → Except String String)
    (decode : Validation → (now : Nat) → String → Except String SessionClaims) (laws : TokenLaws encode decode)
    (now : Nat) (auth : Authentication) (hs : (timedAuthentication env encode).Reachable (now, auth))
    (request : AuthRequest) (session : Session) (response : AuthorizationResponse)
    (hReturned : .returned request session response ∈ auth.calls) (token : String)
    (hToken : token = response.accessToken ∨ token = response.refreshToken) (later : Nat) (hLater : now ≤ later) :
    OnlyFreshAccess env encode decode auth.calls token later ↔
      (∀ time response, IssuedAt encode auth.calls time response → response.refreshToken = token →
          time + 86400 + 60 < later) ∨
        ∃ time response, IssuedAt encode auth.calls time response ∧ response.accessToken = token ∧
          time ≤ later ∧ later ≤ time + 900 + 60 := by
  obtain ⟨time, hTime, hIssued⟩ := issued_of_reachable hs hReturned
  unfold OnlyFreshAccess
  constructor
  · intro hOnly
    by_cases hAccepted : Accepts env decode later token
    · exact .inr (hOnly.mp hAccepted)
    · refine .inl fun time' response' hIssued' hRefresh => ?_
      rw [← hRefresh, hIssued'.accepts_refresh laws] at hAccepted
      omega
  · rintro (hExpired | hFresh)
    · constructor
      · intro hAccepted
        rcases hToken with rfl | rfl
        · exact ⟨time, response, hIssued, rfl, hTime.trans hLater, (hIssued.accepts_access laws).mp hAccepted⟩
        · have hAfter := hExpired time response hIssued rfl
          have hBefore := (hIssued.accepts_refresh laws).mp hAccepted
          omega
      · rintro ⟨time', response', hIssued', rfl, -, hWithin⟩
        exact (hIssued'.accepts_access laws).mpr hWithin
    · refine iff_of_true ?_ hFresh
      obtain ⟨time', response', hIssued', rfl, -, hWithin⟩ := hFresh
      exact (hIssued'.accepts_access laws).mpr hWithin

/-- Claims that are signed by writing them down. -/
def plainToken (claims : SessionClaims) : String :=
  JsonText.write (.obj [("aud", .str claims.aud), ("sub", .str claims.sub),
    ("session_id", .str claims.sessionId), ("exp", .str claims.exp.repr)])

def plainEncode (claims : SessionClaims) : Except String String := .ok (plainToken claims)

def readClaims (token : String) : Option SessionClaims :=
  match JsonText.read token with
  | some (.obj [("aud", .str aud), ("sub", .str sub), ("session_id", .str sessionId), ("exp", .str exp)]) =>
    (Text.parseNat exp).map fun exp => { aud, sub, sessionId, exp }
  | _ => none

def plainDecode (validation : Validation) (now : Nat) (token : String) : Except String SessionClaims :=
  match readClaims token with
  | some claims =>
    if plainToken claims = token ∧ claims.aud ∈ validation.audience ∧ now ≤ claims.exp + validation.leeway then
      .ok claims
    else .error "InvalidToken"
  | none => .error "InvalidToken"

theorem readClaims_plainToken (claims : SessionClaims) : readClaims (plainToken claims) = some claims := by
  simp only [readClaims, plainToken, JsonText.read_write, Text.parseNat_repr, Option.map_some]

theorem plain_laws : TokenLaws plainEncode plainDecode where
  decode_ok_iff validation now token claims := by
    rw [plainEncode, Except.ok.injEq, plainDecode]
    constructor
    · intro h
      split at h
      · split at h
        · cases h
          assumption
        · cases h
      · cases h
    · rintro ⟨rfl, hAud, hExp⟩
      rw [readClaims_plainToken]
      exact if_pos ⟨rfl, hAud, hExp⟩

/-- What bob gets for his answer at second 1000. -/
def bobTokens : AuthorizationResponse where
  accessToken := plainToken (claimsAt ⟨"session-2", "challenge-1", .challengeSent, "did:example:bob"⟩ (1000 + 900))
  refreshToken :=
    plainToken (claimsAt ⟨"session-2", "challenge-1", .challengeSent, "did:example:bob"⟩ (1000 + 900 + 85500))

def bobReturned : Authentication where
  db := stateAfter (transaction "session-2") challenged.db
  calls := [.returned answer bobSession bobTokens]
  drawn := ["session-2", "session-1"]

theorem reachable_bobReturned :
    (timedAuthentication sampleEnvironment plainEncode).Reachable (1000, bobReturned) := by
  let pendingTokens : Authentication :=
    { onePending with calls := [.checked answer bobSession "session-2" bobTokens] }
  have hStart : (timedAuthentication sampleEnvironment plainEncode).Reachable (1000, Authentication.start) := .init rfl
  have hChallenged : (timedAuthentication sampleEnvironment plainEncode).Reachable (1000, challenged) :=
    .step (l := .challenge "session-1" "challenge-1" ⟨"did:example:bob"⟩) hStart
      ⟨le_rfl, .challenge _ _ _, fun _ _ _ h => by cases h⟩
  have hPending : (timedAuthentication sampleEnvironment plainEncode).Reachable (1000, pendingTokens) :=
    .step (l := .response answer "session-2" 1000) hChallenged
      ⟨le_rfl, .response answer "session-2" 1000, fun _ _ _ h => by cases h; rfl⟩
  exact .step (l := .update 0) hPending
    ⟨le_rfl, .update [] [] answer bobSession "session-2" bobTokens rfl, fun _ _ _ h => by cases h⟩

theorem issuedAt_bobReturned : IssuedAt plainEncode bobReturned.calls 1000 bobTokens :=
  ⟨answer, bobSession, "session-2", List.mem_singleton.mpr rfl, rfl⟩

theorem only_fresh_access_bob :
    OnlyFreshAccess sampleEnvironment plainEncode plainDecode bobReturned.calls bobTokens.accessToken 1500 :=
  (only_fresh_access_iff sampleEnvironment plainEncode plainDecode plain_laws 1000 bobReturned
    reachable_bobReturned answer bobSession bobTokens (List.mem_singleton.mpr rfl) _ (.inl rfl) 1500
    (by decide)).mpr (.inr ⟨1000, bobTokens, issuedAt_bobReturned, rfl, by decide, by decide⟩)

/-- Bob's refresh token opens the protected routes an hour later. -/
theorem refresh_token_accepted :
    (timedAuthentication sampleEnvironment plainEncode).Reachable (1000, bobReturned) ∧
      .returned answer bobSession bobTokens ∈ bobReturned.calls ∧
      Accepts sampleEnvironment plainDecode 4600 bobTokens.refreshToken ∧
      ¬ OnlyFreshAccess sampleEnvironment plainEncode plainDecode bobReturned.calls bobTokens.refreshToken
        4600 := by
  have hAccepted : Accepts sampleEnvironment plainDecode 4600 bobTokens.refreshToken :=
    (issuedAt_bobReturned.accepts_refresh plain_laws).mpr (by decide)
  refine ⟨reachable_bobReturned, List.mem_singleton.mpr rfl, hAccepted, fun hOnly => ?_⟩
  obtain ⟨time, response, hIssued, hAccess, hPast, -⟩ := hOnly.mp hAccepted
  obtain ⟨request, session, newSessionId, hCall, hTokens⟩ := hIssued
  cases List.mem_singleton.mp hCall
  have hClaims := plain_laws.encode_injective (createTokens_ok_iff.mp hTokens).1
    (congrArg Except.ok hAccess.symm)
  have hExp : time + 900 = 1000 + 900 + 85500 := congrArg SessionClaims.exp hClaims
  omega

end AffinidiMessaging.Mediator
