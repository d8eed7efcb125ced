import AffinidiMessaging.Mediator.Authenticate

/-! # A challenge session is consumed once

The transaction renames the session, so of two responses to one challenge only one finds it. The
other one fails, but EXEC goes on after the failed RENAME: the state of a session without a challenge
is set, and a success is counted.
-/

namespace AffinidiMessaging.Mediator

open Redis Fallible Transition

theorem checkSession_ok_iff (request : AuthRequest) (session : Session) :
    checkSession request session = .ok () ↔
      (∀ fromDid, request.from_ = some fromDid → fromDid = session.did) ∧ session.state = .challengeSent := by
  obtain ⟨fromDid, challenge⟩ := request
  unfold checkSession
  cases fromDid with
  | none => by_cases hState : session.state = .challengeSent <;> simp [hState, except_pure_eq]
  | some fromDid =>
    by_cases hDid : fromDid = session.did <;> by_cases hState : session.state = .challengeSent <;>
      simp [hDid, hState, except_bind_ok_iff, except_pure_eq]

/-- The first part of a response reads a session, checks it and makes tokens for its DID. -/
theorem authenticationChecked_ok_iff (env : Environment) (jwt : JwtEncoding) (request : AuthRequest)
    (newSessionId : String) (now : Nat) (db db' : Db) (session : Session) (response : AuthorizationResponse) :
    authenticationChecked env jwt request newSessionId now db = .ok (session, response) db' ↔
      DatabaseHandler.getSession env request.challenge.sessionId db = .ok session db ∧
        checkSession request session = .ok () ∧
        createTokens jwt now { session with sessionId := newSessionId } = .ok response ∧ db' = db := by
  simp only [authenticationChecked, bind_ok_iff, lift_ok_iff]
  constructor
  · rintro ⟨read, db₁, hRead, _, _, ⟨hChecked, rfl⟩, made, _, ⟨hMade, rfl⟩, h⟩
    obtain ⟨-, -, -, rfl⟩ := (DatabaseHandler.getSession_ok_iff _ _ _ _ _).mp hRead
    cases h
    exact ⟨hRead, hChecked, hMade, rfl⟩
  · rintro ⟨hRead, hChecked, hMade, rfl⟩
    exact ⟨session, db', hRead, (), db', ⟨hChecked, rfl⟩, response, db', ⟨hMade, rfl⟩, rfl⟩

namespace Authentication

variable {env : Environment} {jwt : JwtEncoding} {s s' : Authentication}

theorem stateAfter_authenticationChallenge (sessionId challenge : String) (body : ChallengeBody)
    (db : Db) :
    stateAfter (authenticationChallenge env sessionId challenge body) db =
      stateAfter (DatabaseHandler.createSession env ⟨sessionId, challenge, .challengeSent, body.did⟩) db := by
  unfold authenticationChallenge
  cases hRun : DatabaseHandler.createSession env ⟨sessionId, challenge, .challengeSent, body.did⟩ db with
  | ok u db' =>
    rw [stateAfter, bind_of_ok hRun, stateAfter_of_ok hRun]
    rfl
  | error e db' => rw [stateAfter, bind_of_error hRun, stateAfter_of_error hRun]

/-- The calls that returned tokens for an id, those that are about to give it to a session, and the
session that has it. -/
def uses (s : Authentication) (sid : String) : Nat :=
  s.calls.countP (AuthCall.returnedFor sid) + s.calls.countP (AuthCall.awaits sid) + present s.db sid

/-- Every use of an id was drawn. -/
def Drawn (s : Authentication) : Prop := ∀ sid, s.uses sid ≤ s.drawn.count sid

theorem Drawn.step {event : AuthEvent} (h : s.Drawn) (hStep : s.Step env jwt event s') : s'.Drawn := by
  intro sid
  have hSid := h sid
  unfold uses at hSid ⊢
  cases hStep with
  | challenge sessionId challenge body =>
    rw [stateAfter_authenticationChallenge]
    by_cases hDrawn : sid = sessionId
    · have hOne := present_le (stateAfter (DatabaseHandler.createSession env
        ⟨sessionId, challenge, .challengeSent, body.did⟩) s.db) sid
      simp only [hDrawn, List.count_cons_self] at hSid hOne ⊢
      omega
    · have hSame := (createSession_other env ⟨sessionId, challenge, .challengeSent, body.did⟩ hDrawn _).stateAfter
        (s := s.db) rfl
      rw [present_congr hSame, List.count_cons_of_ne (Ne.symm hDrawn)]
      exact hSid
  | response request newSessionId now =>
    unfold respond
    cases authenticationChecked env jwt request newSessionId now s.db with
    | ok checked db =>
      simp only [List.countP_append, List.countP_singleton, AuthCall.returnedFor, AuthCall.awaits,
        List.count_cons, beq_iff_eq, decide_eq_true_eq, Bool.false_eq_true, if_false]
      omega
    | error e db =>
      simpa [List.countP_append, AuthCall.returnedFor, AuthCall.awaits] using hSid
  | update before after request session newSessionId response hCalls =>
    have hPresent := present_authenticate env session.sessionId newSessionId sid s.db
    simp only [hCalls, List.countP_append, List.countP_cons] at hSid ⊢
    cases hRun : DatabaseHandler.updateSessionAuthenticated env session.sessionId newSessionId s.db with
    | ok u db =>
      -- the id that is returned for was one that a session had
      have hOne := present_of_authenticated env hRun
      simp only [AuthCall.outcome, AuthCall.returnedFor, AuthCall.awaits, decide_eq_true_eq,
        Bool.false_eq_true, if_false] at hSid ⊢
      by_cases hOld : session.sessionId = sid
      · subst hOld
        split at hPresent <;> simp_all <;> omega
      · split at hPresent <;> simp_all <;> omega
    | error e db =>
      simp only [AuthCall.outcome, AuthCall.returnedFor, AuthCall.awaits, decide_eq_true_eq,
        Bool.false_eq_true, if_false] at hSid ⊢
      split at hPresent
      · simp_all
        omega
      · split at hPresent <;> simp_all <;> omega
  | expire sessionId =>
    have hLess : present (Function.update s.db (.session sessionId) none) sid ≤ present s.db sid := by
      by_cases hExpired : sid = sessionId <;> simp [present, hExpired]
    dsimp only
    omega
  | other db hOther =>
    rw [present_congr (hOther.1 sid)]
    exact hSid

/-- The transaction of a call finds the session that the call read. -/
def SessionKept (s : Authentication) : AuthEvent → Prop
  | .update call => ∀ request session newSessionId response,
    s.calls[call]? = some (.checked request session newSessionId response) →
      (s.db (.session session.sessionId)).isSome
  | _ => True

/-- All sessions are full, and the counter has counted the calls that returned. -/
structure Counted (s : Authentication) : Prop where
  full : FullSessions s.db
  success : counter s.db .global "SESSIONS_SUCCESS" = s.calls.countP AuthCall.isReturned

theorem Counted.step {event : AuthEvent} (h : s.Counted) (hKept : s.SessionKept event)
    (hStep : s.Step env jwt event s') : s'.Counted := by
  cases hStep with
  | challenge sessionId challenge body =>
    constructor
    · rw [stateAfter_authenticationChallenge]
      exact (createSession_full env _).stateAfter h.full
    · rw [stateAfter_authenticationChallenge]
      exact (createSession_success env _ _).stateAfter h.success
  | response request newSessionId now =>
    unfold respond
    cases authenticationChecked env jwt request newSessionId now s.db with
    | ok checked db => exact ⟨h.full, by simpa [AuthCall.isReturned] using h.success⟩
    | error e db => exact ⟨h.full, by simpa [AuthCall.isReturned] using h.success⟩
  | update before after request session newSessionId response hCalls =>
    have hOld := hKept request session newSessionId response (by simp [hCalls])
    obtain ⟨v, hv⟩ := Option.isSome_iff_exists.mp hOld
    obtain ⟨hFull, hOutcome⟩ := authenticate_full env h.full newSessionId hv
    have hSuccess := h.success
    simp only [hCalls, List.countP_append, List.countP_cons, AuthCall.isReturned, Bool.false_eq_true,
      if_false] at hSuccess
    refine ⟨hFull, ?_⟩
    rcases hOutcome with ⟨db, hRun, hCounter⟩ | ⟨e, db, hRun, hCounter⟩
    · simp only [stateAfter_of_ok hRun, hRun, hCounter, AuthCall.outcome, List.countP_append,
        List.countP_cons, AuthCall.isReturned, if_true]
      omega
    · simp only [stateAfter_of_error hRun, hRun, hCounter, AuthCall.outcome, List.countP_append,
        List.countP_cons, AuthCall.isReturned, Bool.false_eq_true, if_false]
      omega
  | expire sessionId =>
    constructor
    · intro sid v hv
      simp only [Function.update_apply] at hv
      split at hv
      · cases hv
      · exact h.full sid v hv
    · rw [← h.success]
      apply counter_congr
      apply field_congr
      simp
  | other db hOther =>
    constructor
    · intro sid v hv
      dsimp only at hv
      rw [hOther.1 sid] at hv
      exact h.full sid v hv
    · rw [← h.success]
      exact counter_congr hOther.2

/-- Sessions are consumed once and cleanly; an id counts if it was drawn once only. -/
structure CleanlyConsumed (s : Authentication) : Prop where
  once : ∀ sid, s.drawn.count sid ≤ 1 → s.calls.countP (AuthCall.returnedFor sid) ≤ 1
  authenticated : ∀ sid fields, s.db (.session sid) = some (.hash fields) →
    fields.lookup "state" = some SessionState.authenticated.display →
      (fields.lookup "challenge").isSome ∧ (fields.lookup "did").isSome
  success : counter s.db .global "SESSIONS_SUCCESS" = s.calls.countP AuthCall.isReturned

end Authentication

section
variable {env : Environment} {jwt : JwtEncoding} {s : Authentication}

/-- Whatever the order of the calls and whatever expires, tokens are returned once for a session. -/
theorem returned_once (hs : (authentication env jwt).Reachable s) {sid : String}
    (hDrawn : s.drawn.count sid ≤ 1) : s.calls.countP (AuthCall.returnedFor sid) ≤ 1 := by
  have hInvariant : (authentication env jwt).Invariant Authentication.Drawn := by
    constructor
    · rintro s rfl sid
      exact Nat.le_refl 0
    · intro s event s' h hStep
      exact h.step hStep
  have hUses := hInvariant.holds hs sid
  unfold Authentication.uses at hUses
  omega

/-- As long as every transaction finds its session, sessions are consumed once and cleanly. -/
theorem sessions_consumed_cleanly
    (hs : ((authentication env jwt).restrict Authentication.SessionKept).Reachable s) :
    s.CleanlyConsumed := by
  have hInvariant : ((authentication env jwt).restrict Authentication.SessionKept).Invariant
      Authentication.Counted := by
    constructor
    · rintro s rfl
      constructor
      · intro sid v hv
        cases hv
      · rfl
    · rintro s event s' h ⟨hKept, hStep⟩
      exact h.step hKept hStep
  have hCounted := hInvariant.holds hs
  constructor
  · intro sid hDrawn
    exact returned_once hs.of_restrict hDrawn
  · intro sid fields hSession hState
    obtain ⟨_, hEq, hFull⟩ := hCounted.full sid _ hSession
    cases hEq
    obtain ⟨challenge, hChallenge⟩ := hFull "challenge" (by simp)
    obtain ⟨did, hDid⟩ := hFull "did" (by simp)
    simp [hChallenge, hDid]
  · exact hCounted.success

end

def sampleJwt : JwtEncoding := some fun claims => .ok ("token of " ++ claims.sub)

/-- A challenge for bob, and what his client answers. -/
def challenged : Authentication where
  db := stateAfter
    (authenticationChallenge sampleEnvironment "session-1" "challenge-1" ⟨"did:example:bob"⟩)
    fun _ => none
  calls := []
  drawn := ["session-1"]

def answer : AuthRequest := ⟨some "did:example:bob", ⟨"challenge-1", "session-1"⟩⟩

def answered : AuthorizationResponse := ⟨"token of did:example:bob", "token of did:example:bob"⟩

def bobSession : Session := ⟨"session-1", "challenge-1", .challengeSent, "did:example:bob"⟩

/-- A call that is about to send its transaction for bob's session. -/
def pending (newSessionId : String) : AuthCall :=
  .checked answer bobSession newSessionId answered

/-- The transaction of a pending call in a database. -/
def transaction (newSessionId : String) : Handler Unit :=
  DatabaseHandler.updateSessionAuthenticated sampleEnvironment "session-1" newSessionId

/-- One call is about to send its transaction. -/
def onePending : Authentication where
  db := challenged.db
  calls := [pending "session-2"]
  drawn := ["session-2", "session-1"]

theorem step_challenged :
    Authentication.Step sampleEnvironment sampleJwt .start
      (.challenge "session-1" "challenge-1" ⟨"did:example:bob"⟩) challenged :=
  .challenge _ _ _

theorem step_onePending :
    challenged.Step sampleEnvironment sampleJwt (.response answer "session-2" 0) onePending :=
  .response answer "session-2" 0

/-- The call that was pending has sent its transaction, and another one may be pending. -/
def oneUpdated (others : List AuthCall) (drawn : List String) : Authentication where
  db := stateAfter (transaction "session-2") challenged.db
  calls := .returned answer bobSession answered :: others
  drawn := drawn

theorem sessions_consumed_cleanly_bob :
    ∃ s, ((authentication sampleEnvironment sampleJwt).restrict Authentication.SessionKept).Reachable s ∧
      s.calls.countP AuthCall.isReturned = 1 ∧ s.CleanlyConsumed := by
  have hChallenged : ((authentication sampleEnvironment sampleJwt).restrict
      Authentication.SessionKept).Reachable challenged :=
    .step (l := .challenge "session-1" "challenge-1" ⟨"did:example:bob"⟩) (.init rfl)
      ⟨trivial, step_challenged⟩
  have hPending : ((authentication sampleEnvironment sampleJwt).restrict
      Authentication.SessionKept).Reachable onePending :=
    .step (l := .response answer "session-2" 0) hChallenged ⟨trivial, step_onePending⟩
  have hKept : onePending.SessionKept (.update 0) := by
    rintro request session newSessionId response hCall
    cases hCall
    decide
  have hStep : onePending.Step sampleEnvironment sampleJwt (.update 0)
      (oneUpdated [] ["session-2", "session-1"]) :=
    .update [] [] answer bobSession "session-2" answered rfl
  have hReturned : ((authentication sampleEnvironment sampleJwt).restrict
      Authentication.SessionKept).Reachable (oneUpdated [] ["session-2", "session-1"]) :=
    .step (l := .update 0) hPending ⟨hKept, hStep⟩
  exact ⟨_, hReturned, by decide, sessions_consumed_cleanly hReturned⟩

/-- Two responses to one challenge have both passed their checks. -/
def bothPending : Authentication where
  db := challenged.db
  calls := [pending "session-2", pending "session-3"]
  drawn := ["session-3", "session-2", "session-1"]

/-- The second transaction leaves a session without a challenge, and is counted. -/
def bothUpdated : Authentication where
  db := stateAfter (transaction "session-3") (stateAfter (transaction "session-2") challenged.db)
  calls := [.returned answer bobSession answered,
    .failed (.sessionError "session-1" "tried to retrieve session(session-1). Error: rejected")]
  drawn := ["session-3", "session-2", "session-1"]

theorem sessions_not_consumed_cleanly :
    (authentication sampleEnvironment sampleJwt).Reachable bothUpdated ∧
      ¬ bothUpdated.CleanlyConsumed ∧
      counter bothUpdated.db .global "SESSIONS_SUCCESS" = 2 ∧
      bothUpdated.calls.countP AuthCall.isReturned = 1 := by
  have hOne : (authentication sampleEnvironment sampleJwt).Reachable onePending :=
    .step (.step (.init rfl) step_challenged) step_onePending
  have hBoth : onePending.Step sampleEnvironment sampleJwt (.response answer "session-3" 0) bothPending :=
    .response answer "session-3" 0
  have hFirst : bothPending.Step sampleEnvironment sampleJwt (.update 0)
      (oneUpdated [pending "session-3"] ["session-3", "session-2", "session-1"]) :=
    .update [] [pending "session-3"] answer bobSession "session-2" answered rfl
  have hSecond : (oneUpdated [pending "session-3"] ["session-3", "session-2", "session-1"]).Step
      sampleEnvironment sampleJwt (.update 1) bothUpdated :=
    .update [.returned answer bobSession answered] [] answer bobSession "session-3" answered rfl
  refine ⟨((hOne.step hBoth).step hFirst).step hSecond, ?_, by decide, by decide⟩
  intro hClean
  have hFull := hClean.authenticated "session-3" [("state", "Authenticated")] (by decide) (by decide)
  revert hFull
  decide

end AffinidiMessaging.Mediator
