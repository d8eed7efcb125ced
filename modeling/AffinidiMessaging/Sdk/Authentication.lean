import AffinidiMessaging.Didcomm.PackUnpack
import AffinidiMessaging.Mediator.Impersonation

/-! # Authentication by the SDK

`authenticate` asks the mediator for a challenge, and answers it with a message that it signs and encrypts.
Whatever others ask and answer in the meantime, the mediator accepts the answer.
-/

namespace AffinidiMessaging.Sdk

open Redis Fallible Serde Didcomm Mediator Transition

/-- The DIDs that the SDK is configured with. -/
structure AtmDids where
  myDid : Option String
  atmDid : Option String

inductive SendError
  | configError (text : String)
  | msgSendError (text : String)

def AtmDids.dids (config : AtmDids) : Except SendError (String × String) := do
  let myDid ← okOr config.myDid
    (.configError "You must provide a DID for the SDK, used for authentication!")
  let atmDid ← okOr config.atmDid (.configError "You must provide the DID for the ATM service!")
  return (myDid, atmDid)

/-- The answer to a challenge; it expires after a minute. -/
def createAuthChallengeResponse (config : AtmDids) (id : String) (now : UInt64) (body : AuthenticationChallenge) :
    Except SendError Message := do
  let (myDid, atmDid) ← config.dids
  return { Message.build id "https://affinidi.com/atm/1.0/authenticate"
      (.obj [("challenge", .str body.challenge), ("session_id", .str body.sessionId)]) with
    to_ := some [atmDid]
    from_ := some myDid
    createdTime := some now
    expiresTime := some (now + 60) }

/-- The body of the second post of `authenticate`. -/
def answerChallenge (crates : Crates) (dids : DidResolver) (secrets : SecretsResolver) (debug : Fault → String)
    (config : AtmDids) (id : String) (now : UInt64) (draws : Message.PackDraws crates)
    (challenge : AuthenticationChallenge) : Except SendError (String × PackEncryptedMetadata) := do
  let (myDid, atmDid) ← config.dids
  let response ← createAuthChallengeResponse config id now challenge
  match response.packEncrypted crates dids secrets draws atmDid (some myDid) (some myDid) {} with
  | .ok packed => return packed
  | .error e => throw (.msgSendError ("Couldn't pack authentication response message: " ++ debug e))

/-! ## The session in between -/

/-- The event touches no session with the id. -/
def spares (sid : String) (s : Exchange) : ExchangeEvent → Prop
  | .response .. => True
  | .auth (.challenge sessionId _ _) => sessionId ≠ sid
  | .auth (.response ..) => True
  | .auth (.update call) => ∀ request session newSessionId response,
    s.auth.calls[call]? = some (.checked request session newSessionId response) →
      session.sessionId ≠ sid ∧ newSessionId ≠ sid
  | .auth (.expire sessionId) => sessionId ≠ sid
  | .auth (.other _) => True

section
variable {config : Config} {jwt : JwtEncoding}

theorem sessions_of_reachable {s : Exchange} (hs : (exchange config jwt).Reachable s) :
    Sessions (fun _ _ => True) s.auth.db := by
  refine System.Invariant.holds (I := fun s : Exchange => Sessions (fun _ _ => True) s.auth.db) ⟨?_, ?_⟩ hs
  · rintro s rfl sid v hv
    cases hv
  · rintro s event s' h hStep
    cases hStep with
    | response body arrived request newSessionId now hRequest =>
      unfold Authentication.respond
      split <;> exact h
    | refused => exact h
    | auth event auth hOther hAuth =>
      cases hAuth with
      | challenge sessionId text body =>
        rw [Authentication.stateAfter_authenticationChallenge]
        exact Sessions.createSession _ h _ (fun _ _ _ _ => trivial) fun _ => trivial
      | response => cases hOther
      | update before after request session newSessionId response hCalls =>
        exact h.authenticate _ _ _ fun _ _ => trivial
      | expire sessionId =>
        intro sid v hv
        dsimp only at hv
        rw [Function.update_apply] at hv
        split at hv
        · cases hv
        · exact h sid v hv
      | other db hUnrelated =>
        intro sid v hv
        dsimp only at hv
        rw [hUnrelated.1 sid] at hv
        exact h sid v hv

theorem keeps_authenticate_other (env : Environment) {oldSid newSid sid : String} (hOld : oldSid ≠ sid)
    (hNew : newSid ≠ sid) (v : Option Redis.Value) :
    Keeps (fun db => db (.session sid) = v) (DatabaseHandler.updateSessionAuthenticated env oldSid newSid) := by
  apply DatabaseHandler.keeps_querySession
  apply keeps_exec
  simp only [DatabaseHandler.authenticateCommands, List.forall_mem_cons, List.not_mem_nil, false_imp_iff, implies_true,
    and_true]
  exact ⟨Untouched.rename (by simp [hOld.symm]) (by simp [hNew.symm]) v, Untouched.hset (by simp [hNew.symm]) _ v,
    noSession_hincrby _ _ sid v, noSession_expire _ _ sid v⟩

/-- What spares a session leaves it as it was, and the calls for it. -/
theorem spared_step {sid : String} {s s' : Exchange} {event : ExchangeEvent} (hSpares : spares sid s event)
    (hStep : (exchange config jwt).step s event s') : s'.auth.db (.session sid) = s.auth.db (.session sid) ∧
      ∀ (k : Nat) request session newSessionId response, session.sessionId = sid →
        s.auth.calls[k]? = some (.checked request session newSessionId response) →
        s'.auth.calls[k]? = some (.checked request session newSessionId response) := by
  cases hStep with
  | response body arrived request newSessionId now hRequest =>
    unfold Authentication.respond
    split <;> exact ⟨rfl, fun k _ _ _ _ _ hCall =>
      List.getElem?_append_left (List.getElem?_eq_some_iff.mp hCall).1 ▸ hCall⟩
  | refused => exact ⟨rfl, fun _ _ _ _ _ _ hCall => hCall⟩
  | auth event auth hOther hAuth =>
    cases hAuth with
    | challenge sessionId text body =>
      refine ⟨?_, fun _ _ _ _ _ _ hCall => hCall⟩
      rw [Authentication.stateAfter_authenticationChallenge]
      exact (createSession_other _ ⟨sessionId, text, .challengeSent, body.did⟩ (Ne.symm hSpares) _).stateAfter rfl
    | response => cases hOther
    | update before after request session newSessionId response hCalls =>
      have hOwn : s.auth.calls[before.length]? = some (.checked request session newSessionId response) := by
        rw [hCalls, List.getElem?_append_right le_rfl, Nat.sub_self]
        rfl
      obtain ⟨hOld, hNew⟩ := hSpares _ _ _ _ hOwn
      refine ⟨(keeps_authenticate_other config.env hOld hNew _).stateAfter rfl, ?_⟩
      intro k request' session' newSessionId' response' hSid hCall
      have hNe : k ≠ before.length := by
        rintro rfl
        cases hOwn.symm.trans hCall
        exact hOld hSid
      rw [hCalls] at hCall
      rcases Nat.lt_or_gt_of_ne hNe with hLt | hGt
      · rw [List.getElem?_append_left hLt] at hCall ⊢
        exact hCall
      · obtain ⟨i, rfl⟩ := Nat.exists_eq_add_of_lt hGt
        rw [List.getElem?_append_right (by omega)] at hCall ⊢
        rw [show before.length + i + 1 - before.length = i + 1 by omega] at hCall ⊢
        exact hCall
    | expire sessionId => exact ⟨Function.update_of_ne (by simp [Ne.symm hSpares]) _ _, fun _ _ _ _ _ _ hCall => hCall⟩
    | other db hUnrelated => exact ⟨hUnrelated.1 sid, fun _ _ _ _ _ _ hCall => hCall⟩

theorem spared_path {sid : String} {s s' : Exchange}
    (hPath : ((exchange config jwt).restrict (spares sid)).Path s s') :
    s'.auth.db (.session sid) = s.auth.db (.session sid) ∧
      ∀ (k : Nat) request session newSessionId response, session.sessionId = sid →
        s.auth.calls[k]? = some (.checked request session newSessionId response) →
        s'.auth.calls[k]? = some (.checked request session newSessionId response) := by
  induction hPath with
  | refl => exact ⟨rfl, fun _ _ _ _ _ _ hCall => hCall⟩
  | tail _ hStep ih =>
    obtain ⟨hSession, hCalls⟩ := spared_step hStep.1 hStep.2
    exact ⟨hSession.trans ih.1, fun k request session newSessionId response hSid hCall =>
      hCalls k request session newSessionId response hSid (ih.2 k request session newSessionId response hSid hCall)⟩

theorem exists_split {α : Type} {l : List α} {k : Nat} {x : α} (h : l[k]? = some x) :
    ∃ before after, l = before ++ x :: after ∧ before.length = k := by
  obtain ⟨hLt, rfl⟩ := List.getElem?_eq_some_iff.mp h
  refine ⟨l.take k, l.drop (k + 1), ?_, List.length_take_of_le hLt.le⟩
  rw [← List.drop_eq_getElem_cons hLt, List.take_append_drop]

theorem createSession_record (env : Environment) {db : Db} (h : Sessions (fun _ _ => True) db) (session : Session) :
    ∃ fields, stateAfter (DatabaseHandler.createSession env session) db (.session session.sessionId) =
      some (.hash (setFields [("challenge", session.challenge), ("state", session.state.display), ("did", session.did)]
        fields)) := by
  obtain ⟨fields, hFields⟩ : ∃ fields, asHash (db (.session session.sessionId)) = .ok fields := by
    cases hv : db (.session session.sessionId) with
    | none => exact ⟨[], rfl⟩
    | some v =>
      obtain ⟨fields, rfl, -⟩ := h _ v hv
      exact ⟨fields, rfl⟩
  have hRun := (hmset_ok_iff (Key.session session.sessionId) [("challenge", session.challenge),
    ("state", session.state.display), ("did", session.did)] db _ ()).mpr ⟨fields, hFields, rfl⟩
  refine ⟨fields, ?_⟩
  rw [DatabaseHandler.createSession, DatabaseHandler.stateAfter_querySession, stateAfter_exec_cons, Redis.hset,
    stateAfter_of_ok hRun]
  have hRest (v : Option Redis.Value) : Keeps (fun db : Db => db (.session session.sessionId) = v)
      (exec [hincrby .global "SESSIONS_CREATED" "1", expire (.session session.sessionId) 900]) := by
    apply keeps_exec
    simp only [List.forall_mem_cons, List.not_mem_nil, false_imp_iff, implies_true, and_true]
    exact ⟨noSession_hincrby _ _ _ v, noSession_expire _ _ _ v⟩
  exact (hRest _).stateAfter (Function.update_self _ _ _)

theorem getSession_recorded {env : Environment} {db : Db} {sid challenge did : String} {fields : Fields}
    (h : db (.session sid) = some (.hash (setFields [("challenge", challenge),
      ("state", SessionState.challengeSent.display), ("did", did)] fields))) :
    DatabaseHandler.getSession env sid db = .ok ⟨sid, challenge, .challengeSent, did⟩ db := by
  refine (DatabaseHandler.getSession_ok_iff _ _ _ _ _).mpr
    ⟨_, by rw [h]; rfl, (Session.tryFrom_ok_iff _ _ _).mpr ?_, rfl⟩
  exact ⟨rfl, by simp [setFields], ⟨SessionState.challengeSent.display, by simp [setFields], rfl⟩, by simp [setFields]⟩

/-- The transaction of a session that waits, where its success can be counted. -/
theorem authenticate_ok (env : Environment) {db : Db} {sid challenge did : String} {fields : Fields} (newSid : String)
    (h : db (.session sid) = some (.hash (setFields [("challenge", challenge),
      ("state", SessionState.challengeSent.display), ("did", did)] fields)))
    (hCounts : accepts (hincrby .global "SESSIONS_SUCCESS" "1") db = true) :
    ∃ db', DatabaseHandler.updateSessionAuthenticated env sid newSid db = .ok () db' ∧
      DatabaseHandler.getSession env newSid db' = .ok ⟨newSid, challenge, .authenticated, did⟩ db' := by
  let renamed : Db := Function.update (Function.update db (.session sid) none) (.session newSid) (db (.session sid))
  have hRename : rename (.session sid) (.session newSid) db = .ok () renamed :=
    (rename_ok_iff _ _ _ _ ()).mpr ⟨_, h, by rw [← h]⟩
  have hRenamed : renamed (.session newSid) = db (.session sid) := Function.update_self _ _ _
  obtain ⟨marked, hMark⟩ : ∃ marked, hset (.session newSid) [("state", SessionState.authenticated.display)] renamed =
      .ok () marked := ⟨_, (hset_ok_iff _ _ _ _ _ ()).mpr ⟨_, by rw [hRenamed, h]; rfl, rfl⟩⟩
  obtain ⟨fields', hFields', hMarked⟩ := (hset_ok_iff _ _ _ _ _ ()).mp hMark
  rw [hRenamed, h] at hFields'
  cases hFields'
  have hGlobal : marked .global = db .global := by simp [hMarked, renamed]
  obtain ⟨u, counted, hCount⟩ := (accepts_iff _ _).mp ((accepts_hincrby_congr hGlobal).trans hCounts)
  refine ⟨counted, ?_, ?_⟩
  · rw [DatabaseHandler.updateSessionAuthenticated, DatabaseHandler.querySession_ok_iff,
      DatabaseHandler.authenticateCommands, exec_cons_ok_iff]
    refine ⟨_, hRename, (exec_cons_ok_iff _ _ _ _ _).mpr ⟨_, hMark, (exec_cons_ok_iff _ _ _ _ _).mpr ⟨_, hCount, rfl⟩⟩⟩
  · have hSession : counted (.session newSid) = marked (.session newSid) :=
      (noSession_hincrby "SESSIONS_SUCCESS" "1" newSid).of_ok hCount
    rw [hMarked, Function.update_self] at hSession
    refine (DatabaseHandler.getSession_ok_iff _ _ _ _ _).mpr
      ⟨_, by rw [hSession]; rfl, (Session.tryFrom_ok_iff _ _ _).mpr ?_, rfl⟩
    exact ⟨rfl, by simp [setFields], ⟨SessionState.authenticated.display, by simp [setFields], rfl⟩,
      by simp [setFields]⟩

end

/-! ## The answer -/

section
variable {crates : Crates} {hasPrivate : {curve : Curve} → crates.KeyPair curve → Prop}
  {reread : Int → Int → Int × Int} {limit : ℕ∞} (laws : Lawful crates hasPrivate reread limit)
  {sdk : AtmDids} {myDid atmDid id : String} {now : UInt64} {challenge : AuthenticationChallenge} {m : Message}
  (hDids : sdk.dids = .ok (myDid, atmDid)) (hMessage : createAuthChallengeResponse sdk id now challenge = .ok m)
include laws

theorem jwe_of_text {text : String} (hText : ∃ jwe : Jwe, text = crates.jsonToString jwe.toJson) {body : Jwe}
    (hBody : (crates.jsonFromStr text).bind Jwe.ofJson = some body) : crates.jsonToString body.toJson = text := by
  obtain ⟨jwe, rfl⟩ := hText
  rw [laws.read_written jwe.floatless_toJson (jwe.depth_toJson.trans (by decide)), Option.bind_some,
    Jwe.ofJson_toJson] at hBody
  rw [← Option.some.inj hBody]

include hDids hMessage

theorem createAuthChallengeResponse_readsBack : ReadsBack crates m := by
  rw [createAuthChallengeResponse, hDids] at hMessage
  cases hMessage
  refine ReadsBack.of_laws laws ?_ ?_ ?_ (Message.envelope_toJson rfl)
  · rfl
  · exact Nat.le_add_left 2 125
  · exact Message.ofJson_toJson rfl rfl fun _ h => by cases h

omit laws in
theorem createAuthChallengeResponse_plain : m.type_ ≠ forwardMsgType ∧ m.typ = plaintextTyp := by
  rw [createAuthChallengeResponse, hDids] at hMessage
  cases hMessage
  exact ⟨(by decide : "https://affinidi.com/atm/1.0/authenticate" ≠ forwardMsgType), rfl⟩

omit laws in
theorem readRequest_answer (config : Config) {arrived : UInt64} (hFresh : arrived < now + 60) :
    readRequest config arrived m = .ok ⟨some myDid, challenge⟩ := by
  rw [createAuthChallengeResponse, hDids] at hMessage
  cases hMessage
  have hExpires : ¬ now + 60 ≤ arrived := UInt64.not_le.mpr hFresh
  simp only [readRequest, except_bind_ok_iff, okOr_ok_iff]
  refine ⟨(), rfl, (), ?_, challenge, rfl, rfl⟩
  simp [checkFresh, hExpires]

end

section
variable {config : Config} {jwt : JwtEncoding} {hasPrivate : {curve : Curve} → config.crates.KeyPair curve → Prop}
  {reread : Int → Int → Int × Int} {limit : ℕ∞} (laws : Lawful config.crates hasPrivate reread limit)
  {clientSecrets : SecretsResolver} {debug : Fault → String} {sdk : AtmDids} {myDid atmDid id : String} {now : UInt64}
  {draws : Message.PackDraws config.crates} {challenge : AuthenticationChallenge}
  {packed : String × PackEncryptedMetadata}
include laws

/-- What the SDK posts is the request of the SDK's DID for its challenge. -/
theorem requestOf_answer (hLookup : LooksUp config.crates) (hUrls : OwnUrls config.crates config.dids)
    (hOwn : OwnSecrets config.crates config.dids clientSecrets) (hDids : sdk.dids = .ok (myDid, atmDid))
    (hAnswer : answerChallenge config.crates config.dids clientSecrets debug sdk id now draws challenge = .ok packed)
    (hService : packed.2.messagingService = none)
    (hHolds : HoldsSecret config.crates hasPrivate config.dids config.mediatorSecrets packed.2.toKids) {body : Jwe}
    (hBody : (config.crates.jsonFromStr packed.1).bind Jwe.ofJson = some body) {arrived : UInt64}
    (hFresh : arrived < now + 60) : requestOf config arrived body = .ok ⟨some myDid, challenge⟩ := by
  simp only [answerChallenge, except_bind_ok_iff] at hAnswer
  obtain ⟨_, hDids', m, hMessage, hPack⟩ := hAnswer
  cases hDids.symm.trans hDids'
  split at hPack
  · rename_i packed' hPacked
    cases hPack
    obtain ⟨hType, hTyp⟩ := createAuthChallengeResponse_plain hDids hMessage
    have hRead := createAuthChallengeResponse_readsBack laws hDids hMessage
    have hText : inboundText config body = packed.1 :=
      jwe_of_text laws (packEncrypted_text hPacked hService) hBody
    let opts : UnpackOptions := {}
    obtain ⟨outer, layers, prior, hOuter, hOpens, -⟩ := packEncrypted_opens laws hLookup hUrls hOwn hType hTyp hRead rfl
      (by decide : 2 < opts.cryptoOperationsLimitPerMessage) hPacked hService hHolds
    obtain ⟨unpacked, hRun, -⟩ := (unpackString_ok_iff config.crates config.dids config.mediatorSecrets opts
      (inboundText config body) m _ _).mpr ⟨layers, prior, ⟨outer, hText ▸ hOuter, hOpens⟩, rfl, rfl⟩
    exact requestOf_ok_iff.mpr ⟨m, _, unpacked, hRun, readRequest_answer hDids hMessage config hFresh⟩
  · cases hPack

/-- Whatever others ask and answer, as long as they do not touch its session: a client of the SDK that was given a
challenge gets its tokens for an answer in time, and has an authenticated session then. -/
theorem sdk_authenticated (hLookup : LooksUp config.crates) (hUrls : OwnUrls config.crates config.dids)
    (hOwn : OwnSecrets config.crates config.dids clientSecrets) (hDids : sdk.dids = .ok (myDid, atmDid))
    {s s₁ s₂ : Exchange} (hs : (exchange config jwt).Reachable s) {sid text : String}
    (hChallenge : (exchange config jwt).step s (.auth (.challenge sid text ⟨myDid⟩)) s₁)
    (hWait : ((exchange config jwt).restrict (spares sid)).Path s₁ s₂)
    (hAnswer : answerChallenge config.crates config.dids clientSecrets debug sdk id now draws ⟨text, sid⟩ = .ok packed)
    (hService : packed.2.messagingService = none)
    (hHolds : HoldsSecret config.crates hasPrivate config.dids config.mediatorSecrets packed.2.toKids) {body : Jwe}
    (hBody : (config.crates.jsonFromStr packed.1).bind Jwe.ofJson = some body) {arrived : UInt64}
    (hFresh : arrived < now + 60) {newSid : String} {time : Nat} {tokens : AuthorizationResponse}
    (hTokens : createTokens jwt time ⟨newSid, text, .challengeSent, myDid⟩ = .ok tokens) :
    ∃ s₃, (exchange config jwt).step s₂ (.response body arrived newSid time) s₃ ∧
      ∀ s₄, ((exchange config jwt).restrict (spares sid)).Path s₃ s₄ →
        accepts (hincrby .global "SESSIONS_SUCCESS" "1") s₄.auth.db = true →
        ∃ s₅, (exchange config jwt).step s₄ (.auth (.update s₂.auth.calls.length)) s₅ ∧
          s₅.auth.calls[s₂.auth.calls.length]? =
            some (.returned ⟨some myDid, ⟨text, sid⟩⟩ ⟨sid, text, .challengeSent, myDid⟩ tokens) ∧
          DatabaseHandler.getSession config.env newSid s₅.auth.db =
            .ok ⟨newSid, text, .authenticated, myDid⟩ s₅.auth.db := by
  have hRequest := requestOf_answer laws hLookup hUrls hOwn hDids hAnswer hService hHolds hBody hFresh
  obtain ⟨fields, hRecord⟩ := createSession_record config.env (sessions_of_reachable hs)
    ⟨sid, text, .challengeSent, myDid⟩
  have hRecord₁ : s₁.auth.db (.session sid) = some (.hash (setFields [("challenge", text),
      ("state", SessionState.challengeSent.display), ("did", myDid)] fields)) := by
    cases hChallenge with
    | auth _ auth _ hAuth =>
      cases hAuth with
      | challenge =>
        rw [Authentication.stateAfter_authenticationChallenge]
        exact hRecord
  have hRecord₂ := (spared_path hWait).1.trans hRecord₁
  have hChecked : authenticationChecked config.env jwt ⟨some myDid, ⟨text, sid⟩⟩ newSid time s₂.auth.db =
      .ok (⟨sid, text, .challengeSent, myDid⟩, tokens) s₂.auth.db :=
    (authenticationChecked_ok_iff _ _ _ _ _ _ _ _ _).mpr ⟨getSession_recorded hRecord₂,
      (checkSession_ok_iff _ _).mpr ⟨fun _ h => (Option.some.inj h).symm, rfl⟩, hTokens, rfl⟩
  refine ⟨_, .response body arrived _ newSid time hRequest, fun s₄ hPath hCounts => ?_⟩
  obtain ⟨hSession, hCalls⟩ := spared_path hPath
  simp only [Authentication.respond, hChecked] at hSession hCalls
  obtain ⟨db, hRun, hAuthenticated⟩ := authenticate_ok config.env newSid (hSession.trans hRecord₂) hCounts
  obtain ⟨before, after, hSplit, hLength⟩ :=
    exists_split (hCalls s₂.auth.calls.length _ _ newSid tokens rfl List.getElem?_concat_length)
  rw [← hLength]
  refine ⟨_, .auth _ _ rfl (.update before after _ _ newSid tokens hSplit), ?_, ?_⟩
  · rw [List.getElem?_append_right le_rfl, Nat.sub_self, hRun]
    rfl
  · rw [stateAfter_of_ok hRun]
    exact hAuthenticated

end

/-! ## Examples -/

/-- The mediator where no DID has services. -/
def quietConfig : Config := { sampleConfig with dids := everyDid fun _ => [] }

def bobSdk : AtmDids := ⟨some "did:example:bob", some "did:example:mediator"⟩

theorem answerChallenge_bob : ∃ packed,
    answerChallenge (ideal id) (everyDid fun _ => []) (secretsOf "did:example:bob")
      (fun _ => "") bobSdk "1" 0 sampleDraws
        ⟨"challenge-1", "session-1"⟩ = .ok packed ∧
      packed.2.messagingService = none ∧ packed.2.toKids = [agreeKid "did:example:mediator"] ∧
      ∃ jwe : Jwe, packed.1 = (ideal id).jsonToString jwe.toJson := by
  obtain ⟨m, hMessage⟩ : ∃ m, createAuthChallengeResponse bobSdk "1" 0 ⟨"challenge-1", "session-1"⟩ = .ok m := ⟨_, rfl⟩
  have hBob : '#' ∉ "did:example:bob".toList := by decide
  have hMediator : '#' ∉ "did:example:mediator".toList := by decide
  have hParts : m.to_ = some ["did:example:mediator"] ∧ m.from_ = some "did:example:bob" ∧
      m.packPlaintext (ideal id) (everyDid fun _ => []) = .ok ((ideal id).jsonToString m.toJson) := by
    cases hMessage
    exact ⟨rfl, rfl, rfl⟩
  obtain ⟨packed, hPacked, hService, hKids⟩ := packEncrypted_everyDid hBob hMediator hParts.1 hParts.2.1 (by decide)
    (by decide) hParts.2.2 sampleDraws
  refine ⟨packed, ?_, hService, hKids, packEncrypted_text hPacked hService⟩
  simp only [answerChallenge, except_bind_ok_iff]
  exact ⟨_, rfl, m, hMessage, by rw [hPacked]; rfl⟩

theorem sdk_authenticated_bob : ∃ s, (exchange quietConfig sampleJwt).Reachable s ∧
    s.auth.calls[0]? = some (.returned ⟨some "did:example:bob", ⟨"challenge-1", "session-1"⟩⟩ bobSession answered) ∧
    DatabaseHandler.getSession sampleEnvironment "session-2" s.auth.db =
      .ok ⟨"session-2", "challenge-1", .authenticated, "did:example:bob"⟩ s.auth.db := by
  obtain ⟨packed, hAnswer, hService, hKids, jwe, hText⟩ := answerChallenge_bob
  have hBob : '#' ∉ "did:example:bob".toList := by decide
  have hHolds : HoldsSecret (ideal id) (fun _ => True) (everyDid fun _ => []) (secretsOf "did:example:mediator")
      packed.2.toKids := by
    rw [hKids]
    exact everyDid_holdsSecret id _ (by decide)
  have hChallenge : (exchange quietConfig sampleJwt).step .start
      (.auth (.challenge "session-1" "challenge-1" ⟨"did:example:bob"⟩)) (bobWaits [] []) :=
    .auth (.challenge "session-1" "challenge-1" ⟨"did:example:bob"⟩) challenged rfl step_challenged
  have hBody : ((ideal id).jsonFromStr packed.1).bind Jwe.ofJson = some jwe := by
    rw [hText, ideal_read, Option.bind_some, Jwe.ofJson_toJson]
  have hTokens : createTokens sampleJwt 0 ⟨"session-2", "challenge-1", .challengeSent, "did:example:bob"⟩ =
    .ok answered := rfl
  have hStart : (exchange quietConfig sampleJwt).Reachable .start := .init rfl
  have hFresh : (0 : UInt64) < 0 + 60 := by decide
  have hUrls : OwnUrls quietConfig.crates quietConfig.dids := everyDid_ownUrls id fun _ => []
  have hOwn : OwnSecrets quietConfig.crates quietConfig.dids (secretsOf "did:example:bob") :=
    everyDid_ownSecrets id (fun _ => []) hBob
  obtain ⟨s₃, hStep, hRest⟩ :=
    sdk_authenticated (ideal_lawful id) (ideal_looksUp id) hUrls hOwn rfl hStart hChallenge .refl
    hAnswer hService hHolds hBody hFresh hTokens
  have hDb : s₃.auth.db = challenged.db := by
    cases hStep with
    | response =>
      unfold Authentication.respond
      split <;> rfl
    | refused => rfl
  have hCounts : accepts (hincrby .global "SESSIONS_SUCCESS" "1") s₃.auth.db = true := by
    rw [hDb]
    rfl
  obtain ⟨s₅, hUpdate, hReturned, hSession⟩ := hRest s₃ .refl hCounts
  exact ⟨s₅, ((hStart.step hChallenge).step hStep).step hUpdate, hReturned, hSession⟩

end AffinidiMessaging.Sdk
