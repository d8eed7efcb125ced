import AffinidiMessaging.Library.RedisCommands
import AffinidiMessaging.Mediator.DatabaseHandler

/-! # Sessions

A session is a hash under its id. It is made with a challenge, and becomes authenticated by one
transaction that gives it another id.
-/

namespace AffinidiMessaging.Mediator

open Redis Fallible

inductive SessionState
  | unknown
  | challengeSent
  | authenticated
  | blocked
deriving DecidableEq

def SessionState.display : SessionState → String
  | .unknown => "Unknown"
  | .challengeSent => "ChallengeSent"
  | .authenticated => "Authenticated"
  | .blocked => "Blocked"

def SessionState.tryFrom (value : String) : Except MediatorError SessionState :=
  match value with
  | "ChallengeSent" => .ok .challengeSent
  | "Authenticated" => .ok .authenticated
  | _ => .error (.sessionError "NA" ("Unknown SessionState: (" ++ value ++ ")"))

structure Session where
  sessionId : String
  challenge : String
  state : SessionState
  did : String
deriving DecidableEq

def Session.tryFrom (sid : String) (hash : Fields) : Except MediatorError Session := do
  let challenge ← okOr (hash.lookup "challenge")
    (.sessionError sid "No challenge found when retrieving session!")
  let state ← okOr (hash.lookup "state") (.sessionError sid "No state found when retrieving session!")
  let state ← SessionState.tryFrom state
  let did ← okOr (hash.lookup "did") (.sessionError sid "No DID found when retrieving session!")
  return ⟨sid, challenge, state, did⟩

namespace DatabaseHandler

variable (env : Environment)

def querySession {α : Type} (sessionId context : String) (c : Script α) : Handler α := fun db =>
  match c db with
  | .ok a db' => .ok a db'
  | .error e db' => .error (.sessionError sessionId (context ++ env.describe e)) db'

def createSession (session : Session) : Handler Unit :=
  let sid := Key.session session.sessionId
  querySession env sid.name ("tried to create new session (" ++ sid.name ++ ")! Error: ")
    (exec [hset sid [("challenge", session.challenge), ("state", session.state.display),
        ("did", session.did)],
      hincrby .global "SESSIONS_CREATED" "1", expire sid 900])

def getSession (sessionId : String) : Handler Session := do
  let result ← querySession env sessionId ("tried to retrieve session(" ++ sessionId ++ "). Error: ")
    (hgetall (.session sessionId))
  liftM (Session.tryFrom sessionId result)

/-- The commands of the transaction that makes a session an authenticated one. -/
def authenticateCommands (oldSessionId newSessionId : String) : List (Script Unit) :=
  [rename (.session oldSessionId) (.session newSessionId),
    hset (.session newSessionId) [("state", SessionState.authenticated.display)],
    hincrby .global "SESSIONS_SUCCESS" "1", expire (.session newSessionId) 86400]

def updateSessionAuthenticated (oldSessionId newSessionId : String) : Handler Unit :=
  querySession env oldSessionId ("tried to retrieve session(" ++ oldSessionId ++ "). Error: ")
    (exec (authenticateCommands oldSessionId newSessionId))

theorem querySession_ok_iff {α : Type} (sessionId context : String) (c : Script α) (db db' : Db)
    (a : α) : querySession env sessionId context c db = .ok a db' ↔ c db = .ok a db' := by
  unfold querySession
  cases c db <;> simp

theorem stateAfter_querySession {α : Type} (sessionId context : String) (c : Script α) (db : Db) :
    stateAfter (querySession env sessionId context c) db = stateAfter c db := by
  unfold stateAfter querySession
  cases c db <;> rfl

theorem keeps_querySession {α : Type} {I : Db → Prop} {c : Script α} (h : Keeps I c)
    (sessionId context : String) : Keeps I (querySession env sessionId context c) := by
  apply Keeps.of_stateAfter
  intro db hdb
  rw [stateAfter_querySession]
  exact h.stateAfter hdb

theorem getSession_ok_iff (sessionId : String) (db db' : Db) (session : Session) :
    getSession env sessionId db = .ok session db' ↔
      ∃ fields, asHash (db (.session sessionId)) = .ok fields ∧
        Session.tryFrom sessionId fields = .ok session ∧ db' = db := by
  simp only [getSession, bind_ok_iff, querySession_ok_iff, hgetall, ofKey_ok_iff, lift_ok_iff]
  constructor
  · rintro ⟨fields, _, ⟨hFields, rfl⟩, hSession, rfl⟩
    exact ⟨fields, hFields, hSession, rfl⟩
  · rintro ⟨fields, hFields, hSession, rfl⟩
    exact ⟨fields, db', ⟨hFields, rfl⟩, hSession, rfl⟩

end DatabaseHandler

theorem Session.tryFrom_ok_iff (sid : String) (hash : Fields) (session : Session) :
    Session.tryFrom sid hash = .ok session ↔
      session.sessionId = sid ∧ hash.lookup "challenge" = some session.challenge ∧
        (∃ state, hash.lookup "state" = some state ∧ SessionState.tryFrom state = .ok session.state) ∧
        hash.lookup "did" = some session.did := by
  simp only [Session.tryFrom, except_bind_ok_iff, okOr_ok_iff, except_pure_eq, Except.ok.injEq]
  constructor
  · rintro ⟨challenge, hChallenge, state, hState, s, hs, did, hDid, rfl⟩
    exact ⟨rfl, hChallenge, ⟨state, hState, hs⟩, hDid⟩
  · rintro ⟨rfl, hChallenge, ⟨state, hState, hs⟩, hDid⟩
    exact ⟨_, hChallenge, state, hState, _, hs, _, hDid, rfl⟩

/-- All three fields of a session are there. -/
def FullFields (fields : Fields) : Prop :=
  ∀ f ∈ ["challenge", "state", "did"], ∃ value, fields.lookup f = some value

def FullSessions (db : Db) : Prop :=
  ∀ sid v, db (.session sid) = some v → ∃ fields, v = .hash fields ∧ FullFields fields

theorem FullFields.setField {fields : Fields} (h : FullFields fields) (f v : String) :
    FullFields (setField f v fields) := by
  intro g hg
  rw [lookup_setField]
  split
  · exact ⟨v, rfl⟩
  · exact h g hg

theorem fullFields_create (challenge state did : String) (fields : Fields) :
    FullFields (setFields [("challenge", challenge), ("state", state), ("did", did)] fields) := by
  intro f hf
  simp only [setFields, List.foldl_cons, List.foldl_nil, lookup_setField]
  simp only [List.mem_cons, List.not_mem_nil, or_false] at hf
  rcases hf with rfl | rfl | rfl <;> simp

/-- Every session is a hash with the property. -/
def Sessions (P : String → Fields → Prop) (db : Db) : Prop :=
  ∀ sid v, db (.session sid) = some v → ∃ fields, v = .hash fields ∧ P sid fields

/-- A command that touches no session. -/
def NoSession {α : Type} (c : Script α) : Prop := ∀ sid, Untouched (.session sid) c

theorem NoSession.keeps {α : Type} {c : Script α} (h : NoSession c) (P : String → Fields → Prop) :
    Keeps (Sessions P) c := by
  intro db hdb
  constructor
  · intro a db' hRun sid v hv
    rw [(h sid).of_ok hRun] at hv
    exact hdb sid v hv
  · intro e db' hRun sid v hv
    rw [(h sid).of_error hRun] at hv
    exact hdb sid v hv

theorem noSession_hincrby (f increment : String) : NoSession (hincrby .global f increment) :=
  fun _ => .hincrby (by simp) _ _

theorem noSession_expire (k : Key) (seconds : Nat) : NoSession (expire k seconds) :=
  fun _ _ => keeps_expire k seconds

section
variable {P Q : String → Fields → Prop} {db : Db}

theorem Sessions.stateAfter_hset (h : Sessions Q db) {sid : String} {pairs : Fields}
    (hOthers : ∀ sid' fields, sid' ≠ sid → Q sid' fields → P sid' fields)
    (hPairs : ∀ fields, asHash (db (.session sid)) = .ok fields → P sid (setFields pairs fields)) :
    Sessions P (stateAfter (Redis.hset (.session sid) pairs) db) := by
  obtain ⟨fields, hFields⟩ : ∃ fields, asHash (db (.session sid)) = .ok fields := by
    cases hv : db (.session sid) with
    | none => exact ⟨[], rfl⟩
    | some v =>
      obtain ⟨fields, rfl, -⟩ := h sid v hv
      exact ⟨fields, rfl⟩
  have hRun := (hmset_ok_iff (Key.session sid) pairs db _ ()).mpr ⟨fields, hFields, rfl⟩
  rw [Redis.hset, stateAfter_of_ok hRun]
  intro sid' v hv
  rw [Function.update_apply] at hv
  split at hv
  · rename_i hSame
    cases hv
    cases hSame
    exact ⟨_, rfl, hPairs fields hFields⟩
  · rename_i hNe
    obtain ⟨fields', rfl, hQ⟩ := h sid' v hv
    exact ⟨fields', rfl, hOthers sid' fields' (fun hSame => hNe (congrArg Key.session hSame)) hQ⟩

theorem Sessions.stateAfter_rename (h : Sessions P db) (oldSid newSid : String) :
    Sessions (fun sid fields => sid = newSid ∨ P sid fields)
      (stateAfter (rename (.session oldSid) (.session newSid)) db) := by
  unfold stateAfter rename
  cases hOld : db (.session oldSid) with
  | none =>
    intro sid v hv
    obtain ⟨fields, rfl, hP⟩ := h sid v hv
    exact ⟨fields, rfl, .inr hP⟩
  | some renamed =>
    intro sid v hv
    dsimp only at hv
    rw [Function.update_apply] at hv
    split at hv
    · rename_i hSame
      cases hv
      obtain ⟨fields, rfl, -⟩ := h oldSid _ hOld
      exact ⟨fields, rfl, .inl (Key.session.inj hSame)⟩
    · rw [Function.update_apply] at hv
      split at hv
      · cases hv
      · obtain ⟨fields, rfl, hP⟩ := h sid v hv
        exact ⟨fields, rfl, .inr hP⟩

end

/-- How many sessions have the id: one or none. -/
def present (db : Db) (sid : String) : Nat := if (db (.session sid)).isSome then 1 else 0

theorem present_congr {db db' : Db} {sid : String} (h : db' (.session sid) = db (.session sid)) :
    present db' sid = present db sid := by
  rw [present, present, h]

theorem present_le (db : Db) (sid : String) : present db sid ≤ 1 := by
  unfold present
  split <;> omega

section
variable (env : Environment)
open DatabaseHandler

theorem Sessions.createSession {P Q : String → Fields → Prop} {db : Db} (h : Sessions Q db) (session : Session)
    (hOthers : ∀ sid fields, sid ≠ session.sessionId → Q sid fields → P sid fields)
    (hNew : ∀ fields, P session.sessionId (setFields [("challenge", session.challenge),
      ("state", session.state.display), ("did", session.did)] fields)) :
    Sessions P (stateAfter (DatabaseHandler.createSession env session) db) := by
  rw [DatabaseHandler.createSession, stateAfter_querySession, stateAfter_exec_cons]
  have hRest : Keeps (Sessions P) (exec [hincrby .global "SESSIONS_CREATED" "1",
      expire (.session session.sessionId) 900]) := by
    apply keeps_exec
    simp only [List.forall_mem_cons, List.not_mem_nil, false_imp_iff, implies_true, and_true]
    exact ⟨(noSession_hincrby _ _).keeps P, (noSession_expire _ _).keeps P⟩
  exact hRest.stateAfter (h.stateAfter_hset hOthers fun fields _ => hNew fields)

/-- The transaction keeps a property of the sessions that every authenticated one has. -/
theorem Sessions.authenticate {P : String → Fields → Prop} {db : Db} (h : Sessions P db) (oldSid newSid : String)
    (hNew : ∀ fields, fields.lookup "state" = some SessionState.authenticated.display → P newSid fields) :
    Sessions P (stateAfter (updateSessionAuthenticated env oldSid newSid) db) := by
  rw [updateSessionAuthenticated, stateAfter_querySession, authenticateCommands, stateAfter_exec_cons,
    stateAfter_exec_cons]
  have hRest : Keeps (Sessions P)
      (exec [hincrby Key.global "SESSIONS_SUCCESS" "1", expire (Key.session newSid) 86400]) := by
    apply keeps_exec
    simp only [List.forall_mem_cons, List.not_mem_nil, false_imp_iff, implies_true, and_true]
    exact ⟨(noSession_hincrby _ _).keeps P, (noSession_expire _ _).keeps P⟩
  apply hRest.stateAfter
  apply (h.stateAfter_rename oldSid newSid).stateAfter_hset
  · rintro sid fields hNe (hSame | hP)
    · exact absurd hSame hNe
    · exact hP
  · intro fields _
    exact hNew _ (by simp [setFields])

theorem createSession_full (session : Session) :
    Keeps FullSessions (createSession env session) :=
  Keeps.of_stateAfter fun _ h => Sessions.createSession env h session (fun _ _ _ hFull => hFull)
    fun fields => fullFields_create _ _ _ fields

theorem createSession_other (session : Session) {sid : String} (h : sid ≠ session.sessionId)
    (v : Option Value) :
    Keeps (fun db => db (.session sid) = v) (createSession env session) := by
  apply keeps_querySession
  apply keeps_exec
  simp only [List.forall_mem_cons, List.not_mem_nil, false_imp_iff, implies_true, and_true]
  exact ⟨Untouched.hset (by simp [h]) _ v, noSession_hincrby _ _ sid v, noSession_expire _ _ sid v⟩

theorem createSession_success (session : Session) (n : Int) :
    Keeps (fun db => counter db .global "SESSIONS_SUCCESS" = n)
      (createSession env session) := by
  apply keeps_querySession
  apply keeps_exec
  simp only [List.forall_mem_cons, List.not_mem_nil, false_imp_iff, implies_true, and_true]
  exact ⟨(Untouched.hset (by simp) _).keeps_counter _ n, keeps_counter_hincrby (by decide) _ n,
    keeps_expire _ _⟩

/-- The transaction makes at most the new id, and the old one is gone. -/
theorem present_authenticate (oldSid newSid sid : String) (db : Db) :
    present (stateAfter (updateSessionAuthenticated env oldSid newSid) db) sid ≤
      if newSid = sid then 1 else if oldSid = sid then 0 else present db sid := by
  split
  · exact present_le _ _
  · next hNew =>
    rw [updateSessionAuthenticated, stateAfter_querySession,
      authenticateCommands, stateAfter_exec_cons]
    have hRest : ∀ v, Keeps (fun db => db (.session sid) = v)
        (exec [hset (Key.session newSid) [("state", SessionState.authenticated.display)],
          hincrby Key.global "SESSIONS_SUCCESS" "1", expire (Key.session newSid) 86400]) := by
      intro v
      apply keeps_exec
      simp only [List.forall_mem_cons, List.not_mem_nil, false_imp_iff, implies_true, and_true]
      exact ⟨Untouched.hset (by simp [Ne.symm hNew]) _ v, noSession_hincrby _ _ sid v,
        noSession_expire _ _ sid v⟩
    have hSame := (hRest _).stateAfter (s := stateAfter (rename (.session oldSid) (.session newSid)) db) rfl
    by_cases hOld : oldSid = sid
    · subst hOld
      have hGone : stateAfter (rename (.session oldSid) (.session newSid)) db (.session oldSid) = none := by
        unfold stateAfter rename
        cases hv : db (.session oldSid) with
        | none => exact hv
        | some v => simp [Ne.symm hNew]
      simp [present, hSame, hGone]
    · have hRename : Untouched (.session sid) (rename (Key.session oldSid) (.session newSid)) :=
        .rename (by simp [Ne.symm hOld]) (by simp [Ne.symm hNew])
      rw [if_neg hOld, present, present, hSame, (hRename _).stateAfter rfl]

/-- The transaction succeeds only for a session that is there. -/
theorem present_of_authenticated {oldSid newSid : String} {db db' : Db} {u : Unit}
    (h : updateSessionAuthenticated env oldSid newSid db = .ok u db') :
    present db oldSid = 1 := by
  rw [updateSessionAuthenticated, querySession_ok_iff,
    authenticateCommands, exec_cons_ok_iff] at h
  obtain ⟨db₁, hRename, -⟩ := h
  obtain ⟨v, hv, -⟩ := (rename_ok_iff _ _ _ _ _).mp hRename
  simp [present, hv]

/-- The transaction on a session that is there keeps the sessions full, and counts a success exactly
when it answers one. -/
theorem authenticate_full {db : Db} (h : FullSessions db) {oldSid : String} (newSid : String) {v : Value}
    (hOld : db (.session oldSid) = some v) :
    FullSessions (stateAfter (updateSessionAuthenticated env oldSid newSid) db) ∧
      ((∃ db', updateSessionAuthenticated env oldSid newSid db = .ok () db' ∧
          counter db' .global "SESSIONS_SUCCESS" = counter db .global "SESSIONS_SUCCESS" + 1) ∨
        ∃ e db', updateSessionAuthenticated env oldSid newSid db = .error e db' ∧
          counter db' .global "SESSIONS_SUCCESS" = counter db .global "SESSIONS_SUCCESS") := by
  obtain ⟨fields, rfl, hFields⟩ := h oldSid v hOld
  let renamed : Db := Function.update (Function.update db (.session oldSid) none) (.session newSid)
    (some (.hash fields))
  have hRename : rename (.session oldSid) (.session newSid) db = .ok () renamed :=
    (rename_ok_iff _ _ _ _ ()).mpr ⟨_, hOld, rfl⟩
  have hRenamed : FullSessions renamed := by
    intro sid v hv
    simp only [renamed, Function.update_apply] at hv
    split at hv
    · cases hv
      exact ⟨fields, rfl, hFields⟩
    · split at hv
      · cases hv
      · exact h sid v hv
  have hHash : asHash (renamed (.session newSid)) = .ok fields := by
    simp [renamed]
  let state := SessionState.authenticated.display
  let marked : Db := Function.update renamed (.session newSid) (some (.hash (setField "state" state fields)))
  have hMark : hset (.session newSid) [("state", state)] renamed = .ok () marked :=
    (hset_ok_iff _ _ _ _ _ ()).mpr ⟨fields, hHash, rfl⟩
  have hMarked : FullSessions marked := by
    rw [← stateAfter_of_ok hMark]
    apply Sessions.stateAfter_hset hRenamed (fun _ _ _ hFull => hFull)
    intro fields' hFields'
    cases hHash.symm.trans hFields'
    exact hFields.setField "state" state
  have hCounter : counter marked .global "SESSIONS_SUCCESS" = counter db .global "SESSIONS_SUCCESS" := by
    apply counter_congr
    apply field_congr
    simp [marked, renamed]
  have hRun : exec (authenticateCommands oldSid newSid) db =
      exec [hincrby .global "SESSIONS_SUCCESS" "1", expire (.session newSid) 86400] marked := by
    rw [authenticateCommands, exec_cons_run, hRename]
    dsimp only
    rw [exec_cons_run, hMark]
  have hAfter : FullSessions (stateAfter (exec (authenticateCommands oldSid newSid)) db) := by
    rw [stateAfter, hRun]
    have hRest : Keeps FullSessions
        (exec [hincrby Key.global "SESSIONS_SUCCESS" "1", expire (Key.session newSid) 86400]) := by
      apply keeps_exec
      simp only [List.forall_mem_cons, List.not_mem_nil, false_imp_iff, implies_true, and_true]
      exact ⟨(noSession_hincrby _ _).keeps _, (noSession_expire _ _).keeps _⟩
    exact hRest.stateAfter hMarked
  refine ⟨by rwa [updateSessionAuthenticated, stateAfter_querySession], ?_⟩
  rw [updateSessionAuthenticated]
  unfold querySession
  rw [hRun, exec_cons_run]
  cases hIncr : hincrby Key.global "SESSIONS_SUCCESS" "1" marked with
  | ok u db' =>
    obtain ⟨i, hi, hSuccess⟩ := counter_of_hincrby hIncr
    have hOne : i = 1 := Option.some.inj (hi.symm.trans (by decide : Text.parseI64 "1" = some 1))
    rw [hCounter, hOne] at hSuccess
    exact .inl ⟨db', rfl, hSuccess⟩
  | error e db' =>
    rw [hincrby_error hIncr]
    exact .inr ⟨_, marked, rfl, hCounter⟩

end

end AffinidiMessaging.Mediator
