import AffinidiMessaging.Library.RedisCommands
import AffinidiMessaging.Mediator.DatabaseHandler

/-! # The registry of live clients

Which mediator a client is connected to is one field of a hash that all mediators share; each
mediator also has a set of its own clients. The calls of `streaming.rs` and the function
`clean_start_streaming` refine five operations on these two maps.
-/

namespace AffinidiMessaging.Mediator

open Redis Text Fallible

/-- `clean_start_streaming`, round by round: every round takes one session out of the set. -/
def cleanSessions (random : List String → Nat) (uuid : String) : Nat → Script Nat
  | 0 => return 0
  | rounds + 1 => do
    let response ← spop random (.streamingSessions uuid)
    match response with
    | none => return 0
    | some session => do
      hdel .globalStreaming session
      let counter ← cleanSessions random uuid rounds
      return counter + 1

/-- keys = uuid; answers the number of sessions cleaned up. There are never more rounds than
members, and one that finds none. -/
def cleanStartStreaming (random : List String → Nat) (keys args : List String) : Script Nat :=
  match keys with
  | [uuid] =>
    match args with
    | [] => fun db =>
      cleanSessions random uuid ((members db (.streamingSessions uuid)).length + 1) db
    | _ => errorReply "clean_start_streaming: No arguments required"
  | _ => errorReply "clean_start_streaming: only accepts one key"

namespace DatabaseHandler

variable (env : Environment)

def streamingFailed (function didHash uuid : String) : String :=
  function ++ "() for did_hash(" ++ didHash ++ ") stream_uuid(STREAMING_SESSIONS:" ++ uuid ++
    ") failed. Reason: "

def streamingCleanStart (random : List String → Nat) (uuid : String) : Handler Unit := do
  let _ ← query env "NA" "redis function clean_start_streaming() failed. Reason: "
    (cleanStartStreaming random [uuid] [])
  return ()

def streamingRegisterClient (didHash uuid : String) : Handler Unit :=
  query env "NA" (streamingFailed "streaming_register_client" didHash uuid)
    (exec [sadd (.streamingSessions uuid) didHash,
      hset .globalStreaming [(didHash, uuid ++ ":FALSE")]])

def streamingStartLive (didHash uuid : String) : Handler Unit :=
  query env "NA" (streamingFailed "streaming_start_live" didHash uuid)
    (hset .globalStreaming [(didHash, uuid ++ ":" ++ "TRUE")])

def streamingStopLive (didHash uuid : String) : Handler Unit :=
  query env "NA" (streamingFailed "streaming_stop_live" didHash uuid)
    (hset .globalStreaming [(didHash, uuid ++ ":" ++ "FALSE")])

def streamingDeregisterClient (didHash uuid : String) : Handler Unit :=
  query env "NA" (streamingFailed "streaming_deregister_client" didHash uuid)
    (exec [srem (.streamingSessions uuid) didHash, hdel .globalStreaming didHash])

/-- The mediator of a row of the registry, if it may be sent to. -/
def liveRow (row : String) (forceDelivery : Bool) : Option String :=
  match splitAll ':' row with
  | [uuid, state] => if state = "TRUE" ∨ forceDelivery = true then some uuid else none
  | _ => none

def streamingIsClientLive (didHash : String) (forceDelivery : Bool) : Handler (Option String) := do
  match ← attempt (query env "NA" "" (hget .globalStreaming didHash)) with
  | .ok response => return response.bind (liveRow · forceDelivery)
  | .error _ => return none

end DatabaseHandler

/-- What a mediator does to the registry. -/
inductive RegistryOp
  | register (didHash : String)
  | startLive (didHash : String)
  | stopLive (didHash : String)
  | deregister (didHash : String)
  | cleanStart (random : List String → Nat)

def RegistryOp.run (env : Environment) (uuid : String) : RegistryOp → Handler Unit
  | .register d => DatabaseHandler.streamingRegisterClient env d uuid
  | .startLive d => DatabaseHandler.streamingStartLive env d uuid
  | .stopLive d => DatabaseHandler.streamingStopLive env d uuid
  | .deregister d => DatabaseHandler.streamingDeregisterClient env d uuid
  | .cleanStart random => DatabaseHandler.streamingCleanStart env random uuid

/-- The entries of GLOBAL_STREAMING, and the sessions of each mediator. -/
structure Registry where
  entry : String → Option String
  sessions : String → Set String

namespace Registry

def ofDb (db : Db) : Registry where
  entry := field db .globalStreaming
  sessions uuid := { d | d ∈ members db (.streamingSessions uuid) }

def setEntry (r : Registry) (didHash : String) (value : Option String) : Registry :=
  { r with entry := Function.update r.entry didHash value }

def setSessions (r : Registry) (uuid : String) (clients : Set String) : Registry :=
  { r with sessions := Function.update r.sessions uuid clients }

open Classical in
/-- The operation of a mediator on the two maps. -/
noncomputable def after (r : Registry) (uuid : String) : RegistryOp → Registry
  | .register d => (r.setSessions uuid (insert d (r.sessions uuid))).setEntry d (some (uuid ++ ":FALSE"))
  | .startLive d => r.setEntry d (some (uuid ++ ":" ++ "TRUE"))
  | .stopLive d => r.setEntry d (some (uuid ++ ":" ++ "FALSE"))
  | .deregister d => (r.setSessions uuid (r.sessions uuid \ {d})).setEntry d none
  | .cleanStart _ =>
    { entry := fun d => if d ∈ r.sessions uuid then none else r.entry d
      sessions := Function.update r.sessions uuid ∅ }

@[simp] theorem setEntry_entry (r : Registry) (d g : String) (v : Option String) :
    (r.setEntry d v).entry g = if g = d then v else r.entry g :=
  Function.update_apply _ _ _ _

@[simp] theorem setEntry_sessions (r : Registry) (d : String) (v : Option String) :
    (r.setEntry d v).sessions = r.sessions := rfl

@[simp] theorem setSessions_entry (r : Registry) (uuid : String) (clients : Set String) :
    (r.setSessions uuid clients).entry = r.entry := rfl

@[simp] theorem setSessions_sessions (r : Registry) (uuid v : String) (clients : Set String) :
    (r.setSessions uuid clients).sessions v = if v = uuid then clients else r.sessions v :=
  Function.update_apply _ _ _ _

theorem ext_iff' {r r' : Registry} : r = r' ↔ r.entry = r'.entry ∧ r.sessions = r'.sessions := by
  cases r
  cases r'
  simp

end Registry

/-- The keys of the registry have values of their types. -/
structure Streamable (db : Db) : Prop where
  entries : HoldsHash db .globalStreaming
  sessions : ∀ uuid, HoldsSet db (.streamingSessions uuid)

theorem query_ok_iff {α : Type} (env : Environment) (sessionId context : String) (c : Script α)
    (db db' : Db) (a : α) :
    DatabaseHandler.query env sessionId context c db = .ok a db' ↔ c db = .ok a db' := by
  unfold DatabaseHandler.query
  cases c db <;> simp

section
variable {db db' : Db} {u : Unit}

theorem ofDb_hset {d v : String} (h : hset .globalStreaming [(d, v)] db = .ok u db') :
    Registry.ofDb db' = (Registry.ofDb db).setEntry d (some v) := by
  refine Registry.ext_iff'.mpr ⟨?_, ?_⟩
  · funext g
    rw [Registry.setEntry_entry]
    exact field_of_hset h g
  · funext uuid
    change { d | d ∈ members db' _ } = { d | d ∈ members db _ }
    rw [members_congr (hset_other (by simp) h)]

theorem ofDb_hdel {d : String} (h : hdel .globalStreaming d db = .ok u db') :
    Registry.ofDb db' = (Registry.ofDb db).setEntry d none := by
  refine Registry.ext_iff'.mpr ⟨?_, ?_⟩
  · funext g
    rw [Registry.setEntry_entry]
    exact field_of_hdel h g
  · funext uuid
    change { d | d ∈ members db' _ } = { d | d ∈ members db _ }
    rw [members_congr (rewriteKey_other (by simp) h)]

theorem ofDb_sessions {uuid : String} (hOther : ∀ k, k ≠ .streamingSessions uuid → db' k = db k) :
    Registry.ofDb db' =
      (Registry.ofDb db).setSessions uuid { d | d ∈ members db' (.streamingSessions uuid) } := by
  refine Registry.ext_iff'.mpr ⟨?_, ?_⟩
  · funext g
    exact field_congr (hOther _ (by simp)) g
  · funext v
    rw [Registry.setSessions_sessions]
    split
    · next hv =>
      subst hv
      rfl
    · next hv =>
      change { d | d ∈ members db' _ } = { d | d ∈ members db _ }
      rw [members_congr (hOther _ (by simp [hv]))]

theorem ofDb_sadd {uuid d : String} (h : sadd (.streamingSessions uuid) d db = .ok u db') :
    Registry.ofDb db' =
      (Registry.ofDb db).setSessions uuid (insert d ((Registry.ofDb db).sessions uuid)) := by
  rw [ofDb_sessions fun k hk => rewriteKey_other hk h]
  congr 1
  ext m
  exact mem_members_of_sadd h m

theorem ofDb_srem {uuid d : String} (h : srem (.streamingSessions uuid) d db = .ok u db') :
    Registry.ofDb db' =
      (Registry.ofDb db).setSessions uuid ((Registry.ofDb db).sessions uuid \ {d}) := by
  rw [ofDb_sessions fun k hk => rewriteKey_other hk h]
  congr 1
  ext m
  exact (mem_members_of_srem h m).trans and_comm

end

namespace Streamable

variable {db : Db}

theorem congr (h : Streamable db) {db' : Db} (hEntries : HoldsHash db' .globalStreaming)
    (hOther : ∀ uuid, db' (.streamingSessions uuid) = db (.streamingSessions uuid)) :
    Streamable db' where
  entries := hEntries
  sessions uuid := by
    unfold HoldsSet
    rw [hOther uuid]
    exact h.sessions uuid

theorem congr_sessions (h : Streamable db) {db' : Db} (uuid : String)
    (hSet : HoldsSet db' (.streamingSessions uuid))
    (hOther : ∀ k, k ≠ .streamingSessions uuid → db' k = db k) : Streamable db' where
  entries := by
    unfold HoldsHash
    rw [hOther _ (by simp)]
    exact h.entries
  sessions v := by
    by_cases hv : v = uuid
    · exact hv ▸ hSet
    · unfold HoldsSet
      rw [hOther _ (by simp [hv])]
      exact h.sessions v

theorem hset (h : Streamable db) (d v : String) :
    ∃ db', Redis.hset .globalStreaming [(d, v)] db = .ok () db' ∧ Streamable db' := by
  obtain ⟨fields, hFields⟩ := h.entries
  have hRun := (hset_ok_iff .globalStreaming d v db _ ()).mpr ⟨fields, hFields, rfl⟩
  refine ⟨_, hRun, h.congr ⟨setField d v fields, ?_⟩ fun uuid => hset_other (by simp) hRun⟩
  rw [Function.update_self]
  rfl

theorem hdel (h : Streamable db) (d : String) :
    ∃ db', Redis.hdel .globalStreaming d db = .ok () db' ∧ Streamable db' := by
  obtain ⟨fields, hFields⟩ := h.entries
  have hRun := (hdel_ok_iff .globalStreaming d db _ ()).mpr ⟨fields, hFields, rfl⟩
  refine ⟨_, hRun, h.congr ⟨fields.filter (·.1 ≠ d), ?_⟩ fun uuid => rewriteKey_other (by simp) hRun⟩
  rw [Function.update_self, asHash_ofHash]

theorem sadd (h : Streamable db) (uuid d : String) :
    ∃ db', Redis.sadd (.streamingSessions uuid) d db = .ok () db' ∧ Streamable db' := by
  obtain ⟨ms, hMs⟩ := h.sessions uuid
  have hRun := (sadd_ok_iff (.streamingSessions uuid) d db _ ()).mpr ⟨ms, hMs, rfl⟩
  refine ⟨_, hRun, h.congr_sessions uuid ⟨if d ∈ ms then ms else ms ++ [d], ?_⟩ fun k hk =>
    rewriteKey_other hk hRun⟩
  rw [Function.update_self]
  rfl

theorem srem (h : Streamable db) (uuid d : String) :
    ∃ db', Redis.srem (.streamingSessions uuid) d db = .ok () db' ∧ Streamable db' := by
  obtain ⟨ms, hMs⟩ := h.sessions uuid
  have hRun := (srem_ok_iff (.streamingSessions uuid) d db _ ()).mpr ⟨ms, hMs, rfl⟩
  refine ⟨_, hRun, h.congr_sessions uuid ⟨ms.filter (· ≠ d), ?_⟩ fun k hk => rewriteKey_other hk hRun⟩
  rw [Function.update_self, asSet_ofSet]

theorem spop (h : Streamable db) (random : List String → Nat) (uuid : String) :
    (members db (.streamingSessions uuid) = [] ∧
        ∃ db', Redis.spop random (.streamingSessions uuid) db = .ok none db' ∧ Streamable db' ∧
          Registry.ofDb db' = Registry.ofDb db) ∨
      ∃ session db', Redis.spop random (.streamingSessions uuid) db = .ok (some session) db' ∧
        Streamable db' ∧ session ∈ members db (.streamingSessions uuid) ∧
        members db' (.streamingSessions uuid) =
          (members db (.streamingSessions uuid)).filter (· ≠ session) ∧
        ∀ k, k ≠ .streamingSessions uuid → db' k = db k := by
  obtain ⟨ms, hMs⟩ := h.sessions uuid
  rw [members_of_asSet hMs]
  have hRun := (spop_ok_iff random (.streamingSessions uuid) db _ _).mpr ⟨ms, hMs, rfl, rfl⟩
  have hOther {k : Key} (hk : k ≠ .streamingSessions uuid) := rewriteKey_other hk hRun
  have hStreamable := h.congr_sessions uuid ⟨_, by rw [Function.update_self, asSet_ofSet]⟩
    fun k hk => hOther hk
  cases hPopped : ms[random ms % ms.length]? with
  | none =>
    have hEmpty : ms = [] := by
      rw [List.getElem?_eq_none_iff] at hPopped
      exact List.eq_nil_of_length_eq_zero (by
        by_contra hPos
        have := Nat.mod_lt (random ms) (Nat.pos_of_ne_zero hPos)
        omega)
    rw [hPopped] at hRun hStreamable hOther
    refine .inl ⟨hEmpty, _, hRun, hStreamable, ?_⟩
    refine Registry.ext_iff'.mpr ⟨funext fun g => field_congr (hOther (by simp)) g, ?_⟩
    funext v
    by_cases hv : v = uuid
    · subst hv
      change { d | d ∈ members _ _ } = { d | d ∈ members _ _ }
      rw [members_ofSet, members_of_asSet hMs, hEmpty]
      rfl
    · change { d | d ∈ members _ _ } = { d | d ∈ members _ _ }
      rw [members_congr (hOther (by simp [hv]))]
  | some session =>
    rw [hPopped] at hRun hStreamable hOther
    refine .inr ⟨session, _, hRun, hStreamable, List.mem_of_getElem? hPopped, ?_, fun k hk => hOther hk⟩
    rw [members_ofSet]
    simp

/-- The rounds of a clean start: the induction is on the rounds, which are more than the sessions
left. -/
theorem cleanSessions (h : Streamable db) (random : List String → Nat) (uuid : String)
    (rounds : Nat) (hRounds : (members db (.streamingSessions uuid)).length < rounds) :
    ∃ n db', Mediator.cleanSessions random uuid rounds db = .ok n db' ∧ Streamable db' ∧
      Registry.ofDb db' = (Registry.ofDb db).after uuid (.cleanStart random) := by
  induction rounds generalizing db with
  | zero => omega
  | succ rounds ih =>
    rcases h.spop random uuid with ⟨hEmpty, db', hRun, hStreamable, hSame⟩ |
      ⟨session, db₁, hRun, hStreamable, hMem, hMembers, hOther⟩
    · refine ⟨0, db', ?_, hStreamable, ?_⟩
      · rw [Mediator.cleanSessions, bind_of_ok hRun]
        rfl
      · have hNone : (Registry.ofDb db).sessions uuid = ∅ := by
          ext d
          simp [Registry.ofDb, hEmpty]
        rw [hSame]
        refine Registry.ext_iff'.mpr ⟨?_, ?_⟩
        · funext d
          simp [Registry.after, hNone]
        · rw [Registry.after, ← hNone]
          exact (Function.update_eq_self _ _).symm
    · obtain ⟨db₂, hDel, hStreamable₂⟩ := hStreamable.hdel session
      have hLeft : members db₂ (.streamingSessions uuid) =
          (members db (.streamingSessions uuid)).filter (· ≠ session) := by
        rw [members_congr (rewriteKey_other (by simp) hDel), hMembers]
      have hFewer : (members db₂ (.streamingSessions uuid)).length < rounds := by
        have hLess : ((members db (.streamingSessions uuid)).filter (· ≠ session)).length <
            (members db (.streamingSessions uuid)).length :=
          List.length_filter_lt_length_iff_exists.mpr ⟨session, hMem, by simp⟩
        rw [hLeft]
        omega
      obtain ⟨n, db', hRest, hStreamable', hAfter⟩ := ih hStreamable₂ hFewer
      refine ⟨n + 1, db', ?_, hStreamable', ?_⟩
      · rw [Mediator.cleanSessions, bind_of_ok hRun]
        dsimp only
        rw [bind_of_ok hDel, bind_of_ok hRest]
        rfl
      · rw [hAfter, ofDb_hdel hDel, ofDb_sessions fun k hk => hOther k hk, hMembers]
        refine Registry.ext_iff'.mpr ⟨?_, ?_⟩
        · funext d
          have hSessions : d ∈ (Registry.ofDb db).sessions uuid ↔
              d ∈ members db (.streamingSessions uuid) := Iff.rfl
          by_cases hd : d = session
          · subst hd
            simp [Registry.after, hSessions, hMem]
          · simp [Registry.after, hSessions, hd]
        · funext v
          by_cases hv : v = uuid
          · subst hv
            simp [Registry.after]
          · simp [Registry.after, hv]

end Streamable

/-- The calls of a mediator succeed on a registry of the right types, and do on it what the
operations do. -/
theorem RegistryOp.run_refines (env : Environment) (uuid : String) (op : RegistryOp) {db : Db} (h : Streamable db) :
    ∃ db', op.run env uuid db = .ok () db' ∧ Streamable db' ∧
      Registry.ofDb db' = (Registry.ofDb db).after uuid op := by
  cases op with
  | register d =>
    obtain ⟨db₁, hAdd, h₁⟩ := h.sadd uuid d
    obtain ⟨db₂, hSet, h₂⟩ := h₁.hset d (uuid ++ ":FALSE")
    refine ⟨db₂, ?_, h₂, by rw [ofDb_hset hSet, ofDb_sadd hAdd]; rfl⟩
    rw [RegistryOp.run, DatabaseHandler.streamingRegisterClient, query_ok_iff, exec_cons_ok_iff]
    exact ⟨db₁, hAdd, (exec_cons_ok_iff _ _ _ _ _).mpr ⟨db₂, hSet, rfl⟩⟩
  | startLive d =>
    obtain ⟨db₁, hSet, h₁⟩ := h.hset d (uuid ++ ":" ++ "TRUE")
    exact ⟨db₁, (query_ok_iff _ _ _ _ _ _ _).mpr hSet, h₁, ofDb_hset hSet⟩
  | stopLive d =>
    obtain ⟨db₁, hSet, h₁⟩ := h.hset d (uuid ++ ":" ++ "FALSE")
    exact ⟨db₁, (query_ok_iff _ _ _ _ _ _ _).mpr hSet, h₁, ofDb_hset hSet⟩
  | deregister d =>
    obtain ⟨db₁, hRem, h₁⟩ := h.srem uuid d
    obtain ⟨db₂, hDel, h₂⟩ := h₁.hdel d
    refine ⟨db₂, ?_, h₂, by rw [ofDb_hdel hDel, ofDb_srem hRem]; rfl⟩
    rw [RegistryOp.run, DatabaseHandler.streamingDeregisterClient, query_ok_iff, exec_cons_ok_iff]
    exact ⟨db₁, hRem, (exec_cons_ok_iff _ _ _ _ _).mpr ⟨db₂, hDel, rfl⟩⟩
  | cleanStart random =>
    obtain ⟨n, db₁, hClean, h₁, hAfter⟩ := h.cleanSessions random uuid _ (Nat.lt_succ_self _)
    have hCall : cleanStartStreaming random [uuid] [] db = .ok n db₁ := hClean
    refine ⟨db₁, ?_, h₁, hAfter⟩
    rw [RegistryOp.run, DatabaseHandler.streamingCleanStart,
      bind_of_ok ((query_ok_iff _ _ _ _ _ _ _).mpr hCall)]
    rfl

end AffinidiMessaging.Mediator
