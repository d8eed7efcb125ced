import AffinidiMessaging.Mediator.SharedRegistry

/-! # The streaming task

`ws_streaming_task` keeps a map from DIDs to the channels of their sockets and writes every
update to the registry as well: to the map where the DID is in it, to the registry always.
-/

namespace AffinidiMessaging.Mediator

open Redis Fallible Transition

inductive StreamingUpdateState (Tx : Type)
  | register (clientTx : Tx)
  | start
  | stop
  | deregister
deriving DecidableEq

structure StreamingUpdate (Tx : Type) where
  didHash : String
  state : StreamingUpdateState Tx
deriving DecidableEq

structure PubSubRecord where
  didHash : String
  message : String
  forceDelivery : Bool
deriving DecidableEq

/-- The channel of each client, and whether it is active. -/
abbrev Clients (Tx : Type) := String → Option (Tx × Bool)

variable {Tx : Type}

namespace Clients

/-- What an update does to the map; the counts in the log lines are left out. -/
def update (clients : Clients Tx) (value : StreamingUpdate Tx) : Clients Tx :=
  let entry := match value.state with
    | .register clientTx => some (clientTx, false)
    | .start => (clients value.didHash).map fun c => (c.1, true)
    | .stop => (clients value.didHash).map fun c => (c.1, false)
    | .deregister => none
  Function.update clients value.didHash entry

/-- The channel a pub/sub message is sent to. -/
def recipient (clients : Clients Tx) (payload : PubSubRecord) : Option Tx :=
  match clients payload.didHash with
  | some (tx, active) => if payload.forceDelivery || active then some tx else none
  | none => none

/-- A message for a client that is not active stops its streaming. -/
def undeliverable (clients : Clients Tx) (payload : PubSubRecord) : Option RegistryOp :=
  match clients payload.didHash with
  | some (_, active) =>
    if payload.forceDelivery || active then none else some (.stopLive payload.didHash)
  | none => none

end Clients

def StreamingUpdate.registryOp (value : StreamingUpdate Tx) : RegistryOp :=
  match value.state with
  | .register _ => .register value.didHash
  | .start => .startLive value.didHash
  | .stop => .stopLive value.didHash
  | .deregister => .deregister value.didHash

structure TaskState (Tx : Type) where
  clients : Clients Tx
  db : Db

inductive TaskEvent (Tx : Type)
  | started (random : List String → Nat)
  | update (value : StreamingUpdate Tx)
  | published (payload : PubSubRecord)

/-- The registry operation of an event, if there is one. -/
def TaskEvent.registryOp (clients : Clients Tx) : TaskEvent Tx → Option RegistryOp
  | .started random => some (.cleanStart random)
  | .update value => some value.registryOp
  | .published payload => clients.undeliverable payload

def TaskEvent.clientsAfter (clients : Clients Tx) : TaskEvent Tx → Clients Tx
  | .started _ => fun _ => none
  | .update value => clients.update value
  | .published _ => clients

/-- The task of one mediator on a database without other mediators, without errors of Redis. The
task may be started again at any time. -/
def streamingTask (Tx : Type) (env : Environment) (uuid : String) :
    System (TaskState Tx) (TaskEvent Tx) where
  init s := s.clients = (fun _ => none) ∧ s.db .globalStreaming = none ∧
    ∀ u, s.db (.streamingSessions u) = none
  step s event s' := s'.clients = event.clientsAfter s.clients ∧
    match event.registryOp s.clients with
    | some op => op.run env uuid s.db = .ok () s'.db
    | none => s'.db = s.db

/-- The entry of a client in the registry. -/
def entryOf (uuid : String) (client : Tx × Bool) : String :=
  uuid ++ if client.2 then ":TRUE" else ":FALSE"

/-- The map says what the registry says. -/
structure Agree (uuid : String) (clients : Clients Tx) (r : Registry) : Prop where
  entry : ∀ d, r.entry d = (clients d).map (entryOf uuid)
  sessions : ∀ d, d ∈ r.sessions uuid ↔ (clients d).isSome

/-- A start or a stop is for a client that is in the map. -/
def Registered (clients : Clients Tx) : TaskEvent Tx → Prop
  | .update ⟨d, .start⟩ | .update ⟨d, .stop⟩ => (clients d).isSome
  | _ => True

theorem entry_live (uuid : String) (tx : Tx) :
    some (uuid ++ ":" ++ "TRUE") = some (entryOf uuid (tx, true)) := by
  rw [String.append_assoc]
  rfl

theorem entry_notLive (uuid : String) (tx : Tx) :
    some (uuid ++ ":" ++ "FALSE") = some (entryOf uuid (tx, false)) := by
  rw [String.append_assoc]
  rfl

namespace Agree

variable {uuid : String} {clients : Clients Tx} {r : Registry}

theorem started (random : List String → Nat) (h : Agree uuid clients r) :
    Agree uuid (fun _ => none : Clients Tx) (r.after uuid (.cleanStart random)) where
  entry d := by
    simp only [Registry.after, Option.map_none]
    split
    · rfl
    · next hd =>
      rw [h.sessions, Option.not_isSome_iff_eq_none] at hd
      rw [h.entry, hd]
      rfl
  sessions d := by simp [Registry.after]

/-- The entry of one client of the map is replaced, and so is its entry in the registry. -/
theorem replaced (h : Agree uuid clients r) {d : String} (hSome : (clients d).isSome)
    {client : Tx × Bool} {value : String} (hValue : some value = some (entryOf uuid client)) :
    Agree uuid (Function.update clients d (some client)) (r.setEntry d (some value)) where
  entry g := by
    rw [Registry.setEntry_entry, Function.update_apply]
    split
    · exact hValue
    · exact h.entry g
  sessions g := by
    rw [Registry.setEntry_sessions, h.sessions, Function.update_apply]
    split
    · next hg => simp [hg, hSome]
    · rfl

theorem register (h : Agree uuid clients r) (d : String) (tx : Tx) :
    Agree uuid (Function.update clients d (some (tx, false)))
      ((r.setSessions uuid (insert d (r.sessions uuid))).setEntry d (some (uuid ++ ":FALSE"))) where
  entry g := by
    rw [Registry.setEntry_entry, Function.update_apply]
    split
    · rfl
    · exact h.entry g
  sessions g := by
    rw [Registry.setEntry_sessions, Registry.setSessions_sessions, if_pos rfl, Set.mem_insert_iff,
      h.sessions, Function.update_apply]
    split
    · next hg => simp [hg]
    · next hg => simp [hg]

theorem deregister (h : Agree uuid clients r) (d : String) :
    Agree uuid (Function.update clients d none)
      ((r.setSessions uuid (r.sessions uuid \ {d})).setEntry d none) where
  entry g := by
    rw [Registry.setEntry_entry, Function.update_apply]
    split
    · rfl
    · exact h.entry g
  sessions g := by
    rw [Registry.setEntry_sessions, Registry.setSessions_sessions, if_pos rfl,
      Function.update_apply]
    change g ∈ r.sessions uuid ∧ g ∉ ({d} : Set String) ↔ _
    rw [h.sessions, Set.mem_singleton_iff]
    split
    · next hg => simp [hg]
    · next hg => simp [hg]

/-- A message that cannot be delivered stops a client that is stopped already. -/
theorem undeliverable (h : Agree uuid clients r) {payload : PubSubRecord} {op : RegistryOp}
    (hOp : clients.undeliverable payload = some op) : Agree uuid clients (r.after uuid op) := by
  unfold Clients.undeliverable at hOp
  split at hOp
  · next tx active hClient =>
    split at hOp
    · cases hOp
    · next hInactive =>
      cases hOp
      have hFalse : active = false := by simp_all
      subst hFalse
      have hReplaced := h.replaced (by rw [hClient]; rfl) (entry_notLive uuid tx)
        (d := payload.didHash)
      rw [← hClient, Function.update_eq_self] at hReplaced
      exact hReplaced
  · cases hOp

theorem update (h : Agree uuid clients r) {value : StreamingUpdate Tx}
    (hRegistered : Registered clients (.update value)) :
    Agree uuid (clients.update value) (r.after uuid value.registryOp) := by
  obtain ⟨d, state⟩ := value
  cases state with
  | register tx => exact h.register d tx
  | deregister => exact h.deregister d
  | start =>
    obtain ⟨⟨tx, active⟩, hClient⟩ := Option.isSome_iff_exists.mp hRegistered
    have hMap : clients.update ⟨d, .start⟩ = Function.update clients d (some (tx, true)) := by
      simp [Clients.update, hClient]
    rw [hMap]
    exact h.replaced hRegistered (entry_live uuid tx)
  | stop =>
    obtain ⟨⟨tx, active⟩, hClient⟩ := Option.isSome_iff_exists.mp hRegistered
    have hMap : clients.update ⟨d, .stop⟩ = Function.update clients d (some (tx, false)) := by
      simp [Clients.update, hClient]
    rw [hMap]
    exact h.replaced hRegistered (entry_notLive uuid tx)

end Agree

theorem agree_invariant (env : Environment) (uuid : String) :
    ((streamingTask Tx env uuid).restrict fun s event => Registered s.clients event).Invariant
      fun s => Streamable s.db ∧ Agree uuid s.clients (.ofDb s.db) where
  init := by
    rintro s ⟨hClients, hEntries, hSessions⟩
    refine ⟨⟨⟨[], by rw [hEntries]; rfl⟩, fun u => ⟨[], by rw [hSessions]; rfl⟩⟩, ?_, ?_⟩
    · intro d
      rw [hClients]
      simp [Registry.ofDb, field, hEntries]
    · intro d
      rw [hClients]
      simp [Registry.ofDb, members, hSessions]
  step := by
    rintro s event s' ⟨hStreamable, hAgree⟩ ⟨hRegistered, hClients, hStep⟩
    -- an operation that succeeds does what the refinement says
    have hRun {op : RegistryOp} (h : op.run env uuid s.db = .ok () s'.db)
        (hAfter : Agree uuid s'.clients ((Registry.ofDb s.db).after uuid op)) :
        Streamable s'.db ∧ Agree uuid s'.clients (.ofDb s'.db) := by
      obtain ⟨db', hRefined, hStreamable', hSame⟩ := op.run_refines env uuid hStreamable
      cases h.symm.trans hRefined
      exact ⟨hStreamable', hSame ▸ hAfter⟩
    cases event with
    | started random =>
      refine hRun hStep ?_
      rw [hClients]
      exact hAgree.started random
    | update value =>
      refine hRun hStep ?_
      rw [hClients]
      exact hAgree.update hRegistered
    | published payload =>
      change s'.clients = s.clients at hClients
      change (match s.clients.undeliverable payload with
        | some op => op.run env uuid s.db = .ok () s'.db
        | none => s'.db = s.db) at hStep
      cases hOp : s.clients.undeliverable payload with
      | some op =>
        rw [hOp] at hStep
        refine hRun hStep ?_
        rw [hClients]
        exact hAgree.undeliverable hOp
      | none =>
        rw [hOp] at hStep
        rw [hStep, hClients]
        exact ⟨hStreamable, hAgree⟩

/-- As long as only clients of the map are started and stopped, the map and the registry agree. -/
theorem map_agrees_with_registry (env : Environment) (uuid : String) (s : TaskState Tx)
    (hs : ((streamingTask Tx env uuid).restrict fun s event =>
      Registered s.clients event).Reachable s) :
    Agree uuid s.clients (.ofDb s.db) :=
  ((agree_invariant env uuid).holds hs).2

/-- The next state of a task whose registry operation succeeds. -/
def TaskState.next (env : Environment) (uuid : String) (s : TaskState Tx)
    (value : StreamingUpdate Tx) : TaskState Tx :=
  { clients := s.clients.update value, db := stateAfter (value.registryOp.run env uuid) s.db }

/-- A client that registers and is made live. -/
theorem map_agrees_with_registry_live :
    ∃ s : TaskState Nat,
      ((streamingTask Nat sampleEnvironment "mediator-1").restrict fun s event =>
        Registered s.clients event).Reachable s ∧
      Agree "mediator-1" s.clients (.ofDb s.db) := by
  let start : TaskState Nat := ⟨fun _ => none, fun _ => none⟩
  let registered := start.next sampleEnvironment "mediator-1" ⟨bobHash, .register 1⟩
  let live := registered.next sampleEnvironment "mediator-1" ⟨bobHash, .start⟩
  have hReachable : ((streamingTask Nat sampleEnvironment "mediator-1").restrict fun s event =>
      Registered s.clients event).Reachable live :=
    .step (s := registered) (l := .update ⟨bobHash, .start⟩)
      (.step (s := start) (l := .update ⟨bobHash, .register 1⟩) (.init ⟨rfl, rfl, fun _ => rfl⟩)
        ⟨trivial, rfl, rfl⟩)
      ⟨(rfl : (registered.clients bobHash).isSome = true), rfl, rfl⟩
  exact ⟨live, hReachable, map_agrees_with_registry sampleEnvironment "mediator-1" live hReachable⟩

/-- A live-delivery-change request of a client without a socket. -/
theorem map_disagrees_with_registry :
    ∃ s : TaskState Nat, (streamingTask Nat sampleEnvironment "mediator-1").Reachable s ∧
      ¬ Agree "mediator-1" s.clients (.ofDb s.db) := by
  let start : TaskState Nat := ⟨fun _ => none, fun _ => none⟩
  let live := start.next sampleEnvironment "mediator-1" ⟨bobHash, .start⟩
  have hReachable : (streamingTask Nat sampleEnvironment "mediator-1").Reachable live :=
    .step (s := start) (l := .update ⟨bobHash, .start⟩) (.init ⟨rfl, rfl, fun _ => rfl⟩) ⟨rfl, rfl⟩
  refine ⟨live, hReachable, fun h => ?_⟩
  have hEntry := h.entry bobHash
  revert hEntry
  decide

end AffinidiMessaging.Mediator
