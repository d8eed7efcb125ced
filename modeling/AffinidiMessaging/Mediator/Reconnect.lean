import AffinidiMessaging.Mediator.WebSockets

/-! # Reconnecting clients

The map entry of a DID is replaced by the Register of a newer socket. That ends the older
one, whose Deregister names the DID alone and takes whatever entry is there.
-/

namespace AffinidiMessaging.Mediator

open Transition

namespace Streaming

variable {s s' : Streaming}

@[simp] theorem setSocket_sockets (s : Streaming) (id j : Nat) (socket : Socket) :
    (s.setSocket id socket).sockets j = if j = id then some socket else s.sockets j :=
  Function.update_apply _ _ _ _

@[simp] theorem setSocket_updates (s : Streaming) (id : Nat) (socket : Socket) :
    (s.setSocket id socket).updates = s.updates := rfl

@[simp] theorem setSocket_clients (s : Streaming) (id : Nat) (socket : Socket) :
    (s.setSocket id socket).clients = s.clients := rfl

@[simp] theorem setSocket_task (s : Streaming) (id : Nat) (socket : Socket) :
    (s.setSocket id socket).task = s.task := rfl

@[simp] theorem setSocket_lastRegistered (s : Streaming) (id : Nat) (socket : Socket) :
    (s.setSocket id socket).lastRegistered = s.lastRegistered := rfl

/-- A socket that has registered has a sender in the map or in the channel. -/
theorem senderLeft_iff (s : Streaming) (id : Nat) (socket : Socket) :
    s.senderLeft id socket = true ↔ (∃ active, s.clients socket.didHash = some (id, active)) ∨
      (∃ sender d, (sender, ⟨d, .register id⟩) ∈ s.updates) ∨ socket.phase = .registering := by
  simp only [senderLeft, Bool.or_eq_true, decide_eq_true_eq, List.any_eq_true, Option.map_eq_some_iff,
    or_assoc, Prod.exists]
  constructor
  · rintro (⟨_, active, hClient, rfl⟩ | ⟨sender, ⟨d, state⟩, hMem, rfl⟩ | hPhase)
    · exact .inl ⟨active, hClient⟩
    · exact .inr (.inl ⟨sender, d, hMem⟩)
    · exact .inr (.inr hPhase)
  · rintro (⟨active, hClient⟩ | ⟨sender, d, hMem⟩ | hPhase)
    · exact .inl ⟨id, active, hClient, rfl⟩
    · exact .inr (.inl ⟨sender, ⟨d, .register id⟩, hMem, rfl⟩)
    · exact .inr (.inr hPhase)

/-- What relates the handlers to the map and the channel. -/
structure Consistent (s : Streaming) : Prop where
  /-- A handler leaves its loop when its client ends or when its sender is dropped. -/
  ended : ∀ id socket, s.sockets id = some socket →
    socket.phase = .deregistering ∨ socket.phase = .closed →
      socket.clientEnded = true ∨ s.senderLeft id socket = false
  registers : ∀ sender d tx, (sender, ⟨d, .register tx⟩) ∈ s.updates →
    ∃ socket, s.sockets tx = some socket
  deregisters : ∀ sender d, (sender, ⟨d, .deregister⟩) ∈ s.updates →
    ∃ id socket, sender = some id ∧ s.sockets id = some socket ∧ socket.didHash = d ∧
      socket.phase = .closed
  last : ∀ d id, s.lastRegistered d = some id →
    ∃ socket, s.sockets id = some socket ∧
      (socket.clientEnded = true ∨ ∃ active, s.clients d = some (id, active))

/-- A Deregister finds no entry, or the one of the socket that sent it. -/
def OwnDeregister (s : Streaming) : StreamingEvent → Prop
  | .takeUpdate => ∀ sender d rest id active, s.updates = (sender, ⟨d, .deregister⟩) :: rest →
    s.clients d = some (id, active) → sender = some id
  | _ => True

/-- A socket goes on, with its client still there if it was there before. -/
structure Continues (s : Streaming) (id : Nat) (socket socket' : Socket) : Prop where
  didHash : socket'.didHash = socket.didHash
  clientEnded : socket.clientEnded = true → socket'.clientEnded = true
  ended : socket'.phase = .deregistering ∨ socket'.phase = .closed →
    socket'.clientEnded = true ∨ s.senderLeft id socket' = false
  closed : socket.phase = .closed → socket'.phase = .closed

theorem Consistent.setSocket (h : Consistent s) {id : Nat} {socket socket' : Socket}
    (hSocket : s.sockets id = some socket) (hContinues : Continues s id socket socket') :
    Consistent (s.setSocket id socket') where
  ended j socketJ hJ hPhase := by
    rw [setSocket_sockets] at hJ
    split at hJ
    · next hj =>
      cases hJ
      subst hj
      exact hContinues.ended hPhase
    · exact h.ended j socketJ hJ hPhase
  registers sender d tx hMem := by
    obtain ⟨socketTx, hTx⟩ := h.registers sender d tx hMem
    by_cases htx : tx = id
    · exact ⟨socket', by simp [htx]⟩
    · exact ⟨socketTx, by simp [htx, hTx]⟩
  deregisters sender d hMem := by
    obtain ⟨j, socketJ, hSender, hJ, hDid, hClosed⟩ := h.deregisters sender d hMem
    by_cases hj : j = id
    · subst hj
      rw [hSocket] at hJ
      cases hJ
      exact ⟨j, socket', hSender, by simp, hContinues.didHash.trans hDid, hContinues.closed hClosed⟩
    · exact ⟨j, socketJ, hSender, by simp [hj, hJ], hDid, hClosed⟩
  last d j hLast := by
    obtain ⟨socketJ, hJ, hKept⟩ := h.last d j hLast
    by_cases hj : j = id
    · subst hj
      rw [hSocket] at hJ
      cases hJ
      exact ⟨socket', by simp, hKept.imp hContinues.clientEnded id⟩
    · exact ⟨socketJ, by simp [hj, hJ], hKept⟩

theorem Consistent.connect (h : Consistent s) {id : Nat} (hNone : s.sockets id = none)
    (didHash : String) : Consistent (s.setSocket id ⟨didHash, .registering, [], false⟩) where
  ended j socketJ hJ hPhase := by
    rw [setSocket_sockets] at hJ
    split at hJ
    · cases hJ
      rcases hPhase with hPhase | hPhase <;> cases hPhase
    · exact h.ended j socketJ hJ hPhase
  registers sender d tx hMem := by
    obtain ⟨socketTx, hTx⟩ := h.registers sender d tx hMem
    by_cases htx : tx = id
    · rw [htx, hNone] at hTx
      cases hTx
    · exact ⟨socketTx, by simp [htx, hTx]⟩
  deregisters sender d hMem := by
    obtain ⟨j, socketJ, hSender, hJ, hDid, hClosed⟩ := h.deregisters sender d hMem
    by_cases hj : j = id
    · rw [hj, hNone] at hJ
      cases hJ
    · exact ⟨j, socketJ, hSender, by simp [hj, hJ], hDid, hClosed⟩
  last d j hLast := by
    obtain ⟨socketJ, hJ, hKept⟩ := h.last d j hLast
    by_cases hj : j = id
    · rw [hj, hNone] at hJ
      cases hJ
    · exact ⟨socketJ, by simp [hj, hJ], hKept⟩

/-- An update is queued; a Register by a socket in its loop, a Deregister by a closed one. -/
theorem Consistent.push (h : Consistent s) (sender : Option Nat) (value : StreamingUpdate Nat)
    (hRegister : ∀ tx, value.state = .register tx →
      ∃ socket, s.sockets tx = some socket ∧ socket.phase = .selecting)
    (hDeregister : value.state = .deregister → ∃ id socket, sender = some id ∧
      s.sockets id = some socket ∧ socket.didHash = value.didHash ∧ socket.phase = .closed) :
    Consistent { s with updates := s.updates ++ [(sender, value)] } where
  ended j socketJ hJ hPhase := by
    refine (h.ended j socketJ hJ hPhase).imp_right fun hGone => ?_
    rw [← Bool.not_eq_true, senderLeft_iff] at hGone ⊢
    rintro (hClient | ⟨sender', d, hMem⟩ | hRegistering)
    · exact hGone (.inl hClient)
    · rcases List.mem_append.mp hMem with hBefore | hNow
      · exact hGone (.inr (.inl ⟨sender', d, hBefore⟩))
      · cases List.mem_singleton.mp hNow
        obtain ⟨socketTx, hTx, hSelecting⟩ := hRegister j rfl
        cases hTx.symm.trans hJ
        rcases hPhase with hPhase | hPhase <;> cases hSelecting.symm.trans hPhase
    · exact hGone (.inr (.inr hRegistering))
  registers sender' d tx hMem := by
    rcases List.mem_append.mp hMem with hBefore | hNow
    · exact h.registers sender' d tx hBefore
    · cases List.mem_singleton.mp hNow
      obtain ⟨socketTx, hTx, -⟩ := hRegister tx rfl
      exact ⟨socketTx, hTx⟩
  deregisters sender' d hMem := by
    rcases List.mem_append.mp hMem with hBefore | hNow
    · exact h.deregisters sender' d hBefore
    · cases List.mem_singleton.mp hNow
      exact hDeregister rfl
  last := h.last

/-- Taking an update brings no sender back. -/
theorem senderLeft_takeUpdate {sender : Option Nat} {value : StreamingUpdate Nat}
    {rest : List (Option Nat × StreamingUpdate Nat)} (hUpdates : s.updates = (sender, value) :: rest)
    {last : String → Option Nat} {id : Nat} {socket : Socket}
    (hGone : s.senderLeft id socket = false) :
    senderLeft { s with clients := s.clients.update value, updates := rest, lastRegistered := last }
      id socket = false := by
  rw [← Bool.not_eq_true, senderLeft_iff] at hGone ⊢
  rintro (⟨active, hClient⟩ | ⟨sender', d, hMem⟩ | hPhase)
  · obtain ⟨d, state⟩ := value
    simp only [Clients.update, Function.update_apply] at hClient
    split at hClient
    · next hDid =>
      cases state with
      | register tx =>
        cases hClient
        exact hGone (.inr (.inl ⟨sender, d, by rw [hUpdates]; exact List.mem_cons_self⟩))
      | start =>
        obtain ⟨⟨tx, before⟩, hBefore, hEq⟩ := Option.map_eq_some_iff.mp hClient
        cases hEq
        exact hGone (.inl ⟨before, hDid ▸ hBefore⟩)
      | stop =>
        obtain ⟨⟨tx, before⟩, hBefore, hEq⟩ := Option.map_eq_some_iff.mp hClient
        cases hEq
        exact hGone (.inl ⟨before, hDid ▸ hBefore⟩)
      | deregister => cases hClient
    · exact hGone (.inl ⟨active, hClient⟩)
  · exact hGone (.inr (.inl ⟨sender', d, by rw [hUpdates]; exact List.mem_cons_of_mem _ hMem⟩))
  · exact hGone (.inr (.inr hPhase))

/-- The entry of the last socket stays, unless its own Deregister takes it away. -/
theorem Consistent.last_takeUpdate (h : Consistent s) {sender : Option Nat}
    {value : StreamingUpdate Nat} {rest : List (Option Nat × StreamingUpdate Nat)}
    (hUpdates : s.updates = (sender, value) :: rest) (hOwn : OwnDeregister s .takeUpdate) (d : String)
    (id : Nat) (hLast : registered s.lastRegistered value d = some id) :
    ∃ socket, s.sockets id = some socket ∧
      (socket.clientEnded = true ∨ ∃ active, s.clients.update value d = some (id, active)) := by
  obtain ⟨dv, state⟩ := value
  have hMem : (sender, ⟨dv, state⟩) ∈ s.updates := by
    rw [hUpdates]
    exact List.mem_cons_self
  cases state with
  | register tx =>
    simp only [registered, Function.update_apply] at hLast
    simp only [Clients.update, Function.update_apply]
    split at hLast
    · next hd =>
      cases hLast
      obtain ⟨socket, hSocket⟩ := h.registers sender dv id hMem
      exact ⟨socket, hSocket, .inr ⟨false, if_pos hd⟩⟩
    · next hd =>
      rw [if_neg hd]
      exact h.last d id hLast
  | start =>
    obtain ⟨socket, hSocket, hKept⟩ := h.last d id hLast
    refine ⟨socket, hSocket, hKept.imp_right ?_⟩
    rintro ⟨active, hClient⟩
    simp only [Clients.update, Function.update_apply]
    split
    · next hd => exact ⟨true, by rw [← hd, hClient]; rfl⟩
    · exact ⟨active, hClient⟩
  | stop =>
    obtain ⟨socket, hSocket, hKept⟩ := h.last d id hLast
    refine ⟨socket, hSocket, hKept.imp_right ?_⟩
    rintro ⟨active, hClient⟩
    simp only [Clients.update, Function.update_apply]
    split
    · next hd => exact ⟨false, by rw [← hd, hClient]; rfl⟩
    · exact ⟨active, hClient⟩
  | deregister =>
    obtain ⟨socket, hSocket, hKept⟩ := h.last d id hLast
    refine ⟨socket, hSocket, ?_⟩
    rcases hKept with hEnded | ⟨active, hClient⟩
    · exact .inl hEnded
    · by_cases hd : d = dv
      · -- the entry is its own, so it is the one that sent the Deregister
        subst hd
        obtain ⟨j, socketJ, rfl, hJ, hDid, hClosed⟩ := h.deregisters sender d hMem
        cases hOwn _ d rest id active hUpdates hClient
        cases hSocket.symm.trans hJ
        refine .inl ((h.ended id socket hJ (.inr hClosed)).resolve_right fun hGone => ?_)
        rw [← Bool.not_eq_true, senderLeft_iff] at hGone
        exact hGone (.inl ⟨active, hDid ▸ hClient⟩)
      · exact .inr ⟨active, by simpa [Clients.update, hd] using hClient⟩

theorem Consistent.takeUpdate (h : Consistent s) {sender : Option Nat} {value : StreamingUpdate Nat}
    {rest : List (Option Nat × StreamingUpdate Nat)} (hUpdates : s.updates = (sender, value) :: rest)
    (hOwn : OwnDeregister s .takeUpdate) :
    Consistent { s with clients := s.clients.update value, updates := rest,
                        lastRegistered := registered s.lastRegistered value } where
  ended j socketJ hJ hPhase :=
    (h.ended j socketJ hJ hPhase).imp_right (senderLeft_takeUpdate hUpdates)
  registers sender' d tx hMem :=
    h.registers sender' d tx (by rw [hUpdates]; exact List.mem_cons_of_mem _ hMem)
  deregisters sender' d hMem :=
    h.deregisters sender' d (by rw [hUpdates]; exact List.mem_cons_of_mem _ hMem)
  last := h.last_takeUpdate hUpdates hOwn

theorem liveState_ne_register (live : Bool) (tx : Nat) : liveState live ≠ .register tx := by
  cases live <;> simp [liveState]

theorem liveState_ne_deregister (live : Bool) : liveState live ≠ .deregister := by
  cases live <;> simp [liveState]

/-- A send that completes: the handler goes on, then the update is in the channel. -/
theorem Consistent.sent (h : Consistent s) {id : Nat} {socket : Socket}
    {value : StreamingUpdate Nat} {phase : SocketPhase} (hSocket : s.sockets id = some socket)
    (hSending : sending id socket = some (value, phase)) :
    Consistent ({ s with updates := s.updates ++ [(some id, value)] }.setSocket id
      { socket with phase := phase }) := by
  have hPhases : (phase = .selecting ∧ socket.phase ≠ .closed ∧ value.state ≠ .deregister ∧
        ∀ tx, value.state = .register tx → tx = id) ∨
      (phase = .closed ∧ socket.phase = .deregistering ∧ value = ⟨socket.didHash, .deregister⟩) := by
    unfold sending at hSending
    split at hSending <;> cases hSending
    · next hPhase =>
      exact .inl ⟨rfl, by simp [hPhase], by simp, fun tx htx => by cases htx; rfl⟩
    · next hPhase =>
      exact .inl ⟨rfl, by simp [hPhase], liveState_ne_deregister _,
        fun tx htx => absurd htx (liveState_ne_register _ _)⟩
    · next hPhase => exact .inr ⟨rfl, hPhase, rfl⟩
  rcases hPhases with ⟨rfl, hOpen, hNotDeregister, hOwnRegister⟩ | ⟨rfl, hDeregistering, rfl⟩
  · have hContinues : Continues s id socket { socket with phase := .selecting } :=
      ⟨rfl, fun hEnded => hEnded, fun hPhase => by simp at hPhase, fun hClosed => absurd hClosed hOpen⟩
    refine (h.setSocket hSocket hContinues).push (some id) value (fun tx htx => ?_) fun hState => ?_
    · rw [hOwnRegister tx htx]
      exact ⟨_, by rw [setSocket_sockets, if_pos rfl], rfl⟩
    · exact absurd hState hNotDeregister
  · have hContinues : Continues s id socket { socket with phase := .closed } := by
      refine ⟨rfl, fun hEnded => hEnded, fun _ => ?_, fun _ => rfl⟩
      refine (h.ended id socket hSocket (.inl hDeregistering)).imp_right fun hGone => ?_
      simpa [senderLeft, hDeregistering] using hGone
    refine (h.setSocket hSocket hContinues).push (some id) _ (fun tx htx => by cases htx) fun _ => ?_
    exact ⟨id, { socket with phase := .closed }, rfl, by rw [setSocket_sockets, if_pos rfl], rfl, rfl⟩

theorem Consistent.move (h : Consistent s) {event : StreamingEvent} (hOwn : OwnDeregister s event)
    (hMove : Move s event s') : Consistent s' := by
  cases hMove with
  | connect hNone => exact h.connect hNone _
  | toggle hSocket hPhase =>
    exact h.setSocket hSocket ⟨rfl, fun hEnded => hEnded, fun hPhase => by simp at hPhase,
      fun hClosed => by cases hPhase.symm.trans hClosed⟩
  | clientEnds hSocket hPhase =>
    exact h.setSocket hSocket ⟨rfl, fun _ => rfl, fun _ => .inl rfl,
      fun hClosed => by cases hPhase.symm.trans hClosed⟩
  | receive hSocket hPhase =>
    refine h.setSocket hSocket ⟨rfl, fun hEnded => hEnded, fun hLeft => ?_, fun hClosed => hClosed⟩
    rcases hLeft with hLeft | hLeft <;> cases hPhase.symm.trans hLeft
  | senderGone hSocket hPhase hEmpty hGone =>
    refine h.setSocket hSocket ⟨rfl, fun hEnded => hEnded, fun _ => .inr ?_,
      fun hClosed => by cases hPhase.symm.trans hClosed⟩
    simpa [senderLeft, hPhase] using hGone
  | sent hSocket hSending _ => exact h.sent hSocket hSending
  | request => exact ⟨h.ended, h.registers, h.deregisters, h.last⟩
  | @requestSent didHash live _ =>
    have hPushed := h.push none ⟨didHash, liveState live⟩
      (fun tx htx => absurd htx (liveState_ne_register live tx))
      (fun hState => absurd hState (liveState_ne_deregister live))
    exact ⟨hPushed.ended, hPushed.registers, hPushed.deregisters, hPushed.last⟩
  | takeUpdate _ hUpdates => exact h.takeUpdate hUpdates hOwn
  | publish _ _ => exact ⟨h.ended, h.registers, h.deregisters, h.last⟩
  | ignore => exact h
  | @delivered id message socket _ hSocket _ =>
    have hEnded : socket.phase = .deregistering ∨ socket.phase = .closed →
        socket.clientEnded = true ∨ s.senderLeft id socket = false := h.ended id socket hSocket
    have hContinues :
        Continues s id socket { socket with deliveries := socket.deliveries ++ [message] } :=
      ⟨rfl, fun hClient => hClient, hEnded, fun hClosed => hClosed⟩
    have hDelivered := h.setSocket hSocket hContinues
    exact ⟨hDelivered.ended, hDelivered.registers, hDelivered.deregisters, hDelivered.last⟩
  | lost _ _ _ => exact ⟨h.ended, h.registers, h.deregisters, h.last⟩

end Streaming

theorem consistent_invariant :
    (streamingSystem.restrict Streaming.OwnDeregister).Invariant Streaming.Consistent where
  init := by
    rintro s rfl
    constructor <;> simp [Streaming.start]
  step := by
    rintro s event s' h ⟨hOwn, hStep⟩
    exact h.move hOwn (Streaming.move_of_step hStep)

/-- As long as no Deregister takes the entry of another socket, the entry of a DID is the one of
the last socket that registered, until its client ends it. -/
theorem newer_socket_stays {s : Streaming}
    (hs : (streamingSystem.restrict Streaming.OwnDeregister).Reachable s) {d : String} {id : Nat}
    (hLast : s.lastRegistered d = some id) {socket : Socket} (hSocket : s.sockets id = some socket)
    (hOpen : socket.clientEnded = false) : ∃ active, s.clients d = some (id, active) := by
  obtain ⟨socket', hSocket', hKept⟩ := (consistent_invariant.holds hs).last d id hLast
  cases hSocket.symm.trans hSocket'
  refine hKept.resolve_left fun hEnded => ?_
  rw [hOpen] at hEnded
  cases hEnded

/-- The state after some steps. -/
def Streaming.run (s : Streaming) (events : List StreamingEvent) : Option Streaming :=
  events.foldlM Streaming.step s

theorem reachable_run {s s' : Streaming} (hs : streamingSystem.Reachable s)
    {events : List StreamingEvent} (h : s.run events = some s') : streamingSystem.Reachable s' := by
  induction events generalizing s with
  | nil =>
    cases h
    exact hs
  | cons event rest ih =>
    obtain ⟨s₁, hStep, hRest⟩ := Option.bind_eq_some_iff.mp h
    exact ih (hs.step hStep) hRest

/-- The state after some steps, each of them tested before. -/
def Streaming.runIf (test : Streaming → StreamingEvent → Bool) (s : Streaming) (events : List StreamingEvent) :
    Option Streaming :=
  events.foldlM (fun s event => if test s event then s.step event else none) s

theorem reachable_runIf {allowed : Streaming → StreamingEvent → Prop} {test : Streaming → StreamingEvent → Bool}
    (hTest : ∀ s event, test s event = true → allowed s event) {s s' : Streaming}
    (hs : (streamingSystem.restrict allowed).Reachable s) {events : List StreamingEvent}
    (h : s.runIf test events = some s') : (streamingSystem.restrict allowed).Reachable s' := by
  induction events generalizing s with
  | nil =>
    cases h
    exact hs
  | cons event rest ih =>
    obtain ⟨s₁, hStep, hRest⟩ := Option.bind_eq_some_iff.mp h
    rw [Option.ite_none_right_eq_some] at hStep
    exact ih (hs.step ⟨hTest s event hStep.1, hStep.2⟩) hRest

/-- Whether a Deregister finds no entry, or the one of its sender. -/
def Streaming.ownsEntry (s : Streaming) : StreamingEvent → Bool
  | .takeUpdate =>
    match s.updates with
    | (sender, ⟨d, .deregister⟩) :: _ => (s.clients d).all fun client => some client.1 == sender
    | _ => true
  | _ => true

theorem Streaming.ownDeregister_of_ownsEntry (s : Streaming) (event : StreamingEvent) (h : s.ownsEntry event = true) :
    s.OwnDeregister event := by
  cases event with
  | takeUpdate =>
    intro sender d rest id active hUpdates hClient
    simp only [ownsEntry, hUpdates, hClient, Option.all_some, beq_iff_eq] at h
    exact h.symm
  | _ => trivial

/-- A client connects, leaves and connects again. -/
theorem newer_socket_stays_reconnected : ∃ (s : Streaming) (active : Bool),
    (streamingSystem.restrict Streaming.OwnDeregister).Reachable s ∧ s.lastRegistered bobHash = some 2 ∧
      s.clients bobHash = some (2, active) := by
  let events : List StreamingEvent :=
    [.connect 1 bobHash, .sent 1, .takeUpdate, .clientEnds 1, .sent 1, .takeUpdate, .connect 2 bobHash, .sent 2,
      .takeUpdate]
  have hSome : (Streaming.start.runIf Streaming.ownsEntry events).isSome = true := by decide
  obtain ⟨s, hs⟩ := Option.isSome_iff_exists.mp hSome
  have hFacts : (Streaming.start.runIf Streaming.ownsEntry events).map (fun s =>
      (s.lastRegistered bobHash, s.sockets 2)) = some (some 2, some ⟨bobHash, .selecting, [], false⟩) := by decide
  rw [hs] at hFacts
  simp only [Option.map_some, Option.some.injEq, Prod.mk.injEq] at hFacts
  have hReachable := reachable_runIf Streaming.ownDeregister_of_ownsEntry (.init rfl) hs
  obtain ⟨active, hClient⟩ := newer_socket_stays hReachable hFacts.1 hFacts.2 rfl
  exact ⟨s, active, hReachable, hFacts.1, hClient⟩

/-- A client connects a second time; the Deregister of its first socket comes last. -/
def reconnect : List StreamingEvent :=
  [.connect 1 bobHash, .sent 1, .takeUpdate, .connect 2 bobHash, .sent 2, .takeUpdate, .senderGone 1,
    .sent 1, .takeUpdate]

/-- The older socket takes the entry of the newer one away, whose client is still there. -/
theorem newer_socket_removed :
    ∃ s socket, streamingSystem.Reachable s ∧ s.lastRegistered bobHash = some 2 ∧
      s.sockets 2 = some socket ∧ socket.clientEnded = false ∧ s.clients bobHash = none := by
  have hSome : (Streaming.start.run reconnect).isSome = true := by decide
  obtain ⟨s, hs⟩ := Option.isSome_iff_exists.mp hSome
  have hFacts : (Streaming.start.run reconnect).map (fun s =>
      (s.lastRegistered bobHash, s.sockets 2, s.clients bobHash)) =
        some (some 2, some ⟨bobHash, .selecting, [], false⟩, none) := by decide
  rw [hs] at hFacts
  simp only [Option.map_some, Option.some.injEq, Prod.mk.injEq] at hFacts
  exact ⟨s, _, reachable_run (.init rfl) hs, hFacts.1, hFacts.2.1, rfl, hFacts.2.2⟩

end AffinidiMessaging.Mediator
