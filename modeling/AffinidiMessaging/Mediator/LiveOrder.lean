import AffinidiMessaging.Mediator.Reconnect

/-! # The order of live delivery

What a socket sends to its client is, in order, what the streaming task took for it from pub/sub, and
all of that was published for the DID of the socket.
-/

namespace AffinidiMessaging.Mediator

open Transition

namespace Streaming

/-- What a socket sends to its client in a step. -/
def received (id : Nat) : Streaming × StreamingEvent → List String
  | (s, .receive j) =>
    if j = id then ((s.sockets id).bind fun socket => socket.deliveries.head?).toList else []
  | _ => []

/-- What the task takes from pub/sub for a socket in a step. -/
def routed (id : Nat) : Streaming × StreamingEvent → List String
  | (s, .publish payload) => if s.clients.recipient payload = some id then [payload.message] else []
  | _ => []

/-- What is taken from pub/sub for a DID in a step. -/
def published (didHash : String) : Streaming × StreamingEvent → List String
  | (_, .publish payload) => if payload.didHash = didHash then [payload.message] else []
  | _ => []

/-- What the task is sending to a socket. -/
def inFlight (s : Streaming) (id : Nat) : List String :=
  match s.task with
  | .delivering j message => if j = id then [message] else []
  | .selecting => []

def queued (s : Streaming) (id : Nat) : List String := (s.sockets id).elim [] Socket.deliveries

def Closed (s : Streaming) (id : Nat) : Prop := ∃ socket, s.sockets id = some socket ∧ socket.phase = .closed

/-- Each message that was taken for a socket was sent, is in its channel or is being put there; once the
socket is closed the last ones may be lost. -/
structure Accounted (steps : List (Streaming × StreamingEvent)) (s : Streaming) (id : Nat) : Prop where
  inOrder : steps.flatMap (received id) ++ s.queued id <+: steps.flatMap (routed id)
  none_lost : ¬ s.Closed id → steps.flatMap (received id) ++ s.queued id ++ s.inFlight id = steps.flatMap (routed id)

/-- The entries of the map, and those that are to be made, are of sockets of their DIDs. -/
structure Owned (s : Streaming) : Prop where
  entries : ∀ d id active, s.clients d = some (id, active) → ∃ socket, s.sockets id = some socket ∧ socket.didHash = d
  registers : ∀ sender d tx, (sender, ⟨d, .register tx⟩) ∈ s.updates →
    ∃ socket, s.sockets tx = some socket ∧ socket.didHash = d

variable {s s' : Streaming} {event : StreamingEvent} {id : Nat}

theorem publish_cases {payload : PubSubRecord} (h : s.step (.publish payload) = some s') :
    s.task = .selecting ∧ ((∃ id, s.clients.recipient payload = some id ∧
      s' = { s with task := .delivering id payload.message }) ∨ s.clients.recipient payload = none ∧ s' = s) := by
  simp only [step] at h
  split at h
  · next id hTask hRecipient => exact ⟨hTask, .inl ⟨id, hRecipient, (Option.some.inj h).symm⟩⟩
  · next hTask hRecipient => exact ⟨hTask, .inr ⟨hRecipient, (Option.some.inj h).symm⟩⟩
  · cases h

theorem delivered_cases (h : s.step .delivered = some s') :
    ∃ id message socket, s.task = .delivering id message ∧ s.sockets id = some socket ∧
      (socket.phase = .closed ∧ s' = { s with task := .selecting } ∨ socket.phase ≠ .closed ∧
        s' = { s.setSocket id { socket with deliveries := socket.deliveries ++ [message] } with task :=
          .selecting }) := by
  simp only [step] at h
  split at h
  · next id message hTask =>
    simp only [deliver, Option.bind_eq_bind, Option.bind_eq_some_iff] at h
    obtain ⟨socket, hSocket, h⟩ := h
    refine ⟨id, message, socket, hTask, hSocket, ?_⟩
    split at h
    · next hClosed => exact .inl ⟨hClosed, (Option.some.inj h).symm⟩
    · next hOpen =>
      split at h
      · exact .inr ⟨hOpen, (Option.some.inj h).symm⟩
      · cases h
  · cases h

theorem recipient_eq_some {clients : Clients Nat} {payload : PubSubRecord} (h : clients.recipient payload = some id) :
    ∃ active, clients payload.didHash = some (id, active) := by
  unfold Clients.recipient at h
  split at h
  · next tx active hClient =>
    split at h
    · cases h
      exact ⟨active, hClient⟩
    · cases h
  · cases h

/-! ## Sockets keep their DIDs -/

/-- A step that a socket takes, or that is not about it, leaves its DID. -/
theorem Move.socket_kept (h : Move s event s') {socket : Socket} (hSocket : s.sockets id = some socket) :
    ∃ socket', s'.sockets id = some socket' ∧ socket'.didHash = socket.didHash := by
  have hSet {j : Nat} {before after : Socket} (hj : s.sockets j = some before) (hDid : after.didHash = before.didHash) :
      ∃ socket', (s.setSocket j after).sockets id = some socket' ∧ socket'.didHash = socket.didHash := by
    rw [setSocket_sockets]
    by_cases hId : id = j
    · subst hId
      cases hSocket.symm.trans hj
      exact ⟨after, if_pos rfl, hDid⟩
    · exact ⟨socket, by rw [if_neg hId, hSocket], rfl⟩
  cases h with
  | connect hNone =>
    refine ⟨socket, ?_, rfl⟩
    rw [setSocket_sockets, if_neg (fun hId => by rw [hId, hNone] at hSocket; cases hSocket), hSocket]
  | toggle hj _ => exact hSet hj rfl
  | clientEnds hj _ => exact hSet hj rfl
  | receive hj _ => exact hSet hj rfl
  | senderGone hj _ _ _ => exact hSet hj rfl
  | sent hj _ _ => exact hSet hj rfl
  | request => exact ⟨socket, hSocket, rfl⟩
  | requestSent _ => exact ⟨socket, hSocket, rfl⟩
  | takeUpdate _ _ => exact ⟨socket, hSocket, rfl⟩
  | publish _ _ => exact ⟨socket, hSocket, rfl⟩
  | ignore => exact ⟨socket, hSocket, rfl⟩
  | delivered _ hj _ => exact hSet hj rfl
  | lost _ _ _ => exact ⟨socket, hSocket, rfl⟩

theorem Move.sockets_kept (h : Move s event s') {d : String}
    (hSocket : ∃ socket, s.sockets id = some socket ∧ socket.didHash = d) :
    ∃ socket, s'.sockets id = some socket ∧ socket.didHash = d := by
  obtain ⟨socket, hSocket, rfl⟩ := hSocket
  exact h.socket_kept hSocket

theorem Owned.takeUpdate (h : Owned s) {sender : Option Nat} {value : StreamingUpdate Nat}
    {rest : List (Option Nat × StreamingUpdate Nat)} (hUpdates : s.updates = (sender, value) :: rest)
    {d : String} {active : Bool} (hClient : s.clients.update value d = some (id, active)) :
    ∃ socket, s.sockets id = some socket ∧ socket.didHash = d := by
  obtain ⟨did, state⟩ := value
  simp only [Clients.update, Function.update_apply] at hClient
  split at hClient
  · next hDid =>
    subst hDid
    cases state with
    | register tx =>
      cases hClient
      exact h.registers sender d id (hUpdates ▸ List.mem_cons_self)
    | start =>
      obtain ⟨⟨tx, before⟩, hBefore, hEq⟩ := Option.map_eq_some_iff.mp hClient
      cases hEq
      exact h.entries d _ before hBefore
    | stop =>
      obtain ⟨⟨tx, before⟩, hBefore, hEq⟩ := Option.map_eq_some_iff.mp hClient
      cases hEq
      exact h.entries d _ before hBefore
    | deregister => cases hClient
  · exact h.entries d id active hClient

theorem owned_invariant : streamingSystem.Invariant Owned where
  init s hs := by
    subst hs
    exact ⟨fun d id active h => (by cases h), fun sender d tx h => (by cases h)⟩
  step s event s' h hStep := by
    have hMove := move_of_step hStep
    have hKept {d : String} {id : Nat} (hSocket : ∃ socket, s.sockets id = some socket ∧ socket.didHash = d) :=
      hMove.sockets_kept hSocket
    -- what the map and the channel may gain in a step
    have hEntries : ∀ d id active, s'.clients d = some (id, active) → ∃ socket,
        s.sockets id = some socket ∧ socket.didHash = d := by
      intro d id active hClient
      cases hMove with
      | takeUpdate _ hUpdates => exact h.takeUpdate hUpdates hClient
      | _ => exact h.entries d id active hClient
    have hRegisters : ∀ sender d tx, (sender, ⟨d, .register tx⟩) ∈ s'.updates →
        ∃ socket, s.sockets tx = some socket ∧ socket.didHash = d := by
      intro sender d tx hMem
      cases hMove with
      | @sent j socket value phase hSocket hSending _ =>
        rcases List.mem_append.mp hMem with hBefore | hNow
        · exact h.registers sender d tx hBefore
        · cases List.mem_singleton.mp hNow
          unfold sending at hSending
          split at hSending
          · cases hSending
            exact ⟨socket, hSocket, rfl⟩
          · next live _ =>
            simp only [Option.some.injEq, Prod.mk.injEq, StreamingUpdate.mk.injEq] at hSending
            exact absurd hSending.1.2 (liveState_ne_register live tx)
          · cases hSending
          · cases hSending
          · cases hSending
      | @requestSent did live _ =>
        rcases List.mem_append.mp hMem with hBefore | hNow
        · exact h.registers sender d tx hBefore
        · simp only [List.mem_singleton, Prod.mk.injEq, StreamingUpdate.mk.injEq] at hNow
          exact absurd hNow.2.2.symm (liveState_ne_register live tx)
      | takeUpdate _ hUpdates => exact h.registers sender d tx (hUpdates ▸ List.mem_cons_of_mem _ hMem)
      | _ => exact h.registers sender d tx hMem
    exact ⟨fun d id active hClient => hKept (hEntries d id active hClient),
      fun sender d tx hMem => hKept (hRegisters sender d tx hMem)⟩

/-! ## What a step does to the channel of a socket -/

theorem queued_setSocket (s : Streaming) (j : Nat) (socket : Socket) :
    (s.setSocket j socket).queued id = if id = j then socket.deliveries else s.queued id := by
  rw [queued, setSocket_sockets]
  by_cases hId : id = j
  · rw [if_pos hId, if_pos hId, Option.elim_some]
  · rw [if_neg hId, if_neg hId, queued]

@[simp] theorem inFlight_setSocket (s : Streaming) (j : Nat) (socket : Socket) :
    (s.setSocket j socket).inFlight id = s.inFlight id := rfl

theorem queued_eq {socket : Socket} (h : s.sockets id = some socket) : s.queued id = socket.deliveries := by
  rw [queued, h, Option.elim_some]

/-- A step that is no message on its way leaves the channel. -/
theorem Accounted.of_eq {steps : List (Streaming × StreamingEvent)} (h : Accounted steps s id)
    (hReceived : received id (s, event) = []) (hRouted : routed id (s, event) = [])
    (hQueued : s'.queued id = s.queued id)
    (hInFlight : s'.inFlight id = s.inFlight id) (hClosed : s.Closed id → s'.Closed id) :
    Accounted (steps ++ [(s, event)]) s' id where
  inOrder := by simpa [hReceived, hRouted, hQueued] using h.inOrder
  none_lost hOpen := by simpa [hReceived, hRouted, hQueued, hInFlight] using h.none_lost (mt hClosed hOpen)

theorem Accounted.setSocket {steps : List (Streaming × StreamingEvent)} (h : Accounted steps s id)
    (hReceived : received id (s, event) = []) (hRouted : routed id (s, event) = []) {j : Nat} {socket socket' : Socket}
    (hSocket : s.sockets j = some socket) (hDeliveries : socket'.deliveries = socket.deliveries)
    (hClosed : socket.phase = .closed → socket'.phase = .closed) :
    Accounted (steps ++ [(s, event)]) (s.setSocket j socket') id := by
  refine h.of_eq hReceived hRouted ?_ rfl ?_
  · rw [queued_setSocket]
    by_cases hId : id = j
    · rw [if_pos hId, hDeliveries, hId, queued_eq hSocket]
    · rw [if_neg hId]
  · rintro ⟨before, hBefore, hPhase⟩
    by_cases hId : id = j
    · subst hId
      cases hSocket.symm.trans hBefore
      exact ⟨socket', by rw [setSocket_sockets, if_pos rfl], hClosed hPhase⟩
    · exact ⟨before, by rw [setSocket_sockets, if_neg hId, hBefore], hPhase⟩

theorem Accounted.receive {steps : List (Streaming × StreamingEvent)} (h : Accounted steps s id) {j : Nat}
    {socket : Socket}
    (hSocket : s.sockets j = some socket) (hPhase : socket.phase = .selecting) :
    Accounted (steps ++ [(s, .receive j)]) (s.setSocket j { socket with deliveries := socket.deliveries.tail }) id := by
  have hTaken : received id (s, .receive j) ++
      (s.setSocket j { socket with deliveries := socket.deliveries.tail }).queued id = s.queued id := by
    rw [queued_setSocket]
    by_cases hId : id = j
    · subst hId
      simp only [received, if_true, hSocket, Option.bind_some, queued_eq hSocket]
      cases socket.deliveries <;> rfl
    · rw [if_neg hId, received, if_neg (Ne.symm hId), List.nil_append]
  constructor
  · simpa [routed, List.append_assoc, hTaken] using h.inOrder
  · intro hOpen
    have hBefore : ¬ s.Closed id := by
      rintro ⟨before, hBefore, hClosed⟩
      refine hOpen ?_
      by_cases hId : id = j
      · subst hId
        cases hSocket.symm.trans hBefore
        cases hPhase.symm.trans hClosed
      · exact ⟨before, by rw [setSocket_sockets, if_neg hId, hBefore], hClosed⟩
    simpa [routed, List.append_assoc, ← hTaken] using h.none_lost hBefore

/-- The task takes a message for the socket that it is for. -/
theorem Accounted.publish {steps : List (Streaming × StreamingEvent)} (h : Accounted steps s id)
    {payload : PubSubRecord}
    (hStep : s.step (.publish payload) = some s') : Accounted (steps ++ [(s, .publish payload)]) s' id := by
  obtain ⟨hTask, ⟨j, hRecipient, rfl⟩ | ⟨hNone, rfl⟩⟩ := publish_cases hStep
  · have hIdle : s.inFlight id = [] := by rw [inFlight, hTask]
    have hRouted : routed id (s, .publish payload) = if j = id then [payload.message] else [] := by
      simp only [routed, hRecipient, Option.some.injEq]
    let t : Streaming := { s with task := .delivering j payload.message }
    have hQueued : t.queued id = s.queued id := rfl
    have hInFlight : t.inFlight id = if j = id then [payload.message] else [] := rfl
    constructor
    · simpa [received, t, hQueued] using h.inOrder.trans (List.prefix_append _ _)
    · intro hOpen
      have hBefore := h.none_lost hOpen
      rw [hIdle, List.append_nil] at hBefore
      simp [received, hQueued, hInFlight, hRouted, t, ← hBefore]
  · exact h.of_eq rfl (by simp only [routed, hNone, reduceCtorEq, if_false]) rfl rfl fun hClosed => hClosed

theorem Accounted.delivered {steps : List (Streaming × StreamingEvent)} (h : Accounted steps s id) {j : Nat}
    {message : String}
    {socket : Socket} (hTask : s.task = .delivering j message) (hSocket : s.sockets j = some socket)
    (hOpen : socket.phase ≠ .closed) :
    Accounted (steps ++ [(s, .delivered)])
      { s.setSocket j { socket with deliveries := socket.deliveries ++ [message] } with task := .selecting } id := by
  let t : Streaming := { s.setSocket j
    { socket with deliveries := socket.deliveries ++ [message] } with task := .selecting }
  have hQueued : t.queued id = s.queued id ++ s.inFlight id := by
    change (s.setSocket j _).queued id = _
    rw [queued_setSocket, inFlight, hTask]
    by_cases hId : id = j
    · subst hId
      simp [queued_eq hSocket]
    · simp [hId, Ne.symm hId]
  by_cases hClosed : s.Closed id
  · have hOther : ¬ j = id := by
      rintro rfl
      obtain ⟨before, hBefore, hPhase⟩ := hClosed
      cases hSocket.symm.trans hBefore
      exact hOpen hPhase
    have hNone : s.inFlight id = [] := by simp only [inFlight, hTask, if_neg hOther]
    have hStill : t.Closed id := by
      obtain ⟨before, hBefore, hPhase⟩ := hClosed
      exact ⟨before, by simpa [t, Ne.symm hOther] using hBefore, hPhase⟩
    rw [hNone, List.append_nil] at hQueued
    refine ⟨?_, fun hNot => absurd hStill hNot⟩
    change _ ++ t.queued id <+: _
    rw [hQueued]
    simpa [received, routed] using h.inOrder
  · have hAll := h.none_lost hClosed
    have hNow : (steps ++ [(s, StreamingEvent.delivered)]).flatMap (received id) ++ t.queued id =
        (steps ++ [(s, StreamingEvent.delivered)]).flatMap (routed id) := by
      simpa [received, routed, hQueued, List.append_assoc] using hAll
    exact ⟨hNow ▸ List.prefix_refl _, fun _ => by simpa [t, inFlight] using hNow⟩

/-- What is sent to a socket that is closed is lost. -/
theorem Accounted.lost {steps : List (Streaming × StreamingEvent)} (h : Accounted steps s id) {j : Nat}
    {message : String}
    {socket : Socket} (hTask : s.task = .delivering j message) (hSocket : s.sockets j = some socket)
    (hClosed : socket.phase = .closed) :
    Accounted (steps ++ [(s, .delivered)]) { s with task := .selecting } id := by
  let t : Streaming := { s with task := .selecting }
  have hQueued : t.queued id = s.queued id := rfl
  constructor
  · simpa [received, routed, t, hQueued] using h.inOrder
  · intro hOpen
    have hOther : ¬ j = id := by
      rintro rfl
      exact hOpen ⟨socket, hSocket, hClosed⟩
    have hAll := h.none_lost hOpen
    simp only [inFlight, hTask, if_neg hOther] at hAll
    simpa [received, routed, inFlight, t, hQueued] using hAll

theorem Accounted.step {steps : List (Streaming × StreamingEvent)} (h : Accounted steps s id)
    (hStep : s.step event = some s') : Accounted (steps ++ [(s, event)]) s' id := by
  cases event with
  | publish payload => exact h.publish hStep
  | delivered =>
    obtain ⟨j, message, socket, hTask, hSocket, ⟨hClosed, rfl⟩ | ⟨hOpen, rfl⟩⟩ := delivered_cases hStep
    · exact h.lost hTask hSocket hClosed
    · exact h.delivered hTask hSocket hOpen
  | receive j =>
    cases move_of_step hStep with
    | receive hSocket hPhase => exact h.receive hSocket hPhase
  | connect j d =>
    cases move_of_step hStep with
    | connect hNone =>
      refine h.of_eq rfl rfl ?_ rfl ?_
      · rw [queued_setSocket]
        by_cases hId : id = j
        · rw [if_pos hId, queued, hId, hNone]
          rfl
        · rw [if_neg hId]
      · rintro ⟨socket, hSocket, hClosed⟩
        have hId : id ≠ j := fun hId => by rw [hId, hNone] at hSocket; cases hSocket
        exact ⟨socket, by rw [setSocket_sockets, if_neg hId, hSocket], hClosed⟩
  | toggle j live =>
    cases move_of_step hStep with
    | toggle hSocket hPhase => exact h.setSocket rfl rfl hSocket rfl fun hClosed => by cases hPhase.symm.trans hClosed
  | clientEnds j =>
    cases move_of_step hStep with
    | clientEnds hSocket hPhase =>
      exact h.setSocket rfl rfl hSocket rfl fun hClosed => by cases hPhase.symm.trans hClosed
  | senderGone j =>
    cases move_of_step hStep with
    | senderGone hSocket hPhase _ _ =>
      exact h.setSocket rfl rfl hSocket rfl fun hClosed => by cases hPhase.symm.trans hClosed
  | sent j =>
    cases move_of_step hStep with
    | @sent _ socket _ phase hSocket hSending _ =>
      have hReceived : received id (s, .sent j) = [] := rfl
      have hRouted : routed id (s, .sent j) = [] := rfl
      have hPhase : socket.phase ≠ .closed := fun hClosed => by
        rw [sending, hClosed] at hSending
        cases hSending
      have hSame : Accounted (steps ++ [(s, .sent j)]) (s.setSocket j { socket with phase := phase }) id :=
        h.setSocket hReceived hRouted hSocket rfl fun hClosed => absurd hClosed hPhase
      exact ⟨hSame.inOrder, hSame.none_lost⟩
  | request d live =>
    cases move_of_step hStep
    exact h.of_eq rfl rfl rfl rfl fun hClosed => hClosed
  | requestSent d live =>
    cases move_of_step hStep
    exact h.of_eq rfl rfl rfl rfl fun hClosed => hClosed
  | takeUpdate =>
    cases move_of_step hStep
    exact h.of_eq rfl rfl rfl rfl fun hClosed => hClosed

theorem accounted_of_trace {steps : List (Streaming × StreamingEvent)}
    (h : streamingSystem.Trace .start steps s) (id : Nat) :
    Accounted steps s id := by
  induction h with
  | nil => exact ⟨List.prefix_refl _, fun _ => rfl⟩
  | snoc _ hStep ih => exact ih.step hStep

/-! ## What a socket is sent is for its DID -/

/-- What is taken for a socket was published for its DID. -/
theorem Owned.routed_published (h : Owned s) {socket : Socket} (hSocket : s.sockets id = some socket) :
    (routed id (s, event)).Sublist (published socket.didHash (s, event)) := by
  cases event with
  | publish payload =>
    by_cases hRecipient : s.clients.recipient payload = some id
    · obtain ⟨active, hClient⟩ := recipient_eq_some hRecipient
      obtain ⟨owner, hOwner, hDid⟩ := h.entries _ _ _ hClient
      cases hSocket.symm.trans hOwner
      simp only [routed, published, if_pos hRecipient, if_pos hDid.symm, List.Sublist.refl]
    · simp only [routed, if_neg hRecipient, List.nil_sublist]
  | _ => exact .slnil

theorem Owned.routed_none (h : Owned s) (hNone : s.sockets id = none) : routed id (s, event) = [] := by
  cases event with
  | publish payload =>
    refine if_neg fun hRecipient => ?_
    obtain ⟨active, hClient⟩ := recipient_eq_some hRecipient
    obtain ⟨owner, hOwner, -⟩ := h.entries _ _ _ hClient
    cases hNone.symm.trans hOwner
  | _ => rfl

theorem routed_of_trace {steps : List (Streaming × StreamingEvent)}
    (h : streamingSystem.Trace .start steps s) (id : Nat) :
    (s.sockets id = none → steps.flatMap (routed id) = []) ∧
      ∀ socket, s.sockets id = some socket →
        (steps.flatMap (routed id)).Sublist (steps.flatMap (published socket.didHash)) := by
  induction h with
  | nil => exact ⟨fun _ => rfl, fun _ _ => .slnil⟩
  | @snoc steps s s' event hs hStep ih =>
    obtain ⟨hNone, hSome⟩ := ih
    have hOwned : Owned s := owned_invariant.holds (hs.reachable (.init rfl))
    have hMove := move_of_step hStep
    simp only [List.flatMap_append, List.flatMap_singleton]
    cases hBefore : s.sockets id with
    | none =>
      rw [hNone hBefore, hOwned.routed_none hBefore, List.append_nil]
      exact ⟨fun _ => rfl, fun _ _ => List.nil_sublist _⟩
    | some before =>
      obtain ⟨after, hAfter, hDid⟩ := hMove.socket_kept hBefore
      refine ⟨fun hGone => (by cases hGone.symm.trans hAfter), fun socket hSocket => ?_⟩
      cases hAfter.symm.trans hSocket
      rw [hDid]
      exact (hSome before hBefore).append (hOwned.routed_published hBefore)

theorem Accounted.sent {steps : List (Streaming × StreamingEvent)} (h : Accounted steps s id) {socket : Socket}
    (hSocket : s.sockets id = some socket) :
    (steps.flatMap (received id) ++ socket.deliveries <+: steps.flatMap (routed id)) ∧
      (socket.phase ≠ .closed →
        steps.flatMap (received id) ++ socket.deliveries ++ s.inFlight id = steps.flatMap (routed id)) := by
  obtain ⟨hPrefix, hAll⟩ := h
  rw [queued_eq hSocket] at hPrefix hAll
  refine ⟨hPrefix, fun hOpen => hAll ?_⟩
  rintro ⟨closed, hClosed, hPhase⟩
  cases hSocket.symm.trans hClosed
  exact hOpen hPhase

/-- What a socket has sent to its client and has in its channel is, in order and without a gap, what the task took
from pub/sub for it, and nothing of that is lost before the socket is closed. All of it was published for the DID
of the socket, in that order. -/
theorem live_in_order {steps : List (Streaming × StreamingEvent)} (h : streamingSystem.Trace .start steps s)
    {socket : Socket} (hSocket : s.sockets id = some socket) :
    (steps.flatMap (received id) ++ socket.deliveries <+: steps.flatMap (routed id)) ∧
      (socket.phase ≠ .closed →
        steps.flatMap (received id) ++ socket.deliveries ++ s.inFlight id = steps.flatMap (routed id)) ∧
      (steps.flatMap (routed id)).Sublist (steps.flatMap (published socket.didHash)) := by
  obtain ⟨hPrefix, hAll⟩ := (accounted_of_trace h id).sent hSocket
  exact ⟨hPrefix, hAll, (routed_of_trace h id).2 socket hSocket⟩

/-- The steps of a run, each with its state. -/
def stepsOf (s : Streaming) : List StreamingEvent → List (Streaming × StreamingEvent)
  | [] => []
  | event :: events => (s, event) :: (s.step event).elim [] fun s' => stepsOf s' events

theorem trace_of_run {events : List StreamingEvent} (h : s.run events = some s') :
    streamingSystem.Trace s (s.stepsOf events) s' := by
  induction events generalizing s with
  | nil =>
    cases h
    exact .nil
  | cons event events ih =>
    obtain ⟨next, hStep, hRest⟩ := Option.bind_eq_some_iff.mp h
    rw [stepsOf, hStep, Option.elim_some]
    exact .cons hStep (ih hRest)

/-- Bob's socket registers, asks for live delivery and is sent one message; another is on its way to it. -/
def bobListens : List StreamingEvent :=
  [.connect 1 "bob", .sent 1, .takeUpdate, .toggle 1 true, .sent 1, .takeUpdate, .publish ⟨"alice", "for alice", false⟩,
    .publish ⟨"bob", "hello", false⟩, .delivered, .receive 1, .publish ⟨"bob", "again", false⟩]

theorem live_in_order_bob : ∃ s socket, streamingSystem.Trace .start (start.stepsOf bobListens) s ∧
    s.sockets 1 = some socket ∧ (start.stepsOf bobListens).flatMap (received 1) = ["hello"] ∧
    (start.stepsOf bobListens).flatMap (received 1) ++ socket.deliveries ++ s.inFlight 1 =
      (start.stepsOf bobListens).flatMap (routed 1) ∧
    (start.stepsOf bobListens).flatMap (routed 1) = ["hello", "again"] := by
  have hSome : (start.run bobListens).isSome = true := by decide
  obtain ⟨s, hRun⟩ := Option.isSome_iff_exists.mp hSome
  have hSocket : (start.run bobListens).map (fun s => s.sockets 1) =
    some (some ⟨"bob", .selecting, [], false⟩) := by decide
  rw [hRun, Option.map_some, Option.some.injEq] at hSocket
  obtain ⟨-, hAll, -⟩ := live_in_order (trace_of_run hRun) hSocket
  exact ⟨s, _, trace_of_run hRun, hSocket, by decide, hAll (by decide), by decide⟩

end Streaming

end AffinidiMessaging.Mediator
