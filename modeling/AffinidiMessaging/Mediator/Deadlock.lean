import AffinidiMessaging.Mediator.Reconnect

/-! # The streaming task and a handler that wait for each other

The task is the only one that takes updates, and a handler that sends an update takes no
deliveries. With both channels full neither goes on, and no other task can help them.
-/

namespace AffinidiMessaging.Mediator

open Transition

namespace Socket

def Full (socket : Socket) : Prop := deliveryCapacity ≤ socket.deliveries.length

/-- The handler is in a live-delivery-change or in its closing Deregister. -/
def SendsUpdate (socket : Socket) : Prop :=
  socket.phase = .deregistering ∨ ∃ live, socket.phase = .toggling live

theorem SendsUpdate.ne_selecting {socket : Socket} (h : socket.SendsUpdate) :
    socket.phase ≠ .selecting := by
  rintro hPhase
  rcases h with h | ⟨live, h⟩ <;> cases h.symm.trans hPhase

theorem SendsUpdate.ne_closed {socket : Socket} (h : socket.SendsUpdate) :
    socket.phase ≠ .closed := by
  rintro hPhase
  rcases h with h | ⟨live, h⟩ <;> cases h.symm.trans hPhase

end Socket

namespace Streaming

variable {s s' : Streaming}

structure CircularWait (s : Streaming) (id : Nat) (socket : Socket) : Prop where
  task : ∃ message, s.task = .delivering id message
  handler : s.sockets id = some socket
  full : socket.Full
  sends : socket.SendsUpdate
  updates : updateCapacity ≤ s.updates.length

def Deadlock (s : Streaming) : Prop :=
  ∃ id socket, s.CircularWait id socket

/-- A step that closes the circle finds room in the update channel, also for its own update. -/
def LeavesRoom (s : Streaming) : StreamingEvent → Prop
  | .toggle id _ | .clientEnds id => ∀ message socket, s.task = .delivering id message →
    s.sockets id = some socket → socket.Full → s.updates.length < updateCapacity
  | .publish payload => ∀ id socket, s.task = .selecting → s.clients.recipient payload = some id →
    s.sockets id = some socket → socket.Full → socket.SendsUpdate →
      s.updates.length < updateCapacity
  | .sent sender => ∀ id message socket, id ≠ sender → s.task = .delivering id message →
    s.sockets id = some socket → socket.Full → socket.SendsUpdate →
      s.updates.length + 1 < updateCapacity
  | .requestSent _ _ => ∀ id message socket, s.task = .delivering id message →
    s.sockets id = some socket → socket.Full → socket.SendsUpdate →
      s.updates.length + 1 < updateCapacity
  | _ => True

theorem CircularWait.of_setSocket {id j : Nat} {socket socketJ : Socket}
    (h : (s.setSocket id socket).CircularWait j socketJ) :
    (j = id ∧ socketJ = socket) ∨ s.CircularWait j socketJ := by
  obtain ⟨hTask, hSocket, hFull, hSends, hUpdates⟩ := h
  rw [setSocket_sockets] at hSocket
  split at hSocket
  · next hj => exact .inl ⟨hj, (Option.some.inj hSocket).symm⟩
  · exact .inr ⟨hTask, hSocket, hFull, hSends, hUpdates⟩

/-- A handler that waits for its client or for the task is in no circle, nor is it after a step
that leaves it where it is. -/
theorem not_deadlock_select (h : ¬ s.Deadlock) {id : Nat} {socket : Socket}
    (hSends : ¬ socket.SendsUpdate) : ¬ (s.setSocket id socket).Deadlock := by
  rintro ⟨j, socketJ, hWait⟩
  rcases hWait.of_setSocket with ⟨-, rfl⟩ | hBefore
  · exact hSends hWait.sends
  · exact h ⟨j, socketJ, hBefore⟩

theorem not_deadlock_selecting (hTask : s.task = .selecting) : ¬ s.Deadlock := by
  rintro ⟨id, socket, hWait⟩
  obtain ⟨message, hDelivering⟩ := hWait.task
  cases hTask.symm.trans hDelivering

theorem not_sendsUpdate {socket : Socket} (hPhase : socket.phase = .selecting) :
    ¬ socket.SendsUpdate := fun hSends => hSends.ne_selecting hPhase

theorem not_deadlock_of_move (h : ¬ s.Deadlock) {event : StreamingEvent} (hRoom : s.LeavesRoom event)
    (hMove : Move s event s') : ¬ s'.Deadlock := by
  cases hMove with
  | connect hNone =>
    apply not_deadlock_select h
    rintro (hPhase | ⟨live, hPhase⟩) <;> cases hPhase
  | toggle hSocket hPhase | clientEnds hSocket hPhase =>
    rintro ⟨j, socketJ, hWait⟩
    rcases hWait.of_setSocket with ⟨rfl, rfl⟩ | hBefore
    · obtain ⟨message, hTask⟩ := hWait.task
      have hLess := hRoom message _ hTask hSocket hWait.full
      have hUpdates := hWait.updates
      simp only [setSocket_updates] at hUpdates
      omega
    · exact h ⟨j, socketJ, hBefore⟩
  | receive hSocket hPhase => exact not_deadlock_select h (not_sendsUpdate hPhase)
  | senderGone hSocket hPhase hEmpty hGone =>
    rintro ⟨j, socketJ, hWait⟩
    rcases hWait.of_setSocket with ⟨rfl, rfl⟩ | hBefore
    · have hFull := hWait.full
      simp [Socket.Full, deliveryCapacity, hEmpty] at hFull
    · exact h ⟨j, socketJ, hBefore⟩
  | @sent id socket value phase hSocket hSending hFree =>
    have hNext : phase = .selecting ∨ phase = .closed := by
      simp only [sending] at hSending
      split at hSending <;> cases hSending <;> simp
    rintro ⟨j, socketJ, hWait⟩
    rcases hWait.of_setSocket with ⟨rfl, rfl⟩ | hBefore
    · rcases hNext with rfl | rfl
      · exact hWait.sends.ne_selecting rfl
      · exact hWait.sends.ne_closed rfl
    · have hj : j ≠ id := by
        rintro rfl
        have hSame := hWait.handler
        rw [setSocket_sockets, if_pos rfl] at hSame
        cases hSame
        rcases hNext with rfl | rfl
        · exact hWait.sends.ne_selecting rfl
        · exact hWait.sends.ne_closed rfl
      obtain ⟨⟨message, hTask⟩, hSocketJ, hFull, hSends, hUpdates⟩ := hBefore
      have hLess := hRoom j message socketJ hj hTask hSocketJ hFull hSends
      simp only [List.length_append, List.length_singleton] at hUpdates
      omega
  | request =>
    rintro ⟨j, socketJ, hTask, hSocket, hFull, hSends, hUpdates⟩
    exact h ⟨j, socketJ, hTask, hSocket, hFull, hSends, hUpdates⟩
  | requestSent =>
    rintro ⟨j, socketJ, ⟨message, hTask⟩, hSocket, hFull, hSends, hUpdates⟩
    have hLess := hRoom j message socketJ hTask hSocket hFull hSends
    simp only [List.length_append, List.length_singleton] at hUpdates
    omega
  | takeUpdate hTask => exact not_deadlock_selecting hTask
  | @publish payload id hTask hRecipient =>
    rintro ⟨j, socketJ, ⟨message, hDelivering⟩, hSocket, hFull, hSends, hUpdates⟩
    cases hDelivering
    have hLess := hRoom id socketJ hTask hRecipient hSocket hFull hSends
    exact absurd hUpdates (Nat.not_le.mpr hLess)
  | ignore => exact h
  | delivered => exact not_deadlock_selecting rfl
  | lost => exact not_deadlock_selecting rfl

/-- The condition is exact: a step that does not meet it ends in a deadlock. -/
theorem deadlock_of_step {event : StreamingEvent} (hRoom : ¬ s.LeavesRoom event)
    (hStep : s.step event = some s') : s'.Deadlock := by
  cases event with
  | toggle id live =>
    obtain ⟨socket, _, hSocket, hPhase, ⟨⟩, rfl⟩ := select_eq_some hStep
    simp only [LeavesRoom, not_forall, Nat.not_lt] at hRoom
    obtain ⟨message, socket', hTask, hSocket', hFull, hUpdates⟩ := hRoom
    cases hSocket.symm.trans hSocket'
    exact ⟨id, { socket with phase := .toggling live }, ⟨message, hTask⟩, by simp, hFull,
      .inr ⟨live, rfl⟩, hUpdates⟩
  | clientEnds id =>
    obtain ⟨socket, _, hSocket, hPhase, ⟨⟩, rfl⟩ := select_eq_some hStep
    simp only [LeavesRoom, not_forall, Nat.not_lt] at hRoom
    obtain ⟨message, socket', hTask, hSocket', hFull, hUpdates⟩ := hRoom
    cases hSocket.symm.trans hSocket'
    exact ⟨id, { socket with phase := .deregistering, clientEnded := true }, ⟨message, hTask⟩,
      by simp, hFull, .inl rfl, hUpdates⟩
  | publish payload =>
    simp only [LeavesRoom, not_forall, Nat.not_lt] at hRoom
    obtain ⟨id, socket, hTask, hRecipient, hSocket, hFull, hSends, hUpdates⟩ := hRoom
    simp only [step, hTask, hRecipient] at hStep
    cases hStep
    exact ⟨id, socket, ⟨payload.message, rfl⟩, hSocket, hFull, hSends, hUpdates⟩
  | sent sender =>
    simp only [LeavesRoom, not_forall, Nat.not_lt] at hRoom
    obtain ⟨id, message, socket, hOther, hTask, hSocket, hFull, hSends, hUpdates⟩ := hRoom
    cases move_of_step hStep
    exact ⟨id, socket, ⟨message, hTask⟩, by simp [hOther, hSocket], hFull, hSends, by simpa⟩
  | requestSent didHash live =>
    simp only [LeavesRoom, not_forall, Nat.not_lt] at hRoom
    obtain ⟨id, message, socket, hTask, hSocket, hFull, hSends, hUpdates⟩ := hRoom
    cases move_of_step hStep
    exact ⟨id, socket, ⟨message, hTask⟩, hSocket, hFull, hSends, by simpa⟩
  | connect | receive | senderGone | request | takeUpdate | delivered => exact absurd trivial hRoom

theorem CircularWait.move {id : Nat} {socket : Socket} (h : s.CircularWait id socket)
    {event : StreamingEvent} (hMove : Move s event s') : s'.CircularWait id socket := by
  obtain ⟨⟨message, hTask⟩, hSocket, hFull, hSends, hUpdates⟩ := h
  have hOther : ∀ {j : Nat} {socketJ : Socket} (socketJ' : Socket), s.sockets j = some socketJ →
      socketJ.phase = .selecting → (s.setSocket j socketJ').CircularWait id socket := by
    rintro j socketJ socketJ' hJ hPhase
    have hid : id ≠ j := by
      rintro rfl
      cases hSocket.symm.trans hJ
      exact hSends.ne_selecting hPhase
    exact ⟨⟨message, hTask⟩, by simp [hid, hSocket], hFull, hSends, hUpdates⟩
  cases hMove with
  | @connect j didHash hNone =>
    have hid : id ≠ j := by
      rintro rfl
      cases hSocket.symm.trans hNone
    exact ⟨⟨message, hTask⟩, by simp [hid, hSocket], hFull, hSends, hUpdates⟩
  | toggle hJ hPhase => exact hOther _ hJ hPhase
  | clientEnds hJ hPhase => exact hOther _ hJ hPhase
  | receive hJ hPhase => exact hOther _ hJ hPhase
  | senderGone hJ hPhase => exact hOther _ hJ hPhase
  | sent _ _ hFree => omega
  | request => exact ⟨⟨message, hTask⟩, hSocket, hFull, hSends, hUpdates⟩
  | requestSent hFree => omega
  | takeUpdate hSelecting => cases hTask.symm.trans hSelecting
  | publish hSelecting => cases hTask.symm.trans hSelecting
  | ignore => exact ⟨⟨message, hTask⟩, hSocket, hFull, hSends, hUpdates⟩
  | delivered hDelivering hJ hFree =>
    cases hTask.symm.trans hDelivering
    cases hSocket.symm.trans hJ
    exact absurd hFull (Nat.not_le.mpr hFree)
  | lost hDelivering hJ hClosed =>
    cases hTask.symm.trans hDelivering
    cases hSocket.symm.trans hJ
    exact absurd hClosed hSends.ne_closed

/-- A deadlock is for ever: the task stays with the one message. -/
theorem CircularWait.forever {id : Nat} {socket : Socket} (h : s.CircularWait id socket)
    (hPath : streamingSystem.Path s s') : s'.CircularWait id socket :=
  hPath.keeps (J := fun s => s.CircularWait id socket) h fun _ _ _ hWait hStep => hWait.move (move_of_step hStep)

end Streaming

theorem no_deadlock_invariant :
    (streamingSystem.restrict Streaming.LeavesRoom).Invariant fun s => ¬ s.Deadlock where
  init := by
    rintro s rfl
    exact Streaming.not_deadlock_selecting rfl
  step := by
    rintro s event s' h ⟨hRoom, hStep⟩
    exact Streaming.not_deadlock_of_move h hRoom (Streaming.move_of_step hStep)

/-- As long as the update channel has room whenever a step could close the circle, the task and a
handler never wait for each other. -/
theorem no_deadlock {s : Streaming}
    (hs : (streamingSystem.restrict Streaming.LeavesRoom).Reachable s) : ¬ s.Deadlock :=
  no_deadlock_invariant.holds hs

/-- Whether the update channel has room for two more. -/
def Streaming.roomy (s : Streaming) (_ : StreamingEvent) : Bool := s.updates.length + 1 < updateCapacity

theorem Streaming.leavesRoom_of_roomy (s : Streaming) (event : StreamingEvent) (h : s.roomy event = true) :
    s.LeavesRoom event := by
  have hRoom : s.updates.length + 1 < updateCapacity := of_decide_eq_true h
  cases event with
  | toggle => exact fun _ _ _ _ _ => by omega
  | clientEnds => exact fun _ _ _ _ _ => by omega
  | publish => exact fun _ _ _ _ _ _ _ => by omega
  | sent => exact fun _ _ _ _ _ _ _ _ => hRoom
  | requestSent => exact fun _ _ _ _ _ _ _ => hRoom
  | _ => trivial

/-- The task waits for a client that changes its live delivery, with an update in the channel. -/
theorem no_deadlock_delivering : ∃ s socket, streamingSystem.Reachable s ∧ s.task = .delivering 1 "hello" ∧
    s.sockets 1 = some socket ∧ socket.Full ∧ socket.SendsUpdate ∧ s.updates.length = 1 ∧ ¬ s.Deadlock := by
  let published : List StreamingEvent := [.publish ⟨bobHash, "hello", true⟩, .delivered]
  let events : List StreamingEvent :=
    [.connect 1 bobHash, .sent 1, .takeUpdate] ++ (List.replicate 5 published).flatten ++
    [.publish ⟨bobHash, "hello", true⟩, .request aliceHash true, .requestSent aliceHash true, .toggle 1 true]
  have hSome : (Streaming.start.runIf Streaming.roomy events).isSome = true := by decide
  obtain ⟨s, hs⟩ := Option.isSome_iff_exists.mp hSome
  have hFacts : (Streaming.start.runIf Streaming.roomy events).map (fun s => (s.task, s.sockets 1, s.updates.length)) =
      some (.delivering 1 "hello", some ⟨bobHash, .toggling true, List.replicate 5 "hello", false⟩, 1) := by decide
  rw [hs] at hFacts
  simp only [Option.map_some, Option.some.injEq, Prod.mk.injEq] at hFacts
  have hReachable := reachable_runIf Streaming.leavesRoom_of_roomy (.init rfl) hs
  exact ⟨s, _, hReachable.of_restrict, hFacts.1, hFacts.2.1, Nat.le_refl 5, .inr ⟨true, rfl⟩, hFacts.2.2,
    no_deadlock hReachable⟩

/-- A slow client: its channel is full, the task waits for it, and HTTP requests fill the update
channel. Then the client changes its live delivery. -/
def slowClient : List StreamingEvent :=
  let published : List StreamingEvent := [.publish ⟨bobHash, "hello", true⟩, .delivered]
  let requested : List StreamingEvent := [.request aliceHash true, .requestSent aliceHash true]
  [.connect 1 bobHash, .sent 1, .takeUpdate] ++ (List.replicate 5 published).flatten ++
    [.publish ⟨bobHash, "hello", true⟩] ++ (List.replicate 10 requested).flatten ++ [.toggle 1 true]

theorem deadlock_reached : ∃ s, streamingSystem.Reachable s ∧ s.Deadlock := by
  have hSome : (Streaming.start.run slowClient).isSome = true := by decide
  obtain ⟨s, hs⟩ := Option.isSome_iff_exists.mp hSome
  have hFacts : (Streaming.start.run slowClient).map (fun s =>
      (s.task, s.sockets 1, s.updates.length)) = some (.delivering 1 "hello",
        some ⟨bobHash, .toggling true, List.replicate 5 "hello", false⟩, 10) := by decide
  rw [hs] at hFacts
  simp only [Option.map_some, Option.some.injEq, Prod.mk.injEq] at hFacts
  refine ⟨s, reachable_run (.init rfl) hs, 1, _, ⟨_, hFacts.1⟩, hFacts.2.1, ?_, .inr ⟨true, rfl⟩, ?_⟩
  · simp [Socket.Full, deliveryCapacity]
  · simp [updateCapacity, hFacts.2.2]

end AffinidiMessaging.Mediator
