import AffinidiMessaging.Mediator.StreamingTask

/-! # WebSockets and the streaming task

The handlers of the sockets, the requests that change live delivery and the streaming task,
with the channels between them: one for updates to the task, which takes 10, and one for
deliveries to each socket, which takes 5. A send to a full channel waits.
-/

namespace AffinidiMessaging.Mediator

open Transition

/-- Where a `handle_socket` task is. -/
inductive SocketPhase
  | registering
  /-- Waiting for its client or for the streaming task. -/
  | selecting
  /-- Sending the update of a live-delivery-change of its client. -/
  | toggling (live : Bool)
  | deregistering
  | closed
deriving DecidableEq

structure Socket where
  didHash : String
  phase : SocketPhase
  /-- The messages in its delivery channel. -/
  deliveries : List String
  /-- The client closed the connection, or sent a message over the size limit. Not a value of
  the code. -/
  clientEnded : Bool
deriving DecidableEq

inductive TaskPhase
  | selecting
  /-- In `tx.send`. -/
  | delivering (socket : Nat) (message : String)
deriving DecidableEq

structure Streaming where
  clients : Clients Nat
  /-- The updates in the channel, each with the socket that sent it, which the code does not
  keep. -/
  updates : List (Option Nat × StreamingUpdate Nat)
  task : TaskPhase
  sockets : Nat → Option Socket
  /-- The updates that HTTP requests are about to send. -/
  requests : List (String × Bool)
  /-- The socket of the last Register of a DID that the task took. Not a value of the code. -/
  lastRegistered : String → Option Nat

def updateCapacity : Nat := 10

def deliveryCapacity : Nat := 5

inductive StreamingEvent
  | connect (socket : Nat) (didHash : String)
  | toggle (socket : Nat) (live : Bool)
  | clientEnds (socket : Nat)
  | receive (socket : Nat)
  | senderGone (socket : Nat)
  | sent (socket : Nat)
  | request (didHash : String) (live : Bool)
  | requestSent (didHash : String) (live : Bool)
  | takeUpdate
  | publish (payload : PubSubRecord)
  | delivered

def liveState (live : Bool) : StreamingUpdateState Nat := if live then .start else .stop

namespace Streaming

def setSocket (s : Streaming) (id : Nat) (socket : Socket) : Streaming :=
  { s with sockets := Function.update s.sockets id (some socket) }

/-- Whether the sender of a delivery channel is still in the map, in a queued update or in the one
that is being sent. -/
def senderLeft (s : Streaming) (id : Nat) (socket : Socket) : Bool :=
  (s.clients socket.didHash).map Prod.fst = some id ||
    s.updates.any (fun u => u.2.state = .register id) || socket.phase = .registering

/-- The update that a handler is sending, and where it is after that. -/
def sending (id : Nat) (socket : Socket) : Option (StreamingUpdate Nat × SocketPhase) :=
  match socket.phase with
  | .registering => some (⟨socket.didHash, .register id⟩, .selecting)
  | .toggling live => some (⟨socket.didHash, liveState live⟩, .selecting)
  | .deregistering => some (⟨socket.didHash, .deregister⟩, .closed)
  | .selecting => none
  | .closed => none

def registered (last : String → Option Nat) (value : StreamingUpdate Nat) : String → Option Nat :=
  match value.state with
  | .register tx => Function.update last value.didHash (some tx)
  | _ => last

/-- A step of a handler that waits for its client or for the task. -/
def select (s : Streaming) (id : Nat) (f : Socket → Option Socket) : Option Streaming := do
  let socket ← s.sockets id
  if socket.phase = .selecting then return s.setSocket id (← f socket) else none

def push (s : Streaming) (sender : Option Nat) (value : StreamingUpdate Nat) : Option Streaming :=
  if s.updates.length < updateCapacity then
    some { s with updates := s.updates ++ [(sender, value)] }
  else none

/-- The task in `tx.send`: the message goes into the channel, or its receiver is gone. -/
def deliver (s : Streaming) (id : Nat) (message : String) : Option Streaming := do
  let socket ← s.sockets id
  if socket.phase = .closed then return { s with task := .selecting }
  else if socket.deliveries.length < deliveryCapacity then
    return { s.setSocket id { socket with deliveries := socket.deliveries ++ [message] } with
      task := .selecting }
  else none

def step (s : Streaming) : StreamingEvent → Option Streaming
  | .connect id didHash =>
    if s.sockets id = none then some (s.setSocket id ⟨didHash, .registering, [], false⟩) else none
  | .toggle id live => s.select id fun socket => some { socket with phase := .toggling live }
  | .clientEnds id =>
    s.select id fun socket => some { socket with phase := .deregistering, clientEnded := true }
  | .receive id =>
    s.select id fun socket =>
      if socket.deliveries = [] then none
      else some { socket with deliveries := socket.deliveries.tail }
  | .senderGone id =>
    s.select id fun socket =>
      if socket.deliveries = [] ∧ s.senderLeft id socket = false then
        some { socket with phase := .deregistering }
      else none
  | .sent id => do
    let socket ← s.sockets id
    let (value, phase) ← sending id socket
    let s ← s.push (some id) value
    return s.setSocket id { socket with phase := phase }
  | .request didHash live => some { s with requests := s.requests ++ [(didHash, live)] }
  | .requestSent didHash live => do
    if (didHash, live) ∈ s.requests then
      let s ← s.push none ⟨didHash, liveState live⟩
      return { s with requests := s.requests.erase (didHash, live) }
    else none
  | .takeUpdate =>
    match s.task, s.updates with
    | .selecting, (_, value) :: rest =>
      some { s with clients := s.clients.update value, updates := rest,
                    lastRegistered := registered s.lastRegistered value }
    | _, _ => none
  | .publish payload =>
    match s.task, s.clients.recipient payload with
    | .selecting, some id => some { s with task := .delivering id payload.message }
    | .selecting, none => some s
    | .delivering .., _ => none
  | .delivered =>
    match s.task with
    | .delivering id message => s.deliver id message
    | .selecting => none

def start : Streaming where
  clients := fun _ => none
  updates := []
  task := .selecting
  sockets := fun _ => none
  requests := []
  lastRegistered := fun _ => none

end Streaming

def streamingSystem : System Streaming StreamingEvent where
  init s := s = .start
  step s event s' := s.step event = some s'

namespace Streaming

/-- All that a step can do. -/
inductive Move (s : Streaming) : StreamingEvent → Streaming → Prop
  | connect {id : Nat} {didHash : String} (h : s.sockets id = none) :
    Move s (.connect id didHash) (s.setSocket id ⟨didHash, .registering, [], false⟩)
  | toggle {id : Nat} {live : Bool} {socket : Socket} (h : s.sockets id = some socket)
    (hPhase : socket.phase = .selecting) :
    Move s (.toggle id live) (s.setSocket id { socket with phase := .toggling live })
  | clientEnds {id : Nat} {socket : Socket} (h : s.sockets id = some socket)
    (hPhase : socket.phase = .selecting) :
    Move s (.clientEnds id)
      (s.setSocket id { socket with phase := .deregistering, clientEnded := true })
  | receive {id : Nat} {socket : Socket} (h : s.sockets id = some socket)
    (hPhase : socket.phase = .selecting) :
    Move s (.receive id) (s.setSocket id { socket with deliveries := socket.deliveries.tail })
  | senderGone {id : Nat} {socket : Socket} (h : s.sockets id = some socket)
    (hPhase : socket.phase = .selecting) (hEmpty : socket.deliveries = [])
    (hGone : s.senderLeft id socket = false) :
    Move s (.senderGone id) (s.setSocket id { socket with phase := .deregistering })
  | sent {id : Nat} {socket : Socket} {value : StreamingUpdate Nat} {phase : SocketPhase}
    (h : s.sockets id = some socket) (hSending : sending id socket = some (value, phase))
    (hRoom : s.updates.length < updateCapacity) :
    Move s (.sent id)
      ({ s with updates := s.updates ++ [(some id, value)] }.setSocket id
        { socket with phase := phase })
  | request {didHash : String} {live : Bool} :
    Move s (.request didHash live) { s with requests := s.requests ++ [(didHash, live)] }
  | requestSent {didHash : String} {live : Bool} (hRoom : s.updates.length < updateCapacity) :
    Move s (.requestSent didHash live)
      { s with updates := s.updates ++ [(none, ⟨didHash, liveState live⟩)],
               requests := s.requests.erase (didHash, live) }
  | takeUpdate {sender : Option Nat} {value : StreamingUpdate Nat}
    {rest : List (Option Nat × StreamingUpdate Nat)} (hTask : s.task = .selecting)
    (hUpdates : s.updates = (sender, value) :: rest) :
    Move s .takeUpdate
      { s with clients := s.clients.update value, updates := rest,
               lastRegistered := registered s.lastRegistered value }
  | publish {payload : PubSubRecord} {id : Nat} (hTask : s.task = .selecting)
    (hRecipient : s.clients.recipient payload = some id) :
    Move s (.publish payload) { s with task := .delivering id payload.message }
  | ignore {payload : PubSubRecord} : Move s (.publish payload) s
  | delivered {id : Nat} {message : String} {socket : Socket} (hTask : s.task = .delivering id message)
    (h : s.sockets id = some socket) (hRoom : socket.deliveries.length < deliveryCapacity) :
    Move s .delivered
      { s.setSocket id { socket with deliveries := socket.deliveries ++ [message] } with
        task := .selecting }
  | lost {id : Nat} {message : String} {socket : Socket} (hTask : s.task = .delivering id message)
    (h : s.sockets id = some socket) (hClosed : socket.phase = .closed) :
    Move s .delivered { s with task := .selecting }

variable {s s' : Streaming}

theorem select_eq_some {id : Nat} {f : Socket → Option Socket} (h : s.select id f = some s') :
    ∃ socket socket', s.sockets id = some socket ∧ socket.phase = .selecting ∧
      f socket = some socket' ∧ s' = s.setSocket id socket' := by
  simp only [select, Option.bind_eq_bind, Option.bind_eq_some_iff] at h
  obtain ⟨socket, hSocket, h⟩ := h
  split at h
  · next hPhase =>
    obtain ⟨socket', hf, hEq⟩ := Option.bind_eq_some_iff.mp h
    exact ⟨socket, socket', hSocket, hPhase, hf, (Option.some.inj hEq).symm⟩
  · cases h

theorem push_eq_some {sender : Option Nat} {value : StreamingUpdate Nat}
    (h : s.push sender value = some s') :
    s.updates.length < updateCapacity ∧
      s' = { s with updates := s.updates ++ [(sender, value)] } := by
  unfold push at h
  split at h
  · next hRoom => exact ⟨hRoom, (Option.some.inj h).symm⟩
  · cases h

theorem move_of_step {event : StreamingEvent} (h : s.step event = some s') : Move s event s' := by
  cases event with
  | connect id didHash =>
    simp only [step] at h
    split at h
    · next hNone =>
      cases h
      exact .connect hNone
    · cases h
  | toggle id live =>
    obtain ⟨socket, _, hSocket, hPhase, ⟨⟩, rfl⟩ := select_eq_some h
    exact .toggle hSocket hPhase
  | clientEnds id =>
    obtain ⟨socket, _, hSocket, hPhase, ⟨⟩, rfl⟩ := select_eq_some h
    exact .clientEnds hSocket hPhase
  | receive id =>
    obtain ⟨socket, socket', hSocket, hPhase, hf, rfl⟩ := select_eq_some h
    split at hf
    · cases hf
    · cases hf
      exact .receive hSocket hPhase
  | senderGone id =>
    obtain ⟨socket, socket', hSocket, hPhase, hf, rfl⟩ := select_eq_some h
    split at hf
    · next hGone =>
      cases hf
      exact .senderGone hSocket hPhase hGone.1 hGone.2
    · cases hf
  | sent id =>
    simp only [step, Option.bind_eq_bind, Option.bind_eq_some_iff] at h
    obtain ⟨socket, hSocket, ⟨value, phase⟩, hSending, s₁, hPush, hEq⟩ := h
    obtain ⟨hRoom, rfl⟩ := push_eq_some hPush
    cases hEq
    exact .sent hSocket hSending hRoom
  | request didHash live =>
    cases h
    exact .request
  | requestSent didHash live =>
    simp only [step] at h
    split at h
    · simp only [Option.bind_eq_bind, Option.bind_eq_some_iff] at h
      obtain ⟨s₁, hPush, hEq⟩ := h
      obtain ⟨hRoom, rfl⟩ := push_eq_some hPush
      cases hEq
      exact .requestSent hRoom
    · cases h
  | takeUpdate =>
    simp only [step] at h
    split at h
    · next hTask hUpdates =>
      cases h
      exact .takeUpdate hTask hUpdates
    · cases h
  | publish payload =>
    simp only [step] at h
    split at h
    · next hTask hRecipient =>
      cases h
      exact .publish hTask hRecipient
    · cases h
      exact .ignore
    · cases h
  | delivered =>
    simp only [step] at h
    split at h
    · next id message hTask =>
      simp only [deliver, Option.bind_eq_bind, Option.bind_eq_some_iff] at h
      obtain ⟨socket, hSocket, h⟩ := h
      split at h
      · next hClosed =>
        cases h
        exact .lost hTask hSocket hClosed
      · split at h
        · next hRoom =>
          cases h
          exact .delivered hTask hSocket hRoom
        · cases h
    · cases h

end Streaming

end AffinidiMessaging.Mediator
