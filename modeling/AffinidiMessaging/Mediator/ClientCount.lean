import AffinidiMessaging.Mediator.Reconnect

/-! # The count of the registered clients

For its log line of a Deregister the task subtracts one from the number of the clients in its map. Every
Deregister has an entry to take away as long as no Register replaces one.
-/

namespace AffinidiMessaging.Mediator

open Transition

/-- `clients.len()`, of a map with finitely many entries. -/
noncomputable def Clients.len {Tx : Type} (clients : Clients Tx) : Nat := Set.ncard { d | (clients d).isSome }

theorem Clients.finite_update {Tx : Type} {clients : Clients Tx} (h : { d | (clients d).isSome }.Finite)
    (value : StreamingUpdate Tx) : { d | (clients.update value d).isSome }.Finite := by
  refine (h.insert value.didHash).subset fun d hd => ?_
  by_cases hDid : d = value.didHash
  · exact .inl hDid
  · exact .inr (by simpa [Clients.update, hDid] using hd)

namespace Socket

/-- The handler has sent its Register, and its Deregister not yet. -/
def Open (socket : Socket) : Prop := socket.phase ≠ .registering ∧ socket.phase ≠ .closed

end Socket

namespace Streaming

variable {s s' : Streaming}

/-- A Register that is taken finds no entry of its DID. -/
def RegistersAfresh (s : Streaming) : StreamingEvent → Prop
  | .takeUpdate => ∀ sender d tx rest, s.updates = (sender, ⟨d, .register tx⟩) :: rest → s.clients d = none
  | _ => True

/-- What `P` says holds after an update, if it is a Register without an entry; a Deregister has the entry of
its sender. -/
def Takes (P : Clients Nat → Prop) (u : Option Nat × StreamingUpdate Nat) (clients : Clients Nat) : Prop :=
  match u.2.state with
  | .register _ => clients u.2.didHash = none → P (clients.update u.2)
  | .deregister =>
    (∃ id active, u.1 = some id ∧ clients u.2.didHash = some (id, active)) ∧ P (clients.update u.2)
  | .start | .stop => P (clients.update u.2)

/-- The same for the updates of a channel, taken one after the other. -/
def Settles (P : Clients Nat → Prop) (updates : List (Option Nat × StreamingUpdate Nat)) : Clients Nat → Prop :=
  updates.foldr (fun u P => Takes P u) P

theorem Takes.imp {P Q : Clients Nat → Prop} {u : Option Nat × StreamingUpdate Nat} {clients : Clients Nat}
    (h : Takes P u clients) (hImp : ∀ clients, P clients → Q clients) : Takes Q u clients := by
  obtain ⟨sender, d, state⟩ := u
  cases state with
  | register tx => exact fun hNone => hImp _ (h hNone)
  | start => exact hImp _ h
  | stop => exact hImp _ h
  | deregister => exact ⟨h.1, hImp _ h.2⟩

theorem Settles.imp {P Q : Clients Nat → Prop} {updates : List (Option Nat × StreamingUpdate Nat)}
    {clients : Clients Nat} (h : Settles P updates clients) (hImp : ∀ clients, P clients → Q clients) :
    Settles Q updates clients := by
  induction updates generalizing clients with
  | nil => exact hImp _ h
  | cons u rest ih => exact Takes.imp h fun _ => ih

theorem Settles.push {P Q : Clients Nat → Prop} {updates : List (Option Nat × StreamingUpdate Nat)}
    {clients : Clients Nat} (h : Settles P updates clients) (u : Option Nat × StreamingUpdate Nat)
    (hTakes : ∀ clients, P clients → Takes Q u clients) : Settles Q (updates ++ [u]) clients := by
  rw [Settles, List.foldr_append]
  exact h.imp hTakes

/-- The entry of every open socket's DID is that socket's. -/
def Entered (sockets : Nat → Option Socket) (clients : Clients Nat) : Prop :=
  ∀ id socket, sockets id = some socket → socket.Open → ∃ active, clients socket.didHash = some (id, active)

section
variable {sockets : Nat → Option Socket} {clients : Clients Nat} {id : Nat} {socket' : Socket}

theorem Entered.change {socket : Socket} (h : Entered sockets clients) (hSocket : sockets id = some socket)
    (hDid : socket'.didHash = socket.didHash) (hOpen : socket'.Open → socket.Open) :
    Entered (Function.update sockets id (some socket')) clients := by
  intro j socketJ hJ hOpenJ
  rw [Function.update_apply] at hJ
  split at hJ
  · next hj =>
    cases hJ
    subst hj
    rw [hDid]
    exact h j socket hSocket (hOpen hOpenJ)
  · exact h j socketJ hJ hOpenJ

theorem Entered.register {socket : Socket} (h : Entered sockets clients)
    (hDid : socket'.didHash = socket.didHash) :
    Takes (Entered (Function.update sockets id (some socket'))) (some id, ⟨socket.didHash, .register id⟩) clients := by
  intro hNone j socketJ hJ hOpenJ
  rw [Function.update_apply] at hJ
  simp only [Clients.update, Function.update_apply]
  split at hJ
  · next hj =>
    cases hJ
    exact ⟨false, by rw [if_pos hDid, hj]⟩
  · obtain ⟨active, hClient⟩ := h j socketJ hJ hOpenJ
    refine ⟨active, ?_⟩
    rw [if_neg, hClient]
    rintro hSame
    rw [hSame, hNone] at hClient
    cases hClient

/-- A start or a stop keeps the sockets of the entries. -/
theorem Entered.live (h : Entered sockets clients) (sender : Option Nat) (d : String) (live : Bool) :
    Takes (Entered sockets) (sender, ⟨d, liveState live⟩) clients := by
  have hUpdate : Entered sockets (clients.update ⟨d, liveState live⟩) := by
    intro j socketJ hJ hOpenJ
    obtain ⟨active, hClient⟩ := h j socketJ hJ hOpenJ
    simp only [Clients.update, Function.update_apply]
    split
    · next hSame =>
      refine ⟨live, ?_⟩
      cases live <;> simp [liveState, ← hSame, hClient]
    · exact ⟨active, hClient⟩
  cases live <;> exact hUpdate

theorem Entered.deregister {socket : Socket} (h : Entered sockets clients) (hSocket : sockets id = some socket)
    (hOpen : socket.Open) (hClosed : ¬ socket'.Open) :
    Takes (Entered (Function.update sockets id (some socket'))) (some id, ⟨socket.didHash, .deregister⟩) clients := by
  obtain ⟨active, hClient⟩ := h id socket hSocket hOpen
  refine ⟨⟨id, active, rfl, hClient⟩, ?_⟩
  intro j socketJ hJ hOpenJ
  rw [Function.update_apply] at hJ
  split at hJ
  · cases hJ
    exact absurd hOpenJ hClosed
  · next hj =>
    obtain ⟨activeJ, hClientJ⟩ := h j socketJ hJ hOpenJ
    refine ⟨activeJ, ?_⟩
    simp only [Clients.update, Function.update_apply]
    rw [if_neg, hClientJ]
    rintro hSame
    rw [hSame, hClient] at hClientJ
    cases hClientJ
    exact hj rfl

end

/-- The updates in the channel make of the map what the open sockets need. -/
structure Paired (s : Streaming) : Prop where
  settles : Settles (Entered s.sockets) s.updates s.clients
  finite : { d | (s.clients d).isSome }.Finite

theorem Paired.setSocket (h : Paired s) {id : Nat} {socket socket' : Socket} (hSocket : s.sockets id = some socket)
    (hDid : socket'.didHash = socket.didHash) (hOpen : socket'.Open → socket.Open) :
    Paired (s.setSocket id socket') where
  settles := h.settles.imp fun _ hEntered => hEntered.change hSocket hDid hOpen
  finite := h.finite

theorem open_of_selecting {socket : Socket} (hPhase : socket.phase = .selecting) : socket.Open := by
  simp [Socket.Open, hPhase]

theorem Paired.sent (h : Paired s) {id : Nat} {socket : Socket} {value : StreamingUpdate Nat} {phase : SocketPhase}
    (hSocket : s.sockets id = some socket) (hSending : sending id socket = some (value, phase)) :
    Paired ({ s with updates := s.updates ++ [(some id, value)] }.setSocket id { socket with phase := phase }) where
  settles := by
    refine h.settles.push (some id, value) fun clients hEntered => ?_
    unfold sending at hSending
    split at hSending <;> cases hSending
    · exact hEntered.register rfl
    · next live hPhase =>
      have hOpen : socket.Open := by simp [Socket.Open, hPhase]
      have hChanged : Entered (Function.update s.sockets id (some { socket with phase := .selecting })) clients :=
        hEntered.change hSocket rfl fun _ => hOpen
      exact hChanged.live (some id) socket.didHash live
    · next hPhase =>
      have hOpen : socket.Open := by simp [Socket.Open, hPhase]
      exact hEntered.deregister hSocket hOpen fun hClosed => hClosed.2 rfl
  finite := h.finite

theorem Paired.takeUpdate (h : Paired s) {sender : Option Nat} {value : StreamingUpdate Nat}
    {rest : List (Option Nat × StreamingUpdate Nat)} (hUpdates : s.updates = (sender, value) :: rest)
    (hAfresh : RegistersAfresh s .takeUpdate) :
    Paired { s with clients := s.clients.update value, updates := rest,
                    lastRegistered := registered s.lastRegistered value } where
  settles := by
    have hTakes : Takes (Settles (Entered s.sockets) rest) (sender, value) s.clients := by
      have hSettles := h.settles
      rwa [hUpdates] at hSettles
    obtain ⟨d, state⟩ := value
    cases state with
    | register tx => exact hTakes (hAfresh sender d tx rest hUpdates)
    | start => exact hTakes
    | stop => exact hTakes
    | deregister => exact hTakes.2
  finite := Clients.finite_update h.finite value

theorem Paired.move (h : Paired s) {event : StreamingEvent} (hAfresh : RegistersAfresh s event)
    (hMove : Move s event s') : Paired s' := by
  cases hMove with
  | @connect id didHash hNone =>
    refine ⟨h.settles.imp fun clients hEntered j socketJ hJ hOpen => ?_, h.finite⟩
    rw [setSocket_sockets] at hJ
    split at hJ
    · cases hJ
      exact absurd rfl hOpen.1
    · exact hEntered j socketJ hJ hOpen
  | toggle hSocket hPhase => exact h.setSocket hSocket rfl fun _ => open_of_selecting hPhase
  | clientEnds hSocket hPhase => exact h.setSocket hSocket rfl fun _ => open_of_selecting hPhase
  | receive hSocket hPhase => exact h.setSocket hSocket rfl fun _ => open_of_selecting hPhase
  | senderGone hSocket hPhase _ _ => exact h.setSocket hSocket rfl fun _ => open_of_selecting hPhase
  | sent hSocket hSending _ => exact h.sent hSocket hSending
  | request => exact ⟨h.settles, h.finite⟩
  | @requestSent didHash live _ =>
    exact ⟨h.settles.push (none, _) fun clients hEntered => hEntered.live none didHash live, h.finite⟩
  | takeUpdate _ hUpdates => exact h.takeUpdate hUpdates hAfresh
  | publish _ _ => exact ⟨h.settles, h.finite⟩
  | ignore => exact h
  | @delivered id message socket _ hSocket _ =>
    have hDelivered : Paired (s.setSocket id { socket with deliveries := socket.deliveries ++ [message] }) :=
      h.setSocket hSocket rfl fun hOpen => hOpen
    exact ⟨hDelivered.settles, hDelivered.finite⟩
  | lost _ _ _ => exact ⟨h.settles, h.finite⟩

end Streaming

theorem paired_invariant : (streamingSystem.restrict Streaming.RegistersAfresh).Invariant Streaming.Paired where
  init := by
    rintro s rfl
    refine ⟨?_, by simp [Streaming.start]⟩
    rintro id socket hSocket
    cases hSocket
  step := by
    rintro s event s' h ⟨hAfresh, hStep⟩
    exact h.move hAfresh (Streaming.move_of_step hStep)

/-- As long as no Register replaces an entry, a Deregister that is next finds one to take away. -/
theorem client_count_defined {s : Streaming} (hs : (streamingSystem.restrict Streaming.RegistersAfresh).Reachable s)
    {sender : Option Nat} {d : String} {rest : List (Option Nat × StreamingUpdate Nat)}
    (hUpdates : s.updates = (sender, ⟨d, .deregister⟩) :: rest) : 1 ≤ s.clients.len := by
  have hPaired := paired_invariant.holds hs
  have hSettles := hPaired.settles
  rw [hUpdates] at hSettles
  obtain ⟨⟨id, active, -, hClient⟩, -⟩ := hSettles
  have hMem : d ∈ { d | (s.clients d).isSome } := by
    change (s.clients d).isSome
    rw [hClient]
    rfl
  exact (Set.ncard_pos hPaired.finite).mpr ⟨d, hMem⟩

/-- Whether a Register that is taken finds no entry. -/
def Streaming.findsNone (s : Streaming) : StreamingEvent → Bool
  | .takeUpdate =>
    match s.updates with
    | (_, ⟨d, .register _⟩) :: _ => (s.clients d).isNone
    | _ => true
  | _ => true

theorem Streaming.registersAfresh_of_findsNone (s : Streaming) (event : StreamingEvent) (h : s.findsNone event = true) :
    s.RegistersAfresh event := by
  cases event with
  | takeUpdate =>
    intro sender d tx rest hUpdates
    simp only [findsNone, hUpdates, Option.isNone_iff_eq_none] at h
    exact h
  | _ => trivial

/-- Two clients, one of which leaves, comes back and leaves again. -/
theorem client_count_defined_left :
    ∃ s : Streaming, (streamingSystem.restrict Streaming.RegistersAfresh).Reachable s ∧
      s.updates = [(some 3, ⟨bobHash, .deregister⟩)] ∧ 1 ≤ s.clients.len := by
  let events : List StreamingEvent :=
    [.connect 1 bobHash, .sent 1, .takeUpdate, .connect 2 aliceHash, .sent 2, .takeUpdate, .clientEnds 1, .sent 1,
      .takeUpdate, .connect 3 bobHash, .sent 3, .takeUpdate, .clientEnds 3, .sent 3]
  have hSome : (Streaming.start.runIf Streaming.findsNone events).isSome = true := by decide
  obtain ⟨s, hs⟩ := Option.isSome_iff_exists.mp hSome
  have hUpdates : (Streaming.start.runIf Streaming.findsNone events).map Streaming.updates =
      some [(some 3, ⟨bobHash, .deregister⟩)] := by decide
  rw [hs] at hUpdates
  have hReachable := reachable_runIf Streaming.registersAfresh_of_findsNone (.init rfl) hs
  exact ⟨s, hReachable, Option.some.inj hUpdates, client_count_defined hReachable (Option.some.inj hUpdates)⟩

/-- The newer socket of `reconnect` has lost its entry, so that it leaves as well. -/
def leave : List StreamingEvent := reconnect ++ [.senderGone 2, .sent 2]

/-- Its Deregister comes to an empty map. -/
theorem client_count_underflows :
    ∃ s, streamingSystem.Reachable s ∧ s.task = .selecting ∧ s.updates = [(some 2, ⟨bobHash, .deregister⟩)] ∧
      s.clients.len = 0 := by
  let clients : Clients Nat := Clients.update (Clients.update (Clients.update (fun _ => none) ⟨bobHash, .register 1⟩)
    ⟨bobHash, .register 2⟩) ⟨bobHash, .deregister⟩
  have hSome : (Streaming.start.run leave).isSome = true := by decide
  obtain ⟨s, hs⟩ := Option.isSome_iff_exists.mp hSome
  have hChannel : (Streaming.start.run leave).map (fun s => (s.task, s.updates)) =
      some (.selecting, [(some 2, ⟨bobHash, .deregister⟩)]) := by decide
  have hClients : (Streaming.start.run leave).map Streaming.clients = some clients := rfl
  rw [hs] at hChannel hClients
  simp only [Option.map_some, Option.some.injEq, Prod.mk.injEq] at hChannel hClients
  have hEmpty : clients = fun _ => none := by simp [clients, Clients.update]
  refine ⟨s, reachable_run (.init rfl) hs, hChannel.1, hChannel.2, ?_⟩
  rw [hClients, hEmpty]
  simp [Clients.len]

end AffinidiMessaging.Mediator
