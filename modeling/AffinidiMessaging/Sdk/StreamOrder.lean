import AffinidiMessaging.Mediator.LiveOrder
import AffinidiMessaging.Sdk.LiveStream

/-! # From pub/sub to the calls of the SDK

The messages that `live_stream_next` and `live_stream_get` return come in the order in which they were published.
None is lost on the way from the streaming task to the calls; a message that a call asks for by its id comes twice.
-/

namespace AffinidiMessaging.Sdk

open Didcomm Mediator Machine

/-- Each element of the first list, once or twice in a row. -/
inductive OnceOrTwice {α : Type} : List α → List α → Prop
  | nil : OnceOrTwice [] []
  | once {l l' : List α} (a : α) : OnceOrTwice l l' → OnceOrTwice (a :: l) (a :: l')
  | twice {l l' : List α} (a : α) : OnceOrTwice l l' → OnceOrTwice (a :: l) (a :: a :: l')

namespace OnceOrTwice

variable {α : Type} {l l' : List α}

theorem refl : ∀ l : List α, OnceOrTwice l l
  | [] => .nil
  | a :: l => .once a (refl l)

theorem append {m m' : List α} (h : OnceOrTwice l l') (h' : OnceOrTwice m m') : OnceOrTwice (l ++ m) (l' ++ m') := by
  induction h with
  | nil => exact h'
  | once a _ ih => exact .once a ih
  | twice a _ ih => exact .twice a ih

end OnceOrTwice

namespace LiveStream

/-- The text that an event brings. -/
def arriving : StreamEvent → Option String
  | .frame (.text msg) => some msg
  | _ => none

/-- Nobody has asked for a message by its id. -/
structure Unasked (s : LiveStream) : Prop where
  searchList : s.handler.cache.searchList = ∅
  commands : ∀ msgId, .get msgId ∉ s.commands
  call : ∀ msgId, s.call ≠ some (.get msgId)

section
variable (messageSize : UInt64) (crates : Crates) (dids : DidResolver) (secrets : SecretsResolver)

/-- The message of a text. -/
def read (msg : String) : Option Received := (unpack crates dids secrets msg).toOption

/-- What the calls of a run return. -/
def given : LiveStream → List StreamEvent → List Received
  | _, [] => []
  | s, event :: events => (answered (s.perform messageSize crates dids secrets event).2).toList ++
      given (s.after messageSize crates dids secrets event) events

end

variable {messageSize : UInt64} {crates : Crates} {dids : DidResolver} {secrets : SecretsResolver} {s : LiveStream}
  {event : StreamEvent}

/-! ## What a step of the handler does -/

/-- The cache is empty and not full. -/
structure Ready (s : LiveStream) : Prop where
  unfilled : s.handler.cache.Unfilled
  room : s.handler.cache.cacheFull = false

theorem answerSearch_kept {c : MessageCache} (h : c.Unfilled) (message : Message) (metadata : UnpackMetadata) :
    (c.answerSearch messageSize message metadata).1.cacheFull = c.cacheFull ∧
      (c.answerSearch messageSize message metadata).1.searchList ⊆ c.searchList := by
  have hRemove (id : String) : (c.remove messageSize id).1.cacheFull = c.cacheFull ∧
      (c.remove messageSize id).1.searchList ⊆ c.searchList := by
    rw [MessageCache.remove_absent (by rw [h.messages, AList.lookup_empty])]
    exact ⟨rfl, Finset.erase_subset id c.searchList⟩
  unfold MessageCache.answerSearch
  cases message.thid with
  | none =>
    dsimp only
    split
    · exact hRemove message.id
    · exact ⟨rfl, subset_rfl⟩
  | some thid =>
    dsimp only
    split
    · exact hRemove thid
    · exact ⟨rfl, subset_rfl⟩

theorem command_kept {c : MessageCache} (h : c.Unfilled) (cmd : WSCommand) :
    (c.command messageSize cmd).1.cacheFull = c.cacheFull ∧
      ((∀ id, cmd ≠ .get id) → (c.command messageSize cmd).1.searchList ⊆ c.searchList) := by
  cases cmd with
  | next =>
    have hNext : c.next messageSize = ({ c with nextFlag := true }, none) := by
      unfold MessageCache.next
      rw [h.orderedList]
    rw [MessageCache.command, hNext]
    exact ⟨rfl, fun _ => subset_rfl⟩
  | get id =>
    have hGet : c.get messageSize id = ({ c with searchList := Insert.insert id c.searchList }, none) := by
      unfold MessageCache.get
      rw [h.messages, h.thidLookup, AList.lookup_empty]
      rfl
    rw [MessageCache.command, hGet]
    exact ⟨rfl, fun hOther => absurd rfl (hOther id)⟩
  | timeOut id => exact ⟨rfl, fun _ => Finset.erase_subset id c.searchList⟩
  | _ => exact ⟨rfl, fun _ => subset_rfl⟩

/-- The cache stays as empty as it is, and nothing is searched for but by a get request. -/
theorem handle_kept {h : WsHandler} (hCache : h.cache.Unfilled) (event : WsEvent) :
    (h.handle messageSize crates dids secrets event).cache.cacheFull = h.cache.cacheFull ∧
      ((∀ id, event ≠ .command (.get id)) →
        (h.handle messageSize crates dids secrets event).cache.searchList ⊆ h.cache.searchList) := by
  unfold WsHandler.handle
  split
  · exact ⟨rfl, fun _ => subset_rfl⟩
  · cases event with
    | frame frame =>
      cases frame with
      | text msg =>
        dsimp only
        split
        · exact ⟨rfl, fun _ => subset_rfl⟩
        · split
          · next message metadata _ =>
            have hKept : (h.cache.answerSearch messageSize message metadata).1.cacheFull = h.cache.cacheFull ∧ _ :=
              answerSearch_kept hCache message metadata
            exact ⟨hKept.1, fun _ => hKept.2⟩
          · exact ⟨rfl, fun _ => subset_rfl⟩
          · exact ⟨rfl, fun _ => subset_rfl⟩
      | _ => exact ⟨rfl, fun _ => subset_rfl⟩
    | command cmd =>
      have hKept : (h.cache.command messageSize cmd).1.cacheFull = h.cache.cacheFull ∧ _ := command_kept hCache cmd
      cases cmd with
      | exit => exact ⟨rfl, fun _ => subset_rfl⟩
      | get id => exact ⟨hKept.1, fun hOther => absurd rfl (hOther id)⟩
      | _ => exact ⟨hKept.1, fun _ => hKept.2 nofun⟩
    | channelClosed => exact ⟨rfl, fun _ => subset_rfl⟩

/-- What arrives in a step is handed over once or twice, and once where nothing is searched for. -/
theorem handle_copies {h : WsHandler} (hCache : h.cache.Unfilled) (event : WsEvent) :
    ∃ new copies, (h.handle messageSize crates dids secrets event).received = h.received ++ new ∧
      WsHandler.handedOver (h.handle messageSize crates dids secrets event).sent =
        WsHandler.handedOver h.sent ++ copies ∧
      OnceOrTwice new copies ∧ (h.cache.searchList = ∅ → copies = new) := by
  obtain ⟨-, new, copies, hReceived, hOver, hTwice, hOnce⟩ :
      (h.handle messageSize crates dids secrets event).cache.Unfilled ∧ _ := WsHandler.handle_unfilled hCache
  refine ⟨new, copies, hReceived, hOver, ?_, ?_⟩
  · by_cases hTakes : h.TakesSearched crates dids secrets event
    · obtain ⟨r, rfl, rfl⟩ := hTwice hTakes
      exact .twice r .nil
    · rw [hOnce hTakes]
      exact .refl new
  · intro hNone
    refine hOnce ?_
    rintro ⟨r, -, hSearched⟩
    unfold MessageCache.Searched at hSearched
    rw [hNone] at hSearched
    split at hSearched <;> exact absurd hSearched (Finset.notMem_empty _)

/-- The handler takes the message of a text that arrives, unless it has ended. -/
theorem handle_received {h : WsHandler} (hRoom : h.cache.cacheFull = false) (frame : Frame) :
    (h.handle messageSize crates dids secrets (.frame frame)).received = h.received ++
      if h.stopped then [] else ((arriving (.frame frame)).bind (read crates dids secrets)).toList := by
  unfold WsHandler.handle
  by_cases hStopped : h.stopped = true
  · rw [if_pos hStopped, if_pos hStopped, List.append_nil]
  · rw [if_neg hStopped, if_neg hStopped]
    cases frame with
    | text msg =>
      rw [arriving, Option.bind_some, read]
      dsimp only
      rw [if_neg (by rw [hRoom]; decide)]
      split
      · next hUnpack =>
        rw [hUnpack]
        rfl
      · next hUnpack =>
        rw [hUnpack]
        exact (List.append_nil _).symm
      · next hUnpack =>
        rw [hUnpack]
        exact (List.append_nil _).symm
    | other => exact (List.append_nil _).symm
    | closed => exact (List.append_nil _).symm

theorem handle_stopped {h : WsHandler} (hStopped : h.stopped = true) (event : WsEvent) :
    h.handle messageSize crates dids secrets event = h := by
  unfold WsHandler.handle
  rw [if_pos hStopped]

/-! ## What a step of the stream does -/

theorem Ready.step (h : s.Ready) : (s.after messageSize crates dids secrets event).Ready := by
  refine ⟨after_unfilled h.unfilled, ?_⟩
  cases event with
  | frame frame => exact (handle_kept h.unfilled (.frame frame)).1.trans h.room
  | command =>
    unfold after perform
    cases s.commands with
    | nil => exact h.room
    | cons cmd rest => exact (handle_kept h.unfilled (.command cmd)).1.trans h.room
  | call call =>
    rw [after_call_handler]
    exact h.room
  | receive =>
    unfold after perform
    cases s.call with
    | none => exact h.room
    | some call =>
      cases s.handler.sent with
      | nil =>
        dsimp only
        split <;> exact h.room
      | cons cmd rest =>
        dsimp only
        rw [take_handler]
        exact h.room
  | timeOut =>
    rw [after_timeOut_handler]
    exact h.room

theorem receive_given : (answered (s.perform messageSize crates dids secrets .receive).2).toList ++
    WsHandler.handedOver (s.after messageSize crates dids secrets .receive).handler.sent =
      WsHandler.handedOver s.handler.sent := by
  unfold after perform
  cases s.call with
  | none => rfl
  | some call =>
    cases hSent : s.handler.sent with
    | nil =>
      dsimp only
      split
      · exact congrArg WsHandler.handedOver hSent
      · exact congrArg WsHandler.handedOver hSent
    | cons cmd rest =>
      dsimp only
      rw [take_handler]
      cases call <;> cases cmd <;> rfl

theorem receive_received :
    (s.after messageSize crates dids secrets .receive).handler.received = s.handler.received := by
  unfold after perform
  cases s.call with
  | none => rfl
  | some call =>
    cases s.handler.sent with
    | nil =>
      dsimp only
      split <;> rfl
    | cons cmd rest =>
      dsimp only
      rw [take_handler]

theorem timeOut_answered : answered (s.perform messageSize crates dids secrets .timeOut).2 = none := by
  unfold perform
  cases s.call with
  | none => rfl
  | some call =>
    cases call with
    | next => rfl
    | get msgId =>
      dsimp only
      split <;> rfl

theorem call_answered (call : StreamCall) :
    answered (s.perform messageSize crates dids secrets (.call call)).2 = none := by
  unfold perform
  cases s.call with
  | some _ => rfl
  | none =>
    dsimp only
    split <;> rfl

/-- What arrives in a step is added, once or twice, to what calls have returned or can still return. -/
theorem step_copies (h : s.Ready) : ∃ new copies,
    (s.after messageSize crates dids secrets event).handler.received = s.handler.received ++ new ∧
    (answered (s.perform messageSize crates dids secrets event).2).toList ++
        WsHandler.handedOver (s.after messageSize crates dids secrets event).handler.sent =
      WsHandler.handedOver s.handler.sent ++ copies ∧
    OnceOrTwice new copies ∧ (s.handler.cache.searchList = ∅ → copies = new) := by
  -- a step that leaves the handler and returns nothing
  have hIdle (hSame : (s.after messageSize crates dids secrets event).handler = s.handler)
      (hNone : answered (s.perform messageSize crates dids secrets event).2 = none) : ∃ new copies,
      (s.after messageSize crates dids secrets event).handler.received = s.handler.received ++ new ∧
      (answered (s.perform messageSize crates dids secrets event).2).toList ++
          WsHandler.handedOver (s.after messageSize crates dids secrets event).handler.sent =
        WsHandler.handedOver s.handler.sent ++ copies ∧
      OnceOrTwice new copies ∧ (s.handler.cache.searchList = ∅ → copies = new) := by
    refine ⟨[], [], ?_, ?_, .nil, fun _ => rfl⟩
    · rw [hSame, List.append_nil]
    · rw [hSame, hNone, List.append_nil]
      rfl
  cases event with
  | frame frame => exact handle_copies h.unfilled (.frame frame)
  | command =>
    cases hCommands : s.commands with
    | nil =>
      have hSame : s.perform messageSize crates dids secrets .command = (s, none) := by
        unfold perform
        rw [hCommands]
      exact hIdle (congrArg (·.1.handler) hSame) (congrArg (answered ·.2) hSame)
    | cons cmd rest =>
      have hStep : s.perform messageSize crates dids secrets .command =
          ({ s with
            handler := s.handler.handle messageSize crates dids secrets (.command cmd)
            commands := rest }, none) := by
        unfold perform
        rw [hCommands]
      rw [after, hStep]
      exact handle_copies h.unfilled (.command cmd)
  | call call => exact hIdle (after_call_handler call) (call_answered call)
  | receive =>
    refine ⟨[], [], ?_, ?_, .nil, fun _ => rfl⟩
    · rw [receive_received, List.append_nil]
    · rw [receive_given, List.append_nil]
  | timeOut => exact hIdle after_timeOut_handler timeOut_answered

theorem Unasked.step (hAsked : s.Unasked) (h : s.Ready) (hEvent : ∀ msgId, event ≠ .call (.get msgId)) :
    (s.after messageSize crates dids secrets event).Unasked := by
  have hHandler (wsEvent : WsEvent) (hOther : ∀ id, wsEvent ≠ .command (.get id)) :
      (s.handler.handle messageSize crates dids secrets wsEvent).cache.searchList = ∅ :=
    Finset.subset_empty.mp (hAsked.searchList ▸ (handle_kept h.unfilled wsEvent).2 hOther)
  unfold after perform
  cases event with
  | frame frame => exact ⟨hHandler (.frame frame) nofun, hAsked.commands, hAsked.call⟩
  | command =>
    cases hCommands : s.commands with
    | nil => exact ⟨hAsked.searchList, hAsked.commands, hAsked.call⟩
    | cons cmd rest =>
      have hNone := hAsked.commands
      rw [hCommands] at hNone
      refine ⟨hHandler (.command cmd) ?_, fun msgId hMem => hNone msgId (List.mem_cons_of_mem cmd hMem), hAsked.call⟩
      rintro id hGet
      cases hGet
      exact hNone id List.mem_cons_self
  | call call =>
    cases hCall : s.call with
    | some _ => exact ⟨hAsked.searchList, hAsked.commands, hAsked.call⟩
    | none =>
      dsimp only
      split
      · exact ⟨hAsked.searchList, hAsked.commands, hAsked.call⟩
      · cases call with
        | get msgId => exact absurd rfl (hEvent msgId)
        | next =>
          refine ⟨hAsked.searchList, fun msgId hMem => ?_, nofun⟩
          rcases List.mem_append.mp hMem with hBefore | hNow
          · exact hAsked.commands msgId hBefore
          · cases List.mem_singleton.mp hNow
  | receive =>
    cases hCall : s.call with
    | none => exact ⟨hAsked.searchList, hAsked.commands, hAsked.call⟩
    | some call =>
      cases hSent : s.handler.sent with
      | nil =>
        dsimp only
        split
        · exact ⟨hAsked.searchList, hAsked.commands, nofun⟩
        · exact ⟨hAsked.searchList, hAsked.commands, hAsked.call⟩
      | cons cmd rest =>
        cases call with
        | get msgId => exact absurd hCall (hAsked.call msgId)
        | next => cases cmd <;> exact ⟨hAsked.searchList, hAsked.commands, nofun⟩
  | timeOut =>
    cases hCall : s.call with
    | none => exact ⟨hAsked.searchList, hAsked.commands, hAsked.call⟩
    | some call =>
      cases call with
      | get msgId => exact absurd hCall (hAsked.call msgId)
      | next => exact ⟨hAsked.searchList, hAsked.commands, nofun⟩

/-- The handler takes what arrives until it has ended. -/
theorem step_received (h : s.Ready) : (s.after messageSize crates dids secrets event).handler.received =
    s.handler.received ++
      if s.handler.stopped then [] else ((arriving event).bind (read crates dids secrets)).toList := by
  have hNone (hSame : (s.after messageSize crates dids secrets event).handler.received = s.handler.received)
      (hArriving : arriving event = none) : (s.after messageSize crates dids secrets event).handler.received =
        s.handler.received ++
          if s.handler.stopped then [] else ((arriving event).bind (read crates dids secrets)).toList := by
    rw [hSame, hArriving]
    split <;> exact (List.append_nil _).symm
  cases event with
  | frame frame => exact handle_received h.room frame
  | command =>
    refine hNone ?_ rfl
    unfold after perform
    cases s.commands with
    | nil => rfl
    | cons cmd rest =>
      refine (WsHandler.handle_other messageSize h.unfilled ?_).2.1
      rintro r ⟨-, -, msg, hFrame, -⟩
      cases hFrame
  | call call => exact hNone (by rw [after_call_handler]) rfl
  | receive => exact hNone receive_received rfl
  | timeOut => exact hNone (by rw [after_timeOut_handler]) rfl

theorem step_stopped (hStopped : s.handler.stopped = true) :
    (s.after messageSize crates dids secrets event).handler.stopped = true := by
  cases event with
  | frame frame => exact (congrArg WsHandler.stopped (handle_stopped hStopped (.frame frame))).trans hStopped
  | command =>
    unfold after perform
    cases s.commands with
    | nil => exact hStopped
    | cons cmd rest => exact (congrArg WsHandler.stopped (handle_stopped hStopped (.command cmd))).trans hStopped
  | call call =>
    rw [after_call_handler]
    exact hStopped
  | receive =>
    unfold after perform
    cases s.call with
    | none => exact hStopped
    | some call =>
      cases s.handler.sent with
      | nil =>
        dsimp only
        split <;> exact hStopped
      | cons cmd rest =>
        dsimp only
        rw [take_handler]
        exact hStopped
  | timeOut =>
    rw [after_timeOut_handler]
    exact hStopped

/-! ## Runs -/

theorem ready_opened (count : UInt32) (bytes : UInt64) : (opened count bytes).Ready :=
  ⟨WsHandler.unfilled_started count bytes, rfl⟩

theorem unasked_opened (count : UInt32) (bytes : UInt64) : (opened count bytes).Unasked :=
  ⟨rfl, fun _ => List.not_mem_nil, nofun⟩

variable (messageSize crates dids secrets)

/-- What arrives in a run is returned or can still be returned, in order, once or twice. -/
theorem run_copies (h : s.Ready) (events : List StreamEvent) : ∃ new copies,
    (run (after messageSize crates dids secrets) s events).handler.received = s.handler.received ++ new ∧
    given messageSize crates dids secrets s events ++
        WsHandler.handedOver (run (after messageSize crates dids secrets) s events).handler.sent =
      WsHandler.handedOver s.handler.sent ++ copies ∧
    OnceOrTwice new copies ∧
    (s.Unasked → (∀ msgId, .call (.get msgId) ∉ events) → copies = new) := by
  induction events generalizing s with
  | nil => exact ⟨[], [], (List.append_nil _).symm, (List.append_nil _).symm, .nil, fun _ _ => rfl⟩
  | cons event events ih =>
    obtain ⟨new, copies, hReceived, hGiven, hTimes, hOnce⟩ := @step_copies messageSize crates dids secrets s event h
    have hNext : (s.after messageSize crates dids secrets event).Ready := h.step
    obtain ⟨later, laterCopies, hLater, hLaterGiven, hLaterTimes, hLaterOnce⟩ := ih hNext
    refine ⟨new ++ later, copies ++ laterCopies, ?_, ?_, hTimes.append hLaterTimes, ?_⟩
    · rw [run_cons, hLater, hReceived, List.append_assoc]
    · rw [run_cons, given, List.append_assoc, hLaterGiven, ← List.append_assoc, hGiven, List.append_assoc]
    · intro hAsked hNone
      have hNow : ∀ msgId, event ≠ .call (.get msgId) := by
        rintro msgId rfl
        exact hNone msgId List.mem_cons_self
      rw [hOnce hAsked.searchList, hLaterOnce (hAsked.step h hNow) fun msgId hMem =>
        hNone msgId (List.mem_cons_of_mem _ hMem)]

theorem run_stopped (h : s.Ready) (hStopped : s.handler.stopped = true) (events : List StreamEvent) :
    (run (after messageSize crates dids secrets) s events).handler.stopped = true ∧
      (run (after messageSize crates dids secrets) s events).handler.received = s.handler.received := by
  refine (run_keeps (I := fun t : LiveStream =>
    t.Ready ∧ t.handler.stopped = true ∧ t.handler.received = s.handler.received) ⟨h, hStopped, rfl⟩ ?_).2
  rintro t event ⟨hReady, hEnded, hSame⟩
  exact ⟨hReady.step, step_stopped hEnded, by rw [step_received hReady, if_pos hEnded, List.append_nil, hSame]⟩

/-- What is received in a run is a first part of what arrives, and all of it unless the handler has ended. -/
theorem run_received (h : s.Ready) (events : List StreamEvent) : ∃ new,
    (run (after messageSize crates dids secrets) s events).handler.received = s.handler.received ++ new ∧
    new <+: (events.filterMap arriving).filterMap (read crates dids secrets) ∧
    ((run (after messageSize crates dids secrets) s events).handler.stopped = false →
      new = (events.filterMap arriving).filterMap (read crates dids secrets)) := by
  induction events generalizing s with
  | nil => exact ⟨[], (List.append_nil _).symm, List.prefix_refl _, fun _ => rfl⟩
  | cons event events ih =>
    have hNext : (s.after messageSize crates dids secrets event).Ready := h.step
    have hReceived := @step_received messageSize crates dids secrets s event h
    obtain ⟨later, hLater, hPrefix, hAll⟩ := ih hNext
    have hTexts : ((event :: events).filterMap arriving).filterMap (read crates dids secrets) =
        ((arriving event).bind (read crates dids secrets)).toList ++
          (events.filterMap arriving).filterMap (read crates dids secrets) := by
      cases hText : arriving event with
      | none => rw [List.filterMap_cons_none hText]; rfl
      | some msg =>
        rw [List.filterMap_cons_some hText]
        cases hRead : read crates dids secrets msg with
        | none => rw [List.filterMap_cons_none hRead, Option.bind_some, hRead]; rfl
        | some r => rw [List.filterMap_cons_some hRead, Option.bind_some, hRead]; rfl
    by_cases hStopped : s.handler.stopped = true
    · have hEnded := run_stopped messageSize crates dids secrets h hStopped (event :: events)
      refine ⟨[], by rw [hEnded.2, List.append_nil], List.nil_prefix, fun hRunning => ?_⟩
      rw [hEnded.1] at hRunning
      cases hRunning
    · rw [if_neg hStopped] at hReceived
      refine ⟨_, by rw [run_cons, hLater, hReceived, List.append_assoc], ?_, fun hRunning => ?_⟩
      · rw [hTexts]
        exact (List.prefix_append_right_inj _).mpr hPrefix
      · rw [hTexts, hAll hRunning]

/-! ## From the task to the calls -/

/-- What the calls of the SDK return of what the task took for a socket. -/
structure Streamed (crates : Crates) (dids : DidResolver) (secrets : SecretsResolver)
    (steps : List (Streaming × StreamingEvent)) (s : Streaming) (id : Nat) (socket : Socket) (events : List StreamEvent)
    (underway : List String) (t : LiveStream) (returned : List Received) : Prop where
  /-- What was returned and what can still be returned is what the handler received. -/
  inOrder : OnceOrTwice t.handler.received (returned ++ WsHandler.handedOver t.handler.sent)
  once : (∀ msgId, .call (.get msgId) ∉ events) → returned ++ WsHandler.handedOver t.handler.sent = t.handler.received
  published : t.handler.received.Sublist
    ((steps.flatMap (Streaming.published socket.didHash)).filterMap (read crates dids secrets))
  none_lost : socket.phase ≠ .closed → t.handler.stopped = false →
    t.handler.received ++ (underway ++ socket.deliveries ++ s.inFlight id).filterMap (read crates dids secrets) =
      (steps.flatMap (Streaming.routed id)).filterMap (read crates dids secrets)

/-- Whatever the task, the sockets, the handler and the calls do in turn: messages are returned in the order in which
they were published for the DID of the socket, once each where no call asks for an id, and while both ends live none is
lost between the task and the calls. -/
theorem live_stream_in_order {steps : List (Streaming × StreamingEvent)} {s : Streaming}
    (h : streamingSystem.Trace .start steps s) {id : Nat} {socket : Socket} (hSocket : s.sockets id = some socket)
    (count : UInt32) (bytes : UInt64) {events : List StreamEvent} {underway : List String}
    (hFrames : events.filterMap arriving ++ underway = steps.flatMap (Streaming.received id)) :
    Streamed crates dids secrets steps s id socket events underway
      (run (after messageSize crates dids secrets) (opened count bytes) events)
      (given messageSize crates dids secrets (opened count bytes) events) := by
  obtain ⟨hPrefix, hAll⟩ := (Streaming.accounted_of_trace h id).sent hSocket
  have hPublished := (Streaming.routed_of_trace h id).2 socket hSocket
  obtain ⟨new, copies, hReceived, hReturned, hTimes, hOnce⟩ :=
    run_copies messageSize crates dids secrets (ready_opened count bytes) events
  obtain ⟨new', hReceived', hArrived, hComplete⟩ :=
    run_received messageSize crates dids secrets (ready_opened count bytes) events
  -- nothing has been received or sent at the start
  have hNew : (run (after messageSize crates dids secrets) (opened count bytes) events).handler.received =
    new := hReceived
  obtain rfl : new' = new := hReceived'.symm.trans hReceived
  have hCopies : given messageSize crates dids secrets (opened count bytes) events ++ WsHandler.handedOver
      (run (after messageSize crates dids secrets) (opened count bytes) events).handler.sent = copies := hReturned
  constructor
  · rw [hCopies, hNew]
    exact hTimes
  · intro hNone
    rw [hCopies, hNew]
    exact hOnce (unasked_opened count bytes) hNone
  · have hSent : (events.filterMap arriving).Sublist (steps.flatMap (Streaming.published socket.didHash)) := by
      refine List.Sublist.trans ?_ hPublished
      refine List.Sublist.trans ?_ hPrefix.sublist
      rw [← hFrames, List.append_assoc]
      exact List.sublist_append_left _ _
    rw [hNew]
    exact hArrived.sublist.trans (hSent.filterMap _)
  · intro hOpen hRunning
    rw [← hAll hOpen, ← hFrames, hNew, hComplete hRunning]
    simp only [List.filterMap_append, List.append_assoc]

/-- A ping is published for alice, whose socket sends it to her. -/
def alicePinged : List StreamingEvent :=
  [.connect 1 "alice", .sent 1, .takeUpdate, .toggle 1 true, .sent 1, .takeUpdate, .publish ⟨"alice", pingText, false⟩,
    .delivered, .receive 1]

theorem live_stream_in_order_alice : ∃ s socket, s.sockets 1 = some socket ∧
    Streamed pickupShared.crates noDids aliceSecrets (Streaming.start.stepsOf alicePinged) s 1 socket
      [.call .next, .frame (.text pingText), .receive] []
      (run (after 400 pickupShared.crates noDids aliceSecrets)
        (opened 100 10485760) [.call .next, .frame (.text pingText), .receive])
      (given 400 pickupShared.crates noDids aliceSecrets (opened 100 10485760)
        [.call .next, .frame (.text pingText), .receive]) ∧
    (given 400 pickupShared.crates noDids aliceSecrets (opened 100 10485760)
      [.call .next, .frame (.text pingText), .receive]).map (·.1.id) = ["1"] := by
  have hSome : (Streaming.start.run alicePinged).isSome = true := by decide
  obtain ⟨s, hRun⟩ := Option.isSome_iff_exists.mp hSome
  have hSocket : (Streaming.start.run alicePinged).map (fun s => s.sockets 1) =
      some (some ⟨"alice", .selecting, [], false⟩) := by
    decide
  rw [hRun, Option.map_some, Option.some.injEq] at hSocket
  exact ⟨s, _, hSocket, live_stream_in_order 400 pickupShared.crates noDids aliceSecrets
    (Streaming.trace_of_run hRun) hSocket 100 10485760 rfl, by decide +kernel⟩

end LiveStream

end AffinidiMessaging.Sdk
