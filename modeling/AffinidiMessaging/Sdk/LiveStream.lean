import AffinidiMessaging.Sdk.WsHandler

/-! # The live stream of the SDK

`live_stream_next` and `live_stream_get` talk to `ws_handler` through two channels. The answers carry no mark
of the request they belong to: a call returns the first message it finds in its channel, whoever it is for.
-/

namespace AffinidiMessaging.Sdk

open Didcomm Machine

inductive StreamCall
  | next
  | get (msgId : String)

def StreamCall.request : StreamCall → WSCommand
  | .next => .next
  | .get msgId => .get msgId

/-- The texts without their cause. -/
inductive ATMError
  | transportError (text : String)
  | msgReceiveError (text : String)
deriving DecidableEq

/-- The error where the handler has ended. -/
def StreamCall.refused : StreamCall → ATMError
  | .next => .transportError "Could not send message to ws_handler"
  | .get _ => .transportError "Could not send get message to ws_handler"

/-- One step of the handler or of the call of the SDK that is under way. -/
inductive StreamEvent
  | frame (frame : Frame)
  | command
  | call (call : StreamCall)
  | receive
  | timeOut

/-- The two parties and the channels between them; `handler.sent` is what the SDK has yet to receive. -/
structure LiveStream where
  handler : WsHandler
  commands : List WSCommand := []
  call : Option StreamCall := none

/-- The message a call for this id may return. -/
def Asked (msgId : String) (r : Received) : Prop := r.1.id = msgId ∨ r.1.thid = some msgId

instance (msgId : String) (r : Received) : Decidable (Asked msgId r) :=
  inferInstanceAs (Decidable (_ ∨ _))

namespace LiveStream

abbrev Answer := Except ATMError (Option Received)

def finish (s : LiveStream) (answer : Answer) : LiveStream × Option Answer :=
  ({ s with call := none }, some answer)

/-- The call of the SDK receives a command. A get request goes on waiting after `NotFound`. -/
def take (s : LiveStream) (call : StreamCall) (cmd : WSCommand) : LiveStream × Option Answer :=
  match call, cmd with
  | _, .messageReceived message metadata => s.finish (.ok (some (message, metadata)))
  | .get _, .notFound => (s, none)
  | _, _ => s.finish (.error (.msgReceiveError "Unexpected message type"))

section
variable (messageSize : UInt64) (crates : Crates) (dids : DidResolver) (secrets : SecretsResolver)

/-- An event that is not possible changes nothing. What is sent to a handler that has ended is an error. -/
def perform (s : LiveStream) (event : StreamEvent) : LiveStream × Option Answer :=
  match event with
  | .frame frame => ({ s with handler := s.handler.handle messageSize crates dids secrets (.frame frame) }, none)
  | .command =>
    match s.commands with
    | [] => (s, none)
    | cmd :: rest =>
      ({ s with
        handler := s.handler.handle messageSize crates dids secrets (.command cmd)
        commands := rest }, none)
  | .call call =>
    match s.call with
    | some _ => (s, none)
    | none =>
      if s.handler.stopped then
        (s, some (.error call.refused))
      else ({ s with commands := s.commands ++ [call.request], call := some call }, none)
  | .receive =>
    match s.call with
    | none => (s, none)
    | some call =>
      match s.handler.sent with
      | [] => if s.handler.stopped then s.finish (.ok none) else (s, none)
      | cmd :: rest => { s with handler := { s.handler with sent := rest } }.take call cmd
  | .timeOut =>
    match s.call with
    | none => (s, none)
    | some .next => s.finish (.ok none)
    | some (.get msgId) =>
      if s.handler.stopped then
        s.finish (.error (.transportError "Could not send timeout message to ws_handler"))
      else { s with commands := s.commands ++ [WSCommand.timeOut msgId] }.finish (.ok none)

def after (s : LiveStream) (event : StreamEvent) : LiveStream :=
  (s.perform messageSize crates dids secrets event).1

/-- The stream once its handler has started. -/
def opened (count : UInt32) (bytes : UInt64) : LiveStream where
  handler := { WsHandler.started count bytes with sent := [] }

/-- The messages that a later call can still return. -/
def available (s : LiveStream) : List Received :=
  WsHandler.handedOver s.handler.sent ++ s.handler.cache.messages.entries.map Sigma.snd

def GivesAsked (s : LiveStream) (event : StreamEvent) : Prop :=
  ∀ msgId r, s.call = some (.get msgId) →
    (s.perform messageSize crates dids secrets event).2 = some (.ok (some r)) → Asked msgId r

/-- While a call waits for one message, the others stay available, those that arrive included. -/
def KeepsOthers (s : LiveStream) (event : StreamEvent) : Prop :=
  ∀ msgId new, s.call = some (.get msgId) →
    (s.after messageSize crates dids secrets event).handler.received = s.handler.received ++ new →
    ((s.available ++ new).filter fun r => ¬Asked msgId r).Subperm
      (s.after messageSize crates dids secrets event).available

end

/-- A call for one message receives while the first command in its channel is another message. -/
def TakesOther (s : LiveStream) (event : StreamEvent) : Prop :=
  event = .receive ∧ ∃ msgId message metadata rest, s.call = some (.get msgId) ∧
    s.handler.sent = .messageReceived message metadata :: rest ∧ ¬Asked msgId (message, metadata)

variable {messageSize : UInt64} {crates : Crates} {dids : DidResolver} {secrets : SecretsResolver} {s : LiveStream}
  {event : StreamEvent}

theorem available_unfilled (h : s.handler.cache.Unfilled) : s.available = WsHandler.handedOver s.handler.sent := by
  unfold available
  rw [h.messages]
  exact List.append_nil _

theorem handle_available (h : s.handler.cache.Unfilled) (event : WsEvent) {new : List Received}
    (hNew : (s.handler.handle messageSize crates dids secrets event).received = s.handler.received ++ new) :
    (WsHandler.handedOver s.handler.sent ++ new).Sublist
      (WsHandler.handedOver (s.handler.handle messageSize crates dids secrets event).sent) := by
  obtain ⟨-, new', given, hReceived, hOver, hTwice, hOnce⟩ :
      (s.handler.handle messageSize crates dids secrets event).cache.Unfilled ∧ _ := WsHandler.handle_unfilled h
  rw [hReceived, List.append_cancel_left_eq] at hNew
  subst hNew
  rw [hOver]
  refine List.Sublist.append_left ?_ _
  by_cases hTakes : s.handler.TakesSearched crates dids secrets event
  · obtain ⟨r, rfl, rfl⟩ := hTwice hTakes
    exact List.sublist_cons_self r [r]
  · rw [hOnce hTakes]

@[simp] theorem take_handler (call : StreamCall) (cmd : WSCommand) : (s.take call cmd).1.handler = s.handler := by
  cases call <;> cases cmd <;> rfl

theorem after_unfilled (h : s.handler.cache.Unfilled) :
    (s.after messageSize crates dids secrets event).handler.cache.Unfilled := by
  unfold after perform
  cases event with
  | frame frame => exact (WsHandler.handle_unfilled h).1
  | command =>
    cases s.commands with
    | nil => exact h
    | cons cmd rest => exact (WsHandler.handle_unfilled h).1
  | call call =>
    cases s.call with
    | some _ => exact h
    | none =>
      dsimp only
      split <;> exact h
  | receive =>
    cases s.call with
    | none => exact h
    | some call =>
      cases s.handler.sent with
      | nil =>
        dsimp only
        split <;> exact h
      | cons cmd rest =>
        dsimp only
        rw [take_handler]
        exact h
  | timeOut =>
    cases s.call with
    | none => exact h
    | some call =>
      cases call with
      | next => exact h
      | get msgId =>
        dsimp only
        split <;> exact h

theorem keepsOthers_handle (h : s.handler.cache.Unfilled) (wsEvent : WsEvent)
    (hAfter : (s.after messageSize crates dids secrets event).handler =
      s.handler.handle messageSize crates dids secrets wsEvent) :
    s.KeepsOthers messageSize crates dids secrets event := by
  intro msgId new _ hNew
  rw [available_unfilled h, available_unfilled (after_unfilled h)]
  rw [hAfter] at hNew ⊢
  exact (List.filter_sublist.trans (handle_available h wsEvent hNew)).subperm

/-- What a step leaves in the channel is kept, if no message arrives in it. -/
theorem keepsOthers_of_sublist
    (hReceived : (s.after messageSize crates dids secrets event).handler.received = s.handler.received)
    (hKept : ∀ msgId, s.call = some (.get msgId) →
      (s.available.filter fun r => ¬Asked msgId r).Sublist (s.after messageSize crates dids secrets event).available) :
    s.KeepsOthers messageSize crates dids secrets event := by
  intro msgId new hCall hNew
  rw [hReceived] at hNew
  obtain rfl : new = [] := List.append_right_eq_self.mp hNew.symm
  rw [List.append_nil]
  exact (hKept msgId hCall).subperm

theorem keepsOthers_of_handler (hSame : (s.after messageSize crates dids secrets event).handler = s.handler) :
    s.KeepsOthers messageSize crates dids secrets event := by
  refine keepsOthers_of_sublist (by rw [hSame]) fun msgId _ => ?_
  unfold available
  rw [hSame]
  exact List.filter_sublist

theorem receive_get {msgId : String} {cmd : WSCommand} {rest : List WSCommand} (hCall : s.call = some (.get msgId))
    (hSent : s.handler.sent = cmd :: rest) :
    s.perform messageSize crates dids secrets .receive =
      { s with handler := { s.handler with sent := rest } }.take (.get msgId) cmd := by
  unfold perform
  rw [hCall, hSent]

theorem receive_message_iff {msgId : String} {message : Message} {metadata : UnpackMetadata} {rest : List WSCommand}
    (h : s.handler.cache.Unfilled) (hCall : s.call = some (.get msgId))
    (hSent : s.handler.sent = .messageReceived message metadata :: rest) :
    s.GivesAsked messageSize crates dids secrets .receive ∧ s.KeepsOthers messageSize crates dids secrets .receive ↔
      Asked msgId (message, metadata) := by
  have hPerform : s.perform messageSize crates dids secrets .receive = _ := receive_get hCall hSent
  constructor
  · rintro ⟨hGives, -⟩
    exact hGives msgId (message, metadata) hCall (by rw [hPerform]; rfl)
  · intro hAsked
    constructor
    · intro msgId' r hCall' hAnswer
      rw [hCall] at hCall'
      cases hCall'
      rw [hPerform] at hAnswer
      cases hAnswer
      exact hAsked
    · refine keepsOthers_of_sublist (by rw [after, hPerform, take_handler]) fun msgId' hCall' => ?_
      rw [hCall] at hCall'
      cases hCall'
      rw [available_unfilled h, available_unfilled (after_unfilled h), hSent, after, hPerform, take_handler]
      change (((message, metadata) :: WsHandler.handedOver rest).filter _).Sublist (WsHandler.handedOver rest)
      rw [List.filter_cons_of_neg (by simpa using hAsked)]
      exact List.filter_sublist

theorem receive_other {msgId : String} {cmd : WSCommand} {rest : List WSCommand} (h : s.handler.cache.Unfilled)
    (hCall : s.call = some (.get msgId)) (hSent : s.handler.sent = cmd :: rest)
    (hOther : ∀ message metadata, cmd ≠ .messageReceived message metadata) :
    s.GivesAsked messageSize crates dids secrets .receive ∧ s.KeepsOthers messageSize crates dids secrets .receive := by
  have hPerform : s.perform messageSize crates dids secrets .receive = _ := receive_get hCall hSent
  constructor
  · intro msgId' r _ hAnswer
    rw [hPerform] at hAnswer
    cases cmd with
    | messageReceived message metadata => exact absurd rfl (hOther message metadata)
    | _ => cases hAnswer
  · refine keepsOthers_of_sublist (by rw [after, hPerform, take_handler]) fun msgId' _ => ?_
    rw [available_unfilled h, available_unfilled (after_unfilled h), hSent, after, hPerform, take_handler]
    cases cmd with
    | messageReceived message metadata => exact absurd rfl (hOther message metadata)
    | _ => exact List.filter_sublist

theorem receive_iff (h : s.handler.cache.Unfilled) :
    s.GivesAsked messageSize crates dids secrets .receive ∧ s.KeepsOthers messageSize crates dids secrets .receive ↔
      ¬s.TakesOther .receive := by
  by_cases hGet : ∃ msgId cmd rest, s.call = some (.get msgId) ∧ s.handler.sent = cmd :: rest
  · obtain ⟨msgId, cmd, rest, hCall, hSent⟩ := hGet
    by_cases hMessage : ∃ message metadata, cmd = .messageReceived message metadata
    · obtain ⟨message, metadata, rfl⟩ := hMessage
      rw [receive_message_iff h hCall hSent]
      constructor
      · rintro hAsked ⟨-, msgId', message', metadata', rest', hCall', hSent', hOther⟩
        rw [hCall] at hCall'
        rw [hSent] at hSent'
        cases hCall'
        cases hSent'
        exact hOther hAsked
      · intro hNot
        by_contra hOther
        exact hNot ⟨rfl, msgId, message, metadata, rest, hCall, hSent, hOther⟩
    · refine iff_of_true (receive_other h hCall hSent fun m u hSame => hMessage ⟨m, u, hSame⟩) ?_
      rintro ⟨-, msgId', message', metadata', rest', -, hSent', -⟩
      rw [hSent] at hSent'
      cases hSent'
      exact hMessage ⟨message', metadata', rfl⟩
  · have hIdle : ∀ msgId, s.call = some (.get msgId) → s.handler.sent = [] := by
      intro msgId hCall
      cases hSent : s.handler.sent with
      | nil => rfl
      | cons cmd rest => exact absurd ⟨msgId, cmd, rest, hCall, hSent⟩ hGet
    refine iff_of_true ⟨?_, ?_⟩ ?_
    · intro msgId r hCall hAnswer
      unfold perform at hAnswer
      rw [hCall, hIdle msgId hCall] at hAnswer
      dsimp only at hAnswer
      split at hAnswer <;> cases hAnswer
    · intro msgId new hCall
      have hSame : (s.after messageSize crates dids secrets .receive).handler = s.handler := by
        unfold after perform
        rw [hCall, hIdle msgId hCall]
        dsimp only
        split <;> rfl
      exact keepsOthers_of_handler hSame msgId new hCall
    · rintro ⟨-, msgId, message, metadata, rest, hCall, hSent, -⟩
      exact hGet ⟨msgId, _, rest, hCall, hSent⟩

theorem after_call_handler (call : StreamCall) :
    (s.after messageSize crates dids secrets (.call call)).handler = s.handler := by
  unfold after perform
  cases s.call with
  | some _ => rfl
  | none =>
    dsimp only
    split <;> rfl

theorem after_timeOut_handler : (s.after messageSize crates dids secrets .timeOut).handler = s.handler := by
  unfold after perform
  cases s.call with
  | none => rfl
  | some call =>
    cases call with
    | next => rfl
    | get msgId =>
      dsimp only
      split <;> rfl

/-- A step returns what was asked for, and keeps the other messages, if and only if it takes no other message. -/
theorem step_iff (h : s.handler.cache.Unfilled) :
    s.GivesAsked messageSize crates dids secrets event ∧ s.KeepsOthers messageSize crates dids secrets event ↔
      ¬s.TakesOther event := by
  by_cases hReceive : event = .receive
  · rw [hReceive]
    exact receive_iff h
  · refine iff_of_true ⟨?_, ?_⟩ fun hTakes => hReceive hTakes.1
    · intro msgId r hCall hAnswer
      unfold perform at hAnswer
      rw [hCall] at hAnswer
      cases event with
      | frame frame => cases hAnswer
      | command => cases hCommands : s.commands <;> rw [hCommands] at hAnswer <;> cases hAnswer
      | call call => cases hAnswer
      | receive => exact absurd rfl hReceive
      | timeOut =>
        dsimp only at hAnswer
        split at hAnswer <;> cases hAnswer
    · cases event with
      | frame frame => exact keepsOthers_handle h (.frame frame) rfl
      | command =>
        cases hCommands : s.commands with
        | nil =>
          refine keepsOthers_of_handler ?_
          unfold after perform
          rw [hCommands]
        | cons cmd rest =>
          refine keepsOthers_handle h (.command cmd) ?_
          unfold after perform
          rw [hCommands]
      | call call => exact keepsOthers_of_handler (after_call_handler call)
      | receive => exact absurd rfl hReceive
      | timeOut => exact keepsOthers_of_handler after_timeOut_handler

variable (messageSize crates dids secrets)

def answered : Option Answer → Option Received
  | some (.ok r) => r
  | _ => none

theorem answered_eq_some_iff {answer : Option Answer} {r : Received} :
    answered answer = some r ↔ answer = some (.ok (some r)) := by
  constructor
  · intro h
    cases answer with
    | none => cases h
    | some result =>
      cases result with
      | error e => cases h
      | ok found =>
        cases h
        rfl
  · rintro rfl
    rfl

end LiveStream

end AffinidiMessaging.Sdk
