import AffinidiMessaging.Sdk.MessageCache
import AffinidiMessaging.Sdk.MessagePickup

/-! # The handler of the web socket

`ws_handler` hands every message that arrives to the SDK at once, since the branch that caches it is never
taken. A message that the search list waits for is handed over before that as well.
-/

namespace AffinidiMessaging.Sdk

open Didcomm Machine

inductive WSCommand
  | started
  | exit
  | send (msg : String)
  | next
  | get (id : String)
  | messageReceived (message : Message) (metadata : UnpackMetadata)
  | notFound
  | timeOut (id : String)

/-- What the web socket yields: a frame, or nothing any more. -/
inductive Frame
  | text (msg : String)
  | other
  | closed

/-- What `select!` finds ready. -/
inductive WsEvent
  | frame (frame : Frame)
  | command (cmd : WSCommand)
  | channelClosed

namespace MessageCache

variable (messageSize : UInt64)

/-- Is a get request waiting for this message? The id counts only where there is no thread. -/
def Searched (c : MessageCache) (message : Message) : Prop :=
  match message.thid with
  | some thid => thid ∈ c.searchList
  | none => message.id ∈ c.searchList

/-- What a get request that waits for the message is sent. -/
def answerSearch (c : MessageCache) (message : Message) (metadata : UnpackMetadata) :
    MessageCache × List WSCommand :=
  match message.thid with
  | some thid =>
    if thid ∈ c.searchList then
      ((c.remove messageSize thid).1, [.messageReceived message metadata])
    else (c, [])
  | none =>
    if message.id ∈ c.searchList then
      ((c.remove messageSize message.id).1, [.messageReceived message metadata])
    else (c, [])

/-- A message that was unpacked, and what is sent to the SDK. -/
def receive (c : MessageCache) (message : Message) (metadata : UnpackMetadata) : MessageCache × List WSCommand :=
  let (c, sent) := c.answerSearch messageSize message metadata
  -- `if true //cache.next_flag`
  if true then
    ({ c with nextFlag := false }, sent ++ [.messageReceived message metadata])
  else
    (c.insert messageSize message metadata, sent)

/-- A command of the SDK, and what is sent back. Only `Send` goes on to the web socket. -/
def command (c : MessageCache) : WSCommand → MessageCache × List WSCommand
  | .next =>
    match c.next messageSize with
    | (c, some (message, metadata)) => (c, [.messageReceived message metadata])
    | (c, none) => (c, [])
  | .get id =>
    match c.get messageSize id with
    | (c, some (message, metadata)) => (c, [.messageReceived message metadata])
    | (c, none) => (c, [.notFound])
  | .timeOut id => ({ c with searchList := c.searchList.erase id }, [])
  | _ => (c, [])

end MessageCache

/-- The handler with all it has received and sent to the SDK. -/
structure WsHandler where
  cache : MessageCache
  received : List Received := []
  sent : List WSCommand := []
  stopped : Bool := false

namespace WsHandler

def emit (s : WsHandler) (result : MessageCache × List WSCommand) : WsHandler :=
  { s with cache := result.1, sent := s.sent ++ result.2 }

variable (messageSize : UInt64) (crates : Crates) (dids : DidResolver) (secrets : SecretsResolver)

/-- A full cache keeps the web socket from being read. -/
def handle (s : WsHandler) (event : WsEvent) : WsHandler :=
  if s.stopped then s else
    match event with
    | .frame (.text msg) =>
      if s.cache.cacheFull then s else
        match unpack crates dids secrets msg with
        | .ok (message, metadata) =>
          { s with received := s.received ++ [(message, metadata)] }.emit
            (s.cache.receive messageSize message metadata)
        | .error (.error _) => s
        | .error (.panic _) => { s with stopped := true }
    | .frame .other => s
    | .frame .closed => { s with stopped := true }
    | .command .exit => { s with stopped := true }
    | .command cmd => s.emit (s.cache.command messageSize cmd)
    | .channelClosed => { s with stopped := true }

/-- The handler before its first event. -/
def started (count : UInt32) (bytes : UInt64) : WsHandler where
  cache := .withLimits count bytes
  sent := [.started]

/-- The messages among the commands sent to the SDK. -/
def handedOver (sent : List WSCommand) : List Received :=
  sent.filterMap fun
    | .messageReceived message metadata => some (message, metadata)
    | _ => none

/-- Every message received is in the cache or has been handed over, and once. -/
def ExactlyOnce (s : WsHandler) : Prop :=
  (handedOver s.sent ++ s.cache.messages.entries.map Sigma.snd).Perm s.received

/-- The event is a message that is read and unpacked. -/
def Takes (s : WsHandler) (event : WsEvent) (r : Received) : Prop :=
  s.stopped = false ∧ s.cache.cacheFull = false ∧ ∃ msg, event = .frame (.text msg) ∧
    unpack crates dids secrets msg = .ok r

/-- The event is such a message, and the search list waits for it. -/
def TakesSearched (s : WsHandler) (event : WsEvent) : Prop :=
  ∃ r, s.Takes crates dids secrets event r ∧ s.cache.Searched r.1

end WsHandler

/-! ## The cache is never filled -/

namespace MessageCache

variable {messageSize : UInt64} {c : MessageCache}

structure Unfilled (c : MessageCache) : Prop where
  messages : c.messages = ∅
  thidLookup : c.thidLookup = ∅
  orderedList : c.orderedList = []

theorem Unfilled.remove (h : c.Unfilled) (id : String) : (c.remove messageSize id).1.Unfilled := by
  have hAbsent : c.messages.lookup id = none := by
    rw [h.messages, AList.lookup_empty]
  rw [remove_absent hAbsent]
  exact ⟨h.messages, h.thidLookup, by rw [h.orderedList, List.erase_nil]⟩

theorem Unfilled.answerSearch (h : c.Unfilled) (message : Message) (metadata : UnpackMetadata) :
    (c.answerSearch messageSize message metadata).1.Unfilled := by
  unfold MessageCache.answerSearch
  cases message.thid with
  | none =>
    dsimp only
    split
    · exact h.remove message.id
    · exact h
  | some thid =>
    dsimp only
    split
    · exact h.remove thid
    · exact h

theorem answerSearch_searched {message : Message} (h : c.Searched message) (metadata : UnpackMetadata) :
    (c.answerSearch messageSize message metadata).2 = [.messageReceived message metadata] := by
  unfold Searched at h
  unfold answerSearch
  cases hThread : message.thid with
  | none =>
    rw [hThread] at h
    dsimp only
    rw [if_pos h]
  | some thid =>
    rw [hThread] at h
    dsimp only
    rw [if_pos h]

theorem answerSearch_unsearched {message : Message} (h : ¬c.Searched message) (metadata : UnpackMetadata) :
    (c.answerSearch messageSize message metadata).2 = [] := by
  unfold Searched at h
  unfold answerSearch
  cases hThread : message.thid with
  | none =>
    rw [hThread] at h
    dsimp only
    rw [if_neg h]
  | some thid =>
    rw [hThread] at h
    dsimp only
    rw [if_neg h]

theorem receive_sent (message : Message) (metadata : UnpackMetadata) :
    (c.receive messageSize message metadata).2 =
      (c.answerSearch messageSize message metadata).2 ++ [.messageReceived message metadata] := rfl

theorem Unfilled.receive (h : c.Unfilled) (message : Message) (metadata : UnpackMetadata) :
    (c.receive messageSize message metadata).1.Unfilled := by
  have hSearch : (c.answerSearch messageSize message metadata).1.Unfilled := h.answerSearch message metadata
  exact ⟨hSearch.messages, hSearch.thidLookup, hSearch.orderedList⟩

theorem Unfilled.command (h : c.Unfilled) (cmd : WSCommand) :
    (c.command messageSize cmd).1.Unfilled ∧ WsHandler.handedOver (c.command messageSize cmd).2 = [] := by
  cases cmd with
  | next =>
    have hNext : c.next messageSize = ({ c with nextFlag := true }, none) := by
      unfold MessageCache.next
      rw [h.orderedList]
    rw [MessageCache.command, hNext]
    exact ⟨⟨h.messages, h.thidLookup, h.orderedList⟩, rfl⟩
  | get id =>
    have hGet : c.get messageSize id = ({ c with searchList := Insert.insert id c.searchList }, none) := by
      unfold MessageCache.get
      rw [h.messages, h.thidLookup, AList.lookup_empty]
      rfl
    rw [MessageCache.command, hGet]
    exact ⟨⟨h.messages, h.thidLookup, h.orderedList⟩, rfl⟩
  | timeOut id => exact ⟨⟨h.messages, h.thidLookup, h.orderedList⟩, rfl⟩
  | _ => exact ⟨h, rfl⟩

end MessageCache

/-! ## What is received and what is handed over -/

namespace WsHandler

variable {messageSize : UInt64} {crates : Crates} {dids : DidResolver} {secrets : SecretsResolver}
  {s : WsHandler} {event : WsEvent}

@[simp] theorem emit_sent (result : MessageCache × List WSCommand) : (s.emit result).sent = s.sent ++ result.2 := rfl

theorem handedOver_append (sent more : List WSCommand) :
    handedOver (sent ++ more) = handedOver sent ++ handedOver more :=
  List.filterMap_append

theorem Takes.unique {r r' : Received} (h : s.Takes crates dids secrets event r)
    (h' : s.Takes crates dids secrets event r') : r = r' := by
  obtain ⟨-, -, msg, rfl, hUnpack⟩ := h
  obtain ⟨-, -, msg', hSame, hUnpack'⟩ := h'
  cases hSame
  rw [hUnpack] at hUnpack'
  cases hUnpack'
  rfl

theorem handle_takes {r : Received} (h : s.Takes crates dids secrets event r) :
    handle messageSize crates dids secrets s event =
      { s with received := s.received ++ [r] }.emit (s.cache.receive messageSize r.1 r.2) := by
  obtain ⟨hRunning, hRoom, msg, rfl, hUnpack⟩ := h
  simp [handle, hRunning, hRoom, hUnpack]

variable (messageSize) in
theorem handle_other (hCache : s.cache.Unfilled) (h : ∀ r, ¬s.Takes crates dids secrets event r) :
    (handle messageSize crates dids secrets s event).cache.Unfilled ∧
      (handle messageSize crates dids secrets s event).received = s.received ∧
      handedOver (handle messageSize crates dids secrets s event).sent = handedOver s.sent := by
  unfold handle
  by_cases hStopped : s.stopped = true
  · rw [if_pos hStopped]
    exact ⟨hCache, rfl, rfl⟩
  · rw [if_neg hStopped]
    cases event with
    | frame frame =>
      cases frame with
      | text msg =>
        dsimp only
        split
        · exact ⟨hCache, rfl, rfl⟩
        · rename_i hRoom
          split
          · rename_i message metadata hUnpack
            rw [Bool.not_eq_true] at hStopped hRoom
            exact absurd ⟨hStopped, hRoom, msg, rfl, hUnpack⟩ (h (message, metadata))
          · exact ⟨hCache, rfl, rfl⟩
          · exact ⟨hCache, rfl, rfl⟩
      | _ => exact ⟨hCache, rfl, rfl⟩
    | command cmd =>
      obtain ⟨hNext, hNone⟩ : (s.cache.command messageSize cmd).1.Unfilled ∧
          handedOver (s.cache.command messageSize cmd).2 = [] := hCache.command cmd
      cases cmd with
      | exit => exact ⟨hCache, rfl, rfl⟩
      | _ => exact ⟨hNext, rfl, by rw [emit_sent, handedOver_append, hNone, List.append_nil]⟩
    | _ => exact ⟨hCache, rfl, rfl⟩

/-- An event brings one message or none. It is handed over once, and twice if the search list waits for it. -/
theorem handle_unfilled (hCache : s.cache.Unfilled) :
    (handle messageSize crates dids secrets s event).cache.Unfilled ∧ ∃ new given,
      (handle messageSize crates dids secrets s event).received = s.received ++ new ∧
      handedOver (handle messageSize crates dids secrets s event).sent = handedOver s.sent ++ given ∧
      (TakesSearched crates dids secrets s event → ∃ r, new = [r] ∧ given = [r, r]) ∧
      (¬TakesSearched crates dids secrets s event → given = new) := by
  by_cases hTakes : ∃ r, s.Takes crates dids secrets event r
  · obtain ⟨r, hTakes⟩ := hTakes
    rw [handle_takes hTakes]
    refine ⟨hCache.receive r.1 r.2, [r], _, rfl, handedOver_append _ _, ?_, ?_⟩
    · rintro ⟨r', hTakes', hSearched⟩
      obtain rfl := hTakes.unique hTakes'
      refine ⟨r, rfl, ?_⟩
      rw [MessageCache.receive_sent, MessageCache.answerSearch_searched hSearched]
      rfl
    · intro hNotSearched
      have hUnsearched : ¬s.cache.Searched r.1 := fun hSearched => hNotSearched ⟨r, hTakes, hSearched⟩
      rw [MessageCache.receive_sent, MessageCache.answerSearch_unsearched hUnsearched]
      rfl
  · obtain ⟨hNext, hReceived, hSent⟩ := handle_other messageSize hCache (not_exists.mp hTakes)
    refine ⟨hNext, [], [], by rw [hReceived, List.append_nil], by rw [hSent, List.append_nil], ?_, fun _ => rfl⟩
    rintro ⟨r, hTakes', _⟩
    exact absurd ⟨r, hTakes'⟩ hTakes

/-! ## Runs -/

/-- So many messages more are handed over than are received. -/
def Ahead (surplus : Nat) (s : WsHandler) : Prop :=
  s.cache.Unfilled ∧ s.received.length + surplus ≤ (handedOver s.sent).length

theorem Ahead.handle {surplus : Nat} (h : s.Ahead surplus) :
    (s.handle messageSize crates dids secrets event).Ahead surplus ∧
      (s.TakesSearched crates dids secrets event →
        (s.handle messageSize crates dids secrets event).Ahead (surplus + 1)) := by
  obtain ⟨hCache, hAhead⟩ := h
  obtain ⟨hNext, new, given, hReceived, hOver, hTwice, hOnce⟩ :
      (s.handle messageSize crates dids secrets event).cache.Unfilled ∧ _ := handle_unfilled hCache
  have hMore : s.TakesSearched crates dids secrets event → new.length + 1 ≤ given.length := by
    intro hTakes
    obtain ⟨r, rfl, rfl⟩ := hTwice hTakes
    exact Nat.le_refl _
  have hEnough : new.length ≤ given.length := by
    by_cases hTakes : s.TakesSearched crates dids secrets event
    · exact Nat.le_of_succ_le (hMore hTakes)
    · rw [hOnce hTakes]
  unfold Ahead
  rw [hReceived, hOver, List.length_append, List.length_append]
  refine ⟨⟨hNext, by omega⟩, fun hTakes => ⟨hNext, ?_⟩⟩
  have hSurplus := hMore hTakes
  omega

theorem Ahead.run {surplus : Nat} (h : s.Ahead surplus) (events : List WsEvent) :
    (Machine.run (WsHandler.handle messageSize crates dids secrets) s events).Ahead surplus :=
  run_keeps h fun _ _ h => h.handle.1

theorem unfilled_started (count : UInt32) (bytes : UInt64) : (started count bytes).cache.Unfilled :=
  ⟨rfl, rfl, rfl⟩

variable (messageSize crates dids secrets)

/-- A run hands over every message once, or still has it, if and only if no message arrives that the search list
waits for. -/
theorem run_exactlyOnce_iff (count : UInt32) (bytes : UInt64) (events : List WsEvent) :
    (run (handle messageSize crates dids secrets) (started count bytes) events).ExactlyOnce ↔
      Along (handle messageSize crates dids secrets)
        (fun s event => ¬s.TakesSearched crates dids secrets event) (started count bytes) events := by
  constructor
  · rintro hOnce before event after rfl hTakes
    have hStart : (started count bytes).Ahead 0 := ⟨unfilled_started count bytes, Nat.zero_le _⟩
    have hBefore : (run (handle messageSize crates dids secrets) (started count bytes) before).Ahead 0 :=
      hStart.run before
    have hEvent : (handle messageSize crates dids secrets
        (run (handle messageSize crates dids secrets) (started count bytes) before) event).Ahead 1 :=
      hBefore.handle.2 hTakes
    have hLast : (run (handle messageSize crates dids secrets) _ after).Ahead 1 := hEvent.run after
    rw [← run_cons, ← run_append] at hLast
    have hLength := hOnce.length_eq
    rw [List.length_append] at hLength
    have hAhead := hLast.2
    omega
  · intro hNone
    have hAll := hNone.keeps (I := fun s : WsHandler => s.cache.Unfilled ∧ handedOver s.sent = s.received)
      ⟨unfilled_started count bytes, rfl⟩ (by
        rintro s event ⟨hCache, hSame⟩ hTakes
        obtain ⟨hNext, new, given, hReceived, hOver, -, hOnce⟩ := handle_unfilled hCache
        exact ⟨hNext, by rw [hReceived, hOver, hSame, hOnce hTakes]⟩)
    unfold ExactlyOnce
    rw [hAll.1.messages, hAll.2]
    exact List.Perm.of_eq (List.append_nil _)

/-- A get request waits for a message, which is then handed over twice. -/
theorem searched_handed_over_twice :
    ¬(run (handle 400 pickupShared.crates noDids aliceSecrets) (started 100 10485760)
      [.command (.get "1"), .frame (.text pingText)]).ExactlyOnce := by
  intro hOnce
  have hLength := hOnce.length_eq
  revert hLength
  decide +kernel

end WsHandler

end AffinidiMessaging.Sdk
