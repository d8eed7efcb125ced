import AffinidiMessaging.Didcomm.IdealCrates
import AffinidiMessaging.Mediator.Inbound

/-! # Exchanges of pings

The response to a ping has the type of a ping and an empty body, so it asks for a response itself. Only
the time it takes to arrive can end the exchange.
-/

namespace AffinidiMessaging.Mediator

open Redis Fallible Serde Didcomm

/-- Who processes a message, and when. -/
structure Endpoint where
  clock : Clock
  session : Common.Session
  crates : Crates
  debug : Message → String
  pickup : Pickup
  db : Db

namespace Endpoint

/-- The message that the endpoint answers with. -/
def reply (e : Endpoint) (msg : Message) : Option Message :=
  match processMessage e.clock e.session msg e.crates e.debug e.pickup e.db with
  | .ok (some { messageResponse := .message r, .. }) _ => some r
  | _ => none

/-- How many replies there are when each reply goes to the next endpoint. -/
def replies : List Endpoint → Message → Nat
  | [], _ => 0
  | e :: rest, msg =>
    match e.reply msg with
    | some r => replies rest r + 1
    | none => 0

end Endpoint

/-- The ping is in time, has a receiver, and asks for a response that has somewhere to go. -/
structure Ping.Answerable (now : UInt64) (msg : Message) : Prop where
  fresh : ∀ expires, msg.expiresTime = some expires → now < expires
  to_ : ∃ first rest, msg.to_ = some (first :: rest)
  requested : Ping.responseRequested msg.body = true
  from_ : msg.from_.isSome

def pingType : String := "https://didcomm.org/trust-ping/2.0/ping"

section
variable {clock : Clock} {session : Common.Session} {msg : Message}

theorem validateExpiry_ok_iff : MessagePickup.validateExpiry clock session msg = .ok () ↔
    ∀ expires, msg.expiresTime = some expires → clock.now < expires := by
  unfold MessagePickup.validateExpiry
  cases msg.expiresTime with
  | none => simp [pure, Except.pure]
  | some expires => simp [ensure_ok_iff]

theorem Ping.process_reply_iff {r : ProcessMessageResponse} :
    Ping.process clock session msg = .ok (some r) ↔ Answerable clock.now msg ∧
      ∃ first rest sender, msg.to_ = some (first :: rest) ∧ msg.from_ = some sender ∧
        r = ⟨true, false, .message (responseMsg clock msg first sender)⟩ := by
  simp only [Ping.process, except_bind_ok_iff]
  constructor
  · rintro ⟨u, hFresh, first, hFirst, h⟩
    split at h
    · rename_i hRequested
      obtain ⟨sender, hSender, h⟩ := (except_bind_ok_iff _ _ _).mp h
      obtain ⟨rest, hTo⟩ : ∃ rest, msg.to_ = some (first :: rest) := by
        unfold MessagePickup.firstAddress at hFirst
        split at hFirst
        · cases hFirst
          exact ⟨_, ‹_›⟩
        all_goals cases hFirst
      have hFrom := (okOr_ok_iff _ _ _).mp hSender
      cases h
      exact ⟨⟨validateExpiry_ok_iff.mp hFresh, ⟨first, rest, hTo⟩, hRequested, by rw [hFrom]; rfl⟩,
        first, rest, sender, hTo, hFrom, rfl⟩
    · cases h
  · rintro ⟨hAnswerable, first, rest, sender, hTo, hFrom, rfl⟩
    refine ⟨(), validateExpiry_ok_iff.mpr hAnswerable.fresh, first, ?_, ?_⟩
    · rw [MessagePickup.firstAddress, hTo]
    · rw [if_pos hAnswerable.requested, hFrom]
      rfl

theorem Ping.answerable_responseMsg {to_ sender : String} (now : UInt64) :
    Answerable now (responseMsg clock msg to_ sender) ↔ now < clock.now + 300 := by
  constructor
  · intro h
    exact h.fresh _ rfl
  · intro h
    refine ⟨?_, ⟨sender, [], rfl⟩, rfl, rfl⟩
    intro expires hExpires
    cases hExpires
    exact h

end

namespace Endpoint

variable {e : Endpoint} {msg : Message}

theorem reply_ping_iff (hPing : msg.type_ = pingType) {r : Message} :
    e.reply msg = some r ↔ Ping.Answerable e.clock.now msg ∧
      ∃ first rest sender, msg.to_ = some (first :: rest) ∧ msg.from_ = some sender ∧
        r = Ping.responseMsg e.clock msg first sender := by
  have hType : MessageType.fromStr msg.type_ = .ok .trustPing := by rw [hPing]; rfl
  constructor
  · intro h
    unfold reply at h
    split at h
    · rename_i r' store live message db' hRun
      cases h
      obtain ⟨-, hProcess⟩ := (processMessage_ok_iff _ _ _ _ _ _ hType).mp hRun
      obtain ⟨hAnswerable, first, rest, sender, hTo, hFrom, hReply⟩ :=
        Ping.process_reply_iff.mp ((orFail_ok_iff _ _ _ _).mp hProcess).1
      cases hReply
      exact ⟨hAnswerable, first, rest, sender, hTo, hFrom, rfl⟩
    · cases h
  · rintro ⟨hAnswerable, first, rest, sender, hTo, hFrom, rfl⟩
    have hProcess : Ping.process e.clock e.session msg =
        .ok (some ⟨true, false, .message (Ping.responseMsg e.clock msg first sender)⟩) :=
      Ping.process_reply_iff.mpr ⟨hAnswerable, first, rest, sender, hTo, hFrom, rfl⟩
    have hRun : processMessage e.clock e.session msg e.crates e.debug e.pickup e.db =
        .ok (some ⟨true, false, .message (Ping.responseMsg e.clock msg first sender)⟩) e.db :=
      (processMessage_ok_iff e.clock e.session msg e.crates e.debug e.pickup hType).mpr
        ⟨validateExpiry_ok_iff.mpr hAnswerable.fresh, (orFail_ok_iff _ _ _ _).mpr ⟨hProcess, rfl⟩⟩
    rw [reply, hRun]

theorem reply_ping_isSome (hPing : msg.type_ = pingType) :
    (e.reply msg).isSome ↔ Ping.Answerable e.clock.now msg := by
  rw [Option.isSome_iff_exists]
  constructor
  · rintro ⟨r, h⟩
    exact ((reply_ping_iff hPing).mp h).1
  · intro h
    obtain ⟨first, rest, hTo⟩ := h.to_
    obtain ⟨sender, hFrom⟩ := Option.isSome_iff_exists.mp h.from_
    exact ⟨_, (reply_ping_iff hPing).mpr ⟨h, first, rest, sender, hTo, hFrom, rfl⟩⟩

/-- A reply to a ping is a ping that is answered for 300 seconds. -/
theorem reply_reply_isSome (hPing : msg.type_ = pingType) {r : Message} (h : e.reply msg = some r)
    (next : Endpoint) :
    r.type_ = pingType ∧ ((next.reply r).isSome ↔ next.clock.now < e.clock.now + 300) := by
  obtain ⟨-, first, rest, sender, -, -, rfl⟩ := (reply_ping_iff hPing).mp h
  exact ⟨rfl, (reply_ping_isSome rfl).trans (Ping.answerable_responseMsg _)⟩

/-- As long as every reply arrives in time, everybody replies. -/
theorem replies_in_time (endpoints : List Endpoint) (hPing : msg.type_ = pingType)
    (hFirst : ∀ first, endpoints.head? = some first → Ping.Answerable first.clock.now msg)
    (hInTime : endpoints.IsChain fun e next => next.clock.now < e.clock.now + 300) :
    replies endpoints msg = endpoints.length := by
  induction endpoints generalizing msg with
  | nil => rfl
  | cons e rest ih =>
    obtain ⟨r, hReply⟩ := Option.isSome_iff_exists.mp ((reply_ping_isSome hPing).mpr (hFirst e rfl))
    have hNext (next : Endpoint) := reply_reply_isSome hPing hReply next
    rw [replies, hReply, List.length_cons]
    refine congrArg (· + 1) (ih (hNext e).1 (fun next hHead => ?_) hInTime.tail)
    cases rest with
    | nil => cases hHead
    | cons second others =>
      cases hHead
      rw [← reply_ping_isSome (hNext e).1, (hNext _).2]
      exact (List.isChain_cons_cons.mp hInTime).1

end Endpoint

/-- An exchange of pings ends after at most one reply exactly when the first ping is not answered, or
the reply arrives too late. -/
theorem exchange_ends_iff (first second : Endpoint) (rest : List Endpoint) (m : Message)
    (hPing : m.type_ = pingType) :
    Endpoint.replies (first :: second :: rest) m ≤ 1 ↔
      ¬ Ping.Answerable first.clock.now m ∨ first.clock.now + 300 ≤ second.clock.now := by
  rw [← Endpoint.reply_ping_isSome hPing, ← UInt64.not_lt]
  cases hFirst : first.reply m with
  | none => simp [Endpoint.replies, hFirst]
  | some r =>
    rw [← (Endpoint.reply_reply_isSome hPing hFirst second).2]
    cases hSecond : second.reply r <;> simp [Endpoint.replies, hFirst, hSecond]

/-- A mediator that answers pings at a time. -/
def pingEndpoint (did : String) (now : UInt64) (far : now.toNat + 300 < 2 ^ 64) : Endpoint where
  clock := { now, newId := "2", far }
  session := { sessionId := "s", did, didHash := did }
  crates := ideal id
  debug := Message.id
  pickup := fun _ _ => pure none
  db := fun _ => none

def pingTo (sender receiver : String) : Message :=
  { Message.build "1" pingType (.obj []) with to_ := some [receiver], from_ := some sender }

theorem exchange_ends_when_late : Endpoint.replies
    [pingEndpoint "did:example:alice" 1000 (by decide), pingEndpoint "did:example:bob" 1300 (by decide)]
    (pingTo "did:example:bob" "did:example:alice") ≤ 1 :=
  (exchange_ends_iff _ _ [] (pingTo "did:example:bob" "did:example:alice") rfl).mpr (.inr (by decide))

/-- Two mediators answer each other's pings: one ping brings a reply to the reply. -/
theorem exchange_goes_on : (pingTo "did:example:bob" "did:example:alice").type_ = pingType ∧
    ¬ Endpoint.replies
      [pingEndpoint "did:example:alice" 1000 (by decide), pingEndpoint "did:example:bob" 1001 (by decide)]
      (pingTo "did:example:bob" "did:example:alice") ≤ 1 := by
  refine ⟨rfl, ?_⟩
  rw [Endpoint.replies_in_time _ rfl]
  · decide
  · intro first hFirst
    cases hFirst
    refine ⟨?_, ⟨_, [], rfl⟩, rfl, rfl⟩
    intro expires hExpires
    cases hExpires
  · exact .cons_cons (by decide) (.singleton _)

end AffinidiMessaging.Mediator
