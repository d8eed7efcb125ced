import AffinidiMessaging.Library.HeadOfLine
import AffinidiMessaging.Sdk.MessagePickup

/-! # Rounds of message pickup

A round asks for the first messages of the queue, unpacks what it can of the reply and acknowledges
what it has unpacked. An entry leaves the queue in this way when its message unpacks and its metadata
point back to it; every other entry stays at the head for good.
-/

namespace AffinidiMessaging.Sdk

open Redis Text Fallible Serde Transition Didcomm Mediator HeadOfLine

/-- A request on its way: the client makes it and the mediator reads it in time. -/
structure Exchange where
  client : Clock
  mediator : Clock
  inTime : mediator.now.toNat < client.now.toNat + 300

/-- What ends a round early. -/
inductive RoundFault
  | mediator (fault : HandlerFault)
  | client (site : Panic)

abbrev Pickup := EStateM RoundFault Db

def onMediator {α : Type} (x : PickupHandler α) : Pickup α := fun db =>
  match x db with
  | .ok a db' => .ok a db'
  | .error fault db' => .error (.mediator fault) db'

def onClient {α : Type} : Except Panic α → Pickup α
  | .ok a => pure a
  | .error site => throw (.client site)

section
variable (shared : SharedData) (dids : DidResolver) (secrets : SecretsResolver)

/-- A status has no attachments to handle. -/
def handleReply : MessagePickup.DeliveryReply → Except Panic (List (Message × UnpackMetadata))
  | .delivery message => handleDelivery shared.crates dids secrets message
  | .status => .ok []

variable (session : Common.Session) (limit : UInt64)

def round (asked told : Exchange) : Pickup (List (Message × UnpackMetadata)) := do
  let request := deliveryRequestMessage asked.client session.did shared.mediatorDid limit
  let reply ← onMediator (MessagePickup.deliveryRequest shared asked.mediator session request)
  let messages ← onClient (handleReply shared dids secrets reply)
  let receipt := messagesReceivedMessage told.client session.did shared.mediatorDid
    (messages.map fun m => m.1.id)
  onMediator (MessagePickup.messagesReceived shared told.mediator session receipt)
  return messages

/-- Round after round, and everything they deliver. -/
def rounds : List (Exchange × Exchange) → Pickup (List (Message × UnpackMetadata))
  | [] => pure []
  | (asked, told) :: rest => do
    let first ← round shared dids secrets session limit asked told
    let others ← rounds rest
    return first ++ others

variable (db : Db)

/-- The digest under which the client returns a queued message, if it unpacks. -/
def deliveredId (entry : StreamEntry) : Option String :=
  (delivered shared.crates dids secrets shared.env db entry).map fun m => m.1.id

/-- The entry of a message that unpacks, to which its metadata point back. -/
def Leaves (d : String) (entry : StreamEntry) : Prop :=
  ∃ h ∈ deliveredId shared dids secrets db entry, OwnEntry db .receive d h entry

instance (d : String) (entry : StreamEntry) : Decidable (Leaves shared dids secrets db d entry) :=
  inferInstanceAs (Decidable (∃ h ∈ deliveredId shared dids secrets db entry, _))

/-- How many entries that stay for good are before an entry of a queue. -/
def stuckBefore (d : String) (entry : StreamEntry) : Nat :=
  staying (fun a b => a.id < b.id) (fun e => ¬ Leaves shared dids secrets db d e)
    (entriesAt db (.receiveQ d)) entry

end

section
variable {shared : SharedData} (dids : DidResolver) (secrets : SecretsResolver) {db db' : Db} {d : String}

theorem deliveredId_eq_some (hdb : Booked shared.env db) {entry : StreamEntry} {h : String}
    (hDelivered : deliveredId shared dids secrets db entry = some h) :
    ∃ body, queuedMessage db entry = some (h, body) := by
  obtain ⟨m, hm, rfl⟩ := Option.map_eq_some_iff.mp hDelivered
  obtain ⟨body, hQueued, -⟩ := delivered_eq_some shared.crates dids secrets hdb hm
  exact ⟨body, hQueued⟩

theorem deliveredId_congr {e e' : StreamEntry} (h : queuedMessage db' e' = queuedMessage db e) :
    deliveredId shared dids secrets db' e' = deliveredId shared dids secrets db e := by
  rw [deliveredId, delivered, h, deliveredId, delivered]

theorem mem_deliveredIds_iff {entries : List StreamEntry} {h : String} :
    h ∈ deliveredIds shared.crates dids secrets shared.env db entries ↔
      ∃ e ∈ entries, deliveredId shared dids secrets db e = some h := by
  rw [deliveredIds, List.map_filterMap, List.mem_filterMap]
  rfl

/-- Entries that name one message deliver it alike. -/
theorem deliveredId_of_names (hdb : Booked shared.env db) {e e' : StreamEntry} {h : String}
    (hDelivered : deliveredId shared dids secrets db e = some h)
    (hMsgId : e'.fields.lookup "MSG_ID" = some h) : deliveredId shared dids secrets db e' = some h := by
  obtain ⟨body, hQueued⟩ := deliveredId_eq_some dids secrets hdb hDelivered
  have hMsg := (queuedMessage_eq_some_iff.mp hQueued).2
  have hSame : queuedMessage db e' = queuedMessage db e := by
    rw [hQueued, queuedMessage_eq_some_iff]
    exact ⟨hMsgId, hMsg⟩
  rw [deliveredId_congr dids secrets hSame, hDelivered]

section
variable {hashes : List String} (hReceived : Mediator.Received d hashes db db')
include hReceived

theorem queuedMessage_of_received {e : StreamEntry} {h body : String}
    (hQueued : queuedMessage db' e = some (h, body)) : queuedMessage db e = some (h, body) := by
  rw [queuedMessage_eq_some_iff] at hQueued ⊢
  refine ⟨hQueued.1, ?_⟩
  rcases hReceived.message h with ⟨hMsg, -⟩ | ⟨-, hGone, -⟩
  · rw [← hMsg, hQueued.2]
  · rw [hGone] at hQueued
    cases hQueued.2

theorem deliveredId_of_received (hdb' : Booked shared.env db') {e : StreamEntry} {h : String}
    (hDelivered : deliveredId shared dids secrets db' e = some h) :
    deliveredId shared dids secrets db e = some h := by
  obtain ⟨body, hQueued⟩ := deliveredId_eq_some dids secrets hdb' hDelivered
  have hSame := (queuedMessage_of_received hReceived hQueued).trans hQueued.symm
  rw [deliveredId_congr dids secrets hSame, hDelivered]

theorem deliveredId_received (hdb : Booked shared.env db) {e : StreamEntry} {h : String}
    (hNot : h ∉ hashes) (hDelivered : deliveredId shared dids secrets db e = some h) :
    deliveredId shared dids secrets db' e = some h := by
  obtain ⟨body, hQueued⟩ := deliveredId_eq_some dids secrets hdb hDelivered
  have hSame : queuedMessage db' e = queuedMessage db e := by
    rw [hQueued]
    rw [queuedMessage_eq_some_iff] at hQueued ⊢
    refine ⟨hQueued.1, ?_⟩
    rcases hReceived.message h with ⟨hMsg, -⟩ | ⟨hMem, -⟩
    · rw [hMsg, hQueued.2]
    · exact absurd hMem hNot
  rw [deliveredId_congr dids secrets hSame, hDelivered]

theorem panics_of_received {e : StreamEntry} (hPanics : Panics shared.crates dids secrets db' e) :
    Panics shared.crates dids secrets db e := by
  obtain ⟨h, body, site, hQueued, hUnpack⟩ := hPanics
  exact ⟨h, body, site, queuedMessage_of_received hReceived hQueued, hUnpack⟩

theorem ownEntry_of_received {e : StreamEntry} {h : String} (hOwn : OwnEntry db' .receive d h e) :
    OwnEntry db .receive d h e := by
  rcases hReceived.message h with ⟨-, hMeta⟩ | ⟨-, -, hGone⟩
  · exact (OwnEntry.congr hMeta).mp hOwn
  · have hNone : field db' (.msgMeta h) "TO" = none := by simp [field, hGone]
    exact absurd (hNone.symm.trans hOwn.2.1) (by simp)

end

/-- What stays is what a round keeps and what stays after it. -/
theorem stays_iff (hdb : Booked shared.env db) (hdb' : Booked shared.env db') {entries : List StreamEntry}
    (hReceived : Mediator.Received d (deliveredIds shared.crates dids secrets shared.env db entries) db db')
    (x : StreamEntry) :
    ¬ Leaves shared dids secrets db d x ↔
      (∀ h ∈ deliveredIds shared.crates dids secrets shared.env db entries,
        ¬ OwnEntry db .receive d h x) ∧ ¬ Leaves shared dids secrets db' d x := by
  constructor
  · intro hStays
    refine ⟨fun h hMem hOwn => ?_, ?_⟩
    · obtain ⟨e, -, hDelivered⟩ := (mem_deliveredIds_iff dids secrets).mp hMem
      exact hStays ⟨h, deliveredId_of_names dids secrets hdb hDelivered hOwn.1, hOwn⟩
    · rintro ⟨h, hDelivered, hOwn⟩
      exact hStays ⟨h, deliveredId_of_received dids secrets hReceived hdb' hDelivered,
        ownEntry_of_received hReceived hOwn⟩
  · rintro ⟨hKept, hStays⟩ ⟨h, hDelivered, hOwn⟩
    have hNot : h ∉ deliveredIds shared.crates dids secrets shared.env db entries :=
      fun hMem => hKept h hMem hOwn
    rcases hReceived.message h with ⟨-, hMeta⟩ | ⟨hMem, -⟩
    · exact hStays ⟨h, deliveredId_received dids secrets hReceived hdb hNot hDelivered,
        (OwnEntry.congr hMeta).mpr hOwn⟩
    · exact hNot hMem

end

section
variable {shared : SharedData} (dids : DidResolver) (secrets : SecretsResolver) {session : Common.Session}
  {db : Db} {limit : UInt64}

theorem onMediator_ok {α : Type} {x : PickupHandler α} {a : α} {db' : Db} (h : x db = .ok a db') :
    onMediator x db = .ok a db' := by
  rw [onMediator, h]

theorem onClient_ok {α : Type} {x : Except Panic α} {a : α} (h : x = .ok a) :
    onClient x db = .ok a db := by
  rw [h]
  rfl

theorem handleReply_ok (hBase64 : Base64Inverts shared.crates) (hdb : WellKept shared.env db)
    {d : String} {n : Nat}
    (hQuiet : ∀ e ∈ (entriesAt db (.receiveQ d)).take n, ¬ Panics shared.crates dids secrets db e)
    (clock : Clock) (recipientDid thid : String) :
    handleReply shared dids secrets (if (MessagePickup.firstListed db d n).isEmpty then .status
      else .delivery (MessagePickup.deliveryMessage shared clock session recipientDid thid
        (MessagePickup.firstListed db d n))) =
      .ok (((entriesAt db (.receiveQ d)).take n).filterMap
        (delivered shared.crates dids secrets shared.env db)) := by
  split
  · rename_i hEmpty
    have hNone : (entriesAt db (.receiveQ d)).take n = [] :=
      List.map_eq_nil_iff.mp (List.isEmpty_iff.mp hEmpty)
    rw [hNone]
    rfl
  · exact (handleDelivery_ok_iff dids secrets hBase64 hdb _ _ _ _ _).mpr ⟨hQuiet, rfl⟩

theorem request_ok (hBase64 : Base64Inverts shared.crates) (hdb : WellKept shared.env db)
    (hHash : session.didHash = shared.env.digest session.did)
    (hLimit : 1 ≤ limit.toNat ∧ limit.toNat ≤ 100)
    (hQuiet : ∀ e ∈ (entriesAt db (.receiveQ session.didHash)).take limit.toNat,
      ¬ Panics shared.crates dids secrets db e) (asked : Exchange) :
    ∃ reply, MessagePickup.deliveryRequest shared asked.mediator session
        (deliveryRequestMessage asked.client session.did shared.mediatorDid limit) db = .ok reply db ∧
      handleReply shared dids secrets reply =
        .ok (((entriesAt db (.receiveQ session.didHash)).take limit.toNat).filterMap
          (delivered shared.crates dids secrets shared.env db)) := by
  have hValid : MessagePickup.validateMsg shared asked.mediator session
      (deliveryRequestMessage asked.client session.did shared.mediatorDid limit) = .ok () :=
    validateMsg_requestMessage asked.inTime _ _ _
  have hAsked := MessagePickup.deliveryRequest_ok hdb.sound hValid
    (parse_deliveryRequestMessage hLimit shared.mediatorDid)
  rw [← hHash] at hAsked
  exact ⟨_, hAsked, handleReply_ok dids secrets hBase64 hdb hQuiet _ _ _⟩

theorem receipt_ok (hdb : WellKept shared.env db) (told : Exchange) (ids : List String) :
    ∃ db', MessagePickup.messagesReceived shared told.mediator session
        (messagesReceivedMessage told.client session.did shared.mediatorDid ids) db = .ok () db' ∧
      WellKept shared.env db' ∧ Mediator.Received session.didHash ids db db' := by
  obtain ⟨db', hAll, hKept, hReceived⟩ :
      ∃ db', MessagePickup.receiveAll shared session ids db = .ok () db' ∧ WellKept shared.env db' ∧
        Mediator.Received session.didHash ids db db' := MessagePickup.receiveAll_run hdb ids
  refine ⟨db', ?_, hKept, hReceived⟩
  have hValid : MessagePickup.validateMsg shared told.mediator session
      (messagesReceivedMessage told.client session.did shared.mediatorDid ids) = .ok () :=
    validateMsg_requestMessage told.inTime _ _ _
  have hDatabase : onDatabase (MessagePickup.receiveAll shared session ids) db = .ok () db' := by
    rw [onDatabase, hAll]
  rw [MessagePickup.messagesReceived, hValid, parse_messagesReceivedMessage]
  exact (bind_of_ok rfl).trans ((bind_of_ok rfl).trans hDatabase)

/-- A round delivers what unpacks of the first entries and acknowledges it. -/
theorem round_ok (hBase64 : Base64Inverts shared.crates) (hdb : WellKept shared.env db)
    (hHash : session.didHash = shared.env.digest session.did)
    (hLimit : 1 ≤ limit.toNat ∧ limit.toNat ≤ 100)
    (hQuiet : ∀ e ∈ (entriesAt db (.receiveQ session.didHash)).take limit.toNat,
      ¬ Panics shared.crates dids secrets db e) (asked told : Exchange) :
    ∃ messages db', round shared dids secrets session limit asked told db = .ok messages db' ∧
      messages.map (fun m => m.1.id) = deliveredIds shared.crates dids secrets shared.env db
        ((entriesAt db (.receiveQ session.didHash)).take limit.toNat) ∧
      WellKept shared.env db' ∧ Mediator.Received session.didHash (messages.map fun m => m.1.id) db db' := by
  obtain ⟨reply, hAsked, hHandled⟩ := request_ok dids secrets hBase64 hdb hHash hLimit hQuiet asked
  let ids := deliveredIds shared.crates dids secrets shared.env db
    ((entriesAt db (.receiveQ session.didHash)).take limit.toNat)
  obtain ⟨db', hTold, hKept, hReceived⟩ :
      ∃ db', MessagePickup.messagesReceived shared told.mediator session
          (messagesReceivedMessage told.client session.did shared.mediatorDid ids) db = .ok () db' ∧
        WellKept shared.env db' ∧ Mediator.Received session.didHash ids db db' := receipt_ok hdb told ids
  refine ⟨_, db', ?_, rfl, hKept, hReceived⟩
  rw [round, bind_of_ok (onMediator_ok hAsked), bind_of_ok (onClient_ok hHandled)]
  exact (bind_of_ok (onMediator_ok hTold)).trans rfl

/-- A round shortens the queue when it acknowledges a message that is the session's DID's. -/
theorem shortens_iff {d : String} {db' : Db} (hdb : WellKept shared.env db) {entries : List StreamEntry}
    (hReceived : Mediator.Received d (deliveredIds shared.crates dids secrets shared.env db entries) db db') :
    (entriesAt db' (.receiveQ d)).length < (entriesAt db (.receiveQ d)).length ↔
      ∃ e ∈ entries, ∃ h, deliveredId shared dids secrets db e = some h ∧
        field db (.msgMeta h) "TO" = some d := by
  rw [hReceived.queue, List.length_filter_lt_length_iff_exists]
  constructor
  · rintro ⟨x, -, hGone⟩
    rw [decide_eq_true_eq] at hGone
    push Not at hGone
    obtain ⟨h, hMem, hOwn⟩ := hGone
    obtain ⟨e, he, hDelivered⟩ := (mem_deliveredIds_iff dids secrets).mp hMem
    exact ⟨e, he, h, hDelivered, hOwn.2.1⟩
  · rintro ⟨e, he, h, hDelivered, hTo⟩
    obtain ⟨x, hx, hOwn⟩ := hdb.booked.entry .receive d h hTo
    refine ⟨x, hx, fun hKept => ?_⟩
    exact of_decide_eq_true hKept h ((mem_deliveredIds_iff dids secrets).mpr ⟨e, he, hDelivered⟩) hOwn

theorem stuckBefore_received {d : String} {db' : Db} (hdb : WellKept shared.env db)
    (hdb' : WellKept shared.env db') {entries : List StreamEntry}
    (hReceived : Mediator.Received d (deliveredIds shared.crates dids secrets shared.env db entries) db db')
    (e : StreamEntry) :
    stuckBefore shared dids secrets db' d e = stuckBefore shared dids secrets db d e := by
  rw [stuckBefore, hReceived.queue]
  refine staying_filter (fun x hx => ?_) e
  rw [decide_eq_true_eq]
  exact stays_iff dids secrets hdb.booked hdb'.booked hReceived x

/-- Rounds deliver only what is not stuck, and once there were as many rounds as entries, all of it. -/
theorem rounds_ok (hBase64 : Base64Inverts shared.crates) (hdb : WellKept shared.env db)
    (hHash : session.didHash = shared.env.digest session.did)
    (hLimit : 1 ≤ limit.toNat ∧ limit.toNat ≤ 100)
    (hQuiet : ∀ e ∈ entriesAt db (.receiveQ session.didHash), ¬ Panics shared.crates dids secrets db e)
    (exchanges : List (Exchange × Exchange)) :
    ∃ messages db', rounds shared dids secrets session limit exchanges db = .ok messages db' ∧
      (∀ m ∈ messages, ∃ e ∈ entriesAt db (.receiveQ session.didHash),
        deliveredId shared dids secrets db e = some m.1.id ∧
          stuckBefore shared dids secrets db session.didHash e < limit.toNat) ∧
      ((entriesAt db (.receiveQ session.didHash)).length ≤ exchanges.length →
        ∀ e ∈ entriesAt db (.receiveQ session.didHash), ∀ h,
          deliveredId shared dids secrets db e = some h →
          stuckBefore shared dids secrets db session.didHash e < limit.toNat →
          h ∈ messages.map fun m => m.1.id) := by
  induction exchanges generalizing db with
  | nil =>
    refine ⟨[], db, rfl, by simp, fun hShort e he => ?_⟩
    rw [List.length_eq_zero_iff.mp (Nat.le_zero.mp hShort)] at he
    cases he
  | cons exchange rest ih =>
    obtain ⟨asked, told⟩ := exchange
    let first := (entriesAt db (.receiveQ session.didHash)).take limit.toNat
    have hSorted := (hdb.sound.shaped.entries .receive session.didHash).sorted
    obtain ⟨messages, db₁, hRound, hIds, hdb₁, hReceived⟩ := round_ok dids secrets hBase64 hdb hHash hLimit
      (fun e he => hQuiet e (List.mem_of_mem_take he)) asked told
    rw [hIds] at hReceived
    have hKept : ∀ e, e ∈ entriesAt db₁ (.receiveQ session.didHash) ↔
        e ∈ entriesAt db (.receiveQ session.didHash) ∧
          ∀ h ∈ deliveredIds shared.crates dids secrets shared.env db first,
            ¬ OwnEntry db .receive session.didHash h e := by
      intro e
      rw [hReceived.queue, List.mem_filter, decide_eq_true_eq]
    have hStuck := stuckBefore_received dids secrets hdb hdb₁ hReceived
    obtain ⟨others, db', hRest, hSound, hComplete⟩ := ih hdb₁
      (fun e he hPanics => hQuiet e ((hKept e).mp he).1 (panics_of_received dids secrets hReceived hPanics))
    refine ⟨messages ++ others, db', ?_, ?_, ?_⟩
    · rw [rounds, bind_of_ok hRound]
      exact (bind_of_ok hRest).trans rfl
    · intro m hm
      rcases List.mem_append.mp hm with hFirst | hLater
      · have hMem : m.1.id ∈ deliveredIds shared.crates dids secrets shared.env db first :=
          hIds ▸ List.mem_map_of_mem hFirst
        obtain ⟨e, he, hDelivered⟩ := (mem_deliveredIds_iff dids secrets).mp hMem
        exact ⟨e, List.mem_of_mem_take he, hDelivered,
          staying_lt_of_mem_take (fun _ _ => StreamId.lt_asymm) hSorted he⟩
      · obtain ⟨e, he, hDelivered, hFew⟩ := hSound m hLater
        exact ⟨e, ((hKept e).mp he).1, deliveredId_of_received dids secrets hReceived hdb₁.booked hDelivered,
          hStuck e ▸ hFew⟩
    · intro hEnough e he h hDelivered hFew
      rw [List.map_append, List.mem_append, hIds]
      by_cases hFirst : h ∈ deliveredIds shared.crates dids secrets shared.env db first
      · exact .inl hFirst
      right
      have hLater : e ∉ first := fun hMem =>
        hFirst ((mem_deliveredIds_iff dids secrets).mpr ⟨e, hMem, hDelivered⟩)
      obtain ⟨x, hx, hLeaves⟩ := exists_leaving hSorted he hLater hFew
      obtain ⟨h', hx', hOwn⟩ := not_not.mp hLeaves
      have hShorter := (shortens_iff dids secrets hdb hReceived).mpr ⟨x, hx, h', hx', hOwn.2.1⟩
      have hStill : e ∈ entriesAt db₁ (.receiveQ session.didHash) := by
        refine (hKept e).mpr ⟨he, fun h'' hMem hOwn' => ?_⟩
        -- an entry names one message only
        obtain ⟨body, hQueued⟩ := deliveredId_eq_some dids secrets hdb.booked hDelivered
        have hMsgId := (queuedMessage_eq_some_iff.mp hQueued).1
        obtain rfl : h = h'' := Option.some.inj (hMsgId.symm.trans hOwn'.1)
        exact hFirst hMem
      refine hComplete (by simp only [List.length_cons] at hEnough; omega) e hStill h ?_ (hStuck e ▸ hFew)
      exact deliveredId_received dids secrets hReceived hdb.booked hFirst hDelivered

/-- A round shortens the queue exactly when one of the entries it asks for names a message that
unpacks and is the session's DID's. Repeated, rounds deliver the messages of the queue that unpack
and have fewer stuck entries before them than a round asks for. -/
theorem pickup_progresses (hBase64 : Base64Inverts shared.crates) (sessionId did : String)
    (hReachable : (databaseCalls shared.env).Reachable db)
    (hLimit : 1 ≤ limit.toNat ∧ limit.toNat ≤ 100) :
    let session := Common.Session.authenticated shared.env sessionId did
    let queue := entriesAt db (.receiveQ session.didHash)
    ((∀ e ∈ queue.take limit.toNat, ¬ Panics shared.crates dids secrets db e) → ∀ asked told,
      ∃ messages db', round shared dids secrets session limit asked told db = .ok messages db' ∧
        ((entriesAt db' (.receiveQ session.didHash)).length < queue.length ↔
          ∃ e ∈ queue.take limit.toNat, ∃ h, deliveredId shared dids secrets db e = some h ∧
            field db (.msgMeta h) "TO" = some session.didHash)) ∧
    ((∀ e ∈ queue, ¬ Panics shared.crates dids secrets db e) → ∀ exchanges,
      queue.length ≤ exchanges.length →
      ∃ messages db', rounds shared dids secrets session limit exchanges db = .ok messages db' ∧
        ∀ h, (∃ m ∈ messages, m.1.id = h) ↔ ∃ e ∈ queue, deliveredId shared dids secrets db e = some h ∧
          stuckBefore shared dids secrets db session.didHash e < limit.toNat) := by
  intro session queue
  have hdb := wellKept_of_reachable hReachable
  constructor
  · intro hQuiet asked told
    obtain ⟨messages, db', hRound, hIds, -, hReceived⟩ := round_ok dids secrets hBase64 hdb
      (Common.Session.didHash_authenticated _ _ _) hLimit hQuiet asked told
    rw [hIds] at hReceived
    exact ⟨messages, db', hRound, shortens_iff dids secrets hdb hReceived⟩
  · intro hQuiet exchanges hEnough
    obtain ⟨messages, db', hRounds, hSound, hComplete⟩ := rounds_ok dids secrets hBase64 hdb
      (Common.Session.didHash_authenticated _ _ _) hLimit hQuiet exchanges
    refine ⟨messages, db', hRounds, fun h => ⟨?_, ?_⟩⟩
    · rintro ⟨m, hm, rfl⟩
      exact hSound m hm
    · rintro ⟨e, he, hDelivered, hFew⟩
      exact List.mem_map.mp (hComplete hEnough e he h hDelivered hFew)

end

/-- Whatever queue with a message that unpacks gets shorter in a round. -/
def Progresses (shared : SharedData) (dids : DidResolver) (secrets : SecretsResolver)
    (session : Common.Session) (limit : UInt64) (db : Db) : Prop :=
  (∃ e ∈ entriesAt db (.receiveQ session.didHash), (deliveredId shared dids secrets db e).isSome) →
    ∀ asked told, ∃ messages db', round shared dids secrets session limit asked told db = .ok messages db' ∧
      (entriesAt db' (.receiveQ session.didHash)).length <
        (entriesAt db (.receiveQ session.didHash)).length

def atOnce : Exchange := ⟨⟨0, "", by decide⟩, ⟨0, "", by decide⟩, by decide⟩

/-- Rounds of two entries bring both messages from behind the text that is none. -/
theorem pickup_progresses_mixedInbox : ∃ messages db', rounds pickupShared noDids aliceSecrets
    (.authenticated pickupShared.env "s" "did:example:alice") 2 [(atOnce, atOnce), (atOnce, atOnce), (atOnce, atOnce)]
      mixedInbox = .ok messages db' ∧
    (∃ m ∈ messages, m.1.id = pingHash) ∧ ∃ m ∈ messages, m.1.id = laterHash := by
  have hLimit : 1 ≤ (2 : UInt64).toNat ∧ (2 : UInt64).toNat ≤ 100 := by decide
  obtain ⟨-, hRounds⟩ := pickup_progresses noDids aliceSecrets base64Inverts_pickup "s"
    "did:example:alice" reachable_mixedInbox hLimit
  have hPing : deliveredId pickupShared noDids aliceSecrets mixedInbox (secondEntry pingHash 69) = some pingHash := by
    decide +kernel
  have hLater : deliveredId pickupShared noDids aliceSecrets mixedInbox (thirdEntry laterHash 69) =
      some laterHash := by
    decide +kernel
  have hFewPing : stuckBefore pickupShared noDids aliceSecrets mixedInbox
      (pickupShared.env.digest "did:example:alice") (secondEntry pingHash 69) < 2 := by
    decide +kernel
  have hFewLater : stuckBefore pickupShared noDids aliceSecrets mixedInbox
      (pickupShared.env.digest "did:example:alice") (thirdEntry laterHash 69) < 2 := by
    decide +kernel
  have hHash : (Common.Session.authenticated pickupShared.env "s" "did:example:alice").didHash =
      pickupShared.env.digest "did:example:alice" := Common.Session.didHash_authenticated _ _ _
  rw [hHash] at hRounds
  obtain ⟨messages, db', hRun, hDelivered⟩ := hRounds not_panics_mixedInbox
    [(atOnce, atOnce), (atOnce, atOnce), (atOnce, atOnce)] (by rw [queue_mixedInbox]; exact Nat.le_refl 3)
  rw [queue_mixedInbox] at hDelivered
  exact ⟨messages, db', hRun, (hDelivered pingHash).mpr ⟨_, by simp, hPing, hFewPing⟩,
    (hDelivered laterHash).mpr ⟨_, by simp, hLater, hFewLater⟩⟩

/-- A text that is no message, and one that is after it. -/
def behindHello : Db := (DatabaseCall.storeMessage ⟨1700000000, 200000, secondUsec_lt⟩ "s"
  ⟨pingText, by decide⟩ "did:example:alice" none).run pickupShared.env (storedForAlice "hello")

/-- A text that does not unpack holds back everything after it. -/
theorem not_progresses :
    (databaseCalls pickupShared.env).Reachable behindHello ∧
      ¬ Progresses pickupShared noDids aliceSecrets
        (.authenticated pickupShared.env "s" "did:example:alice") 1 behindHello := by
  have hReachable : (databaseCalls pickupShared.env).Reachable behindHello :=
    .step (reachable_storedForAlice (by decide : "hello" ≠ "")) rfl
  refine ⟨hReachable, fun hProgresses => ?_⟩
  let second : StreamEntry := secondEntry pingHash 69
  have hQueue : entriesAt behindHello (.receiveQ (pickupShared.env.digest "did:example:alice")) =
      [firstEntry helloHash 5, second] := by
    decide +kernel
  have hSecond : (deliveredId pickupShared noDids aliceSecrets behindHello second).isSome = true := by
    decide +kernel
  have hFirst : deliveredId pickupShared noDids aliceSecrets behindHello (firstEntry helloHash 5) = none := by
    decide +kernel
  have hQueued : queuedMessage behindHello (firstEntry helloHash 5) = some (helloHash, "hello") := by
    decide +kernel
  have hUnpack : panics (unpack pickupShared.crates noDids aliceSecrets "hello") = false := by
    decide +kernel
  let session := Common.Session.authenticated pickupShared.env "s" "did:example:alice"
  have hHash : session.didHash = pickupShared.env.digest "did:example:alice" :=
    Common.Session.didHash_authenticated _ _ _
  have hQuiet : ∀ e ∈ (entriesAt behindHello (.receiveQ session.didHash)).take (1 : UInt64).toNat,
      ¬ Panics pickupShared.crates noDids aliceSecrets behindHello e := by
    rw [hHash, hQueue]
    intro e he
    obtain rfl := List.mem_singleton.mp he
    exact not_panics_of_panics hQueued hUnpack
  have hLimit : 1 ≤ (1 : UInt64).toNat ∧ (1 : UInt64).toNat ≤ 100 := by decide
  obtain ⟨messages, db', hRound, hIds, -, hReceived⟩ := round_ok noDids aliceSecrets base64Inverts_pickup
    (wellKept_of_reachable hReachable) hHash hLimit hQuiet atOnce atOnce
  rw [hHash] at hIds
  have hNone : messages.map (fun m => m.1.id) = [] := by
    rw [hIds, List.eq_nil_iff_forall_not_mem]
    intro h hMem
    obtain ⟨e, he, hDelivered⟩ := (mem_deliveredIds_iff noDids aliceSecrets).mp hMem
    have hFirstOnly : e ∈ [firstEntry helloHash 5, second].take 1 := hQueue ▸ he
    obtain rfl := List.mem_singleton.mp hFirstOnly
    rw [hFirst] at hDelivered
    cases hDelivered
  have hMem : second ∈ entriesAt behindHello (.receiveQ session.didHash) := by
    rw [hHash, hQueue]
    exact List.mem_cons_of_mem _ (List.mem_singleton_self _)
  obtain ⟨messages', db'', hRound', hShorter⟩ := hProgresses
    ⟨second, hMem, hSecond⟩ atOnce atOnce
  rw [hRound] at hRound'
  cases hRound'
  rw [hNone] at hReceived
  have hSame : entriesAt db' (.receiveQ session.didHash) = entriesAt behindHello (.receiveQ session.didHash) := by
    rw [hReceived.queue]
    simp
  rw [hSame] at hShorter
  exact Nat.lt_irrefl _ hShorter

end AffinidiMessaging.Sdk
