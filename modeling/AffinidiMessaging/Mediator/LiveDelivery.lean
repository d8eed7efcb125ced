import AffinidiMessaging.Mediator.ForwardedInbox

/-! # Live delivery and the inbox

`handle_inbound` publishes its packed messages and stores them afterwards. In between come the streaming
tasks, the sockets, other calls and the requests of the recipients.
-/

namespace AffinidiMessaging.Mediator

open Redis Text Fallible Serde Didcomm Transition

/-- The inbox has an entry for the message. -/
def InInbox (db : Db) (didHash h : String) : Prop :=
  ∃ e ∈ entriesAt db (.receiveQ didHash), e.fields.lookup "MSG_ID" = some h

/-- A call of `handle_inbound` that has its packed messages: those it has yet to publish, and those it has yet
to store. -/
structure InboundCall where
  session : Common.Session
  storeMessage : Bool
  forceLiveDelivery : Bool
  toPublish : List (String × PackedMessage)
  toStore : List (String × PackedMessage)

/-- A record on a channel, and the number of the call that published it. -/
structure Published where
  record : PubSubRecord
  caller : Nat

structure DeliveryState (Tx : Type) where
  db : Db
  calls : List InboundCall
  /-- The Redis channel of each mediator. -/
  channel : String → List Published
  clients : String → Clients Tx
  /-- What was sent to a socket that it has not received yet. -/
  sockets : Tx → List Published
  /-- Who has had which message in the inbox. -/
  stored : Set (String × String)

inductive DeliveryEvent (Tx : Type)
  | prepared (call : InboundCall)
  | publish (caller : Nat)
  | store (caller : Nat) (time : ServerTime)
  | started (uuid : String) (random : List String → Nat)
  | reconnected (uuid : String)
  | update (uuid : String) (value : StreamingUpdate Tx)
  | streamed (uuid : String)
  | received (tx : Tx)
  | request (call : DatabaseCall)

namespace InboundCall

/-- The first part of the handler has come to an end; what it did to the database are requests. -/
def Prepared (config : Config) (call : InboundCall) : Prop :=
  ∃ around message s out s', prepareOutgoing config call.session around message s = .ok out s' ∧
    call.storeMessage = out.storeMessage ∧ call.forceLiveDelivery = out.forceLiveDelivery ∧
    call.toPublish.map (fun p => (p.1, p.2.text)) = out.packed ∧
    call.toStore = if out.storeMessage then call.toPublish else []

/-- The message of the record is yet to be stored. -/
def Pending (env : Environment) (call : InboundCall) (record : PubSubRecord) : Prop :=
  ∃ p ∈ call.toStore, env.digest p.1 = record.didHash ∧ p.2.text = record.message

def storeCall (config : Config) (time : ServerTime) (call : InboundCall) (p : String × PackedMessage) :
    DatabaseCall :=
  .storeMessage time call.session.sessionId p.2 p.1 (some config.mediatorDid)

end InboundCall

variable {Tx : Type} [DecidableEq Tx]

namespace DeliveryState

/-- The channels, with what a call has published. -/
def append (s : DeliveryState Tx) (caller : Nat) (published : List (String × PubSubRecord)) :
    String → List Published :=
  fun uuid => s.channel uuid ++ (published.filter (·.1 = uuid)).map fun p => ⟨p.2, caller⟩

/-- The sockets, with what the streaming task sends of a record. -/
def sent (s : DeliveryState Tx) (uuid : String) (m : Published) : Tx → List Published :=
  match (s.clients uuid).recipient m.record with
  | some tx => Function.update s.sockets tx (s.sockets tx ++ [m])
  | none => s.sockets

end DeliveryState

/-- What an event does to the database. -/
def DeliveryEvent.mediatorCall (config : Config) (s : DeliveryState Tx) : DeliveryEvent Tx → Option MediatorCall
  | .prepared _ | .publish _ | .reconnected _ | .received _ => none
  | .store caller time => do
    let call ← s.calls[caller]?
    let p ← call.toStore.head?
    return .database (call.storeCall config time p)
  | .started uuid random => some (.registry uuid (.cleanStart random))
  | .update uuid value => some (.registry uuid value.registryOp)
  | .streamed uuid => do
    let m ← (s.channel uuid).head?
    let op ← (s.clients uuid).undeliverable m.record
    return .registry uuid op
  | .request call => some (.database call)

/-- What an event does besides. -/
inductive DeliveryStep (config : Config) (s : DeliveryState Tx) : DeliveryEvent Tx → DeliveryState Tx → Prop
  | prepared {call : InboundCall} (h : call.Prepared config) :
    DeliveryStep config s (.prepared call) { s with calls := s.calls ++ [call] }
  | publish {caller : Nat} {call : InboundCall} {p : String × PackedMessage} {rest : List (String × PackedMessage)}
      {b : Broker} (hCall : s.calls[caller]? = some call) (hNext : call.toPublish = p :: rest)
      (hRun : tryLiveStream config call.forceLiveDelivery (p.1, p.2.text) ⟨s.db, []⟩ = .ok () b) :
    DeliveryStep config s (.publish caller)
      { s with calls := s.calls.set caller { call with toPublish := rest }, channel := s.append caller b.published }
  | store {caller : Nat} {time : ServerTime} {call : InboundCall} {p : String × PackedMessage}
      {rest : List (String × PackedMessage)} (hCall : s.calls[caller]? = some call)
      (hPublished : call.toPublish = []) (hNext : call.toStore = p :: rest) :
    DeliveryStep config s (.store caller time) { s with calls := s.calls.set caller { call with toStore := rest } }
  | started {uuid : String} {random : List String → Nat} :
    DeliveryStep config s (.started uuid random)
      { s with clients := Function.update s.clients uuid fun _ => none, channel := Function.update s.channel uuid [] }
  | reconnected {uuid : String} :
    DeliveryStep config s (.reconnected uuid) { s with channel := Function.update s.channel uuid [] }
  | update {uuid : String} {value : StreamingUpdate Tx} :
    DeliveryStep config s (.update uuid value)
      { s with clients := Function.update s.clients uuid ((s.clients uuid).update value) }
  | streamed {uuid : String} {m : Published} {rest : List Published} (hHead : s.channel uuid = m :: rest) :
    DeliveryStep config s (.streamed uuid)
      { s with channel := Function.update s.channel uuid rest, sockets := s.sent uuid m }
  | received {tx : Tx} {m : Published} {rest : List Published} (hHead : s.sockets tx = m :: rest) :
    DeliveryStep config s (.received tx) { s with sockets := Function.update s.sockets tx rest }
  | request {call : DatabaseCall} : DeliveryStep config s (.request call) s

def DeliveryEvent.database (config : Config) (s : DeliveryState Tx) (event : DeliveryEvent Tx) : Db :=
  match event.mediatorCall config s with
  | some call => call.run config.env s.db
  | none => s.db

/-- The state after an event, with who has the messages that are in the inboxes now. -/
def DeliveryState.after (config : Config) (s : DeliveryState Tx) (event : DeliveryEvent Tx) (t : DeliveryState Tx) :
    DeliveryState Tx :=
  { t with
    db := event.database config s
    stored := s.stored ∪ { p | InInbox (event.database config s) p.1 p.2 } }

/-- The mediators of one database, from the start. -/
def delivery (config : Config) (Tx : Type) [DecidableEq Tx] : System (DeliveryState Tx) (DeliveryEvent Tx) where
  init s := s = ⟨fun _ => none, [], fun _ => [], fun _ _ => none, fun _ => [], ∅⟩
  step s event s' := ∃ t, DeliveryStep config s event t ∧ s' = s.after config event t

/-- What the store of a message meets: no message with its digest, and no obstacle. -/
structure Storable (env : Environment) (time : ServerTime) (message toDid : String) (fromDid : Option String)
    (db : Db) : Prop where
  fresh : db (.msg (env.digest message)) = none
  args : ([env.digest message] ++ DatabaseHandler.storeArgs env message toDid fromDid).all
    (·.utf8ByteSize ≤ protoMaxBulkLen) = true
  free : unobstructed (env.digest message) (formatTime time) (.integer message.utf8ByteSize) (env.digest toDid)
    (fromDid.map env.digest) db = true

def MediatorCall.Storable (env : Environment) (db : Db) : MediatorCall → Prop
  | .database (.storeMessage time _ message toDid fromDid) =>
    Mediator.Storable env time message.text toDid fromDid db
  | _ => True

/-- The call stores a message with the digest. -/
def MediatorCall.Stores (env : Environment) (h : String) : MediatorCall → Prop
  | .database (.storeMessage _ _ message _ _) => env.digest message.text = h
  | _ => False

/-- The streaming task comes to a record once its message is no longer to be stored, and no store meets an
obstacle or a message with its digest. -/
structure Timely (config : Config) (s : DeliveryState Tx) (event : DeliveryEvent Tx) : Prop where
  streamed : ∀ uuid m call, event = .streamed uuid → (s.channel uuid).head? = some m →
    s.calls[m.caller]? = some call → ¬ call.Pending config.env m.record
  storable : ∀ call, event.mediatorCall config s = some call → call.Storable config.env s.db

def timely (config : Config) (Tx : Type) [DecidableEq Tx] : System (DeliveryState Tx) (DeliveryEvent Tx) :=
  (delivery config Tx).restrict (Timely config)

/-- The same, as long as nobody stores a message with the digest. -/
def unrepeated (config : Config) (Tx : Type) [DecidableEq Tx] (h : String) :
    System (DeliveryState Tx) (DeliveryEvent Tx) :=
  (timely config Tx).restrict fun s event =>
    ∀ call, event.mediatorCall config s = some call → ¬ call.Stores config.env h

/-- What is received live has been in the inbox. As long as it is there, the recipient can read it and delete it,
and once it is not, it stays away until it is stored again. -/
structure DeliveredFromInbox (config : Config) (s : DeliveryState Tx) : Prop where
  stored : ∀ tx m rest call, s.sockets tx = m :: rest → s.calls[m.caller]? = some call → call.storeMessage = true →
    (m.record.didHash, config.env.digest m.record.message) ∈ s.stored
  readable : ∀ d h, InInbox s.db d h → ∃ message, DatabaseHandler.getMessage config.env d h s.db = .ok message s.db
  deletable : ∀ sessionId d h, InInbox s.db d h → ∃ db',
    DatabaseHandler.deleteMessage config.env sessionId d h s.db = .ok () db' ∧ ¬ InInbox db' d h
  gone : ∀ d h s', ¬ InInbox s.db d h → (unrepeated config Tx h).Path s s' → ¬ InInbox s'.db d h

/-! ## The database -/

section
variable {env : Environment} {db db' : Db} {d h : String}

theorem Conserved.congr (hdb : Conserved db) (hSame : ∀ k, ¬ k.Streaming → db' k = db k) : Conserved db' := by
  have hEntries : ∀ (side : Side) d, entriesAt db' (side.queue d) = entriesAt db (side.queue d) := fun side d =>
    entriesAt_congr (hSame _ (by cases side <;> simp [Side.queue, Key.Streaming]))
  have hLast : ∀ (side : Side) d, lastIdAt db' (side.queue d) = lastIdAt db (side.queue d) := fun side d =>
    lastIdAt_congr (hSame _ (by cases side <;> simp [Side.queue, Key.Streaming]))
  have hCounter : ∀ d f, counter db' (.did d) f = counter db (.did d) f := fun d f =>
    counter_congr (field_congr (hSame _ (by simp [Key.Streaming])) f)
  have hMeta : ∀ h, db' (.msgMeta h) = db (.msgMeta h) := fun h => hSame _ (by simp [Key.Streaming])
  constructor
  case sorted => exact fun side d => hEntries side d ▸ hdb.sorted side d
  case newest =>
    intro side d
    rw [hEntries, hLast]
    exact hdb.newest side d
  case count => exact fun side d => by rw [hCounter, hEntries, hdb.count]
  case bytes => exact fun side d => by rw [hCounter, hEntries, hdb.bytes]
  case named =>
    intro side d e he
    rw [hEntries] at he
    obtain ⟨h, hNames⟩ := hdb.named side d e he
    exact ⟨h, hNames.of_metadata (hMeta h)⟩
  case queued =>
    intro side d h hOwner
    rw [field_congr (hMeta h)] at hOwner
    obtain ⟨e, he, hNames⟩ := hdb.queued side d h hOwner
    exact ⟨e, hEntries side d ▸ he, hNames.of_metadata (hMeta h)⟩
  case held =>
    intro h
    rw [hMeta, hSame _ (by simp [Key.Streaming])]
    exact hdb.held h
  case metadata =>
    intro h v hv
    exact hdb.metadata h v (hMeta h ▸ hv)

theorem Conserved.inInbox_iff (hdb : Conserved db) : InInbox db d h ↔ field db (.msgMeta h) "TO" = some d := by
  constructor
  · rintro ⟨e, he, hMsgId⟩
    obtain ⟨h', hNames⟩ := hdb.named .receive d e he
    obtain rfl := Option.some.inj (hNames.msgId.symm.trans hMsgId)
    exact hNames.owner
  · intro hTo
    obtain ⟨e, he, hNames⟩ := hdb.queued .receive d h hTo
    exact ⟨e, he, hNames.msgId⟩

/-- What holds of the database while every store is storable. -/
structure WellStored (db : Db) : Prop where
  sound : Sound db
  digested : Digested db
  conserved : Conserved db

theorem Storable.storeMessage {time : ServerTime} {message toDid : String} {fromDid : Option String}
    (h : Storable env time message toDid fromDid db) (sessionId : String) :
    ∃ db' id, stateAfter (DatabaseHandler.storeMessage env time sessionId message toDid fromDid) db = db' ∧
      message.utf8ByteSize < 2 ^ 53 ∧
      Stored (env.digest message) message (formatTime time) (.integer message.utf8ByteSize) (env.digest toDid)
        (fromDid.map env.digest) id message.utf8ByteSize db db' := by
  obtain ⟨db', hRun⟩ := DatabaseHandler.storeMessage_ok h.args h.free sessionId
  obtain ⟨hSmall, id, hStored⟩ := DatabaseHandler.storeMessage_effect hRun
  exact ⟨db', id, stateAfter_of_ok hRun, hSmall, hStored⟩

theorem WellStored.run (hdb : WellStored db) {call : MediatorCall} (hCall : call.Storable env db) :
    WellStored (call.run env db) := by
  obtain ⟨hSound, hDigests⟩ := call.run_sound env hdb.sound hdb.digested
  refine ⟨hSound, hDigests, ?_⟩
  cases call with
  | database call =>
    refine call.run_keeps env (fun hdb _ hMeta hFields h => hdb.deleted hMeta hFields h) hdb.conserved hdb.sound
      hdb.digested ?_
    rintro time sessionId message toDid fromDid rfl
    have hStorable : Storable env time message.text toDid fromDid db := hCall
    obtain ⟨db', id, hRun, hSmall, hStored⟩ := hStorable.storeMessage sessionId
    change Conserved (stateAfter (DatabaseHandler.storeMessage env time sessionId message.text toDid fromDid) db)
    rw [hRun]
    exact hdb.conserved.stored hSmall hStorable.fresh hStored
  | registry uuid op => exact hdb.conserved.congr fun k hk => op.frame env uuid hk db

/-- Metadata come from stores only. -/
theorem MediatorCall.metadata_of_not_stores (hdb : WellStored db) {call : MediatorCall} (hNot : ¬ call.Stores env h) :
    call.run env db (.msgMeta h) = none ∨ call.run env db (.msgMeta h) = db (.msgMeta h) := by
  cases call with
  | database call =>
    have hDeleted : ∀ {db₀ db₁ : Db} {x : String} {fields : Fields} {n : Nat} {id : Side → StreamId},
        (db₀ (.msgMeta h) = none ∨ db₀ (.msgMeta h) = db (.msgMeta h)) → Deleted x fields n id db₀ db₁ →
          db₁ (.msgMeta h) = none ∨ db₁ (.msgMeta h) = db (.msgMeta h) := by
      intro db₀ db₁ x fields n id hBefore hTaken
      by_cases hSame : h = x
      · exact .inl (hSame ▸ hTaken.metadata)
      · rwa [hTaken.others (.msgMeta h) trivial (by simp) (by simpa using hSame)]
    refine call.run_keeps (I := fun db' => db' (.msgMeta h) = none ∨ db' (.msgMeta h) = db (.msgMeta h)) env
      (fun hBefore _ _ _ hTaken => hDeleted hBefore hTaken) (.inr rfl) hdb.sound hdb.digested ?_
    rintro time sessionId message toDid fromDid rfl
    have hOutcome := (DatabaseCall.storeMessage time sessionId message toDid fromDid).outcome env hdb.sound hdb.digested
    exact .inr (hOutcome.others h fun hTouch => hNot hTouch.symm).2
  | registry uuid op => exact .inr (op.frame env uuid (by simp [Key.Streaming]) db)

end

/-! ## Runs -/

/-- A record whose message is stored, or yet to be. -/
def Published.Backed (env : Environment) (calls : List InboundCall) (stored : Set (String × String))
    (m : Published) : Prop :=
  ∃ call, calls[m.caller]? = some call ∧ (call.storeMessage = true →
    call.Pending env m.record ∨ (m.record.didHash, env.digest m.record.message) ∈ stored)

def Published.Stored (env : Environment) (calls : List InboundCall) (stored : Set (String × String))
    (m : Published) : Prop :=
  ∃ call, calls[m.caller]? = some call ∧ (call.storeMessage = true →
    (m.record.didHash, env.digest m.record.message) ∈ stored)

/-- Messages that are no longer to be stored are stored. -/
structure Progress (env : Environment) (calls calls' : List InboundCall) (stored stored' : Set (String × String)) :
    Prop where
  calls : ∀ (i : Nat) (call : InboundCall), calls[i]? = some call → ∃ call' : InboundCall, calls'[i]? = some call' ∧
    call'.storeMessage = call.storeMessage ∧ ∀ record, call.Pending env record →
      call'.Pending env record ∨ (record.didHash, env.digest record.message) ∈ stored'
  stored : stored ⊆ stored'

namespace Progress

variable {env : Environment} {calls calls' : List InboundCall} {stored stored' : Set (String × String)} {m : Published}

theorem of_subset (h : stored ⊆ stored') : Progress env calls calls stored stored' :=
  ⟨fun _ call hCall => ⟨call, hCall, rfl, fun _ => .inl⟩, h⟩

theorem append (call : InboundCall) (h : stored ⊆ stored') : Progress env calls (calls ++ [call]) stored stored' where
  calls i call' hCall := by
    have hLength : i < calls.length := (List.getElem?_eq_some_iff.mp hCall).1
    exact ⟨call', by rwa [List.getElem?_append_left hLength], rfl, fun _ => .inl⟩
  stored := h

theorem set {i : Nat} {call call' : InboundCall} (hCall : calls[i]? = some call)
    (hSame : call'.storeMessage = call.storeMessage)
    (hPending : ∀ record, call.Pending env record →
      call'.Pending env record ∨ (record.didHash, env.digest record.message) ∈ stored')
    (h : stored ⊆ stored') : Progress env calls (calls.set i call') stored stored' where
  calls j other hOther := by
    have hLength : i < calls.length := (List.getElem?_eq_some_iff.mp hCall).1
    by_cases hj : i = j
    · subst hj
      obtain rfl := Option.some.inj (hCall.symm.trans hOther)
      exact ⟨call', List.getElem?_set_self hLength, hSame, hPending⟩
    · exact ⟨other, by rwa [List.getElem?_set_ne hj], rfl, fun _ => .inl⟩
  stored := h

theorem backed (h : Progress env calls calls' stored stored') (hm : m.Backed env calls stored) :
    m.Backed env calls' stored' := by
  obtain ⟨call, hCall, hBacked⟩ := hm
  obtain ⟨call', hCall', hSame, hPending⟩ := h.calls _ call hCall
  refine ⟨call', hCall', fun hStore => ?_⟩
  rcases hBacked (hSame ▸ hStore) with hWaits | hStored
  · exact hPending _ hWaits
  · exact .inr (h.stored hStored)

theorem arrived (h : Progress env calls calls' stored stored') (hm : m.Stored env calls stored) :
    m.Stored env calls' stored' := by
  obtain ⟨call, hCall, hStored⟩ := hm
  obtain ⟨call', hCall', hSame, -⟩ := h.calls _ call hCall
  exact ⟨call', hCall', fun hStore => h.stored (hStored (hSame ▸ hStore))⟩

end Progress

/-- What is published of a call is stored or yet to be, and what was sent to a socket is stored. -/
structure StoredFirst (config : Config) (s : DeliveryState Tx) : Prop where
  kept : WellStored s.db
  ordered : ∀ call ∈ s.calls, call.storeMessage = true → ∀ p ∈ call.toPublish, p ∈ call.toStore
  published : ∀ uuid, ∀ m ∈ s.channel uuid, m.Backed config.env s.calls s.stored
  delivered : ∀ tx, ∀ m ∈ s.sockets tx, m.Stored config.env s.calls s.stored

section
variable {config : Config} {s s' t : DeliveryState Tx} {event : DeliveryEvent Tx}

theorem WellStored.step (hdb : WellStored s.db) (hStep : (timely config Tx).step s event s') : WellStored s'.db := by
  obtain ⟨hTimely, t, -, rfl⟩ := hStep
  change WellStored (event.database config s)
  unfold DeliveryEvent.database
  split
  · exact hdb.run (hTimely.storable _ ‹_›)
  · exact hdb

omit [DecidableEq Tx] in
/-- The message that a call comes to store is in the inbox afterwards. -/
theorem inInbox_of_store {caller : Nat} {time : ServerTime} {call : InboundCall} {p : String × PackedMessage}
    {rest : List (String × PackedMessage)} (hTimely : Timely config s (.store caller time))
    (hCall : s.calls[caller]? = some call) (hNext : call.toStore = p :: rest) :
    InInbox ((DeliveryEvent.store caller time).database config s) (config.env.digest p.1)
      (config.env.digest p.2.text) := by
  have hEvent : (DeliveryEvent.store caller time).mediatorCall config s =
      some (.database (call.storeCall config time p)) := by
    simp [DeliveryEvent.mediatorCall, hCall, hNext]
  have hStorable : Storable config.env time p.2.text p.1 (some config.mediatorDid) s.db := hTimely.storable _ hEvent
  obtain ⟨db', id, hRun, -, hStored⟩ := hStorable.storeMessage call.session.sessionId
  obtain ⟨other, hGains⟩ := hStored.gains .receive _ rfl
  rw [DeliveryEvent.database, hEvent]
  change InInbox (stateAfter (DatabaseHandler.storeMessage config.env time call.session.sessionId p.2.text p.1
    (some config.mediatorDid)) s.db) _ _
  rw [hRun]
  exact ⟨_, hGains.entries ▸ List.mem_append_right _ (List.mem_singleton_self _), rfl⟩

/-- What every step does to the calls and the messages stored. -/
theorem DeliveryStep.progress (hStep : DeliveryStep config s event t) (hTimely : Timely config s event) :
    Progress config.env s.calls t.calls s.stored
      (s.stored ∪ { p | InInbox (event.database config s) p.1 p.2 }) := by
  cases hStep with
  | prepared hPrepared => exact .append _ Set.subset_union_left
  | publish hCall hNext hRun => exact .set hCall rfl (fun _ => .inl) Set.subset_union_left
  | store hCall hPublished hNext =>
    refine .set hCall rfl (fun record hPending => ?_) Set.subset_union_left
    obtain ⟨q, hq, hDid, hText⟩ := hPending
    rw [hNext] at hq
    rcases List.mem_cons.mp hq with rfl | hq
    · rw [← hDid, ← hText]
      exact .inr (.inr (inInbox_of_store hTimely hCall hNext))
    · exact .inl ⟨q, hq, hDid, hText⟩
  | _ => exact .of_subset Set.subset_union_left

theorem StoredFirst.ordered_step (h : StoredFirst config s) (hStep : DeliveryStep config s event t) :
    ∀ call ∈ t.calls, call.storeMessage = true → ∀ p ∈ call.toPublish, p ∈ call.toStore := by
  cases hStep with
  | prepared hPrepared =>
    obtain ⟨_, _, _, out, _, -, hStore, -, -, hToStore⟩ := hPrepared
    intro call hMem hStores p hp
    rcases List.mem_append.mp hMem with hMem | hMem
    · exact h.ordered call hMem hStores p hp
    · obtain rfl := List.mem_singleton.mp hMem
      rw [hToStore, if_pos (hStore ▸ hStores)]
      exact hp
  | publish hCall hNext hRun =>
    intro call' hMem hStores q hq
    rcases List.mem_or_eq_of_mem_set hMem with hMem | rfl
    · exact h.ordered call' hMem hStores q hq
    · exact h.ordered _ (List.mem_of_getElem? hCall) hStores q (hNext ▸ List.mem_cons_of_mem _ hq)
  | store hCall hPublished hNext =>
    intro call' hMem hStores q hq
    rcases List.mem_or_eq_of_mem_set hMem with hMem | rfl
    · exact h.ordered call' hMem hStores q hq
    · rw [hPublished] at hq
      cases hq
  | _ => exact h.ordered

/-- A record is on a channel only if it was there, or if the call that publishes it still has to store it. -/
theorem StoredFirst.published_step (h : StoredFirst config s) (hTimely : Timely config s event)
    (hStep : DeliveryStep config s event t) : ∀ uuid, ∀ m ∈ t.channel uuid, m.Backed config.env t.calls
      (s.stored ∪ { p | InInbox (event.database config s) p.1 p.2 }) := by
  have hOld : ∀ uuid, ∀ m ∈ s.channel uuid, m.Backed config.env t.calls
      (s.stored ∪ { p | InInbox (event.database config s) p.1 p.2 }) := fun uuid m hm =>
    (hStep.progress hTimely).backed (h.published uuid m hm)
  have hKept : ∀ uuid l, (∀ m ∈ l, m ∈ s.channel uuid) → ∀ uuid', ∀ m ∈ Function.update s.channel uuid l uuid',
      m.Backed config.env t.calls (s.stored ∪ { p | InInbox (event.database config s) p.1 p.2 }) := by
    intro uuid l hl uuid' m hm
    by_cases hUuid : uuid' = uuid
    · subst hUuid
      rw [Function.update_self] at hm
      exact hOld uuid' m (hl m hm)
    · rw [Function.update_of_ne hUuid] at hm
      exact hOld uuid' m hm
  cases hStep with
  | publish hCall hNext hRun =>
    rename_i caller call p rest b
    intro uuid m hm
    rcases List.mem_append.mp hm with hm | hm
    · exact hOld uuid m hm
    · obtain ⟨q, hq, rfl⟩ := List.mem_map.mp hm
      have hRecord : q.2 = ⟨config.env.digest p.1, p.2.text, call.forceLiveDelivery⟩ :=
        (tryLiveStream_record hRun q (List.mem_of_mem_filter hq)).resolve_left List.not_mem_nil
      refine ⟨_, List.getElem?_set_self (List.getElem?_eq_some_iff.mp hCall).1, fun hStores => .inl ?_⟩
      have hMem := h.ordered call (List.mem_of_getElem? hCall) hStores p (hNext ▸ List.mem_cons_self)
      rw [hRecord]
      exact ⟨p, hMem, rfl, rfl⟩
  | started => exact hKept _ [] (by simp)
  | reconnected => exact hKept _ [] (by simp)
  | streamed hHead => exact hKept _ _ fun m hm => hHead ▸ List.mem_cons_of_mem _ hm
  | _ => exact hOld

/-- The streaming task sends a record only when its message is no longer to be stored. -/
theorem StoredFirst.delivered_step (h : StoredFirst config s) (hTimely : Timely config s event)
    (hStep : DeliveryStep config s event t) : ∀ tx, ∀ m ∈ t.sockets tx, m.Stored config.env t.calls
      (s.stored ∪ { p | InInbox (event.database config s) p.1 p.2 }) := by
  have hOld : ∀ tx, ∀ m ∈ s.sockets tx, m.Stored config.env t.calls
      (s.stored ∪ { p | InInbox (event.database config s) p.1 p.2 }) := fun tx m hm =>
    (hStep.progress hTimely).arrived (h.delivered tx m hm)
  cases hStep with
  | streamed hHead =>
    rename_i uuid m' rest
    intro tx m hm
    change m ∈ s.sent uuid m' tx at hm
    rw [DeliveryState.sent] at hm
    cases hRecipient : (s.clients uuid).recipient m'.record with
    | none =>
      rw [hRecipient] at hm
      exact hOld tx m hm
    | some tx' =>
      rw [hRecipient] at hm
      change m ∈ Function.update s.sockets tx' (s.sockets tx' ++ [m']) tx at hm
      by_cases hTx : tx = tx'
      · subst hTx
        rw [Function.update_self] at hm
        rcases List.mem_append.mp hm with hm | hm
        · exact hOld tx m hm
        · obtain rfl := List.mem_singleton.mp hm
          obtain ⟨call, hCall, hBacked⟩ := h.published uuid m (hHead ▸ List.mem_cons_self)
          refine ⟨call, hCall, fun hStores => .inl ((hBacked hStores).resolve_left ?_)⟩
          exact hTimely.streamed uuid m call rfl (by rw [hHead]; rfl) hCall
      · rw [Function.update_of_ne hTx] at hm
        exact hOld tx m hm
  | received hHead =>
    rename_i tx' m' rest
    intro tx m hm
    change m ∈ Function.update s.sockets tx' rest tx at hm
    by_cases hTx : tx = tx'
    · subst hTx
      rw [Function.update_self] at hm
      exact hOld tx m (hHead ▸ List.mem_cons_of_mem _ hm)
    · rw [Function.update_of_ne hTx] at hm
      exact hOld tx m hm
  | _ => exact hOld

theorem StoredFirst.step (h : StoredFirst config s) (hStep : (timely config Tx).step s event s') :
    StoredFirst config s' := by
  have hKept := h.kept.step hStep
  obtain ⟨hTimely, t, hMove, rfl⟩ := hStep
  have hOrdered := h.ordered_step hMove
  have hPublished := h.published_step hTimely hMove
  have hDelivered := h.delivered_step hTimely hMove
  exact ⟨hKept, hOrdered, hPublished, hDelivered⟩

theorem storedFirst_of_reachable (h : (timely config Tx).Reachable s) : StoredFirst config s := by
  refine System.Invariant.holds ⟨?_, fun s event s' hs hStep => hs.step hStep⟩ h
  rintro s rfl
  exact ⟨⟨.empty, by simp [Digested], conserved_empty⟩, by simp, by simp, by simp⟩

/-- Without a store of its digest a message does not come into an inbox. -/
theorem not_inInbox_step {d h : String} (hKept : WellStored s.db) (hOut : ¬ InInbox s.db d h)
    (hStep : (unrepeated config Tx h).step s event s') : ¬ InInbox s'.db d h := by
  have hKept' : WellStored s'.db := hKept.step hStep.2
  obtain ⟨hNot, hTimely, t, -, rfl⟩ := hStep
  rw [hKept.conserved.inInbox_iff] at hOut
  rw [hKept'.conserved.inInbox_iff]
  change field (event.database config s) (.msgMeta h) "TO" ≠ some d
  unfold DeliveryEvent.database
  split
  · rename_i call hEvent
    rcases call.metadata_of_not_stores hKept (hNot call hEvent) with hNone | hSame
    · simp [field, hNone]
    · rwa [field_congr hSame]
  · exact hOut

theorem WellStored.readable {env : Environment} {db : Db} {d h : String} (hdb : WellStored db)
    (hIn : InInbox db d h) : ∃ message, DatabaseHandler.getMessage env d h db = .ok message db := by
  obtain ⟨fields, hMeta, hTo⟩ := field_eq_some_iff.mp (hdb.conserved.inInbox_iff.mp hIn)
  obtain ⟨body, hMsg⟩ := hdb.sound.body_of_metadata hMeta
  obtain ⟨message, db', hRun, -⟩ := DatabaseHandler.getMessage_ok env hdb.sound hMsg hMeta hTo
  obtain rfl : db' = db := ((DatabaseHandler.keeps_getMessage (I := (· = db)) env d h) db rfl).1 _ _ hRun
  exact ⟨message, hRun⟩

theorem WellStored.deletable {env : Environment} {db : Db} {d h : String} (hdb : WellStored db)
    (hIn : InInbox db d h) (sessionId : String) :
    ∃ db', DatabaseHandler.deleteMessage env sessionId d h db = .ok () db' ∧ ¬ InInbox db' d h := by
  obtain ⟨fields, hMeta, hTo⟩ := field_eq_some_iff.mp (hdb.conserved.inInbox_iff.mp hIn)
  obtain ⟨db', hRun⟩ := DatabaseHandler.deleteMessage_ok env hdb.sound hdb.digested hMeta hTo sessionId
  refine ⟨db', hRun, ?_⟩
  have hCall : (MediatorCall.database (.deleteMessage sessionId d h)).run env db = db' := stateAfter_of_ok hRun
  have hKept : WellStored ((MediatorCall.database (.deleteMessage sessionId d h)).run env db) := hdb.run trivial
  rw [hCall] at hKept
  rcases DatabaseHandler.deleteMessage_sound env hdb.sound sessionId d h with ⟨e, hError⟩ |
    ⟨_, _, _, db₁, -, -, -, hDeleted, -, hOk⟩
  · rw [hRun] at hError
    cases hError
  · cases hRun.symm.trans hOk
    rw [hKept.conserved.inInbox_iff]
    simp [field, hDeleted.metadata]

/-- If the streaming task comes late enough and stores succeed, what is received live has been in the inbox. -/
theorem delivered_from_inbox (h : (timely config Tx).Reachable s) : DeliveredFromInbox config s := by
  have hs := storedFirst_of_reachable h
  constructor
  case stored =>
    intro tx m rest call hHead hCall hStores
    obtain ⟨call', hCall', hStored⟩ := hs.delivered tx m (hHead ▸ List.mem_cons_self)
    obtain rfl := Option.some.inj (hCall.symm.trans hCall')
    exact hStored hStores
  case readable => exact fun d h hIn => hs.kept.readable hIn
  case deletable => exact fun sessionId d h hIn => hs.kept.deletable hIn sessionId
  case gone =>
    intro d h s' hOut hPath
    have hAll : WellStored s'.db ∧ ¬ InInbox s'.db d h := by
      refine hPath.keeps (J := fun s => WellStored s.db ∧ ¬ InInbox s.db d h) ⟨hs.kept, hOut⟩ ?_
      rintro s event s' ⟨hKept, hOut⟩ hStep
      exact ⟨hKept.step hStep.2, not_inInbox_step hKept hOut hStep⟩
    exact hAll.2

end

/-! ## The handler on its own -/

theorem storePacked_ok {config : Config} {session : Common.Session} (time : ServerTime) (list : InboundMessageList)
    (p : String × String) (b : Broker) : ∃ list', storePacked config session time list p b = .ok list' { b with
      db := stateAfter (DatabaseHandler.storeMessage config.env time session.sessionId p.2 p.1
        (some config.mediatorDid)) b.db } := by
  unfold storePacked
  split
  · rename_i msgId db hRun
    rw [stateAfter_of_ok hRun]
    exact ⟨_, rfl⟩
  · rename_i e db hRun
    rw [stateAfter_of_error hRun]
    exact ⟨_, rfl⟩

section
variable {config : Config}

theorem publish_path {caller : Nat} {call : InboundCall} {s : DeliveryState Tx}
    (hCall : s.calls[caller]? = some call) : ∃ s', (delivery config Tx).Path s s' ∧ s'.db = s.db ∧
      s'.calls[caller]? = some { call with toPublish := [] } := by
  generalize hPackets : call.toPublish = packets
  induction packets generalizing s call with
  | nil => exact ⟨s, .refl, rfl, by rw [hCall, ← hPackets]⟩
  | cons p rest ih =>
    obtain ⟨published, hRun⟩ := @tryLiveStream_ok config call.forceLiveDelivery (p.1, p.2.text) ⟨s.db, []⟩
    have hLength : caller < s.calls.length := (List.getElem?_eq_some_iff.mp hCall).1
    let t : DeliveryState Tx := { s with
      calls := s.calls.set caller { call with toPublish := rest }
      channel := s.append caller published
      stored := s.stored ∪ { p | InInbox s.db p.1 p.2 } }
    have hStep : (delivery config Tx).step s (.publish caller) t := ⟨_, .publish hCall hPackets hRun, rfl⟩
    have hNext : t.calls[caller]? = some { call with toPublish := rest } := List.getElem?_set_self hLength
    obtain ⟨s', hPath, hDb, hDone⟩ := ih hNext rfl
    exact ⟨s', (System.Path.refl.tail hStep).trans hPath, hDb, hDone⟩

theorem store_path {caller : Nat} {call : InboundCall} (stored : Nat → ServerTime) {list list' : InboundMessageList}
    {b b' : Broker} {s : DeliveryState Tx} (hCall : s.calls[caller]? = some call) (hPublished : call.toPublish = [])
    (hDb : s.db = b.db) (k : Nat)
    (hRun : ((call.toStore.map fun p => (p.1, p.2.text)).zipIdx k).foldlM
      (fun list p => storePacked config call.session (stored p.2) list p.1) list b = .ok list' b') :
    ∃ s', (delivery config Tx).Path s s' ∧ s'.db = b'.db ∧ s'.calls[caller]? = some { call with toStore := [] } := by
  generalize hPackets : call.toStore = packets at hRun
  induction packets generalizing s call list b k with
  | nil =>
    cases hRun
    exact ⟨s, .refl, hDb, by rw [hCall, ← hPackets]⟩
  | cons p rest ih =>
    rw [List.map_cons, List.zipIdx_cons, List.foldlM_cons] at hRun
    obtain ⟨list₁, hOne⟩ := @storePacked_ok config call.session (stored k) list (p.1, p.2.text) b
    rw [bind_of_ok hOne] at hRun
    have hLength : caller < s.calls.length := (List.getElem?_eq_some_iff.mp hCall).1
    have hEvent : (DeliveryEvent.store caller (stored k) : DeliveryEvent Tx).mediatorCall config s =
        some (.database (call.storeCall config (stored k) p)) := by
      simp [DeliveryEvent.mediatorCall, hCall, hPackets]
    have hDatabase : (DeliveryEvent.store caller (stored k) : DeliveryEvent Tx).database config s =
        stateAfter (DatabaseHandler.storeMessage config.env (stored k) call.session.sessionId p.2.text p.1
          (some config.mediatorDid)) b.db := by
      rw [DeliveryEvent.database, hEvent, ← hDb]
      rfl
    let t : DeliveryState Tx := { s with calls := s.calls.set caller { call with toStore := rest } }
    have hStep : (delivery config Tx).step s (.store caller (stored k)) (s.after config (.store caller (stored k)) t) :=
      ⟨t, .store hCall hPublished hPackets, rfl⟩
    have hNext : (s.after config (.store caller (stored k)) t).calls[caller]? = some { call with toStore := rest } :=
      List.getElem?_set_self hLength
    obtain ⟨s', hPath, hDb', hDone⟩ := ih hNext hPublished (b := { b with db := _ }) hDatabase (k + 1) rfl hRun
    exact ⟨s', (System.Path.refl.tail hStep).trans hPath, hDb', hDone⟩

/-- A call that nothing comes in between of is a run of its own events, and leaves the same database. -/
theorem handleInbound_path {session : Common.Session} {around : Surroundings config.crates} {text : String}
    {b b₁ b' : Broker} {out : Outgoing} {r : InboundMessageResponse}
    (hOut : prepareOutgoing config session around text b = .ok out b₁) (hText : ∀ p ∈ out.packed, p.2 ≠ "")
    (hRun : handleInbound config session around text b = .ok r b') {s : DeliveryState Tx} (hDb : s.db = b₁.db) :
    ∃ s', (delivery config Tx).Path s s' ∧ s'.db = b'.db := by
  let packets : List (String × PackedMessage) := out.packed.attach.map fun p => (p.1.1, ⟨p.1.2, hText p.1 p.2⟩)
  have hPackets : packets.map (fun p => (p.1, p.2.text)) = out.packed := by
    rw [List.map_map]
    exact out.packed.attach_map_subtype_val
  let call : InboundCall := ⟨session, out.storeMessage, out.forceLiveDelivery, packets,
    if out.storeMessage then packets else []⟩
  have hPrepared : call.Prepared config := ⟨around, text, b, out, b₁, hOut, rfl, rfl, hPackets, rfl⟩
  let s₀ : DeliveryState Tx := s.after config (.prepared call) { s with calls := s.calls ++ [call] }
  have hStart : (delivery config Tx).step s (.prepared call) s₀ := ⟨_, .prepared hPrepared, rfl⟩
  have hCall : s₀.calls[s.calls.length]? = some call := List.getElem?_concat_length
  obtain ⟨s₁, hPublish, hDb₁, hCall₁⟩ := @publish_path Tx _ config _ call s₀ hCall
  have hPath := (System.Path.refl.tail hStart).trans hPublish
  rw [handleInbound, bind_of_ok hOut] at hRun
  obtain ⟨published, hPublished⟩ := @forM_tryLiveStream_ok config out.forceLiveDelivery out.packed b₁
  rw [bind_of_ok hPublished, storeOutgoing] at hRun
  have hSame : s₁.db = b₁.db := hDb₁.trans hDb
  split at hRun
  · rename_i hStore
    obtain ⟨list, b₂, hStored, hEnd⟩ := (bind_ok_iff _ _ _ _ _).mp hRun
    cases hEnd
    have hToStore : call.toStore = packets := if_pos hStore
    rw [← hPackets, ← hToStore] at hStored
    obtain ⟨s', hStorePath, hDb', -⟩ := store_path around.stored hCall₁ rfl (b := { b₁ with published }) hSame 0 hStored
    exact ⟨s', hPath.trans hStorePath, hDb'⟩
  · refine ⟨s₁, hPath, hSame.trans ?_⟩
    cases hPacked : out.packed with
    | nil =>
      rw [hPacked] at hRun
      cases hRun
    | cons p rest =>
      rw [hPacked] at hRun
      cases hRun
      rfl

end

/-! ## Examples -/

/-- The envelope that Alice has forwarded to Bob. -/
def forwardedEnvelope : PackedMessage := ⟨JsonText.write exampleEnvelope.toJson.toValue, JsonText.write_ne_empty _⟩

def forwardCall : InboundCall :=
  ⟨aliceSession, true, true, [("did:example:bob", forwardedEnvelope)], [("did:example:bob", forwardedEnvelope)]⟩

/-- The call once the envelope is published. -/
def publishedCall : InboundCall := { forwardCall with toPublish := [] }

theorem prepared_forwardCall : forwardCall.Prepared sampleConfig := by
  have hBob : didOrUrl "did:example:bob" = ("did:example:bob", none) := didOrUrl_noFragment (by decide)
  obtain ⟨db, published, hRun, -⟩ := handleInbound_example hBob (.inl rfl) (by decide)
  obtain ⟨metadata, hUnpack⟩ := unpackInbound_example hBob (.inl rfl) aliceSession
  obtain ⟨out, s₁, hOut, -⟩ := (bind_ok_iff _ _ _ _ _).mp hRun
  obtain ⟨-, rfl⟩ := prepareOutgoing_forward hUnpack (tryParseForward_forwardMessage []) hOut
  exact ⟨sampleAround, _, _, _, _, hOut, rfl, rfl, rfl, rfl⟩

/-- Bob's socket is registered, and nothing is stored. -/
def bobConnected : Db := stateAfter ((RegistryOp.register bobHash).run sampleEnvironment "mediator-1") fun _ => none

theorem bobConnected_other {k : Key} (hk : ¬ k.Streaming) : bobConnected k = none :=
  (RegistryOp.register bobHash).frame sampleEnvironment "mediator-1" hk _

theorem not_inInbox_bobConnected (d h : String) : ¬ InInbox bobConnected d h := by
  rintro ⟨e, he, -⟩
  simp [entriesAt, bobConnected_other (k := .receiveQ d) (by simp [Key.Streaming])] at he

theorem tryLiveStream_bob {message : String} (hMessage : message.length ≤ 10 ^ 6) :
    tryLiveStream sampleConfig true ("did:example:bob", message) ⟨bobConnected, []⟩ =
      .ok () ⟨bobConnected, [("mediator-1", ⟨bobHash, message, true⟩)]⟩ := by
  have hRow : field bobConnected .globalStreaming bobHash = some "mediator-1:FALSE" := by decide
  have hLive : (field bobConnected .globalStreaming (sampleConfig.env.digest "did:example:bob")).bind
      (DatabaseHandler.liveRow · true) = some "mediator-1" := by
    change (field bobConnected .globalStreaming bobHash).bind _ = _
    rw [hRow]
    decide
  have hDigest : sampleConfig.env.digest "did:example:bob" = bobHash := rfl
  have hSize : (PubSubRecord.text sampleConfig.crates
      ⟨sampleConfig.env.digest "did:example:bob", message, true⟩).utf8ByteSize ≤ protoMaxBulkLen := by
    rw [hDigest]
    exact pubSubRecord_size (by decide) (hMessage.trans (by decide))
  have hRun := @tryLiveStream_run sampleConfig true ("did:example:bob", message) ⟨bobConnected, []⟩ fun _ => hSize
  rw [hLive, hDigest] at hRun
  exact hRun

/-- The forwarded envelope is published and not yet stored. -/
structure EnvelopePublished (s : DeliveryState Nat) : Prop where
  db : s.db = bobConnected
  calls : s.calls = [publishedCall]
  channel : s.channel "mediator-1" = [⟨⟨bobHash, forwardedEnvelope.text, true⟩, 0⟩]
  client : s.clients "mediator-1" bobHash = some (1, false)
  socket : s.sockets 1 = []
  stored : s.stored = ∅

theorem stored_bobConnected : (∅ ∪ { p | InInbox bobConnected p.1 p.2 } : Set (String × String)) = ∅ := by
  rw [Set.empty_union]
  exact Set.eq_empty_of_forall_notMem fun p => not_inInbox_bobConnected p.1 p.2

theorem timely_of_none {s : DeliveryState Nat} {event : DeliveryEvent Nat} (hEvent : ∀ uuid, event ≠ .streamed uuid)
    (hCall : event.mediatorCall sampleConfig s = none) : Timely sampleConfig s event where
  streamed uuid m call h := absurd h (hEvent uuid)
  storable call h := by
    rw [hCall] at h
    cases h

/-- An event that leaves the database with Bob's registration only leaves everybody without messages. -/
theorem step_bobConnected {s t : DeliveryState Nat} {event : DeliveryEvent Nat} (hTimely : Timely sampleConfig s event)
    (hMove : DeliveryStep sampleConfig s event t) (hDb : event.database sampleConfig s = bobConnected)
    (hStored : s.stored = ∅) :
    (timely sampleConfig Nat).step s event { t with db := bobConnected, stored := ∅ } := by
  refine ⟨hTimely, t, hMove, ?_⟩
  rw [DeliveryState.after, hDb, hStored, stored_bobConnected]

theorem envelopePublished : ∃ s, (timely sampleConfig Nat).Reachable s ∧ EnvelopePublished s := by
  let start : DeliveryState Nat := ⟨fun _ => none, [], fun _ => [], fun _ _ => none, fun _ => [], ∅⟩
  have hTimely : Timely sampleConfig start (.update "mediator-1" ⟨bobHash, .register 1⟩) := by
    refine ⟨fun uuid m call h => (by cases h), ?_⟩
    rintro call ⟨⟩
    trivial
  have hRegistered := System.Reachable.step (.init (rfl : (timely sampleConfig Nat).init start))
    (step_bobConnected hTimely .update rfl rfl)
  have hPrepared := hRegistered.step (step_bobConnected (timely_of_none (by simp) rfl)
    (.prepared prepared_forwardCall) rfl rfl)
  have hRun := tryLiveStream_bob exampleEnvelope_length
  have hPublished := hPrepared.step (step_bobConnected (timely_of_none (by simp) rfl)
    (@DeliveryStep.publish Nat _ sampleConfig _ 0 forwardCall ("did:example:bob", forwardedEnvelope) [] _ rfl rfl hRun)
    rfl rfl)
  exact ⟨_, hPublished, rfl, rfl, rfl, rfl, rfl, rfl⟩

theorem storable_envelope : Storable sampleEnvironment ⟨1700000000, 100000, by decide⟩ forwardedEnvelope.text
    "did:example:bob" (some "did:example:mediator") bobConnected where
  fresh := bobConnected_other (by simp [Key.Streaming])
  args := storeArgs_example (by decide)
  free := by
    have hSame : ∀ k : Key, ¬ k.Streaming → bobConnected k = none := fun k hk => bobConnected_other hk
    rw [@unobstructed_congr (fun _ => none) _ _ (fun k hk => hSame k ?_) (hSame _ (by simp [Key.Streaming]))]
    · have hArgs := @storeArgs_example "did:example:bob" (by decide)
      obtain ⟨hSmall, -⟩ := DatabaseHandler.fcall_storeMessage hArgs ⟨1700000000, 100000, by decide⟩
      exact unobstructed_empty (inI64_of_small hSmall).1 _ _ _ xadd_example
    · cases k with
      | globalStreaming => exact hk.elim
      | streamingSessions uuid => exact hk.elim
      | _ => simp [Key.Streaming]

section
variable {s : DeliveryState Nat} (hClient : s.clients "mediator-1" bobHash = some (1, false))
include hClient

theorem streamed_mediatorCall (hChannel : s.channel "mediator-1" = [⟨⟨bobHash, forwardedEnvelope.text, true⟩, 0⟩]) :
    (DeliveryEvent.streamed "mediator-1" : DeliveryEvent Nat).mediatorCall sampleConfig s = none := by
  have hNone : (s.clients "mediator-1").undeliverable ⟨bobHash, forwardedEnvelope.text, true⟩ = none := by
    rw [Clients.undeliverable]
    dsimp only
    rw [hClient]
    rfl
  simp [DeliveryEvent.mediatorCall, hChannel, hNone]

theorem sockets_streamed (hSocket : s.sockets 1 = []) :
    s.sent "mediator-1" ⟨⟨bobHash, forwardedEnvelope.text, true⟩, 0⟩ 1 =
      [⟨⟨bobHash, forwardedEnvelope.text, true⟩, 0⟩] := by
  have hRecipient : (s.clients "mediator-1").recipient ⟨bobHash, forwardedEnvelope.text, true⟩ = some 1 := by
    rw [Clients.recipient]
    dsimp only
    rw [hClient]
    rfl
  rw [DeliveryState.sent]
  dsimp only
  rw [hRecipient]
  dsimp only
  rw [Function.update_self, hSocket, List.nil_append]

end

theorem storeCall_envelope {s : DeliveryState Nat} (hCalls : s.calls = [publishedCall]) :
    (DeliveryEvent.store 0 ⟨1700000000, 100000, by decide⟩ : DeliveryEvent Nat).mediatorCall sampleConfig s =
      some (.database (forwardCall.storeCall sampleConfig ⟨1700000000, 100000, by decide⟩
        ("did:example:bob", forwardedEnvelope))) := by
  rw [DeliveryEvent.mediatorCall, hCalls]
  rfl

theorem timely_store {s : DeliveryState Nat} (hCalls : s.calls = [publishedCall])
    (hDb : s.db = bobConnected) : Timely sampleConfig s (.store 0 ⟨1700000000, 100000, by decide⟩) := by
  refine ⟨fun uuid m call h => (by cases h), fun call h => ?_⟩
  rw [storeCall_envelope hCalls] at h
  cases h
  rw [hDb]
  exact storable_envelope

/-- The store comes before the streaming task does. -/
theorem delivered_from_inbox_bob : ∃ s, (timely sampleConfig Nat).Reachable s ∧
    s.sockets 1 = [⟨⟨bobHash, forwardedEnvelope.text, true⟩, 0⟩] ∧ DeliveredFromInbox sampleConfig s := by
  obtain ⟨s, hs, hPublished⟩ := envelopePublished
  have hCall : s.calls[0]? = some publishedCall := by
    rw [hPublished.calls]
    rfl
  let stored : DeliveryState Nat := s.after sampleConfig (.store 0 ⟨1700000000, 100000, by decide⟩)
    { s with calls := s.calls.set 0 { publishedCall with toStore := [] } }
  have hStored : (timely sampleConfig Nat).step s (.store 0 ⟨1700000000, 100000, by decide⟩) stored :=
    ⟨timely_store hPublished.calls hPublished.db, _, .store hCall rfl rfl, rfl⟩
  have hCalls : stored.calls = [{ publishedCall with toStore := [] }] := by
    change s.calls.set 0 _ = _
    rw [hPublished.calls]
    rfl
  have hTimely : Timely sampleConfig stored (.streamed "mediator-1") := by
    refine ⟨fun uuid m call hEvent hHead hCall hPending => ?_, fun call h => ?_⟩
    · obtain ⟨p, hp, -⟩ := hPending
      have hMem := List.mem_of_getElem? hCall
      rw [hCalls] at hMem
      obtain rfl := List.mem_singleton.mp hMem
      cases hp
    · rw [@streamed_mediatorCall stored hPublished.client hPublished.channel] at h
      cases h
  have hStreamed := (hs.step hStored).step ⟨hTimely, _, .streamed hPublished.channel, rfl⟩
  exact ⟨_, hStreamed, sockets_streamed hPublished.client hPublished.socket, delivered_from_inbox hStreamed⟩

/-- Bob's delete overtakes the store. -/
theorem delivered_before_stored : ∃ s, (delivery sampleConfig Nat).Reachable s ∧
    ¬ DeliveredFromInbox sampleConfig s ∧ ∃ s₁ s₂ s₃, (delivery sampleConfig Nat).step s (.received 1) s₁ ∧
      (∃ e, DatabaseHandler.deleteMessage sampleEnvironment "b" bobHash
        (sampleEnvironment.digest forwardedEnvelope.text) s₁.db = .error e s₁.db) ∧
      (delivery sampleConfig Nat).step s₁
        (.request (.deleteMessage "b" bobHash (sampleEnvironment.digest forwardedEnvelope.text))) s₂ ∧
      (delivery sampleConfig Nat).step s₂ (.store 0 ⟨1700000000, 100000, by decide⟩) s₃ ∧
      InInbox s₃.db bobHash (sampleEnvironment.digest forwardedEnvelope.text) := by
  obtain ⟨h, hDigest⟩ : ∃ h, h = sampleEnvironment.digest forwardedEnvelope.text := ⟨_, rfl⟩
  rw [← hDigest]
  obtain ⟨s, hs, hPublished⟩ := envelopePublished
  let sent : DeliveryState Nat := s.after sampleConfig (.streamed "mediator-1")
    { s with
      channel := Function.update s.channel "mediator-1" []
      sockets := s.sent "mediator-1" ⟨⟨bobHash, forwardedEnvelope.text, true⟩, 0⟩ }
  have hSent : (delivery sampleConfig Nat).step s (.streamed "mediator-1") sent :=
    ⟨_, .streamed hPublished.channel, rfl⟩
  have hSockets : sent.sockets 1 = [⟨⟨bobHash, forwardedEnvelope.text, true⟩, 0⟩] :=
    sockets_streamed hPublished.client hPublished.socket
  have hDb : sent.db = bobConnected := by
    change DeliveryEvent.database _ _ _ = _
    rw [DeliveryEvent.database, streamed_mediatorCall hPublished.client hPublished.channel]
    exact hPublished.db
  have hStored : sent.stored = ∅ := by
    change s.stored ∪ { p | InInbox sent.db p.1 p.2 } = ∅
    rw [hDb, hPublished.stored, stored_bobConnected]
  have hCall : sent.calls[0]? = some publishedCall := by
    change s.calls[0]? = _
    rw [hPublished.calls]
    rfl
  have hRefused : ∃ e, DatabaseHandler.deleteMessage sampleEnvironment "b" bobHash
      h bobConnected = .error e bobConnected := by
    have hSound : Sound bobConnected := hPublished.db ▸ (storedFirst_of_reachable hs).kept.sound
    rcases DatabaseHandler.deleteMessage_sound sampleEnvironment hSound "b" bobHash
      h with hRefused | ⟨_, _, _, _, hMeta, -⟩
    · exact hRefused
    · rw [bobConnected_other (by simp [Key.Streaming])] at hMeta
      cases hMeta
  have hDelete : (DatabaseCall.deleteMessage "b" bobHash h).run
      sampleEnvironment bobConnected = bobConnected := by
    obtain ⟨e, hRun⟩ := hRefused
    exact stateAfter_of_error hRun
  let received : DeliveryState Nat := sent.after sampleConfig (.received 1)
    { sent with sockets := Function.update sent.sockets 1 [] }
  let asked : DeliveryState Nat := received.after sampleConfig
    (.request (.deleteMessage "b" bobHash h)) received
  have hReceivedDb : received.db = bobConnected := hDb
  have hAskedDb : asked.db = bobConnected := by
    change (DatabaseCall.deleteMessage "b" bobHash h).run
      sampleEnvironment received.db = bobConnected
    rw [hReceivedDb, hDelete]
  refine ⟨sent, hs.of_restrict.step hSent, fun hDelivered => ?_, received, asked, _, ⟨_, .received hSockets, rfl⟩, ?_,
    ⟨_, .request, rfl⟩, ⟨_, .store hCall rfl rfl, rfl⟩, ?_⟩
  · have hMem := hDelivered.stored 1 _ _ _ hSockets hCall rfl
    rw [hStored] at hMem
    exact hMem
  · rw [hReceivedDb]
    exact hRefused
  · rw [hDigest]
    exact inInbox_of_store (timely_store (s := asked) hPublished.calls hAskedDb) hCall rfl

end AffinidiMessaging.Mediator
