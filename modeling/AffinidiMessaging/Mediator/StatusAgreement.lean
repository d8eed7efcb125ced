import AffinidiMessaging.Didcomm.IdealCrates
import AffinidiMessaging.Mediator.Statistics
import AffinidiMessaging.Mediator.StatusReply
import AffinidiMessaging.Mediator.StreamingUuid

/-! # The status reply and the other views of an inbox

The counter of an inbox counts its entries as long as no store is stopped between the two. Whether the
reply then agrees with the list and the registry depends on the row of the DID, on the number of its
messages and on the clocks.
-/

namespace AffinidiMessaging.Mediator

open Redis Text Fallible Serde Didcomm Transition

/-- What the mediators do to the database: calls of the store, and of the streaming tasks. -/
inductive MediatorCall
  | database (call : DatabaseCall)
  | registry (uuid : String) (op : RegistryOp)

def MediatorCall.run (env : Environment) : MediatorCall → Db → Db
  | .database call => call.run env
  | .registry uuid op => stateAfter (op.run env uuid)

def mediatorCalls (env : Environment) : System Db MediatorCall where
  init db := db = fun _ => none
  step db call db' := db' = call.run env db

/-- The queue of the receiver takes an entry of this time. -/
def MediatorCall.Queues (env : Environment) (db : Db) : MediatorCall → Prop
  | .database (.storeMessage time _ _ toDid _) =>
    accepts (xadd (.receiveQ (env.digest toDid)) (formatTime time) []) db = true
  | _ => True

def queueingCalls (env : Environment) : System Db MediatorCall :=
  (mediatorCalls env).restrict fun db call => call.Queues env db

/-- The keys of the registry. -/
def Key.Streaming : Key → Prop
  | .globalStreaming => True
  | .streamingSessions _ => True
  | _ => False

theorem untouched_cleanSessions {k : Key} (hk : ¬ k.Streaming) (random : List String → Nat)
    (uuid : String) (rounds : Nat) : Untouched k (cleanSessions random uuid rounds) := by
  have hSessions : k ≠ .streamingSessions uuid := by
    rintro rfl
    exact hk trivial
  have hGlobal : k ≠ .globalStreaming := by
    rintro rfl
    exact hk trivial
  induction rounds with
  | zero => exact .pure _
  | succ rounds ih =>
    refine (Untouched.rewriteKey hSessions).bind fun response => ?_
    cases response with
    | none => exact .pure _
    | some session =>
      exact (Untouched.rewriteKey hGlobal).bind fun _ => ih.bind fun _ => .pure _

theorem RegistryOp.frame (env : Environment) (uuid : String) (op : RegistryOp) {k : Key}
    (hk : ¬ k.Streaming) (db : Db) : stateAfter (op.run env uuid) db k = db k := by
  have hSessions : k ≠ .streamingSessions uuid := by
    rintro rfl
    exact hk trivial
  have hGlobal : k ≠ .globalStreaming := by
    rintro rfl
    exact hk trivial
  have hRow : ∀ pairs, Untouched k (hset .globalStreaming pairs) := fun pairs => .hset hGlobal pairs
  have hQuery : ∀ {α : Type} {c : Script α} (context : String), Untouched k c →
      Keeps (fun db' => db' k = db k) (DatabaseHandler.query env "NA" context c) := fun context hc =>
    DatabaseHandler.keeps_query env (hc (db k)) "NA" context
  cases op with
  | register d =>
    refine (hQuery _ (.exec fun c hc => ?_)).stateAfter rfl
    simp only [List.mem_cons, List.not_mem_nil, or_false] at hc
    rcases hc with rfl | rfl
    · exact .rewriteKey hSessions
    · exact hRow _
  | startLive d => exact (hQuery _ (hRow _)).stateAfter rfl
  | stopLive d => exact (hQuery _ (hRow _)).stateAfter rfl
  | deregister d =>
    refine (hQuery _ (.exec fun c hc => ?_)).stateAfter rfl
    simp only [List.mem_cons, List.not_mem_nil, or_false] at hc
    rcases hc with rfl | rfl
    · exact .rewriteKey hSessions
    · exact .rewriteKey hGlobal
  | cleanStart random =>
    have hClean : Untouched k (cleanStartStreaming random [uuid] []) := by
      intro v db' hv
      exact untouched_cleanSessions hk random uuid _ v db' hv
    refine Keeps.stateAfter (I := fun db' : Db => db' k = db k) ?_ rfl
    exact (hQuery _ hClean).bind fun _ => .pure _

section
variable {db db' : Db}

theorem Streamable.of_shaped (hdb : Shaped db) : Streamable db where
  entries := by
    cases hv : db .globalStreaming with
    | none => exact ⟨[], by rw [hv]; rfl⟩
    | some v =>
      have hHolds := hdb _ _ hv
      cases v with
      | hash fields => exact ⟨fields, by rw [hv]; rfl⟩
      | _ => exact hHolds.elim
  sessions uuid := by
    cases hv : db (.streamingSessions uuid) with
    | none => exact ⟨[], by rw [hv]; rfl⟩
    | some v =>
      have hHolds := hdb _ _ hv
      cases v with
      | set ms => exact ⟨ms, by rw [hv]; rfl⟩
      | _ => exact hHolds.elim

theorem Shaped.of_streamable (hdb : Shaped db) (hStreamable : Streamable db')
    (hSame : ∀ k, ¬ k.Streaming → db' k = db k) : Shaped db' := by
  intro k v hv
  cases k with
  | globalStreaming =>
    obtain ⟨fields, hFields⟩ := hStreamable.entries
    rw [hv] at hFields
    cases v <;> trivial
  | streamingSessions uuid =>
    obtain ⟨ms, hMs⟩ := hStreamable.sessions uuid
    rw [hv] at hMs
    cases v <;> trivial
  | _ =>
    rw [hSame _ (by simp [Key.Streaming])] at hv
    exact hdb _ v hv

theorem Sound.of_streamable (hdb : Sound db) (hStreamable : Streamable db')
    (hSame : ∀ k, ¬ k.Streaming → db' k = db k) : Sound db' where
  shaped := hdb.shaped.of_streamable hStreamable hSame
  kept h fields hMeta := by
    rw [hSame (.msgMeta h) (by simp [Key.Streaming])] at hMeta
    obtain ⟨hMsg, n, id, d, hMetadata, hTo, e, he, hId⟩ := hdb.kept h fields hMeta
    refine ⟨?_, n, id, d, hMetadata, hTo, e, ?_, hId⟩
    · rwa [hSame (.msg h) (by simp [Key.Streaming])]
    · rwa [entriesAt_congr (hSame (.receiveQ d) (by simp [Key.Streaming]))]
  budget m S := by
    have hWeight : ∀ h, weightAt m db' h = weightAt m db h := fun h =>
      weightAt_congr (hSame (.msgMeta h) (by simp [Key.Streaming]))
    have hGlobal := hSame .global (by simp [Key.Streaming])
    rw [counter_congr (field_congr hGlobal _), counter_congr (field_congr hGlobal _),
      Finset.sum_congr rfl fun h _ => hWeight h]
    exact hdb.budget m S
  drawn m side d := by
    have hGlobal := hSame .global (by simp [Key.Streaming])
    have hDid := hSame (.did d) (by simp [Key.Streaming])
    rw [counter_congr (field_congr hGlobal _), counter_congr (field_congr hDid _)]
    exact hdb.drawn m side d
  sized h fields hMeta := by
    rw [hSame (.msgMeta h) (by simp [Key.Streaming])] at hMeta
    exact hdb.sized h fields hMeta

theorem Digested.of_metadata (hdb : Digested db) (hSame : ∀ h, db' (.msgMeta h) = db (.msgMeta h)) :
    Digested db' := by
  intro h fields hMeta
  rw [hSame] at hMeta
  exact hdb h fields hMeta

end

/-- The counter of every inbox counts its entries. -/
def Counted (db : Db) : Prop :=
  ∀ d, counter db (.did d) "RECEIVE_QUEUE_COUNT" = (entriesAt db (.receiveQ d)).length

namespace Counted

variable {env : Environment} {db : Db}

theorem congr (hdb : Counted db) {db' : Db} (hDid : ∀ d, db' (.did d) = db (.did d))
    (hQueue : ∀ d, db' (.receiveQ d) = db (.receiveQ d)) : Counted db' := by
  intro d
  rw [counter_congr (field_congr (hDid d) _), entriesAt_congr (hQueue d)]
  exact hdb d

/-- A command that leaves the inboxes and their counters alone. -/
structure Spares {α : Type} (c : Script α) : Prop where
  count : ∀ d n, Keeps (fun db => counter db (.did d) "RECEIVE_QUEUE_COUNT" = n) c
  queue : ∀ d, Untouched (.receiveQ d) c

namespace Spares

variable {α β : Type} {c : Script α}

theorem of_untouched (hDid : ∀ d, Untouched (.did d) c) (hQueue : ∀ d, Untouched (.receiveQ d) c) :
    Spares c where
  count d n := (hDid d).keeps_counter _ n
  queue := hQueue

theorem pure (a : α) : Spares (Pure.pure a : Script α) :=
  .of_untouched (fun _ => .pure a) fun _ => .pure a

theorem bind {f : α → Script β} (hc : Spares c) (hf : ∀ a, Spares (f a)) : Spares (c >>= f) where
  count d n := (hc.count d n).bind fun a => (hf a).count d n
  queue d := (hc.queue d).bind fun a => (hf a).queue d

theorem hincrby {f : String} (hf : "RECEIVE_QUEUE_COUNT" ≠ f) (d increment : String) :
    Spares (Redis.hincrby (.did d) f increment) where
  count d' n := by
    by_cases hd : d' = d
    · exact hd ▸ keeps_counter_hincrby hf increment n
    · exact (Untouched.hincrby (by simpa using hd) _ _).keeps_counter _ n
  queue d' := .hincrby (by simp) _ _

theorem storeSender (fromDidHash : Option String) (messageHash time : String) (bytes : LuaNumber)
    (toDid : String) : Spares (Mediator.storeSender fromDidHash messageHash time bytes toDid) := by
  cases fromDidHash with
  | none => exact .pure _
  | some didHash =>
    refine Spares.bind ?_ fun _ => .pure _
    refine (Spares.hincrby (by decide) _ _).bind fun _ => (Spares.hincrby (by decide) _ _).bind fun _ => ?_
    exact .of_untouched (fun _ => .xadd (by simp) _ _) fun _ => .xadd (by simp) _ _

theorem keeps (hc : Spares c) (I : (String → Int) → (String → Option Redis.Value) → Prop) :
    Keeps (fun db : Db => I (fun d => counter db (.did d) "RECEIVE_QUEUE_COUNT") fun d => db (.receiveQ d))
      c := by
  have hSame : ∀ db db' : Db, (∀ d, counter db' (.did d) "RECEIVE_QUEUE_COUNT" =
      counter db (.did d) "RECEIVE_QUEUE_COUNT") → (∀ d, db' (.receiveQ d) = db (.receiveQ d)) →
      I (fun d => counter db (.did d) "RECEIVE_QUEUE_COUNT") (fun d => db (.receiveQ d)) →
      I (fun d => counter db' (.did d) "RECEIVE_QUEUE_COUNT") fun d => db' (.receiveQ d) := by
    intro db db' hCounts hQueues hI
    rwa [funext hCounts, funext hQueues]
  intro db hdb
  constructor
  · intro a db' hRun
    exact hSame db db' (fun d => (hc.count d _ db rfl).1 a db' hRun) (fun d => (hc.queue d).of_ok hRun) hdb
  · intro e db' hRun
    exact hSame db db' (fun d => (hc.count d _ db rfl).2 e db' hRun) (fun d => (hc.queue d).of_error hRun) hdb

theorem counted (hc : Spares c) : Keeps Counted c :=
  hc.keeps fun count queue => ∀ d, count d = (entriesAt (fun _ : Key => queue d) (.receiveQ d)).length

end Spares

/-- Both counted and queued, or neither, whatever is rejected afterwards. -/
theorem storeRecords (messageHash message time toDid toDidHash fromDid : String) (bytes : LuaNumber)
    (fromDidHash : Option String) (queue : Option Redis.Value)
    (hQueue : ∀ db : Db, db (.receiveQ toDidHash) = queue →
      accepts (xadd (.receiveQ toDidHash) time []) db = true) :
    Triple (fun db => Counted db ∧ db (.receiveQ toDidHash) = queue)
      (Mediator.storeRecords messageHash message time bytes toDid toDidHash fromDid fromDidHash)
      (fun _ => Counted) (fun _ => Counted) := by
  have hBefore : ∀ {α : Type} {c : Script α}, Spares c →
      Triple (fun db => Counted db ∧ db (.receiveQ toDidHash) = queue) c
        (fun _ db => Counted db ∧ db (.receiveQ toDidHash) = queue) (fun _ => Counted) := fun hc =>
    (hc.keeps fun count q => (∀ d, count d = (entriesAt (fun _ : Key => q d) (.receiveQ d)).length) ∧
      q toDidHash = queue).weaken (fun _ h => h) (fun _ _ h => h) fun _ _ h => h.1
  -- between its two writes the receiver has one message counted but not queued
  have hCount : Triple (fun db => Counted db ∧ db (.receiveQ toDidHash) = queue)
      (Redis.hincrby (.did toDidHash) "RECEIVE_QUEUE_COUNT" "1")
      (fun _ db => (∀ d, counter db (.did d) "RECEIVE_QUEUE_COUNT" =
        (entriesAt db (.receiveQ d)).length + if d = toDidHash then 1 else 0) ∧
          db (.receiveQ toDidHash) = queue) (fun _ => Counted) := by
    rintro db ⟨hdb, hq⟩
    constructor
    · intro u db' hRun
      have hSame : ∀ d, db' (.receiveQ d) = db (.receiveQ d) := fun d =>
        (Untouched.hincrby (by simp) _ _).of_ok hRun
      refine ⟨fun d => ?_, (hSame toDidHash).trans hq⟩
      rw [entriesAt_congr (hSame d)]
      by_cases hd : d = toDidHash
      · subst hd
        obtain ⟨i, hi, hCounter⟩ := counter_of_hincrby hRun
        have hOne : parseI64 "1" = some 1 := by decide
        rw [hOne, Option.some.injEq] at hi
        rw [hCounter, hdb d, ← hi, if_pos rfl]
      · rw [counter_of_hincrby_of_ne (.inl (by simpa using hd)) hRun, hdb d, if_neg hd, Int.add_zero]
    · intro e db' hRun
      rw [hincrby_error hRun]
      exact hdb
  have hXadd : ∀ entry, Triple (fun db => (∀ d, counter db (.did d) "RECEIVE_QUEUE_COUNT" =
      (entriesAt db (.receiveQ d)).length + if d = toDidHash then 1 else 0) ∧
        db (.receiveQ toDidHash) = queue) (xadd (.receiveQ toDidHash) time entry)
      (fun _ => Counted) (fun _ => Counted) := by
    rintro entry db ⟨hdb, hq⟩
    constructor
    · intro answer db' hRun d
      rw [counter_congr (field_congr ((Untouched.xadd (by simp) _ _).of_ok hRun) _), hdb d]
      by_cases hd : d = toDidHash
      · subst hd
        obtain ⟨id, -, -, -, hEntries⟩ := xadd_effect hRun
        rw [hEntries, if_pos rfl, List.length_append, List.length_singleton]
        omega
      · have hSame : db' (.receiveQ d) = db (.receiveQ d) :=
          (Untouched.xadd (by simpa using hd) _ _).of_ok hRun
        rw [entriesAt_congr hSame, if_neg hd, Int.add_zero]
    · intro e db' hRun
      have hAccepts : accepts (xadd (.receiveQ toDidHash) time entry) db = true :=
        (accepts_xadd_congr rfl).trans (hQueue db hq)
      obtain ⟨answer, db₁, hOk⟩ := (accepts_iff _ _).mp hAccepts
      rw [hRun] at hOk
      cases hOk
  refine Triple.bind (hBefore (.of_untouched (fun _ => .set (by simp) _) fun _ => .set (by simp) _)) fun _ => ?_
  refine Triple.bind (hBefore (.of_untouched (fun _ => .hincrby (by simp) _ _)
    fun _ => .hincrby (by simp) _ _)) fun _ => ?_
  refine Triple.bind (hBefore (.of_untouched (fun _ => .hincrby (by simp) _ _)
    fun _ => .hincrby (by simp) _ _)) fun _ => ?_
  refine Triple.bind (hBefore (.of_untouched (fun _ => .rpush (by simp) _) fun _ => .rpush (by simp) _))
    fun _ => ?_
  refine Triple.bind (Q := fun _ => Counted) ?_ fun _ => ?_
  · refine Triple.bind (hBefore (.hincrby (by decide) _ _)) fun _ => ?_
    exact Triple.bind hCount fun _ => hXadd _
  · refine Keeps.bind (Spares.storeSender _ _ _ _ _).counted fun _ => ?_
    refine Keeps.bind (Spares.counted ?_) fun _ => .pure _
    exact .of_untouched (fun _ => untouched_storeMetadata (by simp) _ _ _ _ _)
      fun _ => untouched_storeMetadata (by simp) _ _ _ _ _

theorem storeMessage (hdb : Counted db) {time : ServerTime} {sessionId : String} {message : PackedMessage}
    {toDid : String} {fromDid : Option String}
    (hQueues : (MediatorCall.database (.storeMessage time sessionId message toDid fromDid)).Queues env db) :
    Counted (stateAfter (DatabaseHandler.storeMessage env time sessionId message.text toDid fromDid) db) := by
  have hRecords := storeRecords (env.digest message.text) message.text (formatTime time) toDid (env.digest toDid)
    (fromDid.getD "ANONYMOUS") (.integer message.text.utf8ByteSize) (fromDid.map env.digest)
    (db (.receiveQ (env.digest toDid))) (fun db' hSame => (accepts_xadd_congr hSame).trans hQueues) db ⟨hdb, rfl⟩
  rcases DatabaseHandler.storeMessage_cases env time sessionId message.text toDid fromDid db with
    ⟨e, hRun⟩ | ⟨-, ⟨answer, db', hStore, hRun⟩ | ⟨e, e', db', hStore, hRun⟩⟩
  · rw [stateAfter_of_error hRun]
    exact hdb
  · rw [stateAfter_of_ok hRun]
    exact hRecords.1 _ _ hStore
  · rw [stateAfter_of_error hRun]
    exact hRecords.2 _ _ hStore

/-- A delete takes out the entry that it no longer counts. -/
theorem deleted (hdb : Counted db) (hSound : Sound db) {messageHash : String} {fields : Fields} {n : Nat}
    {id : Side → StreamId} {db' : Db} (hMeta : db (.msgMeta messageHash) = some (.hash fields))
    (hFields : Metadata fields n id) (h : Deleted messageHash fields n id db db') : Counted db' := by
  intro d
  by_cases hOwner : fields.lookup "TO" = some d
  · obtain ⟨-, n', id', d', hFields', hTo, e, he, hId, -⟩ := hSound.kept messageHash fields hMeta
    rw [hOwner, Option.some.injEq] at hTo
    subst hTo
    have hSameId : e.id = id .receive := by
      have hText := (hFields.ids .receive).symm.trans (hFields'.ids .receive)
      have hTo : fields.lookup (Side.receive).ownerField = some d := hOwner
      rw [hTo, Option.map_some, Option.map_some, Option.some.injEq] at hText
      exact hId.trans (StreamId.text_injective hText).symm
    have hPerm := perm_cons_filter (hSound.shaped.entries .receive d).sorted he
    have hEntries : entriesAt db' (.receiveQ d) = _ := (h.loses .receive d hOwner).entries
    have hCount : counter db' (.did d) "RECEIVE_QUEUE_COUNT" = _ := (h.loses .receive d hOwner).count
    have hBefore : counter db (.did d) (Side.receive).countField = _ := hdb d
    have hLength := hPerm.length_eq
    rw [List.length_cons, hSameId] at hLength
    rw [hCount, hBefore, hEntries]
    change ((entriesAt db (.receiveQ d)).length : Int) - 1 = _
    change (entriesAt db (.receiveQ d)).length = _ at hLength
    rw [hLength]
    simp [Side.queue]
  · have hSame := h.same .receive d hOwner
    have hEntries : entriesAt db' (.receiveQ d) = _ := hSame.entries
    have hCount : counter db' (.did d) "RECEIVE_QUEUE_COUNT" = _ := hSame.count
    rw [hEntries, hCount]
    exact hdb d

end Counted

theorem MediatorCall.run_sound (env : Environment) {db : Db} (hSound : Sound db) (hDigests : Digested db)
    (call : MediatorCall) : Sound (call.run env db) ∧ Digested (call.run env db) := by
  cases call with
  | database call =>
    have hOutcome := call.outcome env hSound hDigests
    exact ⟨hOutcome.sound, hOutcome.digested⟩
  | registry uuid op =>
    have hSame : ∀ k, ¬ k.Streaming → (MediatorCall.registry uuid op).run env db k = db k := fun k hk =>
      op.frame env uuid hk db
    obtain ⟨db', hRun, hStreamable, -⟩ := op.run_refines env uuid (.of_shaped hSound.shaped)
    have hState : (MediatorCall.registry uuid op).run env db = db' := stateAfter_of_ok hRun
    rw [hState] at hSame ⊢
    exact ⟨hSound.of_streamable hStreamable hSame,
      hDigests.of_metadata fun h => hSame _ (by simp [Key.Streaming])⟩

theorem sound_of_mediatorCalls {env : Environment} {db : Db} (h : (mediatorCalls env).Reachable db) :
    Sound db ∧ Digested db := by
  refine System.Invariant.holds (I := fun db => Sound db ∧ Digested db) ⟨?_, ?_⟩ h
  · rintro db rfl
    exact ⟨.empty, by simp [Digested]⟩
  · rintro db call db' ⟨hSound, hDigests⟩ rfl
    exact call.run_sound env hSound hDigests

/-- The counters keep up with the queues, if every store is queued. -/
theorem MediatorCall.run_counted (env : Environment) {db : Db} (hdb : Counted db) (hSound : Sound db)
    (hDigests : Digested db) {call : MediatorCall} (hQueues : call.Queues env db) :
    Counted (call.run env db) := by
  cases call with
  | database call =>
    refine call.run_keeps env (fun hdb hSound hMeta hFields h => hdb.deleted hSound hMeta hFields h) hdb hSound
      hDigests ?_
    rintro time sessionId message toDid fromDid rfl
    exact hdb.storeMessage hQueues
  | registry uuid op =>
    exact hdb.congr (fun d => op.frame env uuid (by simp [Key.Streaming]) db)
      fun d => op.frame env uuid (by simp [Key.Streaming]) db

theorem counted_of_reachable {env : Environment} {db : Db} (h : (queueingCalls env).Reachable db) :
    Counted db ∧ Sound db := by
  have hAll : Counted db ∧ Sound db ∧ Digested db := by
    refine System.Invariant.holds (I := fun db => Counted db ∧ Sound db ∧ Digested db) ⟨?_, ?_⟩ h
    · rintro db rfl
      exact ⟨fun d => counter_empty _ _, .empty, by simp [Digested]⟩
    · rintro db call db' ⟨hdb, hSound, hDigests⟩ ⟨hQueues, rfl⟩
      exact ⟨call.run_counted env hdb hSound hDigests hQueues, call.run_sound env hSound hDigests⟩
  exact ⟨hAll.1, hAll.2.1⟩

/-- What `list_messages` lists of an inbox without a limit. -/
def inboxList (db : Db) (didHash : String) : List MessageListElement :=
  (entriesAt db (.receiveQ didHash)).map (DatabaseHandler.listEntry .inbox)

/-- A limit cuts that list. -/
theorem DatabaseHandler.listMessages_take (env : Environment) {db : Db} (hdb : Shaped db) (didHash : String)
    {limit : Nat} (hPos : 1 ≤ limit) (hLimit : limit < 2 ^ 32) :
    listMessages env didHash .inbox limit db = .ok ((inboxList db didHash).take limit) db := by
  obtain ⟨s, hs, -⟩ := hdb.queue .receive didHash
  have hEntries : s.entries = entriesAt db (.receiveQ didHash) := entries_of_asStream hs
  have hCount : parseI64 limit.repr = some (limit : Int) :=
    parseI64_toString (n := (limit : Int)) (by unfold inI64; omega)
  have hRange : xrange (.receiveQ didHash) "-" limit.repr db = .ok (some (s.entries.take limit)) db := by
    refine (ofKey_ok_iff _ _ _ _ _).mpr ⟨?_, rfl⟩
    have hStream : asStream (db (.receiveQ didHash)) = .ok s := hs
    have hNe : limit ≠ 0 := by omega
    simp [hCount, okOr, hStream, fromStart, bind, Except.bind, pure, Except.pure, hNe]
  refine (bind_of_ok (query_of_ok hRange)).trans ?_
  rw [inboxList, ← List.map_take, ← hEntries]
  rfl

/-- What a status says of an inbox and the registry is what the list and the registry say. -/
structure MessagePickupStatusReply.Agrees (env : Environment) (now : UInt64) (didHash : String) (db : Db)
    (status : MessagePickupStatusReply) : Prop where
  liveDelivery : status.liveDelivery = true ↔
    ∃ uuid db', DatabaseHandler.streamingIsClientLive env didHash false db = .ok (some uuid) db'
  messageCount : status.messageCount.toNat = (inboxList db didHash).length
  oldestReceivedTime : status.oldestReceivedTime.map UInt64.toNat =
    (inboxList db didHash).head?.map (·.timestamp / 1000)
  newestReceivedTime : status.newestReceivedTime.map UInt64.toNat =
    (inboxList db didHash).getLast?.map (·.timestamp / 1000)
  longestWaitedSeconds : status.longestWaitedSeconds.map (fun t => (t.toNat : Int)) =
    status.oldestReceivedTime.map fun t => (now.toNat : Int) - t.toNat

/-- The reply to a status request reports a status that agrees with the other views. -/
def StatusReplyAgrees (shared : SharedData) (truncate : String → Int) (clock : Clock)
    (session : Common.Session) (didHash : String) (db : Db) : Prop :=
  ∃ status : MessagePickupStatusReply,
    (∀ thid force, MessagePickup.generateStatusReply shared truncate clock session didHash thid force none db =
      .ok (some ⟨false, force, .message (MessagePickup.statusMessage shared clock session thid status)⟩) db) ∧
    status.Agrees shared.env clock.now didHash db

/-- The row of a client, if there is one, is flagged as live. -/
def NotStopped (db : Db) (didHash : String) : Prop :=
  ∀ row, field db .globalStreaming didHash = some row → ∃ uuid, splitAll ':' row = [uuid, "TRUE"]

/-- The oldest message of the inbox is not from the future. -/
def InThePast (now : UInt64) (db : Db) (didHash : String) : Prop :=
  ∀ e ∈ (entriesAt db (.receiveQ didHash)).head?, e.id.ms / 1000 ≤ now.toNat

section
variable (strtod : String → Option LuaNumber) (truncate : String → Int)

/-- What the function answers where every key holds what belongs there. -/
def statusResponse (db : Db) (didHash : String) : List (String × Reply) :=
  [("recipient_did", .bulk didHash)] ++
    statusNumber strtod truncate "message_count" (field db (.did didHash) "RECEIVE_QUEUE_COUNT") ++
    statusNumber strtod truncate "total_bytes" (field db (.did didHash) "RECEIVE_QUEUE_BYTES") ++
    (match db (.receiveQ didHash) with
      | some (.stream s) => statusQueue (.ok s)
      | _ => []) ++
    [("live_delivery", .int (if (field db .globalStreaming didHash).isSome then 1 else 0))]

theorem getStatusReply_run {db : Db} (hdb : Shaped db) (didHash : String) :
    getStatusReply strtod truncate [didHash] [] db = .ok (statusResponse strtod truncate db didHash) db := by
  obtain ⟨counters, hCounters, -⟩ := hdb.counters (k := .did didHash) (.inr ⟨didHash, rfl⟩)
  have hCount : hmget (.did didHash) ["RECEIVE_QUEUE_COUNT", "RECEIVE_QUEUE_BYTES"] db =
      .ok [field db (.did didHash) "RECEIVE_QUEUE_COUNT", field db (.did didHash) "RECEIVE_QUEUE_BYTES"] db := by
    refine (ofKey_ok_iff _ _ _ _ _).mpr ⟨?_, rfl⟩
    simp only [hCounters, ← lookup_of_asHash hCounters]
    rfl
  obtain ⟨rows, hRows⟩ := (Streamable.of_shaped hdb).entries
  have hLive : hexists .globalStreaming didHash db = .ok (field db .globalStreaming didHash).isSome db := by
    refine (ofKey_ok_iff _ _ _ _ _).mpr ⟨?_, rfl⟩
    simp only [hRows, ← lookup_of_asHash hRows]
    rfl
  have hInfo : ∃ info, attempt (xinfoStream (.receiveQ didHash)) db = .ok info db ∧
      statusQueue info = match db (.receiveQ didHash) with
        | some (.stream s) => statusQueue (.ok s)
        | _ => [] := by
    unfold attempt xinfoStream ofKey
    cases hv : db (.receiveQ didHash) with
    | none => exact ⟨_, rfl, rfl⟩
    | some v => cases v <;> exact ⟨_, rfl, rfl⟩
  obtain ⟨info, hInfo, hQueue⟩ := hInfo
  unfold getStatusReply statusResponse
  dsimp only
  rw [bind_of_ok hCount, bind_of_ok hInfo, bind_of_ok hLive, hQueue]
  rfl

end

namespace MessagePickup

variable {strtod : String → Option LuaNumber} {truncate : String → Int} (status : MessagePickupStatusReply)

theorem foldl_message_count (text : Option String) :
    (statusNumber strtod truncate "message_count" text).foldl statusField status =
      { status with messageCount := ((text.bind (tonumber strtod)).bind fun n =>
          (numberReply truncate n).asU32).getD status.messageCount } := by
  unfold statusNumber
  cases text.bind (tonumber strtod) <;> rfl

theorem foldl_total_bytes (text : Option String) :
    (statusNumber strtod truncate "total_bytes" text).foldl statusField status =
      { status with totalBytes := ((text.bind (tonumber strtod)).bind fun n =>
          (numberReply truncate n).asU64).getD status.totalBytes } := by
  unfold statusNumber
  cases text.bind (tonumber strtod) <;> rfl

theorem receivedTime_id (id : StreamId) (time : Option UInt64) :
    receivedTime (.bulk id.text) time = some (UInt64.ofNat (id.ms / 1000)) := by
  unfold receivedTime
  simp only [Reply.asText, splitAll_text, unsigned_of_parseNat (parseNat_repr id.ms) id.ms_lt]
  rfl

theorem foldl_statusQueue (s : Redis.Stream) (hOld : status.oldestReceivedTime = none)
    (hNew : status.newestReceivedTime = none) :
    (statusQueue (.ok s)).foldl statusField status =
      { status with
        oldestReceivedTime := s.entries.head?.map fun e => UInt64.ofNat (e.id.ms / 1000)
        newestReceivedTime := s.entries.getLast?.map fun e => UInt64.ofNat (e.id.ms / 1000) } := by
  have hTime : ∀ entry : Option StreamEntry, receivedTime (entryReply entry) none =
      entry.map fun e => UInt64.ofNat (e.id.ms / 1000) := by
    intro entry
    cases entry with
    | none => decide
    | some e => exact receivedTime_id e.id none
  simp only [statusQueue, List.foldl_cons, List.foldl_nil, statusField, hOld, hNew, hTime]
  rfl

theorem readStatus_statusResponse (clock : Clock) (session : Common.Session) (db : Db) (didHash : String) :
    readStatus clock session none (statusResponse strtod truncate db didHash) =
      { recipientDid := session.did
        messageCount := (((field db (.did didHash) "RECEIVE_QUEUE_COUNT").bind (tonumber strtod)).bind
          fun n => (numberReply truncate n).asU32).getD 0
        longestWaitedSeconds := (entriesAt db (.receiveQ didHash)).head?.map fun e =>
          clock.now - UInt64.ofNat (e.id.ms / 1000)
        newestReceivedTime := (entriesAt db (.receiveQ didHash)).getLast?.map fun e =>
          UInt64.ofNat (e.id.ms / 1000)
        oldestReceivedTime := (entriesAt db (.receiveQ didHash)).head?.map fun e =>
          UInt64.ofNat (e.id.ms / 1000)
        totalBytes := (((field db (.did didHash) "RECEIVE_QUEUE_BYTES").bind (tonumber strtod)).bind
          fun n => (numberReply truncate n).asU64).getD 0
        liveDelivery := (field db .globalStreaming didHash).isSome } := by
  have hLive : ∀ status : MessagePickupStatusReply, ∀ live : Bool, [("live_delivery",
      Reply.int (if live then 1 else 0))].foldl statusField status = { status with liveDelivery := live } := by
    intro status live
    cases live <;> rfl
  have hDid : [("recipient_did", Reply.bulk didHash)].foldl statusField { recipientDid := session.did } =
      { recipientDid := session.did } := rfl
  unfold readStatus statusResponse entriesAt
  simp only [List.foldl_append, hDid, foldl_message_count, foldl_total_bytes, hLive]
  cases hv : db (.receiveQ didHash) with
  | none => rfl
  | some v =>
    cases v with
    | stream s =>
      simp only [foldl_statusQueue, Option.map_map]
      rfl
    | _ => rfl

end MessagePickup

theorem u64Json_inj {a b : UInt64} : u64Json a = u64Json b ↔ a = b := by
  simp [u64Json]

theorem MessagePickupStatusReply.toJson_injective : Function.Injective MessagePickupStatusReply.toJson := by
  rintro ⟨did, count, longest, newest, oldest, bytes, live⟩ ⟨did', count', longest', newest', oldest', bytes', live'⟩ h
  have hFields := Json.obj.inj h
  have hCount : count.toUInt64 = count'.toUInt64 → count = count' := fun h => by
    simpa using congrArg UInt64.toUInt32 h
  cases longest <;> cases longest' <;> cases newest <;> cases newest' <;> cases oldest <;> cases oldest' <;>
    simp [skipNone, u64Json_inj] at hFields ⊢ <;> tauto

theorem liveRow_isSome_iff {row : String} :
    (∃ uuid, DatabaseHandler.liveRow row false = some uuid) ↔ ∃ uuid, splitAll ':' row = [uuid, "TRUE"] := by
  unfold DatabaseHandler.liveRow
  split
  · rename_i uuid state hRow
    rw [hRow]
    simp
  · rename_i hRow
    constructor
    · rintro ⟨_, h⟩
      cases h
    · rintro ⟨uuid, h⟩
      exact absurd h (hRow uuid "TRUE")

section
variable {shared : SharedData} {truncate : String → Int} {clock : Clock} {session : Common.Session}
  {db : Db} (did : String)

theorem MessagePickup.generateStatusReply_run (hdb : Shaped db) (thid : String) (force : Bool)
    (override : Option Bool) :
    generateStatusReply shared truncate clock session (shared.env.digest did) thid force override db =
      .ok (some ⟨false, force, .message (statusMessage shared clock session thid (readStatus clock session override
        (statusResponse shared.env.strtod truncate db (shared.env.digest did))))⟩) db := by
  have hCall : fcall (getStatusReply shared.env.strtod truncate) [shared.env.digest did] [] db =
      .ok (statusResponse shared.env.strtod truncate db (shared.env.digest did)) db := by
    have hSmall : [shared.env.digest did].all (·.utf8ByteSize ≤ protoMaxBulkLen) = true := by
      simp [shared.env.digest_size, protoMaxBulkLen]
    rw [fcall, List.append_nil, if_pos hSmall]
    exact getStatusReply_run _ _ hdb _
  exact (bind_of_ok (DatabaseHandler.query_of_ok hCall)).trans rfl

/-- A number of 32 bits survives the way through Lua and the client. -/
theorem messageCount_of_counted (strtod : String → Option LuaNumber) (hdb : Shaped db) (hCounted : Counted db)
    {d : String} (hSmall : (entriesAt db (.receiveQ d)).length < 2 ^ 32) :
    ((((field db (.did d) "RECEIVE_QUEUE_COUNT").bind (tonumber strtod)).bind fun n =>
      (numberReply truncate n).asU32).getD 0).toNat = (entriesAt db (.receiveQ d)).length := by
  have hParse := (hdb.counter_inI64 (k := .did d) (.inr ⟨d, rfl⟩) "RECEIVE_QUEUE_COUNT").1
  rw [hCounted d] at hParse
  cases hField : field db (.did d) "RECEIVE_QUEUE_COUNT" with
  | none =>
    rw [hField] at hParse
    have hZero : parseI64 "0" = some 0 := by decide
    have hLength : (0 : Int) = (entriesAt db (.receiveQ d)).length := Option.some.inj (hZero.symm.trans hParse)
    simp only [Option.bind_none, Option.getD_none]
    exact (Int.natCast_inj.mp hLength)
  | some text =>
    rw [hField] at hParse
    have hText : (entriesAt db (.receiveQ d)).length.repr = text := toString_of_parseI64 hParse
    have hNumber : tonumber strtod text = some (.integer (entriesAt db (.receiveQ d)).length) := by
      rw [tonumber, ← hText, parseNat_repr]
      exact if_pos (by omega)
    simp only [Option.bind_some, hNumber, numberReply, Reply.asU32, Option.getD_some]
    rw [UInt32.ofInt, UInt32.toNat_ofNat']
    omega

theorem toNat_seconds (id : StreamId) : (UInt64.ofNat (id.ms / 1000)).toNat = id.ms / 1000 := by
  have := id.ms_lt
  rw [UInt64.toNat_ofNat']
  exact Nat.mod_eq_of_lt (by omega)

theorem listEntry_timestamp (e : StreamEntry) :
    (DatabaseHandler.listEntry .inbox e).timestamp = e.id.ms := by
  have hFields : ∀ message : MessageListElement,
      (e.fields.foldl DatabaseHandler.listedField message).timestamp = message.timestamp :=
    foldl_keeps (fun m p => by unfold DatabaseHandler.listedField; split <;> rfl) e.fields
  unfold DatabaseHandler.listEntry
  dsimp only
  rw [hFields, splitAll_text]
  exact parseU64_of_parseNat (parseNat_repr _) e.id.ms_lt

/-- The only status that the reply can report. -/
theorem statusReplyAgrees_iff (hdb : Shaped db) :
    StatusReplyAgrees shared truncate clock session (shared.env.digest did) db ↔
      (MessagePickup.readStatus clock session none (statusResponse shared.env.strtod truncate db
        (shared.env.digest did))).Agrees shared.env clock.now (shared.env.digest did) db := by
  have hRun : ∀ thid force, MessagePickup.generateStatusReply shared truncate clock session
      (shared.env.digest did) thid force none db = _ := fun thid force =>
    MessagePickup.generateStatusReply_run did hdb thid force none
  constructor
  · rintro ⟨status, hStatus, hAgrees⟩
    have hMessage := (hStatus "" false).symm.trans (hRun "" false)
    injection hMessage with hResponse
    injection hResponse with hResponse
    injection hResponse with _ _ hReply
    injection hReply with hReply
    exact MessagePickupStatusReply.toJson_injective (congrArg Message.body hReply) ▸ hAgrees
  · exact fun hAgrees => ⟨_, hRun, hAgrees⟩

/-- In every database that the mediators make of an empty one, as long as the queue takes what is stored,
the reply agrees with the list and the registry unless the client is registered with its delivery
stopped, has too many messages, or has an oldest one from the future. -/
theorem status_reply_agrees_iff (h : (queueingCalls shared.env).Reachable db) :
    StatusReplyAgrees shared truncate clock session (shared.env.digest did) db ↔
      NotStopped db (shared.env.digest did) ∧
        (entriesAt db (.receiveQ (shared.env.digest did))).length < 2 ^ 32 ∧
        InThePast clock.now db (shared.env.digest did) := by
  obtain ⟨hCounted, hSound⟩ := counted_of_reachable h
  rw [statusReplyAgrees_iff did hSound.shaped, MessagePickup.readStatus_statusResponse]
  have hLive := DatabaseHandler.streamingIsClientLive_eq shared.env (shared.env.digest did) false db
  generalize shared.env.digest did = d at hLive ⊢
  -- a row there is reported as live, whatever its flag
  have hLiveIff : ((field db .globalStreaming d).isSome = true ↔ ∃ uuid db',
      DatabaseHandler.streamingIsClientLive shared.env d false db = .ok (some uuid) db') ↔
        NotStopped db d := by
    rw [hLive]
    unfold NotStopped
    cases hRow : field db .globalStreaming d with
    | none => simp
    | some row => simp [liveRow_isSome_iff]
  have hCount : (entriesAt db (.receiveQ d)).length < 2 ^ 32 →
      ((((field db (.did d) "RECEIVE_QUEUE_COUNT").bind (tonumber shared.env.strtod)).bind fun n =>
        (numberReply truncate n).asU32).getD 0).toNat = (inboxList db d).length := fun hSmall => by
    rw [messageCount_of_counted _ hSound.shaped hCounted hSmall, inboxList, List.length_map]
  have hTimes : ∀ entry : Option StreamEntry,
      (entry.map fun e => UInt64.ofNat (e.id.ms / 1000)).map UInt64.toNat =
        (entry.map (DatabaseHandler.listEntry .inbox)).map (·.timestamp / 1000) := by
    rintro (_ | e)
    · rfl
    · simp only [Option.map_some, toNat_seconds, listEntry_timestamp]
  constructor
  · intro hAgrees
    refine ⟨hLiveIff.mp hAgrees.liveDelivery, ?_, ?_⟩
    · have hLength := hAgrees.messageCount
      rw [inboxList, List.length_map] at hLength
      exact hLength ▸ UInt32.toNat_lt _
    · intro e he
      have hWaited := hAgrees.longestWaitedSeconds
      rw [Option.mem_def.mp he] at hWaited
      simp only [Option.map_some, toNat_seconds, Option.some.injEq] at hWaited
      omega
  · rintro ⟨hNotStopped, hSmall, hPast⟩
    constructor
    · exact hLiveIff.mpr hNotStopped
    · exact hCount hSmall
    · exact (hTimes _).trans (by rw [inboxList, List.head?_map])
    · exact (hTimes _).trans (by rw [inboxList, List.getLast?_map])
    · cases he : (entriesAt db (.receiveQ d)).head? with
      | none => simp
      | some e =>
        have hLe : UInt64.ofNat (e.id.ms / 1000) ≤ clock.now := by
          rw [UInt64.le_iff_toNat_le, toNat_seconds]
          exact hPast e he
        simp only [Option.map_some, UInt64.toNat_sub_of_le _ _ hLe, Option.some.injEq]
        have := UInt64.le_iff_toNat_le.mp hLe
        omega

end

def sampleShared : SharedData where
  env := sampleEnvironment
  crates := ideal id
  mediatorDid := "did:example:mediator"
  valueError := fun type _ => "invalid type: null, expected struct " ++ type

def helloTime : Clock := ⟨1700000010, "status-1", by decide⟩

def aliceSession : Common.Session := Common.Session.authenticated sampleEnvironment "s" "did:example:alice"

/-- Alice is registered, and her delivery is started. -/
def aliceLive : Db :=
  MediatorCall.run sampleEnvironment (.registry "m" (.startLive aliceHash))
    (MediatorCall.run sampleEnvironment (.registry "m" (.register aliceHash)) helloStored)

theorem helloToAlice_queues :
    (MediatorCall.database helloToAlice).Queues sampleEnvironment fun _ => none := by
  change accepts (xadd (.receiveQ aliceHash) "1700000000100" []) (fun _ : Key => none) = true
  decide

theorem aliceLive_reachable : (queueingCalls sampleEnvironment).Reachable aliceLive :=
  .step (l := .registry "m" (.startLive aliceHash))
    (.step (l := .registry "m" (.register aliceHash))
      (.step (l := .database helloToAlice) (.init rfl) ⟨helloToAlice_queues, rfl⟩) ⟨trivial, rfl⟩)
    ⟨trivial, rfl⟩

theorem status_reply_agrees_hello :
    StatusReplyAgrees sampleShared (fun _ => 0) helloTime aliceSession aliceHash aliceLive := by
  have hIff := @status_reply_agrees_iff sampleShared (fun _ => 0) helloTime aliceSession aliceLive
    "did:example:alice" aliceLive_reachable
  refine hIff.mpr ⟨?_, by decide, ?_⟩
  · have hRow : field aliceLive .globalStreaming aliceHash = some "m:TRUE" := by decide
    intro row hField
    cases hRow.symm.trans hField
    exact ⟨"m", by decide⟩
  · have hFirst : (entriesAt aliceLive (.receiveQ aliceHash)).head?.map (·.id.ms) = some 1700000000100 := by
      decide
    intro e he
    rw [Option.mem_def] at he
    change Option.map _ (entriesAt aliceLive (.receiveQ aliceHash)).head? = _ at hFirst
    have hMs : e.id.ms = 1700000000100 := by
      have := congrArg (Option.map (·.id.ms)) he
      exact (Option.some.inj (hFirst.symm.trans this)).symm
    rw [hMs]
    decide

/-- Alice is registered, but her delivery is not started. -/
def aliceRegistered : Db :=
  MediatorCall.run sampleEnvironment (.registry "m" (.register aliceHash)) helloStored

/-- The reply says that alice receives live. -/
theorem status_reply_disagrees :
    (mediatorCalls sampleEnvironment).Reachable aliceRegistered ∧
      ¬ StatusReplyAgrees sampleShared (fun _ => 0) helloTime aliceSession aliceHash aliceRegistered := by
  refine ⟨.step (l := .registry "m" (.register aliceHash)) (.step (l := .database helloToAlice) (.init rfl) rfl) rfl,
    fun hAgrees => ?_⟩
  have hReachable : (queueingCalls sampleEnvironment).Reachable aliceRegistered :=
    .step (l := .registry "m" (.register aliceHash))
      (.step (l := .database helloToAlice) (.init rfl) ⟨helloToAlice_queues, rfl⟩) ⟨trivial, rfl⟩
  have hShaped := (counted_of_reachable hReachable).2.shaped
  have hStatus := (@statusReplyAgrees_iff sampleShared _ _ _ _ "did:example:alice" hShaped).mp hAgrees
  rw [MessagePickup.readStatus_statusResponse] at hStatus
  have hRow : field aliceRegistered .globalStreaming aliceHash = some "m:FALSE" := by decide
  obtain ⟨uuid, db', hRun⟩ := hStatus.liveDelivery.mp (congrArg Option.isSome hRow)
  rw [DatabaseHandler.streamingIsClientLive_eq] at hRun
  change EStateM.Result.ok ((field aliceRegistered .globalStreaming aliceHash).bind _) _ = _ at hRun
  rw [hRow] at hRun
  injection hRun with hUuid
  have hStopped : (some "m:FALSE").bind (DatabaseHandler.liveRow · false) = none := by decide
  cases hStopped.symm.trans hUuid

end AffinidiMessaging.Mediator
