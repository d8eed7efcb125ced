import AffinidiMessaging.Mediator.Soundness

/-! # Messages stay with their receivers

Calls made by others leave a stored message to its receiver, as long as none of them
stores its digest for somebody else.
-/

namespace AffinidiMessaging.Mediator

open Redis Text Fallible Transition

/-- A call of the handler, whatever comes of it. -/
inductive DatabaseCall
  | storeMessage (time : ServerTime) (sessionId : String) (message : PackedMessage) (toDid : String)
    (fromDid : Option String)
  | getMessage (didHash msgId : String)
  | fetchMessages (sessionId didHash : String) (options : FetchOptions)
  | deleteMessage (sessionId didHash messageHash : String)

def DatabaseCall.run (env : Environment) : DatabaseCall → Db → Db
  | .storeMessage time sessionId message toDid fromDid =>
    stateAfter (DatabaseHandler.storeMessage env time sessionId message.text toDid fromDid)
  | .getMessage didHash msgId => stateAfter (DatabaseHandler.getMessage env didHash msgId)
  | .fetchMessages sessionId didHash options =>
    stateAfter (DatabaseHandler.fetchMessages env sessionId didHash options)
  | .deleteMessage sessionId didHash messageHash =>
    stateAfter (DatabaseHandler.deleteMessage env sessionId didHash messageHash)

/-- Any calls in any order on an empty database. -/
def databaseCalls (env : Environment) : System Db DatabaseCall where
  init db := db = fun _ => none
  step db call db' := db' = call.run env db

/-- Keys and owners of metadata are digests. -/
def Digested (db : Db) : Prop :=
  ∀ h fields, db (.msgMeta h) = some (.hash fields) →
    h.utf8ByteSize = 64 ∧ ∀ a, fields.lookup "TO" = some a → a.utf8ByteSize = 64

/-- What one call does to a sound database: to messages it does not store or own, nothing. -/
structure Outcome (touches : String → Prop) (db db' : Db) : Prop where
  sound : Sound db'
  digested : Digested db'
  others : ∀ h, ¬ touches h → db' (.msg h) = db (.msg h) ∧ db' (.msgMeta h) = db (.msgMeta h)

namespace Outcome

variable {touches : String → Prop} {db db' : Db}

theorem refl (hdb : Sound db) (hDigests : Digested db) : Outcome touches db db :=
  ⟨hdb, hDigests, fun _ _ => ⟨rfl, rfl⟩⟩

theorem trans {db'' : Db} (h : Outcome touches db db') (h' : Outcome touches db' db'') :
    Outcome touches db db'' where
  sound := h'.sound
  digested := h'.digested
  others x hx := ⟨((h'.others x hx).1).trans (h.others x hx).1,
    ((h'.others x hx).2).trans (h.others x hx).2⟩

theorem mono {touches' : String → Prop} (h : Outcome touches db db')
    (hMono : ∀ x, touches x → touches' x) : Outcome touches' db db' where
  sound := h.sound
  digested := h.digested
  others x hx := h.others x fun hTouch => hx (hMono x hTouch)

end Outcome

namespace DatabaseHandler

variable (env : Environment) {db : Db}

theorem size_nonneg {message : String} (hSmall : message.utf8ByteSize < 2 ^ 53) :
    ∀ i, parseI64 (LuaNumber.integer message.utf8ByteSize).text = some i → 0 ≤ i := by
  intro i hi
  rw [LuaNumber.text, parseI64_toString (inI64_of_small hSmall).1] at hi
  cases hi
  exact Int.natCast_nonneg _

theorem grows_of_records_error {env : Environment} {time : ServerTime} {message toDid : String}
    {fromDid : Option String} {db' : Db} {e : RedisError} (hdb : Shaped db)
    (hSmall : message.utf8ByteSize < 2 ^ 53) (h : records env time message toDid fromDid db = .error e db') :
    Grows db db' :=
  (Grows.storeRecords (size_nonneg hSmall) _ _ _ _ _ _ _ db (Grows.refl hdb)).2 _ _ h

theorem storeMessage_outcome (hdb : Sound db) (hDigests : Digested db) {message : String}
    (hMessage : message ≠ "") (time : ServerTime) (sessionId toDid : String) (fromDid : Option String) :
    Outcome (· = env.digest message) db
      (stateAfter (storeMessage env time sessionId message toDid fromDid) db) := by
  rcases storeMessage_cases env time sessionId message toDid fromDid db with
    ⟨e, hRun⟩ | ⟨hSmall, ⟨answer, db', hRecords, hRun⟩ | ⟨e, e', db', hRecords, hRun⟩⟩
  · rw [stateAfter_of_error hRun]
    exact .refl hdb hDigests
  · rw [stateAfter_of_ok hRun]
    have hShaped : Shaped db' :=
      (Grows.storeRecords (size_nonneg hSmall) _ _ _ _ _ _ _ db (Grows.refl hdb.shaped)).1 _ _ hRecords
    obtain ⟨-, id, hStored⟩ := storeMessage_effect hRun
    have hPositive : 0 < message.utf8ByteSize :=
      Nat.pos_of_ne_zero fun hZero => hMessage (String.utf8ByteSize_eq_zero_iff.mp hZero)
    refine ⟨hdb.stored hShaped hPositive hSmall hStored, ?_, ?_⟩
    · intro x fields hx
      by_cases hHash : x = env.digest message
      · subst hHash
        obtain ⟨id', -, -, hTo⟩ := hdb.metadata_stored hSmall hStored hx
        refine ⟨env.digest_size message, fun a ha => ?_⟩
        rw [hTo, Option.some.injEq] at ha
        exact ha ▸ env.digest_size toDid
      · rw [hStored.others (.msgMeta x) trivial (by simp) (by simpa using hHash)] at hx
        exact hDigests x fields hx
    · intro x hx
      exact ⟨hStored.others _ trivial (by simpa using hx) (by simp),
        hStored.others _ trivial (by simp) (by simpa using hx)⟩
  · rw [stateAfter_of_error hRun]
    have hGrows := grows_of_records_error hdb.shaped hSmall hRecords
    refine ⟨hdb.grows hGrows, ?_, ?_⟩
    · intro x fields hx
      rw [hGrows.metadata] at hx
      exact hDigests x fields hx
    · intro x hx
      have hMsg : Untouched (.msg x) (records env time message toDid fromDid) := by
        refine (Untouched.set (by simpa using hx) _).bind fun _ => ?_
        refine (Untouched.hincrby (by simp) _ _).bind fun _ => ?_
        refine (Untouched.hincrby (by simp) _ _).bind fun _ => ?_
        refine (Untouched.rpush (by simp) _).bind fun _ => ?_
        refine (untouched_enqueue (by simp) (by simp) _ _ _ _ _).bind fun _ => ?_
        refine (untouched_storeSender _ (by simp) _ _ _ _).bind fun _ => ?_
        exact (untouched_storeMetadata (by simp) _ _ _ _ _).bind fun _ => .pure _
      exact ⟨hMsg.of_error hRecords, hGrows.metadata x⟩

/-- What a request to delete finds: nothing of the requester's, or a message it takes out. -/
theorem deleteMessage_sound (hdb : Sound db) (sessionId didHash messageHash : String) :
    (∃ e, deleteMessage env sessionId didHash messageHash db = .error e db) ∨
      ∃ fields n id db', db (.msgMeta messageHash) = some (.hash fields) ∧
        Metadata fields n id ∧
        (fields.lookup "TO" = some didHash ∨ fields.lookup "FROM" = some didHash) ∧
        Deleted messageHash fields n id db db' ∧ Sound db' ∧
        deleteMessage env sessionId didHash messageHash db = .ok () db' := by
  rcases deleteMessage_cases env sessionId didHash messageHash db with hRefused |
    ⟨fields, bytes, hFields, hOwner, hBytes, hRun⟩
  · exact .inl hRefused
  · right
    have hMeta := eq_hash_of_lookup hFields hBytes
    obtain ⟨-, n, id, d, hMetadata, hTo, -⟩ := hdb.kept _ _ hMeta
    obtain ⟨db', hOk, hdb'⟩ := deleteOwned_ok env.strtod hdb hMeta hMetadata (by simp [hTo])
    rw [hMetadata.bytes, Option.some.injEq] at hBytes
    subst hBytes
    rcases hRun with ⟨db₁, hOwned, hRun⟩ | ⟨e, e', db₁, hOwned, -⟩
    · rw [hOk] at hOwned
      cases hOwned
      exact ⟨fields, n, id, db', hMeta, hMetadata, hOwner, deleteOwned_effect hMetadata hOk, hdb',
        hRun⟩
    · rw [hOk] at hOwned
      cases hOwned

theorem deleteMessage_outcome (hdb : Sound db) (hDigests : Digested db)
    (sessionId didHash messageHash : String) :
    Outcome (fun x => x = messageHash ∧
        (field db (.msgMeta x) "TO" = some didHash ∨ field db (.msgMeta x) "FROM" = some didHash)) db
      (stateAfter (deleteMessage env sessionId didHash messageHash) db) := by
  rcases deleteMessage_sound env hdb sessionId didHash messageHash with ⟨e, hRun⟩ |
    ⟨fields, n, id, db', hMeta, -, hOwner, hDeleted, hdb', hRun⟩
  · rw [stateAfter_of_error hRun]
    exact .refl hdb hDigests
  · rw [stateAfter_of_ok hRun]
    have hOther : ∀ x, x ≠ messageHash →
        db' (.msg x) = db (.msg x) ∧ db' (.msgMeta x) = db (.msgMeta x) := fun x hx =>
      ⟨hDeleted.others _ trivial (by simpa using hx) (by simp),
        hDeleted.others _ trivial (by simp) (by simpa using hx)⟩
    refine ⟨hdb', ?_, ?_⟩
    · intro x fields' hx
      have hHash : x ≠ messageHash := by
        rintro rfl
        simp [hDeleted.metadata] at hx
      rw [(hOther x hHash).2] at hx
      exact hDigests x fields' hx
    · intro x hx
      refine hOther x ?_
      rintro rfl
      exact hx ⟨rfl, by simpa [field, hMeta] using hOwner⟩

theorem deleteMessage_owner (hdb : Sound db) (hDigests : Digested db) {h a : String} {fields : Fields}
    (hMeta : db (.msgMeta h) = some (.hash fields))
    (hOwner : fields.lookup "TO" = some a ∨ fields.lookup "FROM" = some a)
    (ha : a.utf8ByteSize ≤ protoMaxBulkLen) (sessionId : String) :
    ∃ bytes db', fields.lookup "BYTES" = some bytes ∧
      deleteOwned env.strtod h fields bytes db = .ok "OK" db' ∧
      deleteMessage env sessionId a h db = .ok () db' := by
  obtain ⟨-, n, id, d, hMetadata, hTo, -⟩ := hdb.kept h fields hMeta
  obtain ⟨db', hOwned, -⟩ := deleteOwned_ok env.strtod hdb hMeta hMetadata (by simp [hTo])
  have hArgs : ([h] ++ [a]).all (·.utf8ByteSize ≤ protoMaxBulkLen) = true := by
    have hHash := (hDigests h fields hMeta).1
    unfold protoMaxBulkLen at ha ⊢
    simp only [List.cons_append, List.nil_append, List.all_cons, List.all_nil, Bool.and_true,
      Bool.and_eq_true, decide_eq_true_eq]
    omega
  have hGet : hgetall (.msgMeta h) db = .ok fields db :=
    (ofKey_ok_iff _ _ _ _ _).mpr ⟨by rw [hMeta]; rfl, rfl⟩
  have hCall : fcall (Mediator.deleteMessage env.strtod) [h] [a] db = .ok "OK" db' := by
    rw [fcall, if_pos hArgs]
    refine (bind_of_ok hGet).trans ?_
    rw [deleteChecked, if_neg (by tauto), hMetadata.bytes]
    exact hOwned
  exact ⟨_, db', hMetadata.bytes, hOwned, bind_of_ok (query_of_ok hCall)⟩

theorem deleteMessage_ok (hdb : Sound db) (hDigests : Digested db) {h a : String} {fields : Fields}
    (hMeta : db (.msgMeta h) = some (.hash fields)) (hTo : fields.lookup "TO" = some a)
    (sessionId : String) : ∃ db', deleteMessage env sessionId a h db = .ok () db' := by
  have ha : a.utf8ByteSize ≤ protoMaxBulkLen := by
    rw [(hDigests h fields hMeta).2 a hTo]
    decide
  obtain ⟨bytes, db', -, -, hRun⟩ := deleteMessage_owner env hdb hDigests hMeta (.inl hTo) ha sessionId
  exact ⟨db', hRun⟩

theorem keeps_query {I : Db → Prop} {α : Type} {c : Script α} (hc : Keeps I c)
    (sessionId context : String) : Keeps I (query env sessionId context c) := by
  intro db hdb
  constructor
  · intro a db' hRun
    exact (hc db hdb).1 a db' (query_ok_iff.mp hRun)
  · intro e db' hRun
    cases h : c db with
    | ok a db₁ =>
      rw [query_of_ok h] at hRun
      cases hRun
    | error e' db₁ =>
      rw [query_of_error h] at hRun
      cases hRun
      exact (hc db hdb).2 e' db' h

/-- The transaction on the statistics is discarded. -/
theorem keeps_updateSendStats {I : Db → Prop} (n : Nat) : Keeps I (updateSendStats n) :=
  Keeps.throw _

theorem keeps_getMessage {I : Db → Prop} (didHash msgId : String) :
    Keeps I (getMessage env didHash msgId) := by
  refine Keeps.bind (keeps_query env ?_ _ _) fun answer => ?_
  · exact (keeps_ofKey _ _).bind fun _ => (keeps_ofKey _ _).bind fun _ => .pure _
  · split
    · exact .throw _
    · unfold deliver
      split
      · exact (Keeps.attempt (keeps_query env (keeps_updateSendStats _) _ _)).bind fun _ => .pure _
      · exact .throw _

/-- The metadata decide about the addresses of a message, not about its body. -/
theorem listElement_fields {fields : Fields} (h : (fields.map Prod.fst).Nodup) (msgId body : String) :
    (listElement msgId body fields).msg = some body ∧
      (listElement msgId body fields).toAddress = fields.lookup "TO" ∧
      (listElement msgId body fields).fromAddress = fields.lookup "FROM" := by
  have hElim : ∀ o : Option String, o.elim none some = o := fun o => by cases o <;> rfl
  refine ⟨foldl_keeps (fun m p => ?_) fields _, ?_, ?_⟩
  · unfold getField
    split <;> rfl
  · refine (foldl_fields (fun m v => rfl) (fun m g v hg => ?_) h _).trans (hElim _)
    unfold getField
    split <;> first | rfl | contradiction
  · refine (foldl_fields (fun m v => rfl) (fun m g v hg => ?_) h _).trans (hElim _)
    unfold getField
    split <;> first | rfl | contradiction

theorem getMessage_ok (hdb : Sound db) {h a body : String} {fields : Fields}
    (hMsg : db (.msg h) = some (.string body)) (hMeta : db (.msgMeta h) = some (.hash fields))
    (hTo : fields.lookup "TO" = some a) :
    ∃ message db', getMessage env a h db = .ok message db' ∧ message.msg = some body := by
  have hNodup : (fields.map Prod.fst).Nodup := hdb.shaped _ _ hMeta
  obtain ⟨hBody, hAddress, -⟩ := listElement_fields hNodup h body
  rw [hTo] at hAddress
  have hGet : get (.msg h) db = .ok (some body) db :=
    (ofKey_ok_iff _ _ _ _ _).mpr ⟨by rw [hMsg]; rfl, rfl⟩
  have hGetAll : hgetall (.msgMeta h) db = .ok fields db :=
    (ofKey_ok_iff _ _ _ _ _).mpr ⟨by rw [hMeta]; rfl, rfl⟩
  have hRead : readMessage h db = .ok (some body, fields) db := by
    rw [readMessage, bind_of_ok hGet, bind_of_ok hGetAll]
    rfl
  refine ⟨listElement h body fields, db, ?_, hBody⟩
  rw [getMessage, bind_of_ok (query_of_ok hRead)]
  have hAllowed : a = (listElement h body fields).fromAddress.getD "" ∨
      a = (listElement h body fields).toAddress.getD "" :=
    .inr (by rw [hAddress]; rfl)
  change deliver env a (listElement h body fields) db = _
  rw [deliver, if_pos hAllowed]
  rfl

theorem keeps_fetchElements {I : Db → Prop} (entries : List StreamEntry) :
    Keeps I (fetchElements entries) := by
  induction entries with
  | nil => exact .pure _
  | cons entry rest ih =>
    refine Keeps.bind ?_ fun _ => ih.bind fun _ => .pure _
    unfold fetchElement
    split
    · exact (keeps_ofKey _ _).bind fun _ => (keeps_ofKey _ _).bind fun _ => .pure _
    · exact .throw _

theorem keeps_notNil {I : Db → Prop} {α : Type} (o : Option α) (text : String) :
    Keeps I (notNil o text) := by
  cases o with
  | none => exact .throw _
  | some a => exact .pure a

/-- The first call of `fetch_messages`. -/
def readPage (didHash : String) (options : FetchOptions) : Handler (List (List String)) :=
  query env "NA" "Couldn't fetch_messages() from database: "
    (fcall Mediator.fetchMessages [didHash] [options.startId.getD "-", options.limit.repr])

theorem keeps_readPage {I : Db → Prop} (didHash : String) (options : FetchOptions) :
    Keeps I (readPage env didHash options) := by
  refine keeps_query env ?_ _ _
  unfold fcall
  split
  · refine (keeps_notNil _ _).bind fun _ => (keeps_ofKey _ _).bind fun _ => ?_
    exact (keeps_notNil _ _).bind fun _ => keeps_fetchElements _
  · exact .throw _

theorem keeps_fetchMessages {I : Db → Prop} {sessionId didHash : String}
    (hDelete : ∀ id, Keeps I (deleteMessage env sessionId didHash id)) (options : FetchOptions) :
    Keeps I (fetchMessages env sessionId didHash options) := by
  have hAll : ∀ results messages,
      Keeps I (fetchAll env sessionId didHash options.deletePolicy results messages) := by
    intro results
    induction results with
    | nil => exact fun messages => .pure messages
    | cons subItem rest ih =>
      intro messages
      refine Keeps.bind ?_ fun messages => ih messages
      unfold fetchOne
      split
      · exact (Keeps.attempt (hDelete _)).bind fun outcome => .pure _
      · exact .pure _
  exact (keeps_readPage env didHash options).bind fun results => hAll results {}

/-- Every element of the answer is reported, whatever becomes of the deletes. -/
theorem fetchAll_ok (sessionId didHash : String) (policy : FetchDeletePolicy)
    (results : List (List String)) (messages : GetMessagesResponse) (db : Db) :
    ∃ response db', fetchAll env sessionId didHash policy results messages db = .ok response db' ∧
      response.success = messages.success ++ results.map fetched := by
  induction results generalizing messages db with
  | nil => exact ⟨messages, db, rfl, by simp⟩
  | cons subItem rest ih =>
    obtain ⟨messages', db', hOne, hSuccess⟩ : ∃ messages' db',
        fetchOne env sessionId didHash policy subItem messages db = .ok messages' db' ∧
          messages'.success = messages.success ++ [fetched subItem] := by
      cases policy with
      | optimistic =>
        obtain ⟨outcome, db', hAttempt⟩ := attempt_ok
          (deleteMessage env sessionId didHash (fetched subItem).msgId) db
        refine ⟨_, db', bind_of_ok hAttempt, ?_⟩
        cases outcome <;> rfl
      | onReceive => exact ⟨_, db, rfl, rfl⟩
      | doNotDelete => exact ⟨_, db, rfl, rfl⟩
    obtain ⟨response, db'', hAll, hRest⟩ := ih messages' db'
    refine ⟨response, db'', ?_, ?_⟩
    · rw [fetchAll, bind_of_ok hOne]
      exact hAll
    · rw [hRest, hSuccess, List.map_cons]
      simp

theorem fetchElement_ok (hdb : Sound db) {entry : StreamEntry}
    (hEntry : ∃ h bytes other, entry.fields = [("MSG_ID", h), ("BYTES", bytes), other]) :
    ∃ element, fetchElement entry db = .ok element db ∧
      ∀ h body, entry.fields.lookup "MSG_ID" = some h → db (.msg h) = some (.string body) →
        ∃ fromDid metadata,
          element = flatElement entry.id.text "MSG_ID" h fromDid (some body) metadata := by
  obtain ⟨h, bytes, ⟨name, fromDid⟩, hFields⟩ := hEntry
  obtain ⟨o, ho⟩ := hdb.shaped.body h
  obtain ⟨metadata, hMetadata, -⟩ := hdb.shaped.metadata h
  have hGet : get (.msg h) db = .ok o db := (ofKey_ok_iff _ _ _ _ _).mpr ⟨ho, rfl⟩
  have hGetAll : hgetall (.msgMeta h) db = .ok metadata db :=
    (ofKey_ok_iff _ _ _ _ _).mpr ⟨hMetadata, rfl⟩
  refine ⟨flatElement entry.id.text "MSG_ID" h fromDid o metadata, ?_, ?_⟩
  · rw [fetchElement, hFields]
    refine (bind_of_ok hGet).trans ?_
    rw [bind_of_ok hGetAll]
    rfl
  · intro h' body hMsgId hMsg
    rw [hFields, List.lookup_cons_self, Option.some.injEq] at hMsgId
    subst hMsgId
    rw [hMsg] at ho
    cases ho
    exact ⟨fromDid, metadata, rfl⟩

theorem fetchElements_ok (hdb : Sound db) {entries : List StreamEntry}
    (hEntries : ∀ e ∈ entries, ∃ h bytes other,
      e.fields = [("MSG_ID", h), ("BYTES", bytes), other]) :
    ∃ elements, fetchElements entries db = .ok elements db ∧
      ∀ e ∈ entries, ∀ h body, e.fields.lookup "MSG_ID" = some h →
        db (.msg h) = some (.string body) → ∃ id fromDid metadata,
          flatElement id "MSG_ID" h fromDid (some body) metadata ∈ elements := by
  induction entries with
  | nil => exact ⟨[], rfl, by simp⟩
  | cons entry rest ih =>
    obtain ⟨element, hOne, hElement⟩ := fetchElement_ok hdb (hEntries entry List.mem_cons_self)
    obtain ⟨elements, hRest, hElements⟩ := ih fun e he => hEntries e (List.mem_cons_of_mem _ he)
    refine ⟨element :: elements, ?_, ?_⟩
    · rw [fetchElements, bind_of_ok hOne, bind_of_ok hRest]
      rfl
    · intro e he h body hMsgId hMsg
      rcases List.mem_cons.mp he with rfl | he
      · obtain ⟨fromDid, metadata, rfl⟩ := hElement h body hMsgId hMsg
        exact ⟨_, fromDid, metadata, List.mem_cons_self⟩
      · obtain ⟨id, fromDid, metadata, hMem⟩ := hElements e he h body hMsgId hMsg
        exact ⟨id, fromDid, metadata, List.mem_cons_of_mem _ hMem⟩

theorem fetchedField_metadata (message : MessageListElement) (k v : String) :
    (fetchedField message ("META_" ++ k) v).msgId = message.msgId ∧
      (fetchedField message ("META_" ++ k) v).msg = message.msg := by
  have hHead : ("META_" ++ k).toList.head? = some 'M' ∧ ("META_" ++ k).toList[1]? = some 'E' := by
    simp [String.toList_append]
  unfold fetchedField
  split
  all_goals first
    | exact ⟨rfl, rfl⟩
    | (rename_i hName; rw [hName] at hHead; exact absurd hHead (by decide))

theorem tuples_metadata (metadata : Fields) :
    tuples (metadata.flatMap fun p => ["META_" ++ p.1, p.2]) =
      metadata.map fun p => ("META_" ++ p.1, p.2) := by
  induction metadata with
  | nil => rfl
  | cons p rest ih =>
    rw [List.flatMap_cons, List.map_cons, ← ih]
    rfl

/-- A message with a body is read from its own fields and then from its metadata. -/
theorem fetched_eq_foldl (id h fromDid body : String) (metadata : Fields) :
    fetched (flatElement id "MSG_ID" h fromDid (some body) metadata) =
      (metadata.map fun p => ("META_" ++ p.1, p.2)).foldl
        (fun message p => fetchedField message p.1 p.2)
        { msgId := h, fromAddress := some fromDid, msg := some body } := by
  rw [← tuples_metadata]
  rfl

theorem fetched_flatElement (id h fromDid body : String) (metadata : Fields) :
    (fetched (flatElement id "MSG_ID" h fromDid (some body) metadata)).msgId = h ∧
      (fetched (flatElement id "MSG_ID" h fromDid (some body) metadata)).msg = some body := by
  rw [fetched_eq_foldl, List.foldl_map]
  exact ⟨foldl_keeps (fun m p => (fetchedField_metadata m p.1 p.2).1) metadata _,
    foldl_keeps (fun m p => (fetchedField_metadata m p.1 p.2).2) metadata _⟩

/-- A receiver who asks for the whole queue gets every message that is there. -/
theorem fetchMessages_ok (hdb : Sound db) (hDigests : Digested db) {h a body : String}
    {fields : Fields} (hMsg : db (.msg h) = some (.string body))
    (hMeta : db (.msgMeta h) = some (.hash fields)) (hTo : fields.lookup "TO" = some a)
    (sessionId : String) {options : FetchOptions} (hStart : options.startId = none)
    (hLimit : (entriesAt db (.receiveQ a)).length ≤ options.limit) (hSize : options.limit < 2 ^ 63) :
    ∃ response db', fetchMessages env sessionId a options db = .ok response db' ∧
      ∃ message ∈ response.success, message.msgId = h ∧ message.msg = some body := by
  obtain ⟨-, n, id, d, -, hTo', e, he, -, hMsgId⟩ := hdb.kept h fields hMeta
  rw [hTo] at hTo'
  cases hTo'
  obtain ⟨s, hs, hShape⟩ := hdb.shaped.queue .receive a
  have hEntries : s.entries = entriesAt db (.receiveQ a) := entries_of_asStream hs
  have hPos : 0 < options.limit := lt_of_lt_of_le (List.length_pos_of_mem he) hLimit
  have hArgs : ([a] ++ [options.startId.getD "-", options.limit.repr]).all
      (·.utf8ByteSize ≤ protoMaxBulkLen) = true := by
    have hLength : options.limit.repr.length ≤ 19 := by
      rw [Nat.length_repr_le_iff (by decide)]
      omega
    have hRepr : options.limit.repr.utf8ByteSize ≤ 76 := by
      have := utf8ByteSize_le options.limit.repr
      omega
    have hDash : "-".utf8ByteSize = 1 := by decide
    rw [List.all_eq_true]
    intro arg hArg
    rw [hStart] at hArg
    simp only [List.cons_append, List.nil_append, Option.getD_none, List.mem_cons,
      List.not_mem_nil, or_false] at hArg
    have hOwner := (hDigests h fields hMeta).2 a hTo
    rw [decide_eq_true_eq, protoMaxBulkLen]
    rcases hArg with rfl | rfl | rfl <;> omega
  have hCount : parseI64 options.limit.repr = some (options.limit : Int) :=
    parseI64_toString (n := (options.limit : Int)) (by unfold inI64; omega)
  have hRange : xrange (.receiveQ a) "-" options.limit.repr db = .ok (some s.entries) db := by
    refine (ofKey_ok_iff _ _ _ _ _).mpr ⟨?_, rfl⟩
    have hStream : asStream (db (.receiveQ a)) = .ok s := hs
    have hTake : s.entries.take options.limit = s.entries :=
      List.take_of_length_le (by rw [hEntries]; exact hLimit)
    simp [hCount, okOr, hStream, fromStart, bind, Except.bind, pure, Except.pure, hTake,
      Nat.pos_iff_ne_zero.mp hPos]
  obtain ⟨elements, hElements, hAll⟩ := fetchElements_ok hdb hShape.entry
  have hCall : fcall Mediator.fetchMessages [a] [options.startId.getD "-", options.limit.repr] db =
      .ok elements db := by
    rw [fcall, if_pos hArgs, hStart]
    exact (bind_of_ok hRange).trans hElements
  obtain ⟨response, db', hRun, hSuccess⟩ := fetchAll_ok env sessionId a options.deletePolicy elements
    {} db
  rw [← hEntries] at he
  obtain ⟨id', fromDid, metadata, hMem⟩ := hAll e he h body hMsgId hMsg
  refine ⟨response, db', (bind_of_ok (query_of_ok hCall)).trans hRun,
    fetched (flatElement id' "MSG_ID" h fromDid (some body) metadata), ?_,
    fetched_flatElement id' h fromDid body metadata⟩
  rw [hSuccess]
  exact List.mem_append_right _ (List.mem_map.mpr ⟨_, hMem, rfl⟩)

end DatabaseHandler

/-- The receiver or the sender that the metadata names. -/
def Owns (db : Db) (didHash h : String) : Prop :=
  field db (.msgMeta h) "TO" = some didHash ∨ field db (.msgMeta h) "FROM" = some didHash

/-- The messages a call can change: the one it stores, or those its requester owns. -/
def DatabaseCall.Touches (env : Environment) (db : Db) : DatabaseCall → String → Prop
  | .storeMessage _ _ message _ _, h => h = env.digest message.text
  | .getMessage _ _, _ => False
  | .fetchMessages _ didHash _, h => Owns db didHash h
  | .deleteMessage _ didHash _, h => Owns db didHash h

theorem DatabaseCall.outcome (env : Environment) {db : Db} (hdb : Sound db)
    (hDigests : Digested db) (call : DatabaseCall) :
    Outcome (call.Touches env db) db (call.run env db) := by
  cases call with
  | storeMessage time sessionId message toDid fromDid =>
    exact DatabaseHandler.storeMessage_outcome env hdb hDigests message.nonempty time sessionId toDid
      fromDid
  | getMessage didHash msgId =>
    exact (DatabaseHandler.keeps_getMessage env didHash msgId).stateAfter (.refl hdb hDigests)
  | deleteMessage sessionId didHash messageHash =>
    exact (DatabaseHandler.deleteMessage_outcome env hdb hDigests sessionId didHash messageHash).mono
      fun _ h => h.2
  | fetchMessages sessionId didHash options =>
    refine (DatabaseHandler.keeps_fetchMessages env (fun id => ?_) options).stateAfter
      (.refl hdb hDigests)
    refine Keeps.of_stateAfter fun db' h => h.trans ?_
    refine (DatabaseHandler.deleteMessage_outcome env h.sound h.digested sessionId didHash id).mono ?_
    rintro x ⟨-, hOwns⟩
    by_contra hNot
    -- a message the fetch cannot touch still has the metadata it had
    have hMeta := (h.others x hNot).2
    rw [field_congr hMeta, field_congr hMeta] at hOwns
    exact hNot hOwns

theorem sound_of_reachable {env : Environment} {db : Db} (h : (databaseCalls env).Reachable db) :
    Sound db ∧ Digested db := by
  refine System.Invariant.holds (I := fun db => Sound db ∧ Digested db) ⟨?_, ?_⟩ h
  · rintro db rfl
    exact ⟨.empty, by simp [Digested]⟩
  · rintro db call db' ⟨hdb, hDigests⟩ rfl
    have hOutcome := call.outcome env hdb hDigests
    exact ⟨hOutcome.sound, hOutcome.digested⟩

/-- What a delete keeps of a sound database, every call keeps that is not a store. -/
theorem DatabaseCall.run_keeps (env : Environment) {I : Db → Prop}
    (hDeleted : ∀ {db db' h fields n id}, I db → Sound db → db (.msgMeta h) = some (.hash fields) →
      Metadata fields n id → Deleted h fields n id db db' → I db')
    {db : Db} (hdb : I db) (hSound : Sound db) (hDigests : Digested db) {call : DatabaseCall}
    (hStored : ∀ time sessionId message toDid fromDid,
      call = .storeMessage time sessionId message toDid fromDid → I (call.run env db)) :
    I (call.run env db) := by
  have hDelete : ∀ sessionId didHash messageHash, Keeps (fun db => I db ∧ Sound db ∧ Digested db)
      (DatabaseHandler.deleteMessage env sessionId didHash messageHash) := by
    intro sessionId didHash messageHash
    refine Keeps.of_stateAfter fun db ⟨hdb, hSound, hDigests⟩ => ?_
    have hOutcome := DatabaseHandler.deleteMessage_outcome env hSound hDigests sessionId didHash messageHash
    refine ⟨?_, hOutcome.sound, hOutcome.digested⟩
    rcases DatabaseHandler.deleteMessage_sound env hSound sessionId didHash messageHash with ⟨e, hRun⟩ |
      ⟨fields, n, id, db', hMeta, hFields, -, hTaken, -, hRun⟩
    · rw [stateAfter_of_error hRun]
      exact hdb
    · rw [stateAfter_of_ok hRun]
      exact hDeleted hdb hSound hMeta hFields hTaken
  cases call with
  | storeMessage time sessionId message toDid fromDid => exact hStored _ _ _ _ _ rfl
  | getMessage didHash msgId => exact (DatabaseHandler.keeps_getMessage env didHash msgId).stateAfter hdb
  | fetchMessages sessionId didHash options =>
    exact ((DatabaseHandler.keeps_fetchMessages env (hDelete sessionId didHash) options).stateAfter
      ⟨hdb, hSound, hDigests⟩).1
  | deleteMessage sessionId didHash messageHash =>
    exact ((hDelete sessionId didHash messageHash).stateAfter ⟨hdb, hSound, hDigests⟩).1

/-- Message `body` is there, for `a` and from `sender`. -/
structure Holds (db : Db) (h a body : String) (sender : Option String) : Prop where
  msg : db (.msg h) = some (.string body)
  receiver : field db (.msgMeta h) "TO" = some a
  sender : field db (.msgMeta h) "FROM" = sender

theorem Holds.congr {db db' : Db} {h a body : String} {sender : Option String}
    (hHolds : Holds db h a body sender)
    (hSame : db' (.msg h) = db (.msg h) ∧ db' (.msgMeta h) = db (.msgMeta h)) :
    Holds db' h a body sender where
  msg := hSame.1.trans hHolds.msg
  receiver := (field_congr hSame.2 _).trans hHolds.receiver
  sender := (field_congr hSame.2 _).trans hHolds.sender

theorem DatabaseHandler.msg_of_records_error {env : Environment} {time : ServerTime}
    {message toDid : String} {fromDid : Option String} {db db' : Db} {e : RedisError}
    (h : records env time message toDid fromDid db = .error e db') :
    db' (.msg (env.digest message)) = some (.string message) := by
  have hSet := (set_ok_iff (.msg (env.digest message)) message db _ ()).mpr rfl
  rw [records, storeRecords, bind_of_ok hSet] at h
  have hRest : Untouched (.msg (env.digest message)) (do
      hincrby .global "RECEIVED_BYTES" (LuaNumber.integer message.utf8ByteSize).text
      hincrby .global "RECEIVED_COUNT" "1"
      storeQueues (env.digest message) (formatTime time) (.integer message.utf8ByteSize) toDid
        (env.digest toDid) (fromDid.getD "ANONYMOUS") (fromDid.map env.digest)) := by
    refine (Untouched.hincrby (by simp) _ _).bind fun _ => ?_
    refine (Untouched.hincrby (by simp) _ _).bind fun _ => ?_
    refine (Untouched.rpush (by simp) _).bind fun _ => ?_
    refine (untouched_enqueue (by simp) (by simp) _ _ _ _ _).bind fun _ => ?_
    refine (untouched_storeSender _ (by simp) _ _ _ _).bind fun _ => ?_
    exact (untouched_storeMetadata (by simp) _ _ _ _ _).bind fun _ => .pure _
  rw [hRest.of_error h, Function.update_self]

theorem DatabaseHandler.storeMessage_again (env : Environment) {db : Db} (hdb : Sound db)
    (time : ServerTime) (sessionId : String) {message toDid : String} {fromDid : Option String}
    {sender : Option String}
    (hHolds : Holds db (env.digest message) (env.digest toDid) message sender)
    (hFrom : fromDid = none ∨ fromDid.map env.digest = sender) :
    Holds (stateAfter (storeMessage env time sessionId message toDid fromDid) db)
      (env.digest message) (env.digest toDid) message sender := by
  rcases storeMessage_cases env time sessionId message toDid fromDid db with
    ⟨e, hRun⟩ | ⟨hSmall, ⟨answer, db', hRecords, hRun⟩ | ⟨e, e', db', hRecords, hRun⟩⟩
  · rwa [stateAfter_of_error hRun]
  · rw [stateAfter_of_ok hRun]
    obtain ⟨-, id, hStored⟩ := storeMessage_effect hRun
    obtain ⟨old, hOld, hNew⟩ := hStored.metadata
    have hLookup := fun side => (lookup_metadataFields (formatTime time)
      (.integer message.utf8ByteSize) (env.digest toDid) (fromDid.map env.digest) id side old).1
    refine ⟨hStored.msg, ?_, ?_⟩
    · rw [field, hNew]
      exact hLookup .receive
    · have hSender : old.lookup "FROM" = sender := by
        rw [← hHolds.sender, lookup_of_asHash hOld]
      rw [field, hNew]
      refine (hLookup .send).trans ?_
      rcases hFrom with rfl | hFrom
      · exact hSender
      · cases fromDid with
        | none => exact hSender
        | some d => exact hFrom
  · rw [stateAfter_of_error hRun]
    have hGrows := grows_of_records_error hdb.shaped hSmall hRecords
    have hMeta := hGrows.metadata (env.digest message)
    exact ⟨msg_of_records_error hRecords, (field_congr hMeta _).trans hHolds.receiver,
      (field_congr hMeta _).trans hHolds.sender⟩

/-- Calls of others that store the digest again only as a copy of the same message. -/
def DatabaseCall.Spares (env : Environment) (h a body : String) (sender : Option String) :
    DatabaseCall → Prop
  | .storeMessage _ _ message toDid fromDid => env.digest message.text = h →
    message.text = body ∧ env.digest toDid = a ∧ (fromDid = none ∨ fromDid.map env.digest = sender)
  | .getMessage didHash _ => didHash ≠ a ∧ sender ≠ some didHash
  | .fetchMessages _ didHash _ => didHash ≠ a ∧ sender ≠ some didHash
  | .deleteMessage _ didHash _ => didHash ≠ a ∧ sender ≠ some didHash

def sparingCalls (env : Environment) (h a body : String) (sender : Option String) :
    System Db DatabaseCall :=
  (databaseCalls env).restrict fun _ call => call.Spares env h a body sender

theorem Holds.not_owns {db : Db} {h a body didHash : String} {sender : Option String}
    (hHolds : Holds db h a body sender) (hSpares : didHash ≠ a ∧ sender ≠ some didHash) :
    ¬ Owns db didHash h := by
  rintro (hOwn | hOwn)
  · exact hSpares.1 (Option.some.inj (hOwn.symm.trans hHolds.receiver))
  · exact hSpares.2 (hHolds.sender.symm.trans hOwn)

/-- A sparing call leaves the message where it is. -/
theorem DatabaseCall.holds (env : Environment) {db : Db} {h a body : String}
    {sender : Option String} (hdb : Sound db) (hDigests : Digested db)
    (hHolds : Holds db h a body sender) {call : DatabaseCall}
    (hSpares : call.Spares env h a body sender) : Holds (call.run env db) h a body sender := by
  have hOthers := (call.outcome env hdb hDigests).others h
  cases call with
  | storeMessage time sessionId message toDid fromDid =>
    by_cases hHash : env.digest message.text = h
    · obtain ⟨rfl, rfl, hFrom⟩ := hSpares hHash
      subst hHash
      exact DatabaseHandler.storeMessage_again env hdb time sessionId hHolds hFrom
    · exact hHolds.congr (hOthers (Ne.symm hHash))
  | getMessage didHash msgId => exact hHolds.congr (hOthers id)
  | fetchMessages sessionId didHash options => exact hHolds.congr (hOthers (hHolds.not_owns hSpares))
  | deleteMessage sessionId didHash messageHash =>
    exact hHolds.congr (hOthers (hHolds.not_owns hSpares))

/-- The receiver can read, fetch and delete the message. -/
structure Available (env : Environment) (db : Db) (h a body : String) : Prop where
  get : ∃ message db', DatabaseHandler.getMessage env a h db = .ok message db' ∧
    message.msg = some body
  /-- A fetch of the whole queue. -/
  fetch : ∀ sessionId options, options.startId = none →
    (entriesAt db (.receiveQ a)).length ≤ options.limit → options.limit < 2 ^ 63 →
      ∃ response db', DatabaseHandler.fetchMessages env sessionId a options db = .ok response db' ∧
        ∃ message ∈ response.success, message.msgId = h ∧ message.msg = some body
  delete : ∀ sessionId, ∃ db', DatabaseHandler.deleteMessage env sessionId a h db = .ok () db'

/-- Others cannot take a stored message away, as long as they store its digest only as a copy. -/
theorem message_available (env : Environment) (db db' : Db) (h a body : String)
    (hReachable : (databaseCalls env).Reachable db) (hMsg : db (.msg h) = some (.string body))
    (hTo : field db (.msgMeta h) "TO" = some a)
    (hPath : (sparingCalls env h a body (field db (.msgMeta h) "FROM")).Path db db') :
    Available env db' h a body := by
  obtain ⟨hdb, hDigests⟩ := sound_of_reachable hReachable
  obtain ⟨hdb', hDigests', hHolds⟩ : Sound db' ∧ Digested db' ∧
      Holds db' h a body (field db (.msgMeta h) "FROM") := by
    refine hPath.keeps (J := fun s => Sound s ∧ Digested s ∧
      Holds s h a body (field db (.msgMeta h) "FROM")) ⟨hdb, hDigests, hMsg, hTo, rfl⟩ ?_
    rintro s call s' ⟨hs, hDigests, hHolds⟩ ⟨hSpares, rfl⟩
    have hOutcome := call.outcome env hs hDigests
    exact ⟨hOutcome.sound, hOutcome.digested, DatabaseCall.holds env hs hDigests hHolds hSpares⟩
  obtain ⟨fields, hMeta, hLookup⟩ := field_eq_some_iff.mp hHolds.receiver
  exact {
    get := DatabaseHandler.getMessage_ok env hdb' hHolds.msg hMeta hLookup
    fetch := fun sessionId options hStart hLimit hSize =>
      DatabaseHandler.fetchMessages_ok env hdb' hDigests' hHolds.msg hMeta hLookup sessionId hStart
        hLimit hSize
    delete := DatabaseHandler.deleteMessage_ok env hdb' hDigests' hMeta hLookup }

/-- "hello" stored for alice on an empty database. -/
def helloToAlice : DatabaseCall :=
  .storeMessage ⟨1700000000, 100000, firstUsec_lt⟩ "s" ⟨"hello", hello_nonempty⟩ "did:example:alice" none

def helloStored : Db := helloToAlice.run sampleEnvironment fun _ => none

theorem message_available_hello :
    Available sampleEnvironment
      ((DatabaseCall.deleteMessage "s" bobHash helloHash).run sampleEnvironment helloStored)
      helloHash aliceHash "hello" :=
  message_available sampleEnvironment helloStored _ helloHash aliceHash "hello"
    (.step (l := helloToAlice) (.init rfl) rfl) rfl rfl
    (.tail (l := .deleteMessage "s" bobHash helloHash) .refl ⟨⟨by decide, by decide⟩, rfl⟩)

/-- The same bytes stored for bob: alice's message is bob's. -/
theorem message_taken_away :
    (databaseCalls sampleEnvironment).Reachable helloStored ∧
      helloStored (.msg helloHash) = some (.string "hello") ∧
      field helloStored (.msgMeta helloHash) "TO" = some aliceHash ∧
      ¬ Available sampleEnvironment ((DatabaseCall.storeMessage ⟨1700000000, 200000, by decide⟩ "s"
        ⟨"hello", by decide⟩ "did:example:bob" none).run sampleEnvironment helloStored) helloHash
          aliceHash "hello" := by
  refine ⟨.step (l := helloToAlice) (.init rfl) rfl, rfl, rfl, ?_⟩
  intro hAvailable
  obtain ⟨message, db', hRun, -⟩ := hAvailable.get
  have hRefused : ∃ e db', DatabaseHandler.getMessage sampleEnvironment aliceHash helloHash
      ((DatabaseCall.storeMessage ⟨1700000000, 200000, by decide⟩ "s" ⟨"hello", by decide⟩
        "did:example:bob" none).run sampleEnvironment helloStored) = .error e db' := ⟨_, _, rfl⟩
  obtain ⟨e, db'', hError⟩ := hRefused
  rw [hError] at hRun
  cases hRun

end AffinidiMessaging.Mediator
