import AffinidiMessaging.Mediator.MessagePickup

/-! # What an acknowledgement deletes

Each message of the list goes with its metadata, its own entries and what the counters of its
queues counted of it. Everything else stays.
-/

namespace AffinidiMessaging.Mediator

open Redis Text Fallible Transition

/-- An entry names a message whose metadata point back to it. -/
def OwnEntry (db : Db) (side : Side) (d h : String) (entry : StreamEntry) : Prop :=
  entry.fields.lookup "MSG_ID" = some h ∧ field db (.msgMeta h) side.ownerField = some d ∧
    field db (.msgMeta h) side.idField = some entry.id.text

instance (db : Db) (side : Side) (d h : String) (entry : StreamEntry) :
    Decidable (OwnEntry db side d h entry) :=
  inferInstanceAs (Decidable (_ ∧ _ ∧ _))

theorem OwnEntry.congr {db db' : Db} {side : Side} {d h : String} {entry : StreamEntry}
    (hMeta : db' (.msgMeta h) = db (.msgMeta h)) :
    OwnEntry db' side d h entry ↔ OwnEntry db side d h entry := by
  rw [OwnEntry, OwnEntry, field_congr hMeta, field_congr hMeta]

/-- A text lies under its digest, and metadata that name an owner name an entry of its queue. -/
structure Booked (env : Environment) (db : Db) : Prop where
  digest : ∀ h body, db (.msg h) = some (.string body) → env.digest body = h
  entry : ∀ (side : Side) d h, field db (.msgMeta h) side.ownerField = some d →
    ∃ e ∈ entriesAt db (side.queue d), OwnEntry db side d h e

namespace Booked

variable {env : Environment} {messageHash message time : String} {n : Nat} {toDidHash : String}
  {fromDidHash : Option String} {id : Side → StreamId} {db db' : Db}

theorem stored (hdb : Booked env db) (hDigest : env.digest message = messageHash)
    (h : Stored messageHash message time (.integer n) toDidHash fromDidHash id n db db') :
    Booked env db' := by
  have hOther : ∀ x, x ≠ messageHash → db' (.msgMeta x) = db (.msgMeta x) := fun x hx =>
    h.others _ trivial (by simp) (by simpa using hx)
  have hGrown : ∀ (side : Side) d e, e ∈ entriesAt db (side.queue d) →
      e ∈ entriesAt db' (side.queue d) := by
    intro side d e he
    by_cases hOwner : owner toDidHash fromDidHash side = some d
    · obtain ⟨other, hGains⟩ := h.gains side d hOwner
      rw [hGains.entries]
      exact List.mem_append_left _ he
    · rwa [(h.same side d hOwner).entries]
  constructor
  case digest =>
    intro x body hx
    by_cases hHash : x = messageHash
    · subst hHash
      rw [h.msg] at hx
      cases hx
      exact hDigest
    · rw [h.others (.msg x) trivial (by simpa using hHash) (by simp)] at hx
      exact hdb.digest x body hx
  case entry =>
    intro side d x hx
    by_cases hHash : x = messageHash
    · subst hHash
      obtain ⟨old, hOld, hNew⟩ := h.metadata
      have hField : ∀ f, field db' (.msgMeta x) f =
          (setFields (metadataFields time (.integer n) toDidHash fromDidHash id) old).lookup f :=
        fun f => by simp [field, hNew]
      obtain ⟨hOwner, hId, -⟩ :=
        lookup_metadataFields time (.integer n) toDidHash fromDidHash id side old
      rw [hField, hOwner] at hx
      cases hSide : owner toDidHash fromDidHash side with
      | some d' =>
        rw [hSide] at hx hOwner hId
        cases hx
        obtain ⟨other, hGains⟩ := h.gains side d hSide
        refine ⟨⟨id side, [("MSG_ID", x), ("BYTES", (LuaNumber.integer n).text), other]⟩, ?_, ?_, ?_, ?_⟩
        · rw [hGains.entries]
          exact List.mem_append_right _ (List.mem_singleton_self _)
        · simp
        · rw [hField, hOwner]
          rfl
        · rw [hField, hId]
          rfl
      | none =>
        -- the side that this store does not write keeps the metadata of an earlier one
        rw [hSide] at hx hOwner hId
        rw [Option.map_none, Option.none_or] at hId
        rw [Option.none_or] at hx hOwner
        rw [lookup_of_asHash hOld] at hx hOwner hId
        obtain ⟨e, he, hMsgId, -, hIdOld⟩ := hdb.entry side d x hx
        exact ⟨e, hGrown side d e he, hMsgId, by rw [hField, hOwner, hx],
          by rw [hField, hId, hIdOld]⟩
    · rw [field_congr (hOther x hHash)] at hx
      obtain ⟨e, he, hOwn⟩ := hdb.entry side d x hx
      exact ⟨e, hGrown side d e he, (OwnEntry.congr (hOther x hHash)).mpr hOwn⟩

theorem grows (hdb : Booked env db) (h : Grows db db')
    (hMsg : ∀ x body, db' (.msg x) = some (.string body) →
      env.digest body = x ∨ db (.msg x) = some (.string body)) : Booked env db' where
  digest x body hx := (hMsg x body hx).elim id (hdb.digest x body)
  entry side d x hx := by
    rw [field_congr (h.metadata x)] at hx
    obtain ⟨e, he, hOwn⟩ := hdb.entry side d x hx
    exact ⟨e, h.entries side d e he, (OwnEntry.congr (h.metadata x)).mpr hOwn⟩

/-- The entry that a delete takes out of a queue is the message's own. -/
theorem removes_own (hdb : Booked env db) (hSound : Sound db) {fields : Fields}
    (hMeta : db (.msgMeta messageHash) = some (.hash fields)) (hFields : Metadata fields n id)
    (h : Deleted messageHash fields n id db db') (side : Side) (d : String) :
    entriesAt db' (side.queue d) =
      (entriesAt db (side.queue d)).filter fun e => ¬ OwnEntry db side d messageHash e := by
  have hField : ∀ f, field db (.msgMeta messageHash) f = fields.lookup f := fun f => by
    simp [field, hMeta]
  by_cases hOwner : fields.lookup side.ownerField = some d
  · have hId : field db (.msgMeta messageHash) side.idField = some (id side).text := by
      rw [hField, hFields.ids side, hOwner]
      rfl
    obtain ⟨e₀, he₀, hOwn₀⟩ := hdb.entry side d messageHash (by rw [hField, hOwner])
    have hId₀ : e₀.id = id side :=
      StreamId.text_injective (Option.some.inj (hOwn₀.2.2.symm.trans hId))
    rw [(h.loses side d hOwner).entries]
    apply List.filter_congr
    intro e he
    rw [decide_eq_decide, not_iff_not]
    constructor
    · intro hEq
      have hSame := eq_of_id_eq (hSound.shaped.entries side d).sorted he he₀ (hEq.trans hId₀.symm)
      rwa [hSame]
    · intro hOwn
      exact StreamId.text_injective (Option.some.inj (hOwn.2.2.symm.trans hId))
  · rw [(h.same side d hOwner).entries, eq_comm, List.filter_eq_self]
    intro e he
    rw [decide_eq_true_eq]
    rintro ⟨-, hNames, -⟩
    exact hOwner (by rw [← hField, hNames])

theorem deleted (hdb : Booked env db) (hSound : Sound db) {fields : Fields}
    (hMeta : db (.msgMeta messageHash) = some (.hash fields)) (hFields : Metadata fields n id)
    (h : Deleted messageHash fields n id db db') : Booked env db' where
  digest x body hx := by
    have hHash : x ≠ messageHash := by
      rintro rfl
      simp [h.msg] at hx
    rw [h.others (.msg x) trivial (by simpa using hHash) (by simp)] at hx
    exact hdb.digest x body hx
  entry side d x hx := by
    have hHash : x ≠ messageHash := by
      rintro rfl
      simp [field, h.metadata] at hx
    have hOther : db' (.msgMeta x) = db (.msgMeta x) :=
      h.others _ trivial (by simp) (by simpa using hHash)
    rw [field_congr hOther] at hx
    obtain ⟨e, he, hOwn⟩ := hdb.entry side d x hx
    refine ⟨e, ?_, (OwnEntry.congr hOther).mpr hOwn⟩
    rw [hdb.removes_own hSound hMeta hFields h, List.mem_filter, decide_eq_true_eq]
    exact ⟨he, fun hGone => hHash (Option.some.inj (hOwn.1.symm.trans hGone.1))⟩

end Booked

/-- What holds of a database after any calls. -/
structure WellKept (env : Environment) (db : Db) : Prop where
  sound : Sound db
  digested : Digested db
  booked : Booked env db

namespace WellKept

variable {env : Environment} {db : Db}

theorem storeMessage (hdb : WellKept env db) {message : String} (hMessage : message ≠ "")
    (time : ServerTime) (sessionId toDid : String) (fromDid : Option String) :
    WellKept env (stateAfter (DatabaseHandler.storeMessage env time sessionId message toDid fromDid) db) := by
  have hOutcome := DatabaseHandler.storeMessage_outcome env hdb.sound hdb.digested hMessage time sessionId
    toDid fromDid
  refine ⟨hOutcome.sound, hOutcome.digested, ?_⟩
  rcases DatabaseHandler.storeMessage_cases env time sessionId message toDid fromDid db with
    ⟨e, hRun⟩ | ⟨hSmall, ⟨answer, db', hRecords, hRun⟩ | ⟨e, e', db', hRecords, hRun⟩⟩
  · rw [stateAfter_of_error hRun]
    exact hdb.booked
  · rw [stateAfter_of_ok hRun]
    obtain ⟨-, id, hStored⟩ := DatabaseHandler.storeMessage_effect hRun
    exact hdb.booked.stored rfl hStored
  · rw [stateAfter_of_error hRun] at hOutcome ⊢
    have hGrows := DatabaseHandler.grows_of_records_error hdb.sound.shaped hSmall hRecords
    refine hdb.booked.grows hGrows fun x body hx => ?_
    by_cases hHash : x = env.digest message
    · subst hHash
      rw [DatabaseHandler.msg_of_records_error hRecords] at hx
      cases hx
      exact .inl rfl
    · exact .inr ((hOutcome.others x hHash).1.symm.trans hx)

theorem run (hdb : WellKept env db) (call : DatabaseCall) : WellKept env (call.run env db) := by
  have hOutcome := call.outcome env hdb.sound hdb.digested
  refine ⟨hOutcome.sound, hOutcome.digested, ?_⟩
  refine call.run_keeps env (fun hdb hSound hMeta hFields h => hdb.deleted hSound hMeta hFields h) hdb.booked
    hdb.sound hdb.digested ?_
  rintro time sessionId message toDid fromDid rfl
  exact (hdb.storeMessage message.nonempty time sessionId toDid fromDid).booked

theorem deleteMessage (hdb : WellKept env db) (sessionId didHash messageHash : String) :
    WellKept env (stateAfter (DatabaseHandler.deleteMessage env sessionId didHash messageHash) db) :=
  hdb.run (.deleteMessage sessionId didHash messageHash)

end WellKept

theorem wellKept_of_reachable {env : Environment} {db : Db}
    (h : (databaseCalls env).Reachable db) : WellKept env db := by
  apply System.Invariant.holds ⟨_, _⟩ h
  · rintro db rfl
    exact ⟨.empty, by simp [Digested], by simp, by simp [field]⟩
  · rintro db call db' hdb rfl
    exact hdb.run call

/-- What the counters of a queue counted of a message. -/
def counted (db : Db) (m : Measure) (side : Side) (d h : String) : Int :=
  if field db (.msgMeta h) side.ownerField = some d then weightAt m db h else 0

theorem counted_congr {db db' : Db} {m : Measure} {side : Side} {d h : String}
    (hMeta : db' (.msgMeta h) = db (.msgMeta h)) : counted db' m side d h = counted db m side d h := by
  rw [counted, field_congr hMeta, weightAt_congr hMeta, counted]

/-- The messages of the digests are gone, with their metadata, their own entries and what the
counters of the queues counted of them. Nothing else of messages and queues has changed. -/
structure DeletedExactly (hashes : List String) (db db' : Db) : Prop where
  messages : ∀ h, db' (.msg h) = if h ∈ hashes then none else db (.msg h)
  metadata : ∀ h, db' (.msgMeta h) = if h ∈ hashes then none else db (.msgMeta h)
  entries : ∀ (side : Side) d, entriesAt db' (side.queue d) =
    (entriesAt db (side.queue d)).filter fun e => ∀ h ∈ hashes, ¬ OwnEntry db side d h e
  counters : ∀ (m : Measure) side d, counter db' (.did d) (m.queueField side) =
    counter db (.did d) (m.queueField side) - (hashes.map (counted db m side d)).sum

namespace DeletedExactly

theorem refl (db : Db) : DeletedExactly [] db db where
  messages := by simp
  metadata := by simp
  entries := by simp
  counters := by simp

/-- One more message, deleted first. -/
theorem cons {env : Environment} {messageHash : String} {hashes : List String} {fields : Fields}
    {n : Nat} {id : Side → StreamId} {db db₁ db' : Db} (hdb : WellKept env db)
    (hMeta : db (.msgMeta messageHash) = some (.hash fields)) (hFields : Metadata fields n id)
    (h : Deleted messageHash fields n id db db₁) (hNew : messageHash ∉ hashes)
    (hRest : DeletedExactly hashes db₁ db') : DeletedExactly (messageHash :: hashes) db db' := by
  have hOther : ∀ x, x ≠ messageHash → db₁ (.msgMeta x) = db (.msgMeta x) := fun x hx =>
    h.others _ trivial (by simp) (by simpa using hx)
  have hNe : ∀ x ∈ hashes, x ≠ messageHash := by
    rintro x hx rfl
    exact hNew hx
  constructor
  case messages =>
    intro x
    rw [hRest.messages]
    by_cases hHash : x = messageHash
    · subst hHash
      simp [h.msg]
    · simp [hHash, h.others (.msg x) trivial (by simpa using hHash) (by simp)]
  case metadata =>
    intro x
    rw [hRest.metadata]
    by_cases hHash : x = messageHash
    · subst hHash
      simp [h.metadata]
    · simp [hHash, hOther x hHash]
  case entries =>
    intro side d
    rw [hRest.entries, hdb.booked.removes_own hdb.sound hMeta hFields h, List.filter_filter]
    apply List.filter_congr
    intro e he
    have hRestOwn : (∀ x ∈ hashes, ¬ OwnEntry db₁ side d x e) ↔ ∀ x ∈ hashes, ¬ OwnEntry db side d x e :=
      forall₂_congr fun x hx => not_congr (OwnEntry.congr (hOther x (hNe x hx)))
    simp [hRestOwn, Bool.and_comm]
  case counters =>
    intro m side d
    have hSum : hashes.map (counted db₁ m side d) = hashes.map (counted db m side d) :=
      List.map_congr_left fun x hx => counted_congr (hOther x (hNe x hx))
    have hFirst : counter db₁ (.did d) (m.queueField side) =
        counter db (.did d) (m.queueField side) - counted db m side d messageHash := by
      have hField : field db (.msgMeta messageHash) side.ownerField = fields.lookup side.ownerField := by
        simp [field, hMeta]
      rw [counted, hField, weightAt_metadata hMeta hFields]
      split
      · rename_i hOwner
        cases m with
        | bytes => exact (h.loses side d hOwner).bytes
        | count => exact (h.loses side d hOwner).count
      · rename_i hOwner
        rw [sub_zero]
        cases m with
        | bytes => exact (h.same side d hOwner).bytes
        | count => exact (h.same side d hOwner).count
    rw [hRest.counters, hSum, hFirst, List.map_cons, List.sum_cons]
    omega

end DeletedExactly

/-- Messages of a list are gone with their metadata, or untouched like all others, and the queue of
one DID has lost the entries of its own among them. -/
structure Received (d : String) (hashes : List String) (db db' : Db) : Prop where
  message : ∀ x, db' (.msg x) = db (.msg x) ∧ db' (.msgMeta x) = db (.msgMeta x) ∨
    x ∈ hashes ∧ db' (.msg x) = none ∧ db' (.msgMeta x) = none
  queue : entriesAt db' (.receiveQ d) =
    (entriesAt db (.receiveQ d)).filter fun e => ∀ h ∈ hashes, ¬ OwnEntry db .receive d h e

namespace Received

variable {d h : String} {hashes : List String} {db db₁ db' : Db}

theorem refl (d : String) (db : Db) : Received d [] db db where
  message x := .inl ⟨rfl, rfl⟩
  queue := by simp

theorem refused (hNone : field db (.msgMeta h) "TO" ≠ some d) : Received d [h] db db where
  message x := .inl ⟨rfl, rfl⟩
  queue := by
    rw [eq_comm, List.filter_eq_self]
    rintro e -
    rw [decide_eq_true_eq, List.forall_mem_singleton]
    exact fun hOwn => hNone hOwn.2.1

theorem of_deleted {env : Environment} {fields : Fields} {n : Nat} {id : Side → StreamId}
    (hdb : WellKept env db) (hMeta : db (.msgMeta h) = some (.hash fields)) (hFields : Metadata fields n id)
    (hDeleted : Deleted h fields n id db db') : Received d [h] db db' where
  message x := by
    rcases eq_or_ne x h with rfl | hOther
    · exact .inr ⟨List.mem_singleton_self _, hDeleted.msg, hDeleted.metadata⟩
    · exact .inl ⟨hDeleted.others _ trivial (by simpa using hOther) (by simp),
        hDeleted.others _ trivial (by simp) (by simpa using hOther)⟩
  queue := by
    refine (hdb.booked.removes_own hdb.sound hMeta hFields hDeleted .receive d).trans ?_
    apply List.filter_congr
    intro e he
    rw [decide_eq_decide, List.forall_mem_singleton]

/-- One more message of the list, received first. -/
theorem cons (hFirst : Received d [h] db db₁) (hRest : Received d hashes db₁ db') :
    Received d (h :: hashes) db db' where
  message x := by
    rcases hRest.message x with ⟨hMsg, hMeta⟩ | ⟨hMem, hGone⟩
    · rw [hMsg, hMeta]
      rcases hFirst.message x with hSame | ⟨hMem, hGone⟩
      · exact .inl hSame
      · exact .inr ⟨List.mem_cons.mpr (.inl (List.mem_singleton.mp hMem)), hGone⟩
    · exact .inr ⟨List.mem_cons_of_mem _ hMem, hGone⟩
  queue := by
    rw [hRest.queue, hFirst.queue, List.filter_filter]
    apply List.filter_congr
    intro e he
    rw [Bool.eq_iff_iff, Bool.and_eq_true, decide_eq_true_eq, decide_eq_true_eq, decide_eq_true_eq,
      List.forall_mem_singleton, List.forall_mem_cons, and_comm]
    refine and_congr_right fun hNot => forall₂_congr fun x hx => not_congr ?_
    -- what is said of a message changes only when it goes, and then `e` was not its own
    rcases hFirst.message x with ⟨-, hMeta⟩ | ⟨hMem, -, hGone⟩
    · exact OwnEntry.congr hMeta
    · obtain rfl := List.mem_singleton.mp hMem
      refine ⟨fun hOwn => ?_, fun hOwn => absurd hOwn hNot⟩
      have hNone : field db₁ (.msgMeta x) "TO" = none := by simp [field, hGone]
      exact absurd (hNone.symm.trans hOwn.2.1) (by simp)

end Received

namespace MessagePickup

variable {shared : SharedData} {session : Common.Session} {db : Db}

theorem receiveMessage_ok (hdb : WellKept shared.env db) {h body : String}
    (hMsg : db (.msg h) = some (.string body))
    (hTo : field db (.msgMeta h) "TO" = some session.didHash) :
    ∃ fields n id db', receiveMessage shared session h db = .ok () db' ∧
      db (.msgMeta h) = some (.hash fields) ∧ Metadata fields n id ∧ Deleted h fields n id db db' ∧
      WellKept shared.env db' := by
  obtain ⟨fields, hMeta, hLookup⟩ := field_eq_some_iff.mp hTo
  obtain ⟨message, db₁, hGet, -⟩ := DatabaseHandler.getMessage_ok shared.env hdb.sound hMsg hMeta hLookup
  have hSame : db₁ = db :=
    ((DatabaseHandler.keeps_getMessage (I := (· = db)) shared.env session.didHash h) db rfl).1 _ _ hGet
  rw [hSame] at hGet
  obtain ⟨db', hDelete⟩ :=
    DatabaseHandler.deleteMessage_ok shared.env hdb.sound hdb.digested hMeta hLookup session.sessionId
  rcases DatabaseHandler.deleteMessage_sound shared.env hdb.sound session.sessionId session.didHash h with
    ⟨e, hRun⟩ | ⟨fields', n, id, db'', hMeta', hFields, -, hDeleted, -, hRun⟩
  · rw [hDelete] at hRun
    cases hRun
  · rw [hDelete] at hRun
    cases hRun
    rw [hMeta] at hMeta'
    cases hMeta'
    have hKept := hdb.deleteMessage session.sessionId session.didHash h
    rw [stateAfter_of_ok hDelete] at hKept
    refine ⟨fields, n, id, db', ?_, hMeta, hFields, hDeleted, hKept⟩
    have hRead : attempt (DatabaseHandler.getMessage shared.env session.didHash h) db =
        .ok (.ok message) db := by
      rw [attempt, hGet]
    have hGone : attempt (DatabaseHandler.deleteMessage shared.env session.sessionId session.didHash h) db =
        .ok (.ok ()) db' := by
      rw [attempt, hDelete]
    rw [receiveMessage, bind_of_ok hRead]
    exact (bind_of_ok hGone).trans rfl

theorem receiveAll_ok (hdb : WellKept shared.env db) {hashes : List String} (hNodup : hashes.Nodup)
    (hOwned : ∀ h ∈ hashes, (∃ body, db (.msg h) = some (.string body)) ∧
      field db (.msgMeta h) "TO" = some session.didHash) :
    ∃ db', receiveAll shared session hashes db = .ok () db' ∧ DeletedExactly hashes db db' ∧
      WellKept shared.env db' := by
  induction hashes generalizing db with
  | nil => exact ⟨db, rfl, .refl db, hdb⟩
  | cons h rest ih =>
    obtain ⟨hNew, hNodup⟩ := List.nodup_cons.mp hNodup
    obtain ⟨⟨body, hMsg⟩, hTo⟩ := hOwned h List.mem_cons_self
    obtain ⟨fields, n, id, db₁, hFirst, hMeta, hFields, hDeleted, hKept⟩ :=
      receiveMessage_ok hdb hMsg hTo
    have hLeft : ∀ x ∈ rest, (∃ body, db₁ (.msg x) = some (.string body)) ∧
        field db₁ (.msgMeta x) "TO" = some session.didHash := by
      intro x hx
      have hNe : x ≠ h := fun hEq => hNew (hEq ▸ hx)
      rw [hDeleted.others (.msg x) trivial (by simpa using hNe) (by simp),
        field_congr (hDeleted.others (.msgMeta x) trivial (by simp) (by simpa using hNe))]
      exact hOwned x (List.mem_cons_of_mem _ hx)
    obtain ⟨db', hRest, hExactly, hKept'⟩ := ih hKept hNodup hLeft
    exact ⟨db', (bind_of_ok hFirst).trans hRest, .cons hdb hMeta hFields hDeleted hNew hExactly, hKept'⟩

theorem receiveMessage_run (hdb : WellKept shared.env db) (h : String) :
    ∃ db', receiveMessage shared session h db = .ok () db' ∧ WellKept shared.env db' ∧
      Received session.didHash [h] db db' := by
  by_cases hTo : field db (.msgMeta h) "TO" = some session.didHash
  · obtain ⟨fields, hMeta, -⟩ := field_eq_some_iff.mp hTo
    obtain ⟨body, hMsg⟩ := hdb.sound.body_of_metadata hMeta
    obtain ⟨fields, n, id, db', hRun, hMeta, hFields, hDeleted, hKept⟩ := receiveMessage_ok hdb hMsg hTo
    exact ⟨db', hRun, hKept, .of_deleted hdb hMeta hFields hDeleted⟩
  · have hGet := (DatabaseHandler.keeps_getMessage (I := (· = db)) shared.env session.didHash h) db rfl
    cases hRead : DatabaseHandler.getMessage shared.env session.didHash h db with
    | error e db₁ =>
      obtain rfl : db₁ = db := hGet.2 e db₁ hRead
      have hAttempt : attempt (DatabaseHandler.getMessage shared.env session.didHash h) db₁ =
          .ok (.error e) db₁ := by
        rw [attempt, hRead]
      exact ⟨db₁, (bind_of_ok hAttempt).trans rfl, hdb, .refused hTo⟩
    | ok message db₁ =>
      obtain rfl : db₁ = db := hGet.1 message db₁ hRead
      have hAttempt : attempt (DatabaseHandler.getMessage shared.env session.didHash h) db₁ =
          .ok (.ok message) db₁ := by
        rw [attempt, hRead]
      rcases DatabaseHandler.deleteMessage_sound shared.env hdb.sound session.sessionId session.didHash h with
        ⟨e, hRun⟩ | ⟨fields, n, id, db', hMeta, hFields, -, hDeleted, -, hRun⟩
      · have hRefused : attempt (DatabaseHandler.deleteMessage shared.env session.sessionId session.didHash h)
            db₁ = .ok (.error e) db₁ := by
          rw [attempt, hRun]
        exact ⟨db₁, (bind_of_ok hAttempt).trans ((bind_of_ok hRefused).trans rfl), hdb, .refused hTo⟩
      · -- the session's DID is the sender
        have hGone : attempt (DatabaseHandler.deleteMessage shared.env session.sessionId session.didHash h)
            db₁ = .ok (.ok ()) db' := by
          rw [attempt, hRun]
        have hKept := hdb.deleteMessage session.sessionId session.didHash h
        rw [stateAfter_of_ok hRun] at hKept
        exact ⟨db', (bind_of_ok hAttempt).trans ((bind_of_ok hGone).trans rfl), hKept,
          .of_deleted hdb hMeta hFields hDeleted⟩

theorem receiveAll_run (hdb : WellKept shared.env db) (hashes : List String) :
    ∃ db', receiveAll shared session hashes db = .ok () db' ∧ WellKept shared.env db' ∧
      Received session.didHash hashes db db' := by
  induction hashes generalizing db with
  | nil => exact ⟨db, rfl, hdb, .refl _ db⟩
  | cons h rest ih =>
    obtain ⟨db₁, hFirst, hKept, hReceived⟩ := receiveMessage_run hdb h
    obtain ⟨db', hRest, hKept', hReceived'⟩ := ih hKept
    exact ⟨db', (bind_of_ok hFirst).trans hRest, hKept', .cons hReceived hReceived'⟩

end MessagePickup

end AffinidiMessaging.Mediator
