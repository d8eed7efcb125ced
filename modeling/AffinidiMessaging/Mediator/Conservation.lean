import AffinidiMessaging.Library.Transition
import AffinidiMessaging.Mediator.Effects

/-! # Conservation of the queues and their counters

As long as no store repeats the digest of a message that is still there, the counters
of every queue count its entries, and messages and entries of the receivers are
matched one to one by the metadata.
-/

namespace AffinidiMessaging.Mediator

open Redis Text Fallible Transition

def entryBytes (entry : StreamEntry) : Int :=
  (parseI64 ((entry.fields.lookup "BYTES").getD "0")).getD 0

/-- The entry of a queue and the metadata of a message tell of each other. -/
structure Names (db : Db) (side : Side) (d h : String) (entry : StreamEntry) : Prop where
  msgId : entry.fields.lookup "MSG_ID" = some h
  bytes : entry.fields.lookup "BYTES" = field db (.msgMeta h) "BYTES"
  owner : field db (.msgMeta h) side.ownerField = some d
  id : field db (.msgMeta h) side.idField = some entry.id.text

structure Conserved (db : Db) : Prop where
  sorted : ∀ (side : Side) d, (entriesAt db (side.queue d)).Pairwise (·.id < ·.id)
  newest : ∀ (side : Side) d, ∀ e ∈ entriesAt db (side.queue d), ¬ lastIdAt db (side.queue d) < e.id
  count : ∀ (side : Side) d, counter db (.did d) side.countField = (entriesAt db (side.queue d)).length
  bytes : ∀ (side : Side) d, counter db (.did d) side.bytesField =
    ((entriesAt db (side.queue d)).map entryBytes).sum
  named : ∀ (side : Side) d, ∀ e ∈ entriesAt db (side.queue d), ∃ h, Names db side d h e
  queued : ∀ (side : Side) d h, field db (.msgMeta h) side.ownerField = some d →
    ∃ e ∈ entriesAt db (side.queue d), Names db side d h e
  held : ∀ h, db (.msg h) = none ↔ db (.msgMeta h) = none
  metadata : ∀ h v, db (.msgMeta h) = some v →
    ∃ fields n id, v = .hash fields ∧ Metadata fields n id ∧ (fields.lookup "TO").isSome = true

theorem conserved_empty : Conserved fun _ => none where
  sorted := by simp [entriesAt]
  newest := by simp [entriesAt]
  count := by
    intro side d
    change (parseI64 "0").getD 0 = 0
    decide
  bytes := by
    intro side d
    change (parseI64 "0").getD 0 = 0
    decide
  named := by simp [entriesAt]
  queued := by simp [field]
  held := by simp
  metadata := by simp

theorem eq_of_id_eq {l : List StreamEntry} (h : l.Pairwise (·.id < ·.id)) {e e' : StreamEntry}
    (he : e ∈ l) (he' : e' ∈ l) (hId : e.id = e'.id) : e = e' := by
  induction l with
  | nil => simp at he
  | cons x xs ih =>
    rw [List.pairwise_cons] at h
    rcases List.mem_cons.mp he with rfl | hMem
    · rcases List.mem_cons.mp he' with rfl | hMem'
      · rfl
      · exact absurd hId (StreamId.ne_of_lt (h.1 e' hMem'))
    · rcases List.mem_cons.mp he' with rfl | hMem'
      · exact absurd hId.symm (StreamId.ne_of_lt (h.1 e hMem))
      · exact ih h.2 hMem hMem'

/-- Ids are unique, so taking out one id takes out one entry. -/
theorem perm_cons_filter {l : List StreamEntry} (h : l.Pairwise (·.id < ·.id)) {e : StreamEntry}
    (he : e ∈ l) : l.Perm (e :: l.filter (·.id ≠ e.id)) := by
  induction l with
  | nil => simp at he
  | cons x xs ih =>
    rw [List.pairwise_cons] at h
    rcases List.mem_cons.mp he with rfl | hMem
    · have hRest : xs.filter (·.id ≠ e.id) = xs := by
        refine List.filter_eq_self.mpr fun y hy => ?_
        simpa using (StreamId.ne_of_lt (h.1 y hy)).symm
      rw [List.filter_cons_of_neg (by simp), hRest]
    · have hx : x.id ≠ e.id := StreamId.ne_of_lt (h.1 e hMem)
      rw [List.filter_cons_of_pos (by simpa using hx)]
      exact ((ih h.2 hMem).cons x).trans (List.Perm.swap e x _)

theorem lookup_metadataFields (time : String) (bytes : LuaNumber) (toDidHash : String)
    (fromDidHash : Option String) (id : Side → StreamId) (side : Side) (fields : Fields) :
    (setFields (metadataFields time bytes toDidHash fromDidHash id) fields).lookup side.ownerField =
        (owner toDidHash fromDidHash side).or (fields.lookup side.ownerField) ∧
      (setFields (metadataFields time bytes toDidHash fromDidHash id) fields).lookup side.idField =
        ((owner toDidHash fromDidHash side).map fun _ => (id side).text).or
          (fields.lookup side.idField) ∧
      (setFields (metadataFields time bytes toDidHash fromDidHash id) fields).lookup "BYTES" =
        some bytes.text := by
  cases side <;> cases fromDidHash <;>
    simp [setFields, metadataFields, Side.ownerField, Side.idField, owner]

section

variable {messageHash message time : String} {n : Nat} {toDidHash : String}
  {fromDidHash : Option String} {id : Side → StreamId} {db db' : Db}

theorem metadata_stored {bytes : LuaNumber} {b : Int} (hNone : db (.msgMeta messageHash) = none)
    (h : Stored messageHash message time bytes toDidHash fromDidHash id b db db') :
    ∃ fields, db' (.msgMeta messageHash) = some (.hash fields) ∧
      fields.lookup "BYTES" = some bytes.text ∧
      ∀ side, fields.lookup side.ownerField = owner toDidHash fromDidHash side ∧
        fields.lookup side.idField =
          (owner toDidHash fromDidHash side).map fun _ => (id side).text := by
  obtain ⟨fields, hFields, hMeta⟩ := h.metadata
  rw [hNone] at hFields
  cases hFields
  have hLookup := fun side => lookup_metadataFields time bytes toDidHash fromDidHash id side []
  refine ⟨_, hMeta, (hLookup .receive).2.2, fun side => ?_⟩
  simpa using And.intro (hLookup side).1 (hLookup side).2.1

theorem entryBytes_of_lookup {entry : StreamEntry} (hn : n < 2 ^ 53)
    (h : entry.fields.lookup "BYTES" = some n.repr) : entryBytes entry = n := by
  have hParse : parseI64 n.repr = some (n : Int) := parseI64_toString (inI64_of_small hn).1
  rw [entryBytes, h, Option.getD_some, hParse]
  rfl

theorem Names.of_metadata {side : Side} {d h : String} {entry : StreamEntry}
    (hNames : Names db side d h entry) (hMeta : db' (.msgMeta h) = db (.msgMeta h)) :
    Names db' side d h entry where
  msgId := hNames.msgId
  bytes := by rw [hNames.bytes, field_congr hMeta]
  owner := by rw [field_congr hMeta, hNames.owner]
  id := by rw [field_congr hMeta, hNames.id]

namespace Conserved

/-- Storing a message that is not there keeps the books. -/
theorem stored (hdb : Conserved db) (hn : n < 2 ^ 53) (hNone : db (.msg messageHash) = none)
    (h : Stored messageHash message time (.integer n) toDidHash fromDidHash id n db db') :
    Conserved db' := by
  have hNoMeta : db (.msgMeta messageHash) = none := (hdb.held messageHash).mp hNone
  obtain ⟨fields, hMeta, hBytes, hSides⟩ := metadata_stored hNoMeta h
  have hField : ∀ f, field db' (.msgMeta messageHash) f = fields.lookup f := fun f => by
    simp [field, hMeta]
  have hOther : ∀ x, x ≠ messageHash → db' (.msgMeta x) = db (.msgMeta x) := fun x hx =>
    h.others _ trivial (by simp) (by simpa using hx)
  -- an entry that was there names another message
  have hOld : ∀ side d x e, Names db side d x e → Names db' side d x e := by
    intro side d x e hNames
    refine hNames.of_metadata (hOther x ?_)
    rintro rfl
    have := hNames.owner
    simp [field, hNoMeta] at this
  have hNew : ∀ side d other, owner toDidHash fromDidHash side = some d →
      Names db' side d messageHash ⟨id side, [("MSG_ID", messageHash),
        ("BYTES", (LuaNumber.integer n).text), other]⟩ := by
    intro side d other hOwner
    refine ⟨by simp, ?_, ?_, ?_⟩
    · rw [hField, hBytes]
      simp [List.lookup]
    · rw [hField, (hSides side).1, hOwner]
    · rw [hField, (hSides side).2, hOwner]
      rfl
  constructor
  case sorted =>
    intro side d
    by_cases hOwner : owner toDidHash fromDidHash side = some d
    · obtain ⟨other, hGains⟩ := h.gains side d hOwner
      rw [hGains.entries, List.pairwise_append]
      refine ⟨hdb.sorted side d, by simp, ?_⟩
      intro e he e' he'
      rw [List.mem_singleton] at he'
      subst he'
      exact StreamId.lt_of_not_lt_of_lt (hdb.newest side d e he) hGains.newest
    · rw [(h.same side d hOwner).entries]
      exact hdb.sorted side d
  case newest =>
    intro side d e he
    by_cases hOwner : owner toDidHash fromDidHash side = some d
    · obtain ⟨other, hGains⟩ := h.gains side d hOwner
      rw [hGains.entries, List.mem_append, List.mem_singleton] at he
      rw [hGains.lastId]
      rcases he with he | rfl
      · exact StreamId.lt_asymm (StreamId.lt_of_not_lt_of_lt (hdb.newest side d e he) hGains.newest)
      · exact fun hLt => StreamId.ne_of_lt hLt rfl
    · rw [(h.same side d hOwner).entries] at he
      rw [(h.same side d hOwner).lastId]
      exact hdb.newest side d e he
  case count =>
    intro side d
    by_cases hOwner : owner toDidHash fromDidHash side = some d
    · obtain ⟨other, hGains⟩ := h.gains side d hOwner
      rw [hGains.count, hGains.entries, hdb.count]
      simp
    · rw [(h.same side d hOwner).count, (h.same side d hOwner).entries, hdb.count]
  case bytes =>
    intro side d
    by_cases hOwner : owner toDidHash fromDidHash side = some d
    · obtain ⟨other, hGains⟩ := h.gains side d hOwner
      rw [hGains.bytes, hGains.entries, hdb.bytes, List.map_append, List.sum_append,
        List.map_singleton, List.sum_singleton, entryBytes_of_lookup hn (by simp [List.lookup]; rfl)]
    · rw [(h.same side d hOwner).bytes, (h.same side d hOwner).entries, hdb.bytes]
  case named =>
    intro side d e he
    by_cases hOwner : owner toDidHash fromDidHash side = some d
    · obtain ⟨other, hGains⟩ := h.gains side d hOwner
      rw [hGains.entries, List.mem_append, List.mem_singleton] at he
      rcases he with he | rfl
      · obtain ⟨x, hNames⟩ := hdb.named side d e he
        exact ⟨x, hOld side d x e hNames⟩
      · exact ⟨messageHash, hNew side d other hOwner⟩
    · rw [(h.same side d hOwner).entries] at he
      obtain ⟨x, hNames⟩ := hdb.named side d e he
      exact ⟨x, hOld side d x e hNames⟩
  case queued =>
    intro side d x hx
    by_cases hHash : x = messageHash
    · subst hHash
      rw [hField, (hSides side).1] at hx
      obtain ⟨other, hGains⟩ := h.gains side d hx
      exact ⟨_, by simp [hGains.entries], hNew side d other hx⟩
    · rw [field_congr (hOther x hHash)] at hx
      obtain ⟨e, he, hNames⟩ := hdb.queued side d x hx
      refine ⟨e, ?_, hOld side d x e hNames⟩
      by_cases hOwner : owner toDidHash fromDidHash side = some d
      · obtain ⟨other, hGains⟩ := h.gains side d hOwner
        rw [hGains.entries]
        exact List.mem_append_left _ he
      · rw [(h.same side d hOwner).entries]
        exact he
  case held =>
    intro x
    by_cases hHash : x = messageHash
    · subst hHash
      simp [h.msg, hMeta]
    · rw [hOther x hHash, h.others (.msg x) trivial (by simpa using hHash) (by simp)]
      exact hdb.held x
  case metadata =>
    intro x v hx
    by_cases hHash : x = messageHash
    · subst hHash
      rw [hMeta, Option.some.injEq] at hx
      refine ⟨fields, n, id, hx.symm, ⟨hBytes, hn, fun side => ?_⟩, ?_⟩
      · rw [(hSides side).1, (hSides side).2]
      · rw [show fields.lookup "TO" = some toDidHash from (hSides .receive).1]
        rfl
    · rw [hOther x hHash] at hx
      exact hdb.metadata x v hx

/-- The entry that the metadata of a message points to, for each side that has one. -/
theorem entry_of_metadata (hdb : Conserved db) {fields : Fields} {side : Side} {d : String}
    (hMeta : db (.msgMeta messageHash) = some (.hash fields)) (hFields : Metadata fields n id)
    (hOwner : fields.lookup side.ownerField = some d) :
    ∃ e ∈ entriesAt db (side.queue d), Names db side d messageHash e ∧ e.id = id side ∧
      entryBytes e = n := by
  have hField : ∀ f, field db (.msgMeta messageHash) f = fields.lookup f := fun f => by
    simp [field, hMeta]
  obtain ⟨e, he, hNames⟩ := hdb.queued side d messageHash (by rw [hField, hOwner])
  refine ⟨e, he, hNames, ?_, ?_⟩
  · have hId := hNames.id
    rw [hField, hFields.ids side, hOwner, Option.map_some, Option.some.injEq] at hId
    exact (StreamId.text_injective hId).symm
  · exact entryBytes_of_lookup hFields.small (by rw [hNames.bytes, hField, hFields.bytes])

/-- Deleting a message keeps the books. -/
theorem deleted (hdb : Conserved db) {fields : Fields}
    (hMeta : db (.msgMeta messageHash) = some (.hash fields)) (hFields : Metadata fields n id)
    (h : Deleted messageHash fields n id db db') : Conserved db' := by
  have hOther : ∀ x, x ≠ messageHash → db' (.msgMeta x) = db (.msgMeta x) := fun x hx =>
    h.others _ trivial (by simp) (by simpa using hx)
  have hField : ∀ f, field db (.msgMeta messageHash) f = fields.lookup f := fun f => by
    simp [field, hMeta]
  -- what is left of a queue are the entries of the other messages
  have hLeft : ∀ (side : Side) d e, e ∈ entriesAt db' (side.queue d) ↔
      e ∈ entriesAt db (side.queue d) ∧ ¬ Names db side d messageHash e := by
    intro side d e
    by_cases hOwner : fields.lookup side.ownerField = some d
    · obtain ⟨e₀, he₀, hNames₀, hId₀, -⟩ := hdb.entry_of_metadata hMeta hFields hOwner
      rw [(h.loses side d hOwner).entries, List.mem_filter, ← hId₀]
      refine and_congr_right fun he => ?_
      constructor
      · intro hNe hNames
        have hText := hNames.id.symm.trans hNames₀.id
        rw [Option.some.injEq] at hText
        simp [StreamId.text_injective hText] at hNe
      · intro hNo
        have hNe : e.id ≠ e₀.id := fun hId =>
          hNo (eq_of_id_eq (hdb.sorted side d) he he₀ hId ▸ hNames₀)
        simpa using hNe
    · rw [(h.same side d hOwner).entries]
      refine ⟨fun he => ⟨he, fun hNames => hOwner ?_⟩, And.left⟩
      rw [← hField, hNames.owner]
  have hSublist : ∀ (side : Side) d,
      (entriesAt db' (side.queue d)).Sublist (entriesAt db (side.queue d)) := by
    intro side d
    by_cases hOwner : fields.lookup side.ownerField = some d
    · rw [(h.loses side d hOwner).entries]
      exact List.filter_sublist
    · rw [(h.same side d hOwner).entries]
  have hPerm : ∀ (side : Side) d, fields.lookup side.ownerField = some d → ∃ e, entryBytes e = n ∧
      (entriesAt db (side.queue d)).Perm (e :: entriesAt db' (side.queue d)) := by
    intro side d hOwner
    obtain ⟨e, he, -, hId, hBytes⟩ := hdb.entry_of_metadata hMeta hFields hOwner
    rw [(h.loses side d hOwner).entries, ← hId]
    exact ⟨e, hBytes, perm_cons_filter (hdb.sorted side d) he⟩
  have hLast : ∀ (side : Side) d,
      lastIdAt db' (side.queue d) = lastIdAt db (side.queue d) := by
    intro side d
    by_cases hOwner : fields.lookup side.ownerField = some d
    · exact (h.loses side d hOwner).lastId
    · exact (h.same side d hOwner).lastId
  constructor
  case sorted => exact fun side d => (hdb.sorted side d).sublist (hSublist side d)
  case newest =>
    intro side d e he
    rw [hLast]
    exact hdb.newest side d e ((hLeft side d e).mp he).1
  case count =>
    intro side d
    by_cases hOwner : fields.lookup side.ownerField = some d
    · obtain ⟨e, -, hEntries⟩ := hPerm side d hOwner
      have hLength := hEntries.length_eq
      rw [(h.loses side d hOwner).count, hdb.count, hLength, List.length_cons]
      omega
    · rw [(h.same side d hOwner).count, (h.same side d hOwner).entries, hdb.count]
  case bytes =>
    intro side d
    by_cases hOwner : fields.lookup side.ownerField = some d
    · obtain ⟨e, hBytes, hEntries⟩ := hPerm side d hOwner
      have hSum := (hEntries.map entryBytes).sum_eq
      rw [(h.loses side d hOwner).bytes, hdb.bytes, hSum, List.map_cons, List.sum_cons, hBytes]
      omega
    · rw [(h.same side d hOwner).bytes, (h.same side d hOwner).entries, hdb.bytes]
  case named =>
    intro side d e he
    obtain ⟨hOld, hNot⟩ := (hLeft side d e).mp he
    obtain ⟨x, hNames⟩ := hdb.named side d e hOld
    refine ⟨x, hNames.of_metadata (hOther x ?_)⟩
    rintro rfl
    exact hNot hNames
  case queued =>
    intro side d x hx
    have hHash : x ≠ messageHash := by
      rintro rfl
      simp [field, h.metadata] at hx
    rw [field_congr (hOther x hHash)] at hx
    obtain ⟨e, he, hNames⟩ := hdb.queued side d x hx
    refine ⟨e, (hLeft side d e).mpr ⟨he, fun hNames' => hHash ?_⟩, hNames.of_metadata (hOther x hHash)⟩
    exact Option.some.inj (hNames.msgId.symm.trans hNames'.msgId)
  case held =>
    intro x
    by_cases hHash : x = messageHash
    · subst hHash
      simp [h.msg, h.metadata]
    · rw [hOther x hHash, h.others (.msg x) trivial (by simpa using hHash) (by simp)]
      exact hdb.held x
  case metadata =>
    intro x v hx
    have hHash : x ≠ messageHash := by
      rintro rfl
      simp [h.metadata] at hx
    rw [hOther x hHash] at hx
    exact hdb.metadata x v hx

end Conserved

end

/-- A successful call of the handler. -/
inductive StoreCall
  | storeMessage (time : ServerTime) (sessionId message toDid : String) (fromDid : Option String)
  | deleteMessage (sessionId didHash messageHash : String)

/-- Successful stores and deletes in any order on an empty database. -/
def storeCalls (env : Environment) : System Db StoreCall where
  init db := db = fun _ => none
  step db call db' :=
    match call with
    | .storeMessage time sessionId message toDid fromDid => ∃ hash,
      DatabaseHandler.storeMessage env time sessionId message toDid fromDid db = .ok hash db'
    | .deleteMessage sessionId didHash messageHash =>
      DatabaseHandler.deleteMessage env sessionId didHash messageHash db = .ok () db'

/-- No store repeats a digest that is there. -/
def freshStores (env : Environment) : System Db StoreCall :=
  (storeCalls env).restrict fun db call =>
    match call with
    | .storeMessage _ _ message _ _ => db (.msg (env.digest message)) = none
    | .deleteMessage _ _ _ => True

theorem conserved_of_reachable {env : Environment} {db : Db} (h : (freshStores env).Reachable db) :
    Conserved db := by
  refine System.Invariant.holds ⟨?_, ?_⟩ h
  · rintro db rfl
    exact conserved_empty
  · rintro db call db' hdb ⟨hFresh, hStep⟩
    cases call with
    | storeMessage time sessionId message toDid fromDid =>
      obtain ⟨hash, hRun⟩ := hStep
      obtain ⟨hSmall, id, hStored⟩ := DatabaseHandler.storeMessage_effect hRun
      exact hdb.stored hSmall hFresh hStored
    | deleteMessage sessionId didHash messageHash =>
      obtain ⟨fields, bytes, hFields, hBytes, hRun⟩ :=
        DatabaseHandler.deleteMessage_effect hStep
      cases hMeta : db (.msgMeta messageHash) with
      | none =>
        rw [hMeta] at hFields
        cases hFields
        simp at hBytes
      | some v =>
        obtain ⟨fields', n, id, rfl, hMetadata, -⟩ := hdb.metadata _ _ hMeta
        rw [hMeta, asHash_hash] at hFields
        cases hFields
        rw [hMetadata.bytes, Option.some.injEq] at hBytes
        subst hBytes
        exact hdb.deleted hMeta hMetadata (deleteOwned_effect hMetadata hRun)

/-- The counters of a DID count the entries of its queues and their bytes. -/
def CountersConserved (db : Db) : Prop :=
  ∀ (side : Side) d,
    counter db (.did d) side.countField = (entriesAt db (side.queue d)).length ∧
    counter db (.did d) side.bytesField = ((entriesAt db (side.queue d)).map entryBytes).sum

/-- Every entry of a receiver names a message that is there and points back to it. -/
def EntriesMatched (db : Db) : Prop :=
  ∀ d, ∀ e ∈ entriesAt db (.receiveQ d), ∃ h, e.fields.lookup "MSG_ID" = some h ∧
    db (.msg h) ≠ none ∧ db (.msgMeta h) ≠ none ∧ field db (.msgMeta h) "TO" = some d ∧
    field db (.msgMeta h) "RECEIVE_ID" = some e.id.text

/-- Every message that is there is named by one entry of one receiver. -/
def MessagesMatched (db : Db) : Prop :=
  ∀ h, db (.msg h) ≠ none → ∃ d, ∀ d',
    (entriesAt db (.receiveQ d')).countP (fun e => e.fields.lookup "MSG_ID" = some h) =
      if d' = d then 1 else 0

theorem Conserved.entriesMatched {db : Db} (hdb : Conserved db) : EntriesMatched db := by
  intro d e he
  obtain ⟨h, hNames⟩ := hdb.named .receive d e he
  have hMeta : db (.msgMeta h) ≠ none := by
    intro hNone
    have := hNames.owner
    simp [field, hNone] at this
  exact ⟨h, hNames.msgId, fun hMsg => hMeta ((hdb.held h).mp hMsg), hMeta, hNames.owner, hNames.id⟩

theorem Conserved.messagesMatched {db : Db} (hdb : Conserved db) : MessagesMatched db := by
  intro h hMsg
  cases hMeta : db (.msgMeta h) with
  | none => exact absurd ((hdb.held h).mpr hMeta) hMsg
  | some v =>
    obtain ⟨fields, n, id, rfl, -, hTo⟩ := hdb.metadata h v hMeta
    obtain ⟨d, hd⟩ := Option.isSome_iff_exists.mp hTo
    have hOwner : field db (.msgMeta h) "TO" = some d := by simp [field, hMeta, hd]
    obtain ⟨e, he, hNames⟩ := hdb.queued .receive d h hOwner
    have hOnly : ∀ d', ∀ e' ∈ entriesAt db (.receiveQ d'), e'.fields.lookup "MSG_ID" = some h →
        d' = d ∧ e'.id = e.id := by
      intro d' e' he' hMsgId
      obtain ⟨h', hNames'⟩ := hdb.named .receive d' e' he'
      obtain rfl := Option.some.inj (hNames'.msgId.symm.trans hMsgId)
      refine ⟨Option.some.inj (hNames'.owner.symm.trans hNames.owner), ?_⟩
      exact StreamId.text_injective (Option.some.inj (hNames'.id.symm.trans hNames.id))
    refine ⟨d, fun d' => ?_⟩
    by_cases hd' : d' = d
    · subst hd'
      have hPerm : (entriesAt db (.receiveQ d')).Perm
          (e :: (entriesAt db (.receiveQ d')).filter (·.id ≠ e.id)) :=
        perm_cons_filter (hdb.sorted .receive d') he
      rw [if_pos rfl, hPerm.countP_eq,
        List.countP_cons_of_pos (by simpa using hNames.msgId), Nat.add_eq_right,
        List.countP_eq_zero]
      intro e' he' hMsgId
      obtain ⟨hMem, hNe⟩ := List.mem_filter.mp he'
      simp [(hOnly d' e' hMem (by simpa using hMsgId)).2] at hNe
    · rw [if_neg hd', List.countP_eq_zero]
      intro e' he' hMsgId
      exact hd' (hOnly d' e' he' (by simpa using hMsgId)).1

/-- While no store repeats a digest that is there, queues and counters are conserved. -/
theorem queues_conserved (env : Environment) (db : Db) (h : (freshStores env).Reachable db) :
    CountersConserved db ∧ EntriesMatched db ∧ MessagesMatched db :=
  have hdb := conserved_of_reachable h
  ⟨fun side d => ⟨hdb.count side d, hdb.bytes side d⟩, hdb.entriesMatched, hdb.messagesMatched⟩

def helloHash : String := "2cf24dba5fb0a30e26e83b2ac5b9e29e1b161e5c1fa7425e73043362938b9824"

def aliceHash : String := "6742201863cf8f216b0144c823f892132f0793b104b1883473befac73da0c16f"

def bobHash : String := "d31683f90dfc936f168d7b9885f6a2c08a0d2dfa0807116b66cbb811c218b255"

/-- The digests of a few texts; any other text is taken for the empty one. -/
def sampleDigest : String → String
  | "hello" => helloHash
  | "did:example:alice" => aliceHash
  | "did:example:bob" => bobHash
  | _ => "e3b0c44298fc1c149afbf4c8996fb92427ae41e4649b934ca495991b7852b855"

def sampleEnvironment : Environment where
  digest := sampleDigest
  digest_size text := by
    unfold sampleDigest
    split <;> decide
  strtod := fun _ => none
  describe := fun _ => "rejected"

theorem hello_nonempty : "hello" ≠ "" := by decide

theorem ciao_nonempty : "ciao" ≠ "" := by decide

theorem firstUsec_lt : 100000 < 1000000 := by decide

theorem secondUsec_lt : 200000 < 1000000 := by decide

/-- A message of a sender beside another one, which is deleted. -/
theorem queues_conserved_deleted :
    ∃ db, (freshStores sampleEnvironment).Reachable db ∧
      (entriesAt db (.receiveQ bobHash)).length = 1 ∧ (entriesAt db (.sendQ aliceHash)).length = 1 ∧
      CountersConserved db ∧ EntriesMatched db ∧ MessagesMatched db := by
  let first : StoreCall := .storeMessage ⟨1700000000, 100000, firstUsec_lt⟩ "s" "hello" "did:example:bob" none
  let second : StoreCall :=
    .storeMessage ⟨1700000000, 200000, secondUsec_lt⟩ "s" "ciao" "did:example:bob" (some "did:example:alice")
  have hReachable : (freshStores sampleEnvironment).Reachable _ :=
    .step (l := .deleteMessage "s" bobHash helloHash) (.step (l := second) (.step (l := first) (.init rfl)
      ⟨rfl, _, rfl⟩) ⟨rfl, _, rfl⟩) ⟨trivial, rfl⟩
  exact ⟨_, hReachable, by decide, by decide, queues_conserved sampleEnvironment _ hReachable⟩

/-- "hello" stored for bob at 1700000000 s and the given microseconds. -/
def helloToBob (usec : Nat) (hUsec : usec < 1000000) : StoreCall :=
  .storeMessage ⟨1700000000, usec, hUsec⟩ "s" "hello" "did:example:bob" none

def twiceStored : Db :=
  stateAfter (DatabaseHandler.storeMessage sampleEnvironment ⟨1700000000, 200000, secondUsec_lt⟩ "s"
      "hello" "did:example:bob" none)
    (stateAfter (DatabaseHandler.storeMessage sampleEnvironment ⟨1700000000, 100000, firstUsec_lt⟩ "s"
      "hello" "did:example:bob" none) fun _ => none)

/-- The same bytes stored for the same receiver a second time: two entries name one message, whose
metadata points to the second. -/
theorem queues_not_conserved :
    (storeCalls sampleEnvironment).Reachable twiceStored ∧
      ¬ EntriesMatched twiceStored ∧ ¬ MessagesMatched twiceStored := by
  refine ⟨?_, ?_, ?_⟩
  · refine .step (l := helloToBob 200000 (by decide))
      (.step (l := helloToBob 100000 (by decide)) (.init rfl) ⟨_, rfl⟩) ⟨_, rfl⟩
  · intro hMatched
    have hFirst := hMatched bobHash ⟨{ ms := 1700000000100, seq := 0 },
      [("MSG_ID", helloHash), ("BYTES", "5"), ("FROM", "ANONYMOUS")]⟩ (by decide)
    obtain ⟨h, hMsgId, -, -, -, hId⟩ := hFirst
    obtain rfl : helloHash = h := Option.some.inj hMsgId
    revert hId
    decide
  · intro hMatched
    obtain ⟨d, hd⟩ := hMatched helloHash (by decide)
    have hTwo : (entriesAt twiceStored (.receiveQ bobHash)).countP
        (fun e => e.fields.lookup "MSG_ID" = some helloHash) = 2 := by decide
    have hOne := hd bobHash
    rw [hTwo] at hOne
    split at hOne <;> omega

end AffinidiMessaging.Mediator
