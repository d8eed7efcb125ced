import AffinidiMessaging.Mediator.Acknowledgement
import AffinidiMessaging.Mediator.ReadIsolation

/-! # Requests about several messages

A request names some messages, one of them perhaps twice. Each message of the requester is taken the first time that it
is named; the other names are refused, and leave everything as it is.
-/

namespace AffinidiMessaging.Mediator

open Redis Text Fallible Transition

/-- What is taken of some names and what is refused, when a name that is taken is not there any more. -/
structure Taken {ι : Type} (owned : ι → Prop) (ids taken refused : List ι) : Prop where
  perm : (taken ++ refused).Perm ids
  nodup : taken.Nodup
  owned : ∀ id, id ∈ taken ↔ id ∈ ids ∧ owned id
  inOrder : taken.Sublist ids ∧ refused.Sublist ids

namespace Taken

variable {ι : Type} {owned owned' : ι → Prop} {id : ι} {ids taken refused : List ι}

theorem nil : Taken owned [] [] [] := ⟨.nil, .nil, by simp, .slnil, .slnil⟩

theorem take (h : Taken owned' ids taken refused) (hOwned : owned id) (hNext : ∀ x, owned' x ↔ owned x ∧ x ≠ id) :
    Taken owned (id :: ids) (id :: taken) refused where
  perm := h.perm.cons id
  nodup := by
    refine List.nodup_cons.mpr ⟨fun hMem => ?_, h.nodup⟩
    exact ((hNext id).mp ((h.owned id).mp hMem).2).2 rfl
  owned x := by
    rw [List.mem_cons, List.mem_cons, h.owned, hNext]
    constructor
    · rintro (rfl | ⟨hMem, hx, -⟩)
      · exact ⟨.inl rfl, hOwned⟩
      · exact ⟨.inr hMem, hx⟩
    · rintro ⟨rfl | hMem, hx⟩
      · exact .inl rfl
      · by_cases hSame : x = id
        · exact .inl hSame
        · exact .inr ⟨hMem, hx, hSame⟩
  inOrder := ⟨h.inOrder.1.cons_cons id, h.inOrder.2.cons id⟩

theorem refuse (h : Taken owned ids taken refused) (hNot : ¬ owned id) :
    Taken owned (id :: ids) taken (id :: refused) where
  perm := List.perm_middle.trans (h.perm.cons id)
  nodup := h.nodup
  owned x := by
    rw [List.mem_cons, h.owned]
    constructor
    · rintro ⟨hMem, hx⟩
      exact ⟨.inr hMem, hx⟩
    · rintro ⟨rfl | hMem, hx⟩
      · exact absurd hx hNot
      · exact ⟨hMem, hx⟩
  inOrder := ⟨h.inOrder.1.cons id, h.inOrder.2.cons_cons id⟩

end Taken

section
variable {env : Environment} {db db' : Db} {didHash h : String} {fields : Fields} {n : Nat} {id : Side → StreamId}

theorem Deleted.owns_iff (hDeleted : Deleted h fields n id db db') (x : String) :
    Owns db' didHash x ↔ Owns db didHash x ∧ x ≠ h := by
  by_cases hSame : x = h
  · subst hSame
    simp [Owns, field, hDeleted.metadata]
  · have hKept := hDeleted.others (.msgMeta x) trivial (by simp) (by simpa using hSame)
    simp only [Owns, field, hKept, hSame, not_false_eq_true, and_true, ne_eq]

theorem metadata_of_owns (hOwns : Owns db didHash h) : ∃ fields, db (.msgMeta h) = some (.hash fields) ∧
    (fields.lookup "TO" = some didHash ∨ fields.lookup "FROM" = some didHash) := by
  rcases hOwns with hTo | hFrom
  · obtain ⟨fields, hMeta, hLookup⟩ := field_eq_some_iff.mp hTo
    exact ⟨fields, hMeta, .inl hLookup⟩
  · obtain ⟨fields, hMeta, hLookup⟩ := field_eq_some_iff.mp hFrom
    exact ⟨fields, hMeta, .inr hLookup⟩

namespace DatabaseHandler

theorem deleteMessage_not_owns (hdb : WellKept env db) (hNot : ¬ Owns db didHash h) (sessionId : String) :
    ∃ e, deleteMessage env sessionId didHash h db = .error e db := by
  rcases deleteMessage_sound env hdb.sound sessionId didHash h with hRefused |
    ⟨fields, n, id, db', hMeta, -, hOwner, -⟩
  · exact hRefused
  · exact absurd (by simpa [Owns, field, hMeta] using hOwner) hNot

/-- Receiver and sender can both delete a message. -/
theorem deleteMessage_owns (hdb : WellKept env db) (hSize : didHash.utf8ByteSize = 64) (hOwns : Owns db didHash h)
    (sessionId : String) :
    ∃ fields n id db', deleteMessage env sessionId didHash h db = .ok () db' ∧ db (.msgMeta h) = some (.hash fields) ∧
      Metadata fields n id ∧ Deleted h fields n id db db' ∧ WellKept env db' := by
  obtain ⟨fields, hMeta, hOwner⟩ := metadata_of_owns hOwns
  have hShort : didHash.utf8ByteSize ≤ protoMaxBulkLen := by
    rw [hSize]
    decide
  obtain ⟨-, db', -, -, hOk⟩ := deleteMessage_owner env hdb.sound hdb.digested hMeta hOwner hShort sessionId
  rcases deleteMessage_sound env hdb.sound sessionId didHash h with ⟨e, hRun⟩ |
    ⟨fields', n, id, db'', hMeta', hFields, -, hDeleted, -, hRun⟩
  · cases hOk.symm.trans hRun
  · cases hOk.symm.trans hRun
    have hKept := hdb.deleteMessage sessionId didHash h
    rw [stateAfter_of_ok hOk] at hKept
    exact ⟨fields', n, id, db', hOk, hMeta', hFields, hDeleted, hKept⟩

end DatabaseHandler

end

section
variable {env : Environment} {session : Common.Session} (hSize : session.didHash.utf8ByteSize = 64)
include hSize

theorem deletedMessages_run {db : Db} (hdb : WellKept env db) (ids : List String) (deleted : DeleteMessageResponse) :
    ∃ taken refused db', ids.foldlM (deletedMessage env session) deleted db =
        .ok ⟨deleted.success ++ taken, deleted.errors ++ refused⟩ db' ∧
      Taken (Owns db session.didHash) ids taken (refused.map Prod.fst) ∧ DeletedExactly taken db db' ∧
      WellKept env db' := by
  induction ids generalizing db deleted with
  | nil => exact ⟨[], [], db, by simp, .nil, .refl db, hdb⟩
  | cons h rest ih =>
    by_cases hOwns : Owns db session.didHash h
    · obtain ⟨fields, n, id, db₁, hRun, hMeta, hFields, hDeleted, hKept⟩ :=
        DatabaseHandler.deleteMessage_owns hdb hSize hOwns session.sessionId
      have hOne : deletedMessage env session deleted h db =
          .ok { deleted with success := deleted.success ++ [h] } db₁ := by
        have hAttempt : attempt (DatabaseHandler.deleteMessage env session.sessionId session.didHash h) db =
            .ok (.ok ()) db₁ := by rw [attempt, hRun]
        exact bind_of_ok hAttempt
      obtain ⟨taken, refused, db', hRest, hTaken, hExactly, hdb'⟩ :=
        ih hKept { deleted with success := deleted.success ++ [h] }
      have hAll := hTaken.take hOwns hDeleted.owns_iff
      refine ⟨h :: taken, refused, db', ?_, hAll, ?_, hdb'⟩
      · rw [List.foldlM_cons, bind_of_ok hOne, hRest]
        simp
      · exact .cons hdb hMeta hFields hDeleted (List.nodup_cons.mp hAll.nodup).1 hExactly
    · obtain ⟨e, hRun⟩ := DatabaseHandler.deleteMessage_not_owns hdb hOwns session.sessionId
      have hOne : deletedMessage env session deleted h db =
          .ok { deleted with errors := deleted.errors ++ [(h, e.text)] } db := by
        have hAttempt : attempt (DatabaseHandler.deleteMessage env session.sessionId session.didHash h) db =
            .ok (.error e) db := by rw [attempt, hRun]
        exact bind_of_ok hAttempt
      obtain ⟨taken, refused, db', hRest, hTaken, hExactly, hdb'⟩ :=
        ih hdb { deleted with errors := deleted.errors ++ [(h, e.text)] }
      refine ⟨taken, (h, e.text) :: refused, db', ?_, hTaken.refuse hOwns, hExactly, hdb'⟩
      rw [List.foldlM_cons, bind_of_ok hOne, hRest]
      simp

/-- A request to delete takes each message of the requester once, names the others as errors, and changes nothing
but what it took. -/
theorem messageDelete_exact {db : Db} (h : (databaseCalls env).Reachable db) {maxDeletedMessages : Nat}
    {ids : List String}
    (hFew : ids.length ≤ maxDeletedMessages) :
    ∃ response db', messageDeleteHandler env session maxDeletedMessages ids db = .ok response db' ∧
      Taken (Owns db session.didHash) ids response.success (response.errors.map Prod.fst) ∧
      DeletedExactly response.success db db' := by
  obtain ⟨taken, refused, db', hRun, hTaken, hExactly, -⟩ := deletedMessages_run hSize (wellKept_of_reachable h) ids {}
  refine ⟨⟨taken, refused⟩, db', ?_, hTaken, hExactly⟩
  rw [messageDeleteHandler, if_neg (Nat.not_lt.mpr hFew), hRun]
  rfl

end

theorem owns_hello : Owns helloStored aliceHash helloHash := .inl rfl

theorem reachable_hello : (databaseCalls sampleEnvironment).Reachable helloStored :=
    .step (l := helloToAlice) (.init rfl) rfl

/-- A message named twice is deleted once. -/
theorem messageDelete_exact_twice : ∃ response db',
    messageDeleteHandler sampleEnvironment aliceSession 100 [helloHash, helloHash, bobHash] helloStored =
      .ok response db' ∧
      response.success.Nodup ∧ helloHash ∈ response.success ∧ DeletedExactly response.success helloStored db' := by
  obtain ⟨response, db', hRun, hTaken, hExactly⟩ := messageDelete_exact (rfl : aliceSession.didHash.utf8ByteSize = 64)
    reachable_hello (by decide : [helloHash, helloHash, bobHash].length ≤ 100)
  exact ⟨response, db', hRun, hTaken.nodup, (hTaken.owned helloHash).mpr ⟨List.mem_cons_self, owns_hello⟩, hExactly⟩

section
variable {env : Environment} {didHash : String} (hDid : didHash ≠ "")
include hDid

namespace DatabaseHandler

theorem getMessage_owns {db : Db} (hdb : WellKept env db) {h : String} (hOwns : Owns db didHash h) :
    ∃ m, getMessage env didHash h db = .ok m db := by
  obtain ⟨fields, hMeta, -⟩ := metadata_of_owns hOwns
  obtain ⟨body, hMsg⟩ := hdb.sound.body_of_metadata hMeta
  have hNodup : (fields.map Prod.fst).Nodup := hdb.sound.shaped _ _ hMeta
  exact ⟨_, (getMessage_some env hDid hMsg (by rw [hMeta]; rfl) hNodup).1 hOwns⟩

theorem getMessage_not_owns {db : Db} (hdb : WellKept env db) {h : String} (hNot : ¬ Owns db didHash h) :
    ∃ e, getMessage env didHash h db = .error e db := by
  obtain ⟨fields, hFields, hNodup⟩ := hdb.sound.shaped.metadata h
  by_cases hMsg : db (.msg h) = none
  · exact ⟨_, getMessage_none env hdb.sound.shaped hMsg⟩
  · obtain ⟨body, hBody⟩ := hdb.sound.shaped.text hMsg
    exact ⟨_, (getMessage_some env hDid hBody hFields hNodup).2 hNot⟩

theorem getMessage_congr {db db' : Db} (hdb : WellKept env db) {h : String} (hMsg : db' (.msg h) = db (.msg h))
    (hMeta : db' (.msgMeta h) = db (.msgMeta h)) {m : MessageListElement}
    (hGet : getMessage env didHash h db' = .ok m db') : getMessage env didHash h db = .ok m db := by
  obtain ⟨body, fields, hBody, hFields, rfl⟩ := getMessage_eq hGet
  rw [hMsg] at hBody
  rw [hMeta] at hFields
  obtain ⟨fields', hFields', hNodup⟩ := hdb.sound.shaped.metadata h
  cases hFields.symm.trans hFields'
  refine (getMessage_some env hDid hBody hFields hNodup).1 ?_
  by_contra hNot
  have hNot' : ¬ Owns db' didHash h := by
    simpa only [Owns, field_congr hMeta] using hNot
  have hRefused := (getMessage_some env hDid (hMsg.trans hBody) (by rw [hMeta, hFields]) hNodup).2 hNot'
  cases hGet.symm.trans hRefused

end DatabaseHandler

end

section
variable {env : Environment} {session : Common.Session} (hSize : session.didHash.utf8ByteSize = 64)
include hSize

theorem didHash_ne_empty : session.didHash ≠ "" := by
  intro hEmpty
  rw [hEmpty] at hSize
  cases hSize

/-- A name that is nobody's message, or another's, is noted as an error of getting. -/
theorem outboundMessage_not_owns {db : Db} (hdb : WellKept env db) {h : String} (hNot : ¬ Owns db session.didHash h)
    (delete : Bool) (messages : GetMessagesResponse) :
    ∃ text, outboundMessage env session delete messages h db =
      .ok { messages with getErrors := messages.getErrors ++ [(h, text)] } db := by
  obtain ⟨e, hRun⟩ := DatabaseHandler.getMessage_not_owns (didHash_ne_empty hSize) hdb hNot
  have hAttempt : attempt (DatabaseHandler.getMessage env session.didHash h) db = .ok (.error e) db := by
    rw [attempt, hRun]
  exact ⟨e.text, bind_of_ok hAttempt⟩

/-- Without deletes every name of a message of the requester is answered, and nothing changes. -/
theorem outboundMessages_kept {db : Db} (hdb : WellKept env db) (ids : List String) (messages : GetMessagesResponse) :
    ∃ found refused taken, ids.foldlM (outboundMessage env session false) messages db =
        .ok { messages with success := messages.success ++ found, getErrors := messages.getErrors ++ refused } db ∧
      taken.Sublist ids ∧ (∀ h, h ∈ taken ↔ h ∈ ids ∧ Owns db session.didHash h) ∧
      (taken ++ refused.map Prod.fst).Perm ids ∧
      List.Forall₂ (fun h m => DatabaseHandler.getMessage env session.didHash h db = .ok m db) taken found := by
  induction ids generalizing messages with
  | nil => exact ⟨[], [], [], by simp, .slnil, by simp, .nil, .nil⟩
  | cons h rest ih =>
    by_cases hOwns : Owns db session.didHash h
    · obtain ⟨m, hGet⟩ := DatabaseHandler.getMessage_owns (didHash_ne_empty hSize) hdb hOwns
      have hOne : outboundMessage env session false messages h db =
          .ok { messages with success := messages.success ++ [m] } db := by
        have hAttempt : attempt (DatabaseHandler.getMessage env session.didHash h) db = .ok (.ok m) db := by
          rw [attempt, hGet]
        exact bind_of_ok hAttempt
      obtain ⟨found, refused, taken, hRest, hSub, hTaken, hPerm, hAll⟩ :=
        ih { messages with success := messages.success ++ [m] }
      refine ⟨m :: found, refused, h :: taken, ?_, hSub.cons_cons h, fun x => ?_, hPerm.cons h, .cons hGet hAll⟩
      · rw [List.foldlM_cons, bind_of_ok hOne, hRest]
        simp
      · rw [List.mem_cons, List.mem_cons, hTaken]
        constructor
        · rintro (rfl | ⟨hMem, hx⟩)
          · exact ⟨.inl rfl, hOwns⟩
          · exact ⟨.inr hMem, hx⟩
        · rintro ⟨rfl | hMem, hx⟩
          · exact .inl rfl
          · exact .inr ⟨hMem, hx⟩
    · obtain ⟨text, hOne⟩ := outboundMessage_not_owns hSize hdb hOwns false messages
      obtain ⟨found, refused, taken, hRest, hSub, hTaken, hPerm, hAll⟩ :=
        ih { messages with getErrors := messages.getErrors ++ [(h, text)] }
      refine ⟨found, (h, text) :: refused, taken, ?_, hSub.cons h, fun x => ?_,
        List.perm_middle.trans (hPerm.cons h), hAll⟩
      · rw [List.foldlM_cons, bind_of_ok hOne, hRest]
        simp
      · rw [List.mem_cons, hTaken]
        constructor
        · rintro ⟨hMem, hx⟩
          exact ⟨.inr hMem, hx⟩
        · rintro ⟨rfl | hMem, hx⟩
          · exact absurd hx hOwns
          · exact ⟨hMem, hx⟩

/-- With deletes each message of the requester is answered once, as it was before the request, and is gone then. -/
theorem outboundMessages_taken {db : Db} (hdb : WellKept env db) (ids : List String) (messages : GetMessagesResponse) :
    ∃ found refused taken db', ids.foldlM (outboundMessage env session true) messages db =
        .ok { messages with success := messages.success ++ found, getErrors := messages.getErrors ++ refused } db' ∧
      Taken (Owns db session.didHash) ids taken (refused.map Prod.fst) ∧ DeletedExactly taken db db' ∧
      List.Forall₂ (fun h m => DatabaseHandler.getMessage env session.didHash h db = .ok m db) taken found := by
  induction ids generalizing db messages with
  | nil => exact ⟨[], [], [], db, by simp, .nil, .refl db, .nil⟩
  | cons h rest ih =>
    by_cases hOwns : Owns db session.didHash h
    · obtain ⟨m, hGet⟩ := DatabaseHandler.getMessage_owns (didHash_ne_empty hSize) hdb hOwns
      obtain ⟨fields, n, id, db₁, hRun, hMeta, hFields, hDeleted, hKept⟩ :=
        DatabaseHandler.deleteMessage_owns hdb hSize hOwns session.sessionId
      have hOne : outboundMessage env session true messages h db =
          .ok { messages with success := messages.success ++ [m] } db₁ := by
        have hAttempt : attempt (DatabaseHandler.getMessage env session.didHash h) db = .ok (.ok m) db := by
          rw [attempt, hGet]
        have hDelete : attempt (DatabaseHandler.deleteMessage env session.sessionId session.didHash h) db =
            .ok (.ok ()) db₁ := by
          rw [attempt, hRun]
        exact (bind_of_ok hAttempt).trans (bind_of_ok hDelete)
      obtain ⟨found, refused, taken, db', hRest, hTaken, hExactly, hAll⟩ :=
        ih hKept { messages with success := messages.success ++ [m] }
      have hTaken' := hTaken.take hOwns hDeleted.owns_iff
      have hNew : h ∉ taken := (List.nodup_cons.mp hTaken'.nodup).1
      refine ⟨m :: found, refused, h :: taken, db', ?_, hTaken', .cons hdb hMeta hFields hDeleted hNew hExactly,
        .cons hGet ?_⟩
      · rw [List.foldlM_cons, bind_of_ok hOne, hRest]
        simp
      · -- what is taken later is not `h`, and so it was there from the start
        refine List.forall₂_iff_get.mpr ⟨hAll.length_eq, fun i hi hi' => ?_⟩
        have hOther : taken.get ⟨i, hi⟩ ≠ h := fun hSame => hNew (hSame ▸ List.get_mem taken ⟨i, hi⟩)
        exact DatabaseHandler.getMessage_congr (didHash_ne_empty hSize) hdb
          (hDeleted.others _ trivial (by simpa using hOther) (by simp))
          (hDeleted.others _ trivial (by simp) (by simpa using hOther)) (hAll.get hi hi')
    · obtain ⟨text, hOne⟩ := outboundMessage_not_owns hSize hdb hOwns true messages
      obtain ⟨found, refused, taken, db', hRest, hTaken, hExactly, hAll⟩ :=
        ih hdb { messages with getErrors := messages.getErrors ++ [(h, text)] }
      refine ⟨found, (h, text) :: refused, taken, db', ?_, hTaken.refuse hOwns, hExactly, hAll⟩
      rw [List.foldlM_cons, bind_of_ok hOne, hRest]
      simp

/-- A request for messages answers each as a request for it alone would have before; if it deletes, it deletes what
it answered and nothing else, and each message is answered once. -/
theorem messageOutbound_exact {db : Db} (h : (databaseCalls env).Reachable db) (ids : List String) (delete : Bool) :
    ∃ response taken db', messageOutboundHandler env session ids delete db = .ok response db' ∧
      response.deleteErrors = [] ∧
      List.Forall₂ (fun h m => DatabaseHandler.getMessage env session.didHash h db = .ok m db) taken response.success ∧
      (delete = true → Taken (Owns db session.didHash) ids taken (response.getErrors.map Prod.fst) ∧
        DeletedExactly taken db db') ∧
      (delete = false → db' = db ∧ taken.Sublist ids ∧ (∀ h, h ∈ taken ↔ h ∈ ids ∧ Owns db session.didHash h) ∧
        (taken ++ response.getErrors.map Prod.fst).Perm ids) := by
  have hdb := wellKept_of_reachable h
  cases delete with
  | true =>
    obtain ⟨found, refused, taken, db', hRun, hTaken, hExactly, hAll⟩ := outboundMessages_taken hSize hdb ids {}
    exact ⟨_, taken, db', hRun, rfl, hAll, fun _ => ⟨hTaken, hExactly⟩, fun hFalse => by cases hFalse⟩
  | false =>
    obtain ⟨found, refused, taken, hRun, hSub, hTaken, hPerm, hAll⟩ := outboundMessages_kept hSize hdb ids {}
    exact ⟨_, taken, db, hRun, rfl, hAll, fun hTrue => (by cases hTrue), fun _ => ⟨rfl, hSub, hTaken, hPerm⟩⟩

end

theorem messageOutbound_exact_twice : ∃ response taken db',
    messageOutboundHandler sampleEnvironment aliceSession [helloHash, bobHash, helloHash] true helloStored =
        .ok response db' ∧ response.deleteErrors = [] ∧ taken.Nodup ∧ helloHash ∈ taken ∧
      List.Forall₂ (fun h m =>
        DatabaseHandler.getMessage sampleEnvironment aliceHash h helloStored = .ok m helloStored) taken
        response.success ∧ DeletedExactly taken helloStored db' := by
  obtain ⟨response, taken, db', hRun, hErrors, hAll, hTaken, -⟩ := messageOutbound_exact
    (rfl : aliceSession.didHash.utf8ByteSize = 64) reachable_hello [helloHash, bobHash, helloHash] true
  obtain ⟨hTaken, hExactly⟩ := hTaken rfl
  exact ⟨response, taken, db', hRun, hErrors, hTaken.nodup,
    (hTaken.owned helloHash).mpr ⟨List.mem_cons_self, owns_hello⟩, hAll, hExactly⟩

end AffinidiMessaging.Mediator
