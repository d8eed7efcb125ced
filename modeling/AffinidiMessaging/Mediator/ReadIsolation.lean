import AffinidiMessaging.Library.Coupling
import AffinidiMessaging.Mediator.OptimisticFetch
import AffinidiMessaging.Mediator.StatusAgreement

/-! # What the requests of a DID show of the messages of others

Two databases that agree on what belongs to a DID are to answer its requests alike. A read of a message
looks it up by its digest before it asks whose it is, and a fetch takes the entries of the queue for
its own.
-/

namespace AffinidiMessaging.Mediator

open Redis Text Fallible Didcomm Transition

structure DeleteMessageResponse where
  success : List String := []
  errors : List (String × String) := []

section
variable (env : Environment) (session : Common.Session)

/-- One id of the request: its message is got, and then deleted if that is asked for. -/
def outboundMessage (delete : Bool) (messages : GetMessagesResponse) (msgId : String) :
    Handler GetMessagesResponse := do
  match ← attempt (DatabaseHandler.getMessage env session.didHash msgId) with
  | .ok msg =>
    let messages := { messages with success := messages.success ++ [msg] }
    if delete then
      let outcome ← attempt (DatabaseHandler.deleteMessage env session.sessionId session.didHash msgId)
      return DatabaseHandler.noteDelete msgId outcome messages
    else return messages
  | .error e => return { messages with getErrors := messages.getErrors ++ [(msgId, e.text)] }

def messageOutboundHandler (messageIds : List String) (delete : Bool) : Handler GetMessagesResponse :=
  messageIds.foldlM (outboundMessage env session delete) {}

def messageListHandler (maxListedMessages : Nat) (didHash : String) (folder : Folder) :
    Handler (List MessageListElement) :=
  if session.didHash ≠ didHash then
    throw (.permissionError session.sessionId "You don't have permission to access this resource.")
  else DatabaseHandler.listMessages env didHash folder maxListedMessages

def deletedMessage (deleted : DeleteMessageResponse) (message : String) : Handler DeleteMessageResponse := do
  match ← attempt (DatabaseHandler.deleteMessage env session.sessionId session.didHash message) with
  | .ok () => return { deleted with success := deleted.success ++ [message] }
  | .error e => return { deleted with errors := deleted.errors ++ [(message, e.text)] }

/-- The text of the error names a limit of 100, whatever the limit is. -/
def messageDeleteHandler (maxDeletedMessages : Nat) (messageIds : List String) :
    Handler DeleteMessageResponse :=
  if maxDeletedMessages < messageIds.length then
    throw (.requestDataError session.sessionId
      ("Operation exceeds the allowed limit. You may delete a maximum of 100 messages per request. Received " ++
        messageIds.length.repr ++ " ids."))
  else messageIds.foldlM (deletedMessage env session) {}

end

/-- Two databases with the same queues, counters and row of a DID, and the same messages of it. -/
structure AgreeFor (didHash : String) (db₁ db₂ : Db) : Prop where
  receiveQ : db₁ (.receiveQ didHash) = db₂ (.receiveQ didHash)
  sendQ : db₁ (.sendQ didHash) = db₂ (.sendQ didHash)
  counters : db₁ (.did didHash) = db₂ (.did didHash)
  streaming : field db₁ .globalStreaming didHash = field db₂ .globalStreaming didHash
  messages : ∀ h, Owns db₁ didHash h ∨ Owns db₂ didHash h →
    db₁ (.msg h) = db₂ (.msg h) ∧ db₁ (.msgMeta h) = db₂ (.msgMeta h)

section
variable (shared : SharedData) (truncate : String → Int) (digits : DigitClass) (clock : Clock)
  (session : Common.Session) (maxListedMessages maxDeletedMessages : Nat)

/-- Every request of the session is answered alike. -/
structure AnsweredAlike (db₁ db₂ : Db) : Prop where
  outbound : ∀ messageIds delete,
    outcome (messageOutboundHandler shared.env session messageIds delete) db₁ =
      outcome (messageOutboundHandler shared.env session messageIds delete) db₂
  list : ∀ didHash folder,
    outcome (messageListHandler shared.env session maxListedMessages didHash folder) db₁ =
      outcome (messageListHandler shared.env session maxListedMessages didHash folder) db₂
  fetch : ∀ options, outcome (inboxFetchHandler shared.env digits session options) db₁ =
    outcome (inboxFetchHandler shared.env digits session options) db₂
  delete : ∀ messageIds,
    outcome (messageDeleteHandler shared.env session maxDeletedMessages messageIds) db₁ =
      outcome (messageDeleteHandler shared.env session maxDeletedMessages messageIds) db₂
  status : ∀ msg, outcome (MessagePickup.statusRequest shared truncate clock session msg) db₁ =
    outcome (MessagePickup.statusRequest shared truncate clock session msg) db₂

end

/-- The entries of the queue that a fetch reads, as the script comes to them. -/
def pageEntries (didHash : String) (options : FetchOptions) : Script (List StreamEntry) :=
  if ([didHash] ++ [options.startId.getD "-", options.limit.repr]).all (·.utf8ByteSize ≤ protoMaxBulkLen) then do
    let start := if options.startId.getD "-" = "-" then "-" else "(" ++ options.startId.getD "-"
    let list ← xrange (.receiveQ didHash) start options.limit.repr
    notNil list "bad argument #1 to 'ipairs' (table expected, got nil)"
  else throw (.reply "Protocol error: invalid bulk length")

theorem readPage_eq (env : Environment) (didHash : String) (options : FetchOptions) :
    DatabaseHandler.readPage env didHash options =
      DatabaseHandler.query env "NA" "Couldn't fetch_messages() from database: "
        (pageEntries didHash options >>= fetchElements) := by
  have hScript : fcall Mediator.fetchMessages [didHash] [options.startId.getD "-", options.limit.repr] =
      (pageEntries didHash options >>= fetchElements) := by
    unfold fcall pageEntries
    split
    · exact (bind_assoc (xrange _ _ _) _ fetchElements).symm
    · rfl
  rw [DatabaseHandler.readPage, hScript]

/-- The options that the handler of a fetch takes. -/
def FetchOptions.Accepted (digits : DigitClass) (options : FetchOptions) : Prop :=
  1 ≤ options.limit ∧ options.limit ≤ 100 ∧ (options.startId.any fun startId => !digits.isMatch startId) = false

/-- Some fetch of the DID lists the entry. -/
def Listable (digits : DigitClass) (db : Db) (didHash : String) (entry : StreamEntry) : Prop :=
  ∃ options items db', options.Accepted digits ∧ pageEntries didHash options db = .ok items db' ∧ entry ∈ items

/-- Under a digest both databases have the same bytes, and the same of what a fetch says of the metadata. -/
structure SeenAlike (db₁ db₂ : Db) (h : String) : Prop where
  bytes : storedBytes db₁ h = storedBytes db₂ h
  texts : ∀ f ∈ ["SEND_ID", "RECEIVE_ID", "TO"], field db₁ (.msgMeta h) f = field db₂ (.msgMeta h) f
  numbers : ∀ f ∈ ["BYTES", "TIMESTAMP"], (field db₁ (.msgMeta h) f).elim 0 parseU64 =
    (field db₂ (.msgMeta h) f).elim 0 parseU64

section
variable (env : Environment) {db : Db}

/-- A delete of a message that is not the requester's is refused for one and the same reason. -/
theorem deleteMessage_not_owner (hdb : Shaped db) {didHash messageHash : String}
    (hNot : ¬ Owns db didHash messageHash) (sessionId : String) :
    DatabaseHandler.deleteMessage env sessionId didHash messageHash db =
      .error (.databaseError didHash ("Couldn't delete message_id(" ++ messageHash ++
        ") from database for DID " ++ didHash ++ ": " ++ env.describe
          (if ([messageHash] ++ [didHash]).all (·.utf8ByteSize ≤ protoMaxBulkLen) then
            .reply "Requesting DID does not have ownership of this message"
          else .reply "Protocol error: invalid bulk length"))) db := by
  obtain ⟨fields, hFields, -⟩ := hdb.metadata messageHash
  have hGet : hgetall (.msgMeta messageHash) db = .ok fields db := (ofKey_ok_iff _ _ _ _ _).mpr ⟨hFields, rfl⟩
  have hCall : fcall (Mediator.deleteMessage env.strtod) [messageHash] [didHash] db =
      .error (if ([messageHash] ++ [didHash]).all (·.utf8ByteSize ≤ protoMaxBulkLen) then
        .reply "Requesting DID does not have ownership of this message"
        else .reply "Protocol error: invalid bulk length") db := by
    unfold fcall
    split
    · refine (bind_of_ok hGet).trans ?_
      have hRefused : fields.lookup "TO" ≠ some didHash ∧ fields.lookup "FROM" ≠ some didHash := by
        rw [lookup_of_asHash hFields, lookup_of_asHash hFields]
        exact not_or.mp hNot
      rw [deleteChecked, if_pos hRefused]
      rfl
    · rfl
  exact bind_of_error (DatabaseHandler.query_of_error hCall)

theorem tracks_deleteRecords {k : Key} (strtod : String → Option LuaNumber)
    (didHash queueBytes queueCount : String) (queue : Key) (bytes : String) (id : Option String) :
    Tracks k (deleteRecords strtod didHash queueBytes queueCount queue bytes id) := by
  refine (Tracks.bind (.lift _) fun n => .pure _).bind fun text => ?_
  refine (Tracks.hincrby _ _ _).bind fun _ => (Tracks.hincrby _ _ _).bind fun _ => ?_
  exact (Tracks.lift _).bind fun text => .xdel _ _

/-- Two deletes by the same metadata do the same to a key where it is the same. -/
theorem tracks_deleteOwned {k : Key} (strtod : String → Option LuaNumber) (messageHash : String)
    (fields : Fields) (bytes : String) : Tracks k (deleteOwned strtod messageHash fields bytes) := by
  refine (Tracks.del _).bind fun _ => ?_
  refine (Tracks.hincrby _ _ _).bind fun _ => (Tracks.hincrby _ _ _).bind fun _ => ?_
  refine Tracks.bind ?_ fun _ => Tracks.bind ?_ fun _ => (Tracks.del _).bind fun _ => .pure _
  · exact (Tracks.lift _).bind fun receiver => tracks_deleteRecords _ _ _ _ _ _ _
  · unfold deleteSender
    split
    · exact .pure ()
    · exact (Tracks.lift _).bind fun sender => tracks_deleteRecords _ _ _ _ _ _ _

/-- Two databases of the mediator that agree for a DID. -/
structure Alike (didHash : String) (db₁ db₂ : Db) : Prop where
  sound₁ : Sound db₁
  sound₂ : Sound db₂
  digested₁ : Digested db₁
  digested₂ : Digested db₂
  agree : AgreeFor didHash db₁ db₂

theorem AgreeFor.owns_iff {d : String} {db₁ db₂ : Db} (h : AgreeFor d db₁ db₂) (x : String) :
    Owns db₁ d x ↔ Owns db₂ d x := by
  constructor
  · intro hOwns
    have hMeta := (h.messages x (.inl hOwns)).2
    unfold Owns at hOwns ⊢
    rwa [← field_congr hMeta, ← field_congr hMeta]
  · intro hOwns
    have hMeta := (h.messages x (.inr hOwns)).2
    unfold Owns at hOwns ⊢
    rwa [field_congr hMeta, field_congr hMeta]

theorem untouched_streaming_deleteOwned (strtod : String → Option LuaNumber) (messageHash : String)
    (fields : Fields) (bytes : String) :
    Untouched .globalStreaming (deleteOwned strtod messageHash fields bytes) := by
  refine (Untouched.del (by simp)).bind fun _ => ?_
  refine (Untouched.hincrby (by simp) _ _).bind fun _ => (Untouched.hincrby (by simp) _ _).bind fun _ => ?_
  refine Untouched.bind ?_ fun _ => Untouched.bind ?_ fun _ => (Untouched.del (by simp)).bind fun _ => .pure _
  · exact (untouched_notNil _ _ _).bind fun _ => untouched_deleteRecords (by simp) (by simp) _ _ _ _ _
  · unfold deleteSender
    split
    · exact .pure ()
    · exact (untouched_notNil _ _ _).bind fun _ => untouched_deleteRecords (by simp) (by simp) _ _ _ _ _

/-- A delete is refused in both databases, or takes the same message out of both. -/
theorem Alike.deleteMessage {d : String} {db₁ db₂ : Db} (h : Alike d db₁ db₂)
    (hd : d.utf8ByteSize ≤ protoMaxBulkLen) (sessionId x : String) :
    (∃ e, DatabaseHandler.deleteMessage env sessionId d x db₁ = .error e db₁ ∧
        DatabaseHandler.deleteMessage env sessionId d x db₂ = .error e db₂) ∨
      ∃ db₁' db₂', DatabaseHandler.deleteMessage env sessionId d x db₁ = .ok () db₁' ∧
        DatabaseHandler.deleteMessage env sessionId d x db₂ = .ok () db₂' ∧
        TakesOut x db₁ db₁' ∧ TakesOut x db₂ db₂' ∧ Alike d db₁' db₂' := by
  by_cases hOwns : Owns db₁ d x
  · have hMeta := (h.agree.messages x (.inl hOwns)).2
    obtain ⟨fields, hFields, hOwner⟩ : ∃ fields, db₁ (.msgMeta x) = some (.hash fields) ∧
        (fields.lookup "TO" = some d ∨ fields.lookup "FROM" = some d) := by
      rcases hOwns with hTo | hFrom
      · obtain ⟨fields, hFields, hTo⟩ := field_eq_some_iff.mp hTo
        exact ⟨fields, hFields, .inl hTo⟩
      · obtain ⟨fields, hFields, hFrom⟩ := field_eq_some_iff.mp hFrom
        exact ⟨fields, hFields, .inr hFrom⟩
    obtain ⟨bytes, db₁', hBytes, hOwned₁, hRun₁⟩ := DatabaseHandler.deleteMessage_owner env h.sound₁
      h.digested₁ hFields hOwner hd sessionId
    obtain ⟨bytes', db₂', hBytes', hOwned₂, hRun₂⟩ := DatabaseHandler.deleteMessage_owner env h.sound₂
      h.digested₂ (hMeta ▸ hFields) hOwner hd sessionId
    cases hBytes.symm.trans hBytes'
    have hTakes₁ := takesOut_of_deleteMessage h.sound₁ h.digested₁ hRun₁
    have hTakes₂ := takesOut_of_deleteMessage h.sound₂ h.digested₂ hRun₂
    refine .inr ⟨db₁', db₂', hRun₁, hRun₂, hTakes₁, hTakes₂, hTakes₁.sound, hTakes₂.sound,
      hTakes₁.digested, hTakes₂.digested, ?_⟩
    have hTracks : ∀ k, db₁ k = db₂ k → db₁' k = db₂' k := fun k hk =>
      (tracks_deleteOwned env.strtod x fields bytes db₁ db₂ hk _ _ _ _ hOwned₁ hOwned₂).2
    refine ⟨hTracks _ h.agree.receiveQ, hTracks _ h.agree.sendQ, hTracks _ h.agree.counters, ?_, ?_⟩
    · have hSame := untouched_streaming_deleteOwned env.strtod x fields bytes
      rw [field_congr (hSame.of_ok hOwned₁), field_congr (hSame.of_ok hOwned₂)]
      exact h.agree.streaming
    · intro y hy
      have hNe : y ≠ x := by
        rintro rfl
        simp [Owns, field, hTakes₁.metadata, hTakes₂.metadata] at hy
      obtain ⟨hMsg₁, hMeta₁⟩ := hTakes₁.others y hNe
      obtain ⟨hMsg₂, hMeta₂⟩ := hTakes₂.others y hNe
      rw [hMsg₁, hMsg₂, hMeta₁, hMeta₂]
      refine h.agree.messages y ?_
      simpa only [Owns, field_congr hMeta₁, field_congr hMeta₂] using hy
  · have hOwns₂ : ¬ Owns db₂ d x := fun hOwns₂ => hOwns ((h.agree.owns_iff x).mpr hOwns₂)
    exact .inl ⟨_, deleteMessage_not_owner env h.sound₁.shaped hOwns sessionId,
      deleteMessage_not_owner env h.sound₂.shaped hOwns₂ sessionId⟩

/-- The same digests have bytes in both databases. -/
def SameMessages (db₁ db₂ : Db) : Prop := ∀ h, db₁ (.msg h) = none ↔ db₂ (.msg h) = none

theorem SameMessages.takenOut {db₁ db₂ db₁' db₂' : Db} {x : String} (h : SameMessages db₁ db₂)
    (h₁ : TakesOut x db₁ db₁') (h₂ : TakesOut x db₂ db₂') : SameMessages db₁' db₂' := by
  intro y
  by_cases hy : y = x
  · rw [hy, h₁.msg, h₂.msg]
  · rw [(h₁.others y hy).1, (h₂.others y hy).1]
    exact h y

/-- A delete keeps two databases alike, and what else it keeps. -/
theorem coupled_deleteMessage {d : String} (hd : d.utf8ByteSize ≤ protoMaxBulkLen) {P : Db → Db → Prop}
    (hP : ∀ x db₁ db₂ db₁' db₂', P db₁ db₂ → TakesOut x db₁ db₁' → TakesOut x db₂ db₂' → P db₁' db₂')
    (sessionId x : String) :
    Coupled (fun db₁ db₂ => Alike d db₁ db₂ ∧ P db₁ db₂) Eq
      (DatabaseHandler.deleteMessage env sessionId d x) (DatabaseHandler.deleteMessage env sessionId d x) := by
  rintro db₁ db₂ ⟨hAlike, hHolds⟩
  rcases hAlike.deleteMessage env hd sessionId x with ⟨e, hRun₁, hRun₂⟩ |
    ⟨db₁', db₂', hRun₁, hRun₂, hTakes₁, hTakes₂, hAlike'⟩
  · rw [hRun₁, hRun₂]
    exact .error ⟨hAlike, hHolds⟩
  · rw [hRun₁, hRun₂]
    exact .ok rfl ⟨hAlike', hP x _ _ _ _ hHolds hTakes₁ hTakes₂⟩

theorem deliver_run (didHash : String) (message : MessageListElement) (db : Db) :
    DatabaseHandler.deliver env didHash message db =
      if didHash = message.fromAddress.getD "" ∨ didHash = message.toAddress.getD "" then .ok message db
      else .error (.databaseError didHash ("Message not found for DID: " ++ didHash)) db := by
  unfold DatabaseHandler.deliver
  split
  · obtain ⟨outcome, db', hStats⟩ := attempt_ok (DatabaseHandler.query env "INTERNAL"
      "Couldn't update GLOBAL SEND stats. Reason: " (DatabaseHandler.updateSendStats message.size)) db
    have hSame : db' = db := ((DatabaseHandler.keeps_query env (I := (db = ·))
      (DatabaseHandler.keeps_updateSendStats _) _ _).attempt db rfl).1 _ _ hStats |>.symm
    rw [bind_of_ok hStats, hSame]
    rfl
  · rfl

theorem readMessage_run {msgId : String} {body : Option String} {fields : Fields}
    (hBody : asString (db (.msg msgId)) = .ok body) (hFields : asHash (db (.msgMeta msgId)) = .ok fields) :
    DatabaseHandler.readMessage msgId db = .ok (body, fields) db := by
  have hGet : get (.msg msgId) db = .ok body db := (ofKey_ok_iff _ _ _ _ _).mpr ⟨hBody, rfl⟩
  have hGetAll : hgetall (.msgMeta msgId) db = .ok fields db := (ofKey_ok_iff _ _ _ _ _).mpr ⟨hFields, rfl⟩
  rw [DatabaseHandler.readMessage, bind_of_ok hGet, bind_of_ok hGetAll]
  rfl

theorem getMessage_none {didHash msgId : String} (hdb : Shaped db) (hMsg : db (.msg msgId) = none) :
    DatabaseHandler.getMessage env didHash msgId db =
      .error (.databaseError didHash ("Message not found for ID: " ++ msgId)) db := by
  obtain ⟨fields, hFields, -⟩ := hdb.metadata msgId
  have hRead := readMessage_run (by rw [hMsg]; rfl) hFields
  rw [DatabaseHandler.getMessage, bind_of_ok (DatabaseHandler.query_of_ok hRead)]
  rfl

theorem getMessage_some {didHash msgId body : String} {fields : Fields} (hDid : didHash ≠ "")
    (hMsg : db (.msg msgId) = some (.string body)) (hFields : asHash (db (.msgMeta msgId)) = .ok fields)
    (hNodup : (fields.map Prod.fst).Nodup) :
    (Owns db didHash msgId → DatabaseHandler.getMessage env didHash msgId db =
        .ok (DatabaseHandler.listElement msgId body fields) db) ∧
      (¬ Owns db didHash msgId → DatabaseHandler.getMessage env didHash msgId db =
        .error (.databaseError didHash ("Message not found for DID: " ++ didHash)) db) := by
  have hRead : DatabaseHandler.readMessage msgId db = .ok (some body, fields) db :=
    readMessage_run (by rw [hMsg]; rfl) hFields
  have hDeliver : DatabaseHandler.getMessage env didHash msgId db =
      DatabaseHandler.deliver env didHash (DatabaseHandler.listElement msgId body fields) db := by
    rw [DatabaseHandler.getMessage, bind_of_ok (DatabaseHandler.query_of_ok hRead)]
  have hAddressed : ∀ o : Option String, didHash = o.getD "" ↔ o = some didHash := by
    rintro (_ | a)
    · simpa using hDid
    · simp [eq_comm]
  obtain ⟨-, hTo, hFrom⟩ := DatabaseHandler.listElement_fields hNodup msgId body
  have hOwner : (didHash = (DatabaseHandler.listElement msgId body fields).fromAddress.getD "" ∨
      didHash = (DatabaseHandler.listElement msgId body fields).toAddress.getD "") ↔ Owns db didHash msgId := by
    rw [hAddressed, hAddressed, hTo, hFrom, lookup_of_asHash hFields, lookup_of_asHash hFields, or_comm]
    rfl
  rw [hDeliver, deliver_run]
  exact ⟨fun hOwns => if_pos (hOwner.mpr hOwns), fun hNot => if_neg fun h => hNot (hOwner.mp h)⟩

theorem coupled_getMessage {d : String} (hd : d ≠ "") (msgId : String) :
    Coupled (fun db₁ db₂ => Alike d db₁ db₂ ∧ SameMessages db₁ db₂) Eq
      (DatabaseHandler.getMessage env d msgId) (DatabaseHandler.getMessage env d msgId) := by
  rintro db₁ db₂ ⟨hAlike, hSame⟩
  obtain ⟨body₁, hBody₁⟩ := hAlike.sound₁.shaped.body msgId
  obtain ⟨body₂, hBody₂⟩ := hAlike.sound₂.shaped.body msgId
  obtain ⟨fields₁, hFields₁, hNodup₁⟩ := hAlike.sound₁.shaped.metadata msgId
  obtain ⟨fields₂, hFields₂, hNodup₂⟩ := hAlike.sound₂.shaped.metadata msgId
  by_cases hMsg : db₁ (.msg msgId) = none
  · rw [getMessage_none env hAlike.sound₁.shaped hMsg,
      getMessage_none env hAlike.sound₂.shaped ((hSame msgId).mp hMsg)]
    exact .error ⟨hAlike, hSame⟩
  obtain ⟨text₁, hText₁⟩ := hAlike.sound₁.shaped.text hMsg
  obtain ⟨text₂, hText₂⟩ := hAlike.sound₂.shaped.text (fun h => hMsg ((hSame msgId).mpr h))
  by_cases hOwns : Owns db₁ d msgId
  · obtain ⟨hMsgs, hMetas⟩ := hAlike.agree.messages msgId (.inl hOwns)
    rw [hMsgs, hText₂] at hText₁
    rw [hMetas, hFields₂] at hFields₁
    cases hText₁
    cases hFields₁
    rw [(getMessage_some env hd (hMsgs.trans hText₂) (by rw [hMetas, hFields₂]) hNodup₁).1 hOwns,
      (getMessage_some env hd hText₂ hFields₂ hNodup₂).1 ((hAlike.agree.owns_iff msgId).mp hOwns)]
    exact .ok rfl ⟨hAlike, hSame⟩
  · have hOwns₂ : ¬ Owns db₂ d msgId := fun h => hOwns ((hAlike.agree.owns_iff msgId).mpr h)
    rw [(getMessage_some env hd hText₁ hFields₁ hNodup₁).2 hOwns,
      (getMessage_some env hd hText₂ hFields₂ hNodup₂).2 hOwns₂]
    exact .error ⟨hAlike, hSame⟩

variable {session : Common.Session}

theorem size_didHash (hd : session.didHash.utf8ByteSize = 64) : session.didHash ≠ "" ∧
    session.didHash.utf8ByteSize ≤ protoMaxBulkLen := by
  constructor
  · intro hEmpty
    rw [hEmpty] at hd
    cases hd
  · rw [hd]
    decide

theorem coupled_messageOutboundHandler (hd : session.didHash.utf8ByteSize = 64) (messageIds : List String)
    (delete : Bool) :
    Coupled (fun db₁ db₂ => Alike session.didHash db₁ db₂ ∧ SameMessages db₁ db₂) Eq
      (messageOutboundHandler env session messageIds delete)
      (messageOutboundHandler env session messageIds delete) := by
  obtain ⟨hNe, hSmall⟩ := size_didHash hd
  refine Coupled.foldlM (fun messages msgId => ?_) messageIds _
  refine (coupled_getMessage env hNe msgId).attempt.bind ?_
  rintro outcome _ rfl
  cases outcome with
  | error e => exact .pure rfl
  | ok msg =>
    dsimp only
    cases delete with
    | false => exact .pure rfl
    | true =>
      refine (coupled_deleteMessage env hSmall (fun x _ _ _ _ hSame => hSame.takenOut) _ msgId).attempt.bind ?_
      rintro outcome _ rfl
      exact .pure rfl

theorem coupled_messageDeleteHandler (hd : session.didHash.utf8ByteSize = 64) (maxDeletedMessages : Nat)
    (messageIds : List String) :
    Coupled (fun db₁ db₂ => Alike session.didHash db₁ db₂ ∧ True) Eq
      (messageDeleteHandler env session maxDeletedMessages messageIds)
      (messageDeleteHandler env session maxDeletedMessages messageIds) := by
  unfold messageDeleteHandler
  split
  · exact .throw _
  · refine Coupled.foldlM (fun deleted message => ?_) messageIds _
    refine (coupled_deleteMessage env (size_didHash hd).2 (fun _ _ _ _ _ _ _ _ => trivial) _ message).attempt.bind ?_
    rintro outcome _ rfl
    cases outcome with
    | error e => exact .pure rfl
    | ok u => exact .pure rfl

section
variable {db₁ db₂ : Db} {d : String}

theorem ends_ofKey {α : Type} {k : Key} (hk : db₁ k = db₂ k) (f : Option Value → Except RedisError α) :
    Ends (fun s t => s = db₁ ∧ t = db₂) Eq (ofKey k f db₁) (ofKey k f db₂) := by
  unfold ofKey
  rw [hk]
  cases f (db₂ k) with
  | ok a => exact .ok rfl ⟨rfl, rfl⟩
  | error e => exact .error ⟨rfl, rfl⟩

theorem ends_query {α β : Type} {R : Db → Db → Prop} {Q : α → β → Prop} {c : Script α} {c' : Script β}
    (h : Ends R Q (c db₁) (c' db₂)) (sessionId context : String) :
    Ends R Q (DatabaseHandler.query env sessionId context c db₁)
      (DatabaseHandler.query env sessionId context c' db₂) := by
  unfold DatabaseHandler.query
  generalize c db₁ = r, c' db₂ = r' at h
  cases h with
  | ok hQ hR => exact .ok hQ hR
  | error hR => exact .error hR

theorem ends_listMessages {folder : Folder} (hQueue : db₁ (folder.side.queue d) = db₂ (folder.side.queue d))
    (limit : Nat) :
    Ends (fun s t => s = db₁ ∧ t = db₂) Eq (DatabaseHandler.listMessages env d folder limit db₁)
      (DatabaseHandler.listMessages env d folder limit db₂) := by
  refine (ends_query env (ends_ofKey hQueue _) _ _).bind ?_
  rintro items _ s t rfl hStates
  exact .ok rfl hStates

theorem ends_pageEntries (hQueue : db₁ (.receiveQ d) = db₂ (.receiveQ d)) (options : FetchOptions) :
    Ends (fun s t => s = db₁ ∧ t = db₂) Eq (pageEntries d options db₁) (pageEntries d options db₂) := by
  unfold pageEntries
  split
  · refine (ends_ofKey hQueue _).bind ?_
    rintro list _ s t rfl hStates
    cases list with
    | none => exact .error hStates
    | some items => exact .ok rfl hStates
  · exact .error ⟨rfl, rfl⟩

/-- The pages of alike databases say the same, if their entries do. -/
theorem ends_readPage (hAlike : Alike d db₁ db₂) (options : FetchOptions)
    (hSeen : ∀ items db', pageEntries d options db₁ = .ok items db' →
      ∀ e ∈ items, e ∈ entriesAt db₁ (.receiveQ d) ∧ listed db₁ e = listed db₂ e) :
    Ends (Alike d) (fun r₁ r₂ => r₁.map DatabaseHandler.fetched = r₂.map DatabaseHandler.fetched)
      (DatabaseHandler.readPage env d options db₁) (DatabaseHandler.readPage env d options db₂) := by
  rw [readPage_eq]
  refine ends_query env ?_ _ _
  have hPage : Ends (fun s t => s = db₁ ∧ t = db₂ ∧ Alike d s t) _ _ _ :=
    (ends_pageEntries hAlike.agree.receiveQ options).ran.weaken
      (fun s t h => ⟨h.1, h.2, h.1 ▸ h.2 ▸ hAlike⟩) fun _ _ h => h
  refine Ends.weaken (hPage.bind ?_) (fun s t h => h.2.2) fun _ _ h => h
  rintro items _ s t ⟨rfl, db', hItems⟩ ⟨rfl, rfl, -⟩
  have hShapes : ∀ e ∈ items, ∃ h bytes other, e.fields = [("MSG_ID", h), ("BYTES", bytes), other] :=
    fun e he => entry_shape hAlike.sound₁ (hSeen items db' hItems e he).1
  obtain ⟨elements₁, hElements₁, hListed₁⟩ := DatabaseHandler.fetchElements_listed hAlike.sound₁ hShapes
  obtain ⟨elements₂, hElements₂, hListed₂⟩ := DatabaseHandler.fetchElements_listed hAlike.sound₂ hShapes
  rw [hElements₁, hElements₂]
  refine .ok ?_ ⟨rfl, rfl, hAlike⟩
  rw [hListed₁, hListed₂]
  exact List.map_congr_left fun e he => (hSeen items db' hItems e he).2

theorem coupled_fetchAll (hd : d.utf8ByteSize ≤ protoMaxBulkLen) (sessionId : String)
    (policy : FetchDeletePolicy) (results₁ : List (List String)) :
    ∀ results₂ messages, results₁.map DatabaseHandler.fetched = results₂.map DatabaseHandler.fetched →
      Coupled (fun s t => Alike d s t ∧ True) Eq
        (DatabaseHandler.fetchAll env sessionId d policy results₁ messages)
        (DatabaseHandler.fetchAll env sessionId d policy results₂ messages) := by
  induction results₁ with
  | nil =>
    intro results₂ messages hSame
    obtain rfl := List.map_eq_nil_iff.mp hSame.symm
    exact .pure rfl
  | cons subItem₁ rest₁ ih =>
    rintro (_ | ⟨subItem₂, rest₂⟩) messages hSame
    · cases hSame
    obtain ⟨hHead, hTail⟩ := List.cons.inj hSame
    refine Coupled.bind (Q := Eq) ?_ fun messages _ hMessages => hMessages ▸ ih rest₂ messages hTail
    unfold DatabaseHandler.fetchOne
    rw [hHead]
    cases policy with
    | optimistic =>
      refine (coupled_deleteMessage env hd (fun _ _ _ _ _ _ _ _ => trivial) _ _).attempt.bind ?_
      rintro outcome _ rfl
      exact .pure rfl
    | onReceive => exact .pure rfl
    | doNotDelete => exact .pure rfl

theorem mem_of_pageEntries {options : FetchOptions} {items : List StreamEntry} {db' : Db}
    (h : pageEntries d options db₁ = .ok items db') : db' = db₁ ∧ ∀ e ∈ items, e ∈ entriesAt db₁ (.receiveQ d) := by
  unfold pageEntries at h
  split at h
  · obtain ⟨list, db₂, hRange, hList⟩ := (bind_ok_iff _ _ _ _ _).mp h
    cases list with
    | none => cases hList
    | some items' =>
      cases hList
      exact DatabaseHandler.mem_of_xrange hRange
  · cases h

theorem mem_of_listable {digits : DigitClass} {e : StreamEntry} (h : Listable digits db₁ d e) :
    e ∈ entriesAt db₁ (.receiveQ d) := by
  obtain ⟨options, items, db', -, hItems, he⟩ := h
  exact (mem_of_pageEntries hItems).2 e he

theorem outcome_inboxFetchHandler {digits : DigitClass} (hd : session.didHash.utf8ByteSize = 64)
    (hAlike : Alike session.didHash db₁ db₂) (options : FetchOptions)
    (hSeen : ∀ e, Listable digits db₁ session.didHash e → listed db₁ e = listed db₂ e) :
    outcome (inboxFetchHandler env digits session options) db₁ =
      outcome (inboxFetchHandler env digits session options) db₂ := by
  unfold inboxFetchHandler
  split
  · rfl
  split
  · rfl
  have hAccepted : options.Accepted digits := by
    unfold FetchOptions.Accepted
    refine ⟨by omega, by omega, ?_⟩
    simpa using ‹¬ (options.startId.any fun startId => !digits.isMatch startId) = true›
  have hPage := ends_readPage env hAlike options fun items db' hItems e he =>
    ⟨(mem_of_pageEntries hItems).2 e he, hSeen e ⟨options, items, db', hAccepted, hItems, he⟩⟩
  have hAll : Ends (fun s t => Alike session.didHash s t ∧ True) Eq
      (DatabaseHandler.fetchMessages env session.sessionId session.didHash options db₁)
      (DatabaseHandler.fetchMessages env session.sessionId session.didHash options db₂) := by
    rw [DatabaseHandler.fetchMessages_eq]
    refine Ends.bind (hPage.weaken (fun s t h => ⟨h, trivial⟩) fun _ _ h => h) ?_
    intro results₁ results₂ s t hSame hStates
    exact coupled_fetchAll env (size_didHash hd).2 _ _ results₁ results₂ _ hSame s t hStates
  exact hAll.outcome_eq

/-- Entries are listed alike when their digests are seen alike. -/
theorem listed_eq_iff (hdb₁ : Sound db₁) (hdb₂ : Sound db₂) {e : StreamEntry} {h bytes : String}
    {other : String × String} (hFields : e.fields = [("MSG_ID", h), ("BYTES", bytes), other]) :
    listed db₁ e = listed db₂ e ↔ SeenAlike db₁ db₂ h := by
  rw [DatabaseHandler.listed_eq hdb₁ hFields, DatabaseHandler.listed_eq hdb₂ hFields]
  constructor
  · intro hEq
    injection hEq with _ hSend hReceive hSize hTime hTo _ hMsg
    refine ⟨hMsg, ?_, ?_⟩
    · simp only [List.mem_cons, List.not_mem_nil, or_false, forall_eq_or_imp, forall_eq]
      exact ⟨hSend, hReceive, hTo⟩
    · simp only [List.mem_cons, List.not_mem_nil, or_false, forall_eq_or_imp, forall_eq]
      exact ⟨hSize, hTime⟩
  · intro hSeen
    rw [hSeen.bytes, hSeen.texts "SEND_ID" (by simp), hSeen.texts "RECEIVE_ID" (by simp),
      hSeen.texts "TO" (by simp), hSeen.numbers "BYTES" (by simp), hSeen.numbers "TIMESTAMP" (by simp)]

end

end

section
variable {shared : SharedData} {truncate : String → Int} {clock : Clock} {sessionId did : String} {db₁ db₂ : Db}

theorem statusRecipient_ok {msg : Message} {recipient : String}
    (h : MessagePickup.statusRecipient shared (Common.Session.authenticated shared.env sessionId did) msg =
      .ok recipient) : recipient = shared.env.digest did := by
  unfold MessagePickup.statusRecipient at h
  split at h
  · split at h
    · cases h
    · rename_i hDid
      cases h
      rw [not_not.mp hDid]
      rfl
  · cases h
    rfl

theorem outcome_statusRequest (hAlike : Alike (shared.env.digest did) db₁ db₂) (msg : Message) :
    outcome (MessagePickup.statusRequest shared truncate clock
        (Common.Session.authenticated shared.env sessionId did) msg) db₁ =
      outcome (MessagePickup.statusRequest shared truncate clock
        (Common.Session.authenticated shared.env sessionId did) msg) db₂ := by
  have hResponse : statusResponse shared.env.strtod truncate db₁ (shared.env.digest did) =
      statusResponse shared.env.strtod truncate db₂ (shared.env.digest did) := by
    unfold statusResponse
    rw [field_congr hAlike.agree.counters, field_congr hAlike.agree.counters, hAlike.agree.receiveQ,
      hAlike.agree.streaming]
  unfold MessagePickup.statusRequest
  cases MessagePickup.validateMsg shared clock (Common.Session.authenticated shared.env sessionId did) msg with
  | error e => rfl
  | ok u =>
    cases hRecipient : MessagePickup.statusRecipient shared
      (Common.Session.authenticated shared.env sessionId did) msg with
    | error e => rfl
    | ok recipient =>
      obtain rfl := statusRecipient_ok hRecipient
      change Fallible.outcome (onDatabase (MessagePickup.generateStatusReply shared truncate clock _ _ _ _ _)) db₁ =
        Fallible.outcome (onDatabase (MessagePickup.generateStatusReply shared truncate clock _ _ _ _ _)) db₂
      unfold Fallible.outcome onDatabase
      rw [MessagePickup.generateStatusReply_run did hAlike.sound₁.shaped,
        MessagePickup.generateStatusReply_run did hAlike.sound₂.shaped, hResponse]

theorem outbound_error {env : Environment} {session : Common.Session} {msgId : String} {e : MediatorError}
    {db : Db} (h : DatabaseHandler.getMessage env session.didHash msgId db = .error e db) :
    outcome (messageOutboundHandler env session [msgId] false) db = .ok { getErrors := [(msgId, e.text)] } := by
  have hAttempt : attempt (DatabaseHandler.getMessage env session.didHash msgId) db = .ok (.error e) db := by
    rw [attempt, h]
  have hOne : outboundMessage env session false {} msgId db = .ok { getErrors := [(msgId, e.text)] } db :=
    (bind_of_ok hAttempt).trans rfl
  unfold Fallible.outcome messageOutboundHandler
  rw [List.foldlM_cons, bind_of_ok hOne]
  rfl

/-- The text of the error tells whether there are bytes under a digest. -/
theorem not_found_ne (msgId didHash : String) :
    (MediatorError.databaseError didHash ("Message not found for ID: " ++ msgId)).text ≠
      (MediatorError.databaseError didHash ("Message not found for DID: " ++ didHash)).text := by
  intro hText
  have hRest := append_left_injective hText
  have hHead := congrArg (fun s : String => s.toList.take 23) hRest
  rw [take_append _ _ _ (by decide), take_append _ _ _ (by decide)] at hHead
  revert hHead
  decide

/-- An outbound request tells bytes that are another DID's from no bytes. -/
theorem outbound_ne {env : Environment} {session : Common.Session} (hd : session.didHash ≠ "") {msgId : String}
    (h₁ : Shaped db₁) (h₂ : Shaped db₂) (hNone : db₁ (.msg msgId) = none) (hSome : db₂ (.msg msgId) ≠ none)
    (hOwns : ¬ Owns db₂ session.didHash msgId) :
    outcome (messageOutboundHandler env session [msgId] false) db₁ ≠
      outcome (messageOutboundHandler env session [msgId] false) db₂ := by
  obtain ⟨text, hText⟩ := h₂.text hSome
  obtain ⟨fields, hFields, hNodup⟩ := h₂.metadata msgId
  rw [outbound_error (getMessage_none env h₁ hNone),
    outbound_error ((getMessage_some env hd hText hFields hNodup).2 hOwns)]
  intro hEq
  simp only [Except.ok.injEq, GetMessagesResponse.mk.injEq, List.cons.injEq, Prod.mk.injEq, true_and, and_true]
    at hEq
  exact not_found_ne _ _ hEq

theorem sameMessages_of_outbound {env : Environment} {session : Common.Session} (hd : session.didHash ≠ "")
    (hAlike : Alike session.didHash db₁ db₂)
    (hSame : ∀ msgId, outcome (messageOutboundHandler env session [msgId] false) db₁ =
      outcome (messageOutboundHandler env session [msgId] false) db₂) : SameMessages db₁ db₂ := by
  intro msgId
  by_cases hOwns : Owns db₁ session.didHash msgId
  · rw [(hAlike.agree.messages msgId (.inl hOwns)).1]
  have hOwns₂ : ¬ Owns db₂ session.didHash msgId := fun h => hOwns ((hAlike.agree.owns_iff msgId).mpr h)
  constructor
  · intro hNone
    by_contra hSome
    exact outbound_ne hd hAlike.sound₁.shaped hAlike.sound₂.shaped hNone hSome hOwns₂ (hSame msgId)
  · intro hNone
    by_contra hSome
    exact outbound_ne hd hAlike.sound₂.shaped hAlike.sound₁.shaped hNone hSome hOwns (hSame msgId).symm

theorem outcome_fetch {env : Environment} {digits : DigitClass} {session : Common.Session}
    {options : FetchOptions} (hdb : Sound db₁) (hAccepted : options.Accepted digits) {items : List StreamEntry}
    {db' : Db} (hItems : pageEntries session.didHash options db₁ = .ok items db') :
    outcome (inboxFetchHandler env digits session { options with deletePolicy := .doNotDelete }) db₁ =
      .ok { success := items.map (listed db₁) } := by
  obtain ⟨hMin, hMax, hStart⟩ := hAccepted
  obtain ⟨rfl, hMem⟩ := mem_of_pageEntries hItems
  obtain ⟨results, hResults, hListed⟩ := DatabaseHandler.fetchElements_listed hdb
    fun e he => entry_shape hdb (hMem e he)
  have hRead : DatabaseHandler.readPage env session.didHash options db' = .ok results db' := by
    rw [readPage_eq]
    exact DatabaseHandler.query_of_ok ((bind_of_ok hItems).trans hResults)
  have hRead' : DatabaseHandler.readPage env session.didHash { options with deletePolicy := .doNotDelete } db' =
      .ok results db' := hRead
  have hFetch : DatabaseHandler.fetchMessages env session.sessionId session.didHash
      { options with deletePolicy := .doNotDelete } db' = .ok { success := items.map (listed db') } db' := by
    rw [DatabaseHandler.fetchMessages_eq, bind_of_ok hRead', DatabaseHandler.fetchAll_doNotDelete, hListed]
    rfl
  have hHandler : inboxFetchHandler env digits session { options with deletePolicy := .doNotDelete } =
      DatabaseHandler.fetchMessages env session.sessionId session.didHash
        { options with deletePolicy := .doNotDelete } := by
    unfold inboxFetchHandler
    rw [if_neg (by simpa using ⟨by omega, by omega⟩), if_neg (by simpa using hStart)]
  unfold Fallible.outcome
  rw [hHandler, hFetch]

theorem Alike.pageEntries_eq {d : String} {options : FetchOptions} {items : List StreamEntry}
    (h : Alike d db₁ db₂) (hItems : pageEntries d options db₁ = .ok items db₁) :
    pageEntries d options db₂ = .ok items db₂ := by
  have hEnds := ends_pageEntries h.agree.receiveQ options
  rw [hItems] at hEnds
  generalize pageEntries d options db₂ = r at hEnds
  cases hEnds with
  | ok hQ hR => rw [hQ, hR.2]

theorem outcome_messageListHandler {env : Environment} {session : Common.Session}
    (h : AgreeFor session.didHash db₁ db₂) (maxListedMessages : Nat) (didHash : String) (folder : Folder) :
    outcome (messageListHandler env session maxListedMessages didHash folder) db₁ =
      outcome (messageListHandler env session maxListedMessages didHash folder) db₂ := by
  unfold messageListHandler
  split
  · rfl
  rename_i hDid
  obtain rfl := not_not.mp hDid
  refine (ends_listMessages env ?_ maxListedMessages).outcome_eq
  cases folder with
  | inbox => exact h.receiveQ
  | outbox => exact h.sendQ

end

def ciaoToBob (usec : Fin 1000000) : DatabaseCall :=
  .storeMessage (sampleTime usec) "s" ⟨"ciao", ciao_nonempty⟩ "did:example:bob" none

def ciaoStored (usec : Fin 1000000) : Db := (ciaoToBob usec).run sampleEnvironment helloStored

theorem ciaoStored_other (usec : Fin 1000000) {h : String} (hOther : h ≠ sampleDigest "ciao") :
    ciaoStored usec (.msg h) = helloStored (.msg h) ∧ ciaoStored usec (.msgMeta h) = helloStored (.msgMeta h) := by
  have hHello : (mediatorCalls sampleEnvironment).Reachable helloStored :=
    .step (l := .database helloToAlice) (.init rfl) rfl
  obtain ⟨hSound, hDigests⟩ := sound_of_mediatorCalls hHello
  obtain ⟨db', hKeeps, hRun⟩ := storeMessage_keeps sampleEnvironment hSound hDigests ciao_nonempty
    (sampleTime usec) "s" "did:example:bob" none
  have hDb' : ciaoStored usec = db' := by
    rcases hRun with hRun | ⟨⟨e, hRun⟩, -⟩
    · exact stateAfter_of_ok hRun
    · exact stateAfter_of_error hRun
  rw [hDb']
  exact hKeeps.others h hOther

/-- "hello" stored for bob on an empty database. -/
def helloForBob : DatabaseCall :=
  .storeMessage ⟨1700000000, 100000, firstUsec_lt⟩ "s" ⟨"hello", hello_nonempty⟩ "did:example:bob" none

end AffinidiMessaging.Mediator
