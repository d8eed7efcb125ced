import AffinidiMessaging.Library.Transition
import AffinidiMessaging.Mediator.ReadPaths

/-! # Optimistic fetches side by side

A fetch reads its page in one call and deletes what it has read message by message. Other fetches,
deletes and stores come in between, and the bytes of a message may come back under their digest.
-/

namespace AffinidiMessaging.Mediator

open Redis Text Fallible Transition

namespace DatabaseHandler

theorem fetchMessages_eq (env : Environment) (sessionId didHash : String) (options : FetchOptions) :
    fetchMessages env sessionId didHash options =
      readPage env didHash options >>= fun results => fetchAll env sessionId didHash options.deletePolicy results {} :=
  rfl

end DatabaseHandler

/-- An optimistic fetch that has read its page: what it has still to delete, what it has noted, and the
messages that it took out with the bytes that were stored. -/
structure Fetch where
  sessionId : String
  didHash : String
  pending : List (List String)
  messages : GetMessagesResponse := {}
  deleted : List (String × Option String) := []

/-- What a fetch makes of the outcome of the delete of its next message. -/
def Fetch.note (f : Fetch) (db : Db) (subItem : List String) (rest : List (List String))
    (outcome : Except MediatorError Unit) : Fetch :=
  let message := DatabaseHandler.fetched subItem
  let messages := DatabaseHandler.noteDelete message.msgId outcome f.messages
  { f with
    pending := rest
    messages := { messages with success := messages.success ++ [message] }
    deleted := match outcome with
      | .ok () => f.deleted ++ [(message.msgId, storedBytes db message.msgId)]
      | .error _ => f.deleted }

/-- What has succeeded. -/
inductive InboxEvent
  | stored (messageHash : String)
  | deleted (messageHash : String)
deriving DecidableEq

/-- The database, the fetches that have read their page, and what has succeeded, the last of it first. -/
structure Inboxes where
  db : Db
  fetches : List Fetch
  log : List InboxEvent

/-- The single calls of the database that the requests consist of. -/
inductive InboxCall
  | storeMessage (time : ServerTime) (sessionId : String) (message : PackedMessage) (toDid : String)
    (fromDid : Option String)
  | deleteMessage (sessionId didHash messageHash : String)
  | readPage (sessionId didHash : String) (options : FetchOptions)
  | deleteNext (i : Nat)

def InboxEvent.ofDelete (messageHash : String) : Except MediatorError Unit → List InboxEvent
  | .ok () => [.deleted messageHash]
  | .error _ => []

/-- A delete, its outcome and the database after it. -/
def deleteOutcome (env : Environment) (sessionId didHash messageHash : String) (db : Db) :
    Except MediatorError Unit × Db :=
  match DatabaseHandler.deleteMessage env sessionId didHash messageHash db with
  | .ok _ db' => (.ok (), db')
  | .error e db' => (.error e, db')

def InboxCall.run (env : Environment) (s : Inboxes) : InboxCall → Inboxes
  | .storeMessage time sessionId message toDid fromDid =>
    match DatabaseHandler.storeMessage env time sessionId message.text toDid fromDid s.db with
    | .ok messageHash db' => { s with db := db', log := .stored messageHash :: s.log }
    | .error _ db' => { s with db := db' }
  | .deleteMessage sessionId didHash messageHash =>
    let (outcome, db') := deleteOutcome env sessionId didHash messageHash s.db
    { s with db := db', log := InboxEvent.ofDelete messageHash outcome ++ s.log }
  | .readPage sessionId didHash options =>
    match DatabaseHandler.readPage env didHash options s.db with
    | .ok results db' => { s with db := db', fetches := s.fetches ++ [⟨sessionId, didHash, results, {}, []⟩] }
    | .error _ db' => { s with db := db' }
  | .deleteNext i =>
    match s.fetches[i]? with
    | none => s
    | some f =>
      match f.pending with
      | [] => s
      | subItem :: rest =>
        let messageHash := (DatabaseHandler.fetched subItem).msgId
        let (outcome, db') := deleteOutcome env f.sessionId f.didHash messageHash s.db
        { db := db'
          fetches := s.fetches.set i (f.note s.db subItem rest outcome)
          log := InboxEvent.ofDelete messageHash outcome ++ s.log }

def inboxCalls (env : Environment) : System Inboxes InboxCall where
  init s := s = ⟨fun _ => none, [], []⟩
  step s call s' := s' = call.run env s

/-- What a fetch reports of what it has listed and deleted so far. -/
structure Fetch.Reports (f : Fetch) : Prop where
  deleted : ∀ p ∈ f.deleted, ∃ bytes, p.2 = some bytes ∧
    ∃ message ∈ f.messages.success, message.msgId = p.1 ∧ message.msg = some bytes
  kept : ∀ message ∈ f.messages.success, (∃ bytes, (message.msgId, bytes) ∈ f.deleted) ∨
    ∃ text, (message.msgId, text) ∈ f.messages.deleteErrors

/-- Between two deletes of a message it was stored. -/
def DeletedOnce (log : List InboxEvent) : Prop :=
  ∀ h later between earlier, log = later ++ .deleted h :: (between ++ .deleted h :: earlier) →
    .stored h ∈ between

/-- Nothing is deleted twice, and what is deleted by a fetch is in its hands. -/
structure NothingLost (s : Inboxes) : Prop where
  once : DeletedOnce s.log
  reports : ∀ f ∈ s.fetches, f.Reports

section
variable (env : Environment) {db : Db}

/-- What a store leaves of the messages: the new bytes and their metadata, or metadata as before. -/
structure StoreKeeps (messageHash message : String) (db db' : Db) : Prop where
  sound : Sound db'
  digested : Digested db'
  others : ∀ x, x ≠ messageHash → db' (.msg x) = db (.msg x) ∧ db' (.msgMeta x) = db (.msgMeta x)
  bytes : db' = db ∨ storedBytes db' messageHash = some message

theorem storeMessage_keeps (hSound : Sound db) (hDigests : Digested db) {message : String}
    (hMessage : message ≠ "") (time : ServerTime) (sessionId toDid : String) (fromDid : Option String) :
    ∃ db', StoreKeeps (env.digest message) message db db' ∧
      (DatabaseHandler.storeMessage env time sessionId message toDid fromDid db = .ok (env.digest message) db' ∨
        (∃ e, DatabaseHandler.storeMessage env time sessionId message toDid fromDid db = .error e db') ∧
          ∀ x, db' (.msgMeta x) = db (.msgMeta x)) := by
  have hOutcome := DatabaseHandler.storeMessage_outcome env hSound hDigests hMessage time sessionId toDid fromDid
  rcases DatabaseHandler.storeMessage_cases env time sessionId message toDid fromDid db with
    ⟨e, hRun⟩ | ⟨hSmall, ⟨answer, db', hRecords, hRun⟩ | ⟨e, e', db', hRecords, hRun⟩⟩
  · exact ⟨db, ⟨hSound, hDigests, fun _ _ => ⟨rfl, rfl⟩, .inl rfl⟩, .inr ⟨⟨e, hRun⟩, fun _ => rfl⟩⟩
  · rw [stateAfter_of_ok hRun] at hOutcome
    obtain ⟨-, id, hStored⟩ := DatabaseHandler.storeMessage_effect hRun
    refine ⟨db', ⟨hOutcome.sound, hOutcome.digested, hOutcome.others, .inr ?_⟩, .inl hRun⟩
    rw [storedBytes, hStored.msg]
  · rw [stateAfter_of_error hRun] at hOutcome
    have hGrows := DatabaseHandler.grows_of_records_error hSound.shaped hSmall hRecords
    refine ⟨db', ⟨hOutcome.sound, hOutcome.digested, hOutcome.others, .inr ?_⟩,
      .inr ⟨⟨e', hRun⟩, hGrows.metadata⟩⟩
    rw [storedBytes, DatabaseHandler.msg_of_records_error hRecords]

/-- What a delete that succeeds takes out. -/
structure TakesOut (messageHash : String) (db db' : Db) : Prop where
  sound : Sound db'
  digested : Digested db'
  there : db (.msgMeta messageHash) ≠ none
  msg : db' (.msg messageHash) = none
  metadata : db' (.msgMeta messageHash) = none
  others : ∀ x, x ≠ messageHash → db' (.msg x) = db (.msg x) ∧ db' (.msgMeta x) = db (.msgMeta x)

theorem deleteOutcome_cases (hSound : Sound db) (hDigests : Digested db)
    (sessionId didHash messageHash : String) :
    (∃ e, deleteOutcome env sessionId didHash messageHash db = (.error e, db)) ∨
      ∃ db', deleteOutcome env sessionId didHash messageHash db = (.ok (), db') ∧
        TakesOut messageHash db db' := by
  have hOutcome := DatabaseHandler.deleteMessage_outcome env hSound hDigests sessionId didHash messageHash
  unfold deleteOutcome
  rcases DatabaseHandler.deleteMessage_sound env hSound sessionId didHash messageHash with ⟨e, hRun⟩ |
    ⟨fields, n, id, db', hMeta, -, -, hDeleted, hSound', hRun⟩
  · exact .inl ⟨e, by rw [hRun]⟩
  · rw [stateAfter_of_ok hRun] at hOutcome
    refine .inr ⟨db', by rw [hRun], hSound', hOutcome.digested, by simp [hMeta], hDeleted.msg, hDeleted.metadata, ?_⟩
    intro x hx
    exact ⟨hDeleted.others _ trivial (by simpa using hx) (by simp),
      hDeleted.others _ trivial (by simp) (by simpa using hx)⟩

variable {env} in
theorem takesOut_of_deleteMessage (hSound : Sound db) (hDigests : Digested db)
    {sessionId didHash messageHash : String} {u : Unit} {db' : Db}
    (h : DatabaseHandler.deleteMessage env sessionId didHash messageHash db = .ok u db') :
    TakesOut messageHash db db' := by
  rcases deleteOutcome_cases env hSound hDigests sessionId didHash messageHash with
    ⟨e, hRun⟩ | ⟨db₁, hRun, hTakes⟩
  · rw [deleteOutcome, h] at hRun
    cases hRun
  · rw [deleteOutcome, h] at hRun
    cases hRun
    exact hTakes

end

theorem fetchOne_optimistic (env : Environment) (f : Fetch) (subItem : List String)
    (rest : List (List String)) (db : Db) :
    DatabaseHandler.fetchOne env f.sessionId f.didHash .optimistic subItem f.messages db =
      .ok (f.note db subItem rest (deleteOutcome env f.sessionId f.didHash
          (DatabaseHandler.fetched subItem).msgId db).1).messages
        (deleteOutcome env f.sessionId f.didHash (DatabaseHandler.fetched subItem).msgId db).2 := by
  unfold DatabaseHandler.fetchOne deleteOutcome
  dsimp only
  cases hRun : DatabaseHandler.deleteMessage env f.sessionId f.didHash
    (DatabaseHandler.fetched subItem).msgId db <;>
    exact (bind_of_ok (by rw [attempt, hRun])).trans rfl

/-- The deletes of a fetch, one after the other with nothing in between, are the rest of
`fetch_messages`. -/
theorem fetchAll_deleteNext (env : Environment) (i : Nat) (results : List (List String)) :
    ∀ (s : Inboxes) (f : Fetch), s.fetches[i]? = some f → f.pending = results →
      ∃ s' f', s' = (fun s => InboxCall.run env s (.deleteNext i))^[results.length] s ∧
        s'.fetches[i]? = some f' ∧ f'.pending = [] ∧
        DatabaseHandler.fetchAll env f.sessionId f.didHash .optimistic results f.messages s.db =
          .ok f'.messages s'.db := by
  induction results with
  | nil => exact fun s f hf hPending => ⟨s, f, rfl, hf, hPending, rfl⟩
  | cons subItem rest ih =>
    intro s f hf hPending
    have hLt : i < s.fetches.length := (List.getElem?_eq_some_iff.mp hf).1
    have hOne := fetchOne_optimistic env f subItem rest s.db
    obtain ⟨s', f', hs', hf', hDone, hAll⟩ := ih (InboxCall.run env s (.deleteNext i))
      (f.note s.db subItem rest (deleteOutcome env f.sessionId f.didHash
        (DatabaseHandler.fetched subItem).msgId s.db).1)
      (by simp only [InboxCall.run, hf, hPending, List.getElem?_set_self hLt]) rfl
    refine ⟨s', f', by rw [hs', List.length_cons, Function.iterate_succ_apply], hf', hDone, ?_⟩
    refine (bind_of_ok hOne).trans ?_
    rw [← hAll]
    simp only [InboxCall.run, hf, hPending]
    rfl

theorem DeletedOnce.nil : DeletedOnce [] := by
  intro h later between earlier hLog
  simp at hLog

theorem DeletedOnce.stored {log : List InboxEvent} (hLog : DeletedOnce log) (x : String) :
    DeletedOnce (.stored x :: log) := by
  intro h later between earlier hEq
  cases later with
  | nil => cases hEq
  | cons event later =>
    cases hEq
    exact hLog h later between earlier rfl

theorem DeletedOnce.deleted {log : List InboxEvent} (hLog : DeletedOnce log) {x : String}
    (hStored : ∀ later earlier, log = later ++ .deleted x :: earlier → .stored x ∈ later) :
    DeletedOnce (.deleted x :: log) := by
  intro h later between earlier hEq
  cases later with
  | nil =>
    cases hEq
    exact hStored between earlier rfl
  | cons event later =>
    cases hEq
    exact hLog h later between earlier rfl

/-- What every order of the calls keeps: a message that was deleted and not stored again is gone. -/
structure Accounted (s : Inboxes) : Prop where
  sound : Sound s.db
  digested : Digested s.db
  gone : ∀ h later earlier, s.log = later ++ .deleted h :: earlier → .stored h ∉ later →
    s.db (.msgMeta h) = none
  once : DeletedOnce s.log

namespace Accounted

variable {env : Environment} {s : Inboxes}

theorem empty : Accounted ⟨fun _ => none, [], []⟩ where
  sound := .empty
  digested := by simp [Digested]
  gone h later earlier hLog := by simp at hLog
  once := .nil

theorem stored (hs : Accounted s) {x message : String} {db' : Db} (h : StoreKeeps x message s.db db')
    (fetches : List Fetch) : Accounted ⟨db', fetches, .stored x :: s.log⟩ where
  sound := h.sound
  digested := h.digested
  gone y later earlier hLog hNot := by
    cases later with
    | nil => cases hLog
    | cons event later =>
      obtain ⟨rfl, hRest⟩ := List.cons.inj hLog
      rw [List.mem_cons, not_or] at hNot
      have hNe : y ≠ x := fun hEq => hNot.1 (by rw [hEq])
      exact (h.others y hNe).2.trans (hs.gone y later earlier hRest hNot.2)
  once := hs.once.stored x

theorem unchanged (hs : Accounted s) {db' : Db} (hSound : Sound db') (hDigests : Digested db')
    (hMeta : ∀ x, db' (.msgMeta x) = s.db (.msgMeta x)) (fetches : List Fetch) :
    Accounted ⟨db', fetches, s.log⟩ where
  sound := hSound
  digested := hDigests
  gone y later earlier hLog hNot := (hMeta y).trans (hs.gone y later earlier hLog hNot)
  once := hs.once

theorem deleted (hs : Accounted s) {x : String} {db' : Db} (h : TakesOut x s.db db')
    (fetches : List Fetch) : Accounted ⟨db', fetches, .deleted x :: s.log⟩ where
  sound := h.sound
  digested := h.digested
  gone y later earlier hLog hNot := by
    cases later with
    | nil =>
      cases hLog
      exact h.metadata
    | cons event later =>
      obtain ⟨rfl, hRest⟩ := List.cons.inj hLog
      have hGone := hs.gone y later earlier hRest fun hMem => hNot (List.mem_cons_of_mem _ hMem)
      have hNe : y ≠ x := fun hEq => h.there (hEq ▸ hGone)
      exact (h.others y hNe).2.trans hGone
  once := by
    refine hs.once.deleted fun later earlier hLog => ?_
    by_contra hNot
    exact h.there (hs.gone x later earlier hLog hNot)

theorem deleteOutcome (hs : Accounted s) (sessionId didHash messageHash : String) (fetches : List Fetch) :
    Accounted ⟨(deleteOutcome env sessionId didHash messageHash s.db).2, fetches,
      InboxEvent.ofDelete messageHash (Mediator.deleteOutcome env sessionId didHash messageHash s.db).1 ++ s.log⟩ := by
  rcases deleteOutcome_cases env hs.sound hs.digested sessionId didHash messageHash with
    ⟨e, hRun⟩ | ⟨db', hRun, hTakes⟩
  · rw [hRun]
    exact hs.unchanged hs.sound hs.digested (fun _ => rfl) fetches
  · rw [hRun]
    exact hs.deleted hTakes fetches

end Accounted

/-- What a fetch has still to delete it has with the bytes that are there, if anything is. -/
def Fetch.InHand (db : Db) (f : Fetch) : Prop :=
  ∀ message ∈ f.pending.map DatabaseHandler.fetched, db (.msgMeta message.msgId) ≠ none →
    message.msg = storedBytes db message.msgId

theorem Shaped.text {db : Db} (hdb : Shaped db) {h : String} (hMsg : db (.msg h) ≠ none) :
    ∃ text, db (.msg h) = some (.string text) := by
  obtain ⟨body, hBody⟩ := Option.ne_none_iff_exists'.mp hMsg
  have hHolds := hdb _ _ hBody
  cases body with
  | string text => exact ⟨text, hBody⟩
  | _ => exact hHolds.elim

theorem Sound.storedBytes {db : Db} (hdb : Sound db) {h : String} (hMeta : db (.msgMeta h) ≠ none) :
    ∃ bytes, Mediator.storedBytes db h = some bytes := by
  obtain ⟨v, hv⟩ := Option.ne_none_iff_exists'.mp hMeta
  cases v with
  | hash fields =>
    obtain ⟨text, hText⟩ := hdb.shaped.text (hdb.kept h fields hv).1
    exact ⟨text, by rw [Mediator.storedBytes, hText]⟩
  | _ => exact (hdb.shaped _ _ hv).elim

namespace Fetch

variable {env : Environment} {db db' : Db} {f : Fetch}

/-- A store does not put other bytes where a fetch has read. -/
theorem InHand.stored (hf : f.InHand db) {x message : String} (h : StoreKeeps x message db db')
    (hListed : ∀ m ∈ f.pending.map DatabaseHandler.fetched, m.msgId = x → m.msg = some message) :
    f.InHand db' := by
  intro m hm hMeta
  by_cases hx : m.msgId = x
  · rcases h.bytes with rfl | hBytes
    · exact hf m hm hMeta
    · rw [hListed m hm hx, hx, hBytes]
  · rw [(h.others _ hx).2] at hMeta
    rw [hf m hm hMeta, Mediator.storedBytes, Mediator.storedBytes, (h.others _ hx).1]

theorem InHand.takenOut (hf : f.InHand db) {x : String} (h : TakesOut x db db') : f.InHand db' := by
  intro m hm hMeta
  have hx : m.msgId ≠ x := fun hEq => hMeta (hEq ▸ h.metadata)
  rw [(h.others _ hx).2] at hMeta
  rw [hf m hm hMeta, Mediator.storedBytes, Mediator.storedBytes, (h.others _ hx).1]

theorem InHand.deleteOutcome (hf : f.InHand db) (hSound : Sound db) (hDigests : Digested db)
    (sessionId didHash messageHash : String) :
    f.InHand (Mediator.deleteOutcome env sessionId didHash messageHash db).2 := by
  rcases deleteOutcome_cases env hSound hDigests sessionId didHash messageHash with ⟨e, hRun⟩ | ⟨db', hRun, hTakes⟩
  · rw [hRun]
    exact hf
  · rw [hRun]
    exact hf.takenOut hTakes

theorem mem_success_note {db : Db} {subItem : List String} {rest : List (List String)}
    {outcome : Except MediatorError Unit} {m : MessageListElement} :
    m ∈ (f.note db subItem rest outcome).messages.success ↔
      m ∈ f.messages.success ∨ m = DatabaseHandler.fetched subItem := by
  cases outcome <;> simp [note, DatabaseHandler.noteDelete]

theorem Reports.noteError (hf : f.Reports) {subItem : List String} {rest : List (List String)} {e : MediatorError} :
    (f.note db subItem rest (.error e)).Reports where
  deleted p hp := by
    obtain ⟨bytes, hBytes, m, hm, hRest⟩ := hf.deleted p hp
    exact ⟨bytes, hBytes, m, mem_success_note.mpr (.inl hm), hRest⟩
  kept m hm := by
    rcases mem_success_note.mp hm with hm | rfl
    · rcases hf.kept m hm with hDeleted | ⟨text, hText⟩
      · exact .inl hDeleted
      · exact .inr ⟨text, List.mem_append_left _ hText⟩
    · exact .inr ⟨e.text, List.mem_append_right _ List.mem_cons_self⟩

theorem Reports.noteDeleted (hf : f.Reports) {subItem : List String} {rest : List (List String)}
    {bytes : String} (hStored : storedBytes db (DatabaseHandler.fetched subItem).msgId = some bytes)
    (hBytes : (DatabaseHandler.fetched subItem).msg = some bytes) :
    (f.note db subItem rest (.ok ())).Reports where
  deleted p hp := by
    rcases List.mem_append.mp hp with hp | hp
    · obtain ⟨bytes, hBytes, m, hm, hRest⟩ := hf.deleted p hp
      exact ⟨bytes, hBytes, m, mem_success_note.mpr (.inl hm), hRest⟩
    · cases List.mem_singleton.mp hp
      exact ⟨bytes, hStored, _, mem_success_note.mpr (.inr rfl), rfl, hBytes⟩
  kept m hm := by
    rcases mem_success_note.mp hm with hm | rfl
    · rcases hf.kept m hm with ⟨bytes, hBytes⟩ | hError
      · exact .inl ⟨bytes, List.mem_append_left _ hBytes⟩
      · exact .inr hError
    · exact .inl ⟨_, List.mem_append_right _ List.mem_cons_self⟩

end Fetch

/-- No fetch has listed the digest of a store, and still to delete it, with other bytes or with none. -/
def InboxCall.Fresh (env : Environment) (s : Inboxes) : InboxCall → Prop
  | .storeMessage _ _ message _ _ =>
    ∀ f ∈ s.fetches, ∀ m ∈ f.pending.map DatabaseHandler.fetched, m.msgId = env.digest message.text →
      m.msg = some message.text
  | _ => True

def freshInboxCalls (env : Environment) : System Inboxes InboxCall :=
  (inboxCalls env).restrict fun s call => call.Fresh env s

/-- What every order of the calls keeps if the stores are fresh. -/
structure Delivering (s : Inboxes) : Prop where
  accounted : Accounted s
  fetches : ∀ f ∈ s.fetches, f.InHand s.db ∧ f.Reports

theorem Delivering.step {env : Environment} {s : Inboxes} (hs : Delivering s) {call : InboxCall}
    (hFresh : call.Fresh env s) : Delivering (call.run env s) := by
  have hSound := hs.accounted.sound
  have hDigests := hs.accounted.digested
  cases call with
  | storeMessage time sessionId message toDid fromDid =>
    obtain ⟨db', hKeeps, hRun | ⟨⟨e, hRun⟩, hMeta⟩⟩ :=
      storeMessage_keeps env hSound hDigests message.nonempty time sessionId toDid fromDid
    all_goals
      have hFetches : ∀ f ∈ s.fetches, f.InHand db' ∧ f.Reports := fun f hf =>
        ⟨(hs.fetches f hf).1.stored hKeeps (hFresh f hf), (hs.fetches f hf).2⟩
      simp only [InboxCall.run, hRun]
    · exact ⟨hs.accounted.stored hKeeps _, hFetches⟩
    · exact ⟨hs.accounted.unchanged hKeeps.sound hKeeps.digested hMeta _, hFetches⟩
  | deleteMessage sessionId didHash messageHash =>
    exact ⟨hs.accounted.deleteOutcome sessionId didHash messageHash _, fun f hf =>
      ⟨(hs.fetches f hf).1.deleteOutcome hSound hDigests sessionId didHash messageHash, (hs.fetches f hf).2⟩⟩
  | readPage sessionId didHash options =>
    cases hPage : DatabaseHandler.readPage env didHash options s.db with
    | error e db' =>
      have hDb : db' = s.db := ((DatabaseHandler.keeps_readPage env didHash options s.db rfl).2 e db' hPage).symm
      simp only [InboxCall.run, hPage, hDb]
      exact ⟨hs.accounted.unchanged hSound hDigests (fun _ => rfl) _, hs.fetches⟩
    | ok results db' =>
      obtain ⟨rfl, hListed⟩ := DatabaseHandler.readPage_ok hSound hPage
      simp only [InboxCall.run, hPage]
      refine ⟨hs.accounted.unchanged hSound hDigests (fun _ => rfl) _, fun f hf => ?_⟩
      rcases List.mem_append.mp hf with hf | hf
      · exact hs.fetches f hf
      cases List.mem_singleton.mp hf
      refine ⟨fun m hm _ => ?_, by simp, by simp⟩
      obtain ⟨e, he, rfl⟩ := hListed m hm
      obtain ⟨h, bytes, other, hFields⟩ := entry_shape hSound he
      obtain ⟨hId, hMsg⟩ := DatabaseHandler.listed_message hSound hFields
      rw [hId, hMsg]
  | deleteNext i =>
    cases hf : s.fetches[i]? with
    | none => simpa only [InboxCall.run, hf] using hs
    | some f =>
      have hMem : f ∈ s.fetches := List.mem_of_getElem? hf
      obtain ⟨hInHand, hReports⟩ := hs.fetches f hMem
      cases hPending : f.pending with
      | nil => simpa only [InboxCall.run, hf, hPending] using hs
      | cons subItem rest =>
        simp only [InboxCall.run, hf, hPending]
        refine ⟨hs.accounted.deleteOutcome f.sessionId f.didHash _ _, fun f' hf' => ?_⟩
        rcases List.mem_or_eq_of_mem_set hf' with hf' | rfl
        · exact ⟨(hs.fetches f' hf').1.deleteOutcome hSound hDigests _ _ _, (hs.fetches f' hf').2⟩
        have hRest : (f.note s.db subItem rest (deleteOutcome env f.sessionId f.didHash
            (DatabaseHandler.fetched subItem).msgId s.db).1).InHand s.db := fun m hm =>
          hInHand m (by rw [hPending]; exact List.mem_cons_of_mem _ hm)
        refine ⟨hRest.deleteOutcome hSound hDigests _ _ _, ?_⟩
        rcases deleteOutcome_cases env hSound hDigests f.sessionId f.didHash
          (DatabaseHandler.fetched subItem).msgId with ⟨e, hRun⟩ | ⟨db', hRun, hTakes⟩
        · rw [hRun]
          exact hReports.noteError
        · rw [hRun]
          obtain ⟨bytes, hBytes⟩ := hSound.storedBytes hTakes.there
          have hHead := hInHand (DatabaseHandler.fetched subItem) (by rw [hPending]; exact List.mem_cons_self)
          exact hReports.noteDeleted hBytes ((hHead hTakes.there).trans hBytes)

/-- As long as the stores are fresh, whatever the order of the calls, no message is deleted twice without
being stored in between, and a fetch reports what it has deleted with the bytes and the rest as errors. -/
theorem nothing_lost_of_fresh (env : Environment) (s : Inboxes) (h : (freshInboxCalls env).Reachable s) :
    NothingLost s := by
  have hs : Delivering s := by
    refine System.Invariant.holds (I := Delivering) ⟨?_, ?_⟩ h
    · rintro s rfl
      exact ⟨.empty, by simp⟩
    · rintro s call s' hs ⟨hFresh, rfl⟩
      exact hs.step hFresh
  exact ⟨hs.accounted.once, fun f hf => (hs.fetches f hf).2⟩

/-- The state after calls, from an empty database. -/
def inboxesAfter (env : Environment) (calls : List InboxCall) : Inboxes :=
  calls.foldl (fun s call => call.run env s) ⟨fun _ => none, [], []⟩

theorem reachable_foldl {env : Environment} {s : Inboxes} (hs : (inboxCalls env).Reachable s)
    (calls : List InboxCall) : (inboxCalls env).Reachable (calls.foldl (fun s call => call.run env s) s) := by
  induction calls generalizing s with
  | nil => exact hs
  | cons call calls ih => exact ih (.step (l := call) hs rfl)

def sampleTime (usec : Fin 1000000) : ServerTime := ⟨1700000000, usec, usec.isLt⟩

def storeHello (usec : Fin 1000000) : InboxCall :=
  .storeMessage (sampleTime usec) "s" ⟨"hello", hello_nonempty⟩ "did:example:alice" none

def storeCiao (usec : Fin 1000000) : InboxCall :=
  .storeMessage (sampleTime usec) "s" ⟨"ciao", ciao_nonempty⟩ "did:example:alice" none

/-- While alice's fetch has "hello" in hand, it is stored for her again, and something else as well. -/
def helloAgain : Inboxes :=
  inboxesAfter sampleEnvironment [storeHello 100000, .readPage "s" aliceHash {}, storeHello 200000,
    storeCiao 300000, .deleteNext 0]

theorem nothing_lost_between : NothingLost helloAgain := by
  refine nothing_lost_of_fresh sampleEnvironment helloAgain ?_
  refine .step (l := .deleteNext 0) (.step (l := storeCiao 300000) (.step (l := storeHello 200000)
    (.step (l := .readPage "s" aliceHash {}) (.step (l := storeHello 100000) (.init rfl) ⟨?_, rfl⟩) ⟨trivial, rfl⟩)
      ⟨?_, rfl⟩) ⟨?_, rfl⟩) ⟨trivial, rfl⟩
  · simp [InboxCall.Fresh, storeHello]
  · unfold InboxCall.Fresh storeHello
    decide
  · unfold InboxCall.Fresh storeCiao
    decide

/-- "hello" stored for alice twice and deleted by her: an entry without bytes stays behind. Her fetch lists
it, and deletes what is stored before it comes to the delete. -/
def helloLost : Inboxes :=
  inboxesAfter sampleEnvironment [storeHello 100000, storeHello 200000,
    .deleteMessage "s" aliceHash helloHash, .readPage "s" aliceHash {}, storeHello 300000, .deleteNext 0]

theorem fetched_message_lost : (inboxCalls sampleEnvironment).Reachable helloLost ∧ ¬ NothingLost helloLost := by
  refine ⟨reachable_foldl (.init rfl) _, fun hNothing => ?_⟩
  have hDeleted : helloLost.fetches.map (·.deleted) = [[(helloHash, some "hello")]] := by decide
  have hListed : ∀ f ∈ helloLost.fetches, ∀ m ∈ f.messages.success, m.msg = none := by decide
  obtain ⟨f, hf⟩ : ∃ f, helloLost.fetches = [f] := List.length_eq_one_iff.mp (by decide)
  have hReports := hNothing.reports f (by simp [hf])
  rw [hf, List.map_singleton, List.singleton_inj] at hDeleted
  obtain ⟨bytes, hBytes, m, hm, -, hMsg⟩ := hReports.deleted (helloHash, some "hello") (by simp [hDeleted])
  rw [hListed f (by simp [hf]) m hm] at hMsg
  cases hMsg

end AffinidiMessaging.Mediator
