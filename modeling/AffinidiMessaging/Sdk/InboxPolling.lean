import AffinidiMessaging.Mediator.Conservation
import AffinidiMessaging.Sdk.RestCalls

/-! # Polling an inbox

A client fetches from the start of its inbox and deletes on receipt, again and again. While others store messages and
delete theirs, the client is given what is stored for it, in that order and once each.
-/

namespace AffinidiMessaging.Sdk

open Redis Text Fallible Serde Didcomm Mediator Transition

/-- The text of the message that an entry names. -/
def entryText (db : Db) (entry : StreamEntry) : Option String :=
  (entry.fields.lookup "MSG_ID").bind (storedBytes db)

/-- The texts in an inbox. -/
def waiting (db : Db) (didHash : String) : List (Option String) :=
  (entriesAt db (.receiveQ didHash)).map (entryText db)

namespace Rest

/-- A database and one client of it. -/
structure Polling where
  db : Db
  /-- The ids that the client has fetched and not had deleted yet. -/
  pending : List String := []
  /-- The texts that the client was given. -/
  given : List (Option String) := []
  /-- The texts that were stored for the client. -/
  stored : List String := []

inductive PollingCall
  | store (time : ServerTime) (sessionId : String) (message : PackedMessage) (toDid : String) (fromDid : Option String)
  | delete (sessionId didHash messageHash : String)
  | fetch (limit : Nat)
  | deleteNext

section
variable (server : Server) (session : Common.Session)

/-- Stores and deletes of others that succeed, and between them the client: it fetches, and then has the mediator delete
one message after the other. -/
def polling : System Polling PollingCall where
  init s := s = { db := fun _ => none }
  step s call s' :=
    match call with
    | .store time sessionId message toDid fromDid => ∃ hash db',
      DatabaseHandler.storeMessage server.env time sessionId message.text toDid fromDid s.db = .ok hash db' ∧
      s' = { s with
        db := db'
        stored := if server.env.digest toDid = session.didHash then s.stored ++ [message.text] else s.stored }
    | .delete sessionId didHash messageHash => ∃ db',
      DatabaseHandler.deleteMessage server.env sessionId didHash messageHash s.db = .ok () db' ∧
      s' = { s with db := db' }
    | .fetch limit => s.pending = [] ∧ ∃ list db',
      post server.crates server.rejection (Wire.object fetchOptionsFields)
        (Wire.object getMessagesResponseFields) session
        (inboxFetchHandler server.env server.digits session) ⟨limit, none, .onReceive⟩ s.db = .ok list db' ∧
      s' = { s with
        db := db'
        pending := list.success.map (·.msgId)
        given := s.given ++ list.success.map (·.msg) }
    | .deleteNext => ∃ h rest, s.pending = h :: rest ∧
      s' = { s with db := stateAfter (deletedMessage server.env session {} h) s.db, pending := rest }

/-- No digest is stored again that is there, and nobody else deletes what is in the inbox of the client. -/
def quietPolling : System Polling PollingCall :=
  (polling server session).restrict fun s call =>
    match call with
    | .store _ _ message _ _ => s.db (.msg (server.env.digest message.text)) = none
    | .delete _ _ messageHash => field s.db (.msgMeta messageHash) "TO" ≠ some session.didHash
    | .fetch limit => 1 ≤ limit ∧ limit ≤ 100
    | .deleteNext => True

end

/-! ## What a step does to the inbox -/

section
variable {db db' : Db} {d h : String} {fields : Fields} {n : Nat} {id : Side → StreamId}

theorem named_entry (hdb : Conserved db) {e : StreamEntry} (he : e ∈ entriesAt db (.receiveQ d)) :
    ∃ h, Names db .receive d h e ∧ db (.msg h) ≠ none := by
  obtain ⟨h, hNames⟩ := hdb.named .receive d e he
  refine ⟨h, hNames, fun hNone => ?_⟩
  have hOwner := hNames.owner
  rw [field, (hdb.held h).mp hNone] at hOwner
  cases hOwner

theorem entryText_congr {e : StreamEntry} (hMsgId : e.fields.lookup "MSG_ID" = some h)
    (hSame : db' (.msg h) = db (.msg h)) : entryText db' e = entryText db e := by
  rw [entryText, entryText, hMsgId, Option.bind_some, Option.bind_some, storedBytes, storedBytes, hSame]

/-- A message that is stored anew for the DID comes last in its inbox; any other leaves the inbox as it is. -/
theorem waiting_stored (hdb : Conserved db) {message time toDidHash : String} {fromDidHash : Option String} {b : Int}
    (hNone : db (.msg h) = none)
    (hStored : Stored h message time (.integer n) toDidHash fromDidHash id b db db') :
    ∃ new, entriesAt db' (.receiveQ d) = entriesAt db (.receiveQ d) ++ new ∧
      (∀ e ∈ entriesAt db (.receiveQ d), entryText db' e = entryText db e) ∧
      new.map (entryText db') = if toDidHash = d then [some message] else [] := by
  have hOld : ∀ e ∈ entriesAt db (.receiveQ d), entryText db' e = entryText db e := by
    intro e he
    obtain ⟨x, hNames, hThere⟩ := named_entry hdb he
    have hNe : x ≠ h := fun hEq => hThere (hEq ▸ hNone)
    exact entryText_congr hNames.msgId (hStored.others _ trivial (by simpa using hNe) (by simp))
  by_cases hTo : toDidHash = d
  · obtain ⟨other, hGains⟩ := hStored.gains .receive d (congrArg some hTo)
    refine ⟨_, hGains.entries, hOld, ?_⟩
    rw [if_pos hTo, List.map_singleton, entryText]
    simp [storedBytes, hStored.msg]
  · have hSame := hStored.same .receive d fun hOwner => hTo (Option.some.inj hOwner)
    exact ⟨[], by rw [List.append_nil]; exact hSame.entries, hOld, by rw [if_neg hTo]; rfl⟩

theorem waiting_deletedElsewhere (hdb : Conserved db) (hMeta : db (.msgMeta h) = some (.hash fields))
    (hDeleted : Deleted h fields n id db db') (hOther : field db (.msgMeta h) "TO" ≠ some d) :
    entriesAt db' (.receiveQ d) = entriesAt db (.receiveQ d) ∧
      ∀ e ∈ entriesAt db (.receiveQ d), entryText db' e = entryText db e := by
  have hLookup : fields.lookup "TO" ≠ some d := by
    rwa [field, hMeta] at hOther
  refine ⟨(hDeleted.same .receive d hLookup).entries, fun e he => ?_⟩
  obtain ⟨x, hNames, -⟩ := named_entry hdb he
  have hNe : x ≠ h := fun hEq => hOther (hEq ▸ hNames.owner)
  exact entryText_congr hNames.msgId (hDeleted.others _ trivial (by simpa using hNe) (by simp))

/-- The first message of an inbox is deleted: the others stay as they are. -/
theorem waiting_deletedFirst (hdb : Conserved db) {first : StreamEntry} {rest : List StreamEntry}
    (hEntries : entriesAt db (.receiveQ d) = first :: rest) (hMsgId : first.fields.lookup "MSG_ID" = some h)
    (hMeta : db (.msgMeta h) = some (.hash fields)) (hFields : Metadata fields n id)
    (hDeleted : Deleted h fields n id db db') :
    entriesAt db' (.receiveQ d) = rest ∧ ∀ e ∈ rest, entryText db' e = entryText db e := by
  have hSorted : (entriesAt db (.receiveQ d)).Pairwise (·.id < ·.id) := hdb.sorted .receive d
  rw [hEntries, List.pairwise_cons] at hSorted
  obtain ⟨x, hNames, -⟩ := named_entry hdb (hEntries ▸ List.mem_cons_self : first ∈ entriesAt db (.receiveQ d))
  obtain rfl : x = h := Option.some.inj (hNames.msgId.symm.trans hMsgId)
  have hOwner : fields.lookup "TO" = some d := by
    have hTo := hNames.owner
    rwa [field, hMeta] at hTo
  have hId : first.id = id .receive := by
    have hText := hNames.id
    have hOwner' : fields.lookup Side.receive.ownerField = some d := hOwner
    rw [show field db (.msgMeta x) Side.receive.idField = fields.lookup Side.receive.idField by rw [field, hMeta],
      hFields.ids .receive, hOwner', Option.map_some] at hText
    exact (StreamId.text_injective (Option.some.inj hText)).symm
  constructor
  · have hQueue : entriesAt db' (.receiveQ d) = (entriesAt db (.receiveQ d)).filter (·.id ≠ id .receive) :=
      (hDeleted.loses .receive d hOwner).entries
    rw [hQueue, hEntries, ← hId, List.filter_cons_of_neg (by simp), List.filter_eq_self]
    intro e he
    simpa using (StreamId.ne_of_lt (hSorted.1 e he)).symm
  · intro e he
    have hMem : e ∈ entriesAt db (.receiveQ d) := hEntries ▸ List.mem_cons_of_mem first he
    obtain ⟨y, hNames', -⟩ := named_entry hdb hMem
    have hNe : y ≠ x := by
      rintro rfl
      -- two entries of one message have one id
      have hText := Option.some.inj (hNames.id.symm.trans hNames'.id)
      exact StreamId.ne_of_lt (hSorted.1 e he) (StreamId.text_injective hText)
    exact entryText_congr hNames'.msgId (hDeleted.others _ trivial (by simpa using hNe) (by simp))

theorem listed_entry (hdb : Sound db) {e : StreamEntry} (he : e ∈ entriesAt db (.receiveQ d)) :
    e.fields.lookup "MSG_ID" = some (listed db e).msgId ∧ (listed db e).msg = entryText db e := by
  obtain ⟨h, bytes, other, hFields⟩ := entry_shape hdb he
  obtain ⟨hId, hText⟩ := DatabaseHandler.listed_message hdb hFields
  have hMsgId : e.fields.lookup "MSG_ID" = some h := by
    rw [hFields]
    rfl
  refine ⟨by rw [hMsgId, hId], ?_⟩
  rw [hText, entryText, hMsgId, Option.bind_some]

theorem page_texts (hdb : Sound db) (limit : Nat) :
    (page db d limit none).map (·.msg) = (waiting db d).take limit := by
  rw [page, readFrom, List.map_map, waiting, ← List.map_take]
  exact List.map_congr_left fun e he => (listed_entry hdb (List.mem_of_mem_take he)).2

end

/-! ## The run -/

/-- The inbox begins with what the client has still to delete; what it was given, followed by the rest, is what was
stored for it. -/
structure Exact (env : Environment) (didHash : String) (s : Polling) : Prop where
  calls : (databaseCalls env).Reachable s.db
  fresh : (freshStores env).Reachable s.db
  parts : ∃ taken rest, entriesAt s.db (.receiveQ didHash) = taken ++ rest ∧
    taken.map (fun e => e.fields.lookup "MSG_ID") = s.pending.map some ∧
    s.given ++ rest.map (entryText s.db) = s.stored.map some

namespace Exact

variable {server : Server} {session : Common.Session} {s s' : Polling}

theorem store (hs : Exact server.env session.didHash s) {time : ServerTime} {sessionId : String}
    {message : PackedMessage}
    {toDid : String} {fromDid : Option String} {hash : String} {db' : Db}
    (hFresh : s.db (.msg (server.env.digest message.text)) = none)
    (hRun : DatabaseHandler.storeMessage server.env time sessionId message.text toDid fromDid s.db = .ok hash db') :
    Exact server.env session.didHash { s with
      db := db'
      stored := if server.env.digest toDid = session.didHash then s.stored ++ [message.text] else s.stored } := by
  obtain ⟨taken, rest, hEntries, hPending, hGiven⟩ := hs.parts
  obtain ⟨-, id, hStored⟩ := DatabaseHandler.storeMessage_effect hRun
  obtain ⟨new, hQueue, hOld, hNew⟩ :=
    waiting_stored (d := session.didHash) (conserved_of_reachable hs.fresh) hFresh hStored
  refine ⟨hs.calls.step (l := .storeMessage time sessionId message toDid fromDid) (stateAfter_of_ok hRun).symm,
    hs.fresh.step (l := .storeMessage time sessionId message.text toDid fromDid) ⟨hFresh, hash, hRun⟩,
    taken, rest ++ new, by rw [hQueue, hEntries, List.append_assoc], hPending, ?_⟩
  have hRest : rest.map (entryText db') = rest.map (entryText s.db) := by
    refine List.map_congr_left fun e he => hOld e ?_
    rw [hEntries]
    exact List.mem_append_right taken he
  rw [List.map_append, hRest, hNew, ← List.append_assoc, hGiven]
  split <;> simp

theorem delete (hs : Exact server.env session.didHash s) {sessionId didHash messageHash : String} {db' : Db}
    (hOther : field s.db (.msgMeta messageHash) "TO" ≠ some session.didHash)
    (hRun : DatabaseHandler.deleteMessage server.env sessionId didHash messageHash s.db = .ok () db') :
    Exact server.env session.didHash { s with db := db' } := by
  obtain ⟨taken, rest, hEntries, hPending, hGiven⟩ := hs.parts
  have hdb := wellKept_of_reachable hs.calls
  rcases DatabaseHandler.deleteMessage_sound server.env hdb.sound sessionId didHash messageHash with ⟨e, hRefused⟩ |
    ⟨fields, n, id, db₁, hMeta, -, -, hDeleted, -, hOk⟩
  · cases hRefused.symm.trans hRun
  · cases hOk.symm.trans hRun
    obtain ⟨hQueue, hOld⟩ := waiting_deletedElsewhere (conserved_of_reachable hs.fresh) hMeta hDeleted hOther
    refine ⟨hs.calls.step (l := .deleteMessage sessionId didHash messageHash) (stateAfter_of_ok hRun).symm,
      hs.fresh.step (l := .deleteMessage sessionId didHash messageHash) ⟨trivial, hRun⟩,
      taken, rest, hQueue.trans hEntries, hPending, ?_⟩
    have hRest : rest.map (entryText db') = rest.map (entryText s.db) := by
      refine List.map_congr_left fun e he => hOld e ?_
      rw [hEntries]
      exact List.mem_append_right taken he
    rw [hRest, hGiven]

theorem deleteNext (hs : Exact server.env session.didHash s) (hSize : session.didHash.utf8ByteSize = 64) {h : String}
    {later : List String} (hNext : s.pending = h :: later) :
    ∃ db', (∀ deleted, deletedMessage server.env session deleted h s.db =
        .ok { deleted with success := deleted.success ++ [h] } db') ∧
      Exact server.env session.didHash { s with db := db', pending := later } := by
  obtain ⟨taken, rest, hEntries, hPending, hGiven⟩ := hs.parts
  rw [hNext, List.map_cons] at hPending
  obtain ⟨first, taken, rfl, hMsgId, hLater⟩ := List.map_eq_cons_iff.mp hPending
  rw [List.cons_append] at hEntries
  have hConserved := conserved_of_reachable hs.fresh
  have hdb := wellKept_of_reachable hs.calls
  obtain ⟨x, hNames, -⟩ := named_entry hConserved (hEntries ▸ List.mem_cons_self :
    first ∈ entriesAt s.db (.receiveQ session.didHash))
  obtain rfl : x = h := Option.some.inj (hNames.msgId.symm.trans hMsgId)
  obtain ⟨fields, n, id, db', hRun, hMeta, hFields, hDeleted, -⟩ :=
    DatabaseHandler.deleteMessage_owns hdb hSize (.inl hNames.owner) session.sessionId
  obtain ⟨hQueue, hOld⟩ := waiting_deletedFirst hConserved hEntries hMsgId hMeta hFields hDeleted
  have hAttempt : attempt (DatabaseHandler.deleteMessage server.env session.sessionId session.didHash x) s.db =
      .ok (.ok ()) db' := by rw [attempt, hRun]
  refine ⟨db', fun deleted => bind_of_ok hAttempt,
    hs.calls.step (l := .deleteMessage session.sessionId session.didHash x) (stateAfter_of_ok hRun).symm,
    hs.fresh.step (l := .deleteMessage session.sessionId session.didHash x) ⟨trivial, hRun⟩, taken, rest,
    hQueue, hLater, ?_⟩
  have hRest : rest.map (entryText db') = rest.map (entryText s.db) :=
    List.map_congr_left fun e he => hOld e (List.mem_append_right taken he)
  rw [hRest, hGiven]

theorem given_waiting {env : Environment} {didHash : String} (hs : Exact env didHash s) :
    s.given ++ (waiting s.db didHash).drop s.pending.length = s.stored.map some := by
  obtain ⟨taken, rest, hEntries, hPending, hGiven⟩ := hs.parts
  have hLength : s.pending.length = (taken.map (entryText s.db)).length := by
    rw [← List.length_map some, ← hPending, List.length_map, List.length_map]
  rw [waiting, hEntries, List.map_append, hLength, List.drop_left, hGiven]

theorem fetch (hs : Exact server.env session.didHash s) (hIdle : s.pending = []) (limit : Nat) :
    Exact server.env session.didHash { s with
      pending := (page s.db session.didHash limit none).map (·.msgId)
      given := s.given ++ (page s.db session.didHash limit none).map (·.msg) } := by
  obtain ⟨taken, rest, hEntries, hPending, hGiven⟩ := hs.parts
  rw [hIdle, List.map_nil, List.map_eq_nil_iff] at hPending
  rw [hPending, List.nil_append] at hEntries
  have hdb := (wellKept_of_reachable hs.calls).sound
  have hPage : page s.db session.didHash limit none = (rest.take limit).map (listed s.db) := by
    rw [page, readFrom, hEntries]
  refine ⟨hs.calls, hs.fresh, rest.take limit, rest.drop limit, by rw [List.take_append_drop, hEntries], ?_, ?_⟩
  · rw [hPage, List.map_map, List.map_map]
    exact List.map_congr_left fun e he => (listed_entry hdb (hEntries ▸ List.mem_of_mem_take he)).1
  · have hTexts : (page s.db session.didHash limit none).map (·.msg) = (rest.take limit).map (entryText s.db) := by
      rw [page_texts hdb, waiting, hEntries, List.map_take]
    rw [hTexts, List.append_assoc, ← List.map_append, List.take_append_drop, hGiven]

end Exact

section
variable {server : Server} {hasPrivate : {curve : Curve} → server.crates.KeyPair curve → Prop}
  {reread : Int → Int → Int × Int} {nesting : ℕ∞} (laws : Lawful server.crates hasPrivate reread nesting)
  {session : Common.Session} (hSize : session.didHash.utf8ByteSize = 64)
include laws hSize

theorem fetchRequest_page {db : Db} (hdb : Sound db) {limit : Nat} (hLimit : 1 ≤ limit ∧ limit ≤ 100) :
    post server.crates server.rejection (Wire.object fetchOptionsFields) (Wire.object getMessagesResponseFields) session
        (inboxFetchHandler server.env server.digits session) ⟨limit, none, .onReceive⟩ db =
      .ok { success := page db session.didHash limit none } db := by
  have hHandler := @inboxFetchHandler_onReceive server.env server.digits session db hdb hSize limit hLimit
    none nofun rfl
  rw [@fetchRequest_eq server hasPrivate reread nesting laws session ⟨limit, none, .onReceive⟩ hLimit.2 db,
    relay, hHandler]

theorem exact_of_reachable {s : Polling} (hs : (quietPolling server session).Reachable s) :
    Exact server.env session.didHash s := by
  refine System.Invariant.holds ⟨?_, ?_⟩ hs
  · rintro s rfl
    exact ⟨.init rfl, .init rfl, [], [], rfl, rfl, rfl⟩
  · rintro s call s' hs ⟨hQuiet, hStep⟩
    cases call with
    | store time sessionId message toDid fromDid =>
      obtain ⟨hash, db', hRun, rfl⟩ := hStep
      exact hs.store hQuiet hRun
    | delete sessionId didHash messageHash =>
      obtain ⟨db', hRun, rfl⟩ := hStep
      exact hs.delete hQuiet hRun
    | fetch limit =>
      obtain ⟨hIdle, list, db', hRun, rfl⟩ := hStep
      cases (fetchRequest_page laws hSize (wellKept_of_reachable hs.calls).sound hQuiet).symm.trans hRun
      exact hs.fetch hIdle limit
    | deleteNext =>
      obtain ⟨h, later, hNext, rfl⟩ := hStep
      obtain ⟨db', hRun, hExact⟩ := hs.deleteNext hSize hNext
      rw [stateAfter_of_ok (hRun {})]
      exact hExact

omit laws in
/-- The mediator deletes all that the client has still to delete. -/
theorem deletes_path {s : Polling} (hs : Exact server.env session.didHash s) (deleted : DeleteMessageResponse) :
    ∃ db', s.pending.foldlM (deletedMessage server.env session) deleted s.db =
        .ok { deleted with success := deleted.success ++ s.pending } db' ∧
      Exact server.env session.didHash { s with db := db', pending := [] } ∧
      (quietPolling server session).Path s { s with db := db', pending := [] } := by
  obtain ⟨db, pending, given, stored⟩ := s
  induction pending generalizing db deleted with
  | nil => exact ⟨db, by simp, hs, .refl⟩
  | cons h later ih =>
    obtain ⟨db₁, hRun, hNext⟩ := hs.deleteNext hSize rfl
    obtain ⟨db', hRest, hExact, hPath⟩ := ih { deleted with success := deleted.success ++ [h] } db₁ hNext
    refine ⟨db', ?_, hExact, ?_⟩
    · rw [List.foldlM_cons, bind_of_ok (hRun deleted), hRest]
      simp
    · refine System.Path.trans (.tail (l := .deleteNext) .refl ⟨trivial, h, later, rfl, ?_⟩) hPath
      rw [stateAfter_of_ok (hRun {})]

/-- In every run the client is given what is stored for it, in that order and once each. A fetch gives it the next
messages, and takes them and nothing else out of the inbox. -/
theorem polled_once_in_order (hMax : 100 ≤ server.maxDeletedMessages) {s : Polling}
    (hs : (quietPolling server session).Reachable s) :
    s.given ++ (waiting s.db session.didHash).drop s.pending.length = s.stored.map some ∧
    (s.pending = [] → ∀ limit, 1 ≤ limit → limit ≤ 100 → ∃ messages db',
      fetchMessages server session ⟨limit, none, .onReceive⟩ s.db = .ok { success := messages } db' ∧
      messages.map (·.msg) = (waiting s.db session.didHash).take limit ∧
      waiting db' session.didHash = (waiting s.db session.didHash).drop limit ∧
      (quietPolling server session).Path s ⟨db', [], s.given ++ messages.map (·.msg), s.stored⟩) := by
  have hExact := exact_of_reachable laws hSize hs
  refine ⟨hExact.given_waiting, fun hIdle limit hLow hHigh => ?_⟩
  have hdb := wellKept_of_reachable hExact.calls
  have hFetched := hExact.fetch hIdle limit
  have hRequest := @inboxFetchHandler_onReceive server.env server.digits session s.db hdb.sound hSize limit
    ⟨hLow, hHigh⟩ none nofun rfl
  have hPage := fetchRequest_page laws hSize hdb.sound ⟨hLow, hHigh⟩
  obtain ⟨db', hDeletes, hAfter, hPath⟩ := deletes_path hSize hFetched {}
  have hTexts : (page s.db session.didHash limit none).map (·.msg) = (waiting s.db session.didHash).take limit :=
    page_texts hdb.sound limit
  have hLength : ((page s.db session.didHash limit none).map (·.msgId)).length ≤ 100 := by
    rw [List.length_map]
    exact (length_page_le s.db session.didHash limit none).trans hHigh
  generalize page s.db session.didHash limit none = messages at *
  have hHandled : messageDeleteHandler server.env session server.maxDeletedMessages (messages.map (·.msgId)) s.db =
      .ok ⟨messages.map (·.msgId), []⟩ db' := by
    rw [messageDeleteHandler, if_neg (Nat.not_lt.mpr (hLength.trans hMax))]
    exact hDeletes
  have hTried : tryCall (deleteMessages server session (messages.map (·.msgId))) s.db =
      .ok (.ok ⟨messages.map (·.msgId), []⟩) db' := by
    rw [tryCall, deleteMessages_eq laws hLength, relay, hHandled]
  refine ⟨messages, db', ?_, hTexts, ?_, ?_⟩
  · rw [fetchMessages_of_handler laws ⟨hLow, hHigh⟩ hRequest]
    exact bind_of_ok hTried
  · have hBefore := hExact.given_waiting
    rw [hIdle, List.length_nil, List.drop_zero] at hBefore
    have hNow := hAfter.given_waiting
    rw [← hBefore, List.length_nil, List.drop_zero, hTexts, List.append_assoc] at hNow
    refine List.append_cancel_left ((List.append_cancel_left hNow).trans ?_)
    exact (List.take_append_drop limit _).symm
  · exact System.Path.trans (.tail (l := .fetch limit) .refl ⟨⟨hLow, hHigh⟩, hIdle, _, _, hPage, rfl⟩) hPath

end

/-- Two texts that are stored for alice. -/
def ciaoAfterHello : Db :=
  stateAfter (DatabaseHandler.storeMessage sampleEnvironment ⟨1700000000, 200000, secondUsec_lt⟩ "s" "ciao"
    "did:example:alice" none) helloStored

/-- Alice fetches one message and then the rest. -/
theorem polled_once_in_order_alice : ∃ first db₁ second db₂,
    fetchMessages sampleServer aliceSession ⟨1, none, .onReceive⟩ ciaoAfterHello = .ok { success := first } db₁ ∧
      first.map (·.msg) = [some "hello"] ∧
    fetchMessages sampleServer aliceSession ⟨10, none, .onReceive⟩ db₁ = .ok { success := second } db₂ ∧
      second.map (·.msg) = [some "ciao"] ∧ waiting db₂ aliceHash = [] := by
  have hReachable : (quietPolling sampleServer aliceSession).Reachable ⟨ciaoAfterHello, [], [], ["hello", "ciao"]⟩ :=
    .step (l := .store ⟨1700000000, 200000, secondUsec_lt⟩ "s" ⟨"ciao", by decide⟩ "did:example:alice" none)
      (.step (l := .store ⟨1700000000, 100000, firstUsec_lt⟩ "s" ⟨"hello", by decide⟩ "did:example:alice" none)
        (.init rfl) ⟨rfl, _, _, rfl, rfl⟩) ⟨rfl, _, _, rfl, rfl⟩
  have hSize : aliceSession.didHash.utf8ByteSize = 64 := rfl
  have hWaiting : waiting ciaoAfterHello aliceHash = [some "hello", some "ciao"] := rfl
  obtain ⟨-, hFetch⟩ := polled_once_in_order (ideal_lawful id) hSize le_rfl hReachable
  obtain ⟨first, db₁, hFirst, hTexts, hLeft, hPath⟩ := hFetch rfl 1 (by decide) (by decide)
  have hLeft : waiting db₁ aliceHash = [some "ciao"] := hLeft.trans (congrArg (List.drop 1) hWaiting)
  obtain ⟨-, hFetch⟩ := polled_once_in_order (ideal_lawful id) hSize le_rfl (hReachable.trans hPath)
  obtain ⟨second, db₂, hSecond, hTexts', hLeft', -⟩ := hFetch rfl 10 (by decide) (by decide)
  exact ⟨first, db₁, second, db₂, hFirst, hTexts.trans (congrArg (List.take 1) hWaiting), hSecond,
    hTexts'.trans (congrArg (List.take 10) hLeft), hLeft'.trans (congrArg (List.drop 10) hLeft)⟩

end Rest

end AffinidiMessaging.Sdk
