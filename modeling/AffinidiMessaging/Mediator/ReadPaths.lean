import AffinidiMessaging.Library.RedisCommands
import AffinidiMessaging.Mediator.InboxFetch

/-! # The three ways to read a message

A list is made of the entries of a queue, a fetch of an entry and the metadata of its message, and a
read of the metadata alone.
-/

namespace AffinidiMessaging.Mediator

open Redis Text Fallible Transition

inductive Folder
  | inbox
  | outbox
deriving DecidableEq, Repr

def Folder.side : Folder → Side
  | .inbox => .receive
  | .outbox => .send

namespace DatabaseHandler

def listedField (message : MessageListElement) (p : String × String) : MessageListElement :=
  match p.1 with
  | "MSG_ID" => { message with msgId := p.2 }
  | "BYTES" => { message with size := parseU64 p.2 }
  | "FROM" => { message with fromAddress := some p.2 }
  | "TO" => { message with toAddress := some p.2 }
  | _ => message

/-- What a list says of an entry; the timestamp is what is before the first dash of its id. -/
def listEntry (folder : Folder) (entry : StreamEntry) : MessageListElement :=
  let timestamp := parseU64 ((splitAll '-' entry.id.text).headD "")
  let message : MessageListElement := match folder with
    | .inbox => { receiveId := some entry.id.text, timestamp }
    | .outbox => { sendId := some entry.id.text, timestamp }
  entry.fields.foldl listedField message

/-- The whole stream up to the limit: no caller gives another range. -/
def listMessages (env : Environment) (didHash : String) (folder : Folder) (limit : Nat) :
    Handler (List MessageListElement) := do
  let key := folder.side.queue didHash
  let items ← query env didHash
    ("Couldn't get message_list(" ++ key.name ++ ") from database for DID_hash " ++ didHash ++ ": ")
    (xrange key "-" limit.repr)
  return (items.getD []).map (listEntry folder)

end DatabaseHandler

theorem splitAll_text (id : StreamId) : splitAll '-' id.text = [id.ms.repr, id.seq.repr] := by
  have hDigits : ∀ n : Nat, '-' ∉ n.repr.toList := by
    intro n hMem
    rw [Nat.toList_repr] at hMem
    have := Nat.isDigit_of_mem_toDigits (by decide) (by decide) hMem
    simp at this
  rw [splitAll, StreamId.text, String.toList_append, String.toList_ofList,
    List.splitOn_append_cons_self_of_not_mem (hDigits id.ms), List.splitOn_eq_singleton (hDigits id.seq)]
  simp only [List.map_cons, List.map_nil, String.ofList_toList]

theorem parseU64_of_parseNat {s : String} {n : Nat} (h : parseNat s = some n) (hn : n < 2 ^ 64) :
    parseU64 s = n := by
  have hPlus : ∀ rest, s.toList ≠ '+' :: rest := by
    intro rest hList
    have hNumeral : isNumeral s.toList = false := by
      rw [hList]
      simp [isNumeral]
    simp [parseNat, hNumeral] at h
  unfold parseU64
  dsimp only
  split
  · rename_i m hParse
    split at hParse
    · exact absurd ‹_› (hPlus _)
    · rw [h, Option.some.injEq] at hParse
      rw [← hParse, if_pos hn]
  · rename_i hParse
    split at hParse
    · exact absurd ‹_› (hPlus _)
    · rw [h] at hParse
      cases hParse

/-- A place that two descriptions both fill in holds the same. -/
def FilledAlike {α : Type} (unfilled a b : α) : Prop := a = unfilled ∨ b = unfilled ∨ a = b

theorem FilledAlike.rfl {α : Type} {unfilled a : α} : FilledAlike unfilled a a := .inr (.inr (Eq.refl a))

theorem FilledAlike.left {α : Type} {unfilled b : α} : FilledAlike unfilled unfilled b := .inl (Eq.refl _)

theorem FilledAlike.right {α : Type} {unfilled a : α} : FilledAlike unfilled a unfilled :=
  .inr (.inl (Eq.refl _))

structure MessageListElement.Agrees (a b : MessageListElement) : Prop where
  msgId : FilledAlike "" a.msgId b.msgId
  receiveId : FilledAlike none a.receiveId b.receiveId
  size : FilledAlike 0 a.size b.size
  timestamp : FilledAlike 0 a.timestamp b.timestamp
  fromAddress : FilledAlike none a.fromAddress b.fromAddress
  toAddress : FilledAlike none a.toAddress b.toAddress
  msg : FilledAlike none a.msg b.msg

/-- What list, fetch and read say of one message of an inbox agrees. -/
structure ReadPathsAgree (env : Environment) (db : Db) (didHash : String) : Prop where
  listFetch : ∀ limit list db₁ sessionId options response db₂,
    DatabaseHandler.listMessages env didHash .inbox limit db = .ok list db₁ →
    DatabaseHandler.fetchMessages env sessionId didHash options db = .ok response db₂ →
    ∀ l ∈ list, ∀ f ∈ response.success, l.msgId = f.msgId → l.Agrees f
  listGet : ∀ limit list db₁ l g db₂,
    DatabaseHandler.listMessages env didHash .inbox limit db = .ok list db₁ → l ∈ list →
    DatabaseHandler.getMessage env didHash l.msgId db = .ok g db₂ → l.Agrees g
  fetchGet : ∀ sessionId options response db₁ f g db₂,
    DatabaseHandler.fetchMessages env sessionId didHash options db = .ok response db₁ →
    f ∈ response.success → DatabaseHandler.getMessage env didHash f.msgId db = .ok g db₂ → f.Agrees g

/-- Stores of what is in no inbox, and of those with a sender only such as are rejected. -/
def DatabaseCall.Plain (env : Environment) (db : Db) : DatabaseCall → Prop
  | .storeMessage time sessionId message toDid fromDid =>
    (∀ d, ∀ e ∈ entriesAt db (.receiveQ d), e.fields.lookup "MSG_ID" ≠ some (env.digest message.text)) ∧
      (fromDid = none ∨ ∃ e db',
        DatabaseHandler.storeMessage env time sessionId message.text toDid fromDid db = .error e db')
  | _ => True

def plainCalls (env : Environment) : System Db DatabaseCall :=
  (databaseCalls env).restrict fun db call => call.Plain env db

/-- An entry as `store_message` writes it for the receiver. -/
def receiverEntry (id : StreamId) (h bytes fromDid : String) : StreamEntry :=
  ⟨id, [("MSG_ID", h), ("BYTES", bytes), ("FROM", fromDid)]⟩

/-- The inboxes are as before, but for at most one new entry of the message each. -/
def Entered (h bytes time fromDid : String) (db db' : Db) : Prop :=
  ∀ d, entriesAt db' (.receiveQ d) = entriesAt db (.receiveQ d) ∨
    ∃ id, parseNat time = some id.ms ∧
      entriesAt db' (.receiveQ d) = entriesAt db (.receiveQ d) ++ [receiverEntry id h bytes fromDid]

section
variable {h time fromDid : String} {bytes : LuaNumber} {db₀ : Db}

theorem keeps_inboxes {α : Type} {c : Script α} (I : (String → List StreamEntry) → Prop)
    (hc : ∀ d, Untouched (.receiveQ d) c) :
    Keeps (fun db => I fun d => entriesAt db (.receiveQ d)) c := by
  intro db hdb
  constructor
  · intro a db' hRun
    have hSame : (fun d => entriesAt db' (.receiveQ d)) = fun d => entriesAt db (.receiveQ d) :=
      funext fun d => entriesAt_congr ((hc d).of_ok hRun)
    rwa [hSame]
  · intro e db' hRun
    have hSame : (fun d => entriesAt db' (.receiveQ d)) = fun d => entriesAt db (.receiveQ d) :=
      funext fun d => entriesAt_congr ((hc d).of_error hRun)
    rwa [hSame]

theorem entered_xadd (d : String) :
    Triple (fun db => ∀ x, entriesAt db (.receiveQ x) = entriesAt db₀ (.receiveQ x))
      (xadd (.receiveQ d) time [("MSG_ID", h), ("BYTES", bytes.text), ("FROM", fromDid)])
      (fun _ => Entered h bytes.text time fromDid db₀) (fun _ => Entered h bytes.text time fromDid db₀) := by
  intro db hdb
  constructor
  · intro answer db' hRun x
    obtain ⟨s, n, id, hs, hn, hid, -, rfl⟩ := (xadd_ok_iff _ _ _ _ _ _).mp hRun
    rw [entriesAt_update]
    by_cases hx : Key.receiveQ x = .receiveQ d
    · rw [if_pos hx, ← hdb x, hx, entries_of_asStream hs]
      refine .inr ⟨id, ?_, rfl⟩
      rw [ms_of_nextId hid]
      unfold streamMs at hn
      split at hn
      · rename_i m hParse
        split at hn
        · cases hn
          exact hParse
        · cases hn
      · cases hn
    · rw [if_neg hx]
      exact .inl (hdb x)
  · intro e db' hRun x
    rw [xadd_error hRun]
    exact .inl (hdb x)

theorem entered_storeRecords (messageHash message toDid toDidHash : String) (fromDidHash : Option String) :
    Triple (fun db => ∀ x, entriesAt db (.receiveQ x) = entriesAt db₀ (.receiveQ x))
      (storeRecords messageHash message time bytes toDid toDidHash fromDid fromDidHash)
      (fun _ => Entered messageHash bytes.text time fromDid db₀)
      (fun _ => Entered messageHash bytes.text time fromDid db₀) := by
  have hSame : ∀ {α : Type} {c : Script α}, (∀ d, Untouched (.receiveQ d) c) →
      Triple (fun db => ∀ x, entriesAt db (.receiveQ x) = entriesAt db₀ (.receiveQ x)) c
        (fun _ db => ∀ x, entriesAt db (.receiveQ x) = entriesAt db₀ (.receiveQ x))
        (fun _ => Entered messageHash bytes.text time fromDid db₀) := fun hc =>
    (keeps_inboxes (fun q => ∀ x, q x = entriesAt db₀ (.receiveQ x)) hc).weaken (fun _ => id)
      (fun _ _ => id) fun _ _ h x => .inl (h x)
  have hAfter : ∀ {α : Type} {c : Script α}, (∀ d, Untouched (.receiveQ d) c) →
      Keeps (Entered messageHash bytes.text time fromDid db₀) c := fun hc =>
    keeps_inboxes (fun q => ∀ d, q d = entriesAt db₀ (.receiveQ d) ∨ ∃ id : StreamId,
      parseNat time = some id.ms ∧
        q d = entriesAt db₀ (.receiveQ d) ++ [receiverEntry id messageHash bytes.text fromDid]) hc
  refine Triple.bind (hSame fun d => Untouched.set (by simp) _) fun _ => ?_
  refine Triple.bind (hSame fun d => Untouched.hincrby (by simp) _ _) fun _ => ?_
  refine Triple.bind (hSame fun d => Untouched.hincrby (by simp) _ _) fun _ => ?_
  refine Triple.bind (hSame fun d => Untouched.rpush (by simp) _) fun _ => ?_
  refine Triple.bind (Q := fun _ => Entered messageHash bytes.text time fromDid db₀) ?_ fun _ => ?_
  · refine Triple.bind (hSame fun d => Untouched.hincrby (by simp) _ _) fun _ => ?_
    refine Triple.bind (hSame fun d => Untouched.hincrby (by simp) _ _) fun _ => ?_
    exact entered_xadd toDidHash
  · refine Keeps.bind (hAfter fun d => untouched_storeSender _ (by simp) _ _ _ _) fun _ => ?_
    refine Keeps.bind (hAfter fun d => untouched_storeMetadata (by simp) _ _ _ _ _) fun _ => ?_
    exact .pure _

end

/-- The metadata of a message without a sender. -/
def plainMetadata (bytes toHash time : String) (id : StreamId) : Fields :=
  [("BYTES", bytes), ("TO", toHash), ("TIMESTAMP", time), ("RECEIVE_ID", id.text)]

/-- Every entry of an inbox is the only one of its message there, and the metadata of the message, if
there are any, are the entry's own. -/
structure Filed (db : Db) : Prop where
  entry : ∀ d, ∀ e ∈ entriesAt db (.receiveQ d), ∃ id h bytes fromDid,
    e = receiverEntry id h bytes fromDid ∧ ∀ fields, db (.msgMeta h) = some (.hash fields) →
      ∃ toHash time, parseNat time = some id.ms ∧ fields = plainMetadata bytes toHash time id
  unique : ∀ d, ∀ e ∈ entriesAt db (.receiveQ d), ∀ e' ∈ entriesAt db (.receiveQ d),
    e.fields.lookup "MSG_ID" = e'.fields.lookup "MSG_ID" → e = e'

namespace Filed

variable {env : Environment} {db db' : Db}

theorem empty : Filed fun _ => none where
  entry := by simp [entriesAt]
  unique := by simp [entriesAt]

theorem entered (hdb : Filed db) {h bytes time fromDid : String}
    (hFresh : ∀ d, ∀ e ∈ entriesAt db (.receiveQ d), e.fields.lookup "MSG_ID" ≠ some h)
    (hEntered : Entered h bytes time fromDid db db')
    (hOther : ∀ x, x ≠ h → db' (.msgMeta x) = db (.msgMeta x))
    (hMeta : ∀ d id, receiverEntry id h bytes fromDid ∈ entriesAt db' (.receiveQ d) →
      parseNat time = some id.ms → ∀ fields, db' (.msgMeta h) = some (.hash fields) →
        ∃ toHash time, parseNat time = some id.ms ∧ fields = plainMetadata bytes toHash time id) :
    Filed db' := by
  have hOld : ∀ d, ∀ e ∈ entriesAt db (.receiveQ d), ∃ id h bytes fromDid,
      e = receiverEntry id h bytes fromDid ∧ ∀ fields, db' (.msgMeta h) = some (.hash fields) →
        ∃ toHash time, parseNat time = some id.ms ∧ fields = plainMetadata bytes toHash time id := by
    intro d e he
    obtain ⟨id, x, bytes', fromDid', rfl, hFields⟩ := hdb.entry d e he
    have hx : x ≠ h := by
      rintro rfl
      exact hFresh d _ he rfl
    rw [← hOther x hx] at hFields
    exact ⟨id, x, bytes', fromDid', rfl, hFields⟩
  constructor
  case entry =>
    intro d e he
    rcases hEntered d with hSame | ⟨id, hTime, hNew⟩
    · rw [hSame] at he
      exact hOld d e he
    · have heNew := he
      rw [hNew, List.mem_append, List.mem_singleton] at he
      rcases he with he | rfl
      · exact hOld d e he
      · exact ⟨id, h, bytes, fromDid, rfl, hMeta d id heNew hTime⟩
  case unique =>
    intro d e he e' he' hSame
    rcases hEntered d with hQueue | ⟨id, -, hQueue⟩
    · rw [hQueue] at he he'
      exact hdb.unique d e he e' he' hSame
    · rw [hQueue, List.mem_append, List.mem_singleton] at he he'
      rcases he with he | rfl
      · rcases he' with he' | rfl
        · exact hdb.unique d e he e' he' hSame
        · exact absurd hSame (hFresh d e he)
      · rcases he' with he' | rfl
        · exact absurd hSame.symm (hFresh d e' he')
        · rfl

theorem storeMessage (hdb : Filed db) (hSound : Sound db) {time : ServerTime}
    {sessionId : String} {message : PackedMessage} {toDid : String} {fromDid : Option String}
    (hPlain : (DatabaseCall.storeMessage time sessionId message toDid fromDid).Plain env db) :
    Filed (stateAfter (DatabaseHandler.storeMessage env time sessionId message.text toDid fromDid) db) := by
  obtain ⟨hFresh, hSender⟩ := hPlain
  have hNoMeta : db (.msgMeta (env.digest message.text)) = none := by
    cases hv : db (.msgMeta (env.digest message.text)) with
    | none => rfl
    | some v =>
      have hHolds := hSound.shaped _ _ hv
      cases v with
      | hash fields =>
        obtain ⟨-, -, -, d, -, -, e, he, -, hMsgId⟩ := hSound.kept _ fields hv
        exact absurd hMsgId (hFresh d e he)
      | _ => exact hHolds.elim
  have hRecords := @entered_storeRecords (formatTime time) (fromDid.getD "ANONYMOUS")
    (.integer message.text.utf8ByteSize) db (env.digest message.text) message.text toDid
    (env.digest toDid) (fromDid.map env.digest) db fun _ => rfl
  rcases DatabaseHandler.storeMessage_cases env time sessionId message.text toDid fromDid db with
    ⟨e, hRun⟩ | ⟨hSmall, ⟨answer, db', hStore, hRun⟩ | ⟨e, e', db', hStore, hRun⟩⟩
  · rw [stateAfter_of_error hRun]
    exact hdb
  · obtain rfl : fromDid = none := by
      rcases hSender with hNone | ⟨e, db₁, hError⟩
      · exact hNone
      · rw [hRun] at hError
        cases hError
    rw [stateAfter_of_ok hRun]
    obtain ⟨-, id, hStored⟩ := DatabaseHandler.storeMessage_effect hRun
    refine hdb.entered hFresh (hRecords.1 _ _ hStore)
      (fun x hx => hStored.others _ trivial (by simp) (by simpa using hx)) ?_
    intro d id' hMem hTime fields hFields
    have hId : id' = id .receive := by
      by_cases hOwner : owner (env.digest toDid) none .receive = some d
      · obtain ⟨other, hGains⟩ := hStored.gains .receive d hOwner
        have hQueue : entriesAt db' (.receiveQ d) = _ := hGains.entries
        rw [hQueue, List.mem_append, List.mem_singleton] at hMem
        rcases hMem with hMem | hNew
        · exact absurd rfl (hFresh d _ hMem)
        · exact congrArg StreamEntry.id hNew
      · have hQueue : entriesAt db' (.receiveQ d) = _ := (hStored.same .receive d hOwner).entries
        rw [hQueue] at hMem
        exact absurd rfl (hFresh d _ hMem)
    obtain ⟨old, hOld, hNew⟩ := hStored.metadata
    rw [hNoMeta] at hOld
    cases hOld
    rw [hNew, Option.some.injEq, Value.hash.injEq] at hFields
    refine ⟨env.digest toDid, formatTime time, hTime, ?_⟩
    rw [← hFields, hId]
    simp [setFields, setField, metadataFields, plainMetadata]
  · rw [stateAfter_of_error hRun]
    have hGrows := DatabaseHandler.grows_of_records_error hSound.shaped hSmall hStore
    refine hdb.entered hFresh (hRecords.2 _ _ hStore) (fun x _ => hGrows.metadata x) ?_
    intro d id hMem hTime fields hFields
    rw [hGrows.metadata, hNoMeta] at hFields
    cases hFields

theorem deleted (hdb : Filed db) {messageHash : String} {fields : Fields} {n : Nat}
    {id : Side → StreamId} (h : Deleted messageHash fields n id db db') : Filed db' := by
  have hSubset : ∀ d, ∀ e ∈ entriesAt db' (.receiveQ d), e ∈ entriesAt db (.receiveQ d) := by
    intro d e he
    by_cases hOwner : fields.lookup "TO" = some d
    · have hQueue : entriesAt db' (.receiveQ d) = _ := (h.loses .receive d hOwner).entries
      rw [hQueue] at he
      exact List.mem_of_mem_filter he
    · have hQueue : entriesAt db' (.receiveQ d) = _ := (h.same .receive d hOwner).entries
      rwa [hQueue] at he
  constructor
  case entry =>
    intro d e he
    obtain ⟨id, x, bytes, fromDid, rfl, hFields⟩ := hdb.entry d e (hSubset d e he)
    refine ⟨id, x, bytes, fromDid, rfl, fun fields' hx => hFields fields' ?_⟩
    have hHash : x ≠ messageHash := by
      rintro rfl
      simp [h.metadata] at hx
    rwa [h.others (.msgMeta x) trivial (by simp) (by simpa using hHash)] at hx
  case unique =>
    intro d e he e' he'
    exact hdb.unique d e (hSubset d e he) e' (hSubset d e' he')

theorem run (hdb : Filed db) (hSound : Sound db) (hDigests : Digested db) {call : DatabaseCall}
    (hPlain : call.Plain env db) : Filed (call.run env db) := by
  refine call.run_keeps env (fun hdb _ _ _ h => hdb.deleted h) hdb hSound hDigests ?_
  rintro time sessionId message toDid fromDid rfl
  exact hdb.storeMessage hSound hPlain

end Filed

theorem filed_of_reachable {env : Environment} {db : Db} (h : (plainCalls env).Reachable db) :
    Filed db := by
  have hAll : Filed db ∧ Sound db ∧ Digested db := by
    refine System.Invariant.holds (I := fun db => Filed db ∧ Sound db ∧ Digested db) ⟨?_, ?_⟩ h
    · rintro db rfl
      exact ⟨.empty, .empty, by simp [Digested]⟩
    · rintro db call db' ⟨hdb, hSound, hDigests⟩ ⟨hPlain, rfl⟩
      have hOutcome := call.outcome env hSound hDigests
      exact ⟨hdb.run hSound hDigests hPlain, hOutcome.sound, hOutcome.digested⟩
  exact hAll.1

namespace DatabaseHandler

variable {env : Environment} {db db' : Db} {didHash : String}

theorem mem_of_xrange {k : Key} {start count : String} {items : List StreamEntry}
    (h : xrange k start count db = .ok (some items) db') :
    db' = db ∧ ∀ e ∈ items, e ∈ entriesAt db k := by
  obtain ⟨hRead, rfl⟩ := (ofKey_ok_iff _ _ _ _ _).mp h
  refine ⟨rfl, ?_⟩
  simp only [except_bind_ok_iff, except_pure_eq, Except.ok.injEq] at hRead
  obtain ⟨n, -, s, hs, entries, hEntries, hItems⟩ := hRead
  have hSubset : ∀ e ∈ entries, e ∈ s.entries := by
    intro e he
    unfold fromStart at hEntries
    split at hEntries
    · cases hEntries
      exact he
    · split at hEntries
      all_goals
        rename_i text
        cases hId : okOr (StreamId.parse _) RedisError.invalidStreamId with
        | error error => rw [hId] at hEntries; cases hEntries
        | ok id =>
          rw [hId] at hEntries
          cases hEntries
          exact List.mem_of_mem_filter he
  intro e he
  split at hItems
  · cases hItems
  · cases hItems
    rw [← entries_of_asStream hs]
    exact hSubset e (List.mem_of_mem_take he)

theorem listMessages_ok {folder : Folder} {limit : Nat} {list : List MessageListElement}
    (h : listMessages env didHash folder limit db = .ok list db') :
    ∀ l ∈ list, ∃ e ∈ entriesAt db (folder.side.queue didHash), l = listEntry folder e := by
  obtain ⟨items, db₁, hQuery, hList⟩ := (bind_ok_iff _ _ _ _ _).mp h
  cases hList
  intro l hl
  obtain ⟨e, he, rfl⟩ := List.mem_map.mp hl
  cases items with
  | none => cases he
  | some items => exact ⟨e, (mem_of_xrange (query_ok_iff.mp hQuery)).2 e he, rfl⟩

theorem readPage_ok (hdb : Sound db) {options : FetchOptions} {results : List (List String)}
    (h : readPage env didHash options db = .ok results db') :
    db' = db ∧ ∀ m ∈ results.map fetched, ∃ e ∈ entriesAt db (.receiveQ didHash), m = listed db e := by
  have hCall := query_ok_iff.mp h
  unfold fcall at hCall
  split at hCall
  · obtain ⟨hash, db₂, hHash, hScript⟩ := (bind_ok_iff _ _ _ _ _).mp hCall
    cases hHash
    obtain ⟨list, db₃, hRange, hRest⟩ := (bind_ok_iff _ _ _ _ _).mp hScript
    cases list with
    | none => cases hRest
    | some items =>
      obtain ⟨rfl, hItems⟩ := mem_of_xrange hRange
      obtain ⟨elements, hElements, hListed⟩ := fetchElements_listed hdb
        fun e he => entry_shape hdb (hItems e he)
      change fetchElements items _ = _ at hRest
      rw [hElements] at hRest
      cases hRest
      refine ⟨rfl, fun m hm => ?_⟩
      rw [hListed] at hm
      obtain ⟨e, he, rfl⟩ := List.mem_map.mp hm
      exact ⟨e, hItems e he, rfl⟩
  · cases hCall

theorem mem_fetchMessages (hdb : Sound db) {sessionId : String} {options : FetchOptions}
    {response : GetMessagesResponse}
    (h : fetchMessages env sessionId didHash options db = .ok response db') :
    ∀ f ∈ response.success, ∃ e ∈ entriesAt db (.receiveQ didHash), f = listed db e := by
  obtain ⟨results, db₁, hPage, hAll⟩ := (bind_ok_iff _ _ _ _ _).mp h
  obtain ⟨rfl, hListed⟩ := readPage_ok hdb hPage
  obtain ⟨response', db₂, hRun, hSuccess⟩ :=
    fetchAll_ok env sessionId didHash options.deletePolicy results {} db₁
  rw [hRun] at hAll
  cases hAll
  intro f hf
  rw [hSuccess] at hf
  exact hListed f hf

theorem getMessage_eq {msgId : String} {g : MessageListElement}
    (h : getMessage env didHash msgId db = .ok g db') :
    ∃ body fields, db (.msg msgId) = some (.string body) ∧ asHash (db (.msgMeta msgId)) = .ok fields ∧
      g = listElement msgId body fields := by
  obtain ⟨answer, db₁, hQuery, hRest⟩ := (bind_ok_iff _ _ _ _ _).mp h
  obtain ⟨body, db₂, hGet, hFields⟩ := (bind_ok_iff _ _ _ _ _).mp (query_ok_iff.mp hQuery)
  obtain ⟨hBody, rfl⟩ := (ofKey_ok_iff _ _ _ _ _).mp hGet
  obtain ⟨fields, db₃, hGetAll, hAnswer⟩ := (bind_ok_iff _ _ _ _ _).mp hFields
  obtain ⟨hMeta, rfl⟩ := (ofKey_ok_iff _ _ _ _ _).mp hGetAll
  cases hAnswer
  cases body with
  | none => cases hRest
  | some body =>
    refine ⟨body, fields, ?_, hMeta, ?_⟩
    · cases hv : db₁ (.msg msgId) with
      | none => simp [hv, asString] at hBody
      | some v => cases v <;> simp_all [asString]
    · change deliver env didHash (listElement msgId body fields) db₁ = _ at hRest
      unfold deliver at hRest
      split at hRest
      · obtain ⟨outcome, db₄, -, hReturn⟩ := (bind_ok_iff _ _ _ _ _).mp hRest
        cases hReturn
        rfl
      · cases hRest

end DatabaseHandler

section
variable {db : Db} {id : StreamId} {h bytes fromDid : String}

theorem listEntry_receiverEntry : DatabaseHandler.listEntry .inbox (receiverEntry id h bytes fromDid) =
    { msgId := h, receiveId := some id.text, size := parseU64 bytes, timestamp := id.ms,
      fromAddress := some fromDid } := by
  have hTimestamp : parseU64 ((splitAll '-' id.text).headD "") = id.ms := by
    rw [splitAll_text]
    exact parseU64_of_parseNat (parseNat_repr id.ms) id.ms_lt
  rw [DatabaseHandler.listEntry]
  dsimp only [receiverEntry]
  rw [hTimestamp]
  rfl

theorem listed_receiverEntry {body : Option String} {fields : Fields}
    (hBody : asString (db (.msg h)) = .ok body) (hFields : asHash (db (.msgMeta h)) = .ok fields) :
    listed db (receiverEntry id h bytes fromDid) =
      DatabaseHandler.fetched (flatElement id.text "MSG_ID" h fromDid body fields) := by
  simp only [listed, receiverEntry, hBody, hFields]

/-- A message without metadata: the store was stopped before it wrote them. -/
theorem fetched_bare (id h fromDid : String) (body : Option String) :
    DatabaseHandler.fetched (flatElement id "MSG_ID" h fromDid body []) =
      { msgId := h, fromAddress := some fromDid, msg := body } := by
  cases body <;> rfl

theorem fetched_plain (h fromDid body bytes toHash time : String) (id : StreamId) :
    DatabaseHandler.fetched (flatElement id.text "MSG_ID" h fromDid (some body)
        (plainMetadata bytes toHash time id)) =
      { msgId := h, receiveId := some id.text, size := parseU64 bytes, timestamp := parseU64 time,
        toAddress := some toHash, fromAddress := some fromDid, msg := some body } := rfl

theorem listElement_plain (h body bytes toHash time : String) (id : StreamId) :
    DatabaseHandler.listElement h body (plainMetadata bytes toHash time id) =
      { msgId := h, receiveId := some id.text, size := parseU64 bytes, timestamp := parseU64 time,
        toAddress := some toHash, msg := some body } := rfl

theorem msgId_listed (hSound : Sound db) : (listed db (receiverEntry id h bytes fromDid)).msgId = h :=
  (DatabaseHandler.listed_message hSound rfl).1

/-- What the three paths say of an entry and its message. -/
theorem Filed.agree (hdb : Filed db) (hSound : Sound db) {d : String}
    (hEntry : receiverEntry id h bytes fromDid ∈ entriesAt db (.receiveQ d)) :
    (DatabaseHandler.listEntry .inbox (receiverEntry id h bytes fromDid)).Agrees
        (listed db (receiverEntry id h bytes fromDid)) ∧
      ∀ text fields, db (.msg h) = some (.string text) → asHash (db (.msgMeta h)) = .ok fields →
        (DatabaseHandler.listEntry .inbox (receiverEntry id h bytes fromDid)).Agrees
            (DatabaseHandler.listElement h text fields) ∧
          (listed db (receiverEntry id h bytes fromDid)).Agrees
            (DatabaseHandler.listElement h text fields) := by
  obtain ⟨id', h', bytes', fromDid', hEq, hFields⟩ := hdb.entry d _ hEntry
  cases hEq
  obtain ⟨body, hBody⟩ := hSound.shaped.body h
  obtain ⟨fields, hMeta, -⟩ := hSound.shaped.metadata h
  have hText : ∀ text, db (.msg h) = some (.string text) → body = some text := by
    intro text hMsg
    rw [hMsg] at hBody
    cases hBody
    rfl
  rw [listed_receiverEntry hBody hMeta, listEntry_receiverEntry, hMeta]
  cases hv : db (.msgMeta h) with
  | none =>
    rw [hv] at hMeta
    cases hMeta
    rw [fetched_bare]
    refine ⟨⟨.rfl, .right, .right, .right, .rfl, .left, .left⟩, ?_⟩
    rintro text _ hMsg ⟨⟩
    rw [hText text hMsg]
    exact ⟨⟨.rfl, .right, .right, .right, .right, .left, .left⟩,
      ⟨.rfl, .left, .left, .left, .right, .left, .rfl⟩⟩
  | some v =>
    obtain rfl : v = .hash fields := by
      have hHolds := hSound.shaped _ _ hv
      rw [hv] at hMeta
      cases v <;> first | exact hHolds.elim | (cases hMeta; rfl)
    obtain ⟨toHash, time, hTime, rfl⟩ := hFields fields hv
    obtain ⟨text, hMsg⟩ := hSound.body_of_metadata hv
    rw [hText text hMsg, fetched_plain, parseU64_of_parseNat hTime id.ms_lt]
    refine ⟨⟨.rfl, .rfl, .rfl, .rfl, .rfl, .left, .left⟩, ?_⟩
    rintro text' _ hMsg' ⟨⟩
    rw [hMsg] at hMsg'
    cases hMsg'
    rw [listElement_plain, parseU64_of_parseNat hTime id.ms_lt]
    exact ⟨⟨.rfl, .rfl, .rfl, .rfl, .right, .left, .left⟩,
      ⟨.rfl, .rfl, .rfl, .rfl, .right, .rfl, .rfl⟩⟩

end

/-- While nothing is stored that an inbox has, and nothing with a sender, the three paths agree about
every message of every inbox. -/
theorem read_paths_agree (env : Environment) (db : Db) (didHash : String)
    (h : (plainCalls env).Reachable db) : ReadPathsAgree env db didHash := by
  have hdb := filed_of_reachable h
  have hSound := (sound_of_reachable h.of_restrict).1
  have hShape : ∀ e ∈ entriesAt db (.receiveQ didHash), ∃ id x bytes fromDid,
      e = receiverEntry id x bytes fromDid := by
    intro e he
    obtain ⟨id, x, bytes, fromDid, rfl, -⟩ := hdb.entry didHash e he
    exact ⟨id, x, bytes, fromDid, rfl⟩
  have hListId : ∀ id x bytes fromDid,
      (DatabaseHandler.listEntry .inbox (receiverEntry id x bytes fromDid)).msgId = x := by
    intro id x bytes fromDid
    rw [listEntry_receiverEntry]
  constructor
  case listFetch =>
    intro limit list db₁ sessionId options response db₂ hList hFetch l hl f hf hSame
    obtain ⟨e, he, rfl⟩ := DatabaseHandler.listMessages_ok hList l hl
    obtain ⟨e', he', rfl⟩ := DatabaseHandler.mem_fetchMessages hSound hFetch f hf
    obtain ⟨id, x, bytes, fromDid, rfl⟩ := hShape e he
    obtain ⟨id', x', bytes', fromDid', rfl⟩ := hShape e' he'
    rw [hListId, msgId_listed hSound] at hSame
    subst hSame
    rw [← hdb.unique didHash _ he _ he' rfl]
    exact (hdb.agree hSound he).1
  case listGet =>
    intro limit list db₁ l g db₂ hList hl hGet
    obtain ⟨e, he, rfl⟩ := DatabaseHandler.listMessages_ok hList l hl
    obtain ⟨id, x, bytes, fromDid, rfl⟩ := hShape e he
    rw [hListId] at hGet
    obtain ⟨text, fields, hMsg, hMeta, rfl⟩ := DatabaseHandler.getMessage_eq hGet
    exact ((hdb.agree hSound he).2 text fields hMsg hMeta).1
  case fetchGet =>
    intro sessionId options response db₁ f g db₂ hFetch hf hGet
    obtain ⟨e, he, rfl⟩ := DatabaseHandler.mem_fetchMessages hSound hFetch f hf
    obtain ⟨id, x, bytes, fromDid, rfl⟩ := hShape e he
    rw [msgId_listed hSound] at hGet
    obtain ⟨text, fields, hMsg, hMeta, rfl⟩ := DatabaseHandler.getMessage_eq hGet
    exact ((hdb.agree hSound he).2 text fields hMsg hMeta).2

theorem read_paths_agree_hello : ReadPathsAgree sampleEnvironment helloStored aliceHash :=
  read_paths_agree sampleEnvironment helloStored aliceHash
    (.step (l := helloToAlice) (.init rfl) ⟨⟨by simp [entriesAt], .inl rfl⟩, rfl⟩)

/-- "hello" stored for alice on an empty database, from bob. -/
def helloFromBob : DatabaseCall :=
  .storeMessage ⟨1700000000, 100000, firstUsec_lt⟩ "s" ⟨"hello", hello_nonempty⟩ "did:example:alice"
    (some "did:example:bob")

/-- The list of alice's inbox names bob, and the message that she gets names his digest. -/
theorem read_paths_disagree :
    (databaseCalls sampleEnvironment).Reachable (helloFromBob.run sampleEnvironment fun _ => none) ∧
      ¬ ReadPathsAgree sampleEnvironment (helloFromBob.run sampleEnvironment fun _ => none) aliceHash := by
  refine ⟨.step (l := helloFromBob) (.init rfl) rfl, fun hAgree => ?_⟩
  have hFrom := (hAgree.listGet 10 _ _ _ _ _ rfl List.mem_cons_self rfl).fromAddress
  revert hFrom
  unfold FilledAlike
  decide

end AffinidiMessaging.Mediator
