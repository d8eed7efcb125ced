import AffinidiMessaging.Library.Paging
import AffinidiMessaging.Mediator.Availability

/-! # Paging through an inbox

The start of a page is the RECEIVE_ID of the last message of the page before it. That id comes from
the metadata of the message, not from the entry of the queue.
-/

namespace AffinidiMessaging.Mediator

open Redis Text Fallible Transition

/-- The digits of a regular expression: in ASCII the usual ones. -/
structure DigitClass where
  isDigit : Char → Bool
  ascii : ∀ c, c.toNat < 128 → isDigit c = c.isDigit

/-- `\d{13,14}-\d{1,3}$`, from anywhere in the text on. -/
def DigitClass.isMatch (digits : DigitClass) (s : String) : Bool :=
  let seq := s.toList.reverse.takeWhile digits.isDigit
  let rest := s.toList.reverse.dropWhile digits.isDigit
  decide (1 ≤ seq.length ∧ seq.length ≤ 3) && decide (rest.head? = some '-') &&
    decide (13 ≤ (rest.tail.takeWhile digits.isDigit).length)

namespace Common

/-- The session of a request, as its token names it. -/
structure Session where
  sessionId : String
  did : String
  didHash : String
deriving DecidableEq

/-- The session of an authenticated DID. -/
def Session.authenticated (env : Environment) (sessionId did : String) : Session :=
  { sessionId, did, didHash := env.digest did }

theorem Session.didHash_authenticated (env : Environment) (sessionId did : String) :
    (Session.authenticated env sessionId did).didHash = env.digest did := rfl

end Common

section
variable (env : Environment) (digits : DigitClass)

def inboxFetchHandler (session : Common.Session) (body : FetchOptions) : Handler GetMessagesResponse :=
  if body.limit < 1 ∨ 100 < body.limit then
    throw (.configError session.sessionId
      ("limit must be between 1 and 100 inclusive. Received limit(" ++ body.limit.repr ++ ")"))
  else if body.startId.any fun startId => !digits.isMatch startId then
    throw (.configError session.sessionId
      ("start_id isn't valid. Should match UNIX_EPOCH in milliseconds + -(0..999). Received start_id(" ++
        body.startId.getD "" ++ ")"))
  else DatabaseHandler.fetchMessages env session.sessionId session.didHash body

end

/-- What a fetch answers for an entry of the queue. -/
def listed (db : Db) (entry : StreamEntry) : MessageListElement :=
  match entry.fields with
  | (messageIdName, messageHash) :: _ :: (_, fromDid) :: _ =>
    match asString (db (.msg messageHash)), asHash (db (.msgMeta messageHash)) with
    | .ok body, .ok metadata => DatabaseHandler.fetched
        (flatElement entry.id.text messageIdName messageHash fromDid body metadata)
    | _, _ => {}
  | _ => {}

/-- The bytes stored under a digest. -/
def storedBytes (db : Db) (messageHash : String) : Option String :=
  match db (.msg messageHash) with
  | some (.string body) => some body
  | _ => none

/-- The entries that a fetch from a start reads. -/
def readFrom (queue : List StreamEntry) (start : Option String) : List StreamEntry :=
  match start with
  | none => queue
  | some startId =>
    match StreamId.parse startId with
    | some id => queue.filter (id < ·.id)
    | none => []

/-- Page after page, each with the entries it was made of, until an empty one. -/
inductive InboxPages (env : Environment) (digits : DigitClass) (session : Common.Session) (limit : Nat)
    (db : Db) : Option String → List (List StreamEntry) → Prop
  | done {start : Option String} {response : GetMessagesResponse}
    (h : inboxFetchHandler env digits session ⟨limit, start, .doNotDelete⟩ db = .ok response db)
    (hEmpty : response.success = []) : InboxPages env digits session limit db start []
  | page {start : Option String} {response : GetMessagesResponse} {entries : List StreamEntry}
    {last : MessageListElement} {rest : List (List StreamEntry)}
    (h : inboxFetchHandler env digits session ⟨limit, start, .doNotDelete⟩ db = .ok response db)
    (hEntries : entries = (readFrom (entriesAt db (.receiveQ session.didHash)) start).take limit)
    (hListed : response.success = entries.map (listed db))
    (hLast : response.success.getLast? = some last)
    (hRest : InboxPages env digits session limit db last.receiveId rest) :
    InboxPages env digits session limit db start (entries :: rest)

namespace DatabaseHandler

variable (env : Environment) {db : Db}

theorem fetchAll_doNotDelete (sessionId didHash : String) (results : List (List String))
    (messages : GetMessagesResponse) (db : Db) :
    fetchAll env sessionId didHash .doNotDelete results messages db =
      .ok { messages with success := messages.success ++ results.map fetched } db := by
  induction results generalizing messages with
  | nil => simp [fetchAll]
  | cons subItem rest ih =>
    have hOne : fetchOne env sessionId didHash .doNotDelete subItem messages db =
        .ok { messages with success := messages.success ++ [fetched subItem] } db := rfl
    rw [fetchAll, bind_of_ok hOne, ih]
    simp

theorem fetchElements_listed (hdb : Sound db) {entries : List StreamEntry}
    (hEntries : ∀ e ∈ entries, ∃ h bytes other, e.fields = [("MSG_ID", h), ("BYTES", bytes), other]) :
    ∃ elements, fetchElements entries db = .ok elements db ∧
      elements.map fetched = entries.map (listed db) := by
  induction entries with
  | nil => exact ⟨[], rfl, rfl⟩
  | cons entry rest ih =>
    obtain ⟨elements, hRest, hListed⟩ := ih fun e he => hEntries e (List.mem_cons_of_mem _ he)
    obtain ⟨h, bytes, ⟨name, fromDid⟩, hFields⟩ := hEntries entry List.mem_cons_self
    obtain ⟨o, ho⟩ := hdb.shaped.body h
    obtain ⟨metadata, hMetadata, -⟩ := hdb.shaped.metadata h
    have hGet : get (.msg h) db = .ok o db := (ofKey_ok_iff _ _ _ _ _).mpr ⟨ho, rfl⟩
    have hGetAll : hgetall (.msgMeta h) db = .ok metadata db :=
      (ofKey_ok_iff _ _ _ _ _).mpr ⟨hMetadata, rfl⟩
    have hOne : fetchElement entry db =
        .ok (flatElement entry.id.text "MSG_ID" h fromDid o metadata) db := by
      rw [fetchElement, hFields]
      refine (bind_of_ok hGet).trans ?_
      rw [bind_of_ok hGetAll]
      rfl
    refine ⟨flatElement entry.id.text "MSG_ID" h fromDid o metadata :: elements, ?_, ?_⟩
    · rw [fetchElements, bind_of_ok hOne, bind_of_ok hRest]
      rfl
    · simp [hListed, listed, hFields, ho, hMetadata]

theorem text_ne_dash (id : StreamId) : id.text ≠ "-" := by
  intro h
  have hParse := StreamId.parse_text id
  rw [h] at hParse
  exact absurd hParse (by simp [StreamId.parse, splitOnce, parseNat, isNumeral])

theorem utf8ByteSize_text (id : StreamId) : id.text.utf8ByteSize ≤ 164 := by
  have hMs : id.ms.repr.length ≤ 20 := by
    rw [Nat.length_repr_le_iff (by decide)]
    have := id.ms_lt
    omega
  have hSeq : id.seq.repr.length ≤ 20 := by
    rw [Nat.length_repr_le_iff (by decide)]
    have := id.seq_lt
    omega
  have hLength : id.text.length ≤ 41 := by
    rw [StreamId.text, String.length_append, String.length_ofList, List.length_cons,
      String.length_toList]
    omega
  have := utf8ByteSize_le id.text
  omega

theorem fromStart_after (id : StreamId) (entries : List StreamEntry) :
    fromStart ("(" ++ id.text) entries = .ok (entries.filter (id < ·.id)) := by
  have hList : ("(" ++ id.text).toList = '(' :: id.text.toList := by
    rw [String.toList_append]
    rfl
  have hNe : "(" ++ id.text ≠ "-" := by
    intro h
    rw [h] at hList
    cases hList
  rw [fromStart, if_neg hNe, hList]
  simp [okOr, Except.map]

theorem fetchMessages_listed (hdb : Sound db) {didHash : String}
    (hHash : didHash.utf8ByteSize ≤ protoMaxBulkLen) (sessionId : String) {limit : Nat}
    (hLimit : 1 ≤ limit ∧ limit ≤ 100) {start : Option String}
    (hStart : ∀ startId, start = some startId → ∃ id : StreamId, startId = id.text) :
    fetchMessages env sessionId didHash ⟨limit, start, .doNotDelete⟩ db =
      .ok { success := ((readFrom (entriesAt db (.receiveQ didHash)) start).take limit).map (listed db) }
        db := by
  obtain ⟨s, hs, hShape⟩ := hdb.shaped.queue .receive didHash
  have hQueue : s.entries = entriesAt db (.receiveQ didHash) := entries_of_asStream hs
  rw [← hQueue]
  have hCount : parseI64 limit.repr = some (limit : Int) :=
    parseI64_toString (n := (limit : Int)) (by unfold inI64; omega)
  have hFrom : fromStart (if start.getD "-" = "-" then "-" else "(" ++ start.getD "-") s.entries =
      .ok (readFrom s.entries start) := by
    cases start with
    | none => rfl
    | some startId =>
      obtain ⟨id, rfl⟩ := hStart startId rfl
      rw [Option.getD_some, if_neg (text_ne_dash id), fromStart_after, readFrom, StreamId.parse_text]
  have hRange : xrange (.receiveQ didHash) (if start.getD "-" = "-" then "-" else "(" ++ start.getD "-")
      limit.repr db = .ok (some ((readFrom s.entries start).take limit)) db := by
    refine (ofKey_ok_iff _ _ _ _ _).mpr ⟨?_, rfl⟩
    have hStream : asStream (db (.receiveQ didHash)) = .ok s := hs
    have hPos : limit ≠ 0 := by omega
    simp [hCount, okOr, hStream, hFrom, bind, Except.bind, pure, Except.pure, hPos]
  have hShapes : ∀ e ∈ (readFrom s.entries start).take limit, ∃ h bytes other,
      e.fields = [("MSG_ID", h), ("BYTES", bytes), other] := by
    intro e he
    apply hShape.entry
    have hMem := List.mem_of_mem_take he
    unfold readFrom at hMem
    split at hMem
    · exact hMem
    · split at hMem
      · exact List.mem_of_mem_filter hMem
      · cases hMem
  obtain ⟨elements, hElements, hListed⟩ := fetchElements_listed hdb hShapes
  have hArgs : ([didHash] ++ [start.getD "-", limit.repr]).all (·.utf8ByteSize ≤ protoMaxBulkLen) = true := by
    have hStartSize : (start.getD "-").utf8ByteSize ≤ 164 := by
      cases start with
      | none => decide
      | some startId =>
        obtain ⟨id, rfl⟩ := hStart startId rfl
        exact utf8ByteSize_text id
    have hLimitSize : limit.repr.utf8ByteSize ≤ 12 := by
      have hLength : limit.repr.length ≤ 3 := by
        rw [Nat.length_repr_le_iff (by decide)]
        omega
      have := utf8ByteSize_le limit.repr
      omega
    unfold protoMaxBulkLen at hHash ⊢
    simp only [List.cons_append, List.nil_append, List.all_cons, List.all_nil, Bool.and_true,
      Bool.and_eq_true, decide_eq_true_eq]
    omega
  have hCall : fcall Mediator.fetchMessages [didHash] [start.getD "-", limit.repr] db =
      .ok elements db := by
    rw [fcall, if_pos hArgs]
    exact (bind_of_ok hRange).trans hElements
  refine (bind_of_ok (query_of_ok hCall)).trans ?_
  rw [fetchAll_doNotDelete, hListed]
  rfl

/-- A field of the metadata of a fetched message. -/
def metaField (message : MessageListElement) (p : String × String) : MessageListElement :=
  match p.1 with
  | "SEND_ID" => { message with sendId := some p.2 }
  | "RECEIVE_ID" => { message with receiveId := some p.2 }
  | "BYTES" => { message with size := parseU64 p.2 }
  | "TIMESTAMP" => { message with timestamp := parseU64 p.2 }
  | "TO" => { message with toAddress := some p.2 }
  | _ => message

theorem fetchedField_meta (message : MessageListElement) (k v : String) :
    fetchedField message ("META_" ++ k) v = metaField message (k, v) := by
  have hOther : ∀ name : String, name.toList.take 5 ≠ "META_".toList → "META_" ++ k ≠ name := by
    rintro name hName rfl
    exact hName (take_append "META_" k 5 (by decide))
  have hMeta : ∀ f, "META_" ++ k = "META_" ++ f → k = f := fun f => append_left_injective
  unfold fetchedField
  split
  next h => exact (hOther _ (by decide) h).elim
  next h => cases hMeta "SEND_ID" h; rfl
  next h => cases hMeta "RECEIVE_ID" h; rfl
  next h => cases hMeta "BYTES" h; rfl
  next h => cases hMeta "TIMESTAMP" h; rfl
  next h => cases hMeta "TO" h; rfl
  next h => exact (hOther _ (by decide) h).elim
  next h => exact (hOther _ (by decide) h).elim
  next hSend hReceive hBytes hTime hTo _ _ =>
    unfold metaField
    dsimp only
    split <;> first | rfl | contradiction

attribute [ext] MessageListElement

theorem foldl_metaField {metadata : Fields} (h : (metadata.map Prod.fst).Nodup)
    (message : MessageListElement) :
    metadata.foldl metaField message =
      { message with
        sendId := (metadata.lookup "SEND_ID").elim message.sendId some
        receiveId := (metadata.lookup "RECEIVE_ID").elim message.receiveId some
        size := (metadata.lookup "BYTES").elim message.size parseU64
        timestamp := (metadata.lookup "TIMESTAMP").elim message.timestamp parseU64
        toAddress := (metadata.lookup "TO").elim message.toAddress some } := by
  ext1
  case msgId | fromAddress | msg =>
    exact foldl_keeps (fun m p => by unfold metaField; split <;> rfl) metadata message
  all_goals
    refine foldl_fields (fun m v => rfl) (fun m g v hg => ?_) h message
    unfold metaField
    dsimp only
    split <;> first | rfl | contradiction

theorem listed_eq (hdb : Sound db) {entry : StreamEntry} {h bytes : String} {other : String × String}
    (hFields : entry.fields = [("MSG_ID", h), ("BYTES", bytes), other]) :
    listed db entry =
      { msgId := h
        sendId := field db (.msgMeta h) "SEND_ID"
        receiveId := field db (.msgMeta h) "RECEIVE_ID"
        size := (field db (.msgMeta h) "BYTES").elim 0 parseU64
        timestamp := (field db (.msgMeta h) "TIMESTAMP").elim 0 parseU64
        toAddress := field db (.msgMeta h) "TO"
        fromAddress := some other.2
        msg := storedBytes db h } := by
  obtain ⟨o, ho⟩ := hdb.shaped.body h
  obtain ⟨metadata, hMetadata, hNodup⟩ := hdb.shaped.metadata h
  simp only [← lookup_of_asHash hMetadata, listed, hFields, ho, hMetadata]
  have hSome : ∀ o : Option String, o.elim none some = o := fun o => by cases o <;> rfl
  cases hMsg : db (.msg h) with
  | some v =>
    rw [hMsg] at ho
    cases v with
    | string body =>
      cases ho
      rw [fetched_eq_foldl, List.foldl_map]
      simp only [fetchedField_meta]
      rw [foldl_metaField hNodup, storedBytes, hMsg]
      simp only [hSome]
    | _ => cases ho
  | none =>
    rw [hMsg] at ho
    cases ho
    -- a message without a body has no metadata
    have hNone := hdb.metadata_of_no_message hMetadata hMsg
    subst hNone
    rw [storedBytes, hMsg]
    rfl

theorem listed_message (hdb : Sound db) {entry : StreamEntry} {h bytes : String} {other : String × String}
    (hFields : entry.fields = [("MSG_ID", h), ("BYTES", bytes), other]) :
    (listed db entry).msgId = h ∧ (listed db entry).msg = storedBytes db h := by
  rw [listed_eq hdb hFields]
  exact ⟨rfl, rfl⟩

theorem receiveId_listed (hdb : Sound db) {entry : StreamEntry} {h bytes : String}
    {other : String × String} (hFields : entry.fields = [("MSG_ID", h), ("BYTES", bytes), other]) :
    (listed db entry).receiveId = field db (.msgMeta h) "RECEIVE_ID" := by
  rw [listed_eq hdb hFields]

theorem receiveId_text (hdb : Sound db) {h r : String}
    (hField : field db (.msgMeta h) "RECEIVE_ID" = some r) : ∃ id : StreamId, r = id.text := by
  obtain ⟨fields, hMeta, hLookup⟩ := field_eq_some_iff.mp hField
  obtain ⟨-, n, id, d, hMetadata, hTo, -⟩ := hdb.kept h fields hMeta
  have hId := hMetadata.ids .receive
  simp only [Side.idField, Side.ownerField, hTo, hLookup, Option.map_some, Option.some.injEq] at hId
  exact ⟨_, hId⟩

end DatabaseHandler

/-- Where the metadata of the message of an entry place it. -/
def messagePlace (db : Db) (entry : StreamEntry) : Option String :=
  (entry.fields.lookup "MSG_ID").bind fun h => field db (.msgMeta h) "RECEIVE_ID"

def inboxReader (digits : DigitClass) (didHash : String) (db : Db) :
    Paging.Reader StreamEntry (Option String) where
  read := readFrom (entriesAt db (.receiveQ didHash))
  accepts start := start.any (fun startId => !digits.isMatch startId) = false
  next := messagePlace db

def IsPlace (start : Option String) : Prop := ∀ startId, start = some startId → ∃ id : StreamId, startId = id.text

section
variable {env : Environment} {digits : DigitClass} {session : Common.Session} {limit : Nat} {db : Db}

theorem isPlace_messagePlace (hdb : Sound db) (entry : StreamEntry) : IsPlace (messagePlace db entry) := by
  intro startId hPlace
  obtain ⟨h, -, hField⟩ := Option.bind_eq_some_iff.mp hPlace
  exact DatabaseHandler.receiveId_text hdb hField

theorem entry_shape (hdb : Sound db) {didHash : String} {entry : StreamEntry}
    (h : entry ∈ entriesAt db (.receiveQ didHash)) :
    ∃ h bytes other, entry.fields = [("MSG_ID", h), ("BYTES", bytes), other] :=
  (hdb.shaped.entries .receive didHash).entry entry h

theorem receiveId_eq_messagePlace (hdb : Sound db) {didHash : String} {entry : StreamEntry}
    (h : entry ∈ entriesAt db (.receiveQ didHash)) :
    (listed db entry).receiveId = messagePlace db entry := by
  obtain ⟨messageHash, bytes, other, hFields⟩ := entry_shape hdb h
  rw [DatabaseHandler.receiveId_listed hdb hFields, messagePlace, hFields]
  simp

theorem inboxFetchHandler_ok_iff (hdb : Sound db) (hHash : session.didHash.utf8ByteSize ≤ protoMaxBulkLen)
    (hLimit : 1 ≤ limit ∧ limit ≤ 100) {start : Option String} (hStart : IsPlace start)
    (response : GetMessagesResponse) (db' : Db) :
    inboxFetchHandler env digits session ⟨limit, start, .doNotDelete⟩ db = .ok response db' ↔
      (inboxReader digits session.didHash db).accepts start ∧ db' = db ∧ response =
        { success :=
            ((readFrom (entriesAt db (.receiveQ session.didHash)) start).take limit).map (listed db) } := by
  have hFetch := DatabaseHandler.fetchMessages_listed env hdb hHash session.sessionId hLimit hStart
  have hInRange : ¬ (limit < 1 ∨ 100 < limit) := by omega
  rw [inboxFetchHandler, if_neg hInRange]
  have hAccepts : (inboxReader digits session.didHash db).accepts start ↔
      start.any (fun startId => !digits.isMatch startId) = false := Iff.rfl
  cases hMatch : start.any fun startId => !digits.isMatch startId with
  | true => simp [hAccepts, hMatch]
  | false => simp [hAccepts, hMatch, hFetch, eq_comm, and_comm]

/-- The pages of the handler are those of a reader of the queue. -/
theorem inboxPages_iff (hdb : Sound db) (hHash : session.didHash.utf8ByteSize ≤ protoMaxBulkLen)
    (hLimit : 1 ≤ limit ∧ limit ≤ 100) {start : Option String} (hStart : IsPlace start)
    (pages : List (List StreamEntry)) :
    InboxPages env digits session limit db start pages ↔
      Paging.Pages (inboxReader digits session.didHash db) limit start pages := by
  have hMem (start : Option String) {entry : StreamEntry}
      (h : entry ∈ (readFrom (entriesAt db (.receiveQ session.didHash)) start).take limit) :
      entry ∈ entriesAt db (.receiveQ session.didHash) := by
    have hRead := List.mem_of_mem_take h
    unfold readFrom at hRead
    split at hRead
    · exact hRead
    · split at hRead
      · exact List.mem_of_mem_filter hRead
      · cases hRead
  constructor
  · intro h
    induction h with
    | @done start response h hEmpty =>
      obtain ⟨hAccepts, -, rfl⟩ := (inboxFetchHandler_ok_iff hdb hHash hLimit hStart _ _).mp h
      refine .done hAccepts ?_
      have hNone := List.map_eq_nil_iff.mp hEmpty
      rcases List.take_eq_nil_iff.mp hNone with hZero | hRead
      · omega
      · exact hRead
    | @page start response entries last rest h hEntries hListed hLast hRest ih =>
      obtain ⟨hAccepts, -, -⟩ := (inboxFetchHandler_ok_iff hdb hHash hLimit hStart _ _).mp h
      subst hEntries
      rw [hListed, List.getLast?_map] at hLast
      obtain ⟨entry, hEntry, rfl⟩ := Option.map_eq_some_iff.mp hLast
      have hPlace := receiveId_eq_messagePlace hdb (hMem start (List.mem_of_getLast? hEntry))
      rw [hPlace] at ih
      exact .page hAccepts hEntry (ih (isPlace_messagePlace hdb entry))
  · intro h
    induction h with
    | @done start hAccepts hEmpty =>
      refine .done ((inboxFetchHandler_ok_iff hdb hHash hLimit hStart _ _).mpr ⟨hAccepts, rfl, rfl⟩) ?_
      have hNone : readFrom (entriesAt db (.receiveQ session.didHash)) start = [] := hEmpty
      simp [hNone]
    | @page start last rest hAccepts hLast hRest ih =>
      have hPlace := receiveId_eq_messagePlace hdb (hMem start (List.mem_of_getLast? hLast))
      have hListed : (((readFrom (entriesAt db (.receiveQ session.didHash)) start).take limit).map
          (listed db)).getLast? = some (listed db last) := by
        rw [List.getLast?_map]
        exact congrArg (Option.map (listed db)) hLast
      have hNext : InboxPages env digits session limit db (listed db last).receiveId rest := by
        rw [hPlace]
        exact ih (isPlace_messagePlace hdb last)
      exact .page ((inboxFetchHandler_ok_iff hdb hHash hLimit hStart _ _).mpr ⟨hAccepts, rfl, rfl⟩)
        rfl rfl hListed hNext

end

/-- The handler's pattern takes the ids with 13 or more digits of milliseconds and up to three digits
of a sequence number. -/
theorem DigitClass.isMatch_text_iff (digits : DigitClass) (id : StreamId) :
    digits.isMatch id.text = true ↔ 10 ^ 12 ≤ id.ms ∧ id.seq < 1000 := by
  have hDigits : ∀ n : Nat, ∀ c ∈ n.repr.toList.reverse, digits.isDigit c = true := by
    intro n c hc
    rw [List.mem_reverse, Nat.toList_repr] at hc
    have hDigit := Nat.isDigit_of_mem_toDigits (by decide) (by decide) hc
    have hSmall : c.toNat ≤ 57 := by
      simp only [Char.isDigit, Bool.and_eq_true, decide_eq_true_eq] at hDigit
      exact UInt32.le_iff_toNat_le.mp hDigit.2
    rw [digits.ascii c (by omega), hDigit]
  have hDash : digits.isDigit '-' = false := by
    rw [digits.ascii '-' (by decide)]
    decide
  have hReverse : id.text.toList.reverse = id.seq.repr.toList.reverse ++ '-' :: id.ms.repr.toList.reverse := by
    simp [StreamId.text, String.toList_append]
  have hSeq : id.text.toList.reverse.takeWhile digits.isDigit = id.seq.repr.toList.reverse := by
    rw [hReverse, List.takeWhile_append_of_pos (hDigits id.seq), List.takeWhile_cons_of_neg (by simp [hDash]),
      List.append_nil]
  have hRest : id.text.toList.reverse.dropWhile digits.isDigit = '-' :: id.ms.repr.toList.reverse := by
    rw [hReverse, List.dropWhile_append_of_pos (hDigits id.seq), List.dropWhile_cons_of_neg (by simp [hDash])]
  have hMs : id.ms.repr.toList.reverse.takeWhile digits.isDigit = id.ms.repr.toList.reverse :=
    List.takeWhile_eq_self_iff.mpr (hDigits id.ms)
  have hPos : 1 ≤ id.seq.repr.length := Nat.length_repr_pos
  have hSeqLength : id.seq.repr.length ≤ 3 ↔ id.seq < 1000 := Nat.length_repr_le_iff (by decide)
  have hMsLength : id.ms.repr.length ≤ 12 ↔ id.ms < 10 ^ 12 := Nat.length_repr_le_iff (by decide)
  rw [isMatch]
  simp only [hSeq, hRest, List.tail_cons, hMs, List.head?_cons, List.length_reverse, String.length_toList,
    Bool.and_eq_true, decide_eq_true_eq, and_true]
  omega

theorem filter_suffix {queue : List StreamEntry} (hSorted : queue.Pairwise (·.id < ·.id)) (id : StreamId) :
    queue.filter (id < ·.id) <:+ queue := by
  induction queue with
  | nil => exact List.suffix_rfl
  | cons e rest ih =>
    obtain ⟨hFirst, hRest⟩ := List.pairwise_cons.mp hSorted
    by_cases he : id < e.id
    · have hAll : (e :: rest).filter (id < ·.id) = e :: rest := by
        rw [List.filter_eq_self]
        intro e' he'
        rcases List.mem_cons.mp he' with rfl | hMem
        · simpa using he
        · simpa using StreamId.lt_trans he (hFirst e' hMem)
      rw [hAll]
    · rw [List.filter_cons_of_neg (by simpa using he)]
      exact (ih hRest).trans (List.suffix_cons e rest)

theorem filter_after {before after : List StreamEntry} {entry : StreamEntry}
    (hSorted : (before ++ entry :: after).Pairwise (·.id < ·.id)) :
    (before ++ entry :: after).filter (entry.id < ·.id) = after := by
  obtain ⟨-, hAfter, hBefore⟩ := List.pairwise_append.mp hSorted
  have hNone : before.filter (entry.id < ·.id) = [] := by
    rw [List.filter_eq_nil_iff]
    intro e he
    simpa using StreamId.lt_asymm (hBefore e he entry List.mem_cons_self)
  have hSelf : ¬ entry.id < entry.id := fun h => StreamId.lt_asymm h h
  have hAll : after.filter (entry.id < ·.id) = after := by
    rw [List.filter_eq_self]
    intro e he
    simpa using (List.pairwise_cons.mp hAfter).1 e he
  rw [List.filter_append, hNone, List.nil_append, List.filter_cons_of_neg (by simpa using hSelf), hAll]

/-- The metadata place the message of an entry where the pattern takes it, and with the same entries
after it as the entry itself. -/
def PlaceKept (db : Db) (queue : List StreamEntry) (entry : StreamEntry) : Prop :=
  ∃ id : StreamId, messagePlace db entry = some id.text ∧ (10 ^ 12 ≤ id.ms ∧ id.seq < 1000) ∧
    queue.filter (id < ·.id) = queue.filter (entry.id < ·.id)

theorem leadsOn_iff (digits : DigitClass) {db : Db} (hdb : Sound db) {didHash : String} {entry : StreamEntry}
    (hEntry : entry ∈ entriesAt db (.receiveQ didHash)) :
    (inboxReader digits didHash db).LeadsOn (entriesAt db (.receiveQ didHash)) entry ↔
      PlaceKept db (entriesAt db (.receiveQ didHash)) entry := by
  have hSorted := (hdb.shaped.entries .receive didHash).sorted
  have hNext : (inboxReader digits didHash db).next entry = messagePlace db entry := rfl
  unfold Paging.Reader.LeadsOn
  rw [hNext]
  constructor
  · rintro ⟨hAccepts, before, hQueue⟩
    cases hPlace : messagePlace db entry with
    | none =>
      -- a place that is not there reads the queue from its start, which is longer
      rw [hPlace] at hQueue
      have hLength : (entriesAt db (.receiveQ didHash)).length =
          (before ++ entry :: entriesAt db (.receiveQ didHash)).length := congrArg List.length hQueue
      simp only [List.length_append, List.length_cons] at hLength
      omega
    | some startId =>
      obtain ⟨id, rfl⟩ := isPlace_messagePlace hdb entry startId hPlace
      rw [hPlace] at hQueue hAccepts
      have hRead : (inboxReader digits didHash db).read (some id.text) =
          (entriesAt db (.receiveQ didHash)).filter (id < ·.id) := by
        simp [inboxReader, readFrom]
      rw [hRead] at hQueue
      refine ⟨id, hPlace, (digits.isMatch_text_iff id).mp ?_, ?_⟩
      · simpa [inboxReader] using hAccepts
      · have hAfter := filter_after (hQueue ▸ hSorted)
        rw [← hQueue] at hAfter
        exact hAfter.symm
  · rintro ⟨id, hPlace, hDigits, hFilter⟩
    rw [hPlace]
    have hMatch := (digits.isMatch_text_iff id).mpr hDigits
    refine ⟨by simp [inboxReader, hMatch], ?_⟩
    obtain ⟨before, after, hQueue⟩ := List.append_of_mem hEntry
    refine ⟨before, ?_⟩
    have hRead : (inboxReader digits didHash db).read (some id.text) = after := by
      have hAfter := filter_after (hQueue ▸ hSorted)
      rw [← hQueue] at hAfter
      simpa [inboxReader, readFrom, hFilter] using hAfter
    rw [hRead]
    exact hQueue

section
variable (env : Environment) (digits : DigitClass) {db : Db} {limit : Nat} (sessionId did : String)

/-- Paging through an inbox reads every entry once, in order, and is never rejected. -/
def PagedExactly (db : Db) (limit : Nat) : Prop :=
  ∃ pages, InboxPages env digits (.authenticated env sessionId did) limit db none pages ∧
    pages.flatten = entriesAt db (.receiveQ (env.digest did))

theorem pagedExactly_iff (hdb : Sound db) (hLimit : 1 ≤ limit ∧ limit ≤ 100) :
    PagedExactly env digits sessionId did db limit ↔
      ∀ entry, Paging.EndsPage limit (entriesAt db (.receiveQ (env.digest did))) entry →
        PlaceKept db (entriesAt db (.receiveQ (env.digest did))) entry := by
  have hHash : (Common.Session.authenticated env sessionId did).didHash.utf8ByteSize ≤ protoMaxBulkLen := by
    simp [Common.Session.authenticated, env.digest_size, protoMaxBulkLen]
  have hSorted := (hdb.shaped.entries .receive (env.digest did)).sorted
  have hNodup : (entriesAt db (.receiveQ (env.digest did))).Nodup :=
    hSorted.imp fun hLess hSame => StreamId.ne_of_lt hLess (congrArg StreamEntry.id hSame)
  have hSuffix : ∀ start, (inboxReader digits (env.digest did) db).read start <:+
      entriesAt db (.receiveQ (env.digest did)) := by
    intro start
    change readFrom _ start <:+ _
    unfold readFrom
    split
    · exact List.suffix_rfl
    · split
      · exact filter_suffix hSorted _
      · exact List.nil_suffix
  have hAccepts : (inboxReader digits (env.digest did) db).accepts none := rfl
  have hPages := Paging.pages_iff (inboxReader digits (env.digest did) db) hNodup hSuffix
    (by omega : 0 < limit) hAccepts
  have hPlace : IsPlace none := by
    rintro startId hNone
    cases hNone
  unfold PagedExactly
  simp only [inboxPages_iff hdb hHash hLimit hPlace]
  refine hPages.trans ?_
  constructor
  · intro hAll entry hEnds
    exact (leadsOn_iff digits hdb hEnds.mem).mp (hAll entry hEnds)
  · intro hAll entry hEnds
    exact (leadsOn_iff digits hdb hEnds.mem).mpr (hAll entry hEnds)

/-- Whatever was stored and deleted, and for every page size: an inbox is paged exactly when the
metadata place the last message of every page right. -/
theorem inbox_paged_iff (h : (databaseCalls env).Reachable db) (hLimit : 1 ≤ limit ∧ limit ≤ 100) :
    PagedExactly env digits sessionId did db limit ↔
      ∀ entry, Paging.EndsPage limit (entriesAt db (.receiveQ (env.digest did))) entry →
        PlaceKept db (entriesAt db (.receiveQ (env.digest did))) entry :=
  pagedExactly_iff env digits sessionId did (sound_of_reachable h).1 hLimit

end

/-- The digits of ASCII only. -/
def asciiDigits : DigitClass := ⟨Char.isDigit, fun _ _ => rfl⟩

/-- The entry of "hello" in alice's queue. -/
def helloEntry (ms : Nat) (h : ms < 2 ^ 64) : StreamEntry where
  id := { ms := ms, seq := 0, ms_lt := h, seq_lt := StreamId.zero.seq_lt }
  fields := [("MSG_ID", helloHash), ("BYTES", "5"), ("FROM", "ANONYMOUS")]

theorem inbox_paged_hello :
    PagedExactly sampleEnvironment asciiDigits "s" "did:example:alice" helloStored 1 := by
  have hReachable : (databaseCalls sampleEnvironment).Reachable helloStored :=
    .step (l := helloToAlice) (.init rfl) rfl
  refine (inbox_paged_iff sampleEnvironment asciiDigits "s" "did:example:alice" hReachable
    (by decide)).mpr ?_
  have hQueue : entriesAt helloStored (.receiveQ (sampleEnvironment.digest "did:example:alice")) =
      [helloEntry 1700000000100 (by decide)] := rfl
  rw [hQueue]
  intro entry hEnds
  obtain rfl := List.mem_singleton.mp hEnds.mem
  exact ⟨(helloEntry 1700000000100 (by decide)).id, rfl, by decide, rfl⟩

/-- Stored in the first tenth of a second, where the id has fewer digits. -/
def earlyHello : DatabaseCall :=
  .storeMessage ⟨1700000000, 5000, by decide⟩ "s" ⟨"hello", hello_nonempty⟩ "did:example:alice" none

theorem inbox_not_paged :
    (databaseCalls sampleEnvironment).Reachable (earlyHello.run sampleEnvironment fun _ => none) ∧
      ¬ PagedExactly sampleEnvironment asciiDigits "s" "did:example:alice"
        (earlyHello.run sampleEnvironment fun _ => none) 1 := by
  have hReachable : (databaseCalls sampleEnvironment).Reachable
      (earlyHello.run sampleEnvironment fun _ => none) :=
    .step (l := earlyHello) (.init rfl) rfl
  refine ⟨hReachable, fun hPaged => ?_⟩
  have hAll := (pagedExactly_iff sampleEnvironment asciiDigits "s" "did:example:alice"
    (sound_of_reachable hReachable).1 (by decide)).mp hPaged
  have hQueue : entriesAt (earlyHello.run sampleEnvironment fun _ => none)
      (.receiveQ (sampleEnvironment.digest "did:example:alice")) = [helloEntry 17000000005 (by decide)] := rfl
  rw [hQueue] at hAll
  obtain ⟨id, hPlace, hDigits, -⟩ := hAll (helloEntry 17000000005 (by decide)) ⟨0, rfl, .inr rfl⟩
  have hId : (helloEntry 17000000005 (by decide)).id.text = id.text :=
    Option.some.inj ((rfl : _ = some _).symm.trans hPlace)
  cases StreamId.text_injective hId
  exact absurd hDigits (by decide)

end AffinidiMessaging.Mediator
