import AffinidiMessaging.Sdk.Rest

/-! # Calls over the REST interface

`get_messages`, `list_messages`, `delete_messages` and `fetch_messages` of the SDK, when the SDK is authenticated. What
they return is what the handlers of the mediator answer. A fetch that deletes on receipt is two requests.
-/

namespace AffinidiMessaging.Sdk

open Redis Text Fallible Serde Didcomm Mediator Transition

namespace Rest

/-- The mediator as it answers requests. -/
structure Server where
  crates : Crates
  env : Environment
  digits : DigitClass
  maxDeletedMessages : Nat
  maxListedMessages : Nat
  /-- What the extractor answers to a body that it cannot read. -/
  rejection : String → HttpResponse

/-- How many messages the SDK deletes at once. -/
def maxDeletedMessages : Nat := 100

section
variable (server : Server) (session : Common.Session)

def listMessages (did : String) (folder : Folder) : Call (List MessageListElement) :=
  get server.crates messageListWire session
    (messageListHandler server.env session server.maxListedMessages (server.env.digest did) folder)

def getMessages (messages : GetMessagesRequest) : Call GetMessagesResponse :=
  post server.crates server.rejection (Wire.object getMessagesRequestFields)
    (Wire.object getMessagesResponseFields) session
    (fun body => messageOutboundHandler server.env session body.messageIds body.delete) messages

def deleteMessages (messageIds : List String) : Call DeleteMessageResponse :=
  if maxDeletedMessages < messageIds.length then
    throw (.returned (.msgSendError
      ("Operation exceeds the allowed limit. You may delete a maximum of 100 messages per request. Received " ++
        messageIds.length.repr ++ " ids.")))
  else
    post server.crates server.rejection (Wire.object deleteMessageRequestFields)
      (Wire.object deleteMessageResponseFields)
      session (messageDeleteHandler server.env session server.maxDeletedMessages) messageIds

/-- What becomes of an error that is returned; a panic goes on. -/
def tryCall {α : Type} (x : Call α) : Call (Except ATMError α) := fun db =>
  match x db with
  | .ok a db' => .ok (.ok a) db'
  | .error (.returned e) db' => .ok (.error e) db'
  | .error .panic db' => .error .panic db'

/-- What was fetched is deleted. -/
def deleteFetched (list : GetMessagesResponse) : Call GetMessagesResponse := do
  match ← tryCall (deleteMessages server session (list.success.map (·.msgId))) with
  | .ok r => return { list with deleteErrors := list.deleteErrors ++ r.errors }
  | .error _ => return { list with deleteErrors := list.success.map fun m => (m.msgId, "ERROR") }

def fetchMessages (options : FetchOptions) : Call GetMessagesResponse :=
  if options.limit < 1 ∨ 100 < options.limit then
    throw (.returned (.configError
      ("FetchOptions.limit must be between 1 and 100 inclusive. Got: " ++ options.limit.repr)))
  else do
    let list ← post server.crates server.rejection (Wire.object fetchOptionsFields)
      (Wire.object getMessagesResponseFields) session (inboxFetchHandler server.env server.digits session) options
    match options.deletePolicy with
    | .onReceive => deleteFetched server session list
    | _ => return list

end

/-! ## What the handlers answer fits -/

theorem parseU64_lt (s : String) : parseU64 s < 2 ^ 64 := by
  unfold parseU64
  dsimp only
  split
  · split
    · assumption
    · exact Nat.two_pow_pos 64
  · exact Nat.two_pow_pos 64

/-- The numbers of an element are of 64 bits. -/
def Sized (m : MessageListElement) : Prop := m.size < 2 ^ 64 ∧ m.timestamp < 2 ^ 64

theorem sized_foldl {α : Type} {f : MessageListElement → α → MessageListElement} (hf : ∀ m a, Sized m → Sized (f m a))
    (l : List α) {m : MessageListElement} (h : Sized m) : Sized (l.foldl f m) := by
  induction l generalizing m with
  | nil => exact h
  | cons a rest ih => exact ih (hf m a h)

theorem sized_default : Sized {} := ⟨Nat.two_pow_pos 64, Nat.two_pow_pos 64⟩

theorem sized_fetched (subItem : List String) : Sized (DatabaseHandler.fetched subItem) := by
  refine sized_foldl (fun m p h => ?_) _ sized_default
  unfold DatabaseHandler.fetchedField
  split <;> first | exact h | exact ⟨parseU64_lt _, h.2⟩ | exact ⟨h.1, parseU64_lt _⟩

theorem sized_listElement (msgId body : String) (metadata : Fields) :
    Sized (DatabaseHandler.listElement msgId body metadata) := by
  refine sized_foldl (fun m p h => ?_) _ ⟨Nat.two_pow_pos 64, Nat.two_pow_pos 64⟩
  unfold DatabaseHandler.getField
  split <;> first | exact h | exact ⟨parseU64_lt _, h.2⟩ | exact ⟨h.1, parseU64_lt _⟩

theorem sized_listEntry (folder : Folder) (entry : StreamEntry) : Sized (DatabaseHandler.listEntry folder entry) := by
  have hField : ∀ m p, Sized m → Sized (DatabaseHandler.listedField m p) := by
    intro m p h
    unfold DatabaseHandler.listedField
    split <;> first | exact h | exact ⟨parseU64_lt _, h.2⟩
  have hTime := parseU64_lt ((splitAll '-' entry.id.text).headD "")
  unfold DatabaseHandler.listEntry
  generalize parseU64 ((splitAll '-' entry.id.text).headD "") = timestamp at hTime
  dsimp only
  refine sized_foldl hField entry.fields ?_
  cases folder with
  | inbox => exact ⟨Nat.two_pow_pos 64, hTime⟩
  | outbox => exact ⟨Nat.two_pow_pos 64, hTime⟩

section
variable {env : Environment} {session : Common.Session} {db db' : Db}

theorem sized_outbound {ids : List String} {delete : Bool} {response : GetMessagesResponse}
    (h : messageOutboundHandler env session ids delete db = .ok response db') : ∀ m ∈ response.success, Sized m := by
  refine foldlM_keeps (P := fun r : GetMessagesResponse => ∀ m ∈ r.success, Sized m) ?_ ids (by simp) h
  intro messages msgId s messages' s' hAll hOne
  obtain ⟨found, s₁, hGet, hRest⟩ := (bind_ok_iff _ _ _ _ _).mp hOne
  cases found with
  | error e =>
    cases hRest
    exact hAll
  | ok msg =>
    have hMsg : Sized msg := by
      unfold attempt at hGet
      split at hGet
      · rename_i hRun
        cases hGet
        obtain ⟨body, fields, -, -, rfl⟩ := DatabaseHandler.getMessage_eq hRun
        exact sized_listElement _ _ _
      · cases hGet
    have hNew : ∀ m ∈ messages.success ++ [msg], Sized m := by
      intro m hm
      rcases List.mem_append.mp hm with hm | hm
      · exact hAll m hm
      · exact List.mem_singleton.mp hm ▸ hMsg
    cases delete with
    | false =>
      cases hRest
      exact hNew
    | true =>
      obtain ⟨outcome, s₂, -, hNote⟩ := (bind_ok_iff _ _ _ _ _).mp hRest
      cases hNote
      unfold DatabaseHandler.noteDelete
      cases outcome <;> exact hNew

theorem sized_fetch {digits : DigitClass} {options : FetchOptions} {response : GetMessagesResponse}
    (h : inboxFetchHandler env digits session options db = .ok response db') : ∀ m ∈ response.success, Sized m := by
  unfold inboxFetchHandler at h
  split at h
  · cases h
  split at h
  · cases h
  obtain ⟨results, db₁, -, hAll⟩ := (bind_ok_iff _ _ _ _ _).mp h
  obtain ⟨response', db₂, hRun, hSuccess⟩ :=
    DatabaseHandler.fetchAll_ok env session.sessionId session.didHash options.deletePolicy results {} db₁
  cases hRun.symm.trans hAll
  rw [hSuccess]
  intro m hm
  obtain ⟨subItem, -, rfl⟩ := List.mem_map.mp hm
  exact sized_fetched subItem

theorem sized_list {maxListedMessages : Nat} {didHash : String} {folder : Folder} {list : List MessageListElement}
    (h : messageListHandler env session maxListedMessages didHash folder db = .ok list db') : ∀ m ∈ list, Sized m := by
  unfold messageListHandler at h
  split at h
  · cases h
  intro m hm
  obtain ⟨e, -, rfl⟩ := DatabaseHandler.listMessages_ok h m hm
  exact sized_listEntry folder e

end

/-- The calls of the SDK return what the handlers answer, but for what the SDK itself refuses to ask. -/
structure Relayed (server : Server) (session : Common.Session) (db : Db) : Prop where
  list : ∀ did folder, listMessages server session did folder db = relay server.crates
    (messageListHandler server.env session server.maxListedMessages (server.env.digest did) folder) db
  get : ∀ request : GetMessagesRequest, getMessages server session request db = relay server.crates
    (messageOutboundHandler server.env session request.messageIds request.delete) db
  delete : ∀ ids, ids.length ≤ 100 → deleteMessages server session ids db = relay server.crates
    (messageDeleteHandler server.env session server.maxDeletedMessages ids) db
  fetch : ∀ options : FetchOptions, 1 ≤ options.limit → options.limit ≤ 100 → options.deletePolicy ≠ .onReceive →
    fetchMessages server session options db = relay server.crates
      (inboxFetchHandler server.env server.digits session options) db

section
variable {server : Server} {hasPrivate : {curve : Curve} → server.crates.KeyPair curve → Prop}
  {reread : Int → Int → Int × Int} {limit : ℕ∞} (laws : Lawful server.crates hasPrivate reread limit)
  {session : Common.Session}
include laws

theorem deleteMessages_eq {ids : List String} (h : ids.length ≤ 100) (db : Db) :
    deleteMessages server session ids db =
      relay server.crates (messageDeleteHandler server.env session server.maxDeletedMessages ids) db := by
  have hFew : ¬ maxDeletedMessages < ids.length := Nat.not_lt.mpr h
  rw [deleteMessages, if_neg hFew]
  exact post_eq laws _ _ (by decide) _ (by decide) session _ trivial fun _ _ _ => ⟨trivial, nofun⟩

theorem fetchRequest_eq {options : FetchOptions} (hLimit : options.limit ≤ 100) (db : Db) :
    post server.crates server.rejection (Wire.object fetchOptionsFields) (Wire.object getMessagesResponseFields) session
        (inboxFetchHandler server.env server.digits session) options db =
      relay server.crates (inboxFetchHandler server.env server.digits session options) db := by
  have hFits : options.limit < 2 ^ 64 := lt_of_le_of_lt hLimit (by decide)
  exact post_eq laws _ _ (by decide) _ (by decide) session _ hFits fun _ _ hRun => ⟨sized_fetch hRun, nofun⟩

theorem calls_relayed (session : Common.Session) (db : Db) : Relayed server session db where
  list did folder := get_eq laws _ (by decide) session fun _ _ hRun => ⟨sized_list hRun, nofun⟩
  get request := post_eq laws _ _ (by decide) _ (by decide) session _ trivial
    fun _ _ hRun => ⟨sized_outbound hRun, nofun⟩
  delete ids h := deleteMessages_eq laws h db
  fetch options hLow hHigh hPolicy := by
    have hLimit : ¬ (options.limit < 1 ∨ 100 < options.limit) := by omega
    have hRequest := @fetchRequest_eq server hasPrivate reread limit laws session options hHigh db
    rw [fetchMessages, if_neg hLimit, ← hRequest]
    cases hCase : options.deletePolicy with
    | onReceive => exact absurd hCase hPolicy
    | optimistic => rw [bind_pure]
    | doNotDelete => rw [bind_pure]

end

/-- A mediator of the usual limits. -/
def sampleServer : Server := ⟨ideal id, sampleEnvironment, asciiDigits, 100, 100, fun _ => ⟨.badRequest, ""⟩⟩

theorem calls_relayed_alice : Relayed sampleServer aliceSession helloStored :=
  calls_relayed (ideal_lawful id) aliceSession helloStored

/-! ## Deletion on receipt -/

/-- The policy of the SDK is not one of the mediator. -/
theorem fetchMessages_onReceive (env : Environment) (sessionId didHash : String) (limit : Nat) (start : Option String) :
    DatabaseHandler.fetchMessages env sessionId didHash ⟨limit, start, .onReceive⟩ =
      DatabaseHandler.fetchMessages env sessionId didHash ⟨limit, start, .doNotDelete⟩ := by
  have hAll : ∀ results messages, DatabaseHandler.fetchAll env sessionId didHash .onReceive results messages =
      DatabaseHandler.fetchAll env sessionId didHash .doNotDelete results messages := by
    intro results
    induction results with
    | nil => exact fun _ => rfl
    | cons subItem rest ih =>
      intro messages
      rw [DatabaseHandler.fetchAll, DatabaseHandler.fetchAll]
      exact congrArg (DatabaseHandler.fetchOne env sessionId didHash .doNotDelete subItem messages >>= ·) (funext ih)
  rw [DatabaseHandler.fetchMessages, DatabaseHandler.fetchMessages]
  exact congrArg _ (funext fun results => hAll results {})

/-- What a fetch finds. -/
def page (db : Db) (didHash : String) (limit : Nat) (start : Option String) : List MessageListElement :=
  ((readFrom (entriesAt db (.receiveQ didHash)) start).take limit).map (listed db)

theorem length_page_le (db : Db) (didHash : String) (limit : Nat) (start : Option String) :
    (page db didHash limit start).length ≤ limit := by
  rw [page, List.length_map, List.length_take]
  exact min_le_left _ _

theorem inboxFetchHandler_onReceive {env : Environment} {digits : DigitClass} {session : Common.Session} {db : Db}
    (hdb : Sound db) (hSize : session.didHash.utf8ByteSize = 64) {limit : Nat} (hLimit : 1 ≤ limit ∧ limit ≤ 100)
    {start : Option String} (hStart : IsPlace start)
    (hAccepts : start.any (fun startId => !digits.isMatch startId) = false) :
    inboxFetchHandler env digits session ⟨limit, start, .onReceive⟩ db =
      .ok { success := page db session.didHash limit start } db := by
  have hBounds : ¬ (limit < 1 ∨ 100 < limit) := by omega
  have hHash : session.didHash.utf8ByteSize ≤ protoMaxBulkLen := by
    rw [hSize]
    decide
  rw [inboxFetchHandler, if_neg hBounds, if_neg (by rw [hAccepts]; decide), fetchMessages_onReceive]
  exact DatabaseHandler.fetchMessages_listed env hdb hHash session.sessionId hLimit hStart

section
variable {server : Server} {hasPrivate : {curve : Curve} → server.crates.KeyPair curve → Prop}
  {reread : Int → Int → Int × Int} {nesting : ℕ∞} (laws : Lawful server.crates hasPrivate reread nesting)
  {session : Common.Session} {db : Db}
include laws

theorem fetchMessages_of_handler {limit : Nat} (hLimit : 1 ≤ limit ∧ limit ≤ 100) {start : Option String}
    {list : GetMessagesResponse}
    (h : inboxFetchHandler server.env server.digits session ⟨limit, start, .onReceive⟩ db = .ok list db) :
    fetchMessages server session ⟨limit, start, .onReceive⟩ db = deleteFetched server session list db := by
  have hBounds : ¬ (limit < 1 ∨ 100 < limit) := by omega
  have hRequest := @fetchRequest_eq server hasPrivate reread nesting laws session ⟨limit, start, .onReceive⟩ hLimit.2 db
  rw [relay, h] at hRequest
  rw [fetchMessages, if_neg hBounds]
  exact bind_of_ok hRequest

/-- A fetch that deletes on receipt returns the page, deletes what of it belongs to the DID and names the rest; if the
mediator takes fewer ids at once than the page has, nothing is deleted and all are named. -/
theorem fetch_onReceive_exact (h : (databaseCalls server.env).Reachable db) (hSize : session.didHash.utf8ByteSize = 64)
    {limit : Nat} (hLimit : 1 ≤ limit ∧ limit ≤ 100) {start : Option String} (hStart : IsPlace start)
    (hAccepts : start.any (fun startId => !server.digits.isMatch startId) = false) :
    ∃ response db', fetchMessages server session ⟨limit, start, .onReceive⟩ db = .ok response db' ∧
      response.success = page db session.didHash limit start ∧ response.getErrors = [] ∧
      (response.success.length ≤ server.maxDeletedMessages → ∃ taken,
        Taken (Owns db session.didHash) (response.success.map (·.msgId)) taken (response.deleteErrors.map Prod.fst) ∧
        DeletedExactly taken db db') ∧
      (server.maxDeletedMessages < response.success.length →
        response.deleteErrors = response.success.map (fun m => (m.msgId, "ERROR")) ∧ db' = db) := by
  have hdb := wellKept_of_reachable h
  have hHandler := @inboxFetchHandler_onReceive server.env server.digits session db hdb.sound hSize limit
    hLimit start hStart hAccepts
  rw [fetchMessages_of_handler laws hLimit hHandler]
  generalize hPage : page db session.didHash limit start = messages
  have hLength : (messages.map (·.msgId)).length ≤ 100 := by
    rw [← hPage, List.length_map]
    exact (length_page_le db session.didHash limit start).trans hLimit.2
  have hDelete : deleteMessages server session (messages.map (·.msgId)) db = relay server.crates
      (messageDeleteHandler server.env session server.maxDeletedMessages (messages.map (·.msgId))) db :=
    deleteMessages_eq laws hLength db
  by_cases hFew : messages.length ≤ server.maxDeletedMessages
  · obtain ⟨taken, refused, db', hRun, hTaken, hExactly, -⟩ :=
      deletedMessages_run hSize hdb (messages.map (·.msgId)) {}
    have hHandled : messageDeleteHandler server.env session server.maxDeletedMessages (messages.map (·.msgId)) db =
        .ok ⟨taken, refused⟩ db' := by
      rw [messageDeleteHandler, if_neg (by rw [List.length_map]; exact Nat.not_lt.mpr hFew), hRun]
      rfl
    rw [relay, hHandled] at hDelete
    refine ⟨⟨messages, [], refused⟩, db', ?_, rfl, rfl, fun _ => ⟨taken, hTaken, hExactly⟩,
      fun hMany => absurd hFew (Nat.not_le.mpr hMany)⟩
    have hTried : tryCall (deleteMessages server session (messages.map (·.msgId))) db =
        .ok (.ok ⟨taken, refused⟩) db' := by
      rw [tryCall, hDelete]
    exact bind_of_ok hTried
  · have hHandled : ∃ e, messageDeleteHandler server.env session server.maxDeletedMessages (messages.map (·.msgId)) db =
        .error e db := by
      rw [messageDeleteHandler, if_pos (by rw [List.length_map]; exact Nat.not_le.mp hFew)]
      exact ⟨_, rfl⟩
    obtain ⟨e, hHandled⟩ := hHandled
    rw [relay, hHandled] at hDelete
    refine ⟨⟨messages, [], messages.map fun m => (m.msgId, "ERROR")⟩, db, ?_, rfl, rfl, fun h => absurd h hFew,
      fun _ => ⟨rfl, rfl⟩⟩
    have hTried : tryCall (deleteMessages server session (messages.map (·.msgId))) db =
        .ok (.error (relayedError server.crates e)) db := by
      rw [tryCall, hDelete]
    exact bind_of_ok hTried

end

/-- Alice fetches ten messages and has those deleted. -/
theorem fetch_onReceive_exact_alice : ∃ response db' taken,
    fetchMessages sampleServer aliceSession ⟨10, none, .onReceive⟩ helloStored = .ok response db' ∧
      response.success = page helloStored aliceHash 10 none ∧
      Taken (Owns helloStored aliceHash) (response.success.map (·.msgId)) taken (response.deleteErrors.map Prod.fst) ∧
      DeletedExactly taken helloStored db' := by
  obtain ⟨response, db', hRun, hPage, -, hFew, -⟩ :=
    @fetch_onReceive_exact sampleServer (fun _ => True) _ _ (ideal_lawful id)
    aliceSession helloStored reachable_hello rfl 10 (by decide) none nofun rfl
  have hLength : response.success.length ≤ sampleServer.maxDeletedMessages := by
    rw [hPage]
    exact (length_page_le _ _ _ _).trans (by decide)
  obtain ⟨taken, hTaken, hExactly⟩ := hFew hLength
  exact ⟨response, db', taken, hRun, hPage, hTaken, hExactly⟩

end Rest

end AffinidiMessaging.Sdk
