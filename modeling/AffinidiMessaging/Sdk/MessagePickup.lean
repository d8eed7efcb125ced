import AffinidiMessaging.Didcomm.Unpack
import AffinidiMessaging.Didcomm.IdealCrates
import AffinidiMessaging.Mediator.Acknowledgement

/-! # Message pickup by the client

What `_handle_delivery` makes of the attachments of a delivery, and what the mediator deletes when
the ids it returns are acknowledged.
-/

namespace AffinidiMessaging.Sdk

open Redis Text Fallible Serde Transition Didcomm Mediator

section
variable (crates : Crates) (dids : DidResolver) (secrets : SecretsResolver)

/-- `ATM::unpack`, which wraps an error into one of its own. -/
def unpack (message : String) : Result (Message × UnpackMetadata) :=
  match Message.unpackString crates dids secrets {} message { envelope := {}, ops := [] } with
  | .ok unpacked _ => .ok unpacked
  | .error fault _ => .error fault

/-- The text of an attachment; one that has none or cannot be decoded is skipped. -/
def attachedText (attachment : Attachment) : Option String :=
  match attachment.data with
  | .base64 value =>
    match crates.base64Decode value.base64 with
    | .ok decoded => String.fromUTF8? decoded
    | .error _ => none
  | _ => none

/-- One attachment: an error is logged, a panic is not caught. -/
def handleAttachment (attachment : Attachment) : Except Panic (Option (Message × UnpackMetadata)) :=
  match attachedText crates attachment with
  | none => .ok none
  | some decoded =>
    match unpack crates dids secrets decoded with
    | .ok (m, u) => .ok (some ({ m with id := attachment.id.getD m.id }, u))
    | .error (.error _) => .ok none
    | .error (.panic site) => .error site

def handleAttachments : List Attachment → Except Panic (List (Message × UnpackMetadata))
  | [] => .ok []
  | attachment :: rest => do
    let unpacked ← handleAttachment crates dids secrets attachment
    let response ← handleAttachments rest
    return unpacked.toList ++ response

def handleDelivery (message : Message) : Except Panic (List (Message × UnpackMetadata)) :=
  handleAttachments crates dids secrets (message.attachments.getD [])

/-- A request of the client, valid for five minutes. -/
def requestMessage (clock : Clock) (myDid toDid type_ : String) (body : Json) : Message :=
  { Message.build clock.newId type_ body with
    extraHeaders := [("return_route", .str "all")]
    to_ := some [toDid]
    from_ := some myDid
    createdTime := some clock.now
    expiresTime := some (clock.now + 300) }

def deliveryRequestMessage (clock : Clock) (myDid toDid : String) (limit : UInt64) : Message :=
  requestMessage clock myDid toDid "https://didcomm.org/messagepickup/3.0/delivery-request"
    (.obj [("limit", u64Json limit), ("recipient_did", .str myDid)])

def messagesReceivedMessage (clock : Clock) (myDid toDid : String) (ids : List String) : Message :=
  requestMessage clock myDid toDid "https://didcomm.org/messagepickup/3.0/messages-received"
    (.obj [("message_id_list", .arr (ids.map .str))])

/-- A queued message as the client returns it, if it unpacks: its id is the digest of its text. -/
def delivered (env : Environment) (db : Db) (entry : StreamEntry) : Option (Message × UnpackMetadata) :=
  (queuedMessage db entry).bind fun queued =>
    match unpack crates dids secrets queued.2 with
    | .ok (m, u) => some ({ m with id := env.digest queued.2 }, u)
    | .error _ => none

/-- Unpacking a queued message panics. -/
def Panics (db : Db) (entry : StreamEntry) : Prop :=
  ∃ h body site, queuedMessage db entry = some (h, body) ∧
    unpack crates dids secrets body = .error (.panic site)

end

/-- Base64 decoding undoes encoding. -/
def Base64Inverts (crates : Crates) : Prop :=
  ∀ bytes, crates.base64Decode (crates.base64Encode bytes) = .ok bytes

section
variable {shared : SharedData} (dids : DidResolver) (secrets : SecretsResolver) {db : Db}

theorem attachedText_attachmentFor (hBase64 : Base64Inverts shared.crates) (queued : String × String) :
    attachedText shared.crates (MessagePickup.attachmentFor shared queued) = some queued.2 := by
  have hDecode := hBase64 queued.2.toUTF8
  simp only [attachedText, MessagePickup.attachmentFor]
  rw [hDecode]
  exact fromUTF8_toUTF8 queued.2

theorem not_panics_of_none {entry : StreamEntry} (hQueued : queuedMessage db entry = none) :
    ¬ Panics shared.crates dids secrets db entry := by
  rintro ⟨h, body, site, hSome, -⟩
  rw [hQueued] at hSome
  cases hSome

theorem panics_iff {entry : StreamEntry} {h body : String}
    (hQueued : queuedMessage db entry = some (h, body)) :
    Panics shared.crates dids secrets db entry ↔
      ∃ site, unpack shared.crates dids secrets body = .error (.panic site) := by
  constructor
  · rintro ⟨h', body', site, hSome, hUnpack⟩
    rw [hQueued] at hSome
    cases hSome
    exact ⟨site, hUnpack⟩
  · rintro ⟨site, hUnpack⟩
    exact ⟨h, body, site, hQueued, hUnpack⟩

/-- The attachment of a queued message gives what the client returns of it, or the panic. -/
theorem handleAttachment_ok_iff (hBase64 : Base64Inverts shared.crates) {entry : StreamEntry}
    {h body : String} (hQueued : queuedMessage db entry = some (h, body))
    (hDigest : shared.env.digest body = h) (one : Option (Message × UnpackMetadata)) :
    handleAttachment shared.crates dids secrets (MessagePickup.attachmentFor shared (h, body)) = .ok one ↔
      ¬ Panics shared.crates dids secrets db entry ∧
        one = delivered shared.crates dids secrets shared.env db entry := by
  subst hDigest
  rw [handleAttachment, attachedText_attachmentFor hBase64, panics_iff dids secrets hQueued, delivered, hQueued]
  dsimp only [Option.bind_some]
  cases unpack shared.crates dids secrets body with
  | ok unpacked => simp [MessagePickup.attachmentFor, eq_comm]
  | error fault => cases fault <;> simp [eq_comm]

/-- A delivery is handled unless one of its messages makes `unpack` panic. -/
theorem handleAttachments_ok_iff (hBase64 : Base64Inverts shared.crates)
    (hDigest : ∀ h body, db (.msg h) = some (.string body) → shared.env.digest body = h)
    (entries : List StreamEntry) (messages : List (Message × UnpackMetadata)) :
    handleAttachments shared.crates dids secrets
        (entries.filterMap fun e => (queuedMessage db e).map (MessagePickup.attachmentFor shared)) =
          .ok messages ↔
      (∀ e ∈ entries, ¬ Panics shared.crates dids secrets db e) ∧
        messages = entries.filterMap (delivered shared.crates dids secrets shared.env db) := by
  induction entries generalizing messages with
  | nil => simp [handleAttachments, eq_comm]
  | cons entry rest ih =>
    rw [List.forall_mem_cons]
    cases hQueued : queuedMessage db entry with
    | none =>
      have hNone : delivered shared.crates dids secrets shared.env db entry = none := by
        simp [delivered, hQueued]
      rw [List.filterMap_cons_none (by simp [hQueued]), List.filterMap_cons_none hNone, ih]
      simp [not_panics_of_none dids secrets hQueued]
    | some queued =>
      obtain ⟨h, body⟩ := queued
      have hOne := handleAttachment_ok_iff dids secrets hBase64 hQueued
        (hDigest h body (queuedMessage_eq_some_iff.mp hQueued).2)
      rw [List.filterMap_cons_some (by rw [hQueued]; rfl), handleAttachments]
      simp only [except_bind_ok_iff, hOne, ih, except_pure_eq, Except.ok.injEq]
      constructor
      · rintro ⟨one, ⟨hQuiet, rfl⟩, response, ⟨hRest, rfl⟩, rfl⟩
        refine ⟨⟨hQuiet, hRest⟩, ?_⟩
        cases hDelivered : delivered shared.crates dids secrets shared.env db entry with
        | none => rw [List.filterMap_cons_none hDelivered]; rfl
        | some m => rw [List.filterMap_cons_some hDelivered]; rfl
      · rintro ⟨⟨hQuiet, hRest⟩, rfl⟩
        refine ⟨_, ⟨hQuiet, rfl⟩, _, ⟨hRest, rfl⟩, ?_⟩
        cases hDelivered : delivered shared.crates dids secrets shared.env db entry with
        | none => rw [List.filterMap_cons_none hDelivered]; rfl
        | some m => rw [List.filterMap_cons_some hDelivered]; rfl

end

/-- Every message of the queue that is there is completely stored, and has this one entry only. -/
def CompletelyStoredOnce (db : Db) (d : String) : Prop :=
  ∀ e ∈ entriesAt db (.receiveQ d), ∀ h body, queuedMessage db e = some (h, body) →
    db (.msgMeta h) ≠ none ∧ ∀ d', ∀ e' ∈ entriesAt db (.receiveQ d'),
      e'.fields.lookup "MSG_ID" = some h → d' = d ∧ e' = e

section
variable {env : Environment} {db : Db} {d : String}

theorem CompletelyStoredOnce.receiver (hOnce : CompletelyStoredOnce db d) (hdb : WellKept env db) {entry : StreamEntry}
    (hEntry : entry ∈ entriesAt db (.receiveQ d)) {h body : String}
    (hQueued : queuedMessage db entry = some (h, body)) :
    field db (.msgMeta h) "TO" = some d ∧ OwnEntry db .receive d h entry := by
  obtain ⟨hMeta, hOnly⟩ := hOnce entry hEntry h body hQueued
  have hTo : field db (.msgMeta h) "TO" = some d := by
    cases hv : db (.msgMeta h) with
    | none => exact absurd hv hMeta
    | some v =>
      have hHolds := hdb.sound.shaped _ v hv
      cases v with
      | hash fields =>
        obtain ⟨-, n, id, d', -, hTo, e', he', -, hMsgId⟩ := hdb.sound.kept h fields hv
        obtain ⟨rfl, -⟩ := hOnly d' e' he' hMsgId
        simp [field, hv, hTo]
      | _ => exact absurd hHolds (by simp [Key.Holds])
  obtain ⟨e, he, hOwn⟩ := hdb.booked.entry .receive d h hTo
  obtain ⟨-, rfl⟩ := hOnly d e he hOwn.1
  exact ⟨hTo, hOwn⟩

variable (crates : Crates) (dids : DidResolver) (secrets : SecretsResolver)

theorem delivered_eq_some {entry : StreamEntry} (hdb : Booked env db) {m : Message × UnpackMetadata}
    (h : delivered crates dids secrets env db entry = some m) :
    ∃ body, queuedMessage db entry = some (m.1.id, body) ∧ env.digest body = m.1.id ∧
      ∃ m', unpack crates dids secrets body = .ok (m', m.2) ∧ m.1 = { m' with id := m.1.id } := by
  obtain ⟨⟨h', body⟩, hQueued, hUnpack⟩ := Option.bind_eq_some_iff.mp h
  have hDigest := hdb.digest h' body (queuedMessage_eq_some_iff.mp hQueued).2
  dsimp only at hUnpack
  split at hUnpack
  · rename_i m' u hOk
    cases hUnpack
    subst hDigest
    exact ⟨body, hQueued, rfl, m', hOk, rfl⟩
  · cases hUnpack

/-- The ids of what a delivery of some entries gives. -/
def deliveredIds (env : Environment) (db : Db) (entries : List StreamEntry) : List String :=
  (entries.filterMap (delivered crates dids secrets env db)).map fun m => m.1.id

theorem mem_deliveredIds (hdb : Booked env db) {entries : List StreamEntry} {h : String}
    (hMem : h ∈ deliveredIds crates dids secrets env db entries) :
    ∃ e ∈ entries, ∃ body, queuedMessage db e = some (h, body) := by
  obtain ⟨m, hm, rfl⟩ := List.mem_map.mp hMem
  obtain ⟨e, he, hDelivered⟩ := List.mem_filterMap.mp hm
  obtain ⟨body, hQueued, -⟩ := delivered_eq_some crates dids secrets hdb hDelivered
  exact ⟨e, he, body, hQueued⟩

theorem nodup_deliveredIds (hOnce : CompletelyStoredOnce db d) (hdb : WellKept env db) {entries : List StreamEntry}
    (hSub : entries.Sublist (entriesAt db (.receiveQ d))) :
    (deliveredIds crates dids secrets env db entries).Nodup := by
  have hSorted := (hdb.sound.shaped.entries .receive d).sorted.sublist hSub
  rw [deliveredIds, List.Nodup, List.pairwise_map, List.pairwise_filterMap]
  apply hSorted.imp_of_mem
  intro e e' he he' hLess m hm m' hm' hSame
  obtain ⟨body, hQueued, -⟩ := delivered_eq_some crates dids secrets hdb.booked hm
  obtain ⟨body', hQueued', -⟩ := delivered_eq_some crates dids secrets hdb.booked hm'
  have hMsgId := (queuedMessage_eq_some_iff.mp hQueued').1
  rw [← hSame] at hMsgId
  obtain ⟨-, hEq⟩ := (hOnce e (hSub.subset he) _ body hQueued).2 d e' (hSub.subset he') hMsgId
  exact StreamId.ne_of_lt hLess (congrArg StreamEntry.id hEq.symm)

end

section
variable {shared : SharedData} {session : Common.Session} {clock : Clock}

theorem validateMsg_requestMessage {sent : Clock} (hInTime : clock.now.toNat < sent.now.toNat + 300)
    (myDid type_ : String) (body : Json) :
    MessagePickup.validateMsg shared clock session
      (requestMessage sent myDid shared.mediatorDid type_ body) = .ok () := by
  have hLater : ¬ sent.now + 300 ≤ clock.now := by
    have hFar := sent.far
    rw [UInt64.le_iff_toNat_le, UInt64.toNat_add]
    have hSmall : (300 : UInt64).toNat = 300 := rfl
    omega
  have hExpiry : MessagePickup.validateExpiry clock session
      (requestMessage sent myDid shared.mediatorDid type_ body) = .ok () := by
    simp [MessagePickup.validateExpiry, requestMessage, hLater]
  have hAddress : MessagePickup.firstAddress session
      (requestMessage sent myDid shared.mediatorDid type_ body) = .ok shared.mediatorDid := rfl
  have hRoute : MessagePickup.validateReturnRoute shared session
      (requestMessage sent myDid shared.mediatorDid type_ body) = .ok () := rfl
  unfold MessagePickup.validateMsg
  rw [hExpiry, hAddress, hRoute]
  simp [bind, Except.bind, requestMessage, ensure, pure, Except.pure]

theorem parse_deliveryRequestMessage {limit : UInt64} (hLimit : 1 ≤ limit.toNat ∧ limit.toNat ≤ 100)
    (toDid : String) :
    MessagePickup.parseAndValidateDeliveryRequestBody shared session
      (deliveryRequestMessage clock session.did toDid limit) = .ok (session.did, limit.toNat) := by
  have hRead : MessagePickup.readDeliveryRequest
      (deliveryRequestMessage clock session.did toDid limit).body = some (session.did, limit.toNat) := rfl
  have hPos : ¬ limit.toNat = 0 := by omega
  unfold MessagePickup.parseAndValidateDeliveryRequestBody
  rw [hRead]
  simp [okOr, bind, Except.bind, ensure, hPos, hLimit.2, pure, Except.pure]

theorem parse_messagesReceivedMessage (myDid toDid : String) (ids : List String) :
    MessagePickup.parseMessageReceivedBody shared session
      (messagesReceivedMessage clock myDid toDid ids) = .ok ids := by
  have hList : list Json.asStr (.arr (ids.map .str)) = some ids := by
    simp only [list]
    induction ids with
    | nil => rfl
    | cons id rest ih => simp [Json.asStr, ih]
  have hRead : MessagePickup.readMessagesReceived
      (messagesReceivedMessage clock myDid toDid ids).body = some ids := hList
  unfold MessagePickup.parseMessageReceivedBody
  rw [hRead]
  rfl

end

section
variable {shared : SharedData} (dids : DidResolver) (secrets : SecretsResolver)
  {session : Common.Session} {clock : Clock} {db : Db}

theorem handleDelivery_ok_iff (hBase64 : Base64Inverts shared.crates) (hdb : WellKept shared.env db)
    (d recipientDid thid : String) (limit : Nat) (messages : List (Message × UnpackMetadata)) :
    handleDelivery shared.crates dids secrets (MessagePickup.deliveryMessage shared clock session
        recipientDid thid (MessagePickup.firstListed db d limit)) = .ok messages ↔
      (∀ e ∈ (entriesAt db (.receiveQ d)).take limit, ¬ Panics shared.crates dids secrets db e) ∧
        messages = ((entriesAt db (.receiveQ d)).take limit).filterMap
          (delivered shared.crates dids secrets shared.env db) := by
  have hAttached : (MessagePickup.firstListed db d limit).filterMap (MessagePickup.attachmentOf shared) =
      ((entriesAt db (.receiveQ d)).take limit).filterMap fun e =>
        (queuedMessage db e).map (MessagePickup.attachmentFor shared) := by
    rw [MessagePickup.firstListed, List.filterMap_map]
    apply List.filterMap_congr
    intro e he
    exact MessagePickup.attachmentOf_listed hdb.sound (List.mem_of_mem_take he)
  rw [← handleAttachments_ok_iff dids secrets hBase64 hdb.booked.digest, ← hAttached]
  rfl

theorem messagesReceived_delivered {d : String} (hHash : session.didHash = d) (hOnce : CompletelyStoredOnce db d)
    (hdb : WellKept shared.env db) {entries : List StreamEntry}
    (hSub : entries.Sublist (entriesAt db (.receiveQ d))) {receipt : Message} {ids : List String}
    (hIds : ids = deliveredIds shared.crates dids secrets shared.env db entries)
    (hValid : MessagePickup.validateMsg shared clock session receipt = .ok ())
    (hBody : MessagePickup.parseMessageReceivedBody shared session receipt = .ok ids) :
    ∃ db', MessagePickup.messagesReceived shared clock session receipt db = .ok () db' ∧
      WellKept shared.env db' ∧ DeletedExactly ids db db' ∧
      entriesAt db' (.receiveQ d) =
        (entriesAt db (.receiveQ d)).filter fun e => ∀ h ∈ ids, e.fields.lookup "MSG_ID" ≠ some h := by
  have hQueued : ∀ h ∈ ids, ∃ e ∈ entriesAt db (.receiveQ d), ∃ body, queuedMessage db e = some (h, body) := by
    intro h hMem
    rw [hIds] at hMem
    obtain ⟨e, he, hQueued⟩ := mem_deliveredIds shared.crates dids secrets hdb.booked hMem
    exact ⟨e, hSub.subset he, hQueued⟩
  have hOwned : ∀ h ∈ ids, (∃ body, db (.msg h) = some (.string body)) ∧
      field db (.msgMeta h) "TO" = some session.didHash := by
    intro h hMem
    obtain ⟨e, he, body, hBody⟩ := hQueued h hMem
    rw [hHash]
    exact ⟨⟨body, (queuedMessage_eq_some_iff.mp hBody).2⟩, (hOnce.receiver hdb he hBody).1⟩
  have hNodup : ids.Nodup := hIds ▸ nodup_deliveredIds shared.crates dids secrets hOnce hdb hSub
  obtain ⟨db', hRun, hExactly, hdb'⟩ := MessagePickup.receiveAll_ok hdb hNodup hOwned
  have hDatabase : onDatabase (MessagePickup.receiveAll shared session ids) db = .ok () db' := by
    rw [onDatabase, hRun]
  refine ⟨db', ?_, hdb', hExactly, ?_⟩
  · rw [MessagePickup.messagesReceived, hValid, hBody]
    exact (bind_of_ok rfl).trans ((bind_of_ok rfl).trans hDatabase)
  · rw [show entriesAt db' (.receiveQ d) = _ from hExactly.entries .receive d]
    apply List.filter_congr
    intro e he
    rw [decide_eq_decide]
    refine forall₂_congr fun h hMem => not_congr ⟨fun hOwn => hOwn.1, fun hMsgId => ?_⟩
    -- the entry that names a deleted message is the one it was delivered from
    obtain ⟨e₀, he₀, body, hBody⟩ := hQueued h hMem
    obtain ⟨-, rfl⟩ := (hOnce e₀ he₀ h body hBody).2 d e he hMsgId
    exact (hOnce.receiver hdb he hBody).2

/-- A delivery is what the first entries of the queue give. -/
theorem deliveryRequest_delivery {limit : Nat} {request reply : Message} {db₁ : Db} (hdb : Sound db)
    (hBody : MessagePickup.parseAndValidateDeliveryRequestBody shared session request =
      .ok (session.did, limit))
    (hRun : MessagePickup.deliveryRequest shared clock session request db = .ok (.delivery reply) db₁) :
    db₁ = db ∧ reply = MessagePickup.deliveryMessage shared clock session session.did
      (MessagePickup.replyThread request)
      (MessagePickup.firstListed db (shared.env.digest session.did) limit) := by
  have hValid : MessagePickup.validateMsg shared clock session request = .ok () := by
    cases h : MessagePickup.validateMsg shared clock session request with
    | ok u => rfl
    | error e =>
      rw [MessagePickup.deliveryRequest, h] at hRun
      cases hRun
  rw [MessagePickup.deliveryRequest_ok hdb hValid hBody] at hRun
  injection hRun with hReply hSame
  refine ⟨hSame.symm, ?_⟩
  split at hReply
  · cases hReply
  · injection hReply with hReply
    exact hReply.symm

/-- For every delivery: the client returns the messages that unpack, in order and under their
digests, and acknowledging their ids deletes these messages and nothing else. -/
def PickedUpExactly (shared : SharedData) (dids : DidResolver) (secrets : SecretsResolver)
    (session : Common.Session) (limit : Nat) (db : Db) : Prop :=
  ∀ clock request reply db₁,
    MessagePickup.parseAndValidateDeliveryRequestBody shared session request = .ok (session.did, limit) →
    MessagePickup.deliveryRequest shared clock session request db = .ok (.delivery reply) db₁ →
    db₁ = db ∧ ∃ messages, handleDelivery shared.crates dids secrets reply = .ok messages ∧
      messages = ((entriesAt db (.receiveQ session.didHash)).take limit).filterMap
        (delivered shared.crates dids secrets shared.env db) ∧
      ∀ clock receipt, MessagePickup.validateMsg shared clock session receipt = .ok () →
        MessagePickup.parseMessageReceivedBody shared session receipt = .ok (messages.map fun m => m.1.id) →
        ∃ db', MessagePickup.messagesReceived shared clock session receipt db = .ok () db' ∧
          DeletedExactly (messages.map fun m => m.1.id) db db' ∧
          entriesAt db' (.receiveQ session.didHash) =
            (entriesAt db (.receiveQ session.didHash)).filter fun e =>
              ∀ h ∈ messages.map fun m => m.1.id, e.fields.lookup "MSG_ID" ≠ some h

theorem PickedUpExactly.not_panics (hBase64 : Base64Inverts shared.crates) {sessionId did : String}
    (hdb : WellKept shared.env db) {limit : Nat} (hLimit : 1 ≤ limit ∧ limit ≤ 100)
    (hPicked : PickedUpExactly shared dids secrets (.authenticated shared.env sessionId did) limit db) :
    ∀ e ∈ (entriesAt db (.receiveQ (shared.env.digest did))).take limit,
      ¬ Panics shared.crates dids secrets db e := by
  intro e he
  obtain ⟨n, rfl⟩ : ∃ n : UInt64, limit = n.toNat := by
    refine ⟨.ofNat limit, ?_⟩
    rw [UInt64.toNat_ofNat']
    omega
  let session := Common.Session.authenticated shared.env sessionId did
  let clock : Clock := ⟨0, "", by decide⟩
  let request := deliveryRequestMessage clock did shared.mediatorDid n
  have hValid : MessagePickup.validateMsg shared clock session request = .ok () :=
    validateMsg_requestMessage (by omega) _ _ _
  have hBody : MessagePickup.parseAndValidateDeliveryRequestBody shared session request =
      .ok (session.did, n.toNat) := parse_deliveryRequestMessage hLimit _
  have hRun := MessagePickup.deliveryRequest_ok hdb.sound hValid hBody
  have hListed : MessagePickup.firstListed db (shared.env.digest session.did) n.toNat ≠ [] := by
    intro hNone
    have hTake : (entriesAt db (.receiveQ (shared.env.digest did))).take n.toNat = [] :=
      List.map_eq_nil_iff.mp hNone
    rw [hTake] at he
    cases he
  rw [if_neg (by simpa using hListed)] at hRun
  obtain ⟨-, messages, hHandled, -⟩ := hPicked clock request _ db hBody hRun
  exact ((handleDelivery_ok_iff dids secrets hBase64 hdb _ _ _ _ _).mp hHandled).1 e he

/-- Pickup acknowledges exactly what was delivered, unless one of the delivered messages makes the
client's `unpack` panic. -/
theorem pickedUpExactly_iff (hBase64 : Base64Inverts shared.crates) (sessionId did : String)
    (hReachable : (databaseCalls shared.env).Reachable db)
    (hOnce : CompletelyStoredOnce db (shared.env.digest did)) {limit : Nat} (hLimit : 1 ≤ limit ∧ limit ≤ 100) :
    PickedUpExactly shared dids secrets (.authenticated shared.env sessionId did) limit db ↔
      ∀ e ∈ (entriesAt db (.receiveQ (shared.env.digest did))).take limit,
        ¬ Panics shared.crates dids secrets db e := by
  have hdb := wellKept_of_reachable hReachable
  constructor
  · exact fun hPicked => hPicked.not_panics dids secrets hBase64 hdb hLimit
  · intro hQuiet clock request reply db₁ hBody hRun
    obtain ⟨rfl, rfl⟩ := deliveryRequest_delivery hdb.sound hBody hRun
    refine ⟨rfl, _, (handleDelivery_ok_iff dids secrets hBase64 hdb _ _ _ _ _).mpr ⟨hQuiet, rfl⟩, rfl, ?_⟩
    intro clock receipt hValid hReceipt
    obtain ⟨db', hRun, -, hExactly, hQueue⟩ := messagesReceived_delivered dids secrets rfl hOnce hdb
      (List.take_sublist _ _) rfl hValid hReceipt
    exact ⟨db', hRun, hExactly, hQueue⟩

end

/-- As long as no store repeats a digest that is there, every message occurs once. -/
theorem completelyStoredOnce_of_conserved {db : Db} (hdb : Conserved db) (d : String) : CompletelyStoredOnce db d := by
  intro e he h body hQueued
  obtain ⟨x, hNames⟩ := hdb.named .receive d e he
  have hMsgId := (queuedMessage_eq_some_iff.mp hQueued).1
  obtain rfl := Option.some.inj (hNames.msgId.symm.trans hMsgId)
  refine ⟨fun hNone => ?_, fun d' e' he' hMsgId' => ?_⟩
  · have hOwner := hNames.owner
    simp [field, hNone] at hOwner
  · obtain ⟨y, hNames'⟩ := hdb.named .receive d' e' he'
    obtain rfl := Option.some.inj (hNames'.msgId.symm.trans hMsgId')
    obtain rfl := Option.some.inj (hNames'.owner.symm.trans hNames.owner)
    have hId := StreamId.text_injective (Option.some.inj (hNames'.id.symm.trans hNames.id))
    exact ⟨rfl, eq_of_id_eq (hdb.sorted .receive d') he' he hId⟩

/-- A plaintext message for whoever reads it. -/
def pingText : String := "\x7b\"id\":\"1\",\"type\":\"https://didcomm.org/trust-ping/2.0/ping\",\"body\":\x7b\x7d\x7d"

def pingHash : String := "2e6bb6db0035347c57dc5ea48d3793970b4504e740a592f70558a9f475107116"

/-- Another one. -/
def laterText : String := "\x7b\"id\":\"2\",\"type\":\"https://didcomm.org/trust-ping/2.0/ping\",\"body\":\x7b\x7d\x7d"

def laterHash : String := "a76b2cff9f76cefe0c3d870d02cdba50097714bd28df0567b64c755ae3cea3d9"

def aliceKid : String := "did:example:alice#key-1"

/-- An authenticated message for alice's key whose header names no sender. -/
def senderlessText : String :=
  "\x7b\"protected\":\"eyJhbGciOiJFQ0RILTFQVStBMjU2S1ciLCJlbmMiOiJBMjU2Q0JDLUhTNTEyIiwiYXB2IjoidjN4ams1eC1sUUtr" ++
    "RFdpQUltemcxZmVrYVdNYWIyR2pNdUpDMDBlT1F0MCIsImVwayI6e319\"," ++
    "\"recipients\":[\x7b\"header\":\x7b\"kid\":\"did:example:alice#key-1\"\x7d,\"encrypted_key\":\"\"\x7d]," ++
    "\"iv\":\"\",\"ciphertext\":\"\",\"tag\":\"\"\x7d"

def senderlessHash : String := "5e9535a6696681627f6c3fb4e0799aa83a93d83706448d7d5a078bcdfaa74cc0"

def pickupDigest (text : String) : String :=
  if text = pingText then pingHash
  else if text = laterText then laterHash
  else if text = senderlessText then senderlessHash
  else sampleDigest text

/-- The digest of alice's key id. -/
def aliceKidDigest (_ : ByteArray) : ByteArray :=
  ⟨#[191, 124, 99, 147, 156, 126, 149, 2, 164, 13, 104, 128, 34, 108, 224, 213, 247, 164, 105, 99, 26,
    111, 97, 163, 50, 226, 66, 211, 71, 142, 66, 221]⟩

def pickupShared : SharedData where
  env := {
    digest := pickupDigest
    digest_size := fun text => by
      unfold pickupDigest
      split
      · decide
      split
      · decide
      split
      · decide
      · exact sampleEnvironment.digest_size text
    strtod := fun _ => none
    describe := fun _ => "rejected" }
  crates := ideal aliceKidDigest
  mediatorDid := "did:example:mediator"
  valueError := fun type _ => "invalid type: null, expected struct " ++ type

def noDids : DidResolver := ⟨fun _ => .error "not found"⟩

def aliceSecret : Secret where
  id := aliceKid
  type_ := .jsonWebKey2020
  secretMaterial := .jwk (.obj [("crv", .str "X25519"), ("d", .str "r-jK2cO3taR8LQnJB1_ikLBTAnOtShJOsHXRUWT-aZA"),
    ("kty", .str "OKP"), ("x", .str "avH0O2Y4tqLAq8y9zpianr8ajii5m4F_mICrzNlatXs")])

def aliceSecrets : SecretsResolver where
  getSecret kid := .ok (if kid = aliceKid then some aliceSecret else none)
  findSecrets kids := .ok (kids.filter (· = aliceKid))

theorem thirdUsec_lt : 300000 < 1000000 := by decide

/-- A text is stored for alice. -/
def storeForAlice (time : ServerTime) (text : String) (db : Db) : Db :=
  stateAfter (DatabaseHandler.storeMessage pickupShared.env time "s" text "did:example:alice" none) db

/-- A text stored for alice on an empty database. -/
def storedForAlice (text : String) : Db :=
  storeForAlice ⟨1700000000, 100000, firstUsec_lt⟩ text fun _ => none

/-- A text that is no message, and two that are after it. -/
def mixedInbox : Db :=
  storeForAlice ⟨1700000000, 300000, thirdUsec_lt⟩ laterText
    (storeForAlice ⟨1700000000, 200000, secondUsec_lt⟩ pingText (storedForAlice "hello"))

def isOk {ε σ α : Type} : EStateM.Result ε σ α → Bool
  | .ok _ _ => true
  | .error _ _ => false

theorem fresh_storeForAlice {time : ServerTime} {text : String} {db : Db}
    (hdb : (freshStores pickupShared.env).Reachable db) (hNew : db (.msg (pickupDigest text)) = none)
    (h : isOk (DatabaseHandler.storeMessage pickupShared.env time "s" text "did:example:alice" none db) = true) :
    (freshStores pickupShared.env).Reachable (storeForAlice time text db) := by
  refine hdb.step (l := .storeMessage time "s" text "did:example:alice" none) ⟨hNew, ?_⟩
  cases hRun : DatabaseHandler.storeMessage pickupShared.env time "s" text "did:example:alice" none db with
  | ok hash db' =>
    have hDb : storeForAlice time text db = db' := stateAfter_of_ok hRun
    exact ⟨hash, by rw [hDb]; exact hRun⟩
  | error e db' =>
    rw [hRun] at h
    cases h

theorem conserved_storedForAlice {text : String}
    (h : isOk (DatabaseHandler.storeMessage pickupShared.env ⟨1700000000, 100000, firstUsec_lt⟩ "s" text
      "did:example:alice" none fun _ => none) = true) : Conserved (storedForAlice text) :=
  conserved_of_reachable (fresh_storeForAlice (.init rfl) rfl h)

theorem conserved_mixedInbox : Conserved mixedInbox := by
  have hHello : (freshStores pickupShared.env).Reachable (storedForAlice "hello") :=
    fresh_storeForAlice (.init rfl) rfl (by decide +kernel)
  refine conserved_of_reachable (fresh_storeForAlice (fresh_storeForAlice hHello ?_ ?_) ?_ ?_) <;> decide +kernel

theorem base64Inverts_pickup : Base64Inverts pickupShared.crates := ideal_base64 aliceKidDigest

theorem reachable_storeForAlice {time : ServerTime} {text : String} {db : Db}
    (hdb : (databaseCalls pickupShared.env).Reachable db) (hText : text ≠ "") :
    (databaseCalls pickupShared.env).Reachable (storeForAlice time text db) :=
  hdb.step (l := .storeMessage time "s" ⟨text, hText⟩ "did:example:alice" none) rfl

theorem reachable_storedForAlice {text : String} (hText : text ≠ "") :
    (databaseCalls pickupShared.env).Reachable (storedForAlice text) :=
  reachable_storeForAlice (.init rfl) hText

theorem reachable_mixedInbox : (databaseCalls pickupShared.env).Reachable mixedInbox :=
  reachable_storeForAlice (reachable_storeForAlice (reachable_storedForAlice (by decide : "hello" ≠ ""))
    (by decide : pingText ≠ "")) (by decide : laterText ≠ "")

/-- An entry of alice's queue. -/
def entryOf (id : StreamId) (messageHash : String) (bytes : Nat) : StreamEntry where
  id := id
  fields := [("MSG_ID", messageHash), ("BYTES", bytes.repr), ("FROM", "ANONYMOUS")]

def firstEntry : String → Nat → StreamEntry :=
  entryOf { ms := 1700000000100, seq := 0, seq_lt := StreamId.zero.seq_lt }

def secondEntry : String → Nat → StreamEntry :=
  entryOf { ms := 1700000000200, seq := 0, seq_lt := StreamId.zero.seq_lt }

def thirdEntry : String → Nat → StreamEntry :=
  entryOf { ms := 1700000000300, seq := 0, seq_lt := StreamId.zero.seq_lt }

def panics {α : Type} : Result α → Bool
  | .error (.panic _) => true
  | _ => false

theorem not_panics_of_panics {db : Db} {entry : StreamEntry} {h body : String}
    (hQueued : queuedMessage db entry = some (h, body))
    (hUnpack : panics (unpack pickupShared.crates noDids aliceSecrets body) = false) :
    ¬ Panics pickupShared.crates noDids aliceSecrets db entry := by
  rw [panics_iff noDids aliceSecrets hQueued]
  rintro ⟨site, hPanic⟩
  rw [hPanic] at hUnpack
  cases hUnpack

theorem queue_mixedInbox : entriesAt mixedInbox (.receiveQ (pickupShared.env.digest "did:example:alice")) =
    [firstEntry helloHash 5, secondEntry pingHash 69, thirdEntry laterHash 69] := by
  decide +kernel

theorem not_panics_mixedInbox : ∀ e ∈ entriesAt mixedInbox
    (.receiveQ (pickupShared.env.digest "did:example:alice")),
    ¬ Panics pickupShared.crates noDids aliceSecrets mixedInbox e := by
  have hHello : queuedMessage mixedInbox (firstEntry helloHash 5) = some (helloHash, "hello") := by decide +kernel
  have hPing : queuedMessage mixedInbox (secondEntry pingHash 69) = some (pingHash, pingText) := by
    decide +kernel
  have hLater : queuedMessage mixedInbox (thirdEntry laterHash 69) = some (laterHash, laterText) := by
    decide +kernel
  have hUnpack : ["hello", pingText, laterText].all
      (fun text => !panics (unpack pickupShared.crates noDids aliceSecrets text)) = true := by decide +kernel
  simp only [List.all_cons, List.all_nil, Bool.and_true, Bool.and_eq_true, Bool.not_eq_true'] at hUnpack
  rw [queue_mixedInbox]
  simp only [List.forall_mem_cons, List.not_mem_nil, false_imp_iff, implies_true, and_true]
  exact ⟨not_panics_of_panics hHello hUnpack.1, not_panics_of_panics hPing hUnpack.2.1,
    not_panics_of_panics hLater hUnpack.2.2⟩

/-- Both messages are picked up from behind the text that is none. -/
theorem pickedUpExactly_mixedInbox :
    PickedUpExactly pickupShared noDids aliceSecrets
      (.authenticated pickupShared.env "s" "did:example:alice") 3 mixedInbox := by
  have hOnce := completelyStoredOnce_of_conserved conserved_mixedInbox (pickupShared.env.digest "did:example:alice")
  exact (pickedUpExactly_iff noDids aliceSecrets base64Inverts_pickup "s" "did:example:alice"
    reachable_mixedInbox hOnce (by decide)).mpr fun e he => not_panics_mixedInbox e (List.mem_of_mem_take he)

/-- A message that names no sender makes the client panic, and nothing is delivered. -/
theorem not_pickedUpExactly :
    (databaseCalls pickupShared.env).Reachable (storedForAlice senderlessText) ∧
      CompletelyStoredOnce (storedForAlice senderlessText) (pickupShared.env.digest "did:example:alice") ∧
      ¬ PickedUpExactly pickupShared noDids aliceSecrets
        (.authenticated pickupShared.env "s" "did:example:alice") 1 (storedForAlice senderlessText) := by
  have hConserved : Conserved (storedForAlice senderlessText) :=
    conserved_storedForAlice (by decide +kernel)
  have hOnce := completelyStoredOnce_of_conserved hConserved (pickupShared.env.digest "did:example:alice")
  refine ⟨reachable_storedForAlice (by decide +kernel : senderlessText ≠ ""), hOnce, fun hPicked => ?_⟩
  have hQueue : entriesAt (storedForAlice senderlessText)
      (.receiveQ (pickupShared.env.digest "did:example:alice")) = [firstEntry senderlessHash 272] := by
    decide +kernel
  have hQueued : queuedMessage (storedForAlice senderlessText) (firstEntry senderlessHash 272) =
      some (senderlessHash, senderlessText) := by
    decide +kernel
  have hUnpack : panics (unpack pickupShared.crates noDids aliceSecrets senderlessText) = true := by
    decide +kernel
  have hQuiet := hPicked.not_panics noDids aliceSecrets base64Inverts_pickup
    (wellKept_of_reachable (reachable_storedForAlice (by decide +kernel : senderlessText ≠ ""))) (by decide)
  rw [hQueue] at hQuiet
  refine hQuiet _ List.mem_cons_self ((panics_iff noDids aliceSecrets hQueued).mpr ?_)
  cases hResult : unpack pickupShared.crates noDids aliceSecrets senderlessText with
  | ok unpacked =>
    rw [hResult] at hUnpack
    cases hUnpack
  | error fault =>
    rw [hResult] at hUnpack
    cases fault with
    | error e => cases hUnpack
    | panic site => exact ⟨site, rfl⟩

end AffinidiMessaging.Sdk
