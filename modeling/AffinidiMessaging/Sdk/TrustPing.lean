import AffinidiMessaging.Mediator.EndToEnd
import AffinidiMessaging.Mediator.SocketReplies
import AffinidiMessaging.Mediator.TrustPing
import AffinidiMessaging.Sdk.Authentication

/-! # Pings of the SDK

`send_ping` asks for a response only in the name of its sender. The mediator packs the response for the sender
and puts it into its inbox, where the sender reads it.
-/

namespace AffinidiMessaging.Sdk

open Redis Fallible Serde Didcomm Mediator Transition

/-- The message of `send_ping`, and in whose name it is packed. -/
def pingMessage (config : AtmDids) (id : String) (now : UInt64) (toDid : String) (signed expectResponse : Bool) :
    Except SendError (Message × Option String) := do
  let (myDid, _) ← config.dids
  let expectResponse := if !signed && expectResponse then false else expectResponse
  let msg := { Message.build id "https://didcomm.org/trust-ping/2.0/ping"
      (.obj [("response_requested", .bool expectResponse)]) with to_ := some [toDid] }
  let (msg, fromDid) := if !signed then (msg, none) else ({ msg with from_ := some myDid }, some myDid)
  return ({ msg with createdTime := some now, expiresTime := some (now + 300) }, fromDid)

/-- What `send_ping` sends. -/
def sendPing (crates : Crates) (dids : DidResolver) (secrets : SecretsResolver) (display : Fault → String)
    (config : AtmDids) (id : String) (now : UInt64) (draws : Message.PackDraws crates) (toDid : String)
    (signed expectResponse : Bool) : Except SendError (String × PackEncryptedMetadata) := do
  let (msg, fromDid) ← pingMessage config id now toDid signed expectResponse
  match msg.packEncrypted crates dids secrets draws toDid fromDid fromDid {} with
  | .ok packed => return packed
  | .error e => throw (.msgSendError ("Error packing message: " ++ display e))

section
variable {config : Config} {session : Common.Session} {around : Surroundings config.crates} {text : String}
  {s s' : Broker}

theorem handleInbound_single {force : Bool} {p : String × String} {s₁ : Broker}
    (hOut : prepareOutgoing config session around text s = .ok ⟨true, force, [p]⟩ s₁) {r : InboundMessageResponse}
    (h : handleInbound config session around text s = .ok r s') :
    ∃ list, r = .stored list ∧ ((∃ msgId, DatabaseHandler.storeMessage config.env (around.stored 0) session.sessionId
      p.2 p.1 (some config.mediatorDid) s₁.db = .ok msgId s'.db) ∨ list.errors ≠ []) := by
  rw [handleInbound, bind_of_ok hOut] at h
  obtain ⟨published, hPublish⟩ := @forM_tryLiveStream_ok config force [p] s₁
  rw [bind_of_ok hPublish] at h
  simp only [storeOutgoing, if_true, List.zipIdx_singleton, List.foldlM_cons, List.foldlM_nil, bind_pure] at h
  obtain ⟨list, s₂, hStore, h⟩ := (bind_ok_iff _ _ _ _ _).mp h
  cases h
  refine ⟨list, rfl, ?_⟩
  unfold storePacked at hStore
  split at hStore
  · rename_i msgId db hRun
    cases hStore
    exact .inl ⟨msgId, hRun⟩
  · cases hStore
    exact .inr (by simp)

theorem handleInbound_single_stored {force : Bool} {p : String × String}
    (hOut : prepareOutgoing config session around text s = .ok ⟨true, force, [p]⟩ s) {msgId : String} {db : Db}
    (hStore : DatabaseHandler.storeMessage config.env (around.stored 0) session.sessionId p.2 p.1
      (some config.mediatorDid) s.db = .ok msgId db) :
    ∃ s', handleInbound config session around text s = .ok (.stored ⟨[(p.1, msgId)], []⟩) s' := by
  obtain ⟨published, hPublish⟩ := @forM_tryLiveStream_ok config force [p] s
  have hList : storePacked config session (around.stored 0) {} p { s with published } =
      .ok ⟨[(p.1, msgId)], []⟩ ⟨db, published⟩ := by
    rw [storePacked, hStore]
    rfl
  refine ⟨⟨db, published⟩, (bind_of_ok hOut).trans ((bind_of_ok hPublish).trans ?_)⟩
  simp only [storeOutgoing, if_true, List.zipIdx_singleton, List.foldlM_cons, List.foldlM_nil, bind_pure]
  exact bind_of_ok hList

theorem prepareOutgoing_ping {ping : Message} {metadata : UnpackMetadata} {sender : String}
    {out : Outgoing} {s₁ : Broker}
    (hUnpack : unpackInbound config session text = .ok (ping, metadata)) (hType : ping.type_ = pingType)
    (hFrom : ping.from_ = some sender) (h : prepareOutgoing config session around text s = .ok out s₁) :
    s₁ = s ∧ ∃ toDid rest packed, ping.to_ = some (toDid :: rest) ∧
      (Ping.responseMsg around.clock ping toDid sender).packEncrypted config.crates config.dids config.mediatorSecrets
        (around.draws sender) sender (some toDid) (some config.mediatorDid)
        { toKidsLimit := config.toKeysPerRecipientLimit } = .ok packed ∧
      out = ⟨true, false, [(sender, packed.1)]⟩ := by
  simp only [prepareOutgoing, bind_ok_iff, orRaise_ok_iff, hUnpack, Except.ok.injEq] at h
  obtain ⟨_, _, ⟨rfl, rfl⟩, response, s₂, hProcess, h⟩ := h
  obtain ⟨db, hRun, rfl⟩ := (onBroker_ok_iff _ _ _ _).mp hProcess
  have hKind : MessageType.fromStr ping.type_ = .ok .trustPing := by
    rw [hType]
    rfl
  obtain ⟨-, hTyped⟩ := (processMessage_ok_iff _ _ _ _ _ _ hKind).mp hRun
  obtain ⟨hPing, rfl⟩ := (orFail_ok_iff _ _ _ _).mp hTyped
  cases response with
  | none => cases h
  | some response =>
    obtain ⟨-, toDid, rest, sender', hTo, hFrom', rfl⟩ := Ping.process_reply_iff.mp hPing
    cases hFrom.symm.trans hFrom'
    obtain ⟨packed, s₃, hRaised, h⟩ := (bind_ok_iff _ _ _ _ _).mp h
    obtain ⟨hPack, rfl⟩ := (orRaise_ok_iff _ _ _ _).mp hRaised
    cases h
    obtain ⟨-, -, p, hPacked, rfl⟩ := (packResponse_one_iff rfl).mp hPack
    exact ⟨rfl, toDid, rest, p, hTo, hPacked, rfl⟩

end

section
variable {crates : Crates} {hasPrivate : {curve : Curve} → crates.KeyPair curve → Prop}
  {reread : Int → Int → Int × Int} {limit : ℕ∞} (laws : Lawful crates hasPrivate reread limit)
include laws

theorem responseMsg_readsBack {clock : Clock} {msg : Message} {to_ from_ : String} :
    ReadsBack crates (Ping.responseMsg clock msg to_ from_) :=
  .of_laws laws rfl (Nat.le_add_left 2 125) (Message.ofJson_toJson rfl rfl fun _ h => by cases h)
    (Message.envelope_toJson rfl)

theorem pingMessage_readsBack {config : AtmDids} {id toDid : String} {now : UInt64} {signed expectResponse : Bool}
    {ping : Message × Option String} (h : pingMessage config id now toDid signed expectResponse = .ok ping) :
    ReadsBack crates ping.1 := by
  obtain ⟨dids, -, h⟩ := (except_bind_ok_iff _ _ _).mp h
  cases signed with
  | false =>
    cases h
    exact .of_laws laws rfl (Nat.le_add_left 2 125) (Message.ofJson_toJson rfl rfl fun _ h => by cases h)
      (Message.envelope_toJson rfl)
  | true =>
    cases h
    exact .of_laws laws rfl (Nat.le_add_left 2 125) (Message.ofJson_toJson rfl rfl fun _ h => by cases h)
      (Message.envelope_toJson rfl)

end

/-- Where the recipient's service has no routing keys, nothing is forwarded. -/
theorem messagingService_unrouted {crates : Crates} {dids : DidResolver} {secrets : SecretsResolver} {m : Message}
    {draws : Message.PackDraws crates} {to_ : String} {from_ signBy : Option String} {opts : PackEncryptedOptions}
    {packed : String × PackEncryptedMetadata}
    (h : m.packEncrypted crates dids secrets draws to_ from_ signBy opts = .ok packed)
    (hRoute : ∀ chain, resolveDidCommServicesChain crates dids to_ opts.messagingService = .ok chain →
      routingKeysOf chain = []) : packed.2.messagingService = none := by
  simp only [Message.packEncrypted, except_bind_ok_iff] at h
  obtain ⟨-, -, inner, -, outer, -, wrapped, hWrapped, hPacked⟩ := h
  cases hPacked
  unfold wrapInForwardIfNeeded at hWrapped
  cases hForward : opts.forward with
  | false =>
    rw [hForward] at hWrapped
    cases hWrapped
    rfl
  | true =>
    simp only [hForward, Bool.not_true, Bool.false_eq_true, if_false, except_bind_ok_iff] at hWrapped
    obtain ⟨chain, hChain, hWrapped⟩ := hWrapped
    rw [hRoute chain hChain] at hWrapped
    split at hWrapped
    · cases hWrapped
      rfl
    · cases hWrapped
      rfl

section
variable {config : Config} {hasPrivate : {curve : Curve} → config.crates.KeyPair curve → Prop}
  {reread : Int → Int → Int × Int} {limit : ℕ∞} (laws : Lawful config.crates hasPrivate reread limit)
include laws

theorem unpackInbound_packed (hLookup : LooksUp config.crates) (hUrls : OwnUrls config.crates config.dids)
    {clientSecrets : SecretsResolver} (hOwn : OwnSecrets config.crates config.dids clientSecrets)
    (hLimit : 2 < config.cryptoOperationsPerMessageLimit) {m : Message} (hType : m.type_ ≠ forwardMsgType)
    (hTyp : m.typ = plaintextTyp) (hRead : ReadsBack config.crates m) {draws : Message.PackDraws config.crates}
    {toDid : String} {from_ signBy : Option String} {packed : String × PackEncryptedMetadata}
    (h : m.packEncrypted config.crates config.dids clientSecrets draws toDid from_ signBy {} = .ok packed)
    (hService : packed.2.messagingService = none)
    (hHolds : HoldsSecret config.crates hasPrivate config.dids config.mediatorSecrets packed.2.toKids)
    (session : Common.Session) :
    ∃ metadata, unpackInbound config session packed.1 = .ok (m, metadata) ∧ metadata.encrypted = true := by
  let opts : UnpackOptions := { cryptoOperationsLimitPerMessage := config.cryptoOperationsPerMessageLimit }
  obtain ⟨outer, layers, prior, hOuter, hOpens, hAgrees⟩ :=
    packEncrypted_opens laws hLookup hUrls hOwn hType hTyp hRead rfl
    (show 2 < opts.cryptoOperationsLimitPerMessage from hLimit) h hService hHolds
  refine ⟨_, unpackInbound_ok_iff.mpr ?_, hAgrees.encrypted⟩
  exact (unpacked_eq_some_iff _ _ _ _).mpr ⟨layers, prior, ⟨outer, hOuter, hOpens⟩, rfl⟩

/-- What a client reads of what the mediator packs for it in the name of a DID. -/
theorem response_read (hLookup : LooksUp config.crates) (hUrls : OwnUrls config.crates config.dids)
    (hOwn : OwnSecrets config.crates config.dids config.mediatorSecrets) {m : Message}
    (hType : m.type_ ≠ forwardMsgType)
    (hTyp : m.typ = plaintextTyp) (hRead : ReadsBack config.crates m) {draws : Message.PackDraws config.crates}
    {did from_ : String} {opts : PackEncryptedOptions} {packed : String × PackEncryptedMetadata}
    (h : m.packEncrypted config.crates config.dids config.mediatorSecrets draws did (some from_)
      (some config.mediatorDid)
      opts = .ok packed) (hService : packed.2.messagingService = none) {clientSecrets : SecretsResolver}
    (hHolds : HoldsSecret config.crates hasPrivate config.dids clientSecrets packed.2.toKids) :
    ∃ metadata unpacked, Message.unpackString config.crates config.dids clientSecrets {} packed.1
      (.fresh config.crates) =
        .ok (m, metadata) unpacked ∧
      metadata.encrypted = true ∧ metadata.authenticated = true ∧ metadata.nonRepudiation = true := by
  let unpackOpts : UnpackOptions := {}
  obtain ⟨outer, layers, prior, hOuter, hOpens, hAgrees⟩ :=
    packEncrypted_opens laws hLookup hUrls hOwn hType hTyp hRead rfl
    (by decide : 2 < unpackOpts.cryptoOperationsLimitPerMessage) h hService hHolds
  obtain ⟨unpacked, hRun, -⟩ :=
    (unpackString_ok_iff config.crates config.dids clientSecrets unpackOpts packed.1 _ _ _).mpr
    ⟨layers, prior, ⟨outer, hOuter, hOpens⟩, rfl, rfl⟩
  exact ⟨_, unpacked, hRun, hAgrees.encrypted, hAgrees.authenticated.mpr (.inl rfl), hAgrees.nonRepudiation.mpr rfl⟩

theorem unpackInbound_sendPing (hLookup : LooksUp config.crates) (hUrls : OwnUrls config.crates config.dids)
    {clientSecrets : SecretsResolver} (hOwn : OwnSecrets config.crates config.dids clientSecrets)
    (hLimit : 2 < config.cryptoOperationsPerMessageLimit) {display : Fault → String} {sdk : AtmDids} {id toDid : String}
    {now : UInt64} {draws : Message.PackDraws config.crates} {signed expectResponse : Bool}
    {packed : String × PackEncryptedMetadata}
    (h : sendPing config.crates config.dids clientSecrets display sdk id now draws toDid signed
      expectResponse = .ok packed)
    (hService : packed.2.messagingService = none)
    (hHolds : HoldsSecret config.crates hasPrivate config.dids config.mediatorSecrets packed.2.toKids)
    (session : Common.Session) : ∃ ping metadata,
      pingMessage sdk id now toDid signed expectResponse = .ok ping ∧
      unpackInbound config session packed.1 = .ok (ping.1, metadata) ∧ metadata.encrypted = true := by
  simp only [sendPing, except_bind_ok_iff] at h
  obtain ⟨ping, hPing, h⟩ := h
  split at h
  · rename_i packed' hPacked
    cases h
    have hParts : ping.1.type_ = pingType ∧ ping.1.typ = plaintextTyp := by
      obtain ⟨dids, -, hPing⟩ := (except_bind_ok_iff _ _ _).mp hPing
      cases signed <;> cases hPing <;> exact ⟨rfl, rfl⟩
    obtain ⟨metadata, hUnpack, hEncrypted⟩ :=
      unpackInbound_packed laws hLookup hUrls hOwn hLimit (by rw [hParts.1]; decide)
      hParts.2 (pingMessage_readsBack laws hPing) hPacked hService hHolds session
    exact ⟨ping, metadata, hPing, hUnpack, hEncrypted⟩
  · cases h

/-- A ping in the name of its sender, if the mediator handles it, is answered in the inbox of the sender: with a
response that the mediator has signed and that names the ping. -/
theorem ping_answered (hLookup : LooksUp config.crates) (hUrls : OwnUrls config.crates config.dids)
    {clientSecrets : SecretsResolver} (hOwn : OwnSecrets config.crates config.dids clientSecrets)
    (hOwnMediator : OwnSecrets config.crates config.dids config.mediatorSecrets)
    (hLimit : 2 < config.cryptoOperationsPerMessageLimit) (hWritten : ∀ j, config.crates.jsonToString j ≠ "")
    {display : Fault → String} {sdk : AtmDids} {myDid atmDid id toDid : String}
    (hDids : sdk.dids = .ok (myDid, atmDid)) {now : UInt64} {draws : Message.PackDraws config.crates}
    {packed : String × PackEncryptedMetadata}
    (hPing : sendPing config.crates config.dids clientSecrets display sdk id now draws toDid true true = .ok packed)
    (hService : packed.2.messagingService = none)
    (hHolds : HoldsSecret config.crates hasPrivate config.dids config.mediatorSecrets packed.2.toKids)
    (hRoute : ∀ chain, resolveDidCommServicesChain config.crates config.dids myDid none = .ok chain →
      routingKeysOf chain = [])
    {session : Common.Session} {around : Surroundings config.crates} {s s' : Broker}
    (hMine : ∀ pong packed, Message.packEncrypted config.crates config.dids config.mediatorSecrets pong
      (around.draws myDid) myDid (some toDid) (some config.mediatorDid)
      { toKidsLimit := config.toKeysPerRecipientLimit } =
        .ok packed → HoldsSecret config.crates hasPrivate config.dids clientSecrets packed.2.toKids)
    (hReachable : (databaseCalls config.env).Reachable s.db) {list : InboundMessageList}
    (hRun : handleInbound config session around packed.1 s = .ok (.stored list) s') (hStored : list.errors = []) :
    ∃ text pong metadata unpacked,
      Message.unpackString config.crates config.dids clientSecrets {} text (.fresh config.crates) =
        .ok (pong, metadata) unpacked ∧
      pong.type_ = pingType ∧ pong.thid = some id ∧ pong.from_ = some toDid ∧ pong.to_ = some [myDid] ∧
      metadata.encrypted = true ∧ metadata.authenticated = true ∧ metadata.nonRepudiation = true ∧
      Available config.env s'.db (config.env.digest text) (config.env.digest myDid) text := by
  obtain ⟨ping, said, hMessage, hUnpack, hEncrypted⟩ :=
    unpackInbound_sendPing laws hLookup hUrls hOwn hLimit hPing hService hHolds session
  obtain ⟨out, s₁, hOut, -⟩ := (bind_ok_iff _ _ _ _ _).mp hRun
  have hParts : ping.1.type_ = pingType ∧ ping.1.from_ = some myDid ∧ ping.1.to_ = some [toDid] ∧ ping.1.id = id := by
    obtain ⟨dids, hDids', hMessage⟩ := (except_bind_ok_iff _ _ _).mp hMessage
    cases hDids.symm.trans hDids'
    cases hMessage
    exact ⟨rfl, rfl, rfl, rfl⟩
  obtain ⟨rfl, first, rest, pong, hTo, hPong, rfl⟩ := prepareOutgoing_ping hUnpack hParts.1 hParts.2.1 hOut
  cases hParts.2.2.1.symm.trans hTo
  obtain ⟨list', hList, ⟨msgId, hStore⟩ | hErrors⟩ := handleInbound_single hOut hRun
  · have hNone := messagingService_unrouted hPong hRoute
    obtain ⟨jwe, hText⟩ := packEncrypted_text hPong hNone
    obtain ⟨metadata, unpacked, hPongRun, hEncrypted', hAuthenticated, hSigned⟩ :=
      response_read laws hLookup hUrls hOwnMediator
      (by decide : pingType ≠ forwardMsgType) rfl (responseMsg_readsBack laws) hPong hNone (hMine _ _ hPong)
    refine ⟨pong.1, _, metadata, unpacked, hPongRun, rfl, congrArg some hParts.2.2.2, rfl, rfl, hEncrypted',
      hAuthenticated, hSigned, ?_⟩
    have hAfter : (databaseCalls config.env).Reachable s'.db :=
      hReachable.step (l := .storeMessage (around.stored 0) session.sessionId
        ⟨pong.1, hText ▸ hWritten jwe.toJson⟩ myDid (some config.mediatorDid)) (stateAfter_of_ok hStore).symm
    exact (DatabaseHandler.storeMessage_holds hStore).available (sound_of_reachable hAfter)
  · cases hList
    exact absurd hStored hErrors

end

/-! ## An example -/

theorem storeArgs_short {message toDid : String} (hShort : message.length < 10 ^ 8) (hSize : toDid.utf8ByteSize ≤ 100) :
    ([sampleEnvironment.digest message] ++ DatabaseHandler.storeArgs sampleEnvironment message toDid
      (some "did:example:mediator")).all (·.utf8ByteSize ≤ protoMaxBulkLen) = true := by
  have hText := Text.utf8ByteSize_le message
  have hRepr := Text.utf8ByteSize_le message.utf8ByteSize.repr
  have hDigits := (Nat.length_repr_le_iff (by decide : 0 < 9)).mpr (by omega : message.utf8ByteSize < 10 ^ 9)
  have hMediator : "did:example:mediator".utf8ByteSize ≤ protoMaxBulkLen := by decide
  have hMax : protoMaxBulkLen = 536870912 := by decide
  simp only [DatabaseHandler.storeArgs, List.all_cons, List.all_nil, List.cons_append, List.nil_append,
    sampleEnvironment.digest_size, hMax, Bool.and_eq_true, decide_eq_true_eq] at hMediator ⊢
  refine ⟨by decide, ?_, ?_, ?_, by decide, hMediator, by decide, trivial⟩ <;> omega

theorem everyDid_noChain {did : String} (h : '#' ∉ did.toList) :
    resolveDidCommServicesChain (ideal id) (everyDid fun _ => []) did none = .ok [] := by
  rw [resolveDidCommServicesChain, DidResolver.resolved, resolve_everyDid _ h]
  rfl

def quietAround : Surroundings quietConfig.crates :=
    ⟨helloTime, fun _ => sampleDraws, fun _ => ⟨1700000000, 100000, firstUsec_lt⟩⟩

/-- The ping of bob, and what the mediator responds. -/
def bobPing : Message :=
  { Message.build "1" pingType (.obj [("response_requested", .bool true)]) with
    to_ := some ["did:example:mediator"]
    from_ := some "did:example:bob"
    createdTime := some 1700000000
    expiresTime := some (1700000000 + 300) }

def bobPong : Message := Ping.responseMsg helloTime bobPing "did:example:mediator" "did:example:bob"

theorem packPlaintext_bobPong : bobPong.packPlaintext (ideal id)
    (everyDid fun _ => []) = .ok (JsonText.write bobPong.toJson) :=
  rfl

theorem length_bobPong {packed : String × PackEncryptedMetadata}
    (hPacked : bobPong.packEncrypted (ideal id) (everyDid fun _ => []) (secretsOf "did:example:mediator") sampleDraws
      "did:example:bob" (some "did:example:mediator") (some "did:example:mediator") {} = .ok packed)
    (hService : packed.2.messagingService = none) : packed.1.length < 10 ^ 8 := by
  have hHeader : JsonText.bound (authHeader (agreeKid "did:example:mediator")
      (Base64.encode (agreeKid "did:example:bob").toUTF8)).toJson ≤ 2000 := by decide +kernel
  have hLength := packEncrypted_length (by decide) (by decide) (by decide) ((JsonText.length_write_le _).trans hHeader)
    packPlaintext_bobPong hPacked hService
  have hPlain : (JsonText.write bobPong.toJson).toUTF8.size ≤ 4 * 1500 := (size_toUTF8_le _).trans
    (Nat.mul_le_mul_left 4 ((JsonText.length_write_le _).trans (by decide +kernel)))
  have hKids : (agreeKid "did:example:mediator").length + (agreeKid "did:example:bob").length +
      (signKid "did:example:mediator").length ≤ 100 := by decide
  generalize (JsonText.write bobPong.toJson).toUTF8.size = plain at hLength hPlain
  generalize (agreeKid "did:example:mediator").length = sender at hLength hKids
  generalize (agreeKid "did:example:bob").length = receiver at hLength hKids
  generalize (signKid "did:example:mediator").length = signer at hLength hKids
  omega

theorem ping_answered_bob : ∃ packed list s text pong metadata unpacked,
    sendPing (ideal id) (everyDid fun _ => []) (secretsOf "did:example:bob")
      (fun _ => "") bobSdk "1" 1700000000 sampleDraws
        "did:example:mediator" true true = .ok packed ∧
      handleInbound quietConfig aliceSession quietAround packed.1 ⟨fun _ => none, []⟩ = .ok (.stored list) s ∧
      Message.unpackString (ideal id) (everyDid fun _ => []) (secretsOf "did:example:bob") {} text (.fresh _) =
        .ok (pong, metadata) unpacked ∧
      pong.type_ = pingType ∧ pong.thid = some "1" ∧
      Available sampleEnvironment s.db (sampleEnvironment.digest text)
        (sampleEnvironment.digest "did:example:bob") text := by
  have hBob : '#' ∉ "did:example:bob".toList := by decide
  have hMediator : '#' ∉ "did:example:mediator".toList := by decide
  have hMessage : pingMessage bobSdk "1" 1700000000 "did:example:mediator" true true =
    .ok (bobPing, some "did:example:bob") := rfl
  obtain ⟨packed, hPacked, hService, hKids⟩ := packEncrypted_everyDid hBob hMediator (m := bobPing) rfl rfl (by decide)
    (by decide) rfl sampleDraws
  have hPing : sendPing (ideal id) (everyDid fun _ => []) (secretsOf "did:example:bob")
      (fun _ => "") bobSdk "1" 1700000000 sampleDraws "did:example:mediator" true true = .ok packed := by
    rw [sendPing, hMessage]
    simp only [bind, Except.bind, hPacked]
    rfl
  have hUrls : OwnUrls quietConfig.crates quietConfig.dids := everyDid_ownUrls id fun _ => []
  have hOwn : OwnSecrets quietConfig.crates quietConfig.dids (secretsOf "did:example:bob") :=
    everyDid_ownSecrets id (fun _ => []) hBob
  have hOwnMediator : OwnSecrets quietConfig.crates quietConfig.dids quietConfig.mediatorSecrets :=
    everyDid_ownSecrets id (fun _ => []) hMediator
  have hHolds : HoldsSecret (ideal id) (fun _ => True) (everyDid fun _ => []) (secretsOf "did:example:mediator")
      packed.2.toKids := by
    rw [hKids]
    exact everyDid_holdsSecret id _ hMediator
  have hLimit : 2 < quietConfig.cryptoOperationsPerMessageLimit := by decide
  obtain ⟨ping, metadata, hSame, hUnpack, hEncrypted⟩ :=
    unpackInbound_sendPing (ideal_lawful id) (ideal_looksUp id) hUrls hOwn hLimit hPing hService hHolds aliceSession
  cases hMessage.symm.trans hSame
  obtain ⟨pong, hPong, hNone, -⟩ :=
    packEncrypted_everyDid hMediator hBob (m := bobPong) rfl rfl (by decide) (by decide) rfl sampleDraws
  have hAnswered : Ping.process helloTime aliceSession bobPing = .ok (some ⟨true, false, .message bobPong⟩) :=
    Ping.process_reply_iff.mpr ⟨⟨fun _ h => by cases h; decide, ⟨_, _, rfl⟩, rfl, rfl⟩, _, _, _, rfl, rfl, rfl⟩
  have hProcess : processMessage helloTime aliceSession bobPing quietConfig.crates quietConfig.debug quietConfig.pickup
      (fun _ => none) = .ok (some ⟨true, false, .message bobPong⟩) (fun _ => none) :=
    (processMessage_ok_iff _ _ _ _ _ _ (by rfl : MessageType.fromStr bobPing.type_ = .ok .trustPing)).mpr
      ⟨validateExpiry_ok_iff.mpr fun _ h => by cases h; decide, (orFail_ok_iff _ _ _ _).mpr ⟨hAnswered, rfl⟩⟩
  have hPack : packResponse quietConfig aliceSession quietAround.draws metadata (.message bobPong) =
      .ok [("did:example:bob", pong.1)] := (packResponse_one_iff rfl).mpr ⟨by decide, hEncrypted, pong, hPong, rfl⟩
  have hOut : prepareOutgoing quietConfig aliceSession quietAround packed.1 ⟨fun _ => none, []⟩ =
      .ok ⟨true, false, [("did:example:bob", pong.1)]⟩ ⟨fun _ => none, []⟩ := by
    simp only [prepareOutgoing, bind_ok_iff, orRaise_ok_iff]
    refine ⟨_, _, ⟨hUnpack, rfl⟩, _, _, (onBroker_ok_iff _ _ _ _).mpr ⟨_, hProcess, rfl⟩, ?_⟩
    exact (bind_ok_iff _ _ _ _ _).mpr ⟨_, _, (orRaise_ok_iff _ _ _ _).mpr ⟨hPack, rfl⟩, rfl⟩
  have hArgs := @storeArgs_short pong.1 "did:example:bob" (length_bobPong hPong hNone) (by decide)
  obtain ⟨db, hStore⟩ := DatabaseHandler.storeMessage_first hArgs xadd_example aliceSession.sessionId
  obtain ⟨s, hRun⟩ := handleInbound_single_stored hOut hStore
  have hMine : ∀ pong packed, Message.packEncrypted quietConfig.crates quietConfig.dids quietConfig.mediatorSecrets pong
      (quietAround.draws "did:example:bob") "did:example:bob" (some "did:example:mediator")
      (some quietConfig.mediatorDid)
        { toKidsLimit := quietConfig.toKeysPerRecipientLimit } = .ok packed →
        HoldsSecret (ideal id) (fun _ => True) (everyDid fun _ => [])
          (secretsOf "did:example:bob") packed.2.toKids := by
    intro m p hPacked
    rw [(packEncrypted_everyDid_ok hMediator hBob hPacked).1]
    exact everyDid_holdsSecret id _ hBob
  have hRoute : ∀ chain, resolveDidCommServicesChain quietConfig.crates quietConfig.dids "did:example:bob"
      none = .ok chain → routingKeysOf chain = [] := by
    intro chain hChain
    cases (everyDid_noChain hBob).symm.trans hChain
    rfl
  have hReachable : (databaseCalls quietConfig.env).Reachable (Broker.mk (fun _ => none) []).db := .init rfl
  obtain ⟨text, m, said, unpacked, hRead, hType, hThid, -, -, -, -, -, hThere⟩ :=
    ping_answered (ideal_lawful id) (ideal_looksUp id)
    hUrls hOwn hOwnMediator hLimit JsonText.write_ne_empty rfl hPing hService hHolds hRoute hMine hReachable hRun rfl
  exact ⟨packed, _, s, text, m, said, unpacked, hPing, hRun, hRead, hType, hThid, hThere⟩

end AffinidiMessaging.Sdk
