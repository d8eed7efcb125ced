import AffinidiMessaging.Didcomm.IdealPacking
import AffinidiMessaging.Mediator.HandleInbound
import AffinidiMessaging.Mediator.InboxFetch
import AffinidiMessaging.Mediator.StatusAgreement
import AffinidiMessaging.Mediator.StoreFailure
import AffinidiMessaging.Mediator.TrustPing

/-! # The inbox that a forwarded message is stored in

A forward is stored under the digest of its `next`, which is the recipient as `pack_encrypted` was given
it. The requests of a session use the digest of its DID.
-/

namespace AffinidiMessaging.Mediator

open Redis Text Fallible Serde Didcomm

section
variable {config : Config} {session : Common.Session}

theorem unpackInbound_ok_iff {text : String} {r : Message × UnpackMetadata} :
    unpackInbound config session text = .ok r ↔
      Message.unpacked config.crates config.dids config.mediatorSecrets
        { cryptoOperationsLimitPerMessage := config.cryptoOperationsPerMessageLimit } text = some r := by
  rw [Message.unpacked, Message.unpackString]
  unfold unpackInbound
  cases hNew : MetaEnvelope.new config.crates config.dids config.mediatorSecrets text (.fresh config.crates) with
  | error e s =>
    rw [bind_of_error hNew]
    simp [Didcomm.outcome]
  | ok u s =>
    rw [bind_of_ok hNew]
    cases hUnpack : Message.unpack config.crates config.dids config.mediatorSecrets
        { cryptoOperationsLimitPerMessage := config.cryptoOperationsPerMessageLimit } s with
    | error e s' => simp [Didcomm.outcome, hUnpack]
    | ok unpacked s' => simp [Didcomm.outcome, hUnpack]

theorem unpackInbound_of_handleInbound {around : Surroundings config.crates} {text : String} {s s' : Broker}
    {r : InboundMessageResponse} (h : handleInbound config session around text s = .ok r s') :
    ∃ unpacked, unpackInbound config session text = .ok unpacked := by
  obtain ⟨out, s₁, hOut, -⟩ := (bind_ok_iff _ _ _ _ _).mp h
  obtain ⟨unpacked, s₂, hUnpack, -⟩ := (bind_ok_iff _ _ _ _ _).mp hOut
  exact ⟨unpacked, ((orRaise_ok_iff _ _ _ _).mp hUnpack).1⟩

theorem type_of_tryParseForward {m : Message} {forward : ParsedForward} (h : tryParseForward m = some forward) :
    m.type_ = forwardMsgType := by
  unfold tryParseForward at h
  split at h
  · cases h
  · exact not_not.mp ‹_›

theorem routingProcess_forward {clock : Clock} {m : Message} {crates : Crates} {debug : Message → String}
    {r : Option ProcessMessageResponse} {forward : ParsedForward} (hForward : tryParseForward m = some forward)
    (h : Routing.process clock session m crates debug = .ok r) :
    r = some ⟨true, true, .packedMessage forward.next (crates.jsonToString forward.forwardedMsg)⟩ := by
  simp only [Routing.process, hForward, except_bind_ok_iff, except_pure_eq, Except.ok.injEq] at h
  obtain ⟨_, -, rfl⟩ := h
  rfl

section
variable {around : Surroundings config.crates} {text : String} {s s' : Broker} {m : Message} {metadata : UnpackMetadata}
  {forward : ParsedForward} (hUnpack : unpackInbound config session text = .ok (m, metadata))
  (hForward : tryParseForward m = some forward)
include hUnpack hForward

/-- The answer to a forward is what it carries, for its `next`. -/
theorem prepareOutgoing_forward {out : Outgoing} (h : prepareOutgoing config session around text s = .ok out s') :
    s' = s ∧ out = ⟨true, true, [(forward.next, config.crates.jsonToString forward.forwardedMsg)]⟩ := by
  simp only [prepareOutgoing, bind_ok_iff, orRaise_ok_iff, hUnpack, Except.ok.injEq] at h
  obtain ⟨_, _, ⟨rfl, rfl⟩, response, s₁, hProcess, h⟩ := h
  obtain ⟨db, hRun, rfl⟩ := (onBroker_ok_iff _ _ _ _).mp hProcess
  have hType : MessageType.fromStr m.type_ = .ok .forwardRequest := by
    rw [type_of_tryParseForward hForward]
    rfl
  obtain ⟨-, hTyped⟩ := (processMessage_ok_iff _ _ _ _ _ _ hType).mp hRun
  obtain ⟨hRouting, rfl⟩ := (orFail_ok_iff _ _ _ _).mp hTyped
  cases routingProcess_forward hForward hRouting
  simp only [packResponse, bind_ok_iff, orRaise_ok_iff, Except.ok.injEq] at h
  obtain ⟨_, _, ⟨rfl, rfl⟩, h⟩ := h
  cases h
  exact ⟨rfl, rfl⟩

/-- A forward that is unpacked is stored for its `next`, from the mediator. -/
theorem handleInbound_forward {r : InboundMessageResponse} (h : handleInbound config session around text s = .ok r s') :
    ∃ list, r = .stored list ∧
      ((∃ msgId, DatabaseHandler.storeMessage config.env (around.stored 0) session.sessionId
          (config.crates.jsonToString forward.forwardedMsg) forward.next (some config.mediatorDid) s.db =
            .ok msgId s'.db) ∨
        list.errors ≠ []) := by
  obtain ⟨out, s₁, hOut, h⟩ := (bind_ok_iff _ _ _ _ _).mp h
  obtain ⟨rfl, rfl⟩ := prepareOutgoing_forward hUnpack hForward hOut
  obtain ⟨published, hPublish⟩ := @forM_tryLiveStream_ok config true
    [(forward.next, config.crates.jsonToString forward.forwardedMsg)] s₁
  rw [bind_of_ok hPublish] at h
  simp only [storeOutgoing, if_true, List.zipIdx_singleton, List.foldlM_cons, List.foldlM_nil, bind_pure] at h
  obtain ⟨list, s₂, hStore, h⟩ := (bind_ok_iff _ _ _ _ _).mp h
  cases h
  refine ⟨list, rfl, ?_⟩
  unfold storePacked at hStore
  split at hStore
  · rename_i msgId db hRun
    cases hStore
    exact .inl ⟨msgId, hRun⟩
  · cases hStore
    exact .inr (by simp)

theorem handleInbound_forward_stored (hFresh : m.expiresTime = none) {msgId : String} {db : Db}
    (hStore : DatabaseHandler.storeMessage config.env (around.stored 0) session.sessionId
      (config.crates.jsonToString forward.forwardedMsg) forward.next (some config.mediatorDid) s.db = .ok msgId db) :
    ∃ published, handleInbound config session around text s =
      .ok (.stored ⟨[(forward.next, msgId)], []⟩) ⟨db, published⟩ := by
  have hExpiry : ∀ session, MessagePickup.validateExpiry around.clock session m = .ok () := fun session =>
    validateExpiry_ok_iff.mpr fun _ h => by rw [hFresh] at h; cases h
  have hType : MessageType.fromStr m.type_ = .ok .forwardRequest := by
    rw [type_of_tryParseForward hForward]
    rfl
  have hRouting : Routing.process around.clock session m config.crates config.debug =
      .ok (some ⟨true, true, .packedMessage forward.next (config.crates.jsonToString forward.forwardedMsg)⟩) := by
    simp only [Routing.process, hForward, hExpiry]
    rfl
  have hProcess : processMessage around.clock session m config.crates config.debug config.pickup s.db =
      .ok (some ⟨true, true, .packedMessage forward.next (config.crates.jsonToString forward.forwardedMsg)⟩) s.db :=
    (processMessage_ok_iff _ _ _ _ _ _ hType).mpr ⟨hExpiry _, (orFail_ok_iff _ _ _ _).mpr ⟨hRouting, rfl⟩⟩
  have hOut : prepareOutgoing config session around text s =
      .ok ⟨true, true, [(forward.next, config.crates.jsonToString forward.forwardedMsg)]⟩ s := by
    simp only [prepareOutgoing, bind_ok_iff, orRaise_ok_iff]
    refine ⟨_, s, ⟨hUnpack, rfl⟩, _, s, (onBroker_ok_iff _ _ _ _).mpr ⟨_, hProcess, rfl⟩, ?_⟩
    exact (bind_ok_iff _ _ _ _ _).mpr ⟨_, s, (orRaise_ok_iff _ _ _ _).mpr ⟨rfl, rfl⟩, rfl⟩
  obtain ⟨published, hPublish⟩ := @forM_tryLiveStream_ok config true
    [(forward.next, config.crates.jsonToString forward.forwardedMsg)] s
  have hList : storePacked config session (around.stored 0) {}
      (forward.next, config.crates.jsonToString forward.forwardedMsg) { s with published } =
        .ok ⟨[(forward.next, msgId)], []⟩ ⟨db, published⟩ := by
    rw [storePacked, hStore]
    rfl
  refine ⟨published, (bind_of_ok hOut).trans ((bind_of_ok hPublish).trans ?_)⟩
  simp only [storeOutgoing, if_true, List.zipIdx_singleton, List.foldlM_cons, List.foldlM_nil, bind_pure]
  exact bind_of_ok hList

end

end

/-- A message that `pack_encrypted` has forwarded, and what of it arrives at the mediator, the last of the
routing keys. -/
structure ForwardedMessage (config : Config) where
  message : Message
  senderSecrets : SecretsResolver
  draws : Message.PackDraws config.crates
  to_ : String
  from_ : Option String
  signBy : Option String
  opts : PackEncryptedOptions
  packed : String × PackEncryptedMetadata
  pack : message.packEncrypted config.crates config.dids senderSecrets draws to_ from_ signBy opts = .ok packed
  forward : opts.forward = true
  /-- The envelope inside of the forwards. -/
  envelope : String × PackEncryptedMetadata
  pack_envelope : message.packEncrypted config.crates config.dids senderSecrets draws to_ from_ signBy
    { opts with forward := false } = .ok envelope
  chain : List (String × DidCommMessagingService)
  services : resolveDidCommServicesChain config.crates config.dids to_ opts.messagingService = .ok chain
  mediatorKey : String
  last : (routingKeysOf chain).getLast? = some mediatorKey
  secrets : String → SecretsResolver
  mediator : secrets mediatorKey = config.mediatorSecrets
  unpacking : UnpackOptions
  arrived : String
  relayed : Relayed config.crates config.dids secrets unpacking packed.1 (routingKeysOf chain) arrived

/-- The keys of the route are those of well-formed documents, and each relay has the secrets for its own. -/
def ForwardedMessage.KeysHeld {config : Config} (f : ForwardedMessage config)
    (hasPrivate : {curve : Curve} → config.crates.KeyPair curve → Prop) : Prop :=
  ∀ key ∈ routingKeysOf f.chain, ∀ doc, config.dids.resolve (didOrUrl key).1 = .ok doc →
    HoldsKeys config.crates hasPrivate doc (didOrUrl key).2 (f.secrets key)

/-- An envelope is put into the inbox of the sessions of a DID. -/
def StoredFor (config : Config) (did envelope : String) (db db' : Db) : Prop :=
  ∃ text entry, parseEnvelope config.crates text = parseEnvelope config.crates envelope ∧
    (∀ sessionId, entriesAt db' (.receiveQ (Common.Session.authenticated config.env sessionId did).didHash) =
      entriesAt db (.receiveQ (Common.Session.authenticated config.env sessionId did).didHash) ++ [entry]) ∧
    entry.fields.lookup "MSG_ID" = some (config.env.digest text) ∧
    db' (.msg (config.env.digest text)) = some (.string text)

section
variable {config : Config} {hasPrivate : {curve : Curve} → config.crates.KeyPair curve → Prop}
  {reread : Int → Int → Int × Int} {limit : ℕ∞}

/-- The mediator unpacks a forward of the envelope to the recipient as it was named. -/
theorem ForwardedMessage.unpackInbound_ok (laws : Lawful config.crates hasPrivate reread limit)
    (f : ForwardedMessage config) (hKeys : f.KeysHeld hasPrivate)
    (hPlain : PlainHeaders (f.opts.forwardHeaders.getD []))
    (hOther : hasKeyAgreementSecret config.dids config.mediatorSecrets f.to_ ≠ .ok true) {session : Common.Session}
    {m : Message} {metadata : UnpackMetadata} (h : unpackInbound config session f.arrived = .ok (m, metadata)) :
    ∃ json, tryParseForward m = some ⟨m, f.to_, json⟩ ∧
      parseEnvelope config.crates (config.crates.jsonToString json) = parseEnvelope config.crates f.envelope.1 := by
  obtain ⟨envelope, jwe, id, doc, sealed, hEnvelope, hText, hDoc, hArrived, hSealed⟩ :=
    packEncrypted_relayed laws f.pack f.forward hPlain f.services f.last hKeys f.relayed
  cases f.pack_envelope.symm.trans hEnvelope
  have hHolds := hKeys f.mediatorKey (List.mem_of_getLast? f.last) doc hDoc
  rw [f.mediator] at hHolds
  have hForward := hSealed.forward_of_unpacked laws hPlain (jwe.value_mapFloats reread) hHolds hOther hArrived
    (unpackInbound_ok_iff.mp h)
  exact ⟨_, hForward, (parseEnvelope_toValue laws jwe).trans (by rw [hText])⟩

/-- What the mediator has stored of a forward is in the inbox of the recipient's DID exactly when the recipient
is named by a text with the digest of the DID, as the DID itself is and its key ids are not. -/
theorem forwarded_to_inbox_iff (laws : Lawful config.crates hasPrivate reread limit) (f : ForwardedMessage config)
    (hKeys : f.KeysHeld hasPrivate) (hPlain : PlainHeaders (f.opts.forwardHeaders.getD []))
    (hOther : hasKeyAgreementSecret config.dids config.mediatorSecrets f.to_ ≠ .ok true)
    {session : Common.Session} {around : Surroundings config.crates} {s s' : Broker}
    {list : InboundMessageList} (hRun : handleInbound config session around f.arrived s = .ok (.stored list) s')
    (hStored : list.errors = []) :
    StoredFor config (didOrUrl f.to_).1 f.envelope.1 s.db s'.db ↔
      config.env.digest f.to_ = config.env.digest (didOrUrl f.to_).1 := by
  obtain ⟨⟨m, metadata⟩, hUnpack⟩ := unpackInbound_of_handleInbound hRun
  obtain ⟨json, hForward, hParse⟩ := f.unpackInbound_ok laws hKeys hPlain hOther hUnpack
  obtain ⟨list', hList, ⟨msgId, hStore⟩ | hErrors⟩ := handleInbound_forward hUnpack hForward hRun
  · obtain ⟨-, id, hEffect⟩ := DatabaseHandler.storeMessage_effect hStore
    constructor
    · rintro ⟨text, entry, -, hEntries, -⟩
      by_contra hNe
      have hSame := (hEffect.same .receive (config.env.digest (didOrUrl f.to_).1) fun h =>
        hNe (Option.some.inj h)).entries
      have hLength := congrArg List.length (hEntries "")
      rw [List.length_append, List.length_singleton] at hLength
      exact absurd ((congrArg List.length hSame).symm.trans hLength)
        (by simp [Side.queue, Common.Session.authenticated])
    · intro hDigest
      obtain ⟨other, hGains⟩ := hEffect.gains .receive _ rfl
      exact ⟨_, _, hParse, fun _ => hDigest ▸ hGains.entries, rfl, hEffect.msg⟩
  · cases hList
    exact absurd hStored hErrors

end

/-! ## Examples -/

/-- Bob is reached through the mediator. -/
def bobService (did : String) : List Service :=
  if did = "did:example:bob" then
    [{ id := "did:example:bob#service"
       type_ := ["DIDCommMessaging"]
       serviceEndpoint := some [.map (.obj [("uri", .str "https://example.com"),
         ("routingKeys", .arr [.str "did:example:mediator"])])] }]
  else []

def sampleConfig : Config where
  toSharedData := sampleShared
  dids := everyDid bobService
  mediatorSecrets := secretsOf "did:example:mediator"
  cryptoOperationsPerMessageLimit := 1000
  toRecipientsLimit := 100
  toKeysPerRecipientLimit := 100
  debug := fun _ => ""
  debugResponse := fun _ => ""
  pickup := fun _ _ => pure none

def sampleAround : Surroundings sampleConfig.crates :=
  ⟨helloTime, fun _ => sampleDraws, fun _ => ⟨1700000000, 100000, firstUsec_lt⟩⟩

theorem pubSubRecord_size {didHash message : String} {force : Bool} (hDid : didHash.length ≤ 64)
    (hMessage : message.length ≤ 2 * 10 ^ 7) :
    (PubSubRecord.text (ideal id) ⟨didHash, message, force⟩).utf8ByteSize ≤ protoMaxBulkLen := by
  have hQuote := JsonText.length_quote_le message
  have hQuoteDid := JsonText.length_quote_le didHash
  have hDidHash : (JsonText.quote "did_hash").length = 10 := by decide
  have hMessageName : (JsonText.quote "message").length = 9 := by decide
  have hForce : (JsonText.quote "force_delivery").length = 16 := by decide
  have hWrite : (PubSubRecord.text (ideal id) ⟨didHash, message, force⟩).length ≤
      6 * didHash.length + 6 * message.length + 200 := by
    change (JsonText.write (.obj [("did_hash", .str didHash), ("message", .str message),
      ("force_delivery", .bool force)])).length ≤ _
    rw [JsonText.write, String.length_ofList]
    cases force <;>
      simp only [JsonText.chars, JsonText.moreFieldsChars, List.length_cons, List.length_append, List.cons_append,
        List.length_nil, hDidHash, hMessageName, hForce] <;>
      omega
  have hMax : protoMaxBulkLen = 536870912 := by decide
  have hSize := Text.utf8ByteSize_le (PubSubRecord.text (ideal id) ⟨didHash, message, force⟩)
  omega

def exampleMessage : Message := Message.build "1" "example/v1" (.obj [])

/-- The message, encrypted for Bob. -/
def exampleEnvelope : Jwe :=
  sampleJwe (agreeKid "did:example:bob")
    (agreeKid "did:example:bob").toUTF8 (JsonText.write exampleMessage.toJson).toUTF8

/-- What forwards it to Bob, however he is named. -/
def exampleForward (to_ : String) : Message := forwardMessage "1" to_ [] exampleEnvelope.toJson.toValue

def exampleOuter (to_ : String) : Jwe :=
  sampleJwe (agreeKid "did:example:mediator") (agreeKid "did:example:mediator").toUTF8
    (JsonText.write (exampleForward to_).toJson).toUTF8

section
variable {to_ : String} {kid : Option String} (hTo : didOrUrl to_ = ("did:example:bob", kid))
  (hKid : kid = none ∨ kid = some (agreeKid "did:example:bob")) (hDid : isDid to_ = true)
include hTo hKid

theorem anoncrypt_example :
    anoncrypt (ideal id) (everyDid bobService) ⟨.empty, .empty, .empty⟩ to_
      (JsonText.write exampleMessage.toJson).toUTF8 .xc20pEcdhEsA256kw 100 =
      .ok (JsonText.write exampleEnvelope.toJson, [agreeKid "did:example:bob"]) :=
  ideal_anoncrypt_eq id bobService (by decide) hTo hKid _ _ _ (ideal_encrypt_eq _ _)

omit hKid in
theorem services_example : resolveDidCommServicesChain (ideal id) (everyDid bobService) to_ none =
    .ok [("did:example:bob#service", ⟨"https://example.com", none, ["did:example:mediator"]⟩)] := by
  have hDoc : (everyDid bobService).resolve to_ =
      .ok (documentOf (bobService "did:example:bob") "did:example:bob") := by
    change Except.ok (documentOf (bobService (didOrUrl to_).1) (didOrUrl to_).1) = _
    rw [hTo]
  rw [resolveDidCommServicesChain, DidResolver.resolved, hDoc]
  rfl

omit hTo hKid in
variable (to_) in
theorem anoncrypt_forward_example : anoncrypt (ideal id) (everyDid bobService) ⟨.empty, .empty, .empty⟩
    "did:example:mediator" (JsonText.write (exampleForward to_).toJson).toUTF8 .xc20pEcdhEsA256kw 100 =
      .ok (JsonText.write (exampleOuter to_).toJson, [agreeKid "did:example:mediator"]) :=
  ideal_anoncrypt_eq id bobService (by decide) (didOrUrl_noFragment (by decide)) (.inl rfl) _ _ _ (ideal_encrypt_eq _ _)

omit hTo hKid in
theorem wrapInForward_example : wrapInForward (ideal id) (everyDid bobService) (anyDraws id)
    (JsonText.write exampleEnvelope.toJson) [] to_ ["did:example:mediator"] .xc20pEcdhEsA256kw 100 =
      .ok (JsonText.write (exampleOuter to_).toJson) := by
  have hForward : buildForwardMessage (ideal id) "1" (JsonText.write exampleEnvelope.toJson) to_ [] =
      .ok (JsonText.write (exampleForward to_).toJson) :=
    buildForwardMessage_ok_iff.mpr ⟨_, value_read_written (ideal_lawful id) exampleEnvelope, rfl⟩
  rw [wrapInForward_one, wrapLayers_concat_ok_iff]
  exact ⟨_, rfl, _, hForward, _, anoncrypt_forward_example to_, rfl⟩

theorem packOuter_example (forward : Bool) :
    Message.packOuter (ideal id) (everyDid bobService) (secretsOf "did:example:alice") sampleDraws.layers to_ none
      { forward } (JsonText.write exampleMessage.toJson) =
        .ok (JsonText.write exampleEnvelope.toJson, none, [agreeKid "did:example:bob"]) := by
  unfold Message.packOuter
  exact (except_bind_ok_iff _ _ _).mpr ⟨_, anoncrypt_example hTo hKid, rfl⟩

include hDid

omit hTo hKid in
theorem validate_example : exampleMessage.validatePackEncrypted to_ none none = .ok () := by
  unfold Message.validatePackEncrypted
  rw [hDid]
  rfl

theorem packEncrypted_envelope_example :
    exampleMessage.packEncrypted (ideal id) (everyDid bobService) (secretsOf "did:example:alice")
      sampleDraws to_ none none { forward := false } = .ok (JsonText.write exampleEnvelope.toJson,
        ⟨none, none, none, [agreeKid "did:example:bob"]⟩) := by
  simp only [Message.packEncrypted, except_bind_ok_iff]
  exact ⟨(), validate_example hDid, (JsonText.write exampleMessage.toJson, none), rfl, _,
    packOuter_example hTo hKid false, none, rfl, rfl⟩

theorem packEncrypted_example :
    exampleMessage.packEncrypted (ideal id) (everyDid bobService) (secretsOf "did:example:alice")
      sampleDraws to_ none none {} = .ok (JsonText.write (exampleOuter to_).toJson,
        ⟨some ⟨"did:example:bob#service", "https://example.com"⟩, none, none, [agreeKid "did:example:bob"]⟩) := by
  have hForward : wrapInForwardIfNeeded (ideal id) (everyDid bobService) sampleDraws.forwards
      (JsonText.write exampleEnvelope.toJson) to_ {} =
        .ok (some (JsonText.write (exampleOuter to_).toJson, ⟨"did:example:bob#service", "https://example.com"⟩)) := by
    simp only [wrapInForwardIfNeeded, Bool.not_true, Bool.false_eq_true, if_false, except_bind_ok_iff]
    refine ⟨_, services_example hTo, ?_⟩
    exact (except_bind_ok_iff _ _ _).mpr ⟨_, wrapInForward_example, rfl⟩
  simp only [Message.packEncrypted, except_bind_ok_iff]
  exact ⟨(), validate_example hDid, (JsonText.write exampleMessage.toJson, none), rfl, _,
    packOuter_example hTo hKid true, _, hForward, rfl⟩

/-- The message on its way to the mediator. -/
def forwardedExample : ForwardedMessage sampleConfig where
  message := exampleMessage
  senderSecrets := secretsOf "did:example:alice"
  draws := sampleDraws
  to_ := to_
  from_ := none
  signBy := none
  opts := {}
  packed := (JsonText.write (exampleOuter to_).toJson,
    ⟨some ⟨"did:example:bob#service", "https://example.com"⟩, none, none, [agreeKid "did:example:bob"]⟩)
  pack := packEncrypted_example hTo hKid hDid
  forward := rfl
  envelope := (JsonText.write exampleEnvelope.toJson, ⟨none, none, none, [agreeKid "did:example:bob"]⟩)
  pack_envelope := packEncrypted_envelope_example hTo hKid hDid
  chain := [("did:example:bob#service", ⟨"https://example.com", none, ["did:example:mediator"]⟩)]
  services := services_example hTo
  mediatorKey := "did:example:mediator"
  last := rfl
  secrets := secretsOf
  mediator := rfl
  unpacking := {}
  arrived := JsonText.write (exampleOuter to_).toJson
  relayed := .arrived

end

theorem parseEnvelope_forwardMessage (next : String) {json : Json} (hJson : value json = some json) :
    parseEnvelope (ideal id) (JsonText.write (forwardMessage "1" next [] json).toJson) =
      .ok (.message (forwardMessage "1" next [] json)) := by
  let headers : HeaderMap := { entries := [], sorted := .nil, canonical := fun p hp => by cases hp }
  have hNames : ∀ p ∈ headers.entries, p.1 ∉ Message.names := fun p hp => by cases hp
  have hFloats : value (json.mapFloats Prod.mk) = some json := by rw [mapFloats_mk, hJson]
  have hRead : Message.ofJson ((forwardMessage "1" next headers.entries json).mapFloats Prod.mk).toJson =
      some (forwardMessage "1" next [] json) :=
    (forwardMessage_read_iff Prod.mk hNames).mpr ⟨json, [], hFloats, rfl, rfl⟩
  exact parseEnvelope_message_iff.mpr
    ((fromStr_written_iff (ideal_lawful id).jsonFromStr_jsonToString _ _).mpr ⟨le_top, rfl, rfl, hRead⟩)

theorem hasKeyAgreementSecret_bob {to_ : String} {kid : Option String} (hTo : didOrUrl to_ = ("did:example:bob", kid))
    (hKid : kid = none ∨ kid = some (agreeKid "did:example:bob")) :
    hasKeyAgreementSecret (everyDid bobService) (secretsOf "did:example:mediator") to_ = .ok false := by
  have hKids : keyAgreementKids (everyDid bobService) to_ = .ok [agreeKid "did:example:bob"] := by
    unfold keyAgreementKids
    rw [hTo]
    rcases hKid with rfl | rfl <;> rfl
  rw [hasKeyAgreementSecret, hKids]
  rfl

section
variable {to_ : String} {kid : Option String} (hTo : didOrUrl to_ = ("did:example:bob", kid))
  (hKid : kid = none ∨ kid = some (agreeKid "did:example:bob"))
include hTo hKid

theorem unpackInbound_example (session : Common.Session) :
    ∃ metadata, unpackInbound sampleConfig session (JsonText.write (exampleOuter to_).toJson) =
      .ok (exampleForward to_, metadata) := by
  obtain ⟨doc, jwe, hDoc, -, hPacked, hSealed⟩ := anoncrypt_sealed (ideal_lawful id) (anoncrypt_forward_example to_)
  have hHolds := ideal_holdsKeys_of id (by decide) hDoc
  let opts : UnpackOptions := { cryptoOperationsLimitPerMessage := 1000 }
  obtain ⟨metadata, hUnpacked, -⟩ :=
    (hSealed.unpacked_iff hHolds (rfl : (opts.unwrapping false).unwrapReWrappingForward = false)
    (by decide) hPacked _).mpr ⟨parseEnvelope_forwardMessage to_ exampleEnvelope.value_toValue, rfl, none, rfl⟩
  have hSame : Message.unpacked (ideal id) (everyDid bobService) (secretsOf "did:example:mediator")
      (opts.unwrapping true)
      (JsonText.write (exampleOuter to_).toJson) = Message.unpacked (ideal id) (everyDid bobService)
        (secretsOf "did:example:mediator") (opts.unwrapping false) (JsonText.write (exampleOuter to_).toJson) := by
    refine unpacked_unfollowed fun f hFrom => ?_
    have hForward := hSealed.forward_of_fromAnoncrypt (ideal_lawful id) ⟨rfl, rfl⟩
      (exampleEnvelope.value_mapFloats _) hHolds hPacked hFrom
    simp only [tryUnwrapForwardedMessage, hForward, hasKeyAgreementSecret_bob hTo hKid]
    rfl
  exact ⟨metadata, unpackInbound_ok_iff.mpr (hSame.trans hUnpacked)⟩

end

theorem exampleEnvelope_length : (JsonText.write exampleEnvelope.toJson.toValue).length ≤ 10 ^ 6 := by
  have hPlain : (JsonText.write exampleMessage.toJson).toUTF8.size ≤ 200 := by decide +kernel
  have hKidSize : (agreeKid "did:example:bob").toUTF8.size ≤ 30 := by decide
  have hKidLength : (agreeKid "did:example:bob").length ≤ 30 := by decide
  have hSum := Nat.add_le_add (Nat.add_le_add (Nat.mul_le_mul_left 12 hPlain) (Nat.mul_le_mul_left 6000 hKidSize))
    (Nat.mul_le_mul_left 60 hKidLength)
  unfold exampleEnvelope
  exact (length_sampleJwe_le _ _ _).trans ((Nat.add_le_add_right hSum 500000).trans (by decide))

theorem storeArgs_example {to_ : String} (hSize : to_.utf8ByteSize ≤ 100) :
    ([sampleEnvironment.digest (JsonText.write exampleEnvelope.toJson.toValue)] ++ DatabaseHandler.storeArgs
      sampleEnvironment (JsonText.write exampleEnvelope.toJson.toValue) to_ (some "did:example:mediator")).all
        (·.utf8ByteSize ≤ protoMaxBulkLen) = true := by
  have hText := Text.utf8ByteSize_le (JsonText.write exampleEnvelope.toJson.toValue)
  have hShort : (JsonText.write exampleEnvelope.toJson.toValue).utf8ByteSize < 10 ^ 7 := by
    have := exampleEnvelope_length
    omega
  have hRepr := Text.utf8ByteSize_le (JsonText.write exampleEnvelope.toJson.toValue).utf8ByteSize.repr
  have hDigits := (Nat.length_repr_le_iff (by decide : 0 < 7)).mpr hShort
  have hMediator : "did:example:mediator".utf8ByteSize ≤ protoMaxBulkLen := by decide
  have hMax : protoMaxBulkLen = 536870912 := by decide
  simp only [DatabaseHandler.storeArgs, List.all_cons, List.all_nil, List.cons_append, List.nil_append,
    sampleEnvironment.digest_size, hMax, Bool.and_eq_true, decide_eq_true_eq] at hMediator ⊢
  refine ⟨by decide, ?_, ?_, ?_, by decide, hMediator, by decide, trivial⟩ <;> omega

theorem xadd_example (queue : Key) :
    accepts (xadd queue (formatTime ⟨1700000000, 100000, by decide⟩) []) (fun _ => none : Db) = true := by
  have hMs : streamMs (formatTime ⟨1700000000, 100000, by decide⟩) = .ok 1700000000100 := by decide
  exact (accepts_iff _ _).mpr ⟨_, _, (xadd_ok_iff _ _ _ _ _ _).mpr ⟨_, _, _, rfl, hMs, rfl, rfl, rfl⟩⟩

section
variable {to_ : String} {kid : Option String} (hTo : didOrUrl to_ = ("did:example:bob", kid))
  (hKid : kid = none ∨ kid = some (agreeKid "did:example:bob")) (hSize : to_.utf8ByteSize ≤ 100)
include hTo hKid hSize

theorem handleInbound_example : ∃ db published,
    handleInbound sampleConfig aliceSession sampleAround (JsonText.write (exampleOuter to_).toJson)
      ⟨fun _ => none, []⟩ =
      .ok (.stored ⟨[(to_, sampleDigest (JsonText.write exampleEnvelope.toJson.toValue))], []⟩) ⟨db, published⟩ ∧
    DatabaseHandler.storeMessage sampleEnvironment ⟨1700000000, 100000, by decide⟩ aliceSession.sessionId
      (JsonText.write exampleEnvelope.toJson.toValue) to_ (some "did:example:mediator") (fun _ => none) =
        .ok (sampleDigest (JsonText.write exampleEnvelope.toJson.toValue)) db := by
  obtain ⟨db, hStore⟩ := DatabaseHandler.storeMessage_first (storeArgs_example hSize)
    xadd_example aliceSession.sessionId
  obtain ⟨metadata, hUnpack⟩ := unpackInbound_example hTo hKid aliceSession
  unfold exampleForward at hUnpack
  generalize exampleEnvelope.toJson.toValue = json at hUnpack hStore ⊢
  generalize JsonText.write (exampleOuter to_).toJson = text at hUnpack ⊢
  obtain ⟨published, hRun⟩ := @handleInbound_forward_stored sampleConfig aliceSession sampleAround text
    ⟨fun _ => none, []⟩ _ metadata _ hUnpack (tryParseForward_forwardMessage []) rfl _ db hStore
  exact ⟨db, published, hRun, hStore⟩

end

/-- Bob as himself. -/
def forwardedToBob : ForwardedMessage sampleConfig :=
  forwardedExample (didOrUrl_noFragment (by decide) : didOrUrl "did:example:bob" = _) (.inl rfl) (by decide)

/-- Bob by his key. -/
def forwardedToKey : ForwardedMessage sampleConfig :=
  forwardedExample (didOrUrl_agreeKid (by decide) : didOrUrl (agreeKid "did:example:bob") = _) (.inr rfl) (by decide)

theorem forwarded_to_inbox_bob : ∃ s,
    handleInbound sampleConfig aliceSession sampleAround forwardedToBob.arrived ⟨fun _ => none, []⟩ =
      .ok (.stored ⟨[("did:example:bob", sampleDigest (JsonText.write exampleEnvelope.toJson.toValue))], []⟩) s ∧
    StoredFor sampleConfig "did:example:bob" forwardedToBob.envelope.1 (fun _ => none) s.db := by
  have hBob : didOrUrl "did:example:bob" = ("did:example:bob", none) := didOrUrl_noFragment (by decide)
  obtain ⟨db, published, hRun, -⟩ := handleInbound_example hBob (.inl rfl) (by decide)
  have hKeys : forwardedToBob.KeysHeld fun _ => True := fun key hKey doc hDoc => by
    cases List.mem_singleton.mp hKey
    exact ideal_holdsKeys_of id (by decide) hDoc
  have hOther : hasKeyAgreementSecret sampleConfig.dids sampleConfig.mediatorSecrets forwardedToBob.to_ ≠ .ok true := by
    rw [show hasKeyAgreementSecret sampleConfig.dids sampleConfig.mediatorSecrets forwardedToBob.to_ = .ok false from
      hasKeyAgreementSecret_bob hBob (.inl rfl)]
    decide
  have hIff := forwarded_to_inbox_iff (ideal_lawful id) forwardedToBob hKeys ⟨rfl, rfl⟩ hOther hRun rfl
  refine ⟨_, hRun, ?_⟩
  have hDid : (didOrUrl forwardedToBob.to_).1 = "did:example:bob" := congrArg Prod.fst hBob
  rw [hDid] at hIff
  exact hIff.mpr rfl

theorem forwarded_elsewhere : ∃ s,
    handleInbound sampleConfig aliceSession sampleAround forwardedToKey.arrived ⟨fun _ => none, []⟩ =
      .ok (.stored ⟨[("did:example:bob#agree", sampleDigest (JsonText.write exampleEnvelope.toJson.toValue))], []⟩) s ∧
    (didOrUrl forwardedToKey.to_).1 = "did:example:bob" ∧
    ¬ StoredFor sampleConfig "did:example:bob" forwardedToKey.envelope.1 (fun _ => none) s.db := by
  have hBob : didOrUrl (agreeKid "did:example:bob") = ("did:example:bob", some (agreeKid "did:example:bob")) :=
    didOrUrl_agreeKid (by decide)
  obtain ⟨db, published, hRun, hStore⟩ := handleInbound_example hBob (.inr rfl) (by decide)
  refine ⟨_, hRun, congrArg Prod.fst hBob, ?_⟩
  rintro ⟨text, entry, -, hEntries, -⟩
  obtain ⟨-, _, hEffect⟩ := DatabaseHandler.storeMessage_effect hStore
  have hSame := (hEffect.same .receive bobHash (by decide)).entries
  have hNone : ([] : List StreamEntry) ++ [entry] = [] := (hEntries "").symm.trans hSame
  exact absurd hNone (by simp)

end AffinidiMessaging.Mediator
