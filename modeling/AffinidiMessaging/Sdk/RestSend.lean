import AffinidiMessaging.Sdk.StatusRequest

/-! # Messages of the SDK without a WebSocket

`send_didcomm_message` posts what it is given to `/authenticate`, whatever the message is for. There the mediator takes
answers to its challenges only, so that nothing of the other protocols arrives that way.
-/

namespace AffinidiMessaging.Sdk

open Redis Fallible Serde Didcomm Mediator Transition

def liveDeliveryChangeMessage (clock : Clock) (myDid atmDid : String) (liveDelivery : Bool) : Message :=
  requestMessage clock myDid atmDid "https://didcomm.org/messagepickup/3.0/live-delivery-change"
    (.obj [("live_delivery", .bool liveDelivery)])

/-- The messages that the protocols of the SDK send, to whom and in whose name. -/
inductive ProtocolMessage (config : AtmDids) (clock : Clock) : Message → String → Option String → Prop
  | ping {toDid : String} {signed expectResponse : Bool} {m : Message} {from_ : Option String}
    (h : pingMessage config clock.newId clock.now toDid signed expectResponse = .ok (m, from_)) :
    ProtocolMessage config clock m toDid from_
  | statusRequest {myDid atmDid : String} (h : config.dids = .ok (myDid, atmDid))
    (recipientDid mediatorDid : Option String) :
    ProtocolMessage config clock (statusRequestMessage clock myDid (mediatorDid.getD atmDid) recipientDid)
      (mediatorDid.getD atmDid) (some myDid)
  | deliveryRequest {myDid atmDid : String} (h : config.dids = .ok (myDid, atmDid)) (mediatorDid : Option String)
    (limit : UInt64) :
    ProtocolMessage config clock (deliveryRequestMessage clock myDid (mediatorDid.getD atmDid) limit)
      (mediatorDid.getD atmDid) (some myDid)
  | messagesReceived {myDid atmDid : String} (h : config.dids = .ok (myDid, atmDid)) (mediatorDid : Option String)
    (ids : List String) :
    ProtocolMessage config clock (messagesReceivedMessage clock myDid (mediatorDid.getD atmDid) ids)
      (mediatorDid.getD atmDid) (some myDid)
  | liveDeliveryChange {myDid atmDid : String} (h : config.dids = .ok (myDid, atmDid)) (liveDelivery : Bool) :
    ProtocolMessage config clock (liveDeliveryChangeMessage clock myDid atmDid liveDelivery) atmDid (some myDid)

section
variable {crates : Crates} {hasPrivate : {curve : Curve} → crates.KeyPair curve → Prop}
  {reread : Int → Int → Int × Int} {limit : ℕ∞} (laws : Lawful crates hasPrivate reread limit)
include laws

theorem requestMessage_readsBack (clock : Clock) (myDid toDid type_ : String) {body : Json}
    (hValue : body.toValue = body)
    (hLiteral : body.literal = true) (hFloatless : body.floatless = true) (hDepth : body.depth ≤ 2) :
    ReadsBack crates (requestMessage clock myDid toDid type_ body) := by
  have hCanonical : (requestMessage clock myDid toDid type_ body).Canonical :=
    ⟨hValue, List.pairwise_singleton _ _, fun p hp => List.mem_singleton.mp hp ▸ rfl, fun _ h => by cases h⟩
  have hNames : (requestMessage clock myDid toDid type_ body).OwnNames := fun p hp =>
    List.mem_singleton.mp hp ▸ (by decide : "return_route" ∉ Message.names)
  have hMessage := hCanonical.ofJson_toJson hNames (fun _ h => by cases h) ⟨hLiteral, rfl, fun _ h => by cases h⟩
  have hJson : (requestMessage clock myDid toDid type_ body).toJson = .obj [("id", .str clock.newId),
      ("typ", .str plaintextTyp), ("type", .str type_), ("body", body), ("from", .str myDid), ("to", .arr [.str toDid]),
      ("return_route", .str "all"), ("created_time", u64Json clock.now),
      ("expires_time", u64Json (clock.now + 300))] := rfl
  refine .of_laws laws ?_ ?_ hMessage ⟨(Message.jwe_ofJson_toJson _).trans rfl, (Message.jws_ofJson_toJson _).trans rfl⟩
  · rw [hJson]
    simp [Json.floatless, floatlessFields, floatlessItems, hFloatless, u64Json]
  · rw [hJson]
    refine le_trans (depth_obj_le.mpr ?_ : _ ≤ 2 + 1) (by decide)
    simp [Json.depth, itemsDepth, hDepth, u64Json]

theorem ProtocolMessage.readsBack {sdk : AtmDids} {clock : Clock} {m : Message} {toDid : String} {from_ : Option String}
    (h : ProtocolMessage sdk clock m toDid from_) : ReadsBack crates m := by
  cases h with
  | ping h => exact pingMessage_readsBack laws h
  | statusRequest _ recipientDid mediatorDid => exact statusRequestMessage_readsBack laws _ _ _ _
  | deliveryRequest _ mediatorDid limit =>
    exact requestMessage_readsBack laws _ _ _ _ rfl rfl rfl (Nat.le_succ 1)
  | messagesReceived _ mediatorDid ids =>
    have hValues : toValues (ids.map Json.str) = ids.map Json.str := toValues_map Json.str ids
    refine requestMessage_readsBack laws _ _ _ _ ?_ ?_ ?_ ?_
    · change Json.obj [("message_id_list", .arr (toValues (ids.map Json.str)))] = _
      rw [hValues]
    · simp [Json.literal, literalFields, startsNumber, numberKey, literalItems_map Json.str (fun _ => rfl) ids]
    · simp [Json.floatless, floatlessFields, floatlessItems_map Json.str (fun _ => rfl) ids]
    · refine depth_obj_le.mpr fun p hp => List.mem_singleton.mp hp ▸ depth_arr_le.mpr fun j hj => ?_
      obtain ⟨id, -, rfl⟩ := List.mem_map.mp hj
      exact Nat.zero_le 0
  | liveDeliveryChange _ liveDelivery =>
    exact requestMessage_readsBack laws _ _ _ _ rfl rfl rfl (Nat.le_succ 1)

end

section
variable {sdk : AtmDids} {clock : Clock} {m : Message} {toDid : String} {from_ : Option String}

/-- What the protocols send is known to the mediator, as something that is neither an answer to a challenge nor a
forward. -/
theorem ProtocolMessage.plain (h : ProtocolMessage sdk clock m toDid from_) : m.typ = plaintextTyp ∧
    ∃ kind, MessageType.fromStr m.type_ = .ok kind ∧ kind ≠ .affinidiAuthenticate ∧ kind ≠ .forwardRequest := by
  cases h with
  | @ping _ signed _ _ _ h =>
    obtain ⟨dids, -, h⟩ := (except_bind_ok_iff _ _ _).mp h
    cases signed <;> cases h <;> exact ⟨rfl, .trustPing, rfl, nofun, nofun⟩
  | statusRequest _ recipientDid mediatorDid => exact ⟨rfl, .messagePickupStatusRequest, rfl, nofun, nofun⟩
  | deliveryRequest _ mediatorDid limit => exact ⟨rfl, .messagePickupDeliveryRequest, rfl, nofun, nofun⟩
  | messagesReceived _ mediatorDid ids => exact ⟨rfl, .messagePickupMessagesReceived, rfl, nofun, nofun⟩
  | liveDeliveryChange _ liveDelivery => exact ⟨rfl, .messagePickupLiveDeliveryChange, rfl, nofun, nofun⟩

theorem ProtocolMessage.type_ne (h : ProtocolMessage sdk clock m toDid from_) : m.type_ ≠ forwardMsgType := by
  intro hForward
  obtain ⟨-, kind, hKind, -, hOther⟩ := h.plain
  rw [hForward] at hKind
  cases hKind
  exact hOther rfl

/-- What the mediator says to a message that is no answer to a challenge. -/
def onlyAuthentication : MediatorError :=
  .sessionError "UNKNOWN" "Only accepts Affinidi Authentication protocol messages"

theorem ProtocolMessage.not_authenticate (h : ProtocolMessage sdk clock m toDid from_) :
    checkAuthenticate m = .error onlyAuthentication := by
  obtain ⟨-, kind, hKind, hOther, -⟩ := h.plain
  rw [checkAuthenticate, hKind]
  cases kind with
  | affinidiAuthenticate => exact absurd rfl hOther
  | _ => rfl

end

section
variable {config : Config} {jwt : JwtEncoding} {hasPrivate : {curve : Curve} → config.crates.KeyPair curve → Prop}
  {reread : Int → Int → Int × Int} {limit : ℕ∞} (laws : Lawful config.crates hasPrivate reread limit)
  {clientSecrets : SecretsResolver} {sdk : AtmDids} {clock : Clock} {m : Message} {toDid : String}
  {from_ : Option String}
include laws

/-- A message of the protocols that the SDK sends without a WebSocket is refused, whenever it arrives, and changes
nothing. -/
theorem rest_message_refused (hLookup : LooksUp config.crates) (hUrls : OwnUrls config.crates config.dids)
    (hOwn : OwnSecrets config.crates config.dids clientSecrets) (hMessage : ProtocolMessage sdk clock m toDid from_)
    {draws : Message.PackDraws config.crates} {packed : String × PackEncryptedMetadata}
    (hPacked : m.packEncrypted config.crates config.dids clientSecrets draws toDid from_ from_ {} = .ok packed)
    (hService : packed.2.messagingService = none)
    (hHolds : HoldsSecret config.crates hasPrivate config.dids config.mediatorSecrets packed.2.toKids) {body : Jwe}
    (hBody : (config.crates.jsonFromStr packed.1).bind Jwe.ofJson = some body) (arrived : UInt64) :
    requestOf config arrived body = .error (.handler (.error onlyAuthentication)) ∧
      ∀ s s' newSessionId now, (exchange config jwt).step s (.response body arrived newSessionId now) s' → s' = s := by
  have hText : inboundText config body = packed.1 := jwe_of_text laws (packEncrypted_text hPacked hService) hBody
  let opts : UnpackOptions := {}
  obtain ⟨outer, layers, prior, hOuter, hOpens, -⟩ := packEncrypted_opens laws hLookup hUrls hOwn hMessage.type_ne
    hMessage.plain.1 (hMessage.readsBack laws) rfl
      (by decide : 2 < opts.cryptoOperationsLimitPerMessage) hPacked hService
    hHolds
  obtain ⟨unpacked, hRun, -⟩ := (unpackString_ok_iff config.crates config.dids config.mediatorSecrets opts
    (inboundText config body) m _ _).mpr ⟨layers, prior, ⟨outer, hText ▸ hOuter, hOpens⟩, rfl, rfl⟩
  have hUnpack := unpackResponse_ok_iff.mpr ⟨unpacked, hRun⟩
  have hRefused : requestOf config arrived body = .error (.handler (.error onlyAuthentication)) := by
    rw [requestOf, hUnpack]
    simp only [readRequest, hMessage.not_authenticate, bind, Except.bind]
  refine ⟨hRefused, fun s s' newSessionId now hStep => ?_⟩
  cases hStep with
  | response _ _ request _ _ hRequest => cases hRefused.symm.trans hRequest
  | refused _ _ _ _ _ _ => rfl

end

/-- A ping of Bob's that is posted is lost. -/
theorem rest_message_refused_bob : ∃ packed body,
    bobPing.packEncrypted (ideal id) (everyDid fun _ => [])
      (secretsOf "did:example:bob") sampleDraws "did:example:mediator"
        (some "did:example:bob") (some "did:example:bob") {} = .ok packed ∧
      ((ideal id).jsonFromStr packed.1).bind Jwe.ofJson = some body ∧
      requestOf quietConfig 0 body = .error (.handler (.error onlyAuthentication)) ∧
      (exchange quietConfig none).step .start (.response body 0 "session-2" 0) .start := by
  have hBob : '#' ∉ "did:example:bob".toList := by decide
  have hMediator : '#' ∉ "did:example:mediator".toList := by decide
  obtain ⟨packed, hPacked, hService, hKids⟩ := packEncrypted_everyDid hBob hMediator (m := bobPing) rfl rfl (by decide)
    (by decide) rfl sampleDraws
  have hHolds : HoldsSecret (ideal id) (fun _ => True) (everyDid fun _ => []) (secretsOf "did:example:mediator")
      packed.2.toKids := by
    rw [hKids]
    exact everyDid_holdsSecret id _ hMediator
  have hUrls : OwnUrls quietConfig.crates quietConfig.dids := everyDid_ownUrls id fun _ => []
  have hOwn : OwnSecrets quietConfig.crates quietConfig.dids (secretsOf "did:example:bob") :=
    everyDid_ownSecrets id (fun _ => []) hBob
  have hPing : pingMessage bobSdk "1" 1700000000 "did:example:mediator" true true =
    .ok (bobPing, some "did:example:bob") := rfl
  have hMessage : ProtocolMessage bobSdk ⟨1700000000, "1", by decide⟩ bobPing "did:example:mediator"
      (some "did:example:bob") := .ping hPing
  obtain ⟨jwe, hText⟩ := packEncrypted_text hPacked hService
  have hBody : ((ideal id).jsonFromStr packed.1).bind Jwe.ofJson = some jwe := by
    rw [hText, ideal_read, Option.bind_some, Jwe.ofJson_toJson]
  have hAll : requestOf quietConfig 0 jwe = .error (.handler (.error onlyAuthentication)) ∧ ∀ s s' newSessionId now,
      (exchange quietConfig none).step s (.response jwe 0 newSessionId now) s' → s' = s :=
    rest_message_refused (ideal_lawful id) (ideal_looksUp id) hUrls hOwn hMessage hPacked hService hHolds hBody 0
  exact ⟨packed, jwe, hPacked, hBody, hAll.1, .refused _ _ _ _ _ hAll.1⟩

end AffinidiMessaging.Sdk
