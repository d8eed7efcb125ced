import AffinidiMessaging.Sdk.MessagePickup
import AffinidiMessaging.Sdk.TrustPing

/-! # Status requests of the SDK

`send_status_request` over a WebSocket: the request is packed for the mediator, and the reply is read as a
status. Neither the packing nor the JSON of the status loses anything.
-/

namespace AffinidiMessaging.Sdk

open Redis Fallible Serde Didcomm Mediator Transition

def statusRequestMessage (clock : Clock) (myDid toDid : String) (recipientDid : Option String) : Message :=
  requestMessage clock myDid toDid "https://didcomm.org/messagepickup/3.0/status-request"
    (match recipientDid with
    | some recipientDid => .obj [("recipient_did", .str recipientDid)]
    | none => .obj [])

/-- What `send_status_request` sends. -/
def sendStatusRequest (crates : Crates) (dids : DidResolver) (secrets : SecretsResolver) (display : Fault → String)
    (config : AtmDids) (clock : Clock) (draws : Message.PackDraws crates) (recipientDid mediatorDid : Option String) :
    Except SendError (String × PackEncryptedMetadata) := do
  let (myDid, atmDid) ← config.dids
  let toDid := mediatorDid.getD atmDid
  let msg := statusRequestMessage clock myDid toDid recipientDid
  match msg.packEncrypted crates dids secrets draws toDid (some myDid) (some myDid) {} with
  | .ok packed => return packed
  | .error e => throw (.msgSendError ("Error packing message: " ++ display e))

def u32 (j : Json) : Option UInt32 :=
  (u64 j).bind fun n => if n < 2 ^ 32 then some n.toUInt32 else none

def statusOfJson (j : Json) : Option MessagePickupStatusReply := do
  let get ← record ["recipient_did", "message_count", "longest_waited_seconds", "newest_received_time",
    "oldest_received_time", "total_bytes", "live_delivery"] j
  let recipientDid ← required Json.asStr (get "recipient_did")
  let messageCount ← required u32 (get "message_count")
  let longestWaitedSeconds ← optional u64 (get "longest_waited_seconds")
  let newestReceivedTime ← optional u64 (get "newest_received_time")
  let oldestReceivedTime ← optional u64 (get "oldest_received_time")
  let totalBytes ← required u64 (get "total_bytes")
  let liveDelivery ← required Ping.readBool (get "live_delivery")
  return { recipientDid, messageCount, longestWaitedSeconds, newestReceivedTime, oldestReceivedTime, totalBytes,
           liveDelivery }

/-- `_parse_status_response` -/
def parseStatusResponse (message : Message) : Option MessagePickupStatusReply :=
  statusOfJson message.body

theorem u32_json (n : UInt32) : u32 (u64Json n.toUInt64) = some n := by
  have hSmall : n.toUInt64 < 2 ^ 32 := by
    rw [UInt64.lt_iff_toNat_lt]
    exact n.toNat_lt
  simp only [u32, u64, u64Json, Option.bind_some, if_pos hSmall, UInt32.toUInt32_toUInt64]

theorem statusOfJson_toJson (status : MessagePickupStatusReply) : statusOfJson status.toJson = some status := by
  obtain ⟨did, count, longest, newest, oldest, bytes, live⟩ := status
  have hCount := u32_json count
  have hRest := congrArg (fun o : Option UInt32 =>
    o.bind fun count => some (MessagePickupStatusReply.mk did count longest newest oldest bytes live)) hCount
  cases longest <;> cases newest <;> cases oldest <;> exact hRest

section
variable {crates : Crates} {hasPrivate : {curve : Curve} → crates.KeyPair curve → Prop}
  {reread : Int → Int → Int × Int} {limit : ℕ∞} (laws : Lawful crates hasPrivate reread limit)
include laws

theorem statusRequestMessage_readsBack (clock : Clock) (myDid toDid : String) (recipientDid : Option String) :
    ReadsBack crates (statusRequestMessage clock myDid toDid recipientDid) := by
  have hCanonical : (statusRequestMessage clock myDid toDid recipientDid).Canonical := by
    cases recipientDid <;>
      exact ⟨rfl, List.pairwise_singleton _ _, fun p hp => List.mem_singleton.mp hp ▸ rfl, fun _ h => by cases h⟩
  have hNames : (statusRequestMessage clock myDid toDid recipientDid).OwnNames := fun p hp =>
    List.mem_singleton.mp hp ▸ (by decide : "return_route" ∉ Message.names)
  have hMessage := hCanonical.ofJson_toJson hNames (fun _ h => by cases h)
    ⟨by cases recipientDid <;> rfl, rfl, fun _ h => by cases h⟩
  refine .of_laws laws ?_ ?_ hMessage ⟨(Message.jwe_ofJson_toJson _).trans rfl, (Message.jws_ofJson_toJson _).trans rfl⟩
  · cases recipientDid <;> rfl
  · cases recipientDid <;> exact Nat.le_add_left 2 125

theorem statusMessage_readsBack (shared : SharedData) (clock : Clock) (session : Common.Session) (thid : String)
    (status : MessagePickupStatusReply) :
    ReadsBack crates (MessagePickup.statusMessage shared clock session thid status) := by
  obtain ⟨did, count, longest, newest, oldest, bytes, live⟩ := status
  cases longest <;> cases newest <;> cases oldest <;>
    exact .of_laws laws rfl (Nat.le_add_left 2 125) (Message.ofJson_toJson rfl rfl fun _ h => by cases h)
      (Message.envelope_toJson rfl)

end

section
variable {Tx : Type} {config : Config} {socket : OpenSocket Tx} {truncate : String → Int}
  {around : Surroundings config.crates} {s s' : Broker}

/-- The handler of the request answers with the status of the session's DID, and leaves the database as it was. -/
theorem processMessage_statusRequest (hdb : Shaped s.db) {sent : Clock} {myDid toDid : String}
    {recipientDid : Option String}
    {debug : Message → String} {r : ProcessMessageResponse} {db : Db}
    (h : processMessage around.clock (socket.session config.env) (statusRequestMessage sent myDid toDid recipientDid)
      config.crates debug (socket.mediator config truncate around.clock).pickup s.db = .ok (some r) db) :
    db = s.db ∧ r = ⟨false, false, .message (MessagePickup.statusMessage config.toSharedData around.clock
      (socket.session config.env) sent.newId (MessagePickup.readStatus around.clock (socket.session config.env) none
        (statusResponse config.env.strtod truncate s.db (config.env.digest socket.did))))⟩ := by
  have hType : MessageType.fromStr (statusRequestMessage sent myDid toDid recipientDid).type_ =
      .ok .messagePickupStatusRequest := rfl
  obtain ⟨-, hPickup⟩ := (processMessage_ok_iff _ _ _ _ _ _ hType).mp h
  have hHandled : PickupProtocol.pickup config.toSharedData truncate around.clock (socket.session config.env)
      (socket.task.map fun _ => true) .messagePickupStatusRequest
        (statusRequestMessage sent myDid toDid recipientDid) s.db = .ok (some r) db := hPickup
  have hAsked : MessagePickup.statusRequest config.toSharedData truncate around.clock (socket.session config.env)
      (statusRequestMessage sent myDid toDid recipientDid) s.db = .ok (some r) db := by
    simp only [PickupProtocol.pickup, MessageType.pickupRequest, PickupProtocol.handle,
      PickupProtocol.statusRequest_redis, PickupProtocol.onDb] at hHandled
    generalize MessagePickup.statusRequest config.toSharedData truncate around.clock (socket.session config.env)
      (statusRequestMessage sent myDid toDid recipientDid) s.db = result at hHandled ⊢
    cases result with
    | ok response db' =>
      cases hHandled
      rfl
    | error e db' => cases hHandled
  simp only [MessagePickup.statusRequest, bind_ok_iff, orFail_ok_iff] at hAsked
  obtain ⟨u, db₁, hValid, recipient, db₂, ⟨hRecipient, hSame⟩, hReply⟩ := hAsked
  have hUnchanged : db₁ = s.db := by
    cases hCheck : MessagePickup.validateMsg config.toSharedData around.clock (socket.session config.env)
        (statusRequestMessage sent myDid toDid recipientDid) with
    | ok u =>
      rw [hCheck] at hValid
      cases hValid
      rfl
    | error e =>
      rw [hCheck] at hValid
      cases hValid
  obtain rfl : recipient = config.env.digest socket.did := by
    cases recipientDid with
    | none => exact (Except.ok.inj hRecipient).symm
    | some asked =>
      have hRead : MessagePickup.readStatusRequest (statusRequestMessage sent myDid toDid (some asked)).body =
          some (some asked) := rfl
      simp only [MessagePickup.statusRecipient, hRead] at hRecipient
      split at hRecipient
      · cases hRecipient
      · rename_i hOwn
        rw [not_not.mp hOwn] at hRecipient
        exact (Except.ok.inj hRecipient).symm
  rw [hSame, hUnchanged] at hReply
  have hRun := @MessagePickup.generateStatusReply_run config.toSharedData truncate around.clock
    (socket.session config.env) s.db socket.did hdb sent.newId false none
  cases (PickupProtocol.onDatabase_of_ok hRun).symm.trans hReply
  exact ⟨rfl, rfl⟩

end

section
variable {Tx : Type} {config : Config} {hasPrivate : {curve : Curve} → config.crates.KeyPair curve → Prop}
  {reread : Int → Int → Int × Int} {limit : ℕ∞} (laws : Lawful config.crates hasPrivate reread limit)
  {socket : OpenSocket Tx} {truncate : String → Int}
include laws

/-- What the SDK reads of a reply to its status request is the status that the database has for the DID of the socket,
signed by the mediator; the request changes nothing. -/
theorem status_request_answered (hLookup : LooksUp config.crates) (hUrls : OwnUrls config.crates config.dids)
    {clientSecrets : SecretsResolver} (hOwn : OwnSecrets config.crates config.dids clientSecrets)
    (hOwnMediator : OwnSecrets config.crates config.dids config.mediatorSecrets)
    (hLimit : 2 < config.cryptoOperationsPerMessageLimit) {display : Fault → String} {sdk : AtmDids} {sent : Clock}
    {draws : Message.PackDraws config.crates} {recipientDid mediatorDid : Option String}
    {packed : String × PackEncryptedMetadata}
    (hRequest : sendStatusRequest config.crates config.dids clientSecrets display sdk sent draws
      recipientDid mediatorDid = .ok packed) (hService : packed.2.messagingService = none)
    (hHolds : HoldsSecret config.crates hasPrivate config.dids config.mediatorSecrets packed.2.toKids)
    (hRoute : ∀ chain, resolveDidCommServicesChain config.crates config.dids socket.did none = .ok chain →
      routingKeysOf chain = [])
    {around : Surroundings config.crates} {s s' : Broker} (hReachable : (mediatorCalls config.env).Reachable s.db)
    (hMine : ∀ m packed, Message.packEncrypted config.crates config.dids config.mediatorSecrets m
      (around.draws socket.did)
      socket.did (some config.mediatorDid) (some config.mediatorDid) { toKidsLimit := config.toKeysPerRecipientLimit } =
        .ok packed → HoldsSecret config.crates hasPrivate config.dids clientSecrets packed.2.toKids) {reply : String}
    (hRun : handleInbound (socket.mediator config truncate around.clock) (socket.session config.env) around packed.1 s =
      .ok (.ephemeral reply) s') :
    s'.db = s.db ∧ ∃ message metadata unpacked,
      Message.unpackString config.crates config.dids clientSecrets {} reply (.fresh config.crates) =
        .ok (message, metadata) unpacked ∧
      metadata.authenticated = true ∧ metadata.nonRepudiation = true ∧ message.from_ = some config.mediatorDid ∧
      message.thid = some sent.newId ∧
      parseStatusResponse message = some (MessagePickup.readStatus around.clock (socket.session config.env) none
        (statusResponse config.env.strtod truncate s.db (config.env.digest socket.did))) := by
  simp only [sendStatusRequest, except_bind_ok_iff] at hRequest
  obtain ⟨⟨myDid, atmDid⟩, hDids, hRequest⟩ := hRequest
  split at hRequest
  · rename_i packed' hPacked
    cases hRequest
    obtain ⟨said, hUnpack, hEncrypted⟩ := unpackInbound_packed laws hLookup hUrls hOwn hLimit
      (by decide : "https://didcomm.org/messagepickup/3.0/status-request" ≠ forwardMsgType) rfl
      (statusRequestMessage_readsBack laws _ _ _ _) hPacked hService hHolds (socket.session config.env)
    obtain ⟨m, metadata, r, db, toDid, rest, hUnpacked, hProcess, -, hPack, hStream⟩ := handleInbound_ephemeral hRun
    have hOpened : Message.unpacked config.crates config.dids config.mediatorSecrets
        { cryptoOperationsLimitPerMessage := config.cryptoOperationsPerMessageLimit } packed.1 = some (m, metadata) :=
      (@unpackInbound_ok_iff (socket.mediator config truncate around.clock) _ _ _).mp hUnpacked
    obtain ⟨hRequest, -⟩ := Prod.mk.inj (Option.some.inj ((unpackInbound_ok_iff.mp hUnpack).symm.trans hOpened))
    have hShaped := (sound_of_mediatorCalls hReachable).1.shaped
    rw [← hRequest] at hProcess
    obtain ⟨rfl, rfl⟩ := processMessage_statusRequest hShaped hProcess
    obtain ⟨-, -, p, hReply, hPackets⟩ := (packResponse_one_iff rfl).mp hPack
    obtain ⟨hPair, rfl⟩ := List.cons.inj hPackets
    obtain ⟨rfl, rfl⟩ := Prod.mk.inj hPair
    obtain ⟨published, hPublished⟩ := @forM_tryLiveStream_ok (socket.mediator config truncate around.clock) false
      [(socket.did, p.1)] s
    have hStored : s'.db = s.db := by
      cases hPublished.symm.trans hStream
      rfl
    obtain ⟨metadata', unpacked, hRead, -, hAuthenticated, hSigned⟩ := response_read laws hLookup hUrls hOwnMediator
      (by decide : "https://didcomm.org/messagepickup/3.0/status" ≠ forwardMsgType) rfl
      (statusMessage_readsBack laws config.toSharedData _ _ _ _) hReply (messagingService_unrouted hReply hRoute)
      (hMine _ _ hReply)
    exact ⟨hStored, _, metadata', unpacked, hRead, hAuthenticated, hSigned, rfl, rfl, statusOfJson_toJson _⟩
  · cases hRequest

end

/-- Alice asks ten seconds before the mediator reads it. -/
def aliceAsks : Clock := ⟨1700000000, "1", by decide⟩

def aliceSdk : AtmDids := ⟨some "did:example:alice", some "did:example:mediator"⟩

theorem processMessage_aliceAsks {db : Db} (hdb : Shaped db) :
    processMessage helloTime aliceSession
      (statusRequestMessage aliceAsks "did:example:alice" "did:example:mediator" none)
      socketConfig.crates socketConfig.debug (aliceSocket.mediator socketConfig (fun _ => 0) helloTime).pickup db =
        .ok (some ⟨false, false, .message (aliceStatus db)⟩) db := by
  refine (processMessage_ok_iff _ _ _ _ _ _ rfl).mpr ⟨by decide, ?_⟩
  have hValid : MessagePickup.validateMsg sampleShared helloTime aliceSession
      (requestMessage aliceAsks "did:example:alice"
      "did:example:mediator" "https://didcomm.org/messagepickup/3.0/status-request" (.obj [])) = .ok () :=
    validateMsg_requestMessage (by decide) _ _ _
  have hStatus : MessagePickup.statusRequest sampleShared (fun _ => 0) helloTime aliceSession
      (statusRequestMessage aliceAsks "did:example:alice" "did:example:mediator" none) db =
        .ok (some ⟨false, false, .message (aliceStatus db)⟩) db := by
    have hReply := @MessagePickup.generateStatusReply_run sampleShared (fun _ => 0) helloTime aliceSession db
      "did:example:alice" hdb "1" false none
    rw [MessagePickup.statusRequest, statusRequestMessage, hValid]
    exact (bind_of_ok rfl).trans ((bind_of_ok rfl).trans (PickupProtocol.onDatabase_of_ok hReply))
  have hHandled := (PickupProtocol.statusRequest_redis (⟨db, []⟩ : PickupState Db Unit)).trans
    (PickupProtocol.onDb_of_ok hStatus)
  exact PickupProtocol.pickup_of_ok
    (rfl : MessageType.messagePickupStatusRequest.pickupRequest = some .statusRequest) hHandled

/-- Alice reads the status of an empty inbox. -/
theorem status_request_answered_alice : ∃ packed reply s message metadata unpacked,
    sendStatusRequest (ideal id) (everyDid fun _ => []) (secretsOf "did:example:alice") (fun _ => "") aliceSdk aliceAsks
        sampleDraws none none = .ok packed ∧
      handleInbound (aliceSocket.mediator socketConfig (fun _ => 0) helloTime) (aliceSocket.session sampleEnvironment)
        socketAround packed.1 ⟨fun _ => none, []⟩ = .ok (.ephemeral reply) s ∧
      Message.unpackString (ideal id) (everyDid fun _ => []) (secretsOf "did:example:alice") {} reply (.fresh _) =
        .ok (message, metadata) unpacked ∧
      (parseStatusResponse message).map MessagePickupStatusReply.messageCount = some 0 := by
  have hAlice : '#' ∉ "did:example:alice".toList := by decide
  have hMediator : '#' ∉ "did:example:mediator".toList := by decide
  obtain ⟨packed, hPacked, hService, hKids⟩ := packEncrypted_everyDid hAlice hMediator
    (m := statusRequestMessage aliceAsks "did:example:alice" "did:example:mediator" none) rfl rfl (by decide)
    (by decide) rfl sampleDraws
  have hRequest : sendStatusRequest (ideal id) (everyDid fun _ => []) (secretsOf "did:example:alice")
      (fun _ => "") aliceSdk aliceAsks sampleDraws none none = .ok packed := by
    simp only [sendStatusRequest, except_bind_ok_iff]
    exact ⟨_, rfl, by simp only [Option.getD_none, hPacked]; rfl⟩
  have hUrls : OwnUrls socketConfig.crates socketConfig.dids := everyDid_ownUrls id fun _ => []
  have hOwn : OwnSecrets socketConfig.crates socketConfig.dids (secretsOf "did:example:alice") :=
    everyDid_ownSecrets id (fun _ => []) hAlice
  have hOwnMediator : OwnSecrets socketConfig.crates socketConfig.dids socketConfig.mediatorSecrets :=
    everyDid_ownSecrets id (fun _ => []) hMediator
  have hLimit : 2 < socketConfig.cryptoOperationsPerMessageLimit := by decide
  have hHolds : HoldsSecret (ideal id) (fun _ => True) (everyDid fun _ => []) (secretsOf "did:example:mediator")
      packed.2.toKids := by
    rw [hKids]
    exact everyDid_holdsSecret id _ hMediator
  have hRoute : ∀ chain, resolveDidCommServicesChain socketConfig.crates socketConfig.dids aliceSocket.did
      none = .ok chain → routingKeysOf chain = [] := by
    intro chain hChain
    cases (everyDid_noChain hAlice).symm.trans hChain
    rfl
  have hMine : ∀ m packed, Message.packEncrypted socketConfig.crates socketConfig.dids socketConfig.mediatorSecrets m
      (socketAround.draws aliceSocket.did) aliceSocket.did (some socketConfig.mediatorDid)
      (some socketConfig.mediatorDid)
        { toKidsLimit := socketConfig.toKeysPerRecipientLimit } = .ok packed →
        HoldsSecret (ideal id) (fun _ => True) (everyDid fun _ => [])
          (secretsOf "did:example:alice") packed.2.toKids := by
    intro m p hPacked
    rw [(packEncrypted_everyDid_ok hMediator hAlice hPacked).1]
    exact everyDid_holdsSecret id _ hAlice
  have hReachable : (mediatorCalls socketConfig.env).Reachable (Broker.mk (fun _ => none) []).db := .init rfl
  obtain ⟨metadata, hUnpack, hEncrypted⟩ := unpackInbound_packed (ideal_lawful id) (ideal_looksUp id) hUrls hOwn hLimit
    (by decide : "https://didcomm.org/messagepickup/3.0/status-request" ≠ forwardMsgType) rfl
    (statusRequestMessage_readsBack (ideal_lawful id) _ _ _ _) hPacked hService hHolds aliceSession
  have hRead := unpackInbound_ok_iff.mp hUnpack
  have hOpened : unpackInbound (aliceSocket.mediator socketConfig (fun _ => 0) helloTime) aliceSession packed.1 =
      .ok (statusRequestMessage aliceAsks "did:example:alice" "did:example:mediator" none, metadata) :=
    unpackInbound_ok_iff.mpr hRead
  obtain ⟨status, hStatus, -⟩ := packEncrypted_everyDid hMediator hAlice rfl rfl (by decide) (by decide)
    (packPlaintext_aliceStatus fun _ => none) sampleDraws
  have hPack : packResponse socketConfig aliceSession socketAround.draws metadata
      (.message (aliceStatus fun _ => none)) =
      .ok [("did:example:alice", status.1)] :=
        (packResponse_one_iff rfl).mpr ⟨by decide, hEncrypted, status, hStatus, rfl⟩
  obtain ⟨s, hRun⟩ := @handleInbound_of_ephemeral
    (aliceSocket.mediator socketConfig (fun _ => 0) helloTime) aliceSession
    socketAround packed.1 status.1 ⟨fun _ => none, []⟩ _ metadata _ (fun _ => none) "did:example:alice" hOpened
    (processMessage_aliceAsks (sound_of_mediatorCalls hReachable).1.shaped) rfl hPack
  obtain ⟨-, message, said, unpacked, hRead, -, -, -, -, hParsed⟩ := status_request_answered (ideal_lawful id)
    (ideal_looksUp id) hUrls hOwn hOwnMediator hLimit hRequest hService hHolds hRoute hReachable hMine hRun
  exact ⟨packed, _, s, message, said, unpacked, hRequest, hRun, hRead, by rw [hParsed]; rfl⟩

end AffinidiMessaging.Sdk
