import AffinidiMessaging.Didcomm.PackUnpack
import AffinidiMessaging.Mediator.Availability
import AffinidiMessaging.Mediator.ForwardedInbox

/-! # From a sender to the recipient

A message that `pack_encrypted` forwards through the mediator is stored there, stays in the inbox of the
recipient whatever others do, and what the recipient reads of it is unpacked to the message.
-/

namespace AffinidiMessaging.Mediator

open Redis Fallible Serde Didcomm Transition

/-- Calls of others leave a sound database and the message in it. -/
theorem Holds.path {env : Environment} {db db' : Db} {h a body : String} {sender : Option String}
    (hHolds : Holds db h a body sender) (hdb : Sound db ∧ Digested db)
    (hPath : (sparingCalls env h a body sender).Path db db') :
    (Sound db' ∧ Digested db') ∧ Holds db' h a body sender := by
  refine hPath.keeps (J := fun s => (Sound s ∧ Digested s) ∧ Holds s h a body sender) ⟨hdb, hHolds⟩ ?_
  rintro s call s' ⟨⟨hs, hDigests⟩, hHolds⟩ ⟨hSpares, rfl⟩
  have hOutcome := call.outcome env hs hDigests
  exact ⟨⟨hOutcome.sound, hOutcome.digested⟩, DatabaseCall.holds env hs hDigests hHolds hSpares⟩

theorem Holds.available {env : Environment} {db : Db} {h a body : String} {sender : Option String}
    (hHolds : Holds db h a body sender) (hdb : Sound db ∧ Digested db) : Available env db h a body := by
  obtain ⟨fields, hMeta, hTo⟩ := field_eq_some_iff.mp hHolds.receiver
  exact {
    get := DatabaseHandler.getMessage_ok env hdb.1 hHolds.msg hMeta hTo
    fetch := fun sessionId options hStart hLimit hSize =>
      DatabaseHandler.fetchMessages_ok env hdb.1 hdb.2 hHolds.msg hMeta hTo sessionId hStart hLimit hSize
    delete := DatabaseHandler.deleteMessage_ok env hdb.1 hdb.2 hMeta hTo }

theorem DatabaseHandler.storeMessage_holds {env : Environment} {db db' : Db} {time : ServerTime}
    {sessionId message toDid hash : String} {fromDid : Option String}
    (h : storeMessage env time sessionId message toDid fromDid db = .ok hash db') :
    Holds db' (env.digest message) (env.digest toDid) message (field db' (.msgMeta (env.digest message)) "FROM") := by
  obtain ⟨-, id, hStored⟩ := storeMessage_effect h
  obtain ⟨old, -, hNew⟩ := hStored.metadata
  refine ⟨hStored.msg, ?_, rfl⟩
  rw [field, hNew]
  exact (lookup_metadataFields _ _ _ _ id .receive old).1

theorem didOrUrl_of_noKid {to_ : String} (h : (didOrUrl to_).2 = none) : (didOrUrl to_).1 = to_ := by
  unfold didOrUrl at h ⊢
  split
  · rename_i hSplit
    rw [hSplit] at h
    cases h
  · rfl

section
variable {config : Config} {hasPrivate : {curve : Curve} → config.crates.KeyPair curve → Prop}
  {reread : Int → Int → Int × Int} {limit : ℕ∞} (laws : Lawful config.crates hasPrivate reread limit)
  (f : ForwardedMessage config)
include laws

/-- A text that is parsed as the envelope is unpacked to the message. -/
theorem ForwardedMessage.unpacks (hLookup : LooksUp config.crates) (hUrls : OwnUrls config.crates config.dids)
    (hOwn : OwnSecrets config.crates config.dids f.senderSecrets) (hType : f.message.type_ ≠ forwardMsgType)
    (hTyp : f.message.typ = plaintextTyp) (hRead : ReadsBack config.crates f.message) {secrets : SecretsResolver}
    (hHolds : HoldsSecret config.crates hasPrivate config.dids secrets f.envelope.2.toKids) {text : String}
    (hText : parseEnvelope config.crates text = parseEnvelope config.crates f.envelope.1) :
    ∃ metadata unpacked, Message.unpackString config.crates config.dids secrets {} text (.fresh config.crates) =
        .ok (f.message, metadata) unpacked ∧ Agrees f.from_ f.signBy f.opts f.envelope.2 metadata := by
  have hService : f.envelope.2.messagingService = none := by
    have hPack := f.pack_envelope
    simp only [Message.packEncrypted, except_bind_ok_iff, wrapInForwardIfNeeded, Bool.not_false, if_true] at hPack
    obtain ⟨-, -, _, -, _, -, _, hNone, hEnvelope⟩ := hPack
    cases hNone
    exact congrArg (fun e => e.2.messagingService) (Except.ok.inj hEnvelope).symm
  let opts : UnpackOptions := {}
  obtain ⟨outer, layers, prior, hOuter, hOpens, hAgrees⟩ := packEncrypted_opens laws hLookup hUrls hOwn hType hTyp hRead
    rfl (by decide : 2 < opts.cryptoOperationsLimitPerMessage) f.pack_envelope hService hHolds
  obtain ⟨unpacked, hRun, -⟩ := (unpackString_ok_iff config.crates config.dids secrets opts text f.message _ _).mpr
    ⟨layers, prior, ⟨outer, hText.trans hOuter, hOpens⟩, rfl, rfl⟩
  exact ⟨_, unpacked, hRun, ⟨hAgrees.encrypted, hAgrees.toKids, hAgrees.fromKid, hAgrees.signByKid,
    hAgrees.authenticated, hAgrees.nonRepudiation, hAgrees.anonymous⟩⟩

/-- What is forwarded to a DID is in the inbox of the DID as long as nobody stores its digest for somebody else,
and is unpacked there to the message. -/
theorem forwarded_message_read (hLookup : LooksUp config.crates) (hUrls : OwnUrls config.crates config.dids)
    (hOwn : OwnSecrets config.crates config.dids f.senderSecrets) (hType : f.message.type_ ≠ forwardMsgType)
    (hTyp : f.message.typ = plaintextTyp) (hRead : ReadsBack config.crates f.message) {secrets : SecretsResolver}
    (hHolds : HoldsSecret config.crates hasPrivate config.dids secrets f.envelope.2.toKids)
    (hTo : (didOrUrl f.to_).2 = none) (hKeys : f.KeysHeld hasPrivate)
    (hPlain : PlainHeaders (f.opts.forwardHeaders.getD []))
    (hOther : hasKeyAgreementSecret config.dids config.mediatorSecrets f.to_ ≠ .ok true)
    (hWritten : ∀ j, config.crates.jsonToString j ≠ "") {session : Common.Session} {around : Surroundings config.crates}
    {s s' : Broker} (hReachable : (databaseCalls config.env).Reachable s.db) {list : InboundMessageList}
    (hRun : handleInbound config session around f.arrived s = .ok (.stored list) s') (hStored : list.errors = []) :
    ∃ text, (∃ metadata unpacked,
      Message.unpackString config.crates config.dids secrets {} text (.fresh config.crates) =
          .ok (f.message, metadata) unpacked ∧ Agrees f.from_ f.signBy f.opts f.envelope.2 metadata) ∧
      ∀ db, (sparingCalls config.env (config.env.digest text) (config.env.digest f.to_) text
          (field s'.db (.msgMeta (config.env.digest text)) "FROM")).Path s'.db db →
        ∀ sessionId, Available config.env db (config.env.digest text)
          (Common.Session.authenticated config.env sessionId (didOrUrl f.to_).1).didHash text := by
  obtain ⟨⟨m, metadata⟩, hUnpack⟩ := unpackInbound_of_handleInbound hRun
  obtain ⟨json, hForward, hParse⟩ := f.unpackInbound_ok laws hKeys hPlain hOther hUnpack
  obtain ⟨list', hList, ⟨msgId, hStore⟩ | hErrors⟩ := handleInbound_forward hUnpack hForward hRun
  · refine ⟨_, f.unpacks laws hLookup hUrls hOwn hType hTyp hRead hHolds hParse, fun db hPath sessionId => ?_⟩
    have hAfter : (databaseCalls config.env).Reachable s'.db :=
      hReachable.step (l := .storeMessage (around.stored 0) session.sessionId ⟨_, hWritten json⟩ f.to_
        (some config.mediatorDid)) (stateAfter_of_ok hStore).symm
    obtain ⟨hdb, hHolds'⟩ := (DatabaseHandler.storeMessage_holds hStore).path (sound_of_reachable hAfter) hPath
    rw [didOrUrl_of_noKid hTo]
    exact hHolds'.available hdb
  · cases hList
    exact absurd hStored hErrors

end

theorem exampleMessage_readsBack : ReadsBack (ideal id) exampleMessage :=
  .of_laws (ideal_lawful id) rfl (Nat.le_add_left 2 125) (Message.ofJson_toJson rfl rfl fun _ h => by cases h)
    (Message.envelope_toJson rfl)

/-- Bob reads what was sent to him. -/
theorem forwarded_message_read_bob : ∃ list s text metadata unpacked,
    handleInbound sampleConfig aliceSession sampleAround forwardedToBob.arrived ⟨fun _ => none, []⟩ =
        .ok (.stored list) s ∧
      Message.unpackString (ideal id) (everyDid bobService) (secretsOf "did:example:bob") {} text (.fresh _) =
        .ok (exampleMessage, metadata) unpacked ∧
      Available sampleEnvironment s.db (sampleEnvironment.digest text) bobHash text := by
  have hBob : didOrUrl "did:example:bob" = ("did:example:bob", none) := didOrUrl_noFragment (by decide)
  obtain ⟨db, published, hRun, -⟩ := handleInbound_example hBob (.inl rfl) (by decide)
  have hKeys : forwardedToBob.KeysHeld fun _ => True := fun key hKey doc hDoc => by
    cases List.mem_singleton.mp hKey
    exact ideal_holdsKeys_of id (by decide) hDoc
  have hOther : hasKeyAgreementSecret sampleConfig.dids sampleConfig.mediatorSecrets forwardedToBob.to_ ≠ .ok true := by
    rw [show hasKeyAgreementSecret sampleConfig.dids sampleConfig.mediatorSecrets forwardedToBob.to_ = .ok false from
      hasKeyAgreementSecret_bob hBob (.inl rfl)]
    decide
  have hReachable : (databaseCalls sampleConfig.env).Reachable (Broker.mk (fun _ => none) []).db := .init rfl
  obtain ⟨text, ⟨metadata, unpacked, hUnpack, -⟩, hAvailable⟩ := forwarded_message_read (ideal_lawful id) forwardedToBob
    (ideal_looksUp id) (everyDid_ownUrls id bobService) (everyDid_ownSecrets id bobService (by decide)) (by decide) rfl
    exampleMessage_readsBack (everyDid_holdsSecret id bobService (by decide)) (congrArg Prod.snd hBob) hKeys ⟨rfl, rfl⟩
    hOther JsonText.write_ne_empty hReachable hRun rfl
  exact ⟨_, _, text, metadata, unpacked, hRun, hUnpack, hAvailable _ .refl "s"⟩

end AffinidiMessaging.Mediator
