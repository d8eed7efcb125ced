import AffinidiMessaging.Didcomm.Forwarding
import AffinidiMessaging.Didcomm.FromPriorPack
import AffinidiMessaging.Didcomm.Negotiation

/-! # What is packed is unpacked

What `pack_encrypted` makes for a recipient, and no mediator, is unpacked with the secrets of the recipient,
and the metadata of both sides agree.
-/

namespace AffinidiMessaging.Didcomm

open Fallible Serde

/-- What is found in a document is in it. -/
structure LooksUp (crates : Crates) : Prop where
  keyAgreement : ∀ doc asked, ∀ kid ∈ crates.findKeyAgreement doc asked, crates.containsKeyAgreement doc kid = true
  authentication : ∀ doc : Document, ∀ a ∈ doc.authentication,
    crates.containsAuthentication doc (a.id.resolve doc.id) = true
  verificationMethod : ∀ doc kid method, doc.verificationMethod.find? (fun m => m.id == kid) = some method →
    crates.getVerificationMethod doc kid = some method

/-- The key ids and references of a document are DID URLs of its DID. -/
structure OwnUrls (crates : Crates) (dids : DidResolver) : Prop where
  keyAgreement : ∀ url doc, dids.resolve (didOrUrl url).1 = .ok doc → ∀ asked,
    ∀ kid ∈ crates.findKeyAgreement doc asked, didOrUrl kid = ((didOrUrl url).1, some kid)
  authentication : ∀ url doc, dids.resolve (didOrUrl url).1 = .ok doc → ∀ a ∈ doc.authentication,
    didOrUrl (a.id.resolve doc.id) = ((didOrUrl url).1, some (a.id.resolve doc.id))

/-- The secrets of a sender are of the keys that its documents have. -/
structure OwnSecrets (crates : Crates) (dids : DidResolver) (secrets : SecretsResolver) : Prop where
  found : ∀ asked found, secrets.findSecrets asked = .ok found → found ⊆ asked
  matching : ∀ kid secret pair doc, secrets.getSecret kid = .ok (some secret) → secret.asKeyPair crates = .ok pair →
    dids.resolve (didOrUrl kid).1 = .ok doc →
      ∃ method jwk key, doc.verificationMethod.find? (fun m => m.id == kid) = some method ∧
        method.getJwk crates = .ok (some jwk) ∧ jwk.asCurve crates pair.curve = .ok key ∧ SamePublic pair.key key

/-- The first of the kids for which a recipient finds a secret has the matching one. -/
def HoldsSecret (crates : Crates) (hasPrivate : {curve : Curve} → crates.KeyPair curve → Prop) (dids : DidResolver)
    (secrets : SecretsResolver) (kids : List String) : Prop :=
  ∃ kid ∈ kids, ∃ rest, secrets.findSecrets kids = .ok (kid :: rest) ∧
    ∀ doc method, dids.resolve (didOrUrl kid).1 = .ok doc →
      doc.verificationMethod.find? (fun m => m.id == kid) = some method →
      ∀ msg curve (key : crates.KeyPair curve), method.asCurve crates msg curve = .ok key →
        ∃ key', recipientKey crates secrets kid = .ok ⟨curve, key'⟩ ∧ SamePublic key key' ∧ hasPrivate key'

/-- The JSON form of the message is decoded as the message, and neither as a JWE nor as a JWS. -/
structure ReadsBack (crates : Crates) (m : Message) : Prop where
  message : (crates.jsonFromStr (crates.jsonToString m.toJson)).bind Message.ofJson = some m
  plain : ∀ j, crates.jsonFromStr (crates.jsonToString m.toJson) = some j → Jwe.ofJson j = none ∧ Jws.ofJson j = none

/-- The metadata of unpacking say what was asked of packing, and what its metadata say. -/
structure Agrees (from_ signBy : Option String) (opts : PackEncryptedOptions) (packed : PackEncryptedMetadata)
    (unpacked : UnpackMetadata) : Prop where
  encrypted : unpacked.encrypted = true
  toKids : unpacked.encryptedToKids = some packed.toKids
  fromKid : unpacked.encryptedFromKid = packed.fromKid
  signByKid : unpacked.signFrom = packed.signByKid
  authenticated : unpacked.authenticated = true ↔ from_.isSome ∨ signBy.isSome
  nonRepudiation : unpacked.nonRepudiation = true ↔ signBy.isSome
  anonymous : unpacked.anonymousSender = true ↔ from_ = none ∨ opts.protectSender = true

/-- The metadata are of a message that was signed only. -/
structure SaysSigned (kid : String) (prior : Option (FromPrior × String)) (metadata : UnpackMetadata) : Prop where
  signFrom : metadata.signFrom = some kid
  authenticated : metadata.authenticated = true
  nonRepudiation : metadata.nonRepudiation = true
  encrypted : metadata.encrypted = false
  toKids : metadata.encryptedToKids = none
  fromKid : metadata.encryptedFromKid = none
  anonymous : metadata.anonymousSender = false
  reWrapped : metadata.reWrappedInForward = false
  fromPrior : metadata.fromPrior = prior.map Prod.fst
  fromPriorIssuerKid : metadata.fromPriorIssuerKid = prior.map Prod.snd

section
variable {crates : Crates} {hasPrivate : {curve : Curve} → crates.KeyPair curve → Prop}
  {reread : Int → Int → Int × Int} {limit : ℕ∞} (laws : Lawful crates hasPrivate reread limit)
  {dids : DidResolver} {secrets senderSecrets : SecretsResolver} {opts : UnpackOptions}

/-- What the layers of an encryption say, before any signature. -/
structure SaysEncrypted (from_ : Option String) (protect : Bool) (fromKid : Option String) (toKids : List String)
    (metadata : UnpackMetadata) : Prop where
  encrypted : metadata.encrypted = true
  toKids : metadata.encryptedToKids = some toKids
  fromKid : metadata.encryptedFromKid = fromKid
  signFrom : metadata.signFrom = none
  authenticated : metadata.authenticated = from_.isSome
  nonRepudiation : metadata.nonRepudiation = false
  anonymous : metadata.anonymousSender = (from_.isNone || protect)

variable (dids secrets opts) in
/-- The layers are opened in one round, down to what is inside of them. -/
def OpensWithin (outer : ParsedEnvelope) (layers : List (Layer crates)) (inner : ParsedEnvelope) : Prop :=
  ∃ peeled outside sender, Peels crates dids secrets opts outer outside peeled 1 ∧
    Authenticates crates dids secrets opts 1 peeled sender inner ∧ layers = outside ++ sender

/-! ## The signature -/

theorem ReadsBack.parseEnvelope {m : Message} (h : ReadsBack crates m) :
    Didcomm.parseEnvelope crates (crates.jsonToString m.toJson) = .ok (.message m) := by
  obtain ⟨j, hJson, hMessage⟩ := Option.bind_eq_some_iff.mp h.message
  obtain ⟨hJwe, hJws⟩ := h.plain j hJson
  refine parseEnvelope_message_iff.mpr ?_
  rw [Envelope.fromStr, okOr_ok_iff, hJson, Option.bind_some, Envelope.ofJson, hJwe, hJws, hMessage]
  rfl

theorem tryParseForward_of_type {m : Message} (h : m.type_ ≠ forwardMsgType) : tryParseForward m = none := by
  rw [tryParseForward, if_pos h]

theorem SignerKey.of_secret (hOwn : OwnSecrets crates dids senderSecrets) {did kid : String} {secret : Secret}
    {pair : KnownKeyPair crates} {doc : Document} (hUrl : didOrUrl kid = (did, some kid))
    (hDoc : dids.resolve did = .ok doc) (hContains : crates.containsAuthentication doc kid = true)
    (hSecret : senderSecrets.getSecret kid = .ok (some secret)) (hPair : secret.asKeyPair crates = .ok pair) :
    ∃ key, SignerKey crates dids kid ⟨pair.curve, key⟩ ∧ SamePublic pair.key key := by
  have hDoc' : dids.resolve (didOrUrl kid).1 = .ok doc := by rw [hUrl, hDoc]
  obtain ⟨method, jwk, key, hFind, hJwk, hKey, hSame⟩ := hOwn.matching kid secret pair doc hSecret hPair hDoc'
  exact ⟨key, ⟨by rw [hUrl]; rfl, doc, method, jwk, hDoc', hContains, hFind, hJwk, hKey⟩, hSame⟩

theorem authentications_ok (hLookup : LooksUp crates) (hUrls : OwnUrls crates dids) {signBy : String} {doc : Document}
    {kids : List String} (hDoc : dids.resolve (didOrUrl signBy).1 = .ok doc)
    (h : Message.authentications crates doc (didOrUrl signBy).2 = .ok kids) :
    ∀ kid ∈ kids, didOrUrl kid = ((didOrUrl signBy).1, some kid) ∧ crates.containsAuthentication doc kid = true := by
  cases hUrl : (didOrUrl signBy).2 with
  | none =>
    rw [hUrl] at h
    cases h
    intro kid hKid
    obtain ⟨a, ha, rfl⟩ := List.mem_map.mp hKid
    exact ⟨hUrls.authentication signBy doc hDoc a ha, hLookup.authentication doc a ha⟩
  | some url =>
    simp only [hUrl, Message.authentications, except_bind_ok_iff, ensure_ok_iff] at h
    obtain ⟨-, hContains, hKids⟩ := h
    cases hKids
    intro kid hKid
    obtain rfl := List.mem_singleton.mp hKid
    obtain rfl := didOrUrl_url hUrl
    exact ⟨Prod.ext rfl hUrl, hContains⟩

/-- The text of a message is read back, and what it says of a change of DID was checked. -/
theorem ReadsBack.packPlaintext {m : Message} (hRead : ReadsBack crates m) {text : String}
    (hText : m.packPlaintext crates dids = .ok text) :
    Didcomm.parseEnvelope crates text = .ok (.message m) ∧
      ∃ prior, m.fromPrior.mapM (FromPrior.unpack crates dids) = .ok prior := by
  rw [packPlaintext_eq hText]
  obtain ⟨prior, hPrior, -⟩ := (except_bind_ok_iff _ _ _).mp hText
  exact ⟨hRead.parseEnvelope, prior, hPrior⟩

include laws

theorem ReadsBack.of_laws {m : Message} (hFloatless : m.toJson.floatless = true)
    (hDepth : m.toJson.depth ≤ recursionLimit) (hMessage : Message.ofJson m.toJson = some m)
    (hOther : Jwe.ofJson m.toJson = none ∧ Jws.ofJson m.toJson = none) : ReadsBack crates m where
  message := by rw [laws.read_written hFloatless hDepth, Option.bind_some, hMessage]
  plain j hJson := by
    cases (laws.read_written hFloatless hDepth).symm.trans hJson
    exact hOther

/-- What is signed is read as it was, as the key of the signer's document says. -/
theorem packSigned_opens (hLookup : LooksUp crates) (hUrls : OwnUrls crates dids)
    (hOwn : OwnSecrets crates dids senderSecrets) {m : Message} {signBy : String} {signed : String × String}
    (h : m.packSigned crates dids senderSecrets signBy = .ok signed) :
    (didOrUrl signed.2).1 = (didOrUrl signBy).1 ∧ ∃ payload jws key alg, m.packPlaintext crates dids = .ok payload ∧
      parseEnvelope crates signed.1 = .ok (.jws jws) ∧
      ∀ inner, parseEnvelope crates payload = .ok inner →
        OpensLayer crates dids secrets opts (.jws jws) (.signed jws signed.2 key alg) inner := by
  simp only [Message.packSigned, except_bind_ok_iff, resolved_ok_iff, ensure_ok_iff, context_ok_iff, ofError_ok_iff,
    okOr_ok_iff] at h
  obtain ⟨-, -, doc, hDoc, kids, hKids, found, hFound, kid, hHead, _, hSecret, secret, rfl, pair, hPair,
    payload, hPayload, alg, hAlg, text, hSign, hResult⟩ := h
  cases hResult
  have hKid : kid ∈ kids := hOwn.found kids found hFound (List.mem_of_mem_head? hHead)
  obtain ⟨hUrl, hContains⟩ := authentications_ok hLookup hUrls hDoc hKids kid hKid
  obtain ⟨key, hSigner, hSame⟩ := SignerKey.of_secret hOwn hUrl hDoc hContains hSecret hPair
  obtain ⟨jws, hParse, hAttested⟩ := Jws.sign_opens laws hSign
  obtain ⟨name, hName⟩ := signMethod_signAlg hAlg
  exact ⟨by rw [hUrl], payload, jws, _, name, hPayload, hParse,
    fun inner hInner => hAttested.opensSigned hName hSigner hSame hInner⟩

/-- What is signed is unpacked by anybody, to the message and in the name of the signer. -/
theorem packSigned_unpacks (hLookup : LooksUp crates) (hUrls : OwnUrls crates dids)
    (hOwn : OwnSecrets crates dids senderSecrets) {m : Message} (hTyp : m.typ = plaintextTyp)
    (hRead : ReadsBack crates m) {signBy : String} {signed : String × String}
    (h : m.packSigned crates dids senderSecrets signBy = .ok signed)
    (hLimit : 1 < opts.cryptoOperationsLimitPerMessage) :
    (didOrUrl signed.2).1 = (didOrUrl signBy).1 ∧ ∃ prior metadata s,
      m.fromPrior.mapM (FromPrior.unpack crates dids) = .ok prior ∧
      Message.unpackString crates dids secrets opts signed.1 (.fresh crates) = .ok (m, metadata) s ∧
      SaysSigned signed.2 prior metadata := by
  obtain ⟨hDid, payload, jws, key, alg, hPayload, hParse, hOpens⟩ := packSigned_opens laws hLookup hUrls hOwn h
  obtain ⟨hText, prior, hPrior⟩ := hRead.packPlaintext hPayload
  have hEnvelope : OpensEnvelope crates dids secrets opts (.jws jws) [.signed jws signed.2 key alg] m prior :=
    ⟨_, _, [], [], _, 1, .stop id, hLimit, .none id, .signed trivial (hOpens _ hText), hTyp, hPrior, rfl⟩
  obtain ⟨s, hRun, -⟩ := (unpackString_ok_iff crates dids secrets opts signed.1 m _ _).mpr
    ⟨_, prior, ⟨_, hParse, hEnvelope⟩, rfl, rfl⟩
  exact ⟨hDid, prior, _, s, hPrior, hRun, ⟨rfl, rfl, rfl, rfl, rfl, rfl, rfl, rfl, rfl, rfl⟩⟩

variable (secrets opts) in
/-- What is to be encrypted is read as the message, or as a signature over it. -/
theorem packInner_opens (hLookup : LooksUp crates) (hUrls : OwnUrls crates dids)
    (hOwn : OwnSecrets crates dids senderSecrets) {m : Message} {signBy : Option String}
    {inner : String × Option String}
    (hRead : ReadsBack crates m) (h : m.packInner crates dids senderSecrets signBy = .ok inner) :
    ∃ parsed signature prior, parseEnvelope crates inner.1 = .ok parsed ∧
      m.fromPrior.mapM (FromPrior.unpack crates dids) = .ok prior ∧
      Attests crates dids secrets opts parsed signature (.message m) ∧
      (signBy = none ∧ inner.2 = none ∧ signature = [] ∨ ∃ by_ jws kid key alg, signBy = some by_ ∧ inner.2 = some kid ∧
        signature = [.signed jws kid key alg]) := by
  cases signBy with
  | none =>
    simp only [Message.packInner, except_bind_ok_iff, context_ok_iff] at h
    obtain ⟨text, hText, h⟩ := h
    cases h
    obtain ⟨hParse, prior, hPrior⟩ := hRead.packPlaintext hText
    exact ⟨_, [], prior, hParse, hPrior, .none id, .inl ⟨rfl, rfl, rfl⟩⟩
  | some by_ =>
    simp only [Message.packInner, except_bind_ok_iff, context_ok_iff] at h
    obtain ⟨signed, hSigned, h⟩ := h
    cases h
    obtain ⟨-, payload, jws, key, alg, hPayload, hParse, hOpens⟩ := packSigned_opens laws hLookup hUrls hOwn hSigned
    obtain ⟨hText, prior, hPrior⟩ := hRead.packPlaintext hPayload
    exact ⟨_, _, prior, hParse, hPrior, .signed trivial (hOpens _ hText),
      .inr ⟨by_, jws, signed.2, key, alg, rfl, rfl, rfl⟩⟩

end

/-! ## The encryption -/

section
variable {crates : Crates} {hasPrivate : {curve : Curve} → crates.KeyPair curve → Prop}
  {reread : Int → Int → Int × Int} {limit : ℕ∞} (laws : Lawful crates hasPrivate reread limit)
  {dids : DidResolver} {secrets senderSecrets : SecretsResolver} {opts : UnpackOptions} {curve : Curve}
  {recipients : List (String × crates.KeyPair curve)} {to_ : String} {doc : Document}

theorem HoldsSecret.held (hUrls : OwnUrls crates dids) (hDoc : dids.resolve (didOrUrl to_).1 = .ok doc)
    {asked : Option String}
    (hRecipients : ∀ r ∈ recipients, r.1 ∈ crates.findKeyAgreement doc asked ∧
      ∃ method msg, doc.verificationMethod.find? (fun m => m.id == r.1) = some method ∧
        method.asCurve crates msg curve = .ok r.2)
    (h : HoldsSecret crates hasPrivate dids secrets (recipients.map Prod.fst)) :
    ∃ kid, Held hasPrivate secrets recipients kid := by
  obtain ⟨kid, hKid, rest, hFind, hMatching⟩ := h
  have hUrl (r : String × crates.KeyPair curve) (hr : r ∈ recipients) : didOrUrl r.1 = ((didOrUrl to_).1, some r.1) :=
    hUrls.keyAgreement to_ doc hDoc asked r.1 (hRecipients r hr).1
  refine ⟨kid, ⟨(didOrUrl to_).1, fun r hr => ?_⟩, ⟨rest, hFind⟩, ?_⟩
  · rw [hUrl r hr]
    exact ⟨rfl, rfl⟩
  · obtain ⟨key, hLookup, hMem⟩ := exists_lookup_of_mem hKid
    obtain ⟨-, method, msg, hMethod, hKey⟩ := hRecipients _ hMem
    have hDoc' : dids.resolve (didOrUrl kid).1 = .ok doc := by rw [hUrl _ hMem, hDoc]
    obtain ⟨key', hSecret, hSame, hPrivate⟩ := hMatching doc method hDoc' hMethod msg curve key hKey
    exact ⟨key, key', hLookup, hSecret, hSame, hPrivate⟩

theorem KnownKeyPair.eq_of_ofCurve {pair : KnownKeyPair crates} {key : crates.KeyPair curve}
    (h : pair.ofCurve curve = .ok key) : pair = ⟨curve, key⟩ := by
  obtain ⟨curve', key'⟩ := pair
  unfold ofCurve at h
  split at h
  · rename_i hCurve
    cases hCurve
    cases h
    rfl
  · cases h

theorem SenderKey.of_secret (hLookup : LooksUp crates) (hOwn : OwnSecrets crates dids senderSecrets) {did kid : String}
    {asked : Option String} {secret : Secret} {key : crates.KeyPair curve} (hUrl : didOrUrl kid = (did, some kid))
    (hDoc : dids.resolve did = .ok doc) (hAgreement : kid ∈ crates.findKeyAgreement doc asked)
    (hSecret : senderSecrets.getSecret kid = .ok (some secret)) (hKey : secret.asCurve crates curve = .ok key) :
    ∃ key', SenderKey crates dids kid ⟨curve, key'⟩ ∧ SamePublic key key' := by
  simp only [Secret.asCurve, except_bind_ok_iff] at hKey
  obtain ⟨-, -, pair, hPair, hCurve⟩ := hKey
  obtain rfl := KnownKeyPair.eq_of_ofCurve hCurve
  have hDoc' : dids.resolve (didOrUrl kid).1 = .ok doc := by rw [hUrl, hDoc]
  obtain ⟨method, jwk, key', hFind, hJwk, hKey', hSame⟩ := hOwn.matching kid secret _ doc hSecret hPair hDoc'
  simp only [Params.asCurve, except_bind_ok_iff] at hKey'
  obtain ⟨-, -, pair', hPair', hCurve'⟩ := hKey'
  obtain rfl := KnownKeyPair.eq_of_ofCurve hCurve'
  refine ⟨key', ⟨by rw [hUrl]; rfl, doc, method, hDoc', hLookup.keyAgreement doc asked kid hAgreement,
    hLookup.verificationMethod doc kid method hFind, ?_⟩, hSame⟩
  simp only [VerificationMethod.senderKey, hJwk, hPair', okOr, bind, Except.bind]

include laws

theorem anonEncrypt_opens {draws : Draws crates} {text context packed kid : String} {alg : AnonCryptAlg}
    (hCurve : curve ≠ .ed25519) (hHeld : Held hasPrivate secrets recipients kid)
    (hFirst : opts.expectDecryptByAllKeys = false)
    (h : anonEncrypt crates draws curve text.toUTF8 alg context recipients = .ok packed) :
    ∃ jwe, parseEnvelope crates packed = .ok (.jwe jwe) ∧ jwe.toKids = recipients.map Prod.fst ∧
      (ParsedEnvelope.jwe jwe).hasAlg .ecdhEsA256kw ∧ ∀ inner, parseEnvelope crates text = .ok inner →
        OpensLayer crates dids secrets opts (.jwe jwe) (.anoncrypted jwe alg [kid]) inner := by
  rw [anonEncrypt, context_ok_iff] at h
  have hAlgName : EncAlgorithm.ofStr alg.method.1.asStr = alg.method.1 := by cases alg <;> rfl
  obtain ⟨jwe, -, hParse, hSeals⟩ := Jwe.encrypt_opens laws rfl hAlgName h
  exact ⟨jwe, hParse, hSeals.toKids, hSeals.alg, fun inner hInner =>
    hSeals.opensAnon (anonMethod_method alg hCurve) hHeld hFirst hInner⟩

/-- An authenticated layer, with an anonymous one around it where the sender is protected. -/
theorem authEncrypt_opens {draws : Draws crates × Draws crates} {text packed fromKid from_ kid : String}
    {secret : Secret}
    {packing : PackEncryptedOptions} {key' : crates.KeyPair curve} (hCurve : curve ≠ .ed25519)
    (hHeld : Held hasPrivate secrets recipients kid) (hFirst : opts.expectDecryptByAllKeys = false)
    (hLimit : 2 < opts.cryptoOperationsLimitPerMessage) (hSender : SenderKey crates dids fromKid ⟨curve, key'⟩)
    (hSame : ∀ key, secret.asCurve crates curve = .ok key → SamePublic key key')
    (h : authEncrypt crates draws curve text.toUTF8 fromKid secret packing recipients = .ok packed)
    {inner : ParsedEnvelope} (hInner : parseEnvelope crates text = .ok inner) :
    ∃ outer, ∃ layers : List (Layer crates), parseEnvelope crates packed = .ok outer ∧
      OpensWithin dids secrets opts outer layers inner ∧
      SaysEncrypted (some from_) packing.protectSender (some fromKid) (recipients.map Prod.fst)
        (describeAll layers {}) := by
  simp only [authEncrypt, except_bind_ok_iff, context_ok_iff] at h
  obtain ⟨key, hKey, authcrypted, hAuth, h⟩ := h
  obtain ⟨jwe, -, hParse, hSeals⟩ := Jwe.encrypt_opens laws rfl rfl hAuth
  have hOpens := hSeals.opensAuth hCurve hSender (hSame key hKey) hHeld hFirst hInner
  have hOther : ¬ (ParsedEnvelope.jwe jwe).hasAlg .ecdhEsA256kw := fun hEs => by cases hSeals.alg.symm.trans hEs
  have hKids := hSeals.toKids
  cases hProtect : packing.protectSender with
  | false =>
    rw [hProtect] at h
    cases h
    exact ⟨_, _, hParse, ⟨_, [], _, .stop hOther, .authcrypted hOpens hLimit, rfl⟩,
      ⟨rfl, congrArg some hKids, rfl, rfl, rfl, rfl, rfl⟩⟩
  | true =>
    rw [hProtect, if_pos rfl] at h
    obtain ⟨outer, hOuter, -, hAlg, hLayer⟩ := anonEncrypt_opens laws hCurve hHeld hFirst h
    have hForward : unwrapForwarded crates dids secrets opts (some (.jwe jwe)) = .ok none := by
      simp only [unwrapForwarded, tryUnwrapForwardedMessage, ite_self]
    exact ⟨_, _, hOuter, ⟨_, _, _, .anoncrypted hAlg (hLayer _ hParse) hForward, .authcrypted hOpens hLimit, rfl⟩,
      ⟨rfl, congrArg some hKids, rfl, rfl, rfl, rfl, rfl⟩⟩

theorem anoncrypt_opens (hUrls : OwnUrls crates dids) {draws : Draws crates} {text : String} {alg : AnonCryptAlg}
    {toKidsLimit : Nat} {packed : String × List String} {protect : Bool} (hFirst : opts.expectDecryptByAllKeys = false)
    (h : anoncrypt crates dids draws to_ text.toUTF8 alg toKidsLimit = .ok packed)
    (hHolds : HoldsSecret crates hasPrivate dids secrets packed.2) {inner : ParsedEnvelope}
    (hInner : parseEnvelope crates text = .ok inner) (hOther : ∀ alg, ¬ inner.hasAlg alg)
    (hForward : unwrapForwarded crates dids secrets opts (some inner) = .ok none) :
    ∃ outer, ∃ layers : List (Layer crates), parseEnvelope crates packed.1 = .ok outer ∧
      OpensWithin dids secrets opts outer layers inner ∧
      SaysEncrypted none protect none packed.2 (describeAll layers {}) := by
  simp only [anoncrypt, except_bind_ok_iff, resolved_ok_iff, okOr_ok_iff, toKidsOf_ok_iff] at h
  obtain ⟨doc, hDoc, _, ⟨rfl, -, -⟩, methods, hMethods, -, -, keyAlg, -, found, hFound, curve, hCurve, recipients,
    hRecipients, msg, hMsg, hPacked⟩ := h
  cases hPacked
  obtain ⟨hIds, hKeys⟩ := recipients_ok hMethods hFound hRecipients
  rw [← hIds] at hHolds ⊢
  obtain ⟨kid, hHeld⟩ := hHolds.held hUrls hDoc hKeys
  obtain ⟨jwe, hParse, hToKids, hAlg, hLayer⟩ := anonEncrypt_opens laws (agreementCurve_ne hCurve).2 hHeld hFirst hMsg
  exact ⟨_, _, hParse, ⟨_, _, _, .anoncrypted hAlg (hLayer _ hInner) hForward, .none (hOther _), rfl⟩,
    ⟨rfl, congrArg some hToKids, rfl, rfl, rfl, rfl, rfl⟩⟩

theorem authcrypt_opens (hLookup : LooksUp crates) (hUrls : OwnUrls crates dids)
    (hOwn : OwnSecrets crates dids senderSecrets) {draws : Draws crates × Draws crates} {text from_ : String}
    {packing : PackEncryptedOptions} {packed : String × String × List String}
    (hFirst : opts.expectDecryptByAllKeys = false) (hLimit : 2 < opts.cryptoOperationsLimitPerMessage)
    (h : authcrypt crates dids senderSecrets draws to_ from_ text.toUTF8 packing = .ok packed)
    (hHolds : HoldsSecret crates hasPrivate dids secrets packed.2.2) {inner : ParsedEnvelope}
    (hInner : parseEnvelope crates text = .ok inner) :
    ∃ outer, ∃ layers : List (Layer crates), parseEnvelope crates packed.1 = .ok outer ∧
      OpensWithin dids secrets opts outer layers inner ∧
      SaysEncrypted (some from_) packing.protectSender (some packed.2.1) packed.2.2 (describeAll layers {}) := by
  simp only [authcrypt, senderKids, except_bind_ok_iff, resolved_ok_iff, okOr_ok_iff, ensure_ok_iff, context_ok_iff,
    ofError_ok_iff, toKidsOf_ok_iff] at h
  obtain ⟨toDoc, hToDoc, fromDoc, hFromDoc, fromKids, ⟨-, -, _, hFromKids, -, -, hKids⟩, fromKeys, hFromKeys, _,
    ⟨rfl, -, -⟩, toKeys, hToKeys, _, hCommon, ⟨method, keyAlg⟩, rfl, _, hSecret, secret, rfl, found, hFound,
    curve, hCurve, recipients, hRecipients, msg, hMsg, hPacked⟩ := h
  cases hKids
  cases hPacked
  obtain ⟨hIds, hKeys⟩ := recipients_ok hToKeys hFound hRecipients
  rw [← hIds] at hHolds ⊢
  obtain ⟨kid, hHeld⟩ := hHolds.held hUrls hToDoc hKeys
  obtain ⟨_, -, hFirstKey⟩ := (commonKey_ok_iff (keysWithAlg_readable hFound)).mp hCommon
  have hFromKid := hOwn.found _ _ hFromKids (keysOf_mem hFromKeys method hFirstKey.mem.1).1
  have hUrl := hUrls.keyAgreement from_ fromDoc hFromDoc _ _ hFromKid
  obtain ⟨fromKey, hFromKey⟩ : ∃ fromKey, secret.asCurve crates curve = .ok fromKey := by
    simp only [authEncrypt, except_bind_ok_iff] at hMsg
    obtain ⟨fromKey, hFromKey, -⟩ := hMsg
    exact ⟨fromKey, hFromKey⟩
  obtain ⟨key', hSender, hSame⟩ := SenderKey.of_secret hLookup hOwn hUrl hFromDoc hFromKid hSecret hFromKey
  refine authEncrypt_opens laws (agreementCurve_ne hCurve).2 hHeld hFirst hLimit hSender ?_ hMsg hInner
  intro key hKey
  cases hFromKey.symm.trans hKey
  exact hSame

/-- What `pack_encrypted` encrypts is opened, down to what it was given. -/
theorem packOuter_opens (hLookup : LooksUp crates) (hUrls : OwnUrls crates dids)
    (hOwn : OwnSecrets crates dids senderSecrets) {draws : Draws crates × Draws crates} {text : String}
    {from_ : Option String} {packing : PackEncryptedOptions} {packed : String × Option String × List String}
    (hFirst : opts.expectDecryptByAllKeys = false) (hLimit : 2 < opts.cryptoOperationsLimitPerMessage)
    (h : Message.packOuter crates dids senderSecrets draws to_ from_ packing text = .ok packed)
    (hHolds : HoldsSecret crates hasPrivate dids secrets packed.2.2) {inner : ParsedEnvelope}
    (hInner : parseEnvelope crates text = .ok inner) (hOther : ∀ alg, ¬ inner.hasAlg alg)
    (hForward : unwrapForwarded crates dids secrets opts (some inner) = .ok none) :
    ∃ outer, ∃ layers : List (Layer crates), parseEnvelope crates packed.1 = .ok outer ∧
      OpensWithin dids secrets opts outer layers inner ∧
      SaysEncrypted from_ packing.protectSender packed.2.1 packed.2.2 (describeAll layers {}) := by
  cases from_ with
  | none =>
    simp only [Message.packOuter, except_bind_ok_iff] at h
    obtain ⟨anoncrypted, hAnon, hPacked⟩ := h
    cases hPacked
    exact anoncrypt_opens laws hUrls hFirst hAnon hHolds hInner hOther hForward
  | some sender =>
    simp only [Message.packOuter, except_bind_ok_iff] at h
    obtain ⟨authcrypted, hAuth, hPacked⟩ := h
    cases hPacked
    exact authcrypt_opens laws hLookup hUrls hOwn hFirst hLimit hAuth hHolds hInner

omit laws in
theorem SaysEncrypted.agrees {from_ signBy fromKid signByKid : Option String} {packing : PackEncryptedOptions}
    {toKids : List String} {layers signature : List (Layer crates)} {service : Option MessagingServiceMetadata}
    (h : SaysEncrypted from_ packing.protectSender fromKid toKids (describeAll layers {}))
    (hSignature : signBy = none ∧ signByKid = none ∧ signature = [] ∨ ∃ by_ jws kid key alg, signBy = some by_ ∧
      signByKid = some kid ∧ signature = [.signed jws kid key alg]) (prior : Option (FromPrior × String)) :
    Agrees from_ signBy packing { messagingService := service, fromKid, signByKid, toKids }
      (metadataOf (layers ++ signature) prior) := by
  rw [metadataOf, describeAll_append]
  generalize describeAll layers {} = said at h
  rcases hSignature with ⟨rfl, rfl, rfl⟩ | ⟨by_, jws, kid, key, alg, rfl, rfl, rfl⟩
  · exact ⟨h.encrypted, h.toKids, h.fromKid, h.signFrom, by simp [describeAll, h.authenticated],
      by simp [describeAll, h.nonRepudiation], by simp [describeAll, h.anonymous]⟩
  · exact ⟨h.encrypted, h.toKids, h.fromKid, rfl, by simp [describeAll, Layer.describe],
      by simp [describeAll, Layer.describe], by simp [describeAll, Layer.describe, h.anonymous]⟩

/-- What is packed for a recipient, and not forwarded, opens to the message, with the metadata that packing gave. -/
theorem packEncrypted_opens (hLookup : LooksUp crates) (hUrls : OwnUrls crates dids)
    (hOwn : OwnSecrets crates dids senderSecrets) {m : Message} (hType : m.type_ ≠ forwardMsgType)
    (hTyp : m.typ = plaintextTyp) (hRead : ReadsBack crates m) {draws : Message.PackDraws crates}
    {from_ signBy : Option String} {packing : PackEncryptedOptions} {packed : String × PackEncryptedMetadata}
    (hFirst : opts.expectDecryptByAllKeys = false) (hLimit : 2 < opts.cryptoOperationsLimitPerMessage)
    (h : m.packEncrypted crates dids senderSecrets draws to_ from_ signBy packing = .ok packed)
    (hService : packed.2.messagingService = none)
    (hHolds : HoldsSecret crates hasPrivate dids secrets packed.2.toKids) :
    ∃ outer layers prior, parseEnvelope crates packed.1 = .ok outer ∧
      OpensEnvelope crates dids secrets opts outer layers m prior ∧
      Agrees from_ signBy packing packed.2 (metadataOf layers prior) := by
  simp only [Message.packEncrypted, except_bind_ok_iff] at h
  obtain ⟨-, -, inner, hInner, outer, hOuter, wrapped, -, hPacked⟩ := h
  cases hPacked
  obtain rfl : wrapped = none := Option.map_eq_none_iff.mp hService
  obtain ⟨parsed, signature, prior, hParsed, hPrior, hAttests, hSignature⟩ :=
    packInner_opens laws secrets opts hLookup hUrls hOwn hRead hInner
  have hPlain : (∀ alg, ¬ parsed.hasAlg alg) ∧ unwrapForwarded crates dids secrets opts (some parsed) = .ok none := by
    cases hAttests with
    | none =>
      refine ⟨fun _ => id, ?_⟩
      simp only [unwrapForwarded, tryUnwrapForwardedMessage, tryParseForward_of_type hType, ite_self]
    | signed hJws _ =>
      cases parsed with
      | jws jws =>
        refine ⟨fun _ => id, ?_⟩
        simp only [unwrapForwarded, tryUnwrapForwardedMessage, ite_self]
      | jwe jwe => exact hJws.elim
      | message inside => exact hJws.elim
  obtain ⟨envelope, layers, hEnvelope, ⟨peeled, outside, sender, hPeels, hAuthenticates, rfl⟩, hSays⟩ :=
    packOuter_opens laws hLookup hUrls hOwn hFirst hLimit hOuter hHolds hParsed hPlain.1 hPlain.2
  exact ⟨envelope, outside ++ sender ++ signature, prior, hEnvelope,
    ⟨peeled, parsed, outside, sender, signature, 1, hPeels, by omega, hAuthenticates, hAttests, hTyp, hPrior, rfl⟩,
    hSays.agrees hSignature prior⟩

omit laws in
theorem packEncrypted_text {m : Message} {draws : Message.PackDraws crates} {from_ signBy : Option String}
    {packing : PackEncryptedOptions} {packed : String × PackEncryptedMetadata}
    (h : m.packEncrypted crates dids senderSecrets draws to_ from_ signBy packing = .ok packed)
    (hService : packed.2.messagingService = none) : ∃ jwe : Jwe, packed.1 = crates.jsonToString jwe.toJson := by
  simp only [Message.packEncrypted, except_bind_ok_iff] at h
  obtain ⟨-, -, inner, -, outer, hOuter, wrapped, -, hPacked⟩ := h
  cases hPacked
  obtain rfl : wrapped = none := Option.map_eq_none_iff.mp hService
  exact packOuter_text hOuter

/-- What is packed for a recipient is unpacked to the message, and with the metadata that packing gave. -/
theorem packEncrypted_unpacks (hLookup : LooksUp crates) (hUrls : OwnUrls crates dids)
    (hOwn : OwnSecrets crates dids senderSecrets) {m : Message} (hType : m.type_ ≠ forwardMsgType)
    (hTyp : m.typ = plaintextTyp) (hRead : ReadsBack crates m) {draws : Message.PackDraws crates}
    {from_ signBy : Option String} {packing : PackEncryptedOptions} {packed : String × PackEncryptedMetadata}
    (h : m.packEncrypted crates dids senderSecrets draws to_ from_ signBy packing = .ok packed)
    (hService : packed.2.messagingService = none)
    (hHolds : HoldsSecret crates hasPrivate dids secrets packed.2.toKids) :
    ∃ metadata s, Message.unpackString crates dids secrets {} packed.1 (.fresh crates) = .ok (m, metadata) s ∧
      Agrees from_ signBy packing packed.2 metadata := by
  let opts : UnpackOptions := {}
  obtain ⟨outer, layers, prior, hOuter, hOpens, hAgrees⟩ := packEncrypted_opens laws hLookup hUrls hOwn hType hTyp hRead
    rfl (by decide : 2 < opts.cryptoOperationsLimitPerMessage) h hService hHolds
  obtain ⟨s, hRun, -⟩ :=
    (unpackString_ok_iff crates dids secrets opts packed.1 m _ _).mpr ⟨layers, prior, ⟨outer, hOuter, hOpens⟩, rfl, rfl⟩
  exact ⟨_, s, hRun, hAgrees⟩

end

/-! ## Between DIDs with one key to sign and one to agree on keys -/

theorem ideal_looksUp (sha256 : ByteArray → ByteArray) : LooksUp (ideal sha256) where
  keyAgreement doc asked kid hKid := by
    have hResolved : kid ∈ doc.keyAgreement.map fun key => key.id.resolve doc.id := by
      simp only [ideal] at hKid
      split at hKid
      · exact List.mem_of_mem_filter hKid
      · exact hKid
    obtain ⟨key, hKey, rfl⟩ := List.mem_map.mp hResolved
    exact List.any_eq_true.mpr ⟨key, hKey, beq_self_eq_true _⟩
  authentication doc a ha := List.any_eq_true.mpr ⟨a, ha, beq_self_eq_true _⟩
  verificationMethod doc kid method h := h

theorem fragment_not_mem_didOrUrl (url : String) : '#' ∉ (didOrUrl url).1.toList := by
  unfold didOrUrl
  cases hSplit : Text.splitOnce '#' url with
  | none => exact (Text.splitOnce_eq_none_iff '#' url).mp hSplit
  | some parts => exact Text.not_mem_of_splitOnce hSplit

section
variable (sha256 : ByteArray → ByteArray) (service : String → List Service)

theorem everyDid_ownUrls : OwnUrls (ideal sha256) (everyDid service) where
  keyAgreement url doc hDoc asked kid hKid := by
    have hDid := fragment_not_mem_didOrUrl url
    cases (resolve_everyDid service hDid).symm.trans hDoc
    have hAll : kid ∈ [agreeKid (didOrUrl url).1] := by
      simp only [ideal] at hKid
      split at hKid
      · exact List.mem_of_mem_filter hKid
      · exact hKid
    rw [List.mem_singleton.mp hAll]
    exact didOrUrl_agreeKid hDid
  authentication url doc hDoc a ha := by
    have hDid := fragment_not_mem_didOrUrl url
    cases (resolve_everyDid service hDid).symm.trans hDoc
    cases List.mem_singleton.mp ha
    exact didOrUrl_signKid hDid

variable {did : String} (h : '#' ∉ did.toList)
include h

theorem everyDid_ownSecrets : OwnSecrets (ideal sha256) (everyDid service) (secretsOf did) where
  found asked found hFound := by
    cases hFound
    exact fun k hk => List.mem_of_mem_filter hk
  matching kid secret pair doc hSecret hPair hDoc := by
    simp only [secretsOf] at hSecret
    split at hSecret
    · rename_i hKid
      subst hKid
      cases hSecret
      rw [didOrUrl_agreeKid h] at hDoc
      cases (resolve_everyDid service h).symm.trans hDoc
      cases (keyPairFromJwk_ideal sha256 _ .x25519 rfl).symm.trans hPair
      exact ⟨_, _, agreeKid did, find_agreeKid _ did, getJwk_methodOf sha256 _ _, asCurve_agree sha256 _,
        (ideal_samePublic sha256).mpr rfl⟩
    · split at hSecret
      · rename_i hKid
        subst hKid
        cases hSecret
        rw [didOrUrl_signKid h] at hDoc
        cases (resolve_everyDid service h).symm.trans hDoc
        cases (asKeyPair_signSecret sha256 _).symm.trans hPair
        exact ⟨_, _, signKid did, find_signKid _ did, getJwk_methodOf sha256 _ _, asCurve_sign sha256 _,
          (ideal_samePublic sha256).mpr rfl⟩
      · cases hSecret

theorem everyDid_holdsSecret :
    HoldsSecret (ideal sha256) (fun _ => True) (everyDid service) (secretsOf did) [agreeKid did] := by
  refine ⟨agreeKid did, List.mem_singleton_self _, [], findSecrets_agreeKid did, ?_⟩
  intro doc method hDoc hMethod msg curve key hKey
  rw [didOrUrl_agreeKid h] at hDoc
  cases (resolve_everyDid service h).symm.trans hDoc
  cases (find_agreeKid (service did) did).symm.trans hMethod
  obtain rfl := curve_of_asCurve_methodOf hKey
  cases (asCurve_methodOf sha256 msg (agreeKid did)).symm.trans hKey
  exact ⟨_, recipientKey_ideal sha256 did, (ideal_samePublic sha256).mpr rfl, trivial⟩

end

section
variable {sender did : String} (hSender : '#' ∉ sender.toList) (h : '#' ∉ did.toList)
include hSender

theorem packSigned_everyDid {m : Message} (hDid : isDid sender = true) {payload : String}
    (hPayload : m.packPlaintext (ideal id) (everyDid fun _ => []) = .ok payload) :
    ∃ packed, m.packSigned (ideal id) (everyDid fun _ => []) (secretsOf sender) sender = .ok packed := by
  have hFound : (secretsOf sender).findSecrets [signKid sender] = .ok [signKid sender] := by simp [secretsOf]
  simp only [Message.packSigned, didOrUrl_noFragment hSender, except_bind_ok_iff, resolved_ok_iff, ensure_ok_iff,
    context_ok_iff, ofError_ok_iff, okOr_ok_iff]
  exact ⟨_, (), hDid, _, resolve_everyDid _ hSender, _, rfl, _, hFound, _, rfl, _, getSecret_signKid sender, _, rfl, _,
    asKeyPair_signSecret id _, _, hPayload, _, rfl, _, rfl, rfl⟩

include h

/-- Where no services are known, an answer is signed and encrypted in the name of its sender. -/
theorem packEncrypted_everyDid {m : Message} (hTo : m.to_ = some [did]) (hFrom : m.from_ = some sender)
    (hSenderDid : isDid sender = true) (hDid : isDid did = true) {payload : String}
    (hPayload : m.packPlaintext (ideal id) (everyDid fun _ => []) = .ok payload)
    (draws : Message.PackDraws (ideal id)) :
    ∃ packed, m.packEncrypted (ideal id) (everyDid fun _ => []) (secretsOf sender) draws did (some sender)
      (some sender) {} =
        .ok packed ∧ packed.2.messagingService = none ∧ packed.2.toKids = [agreeKid did] := by
  have hValid : m.validatePackEncrypted did (some sender) (some sender) = .ok () := by
    simp [Message.validatePackEncrypted, hTo, hFrom, hDid, hSenderDid, didOrUrl_noFragment hSender,
      didOrUrl_noFragment h, ensure, bind, Except.bind, pure, Except.pure]
  obtain ⟨signed, hSigned⟩ := packSigned_everyDid hSender hSenderDid hPayload
  obtain ⟨outer, hOuter, hKids⟩ := authcrypt_everyDid hSender h draws.layers signed.1.toUTF8
  have hServices : resolveDidCommServicesChain (ideal id) (everyDid fun _ => []) did none = .ok [] := by
    rw [resolveDidCommServicesChain, DidResolver.resolved, resolve_everyDid _ h]
    rfl
  have hForward : wrapInForwardIfNeeded (ideal id) (everyDid fun _ => []) draws.forwards outer.1 did {} = .ok none :=
    (except_bind_ok_iff _ _ _).mpr ⟨_, hServices, rfl⟩
  let metadata : PackEncryptedMetadata :=
    { messagingService := none, fromKid := some outer.2.1, signByKid := some signed.2, toKids := outer.2.2 }
  refine ⟨(outer.1, metadata), ?_, rfl, hKids⟩
  simp only [Message.packEncrypted, Message.packInner, Message.packOuter, except_bind_ok_iff, context_ok_iff]
  exact ⟨(), hValid, _, ⟨signed, hSigned, rfl⟩, _, ⟨outer, hOuter, rfl⟩, none, hForward, rfl⟩

end

/-- What alice says to bob. -/
def greeting : Message :=
  { ping (some "did:example:alice") with to_ := some ["did:example:bob"] }

theorem greeting_readsBack : ReadsBack (ideal id) greeting :=
  .of_laws (ideal_lawful id) rfl (Nat.le_add_left 2 125) (Message.ofJson_toJson rfl rfl fun _ h => by cases h)
    (Message.envelope_toJson rfl)

theorem packSigned_unpacks_greeting : ∃ signed metadata s,
    greeting.packSigned (ideal id) (everyDid fun _ => [])
      (secretsOf "did:example:alice") "did:example:alice" = .ok signed ∧
      Message.unpackString (ideal id) (everyDid fun _ => []) (secretsOf "did:example:carol") {} signed.1 (.fresh _) =
        .ok (greeting, metadata) s ∧ SaysSigned signed.2 none metadata := by
  have hAlice : '#' ∉ "did:example:alice".toList := by decide
  obtain ⟨signed, hSigned⟩ := packSigned_everyDid hAlice (by decide) (m := greeting) rfl
  let opts : UnpackOptions := {}
  obtain ⟨-, prior, metadata, s, hPrior, hRun, hSays⟩ := packSigned_unpacks (ideal_lawful id) (ideal_looksUp id)
    (everyDid_ownUrls id _) (everyDid_ownSecrets id _ hAlice) rfl greeting_readsBack hSigned
    (by decide : 1 < opts.cryptoOperationsLimitPerMessage)
  cases hPrior
  exact ⟨signed, metadata, s, hSigned, hRun, hSays⟩

theorem packEncrypted_unpacks_greeting : ∃ packed metadata s,
    greeting.packEncrypted (ideal id) (everyDid fun _ => []) (secretsOf "did:example:alice")
        ⟨(⟨.empty, .empty, .empty⟩, ⟨.empty, .empty, .empty⟩), anyDraws id⟩ "did:example:bob" (some "did:example:alice")
        (some "did:example:alice") {} = .ok packed ∧
      Message.unpackString (ideal id) (everyDid fun _ => []) (secretsOf "did:example:bob") {} packed.1 (.fresh _) =
        .ok (greeting, metadata) s ∧
      Agrees (some "did:example:alice") (some "did:example:alice") {} packed.2 metadata := by
  have hAlice : '#' ∉ "did:example:alice".toList := by decide
  have hBob : '#' ∉ "did:example:bob".toList := by decide
  obtain ⟨packed, hPacked, hService, hKids⟩ :=
    packEncrypted_everyDid hAlice hBob (m := greeting) rfl rfl (by decide) (by decide)
    rfl ⟨(⟨.empty, .empty, .empty⟩, ⟨.empty, .empty, .empty⟩), anyDraws id⟩
  have hHolds : HoldsSecret (ideal id) (fun _ => True) (everyDid fun _ => [])
      (secretsOf "did:example:bob") packed.2.toKids := by
    rw [hKids]
    exact everyDid_holdsSecret id _ hBob
  obtain ⟨metadata, s, hRun, hAgrees⟩ :=
    packEncrypted_unpacks (ideal_lawful id) (ideal_looksUp id) (everyDid_ownUrls id _)
    (everyDid_ownSecrets id _ hAlice) (by decide) rfl greeting_readsBack hPacked hService hHolds
  exact ⟨packed, metadata, s, hPacked, hRun, hAgrees⟩

end AffinidiMessaging.Didcomm
