import AffinidiMessaging.Didcomm.Envelope

/-! # Unpacking

`Message::unpack` on a fresh envelope: anonymous layers and forwards as long as there are
any, then an authenticated layer, a signature and the plaintext.
-/

namespace AffinidiMessaging.Didcomm

open Fallible Serde Text

structure UnpackOptions where
  expectDecryptByAllKeys : Bool := false
  unwrapReWrappingForward : Bool := true
  cryptoOperationsLimitPerMessage : Nat := 1000
deriving DecidableEq, Repr

def tooManyCryptoOperations (limit count : Nat) : Fault :=
  errMsg .tooManyCryptoOperations ("Limit is reached. limit = " ++ toString limit ++
    ", executed crypto operations " ++ toString count)

/-- The cipher and the name of an anonymous layer, for the kinds of keys that can open one. -/
def anonMethod (toCurve : Curve) (enc : EncAlgorithm) : Option (Cipher × AnonCryptAlg) :=
  match toCurve, enc with
  | .ed25519, _ => none
  | _, .a256cbcHs512 => some (.a256CbcHs512, .a256cbcHs512EcdhEsA256kw)
  | _, .xc20P => some (.xc20P, .xc20pEcdhEsA256kw)
  | _, .a256Gcm => some (.a256Gcm, .a256gcmEcdhEsA256kw)
  | _, .other _ => none

/-- What sender and recipient keys and `enc` make of an authenticated layer. -/
def authMethod (fromCurve toCurve : Curve) (enc : EncAlgorithm) : Result AuthCryptAlg :=
  match fromCurve, toCurve, enc with
  | .x25519, .x25519, .a256cbcHs512 => .ok .a256cbcHs512Ecdh1puA256kw
  | .p256, .p256, .a256cbcHs512 => .ok .a256cbcHs512Ecdh1puA256kw
  | .x25519, .p256, _ => incompatible
  | .p256, .x25519, _ => incompatible
  | .k256, .k256, .a256cbcHs512 => .ok .a256cbcHs512Ecdh1puA256kw
  | .x25519, .k256, _ => incompatible
  | .k256, .x25519, _ => incompatible
  | _, _, _ => .error (errMsg .unsupported "Unsupported key agreement method")
where
  incompatible : Result AuthCryptAlg :=
    .error (errMsg .malformed "Incompatible sender and recipient key agreement curves")

def signMethod : Jws.Algorithm → Result (SignAlg × Curve)
  | .edDSA => .ok (.edDSA, .ed25519)
  | .es256 => .ok (.es256, .p256)
  | .es256K => .ok (.es256K, .k256)
  | .other _ => .error (errMsg .unsupported "Unsupported signature algorithm")

def forwardMsgType : String := "https://didcomm.org/routing/2.0/forward"

structure ParsedForward where
  msg : Message
  next : String
  forwardedMsg : Json

/-- `next` of a body that is an object. -/
def Message.next (m : Message) : Option String :=
  match m.body with
  | .obj fields => (fields.lookup "next").bind Json.asStr
  | _ => none

/-- The first attachment, when it is JSON. -/
def Message.jsonAttachment (m : Message) : Option JsonAttachmentData :=
  match m.attachments with
  | some ({ data := .json value, .. } :: _) => some value
  | _ => none

def tryParseForward (msg : Message) : Option ParsedForward :=
  if msg.type_ ≠ forwardMsgType then none
  else do
    let next ← msg.next
    let value ← msg.jsonAttachment
    return { msg, next, forwardedMsg := value.json }

variable (crates : Crates) (dids : DidResolver) (secrets : SecretsResolver)

open Unpack

/-- The secret of a recipient as a key pair. -/
def recipientKey (toKid : String) : Result (KnownKeyPair crates) := do
  let secret ← Result.ofError (secrets.getSecret toKid)
  let secret ← okOr secret
    (errMsg .invalidState "Recipient secret not found after existence checking")
  secret.asKeyPair crates

/-- The envelope in the payload of a layer. -/
def openPayload (msg : String) (payload : Option ByteArray) : Result ParsedEnvelope := do
  let payload ← okOr payload (errMsg .invalidState "Payload is none")
  let payload ← utf8 crates msg payload
  parseEnvelope crates payload

def anonDecrypt (jwe : ParsedJWE) (toKid : String) : Unpack crates ByteArray := do
  let toKey ← recipientKey crates secrets toKid
  let method ← okOr (anonMethod toKey.curve jwe.protected_.enc)
    (errMsg .unsupported "Unsupported recipient key agreement method")
  modifyMetadata fun m => { m with encAlgAnon := some method.2 }
  let payload ← jwe.decrypt crates method.1 .ecdhEs none (toKid, toKey.key)
  record (.decrypted jwe none toKid)
  return payload

/-- The loop over the keys found; it ends with the first one unless all are expected to decrypt. -/
def anonPayload (opts : UnpackOptions) (jwe : ParsedJWE) :
    Option ByteArray → List String → Unpack crates (Option ByteArray)
  | payload, [] => pure payload
  | _, toKid :: rest => do
    let payload ← anonDecrypt crates secrets jwe toKid
    if opts.expectDecryptByAllKeys then anonPayload opts jwe (some payload) rest
    else pure (some payload)

def unpackAnoncrypt (opts : UnpackOptions) (jwe : ParsedJWE) : Unpack crates ParsedEnvelope := do
  let toKid ← firstKid jwe.toKids
  ensureOneDid (didOrUrl toKid).1 jwe.toKids
  modifyMetadata fun m =>
    { m with encryptedToKids := some jwe.toKids, encrypted := true, anonymousSender := true }
  let toKidsFound ← Result.ofError (secrets.findSecrets jwe.toKids)
  ensureFound toKidsFound
  let payload ← anonPayload crates secrets opts jwe none toKidsFound
  openPayload crates "Anoncrypt payload is invalid utf8" payload

def tryUnpackAnoncrypt (opts : UnpackOptions) : ParsedEnvelope →
    Unpack crates (Option ParsedEnvelope)
  | .jwe jwe =>
    if jwe.protected_.alg ≠ .ecdhEsA256kw then pure none
    else some <$> unpackAnoncrypt crates secrets opts jwe
  | _ => pure none

def authDecrypt (jwe : ParsedJWE) (toKid : String) : Unpack crates ByteArray := do
  let toKey ← recipientKey crates secrets toKid
  let s ← get
  let fromKey ← Result.unwrap .senderKeyMissing s.envelope.fromKey
  let method ← authMethod fromKey.curve toKey.curve jwe.protected_.enc
  modifyMetadata fun m => { m with encAlgAuth := some method }
  let fromKid ← Result.unwrap .senderKidMissing s.envelope.fromKid
  -- the two curves are the same for every method
  let toKey ← toKey.ofCurve fromKey.curve
  let payload ← jwe.decrypt crates .a256CbcHs512 .ecdh1PU (some (fromKid, fromKey.key)) (toKid, toKey)
  record (.decrypted jwe (some (fromKid, fromKey)) toKid)
  return payload

def authPayload (opts : UnpackOptions) (jwe : ParsedJWE) :
    Nat → Option ByteArray → List String → Unpack crates (Option ByteArray)
  | _, payload, [] => pure payload
  | count, _, toKid :: rest => do
    ensure (count + 1 < opts.cryptoOperationsLimitPerMessage)
      (tooManyCryptoOperations opts.cryptoOperationsLimitPerMessage (count + 1))
    let payload ← authDecrypt crates secrets jwe toKid
    if opts.expectDecryptByAllKeys then authPayload opts jwe (count + 1) (some payload) rest
    else pure (some payload)

/-- A sender that is not known yet is taken from `apu`. -/
def fillIfUnknown (jwe : ParsedJWE) : Unpack crates Unit := do
  let s ← get
  if jwe.apu.isSome && s.envelope.fromKid.isNone then jwe.fillEnvelopeFrom crates dids secrets
  else pure ()

def unpackAuthcrypt (opts : UnpackOptions) (jwe : ParsedJWE) (count : Nat) :
    Unpack crates ParsedEnvelope := do
  fillIfUnknown crates dids secrets jwe
  let s ← get
  let payload ← authPayload crates secrets opts jwe count none s.envelope.toKidsFound
  openPayload crates "Authcrypt payload is invalid utf8" payload

def tryUnpackAuthcrypt (opts : UnpackOptions) (count : Nat) : ParsedEnvelope →
    Unpack crates (Option ParsedEnvelope)
  | .jwe jwe =>
    if jwe.protected_.alg ≠ .ecdh1puA256kw then pure none
    else some <$> unpackAuthcrypt crates dids secrets opts jwe count
  | _ => pure none

/-- The JWK of the verification method that signed. -/
def signerJwk (signerKid : String) : Result Params := do
  ensure (didOrUrl signerKid).2.isSome
    (errMsg .malformed "Signer key can't be resolved to key agreement")
  let doc ← dids.resolved (fun _ => errMsg .didNotResolved "Signer did not found")
    (didOrUrl signerKid).1
  ensure (crates.containsAuthentication doc signerKid)
    (errMsg .didUrlNotFound "Signer kid not found in did")
  let method ← okOr (doc.verificationMethod.find? fun method => method.id == signerKid)
    (errMsg .didUrlNotFound "Sender verification method not found in did")
  let jwk ← method.getJwk crates
  okOr jwk (errMsg .noCompatibleCrypto "Couldn't convert signing key to JWK")

def verifySigner (jws : ParsedJWS) (alg : Jws.Algorithm) (signerKid : String) (jwk : Params) :
    Unpack crates Unit := do
  let method ← signMethod alg
  modifyMetadata fun m => { m with signAlg := some method.1 }
  let key ← (jwk.asCurve crates method.2).context "Unable instantiate signer key"
  let valid ← (jws.verify crates signerKid key).context "Unable verify sign envelope"
  ensure valid (errMsg .malformed "Wrong signature")
  Unpack.record (.verified jws signerKid ⟨method.2, key⟩)

def unpackSign (jws : ParsedJWS) : Unpack crates ParsedEnvelope := do
  ensure (jws.protected_.length == 1) (errMsg .malformed "Wrong amount of signatures for jws")
  let header ← okOr jws.protected_.head?
    (errMsg .invalidState "Unexpected absence of first protected header")
  let signature ← okOr jws.jws.signatures.head?
    (errMsg .invalidState "Unexpected absence of first signature")
  let jwk ← signerJwk crates dids signature.kid
  verifySigner crates jws header.alg signature.kid jwk
  let payload ← base64 crates "Signed payload is invalid base64" jws.jws.payload
  let payload ← utf8 crates "Signed payload is invalid utf8" payload
  modifyMetadata fun m =>
    { m with authenticated := true, nonRepudiation := true, signFrom := some signature.kid,
             signedMessage := some jws.jws }
  parseEnvelope crates payload

def tryUnpackSign : ParsedEnvelope → Unpack crates (Option ParsedEnvelope)
  | .jws jws => some <$> unpackSign crates dids jws
  | _ => pure none

/-- The authentication method that issued a `from_prior`. -/
def FromPrior.issuerMethod (kid : String) : Result VerificationMethod := do
  ensure (didOrUrl kid).2.isSome (errMsg .malformed "from_prior kid is not DID URL")
  let did := (didOrUrl kid).1
  let doc ← dids.resolved (fun e => errMsg .didNotResolved
    ("from_prior issuer DID (" ++ did ++ ") couldn't be resolved. Reason: " ++ e)) did
  ensure (doc.authentication.any fun a => a.id.resolve doc.id == kid)
    (errMsg .didUrlNotFound "Provided issuer_kid is not found in DIDDoc")
  okOr (doc.verificationMethod.find? fun method => method.id == kid)
    (errMsg .didUrlNotFound "from_prior issuer verification method not found in DIDDoc")

/-- The payload of a `from_prior` JWT. -/
def FromPrior.payload (parsed : ParsedCompactJWS) : Result FromPrior := do
  let payload ← base64 crates "from_prior payload is not a valid base64" parsed.payload
  let payload ← utf8 crates "Decoded from_prior payload is not a valid UTF-8" payload
  okOr ((crates.jsonFromStr payload).bind FromPrior.ofJson) (.error ⟨.malformed,
    ["Unable to parse from_prior", (crates.jsonError "FromPrior" payload.toUTF8).text]⟩)

def FromPrior.unpack (fromPriorJwt : String) : Result (FromPrior × String) := do
  let parsed ← parseCompact crates fromPriorJwt
  ensure (parsed.parsedHeader.typ == "JWT")
    (errMsg .malformed "from_prior is malformed: typ is not JWT")
  let method ← FromPrior.issuerMethod dids parsed.parsedHeader.kid
  let jwk ← method.getJwk crates
  let jwk ← okOr jwk (errMsg .unsupported "Couldn't convert key to jwk")
  let signed ← signMethod parsed.parsedHeader.alg
  let key ← (jwk.asCurve crates signed.2).context "Unable to instantiate from_prior issuer key"
  let valid ← (parsed.verify crates key).context "Unable to verify from_prior signature"
  ensure valid (errMsg .malformed "Wrong from_prior signature")
  let fromPrior ← FromPrior.payload crates parsed
  return (fromPrior, parsed.parsedHeader.kid)

/-- The `from_prior` header, if there is one, for the metadata. -/
def unpackFromPrior : Option String → Unpack crates Unit
  | none => pure ()
  | some jwt => do
    let unpacked ← FromPrior.unpack crates dids jwt
    modifyMetadata fun m =>
      { m with fromPrior := some unpacked.1, fromPriorIssuerKid := some unpacked.2 }

def tryUnpackPlaintext : ParsedEnvelope → Unpack crates (Option Message)
  | .message msg => do
    let msg ← msg.validate
    unpackFromPrior crates dids msg.fromPrior
    return some msg
  | _ => pure none

/-- The key itself, or all key agreement keys of the DID. -/
def keyAgreementKids (didOrKid : String) : Result (List String) :=
  match didOrUrl didOrKid with
  | (_, some kid) => .ok [kid]
  | (did, none) => do
    let doc ← dids.resolved (fun e => errMsg .didNotResolved
      ("Couldn't resolve did(" ++ did ++ "). Reason: " ++ e)) did
    return doc.keyAgreement.map fun key => key.id.resolve doc.id

def hasKeyAgreementSecret (didOrKid : String) : Result Bool := do
  let kids ← keyAgreementKids dids didOrKid
  let secretsIds ← Result.ofError (secrets.findSecrets kids)
  return !secretsIds.isEmpty

/-- The text of the message that a forward to one of the own keys carries. -/
def tryUnwrapForwardedMessage : ParsedEnvelope → Result (Option String)
  | .message plaintext =>
    match tryParseForward plaintext with
    | none => .ok none
    | some forward => do
      let mine ← hasKeyAgreementSecret dids secrets forward.next
      return if mine then some (crates.jsonToString forward.forwardedMsg) else none
  | _ => .ok none

def unwrapForwarded (opts : UnpackOptions) (anoncrypted : Option ParsedEnvelope) :
    Result (Option String) :=
  match anoncrypted with
  | some e =>
    if opts.unwrapReWrappingForward then tryUnwrapForwardedMessage crates dids secrets e
    else .ok none
  | none => .ok none

/-- The loop over anonymous layers and forwards, with what is left after the last one and the
number of rounds. The rounds left are those that stay below the limit, so that none is left when
the next one would reach it. -/
def unpackLoop (opts : UnpackOptions) : (left count : Nat) → ParsedEnvelope →
    Unpack crates (ParsedEnvelope × Nat)
  | 0, count, _ =>
    throw (tooManyCryptoOperations opts.cryptoOperationsLimitPerMessage (count + 1))
  | left + 1, count, parsed => do
    let anoncrypted ← tryUnpackAnoncrypt crates secrets opts parsed
    let forwarded ← unwrapForwarded crates dids secrets opts anoncrypted
    match forwarded with
    | none => return (anoncrypted.getD parsed, count + 1)
    | some forwardedMsg => do
      modifyMetadata fun m => { m with reWrappedInForward := true }
      let parsed ← parseEnvelope crates forwardedMsg
      unpackLoop opts left (count + 1) parsed

/-- The rest of `Message::unpack`, once nothing is encrypted any more. -/
def Message.unpackDecrypted (parsed : ParsedEnvelope) : Unpack crates (Message × UnpackMetadata) := do
  let signed ← tryUnpackSign crates dids parsed
  let msg ← tryUnpackPlaintext crates dids (signed.getD parsed)
  let msg ← okOr msg (errMsg .malformed "Message is not a valid JWE, JWS or JWM")
  let s ← get
  return (msg, s.envelope.metadata)

/-- `Message::unpack` on the envelope of the state. -/
def Message.unpack (opts : UnpackOptions) : Unpack crates (Message × UnpackMetadata) := do
  let s ← get
  let parsed ← okOr s.envelope.parsedEnvelope
    (errMsg .invalidState "Parsed envelope not found")
  let looped ← unpackLoop crates dids secrets opts (opts.cryptoOperationsLimitPerMessage - 1) 0 parsed
  let authcrypted ← tryUnpackAuthcrypt crates dids secrets opts looped.2 looped.1
  Message.unpackDecrypted crates dids (authcrypted.getD looped.1)

/-- `MetaEnvelope::new` followed by `unpack`. -/
def Message.unpackString (opts : UnpackOptions) (msg : String) :
    Unpack crates (Message × UnpackMetadata) := do
  MetaEnvelope.new crates dids secrets msg
  Message.unpack crates dids secrets opts

end AffinidiMessaging.Didcomm
