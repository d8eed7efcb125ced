import AffinidiMessaging.Didcomm.Unpack

/-! # Packing

The envelopes that `pack_plaintext`, `pack_signed`, `anoncrypt` and `authcrypt` make. What the random
generators yield is an argument.
-/

namespace AffinidiMessaging.Didcomm

open Fallible Serde Text

/-- What one encryption draws. -/
structure Draws (crates : Crates) where
  cek : crates.Random
  epk : crates.Random
  nonce : crates.Random

/-- The `enc` and the cipher of an anonymous layer. -/
def AnonCryptAlg.method : AnonCryptAlg → EncAlgorithm × Cipher
  | .a256cbcHs512EcdhEsA256kw => (.a256cbcHs512, .a256CbcHs512)
  | .xc20pEcdhEsA256kw => (.xc20P, .xc20P)
  | .a256gcmEcdhEsA256kw => (.a256Gcm, .a256Gcm)

structure PackEncryptedOptions where
  protectSender : Bool := false
  forward : Bool := true
  forwardHeaders : Option (List (String × Json)) := none
  messagingService : Option String := none
  encAlgAuth : AuthCryptAlg := .a256cbcHs512Ecdh1puA256kw
  encAlgAnon : AnonCryptAlg := .xc20pEcdhEsA256kw
  toKidsLimit : Nat := 100

variable (crates : Crates) (dids : DidResolver) (secrets : SecretsResolver)

/-- `to_jwk_public_value` -/
def toJwkPublicValue {curve : Curve} (key : crates.KeyPair curve) : Result Json := do
  let jwk ← messageOf .malformed "Unable produce jwk string" (crates.toJwkPublic key)
  okOr ((crates.jsonFromStr jwk).bind value) (.error ⟨.invalidState,
    ["Unable produce jwk value", (crates.jsonError "Value" jwk.toUTF8).text]⟩)

def wrapKey {cipher : Cipher} (kw : crates.Kek) (key : crates.ContentKey cipher) : Result ByteArray := do
  let bytes ← messageOf .invalidState "Unable encrypt" (crates.contentKeyBytes key)
  messageOf .invalidState "Unable encrypt" (crates.kwEncrypt kw bytes)

namespace Jwe

/-- The content key for one recipient. -/
def encryptKey {curve : Curve} {cipher : Cipher} (kdf : Kdf) (alg : Algorithm) (apv tag : ByteArray)
    (cek : crates.ContentKey cipher) (epk : crates.KeyPair curve)
    (sender : Option (String × crates.KeyPair curve)) (recipient : String × crates.KeyPair curve) :
    Result Recipient := do
  let apu := (sender.map fun s => s.1.toUTF8).getD .empty
  let kw ← (ParsedJWE.deriveKey crates kdf epk (sender.map Prod.snd) recipient.2 alg.asStr.toUTF8 apu apv
    tag false).kind .invalidState "Unable derive kw"
  let encryptedKey ← (wrapKey crates kw cek).kind .invalidState "Unable wrap key"
  return { kid := recipient.1, encryptedKey := crates.base64Encode encryptedKey }

def encryptKeys {curve : Curve} {cipher : Cipher} (kdf : Kdf) (alg : Algorithm) (apv tag : ByteArray)
    (cek : crates.ContentKey cipher) (epk : crates.KeyPair curve)
    (sender : Option (String × crates.KeyPair curve)) :
    List (String × crates.KeyPair curve) → Result (List Recipient)
  | [] => .ok []
  | recipient :: rest => do
    let first ← encryptKey crates kdf alg apv tag cek epk sender recipient
    let others ← encryptKeys kdf alg apv tag cek epk sender rest
    return first :: others

def encrypt {curve : Curve} (draws : Draws crates) (plaintext : ByteArray) (cipher : Cipher) (kdf : Kdf)
    (alg : Algorithm) (enc : EncAlgorithm) (sender : Option (String × crates.KeyPair curve))
    (recipients : List (String × crates.KeyPair curve)) : Result String := do
  let skid := sender.map Prod.fst
  let cek ← messageOf .invalidState "Unable generate cek" (crates.generateContentKey cipher draws.cek)
  let apv := apvOf crates (recipients.map Prod.fst)
  let epk ← messageOf .invalidState "Unable generate epk" (crates.generateKeyPair curve draws.epk)
  let epkJwk ← toJwkPublicValue crates epk
  let header : ProtectedHeader :=
    { typ := some "application/didcomm-encrypted+json", alg, enc, skid
      apu := skid.map fun skid => crates.base64Encode skid.toUTF8
      apv := crates.base64Encode apv
      epk := epkJwk }
  let protected_ := crates.base64Encode (crates.jsonToString header.toJson).toUTF8
  let iv := crates.randomNonce cipher draws.nonce
  let content ← messageOf .invalidState "Unable encrypt content"
    (crates.contentEncrypt cek plaintext iv protected_.toUTF8)
  let encryptedKeys ← encryptKeys crates kdf alg apv content.2 cek epk sender recipients
  let jwe : Jwe :=
    { protected_, recipients := encryptedKeys
      iv := crates.base64Encode iv
      ciphertext := crates.base64Encode content.1
      tag := crates.base64Encode content.2 }
  return crates.jsonToString jwe.toJson

end Jwe

/-- The verification methods of the kids. -/
def keysOf (doc : Document) (missing : String → Fault) : List String → Result (List VerificationMethod)
  | [] => .ok []
  | kid :: rest => do
    let first ← okOr (doc.verificationMethod.find? fun method => method.id == kid) (missing kid)
    let others ← keysOf doc missing rest
    return first :: others

/-- The kind of key of a method that has a JWK. -/
def VerificationMethod.keyAlg (method : VerificationMethod) : Result (Option KnownKeyAlg) := do
  let jwk ← method.getJwk crates
  return jwk.map Params.keyAlg

/-- The kind of the first key of a supported one. -/
def firstKeyAlg : List VerificationMethod → Result (Option KnownKeyAlg)
  | [] => .ok none
  | method :: rest => do
    match ← method.keyAlg crates with
    | some (.known curve) => return some (.known curve)
    | _ => firstKeyAlg rest

def keysWithAlg (alg : KnownKeyAlg) : List VerificationMethod → Result (List VerificationMethod)
  | [] => .ok []
  | method :: rest => do
    let found ← method.keyAlg crates
    let others ← keysWithAlg alg rest
    return if found == some alg then method :: others else others

/-- The key of a method, as one of the curve. -/
def VerificationMethod.asCurve (method : VerificationMethod) (msg : String) (curve : Curve) :
    Result (crates.KeyPair curve) := do
  let jwk ← method.getJwk crates
  let jwk ← okOr jwk (errMsg .noCompatibleCrypto msg)
  jwk.asCurve crates curve

def keyPairs (msg : String) (curve : Curve) :
    List VerificationMethod → Result (List (String × crates.KeyPair curve))
  | [] => .ok []
  | method :: rest => do
    let key ← method.asCurve crates msg curve
    let others ← keyPairs msg curve rest
    return (method.id, key) :: others

/-- The curve of a kind of key that can agree on keys. -/
def KnownKeyAlg.agreementCurve (unsupported : Fault) : KnownKeyAlg → Result Curve
  | .known .x25519 => .ok .x25519
  | .known .p256 => .ok .p256
  | .known .k256 => .ok .k256
  | _ => .error unsupported

/-- Why there is no JWK for a key of the curve. -/
def noJwk (p256 k256 : String) : Curve → String
  | .p256 => "Couldn't create JWK for " ++ p256
  | .k256 => "Couldn't create JWK for " ++ k256
  | _ => "Couldn't create JWK for x25519"

/-- The recipient's keys, by the key agreement of the document. -/
def toKidsOf (doc : Document) (toKid : Option String) (toKidsLimit : Nat) : Result (List String) := do
  let toKids := crates.findKeyAgreement doc toKid
  ensure (!toKids.isEmpty) (errMsg .didUrlNotFound "No recipient key agreements found")
  ensure (!decide (toKidsLimit < toKids.length)) (errMsg .tooManyCryptoOperations
    ("Too many keys in did. Keys limit is '" ++ toString toKidsLimit ++ "' but found '" ++
      toString toKids.length ++ "' key(s)."))
  return toKids

def anonEncrypt (draws : Draws crates) (curve : Curve) (msg : ByteArray) (encAlgAnon : AnonCryptAlg)
    (context : String) (toKeys : List (String × crates.KeyPair curve)) : Result String :=
  (Jwe.encrypt crates draws msg encAlgAnon.method.2 .ecdhEs .ecdhEsA256kw encAlgAnon.method.1 none toKeys).context
    context

def anoncrypt (draws : Draws crates) (to_ : String) (msg : ByteArray) (encAlgAnon : AnonCryptAlg)
    (toKidsLimit : Nat) : Result (String × List String) := do
  let doc ← dids.resolved (fun _ => errMsg .didNotResolved "Recipient did not found") (didOrUrl to_).1
  let toKids ← toKidsOf crates doc (didOrUrl to_).2 toKidsLimit
  let toKeys ← keysOf doc
    (fun _ => errMsg .unsupported "External keys are unsupported in this version") toKids
  let keyAlg ← firstKeyAlg crates toKeys
  let keyAlg ← okOr keyAlg (errMsg .invalidState "No key agreement keys found for recipient")
  let toKeys ← keysWithAlg crates keyAlg toKeys
  let curve ← keyAlg.agreementCurve (errMsg .invalidState "Unsupported recipient key agreement alg")
  let keys ← keyPairs crates (noJwk "p256" "k256" curve) curve toKeys
  let msg ← anonEncrypt crates draws curve msg encAlgAnon "Unable produce anoncrypt envelope" keys
  return (msg, toKeys.map VerificationMethod.id)

/-- Some key of the recipient is of the kind. -/
def anyKeyAlg (alg : KnownKeyAlg) : List VerificationMethod → Result Bool
  | [] => .ok false
  | method :: rest => do
    let found ← method.keyAlg crates
    if found == some alg then return true else anyKeyAlg alg rest

/-- The first key of the sender that a key of the recipient matches. -/
def commonKey (toKeys : List VerificationMethod) : List VerificationMethod →
    Result (Option (VerificationMethod × KnownKeyAlg))
  | [] => .ok none
  | method :: rest => do
    match ← method.keyAlg crates with
    | some (.known curve) =>
      if ← anyKeyAlg crates (.known curve) toKeys then return some (method, .known curve)
      else commonKey toKeys rest
    | _ => commonKey toKeys rest

def senderKids (doc : Document) (fromKid : Option String) : Result (List String) := do
  let fromKids := crates.findKeyAgreement doc fromKid
  ensure (!fromKids.isEmpty) (errMsg .didUrlNotFound "No sender key agreements found")
  let fromKids ← (Result.ofError (secrets.findSecrets fromKids)).context "Unable find secrets"
  ensure (!fromKids.isEmpty) (errMsg .secretNotFound "No sender secrets found")
  return fromKids

def noMaterial (whose kid : String) : Fault :=
  errMsg .malformed ("No verification material found for " ++ whose ++ " key agreement " ++ kid)

/-- The authenticated layer, and an anonymous one around it where the sender is protected. -/
def authEncrypt (draws : Draws crates × Draws crates) (curve : Curve) (msg : ByteArray) (fromKid : String)
    (fromSecret : Secret) (opts : PackEncryptedOptions) (toKeys : List (String × crates.KeyPair curve)) :
    Result String := do
  let fromKey ← fromSecret.asCurve crates curve
  let msg ← (Jwe.encrypt crates draws.1 msg .a256CbcHs512 .ecdh1PU .ecdh1puA256kw .a256cbcHs512
    (some (fromKid, fromKey)) toKeys).context "Unable produce authcrypt envelope"
  if opts.protectSender then
    anonEncrypt crates draws.2 curve msg.toUTF8 opts.encAlgAnon "Unable produce authcrypt envelope" toKeys
  else return msg

def authcrypt (draws : Draws crates × Draws crates) (to_ from_ : String) (msg : ByteArray)
    (opts : PackEncryptedOptions) : Result (String × String × List String) := do
  let toDoc ← dids.resolved (fun _ => errMsg .didNotResolved "Recipient did not found") (didOrUrl to_).1
  let fromDoc ← dids.resolved (fun _ => errMsg .didNotResolved "Sender did not found") (didOrUrl from_).1
  let fromKids ← senderKids crates secrets fromDoc (didOrUrl from_).2
  let fromKeys ← keysOf fromDoc (noMaterial "sender") fromKids
  let toKids ← toKidsOf crates toDoc (didOrUrl to_).2 opts.toKidsLimit
  let toKeys ← keysOf toDoc (noMaterial "recipient") toKids
  let common ← commonKey crates toKeys fromKeys
  let (fromKey, keyAlg) ← okOr common
    (errMsg .noCompatibleCrypto "No common keys between sender and recipient found")
  let fromSecret ← (Result.ofError (secrets.getSecret fromKey.id)).context "Unable resolve sender secret"
  let fromSecret ← okOr fromSecret (errMsg .invalidState "Sender secret not found")
  let toKeys ← keysWithAlg crates keyAlg toKeys
  let curve ← keyAlg.agreementCurve (errMsg .unsupported "Unsupported recipient key agreement method")
  let keys ← keyPairs crates (noJwk "p_256" "k_256" curve) curve toKeys
  let msg ← authEncrypt crates draws curve msg fromKey.id fromSecret opts keys
  return (msg, fromKey.id, toKeys.map VerificationMethod.id)

/-- The JWS of a payload, for the algorithm of the key. -/
def Jws.sign {curve : Curve} (payload : ByteArray) (kid : String) (key : crates.KeyPair curve)
    (alg : Jws.Algorithm) : Result String := do
  let sigType ← alg.sigType
  let header : Jws.ProtectedHeader := { typ := "application/didcomm-signed+json", alg }
  let protected_ := crates.base64Encode (crates.jsonToString header.toJson).toUTF8
  let payload := crates.base64Encode payload
  let signature ← messageOf .invalidState "Unable create signature"
    (crates.createSignature key (protected_ ++ "." ++ payload).toUTF8 sigType)
  let signature : Jws.Signature := { kid, protected_, signature := crates.base64Encode signature }
  let jws : Jws := { signatures := [signature], payload }
  return crates.jsonToString jws.toJson

/-- The algorithm for a key that can sign. -/
def Curve.signAlg : Curve → Result Jws.Algorithm
  | .ed25519 => .ok .edDSA
  | .p256 => .ok .es256
  | .k256 => .ok .es256K
  | .x25519 => .error (errMsg .unsupported "Unsupported signature alg")

def FromPrior.validatePack (fromPrior : FromPrior) (issuerKid : Option String) : Result Unit := do
  ensure (isDid fromPrior.iss && (didOrUrl fromPrior.iss).2.isNone)
    (errMsg .malformed "from_prior `iss` must be a non-fragment DID")
  ensure (isDid fromPrior.sub && (didOrUrl fromPrior.sub).2.isNone)
    (errMsg .malformed "from_prior `sub` must be a non-fragment DID")
  ensure (fromPrior.iss != fromPrior.sub)
    (errMsg .malformed "from_prior `iss` and `sub` values must not be equal")
  match issuerKid with
  | some issuerKid => do
    ensure (didOrUrl issuerKid).2.isSome (errMsg .illegalArgument "issuer_kid content is not DID URL")
    ensure ((didOrUrl issuerKid).1 == fromPrior.iss)
      (errMsg .illegalArgument "from_prior issuer kid does not belong to from_prior `iss`")
  | none => pure ()

namespace Message

variable (m : Message)

def validatePackPlaintext : Option (FromPrior × String) → Result Unit
  | some (fromPrior, issuerKid) => do
    fromPrior.validatePack (some issuerKid)
    match m.from_ with
    | some sender =>
      ensure (fromPrior.sub == sender)
        (errMsg .malformed "from_prior `sub` value is not equal to message `from` value")
    | none => pure ()
  | none => pure ()

def packPlaintext : Result String := do
  let prior ← m.fromPrior.mapM (FromPrior.unpack crates dids)
  m.validatePackPlaintext prior
  return crates.jsonToString m.toJson

/-- The kid itself, or the authentication methods of the DID. -/
def authentications (doc : Document) : Option String → Result (List String)
  | some kid => do
    ensure (crates.containsAuthentication doc kid)
      (errMsg .didUrlNotFound "Signer key id not found in did doc")
    return [kid]
  | none => .ok (doc.authentication.map fun a => a.id.resolve doc.id)

def packSigned (signBy : String) : Result (String × String) := do
  ensure (isDid signBy) (errMsg .illegalArgument "`sign_from` value is not a valid DID or DID URL")
  let did := (didOrUrl signBy).1
  let doc ← dids.resolved (fun e => errMsg .didNotResolved
    ("Couldn't resolve (" ++ did ++ "). Reason: " ++ e)) did
  let kids ← authentications crates doc (didOrUrl signBy).2
  let found ← (Result.ofError (secrets.findSecrets kids)).context "Unable find secrets"
  let keyId ← okOr found.head? (errMsg .secretNotFound "No signer secrets found")
  let secret ← (Result.ofError (secrets.getSecret keyId)).context "Unable get secret"
  let secret ← okOr secret (errMsg .secretNotFound "Signer secret not found")
  let signKey ← (secret.asKeyPair crates).context "Unable instantiate sign key"
  let payload ← m.packPlaintext crates dids
  let alg ← signKey.curve.signAlg
  let msg ← (Jws.sign crates payload.toUTF8 keyId signKey.key alg).context "Unable produce signatire"
  return (msg, keyId)

end Message

end AffinidiMessaging.Didcomm
