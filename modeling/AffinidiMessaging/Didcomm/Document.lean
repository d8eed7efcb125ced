import AffinidiMessaging.Library.Text
import AffinidiMessaging.Didcomm.Crates
import AffinidiMessaging.Didcomm.Error

/-! # DIDs, verification methods and secrets

Keys of verification methods and of secrets, as `document.rs` and `utils/crypto.rs`
make them.
-/

namespace AffinidiMessaging.Didcomm

open Fallible Serde Text

/-- The DID part, and the whole text when it is a URL with a fragment. -/
def didOrUrl (didOrUrl : String) : String × Option String :=
  match splitOnce '#' didOrUrl with
  | some (did, _) => (did, some didOrUrl)
  | none => (didOrUrl, none)

/-- At least three parts between colons, the first of them `did`. -/
def isDid (did : String) : Bool :=
  match splitOnce ':' did with
  | some ("did", rest) => (splitOnce ':' rest).isSome
  | _ => false

inductive KnownKeyAlg
  | known (curve : Curve)
  | unsupported
deriving DecidableEq, Repr

structure KnownKeyPair (crates : Crates) where
  curve : Curve
  key : crates.KeyPair curve

variable (crates : Crates)

/-- `from_jwk_value` -/
def fromJwkValue (curve : Curve) (jwk : Json) : Result (crates.KeyPair curve) :=
  messageOf .malformed "Unable produce jwk" (crates.fromJwk curve (crates.jsonToString jwk))

/-- A key pair of the curve; an error of `from_jwk_value` gets another text in front. -/
def keyPairFromJwk (msg : String) (curve : Curve) (jwk : Json) : Result (KnownKeyPair crates) := do
  let key ← (fromJwkValue crates curve jwk).kind .malformed msg
  return ⟨curve, key⟩

def nullable : Option String → Json
  | some s => .str s
  | none => .null

namespace VerificationMethod

variable (method : VerificationMethod)

def multikeyJwk : Option Params := do
  let key ← method.properties.lookup "publicKeyMultibase"
  let key ← key.asStr
  let decoded ← crates.multibaseDecode key
  let multiEncoded ← crates.multiEncoded decoded
  crates.jwkFromMulticodec multiEncoded

def getJwk : Result (Option Params) :=
  match method.type_ with
  | "Multikey" => .ok (method.multikeyJwk crates)
  | "JsonWebKey2020" => do
    let jwk ← Result.unwrap .publicKeyJwkMissing (method.properties.lookup "publicKeyJwk")
    let jwk ← Result.unwrap .publicKeyJwkMalformed (crates.jwkFromValue jwk)
    return some jwk
  | _ => .ok none

end VerificationMethod

namespace Params

def keyAlg : Params → KnownKeyAlg
  | .ec curve _ _ =>
    match curve.getD "" with
    | "P-256" => .known .p256
    | "secp256k1" => .known .k256
    | _ => .unsupported
  | .okp curve _ =>
    match curve with
    | "Ed25519" => .known .ed25519
    | "X25519" => .known .x25519
    | _ => .unsupported
  | _ => .unsupported

/-- The JWK that is made of the parameters. -/
def jwkValue : Params → Json
  | .ec curve x y =>
    .obj [("crv", nullable curve), ("kty", .str "EC"), ("x", nullable x), ("y", nullable y)]
  | .okp curve x => .obj [("crv", .str curve), ("kty", .str "OKP"), ("x", .str x)]
  | _ => .null

def asKeyPair (jwk : Params) : Result (KnownKeyPair crates) :=
  match jwk with
  | .rsa => .error (errMsg .unsupported "Unsupported key type or curve (RSA)")
  | .symmetric => .error (errMsg .unsupported "Unsupported key type or curve (Symmetric)")
  | jwk =>
    match jwk.keyAlg with
    | .known curve => keyPairFromJwk crates "Unable parse jwk" curve jwk.jwkValue
    | .unsupported => .error (errMsg .unsupported "Unsupported key type or curve")

end Params

/-- The key pair, if it is of the curve. -/
def KnownKeyPair.ofCurve {crates : Crates} (curve : Curve) (pair : KnownKeyPair crates) :
    Result (crates.KeyPair curve) :=
  if h : pair.curve = curve then .ok (h ▸ pair.key)
  else .error (errMsg .invalidState "Unexpected key pair type")

/-- `as_ed25519`, `as_x25519`, `as_p256` and `as_k256` of a verification method. -/
def Params.asCurve (curve : Curve) (jwk : Params) : Result (crates.KeyPair curve) := do
  ensure (jwk.keyAlg == .known curve) (errMsg .invalidState "Unexpected key alg")
  let pair ← jwk.asKeyPair crates
  pair.ofCurve curve

inductive SecretType
  | jsonWebKey2020
  | x25519KeyAgreementKey2019
  | x25519KeyAgreementKey2020
  | ed25519VerificationKey2018
  | ed25519VerificationKey2020
  | ecdsaSecp256k1VerificationKey2019
  | other
deriving DecidableEq, Repr

inductive SecretMaterial
  | jwk (privateKeyJwk : Json)
  | multibase (privateKeyMultibase : String)
  | base58 (privateKeyBase58 : String)

structure Secret where
  id : String
  type_ : SecretType
  secretMaterial : SecretMaterial

/-- The secrets of the caller; each call answers as documented, never by a panic. -/
structure SecretsResolver where
  getSecret : String → Except Error (Option Secret)
  findSecrets : List String → Except Error (List String)

inductive Codec
  | x25519Pub
  | ed25519Pub
  | x25519Priv
  | ed25519Priv
deriving DecidableEq, Repr

def Codec.codecByPrefix (value : UInt32) : Result Codec :=
  match value with
  | 0xEC => .ok .x25519Pub
  | 0xED => .ok .ed25519Pub
  | 0x1302 => .ok .x25519Priv
  | 0x1300 => .ok .ed25519Priv
  | _ => .error (errMsg .illegalArgument "Unsupported prefix")

/-- `split_at`, which panics when there are not that many bytes. -/
def splitAt (bytes : ByteArray) (mid : Nat) : Result (ByteArray × ByteArray) :=
  if mid ≤ bytes.size then .ok (bytes.extract 0 mid, bytes.extract mid bytes.size)
  else .error (.panic .splitOutOfRange)

def fromMulticodec (value : ByteArray) : Result (Codec × ByteArray) := do
  let prefixInt ← Result.ofKind .invalidState "Cannot read varint" (crates.readUnsignedVarint32 value)
  let codec ← Codec.codecByPrefix prefixInt
  let prefixBytes ← Result.ofKind .invalidState "Cannot write varint"
    (crates.writeUnsignedVarint32 prefixInt)
  let (_, rest) ← splitAt value prefixBytes.size
  return (codec, rest)

/-- The bytes of a base58 text. -/
def bs58Bytes (msg text : String) : Result ByteArray :=
  match crates.bs58Decode text with
  | .ok bytes => .ok bytes
  | .error (.bufferTooSmall e) => .error (.error ⟨.invalidState, [msg, e]⟩)
  | .error (.other e) => .error (.error ⟨.malformed, [msg, e]⟩)

/-- An X25519 key pair from its secret bytes, by way of a JWK. -/
def x25519Pair (msg : String) (bytes : ByteArray) : Result (KnownKeyPair crates) := do
  let keyPair ← messageOf .malformed "Unable parse x25519 secret material"
    (crates.x25519FromSecretBytes bytes)
  let d := match crates.secretBytes keyPair with
    | some sk => [("d", Json.str (crates.base64Encode sk))]
    | none => []
  let x := crates.base64Encode (crates.publicBytes keyPair)
  keyPairFromJwk crates msg .x25519
    (.obj (("crv", .str "X25519") :: d ++ [("kty", .str "OKP"), ("x", .str x)]))

/-- An Ed25519 key pair from the 32 secret bytes and the public bytes after them. -/
def ed25519Pair (msg : String) (bytes : ByteArray) : Result (KnownKeyPair crates) := do
  let (d, x) ← splitAt bytes 32
  keyPairFromJwk crates msg .ed25519
    (.obj [("crv", .str "Ed25519"), ("d", .str (crates.base64Encode d)), ("kty", .str "OKP"),
      ("x", .str (crates.base64Encode x))])

/-- The bytes after the codec of a multibase text, which must be of the codec. -/
def multibaseBytes (codec : Codec) (text : String) : Result ByteArray := do
  ensure (text.toList.head? == some 'z') (errMsg .illegalArgument "Multibase must start with 'z'")
  let decoded ← bs58Bytes crates "Wrong multibase value in secret material"
    (String.ofList text.toList.tail)
  let (found, bytes) ← fromMulticodec crates decoded
  ensure (found == codec) (errMsg .illegalArgument "Wrong codec in multibase secret material")
  return bytes

/-- The curve that a private JWK names. -/
def jwkKeyAlg (jwk : Json) : KnownKeyAlg :=
  match (jwk.index "kty").asStr, (jwk.index "crv").asStr with
  | some "EC", some "P-256" => .known .p256
  | some "EC", some "secp256k1" => .known .k256
  | some "OKP", some "Ed25519" => .known .ed25519
  | some "OKP", some "X25519" => .known .x25519
  | _, _ => .unsupported

namespace Secret

variable (secret : Secret)

def keyAlg : KnownKeyAlg :=
  match secret.type_, secret.secretMaterial with
  | .jsonWebKey2020, .jwk value => jwkKeyAlg value
  | .x25519KeyAgreementKey2019, .base58 _ => .known .x25519
  | .ed25519VerificationKey2018, .base58 _ => .known .ed25519
  | .x25519KeyAgreementKey2020, .multibase _ => .known .x25519
  | .ed25519VerificationKey2020, .multibase _ => .known .ed25519
  | _, _ => .unsupported

def asKeyPair : Result (KnownKeyPair crates) :=
  match secret.type_, secret.secretMaterial with
  | .jsonWebKey2020, .jwk value =>
    match jwkKeyAlg value with
    | .known curve => keyPairFromJwk crates "Unable parse jwk" curve value
    | .unsupported => .error (errMsg .unsupported "Unsupported key type or curve")
  | .x25519KeyAgreementKey2019, .base58 value => do
    let bytes ← bs58Bytes crates "Wrong base58 value in secret material" value
    x25519Pair crates "Unable parse base58 secret material" bytes
  | .ed25519VerificationKey2018, .base58 value => do
    let bytes ← bs58Bytes crates "Wrong base58 value in secret material" value
    ed25519Pair crates "Unable parse base58 secret material" bytes
  | .x25519KeyAgreementKey2020, .multibase value => do
    let bytes ← multibaseBytes crates .x25519Priv value
    x25519Pair crates "Unable parse multibase secret material" bytes
  | .ed25519VerificationKey2020, .multibase value => do
    let bytes ← multibaseBytes crates .ed25519Priv value
    ed25519Pair crates "Unable parse multibase secret material" bytes
  | _, _ => .error (errMsg .unsupported "Unsupported secret method type and material combination")

/-- `as_ed25519`, `as_x25519`, `as_p256` and `as_k256` of a secret. -/
def asCurve (curve : Curve) : Result (crates.KeyPair curve) := do
  ensure (secret.keyAlg == .known curve) (errMsg .invalidState "Unexpected key alg")
  let pair ← secret.asKeyPair crates
  pair.ofCurve curve

end Secret

end AffinidiMessaging.Didcomm
