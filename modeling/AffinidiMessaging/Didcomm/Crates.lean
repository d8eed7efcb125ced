import AffinidiMessaging.Library.Serde

/-! # What the other crates provide

DID documents and keys as their crates define them, and the calls made to these crates.
The calls are parameters: a text they give back on failure is their own error message.
-/

namespace AffinidiMessaging.Didcomm

open Serde

structure VerificationMethod where
  id : String
  type_ : String
  properties : List (String × Json)

inductive DidUrlReference
  | absolute (url : String)
  | relative (url : String)

def DidUrlReference.resolve (did : String) : DidUrlReference → String
  | .absolute url => url
  | .relative url => did ++ url

inductive ValueOrReference
  | reference (id : DidUrlReference)
  | value (method : VerificationMethod)

def ValueOrReference.id : ValueOrReference → DidUrlReference
  | .reference id => id
  | .value method => .absolute method.id

inductive Endpoint
  | uri (uri : String)
  | map (value : Json)

structure Service where
  id : String
  type_ : List String
  serviceEndpoint : Option (List Endpoint)

structure Document where
  id : String
  verificationMethod : List VerificationMethod
  authentication : List ValueOrReference
  keyAgreement : List ValueOrReference
  service : List Service := []

/-- The parameters of a JWK; the coordinates are base64url texts. -/
inductive Params
  | ec (curve x y : Option String)
  | okp (curve publicKey : String)
  | rsa
  | symmetric
deriving DecidableEq

inductive Curve
  | ed25519
  | x25519
  | p256
  | k256
deriving DecidableEq, Repr

/-- The ciphers for the content of a message. -/
inductive Cipher
  | a256CbcHs512
  | xc20P
  | a256Gcm
deriving DecidableEq, Repr

inductive SignatureType
  | edDSA
  | es256
  | es256K
deriving DecidableEq, Repr

/-- The two ways to derive the key that wraps the content key. -/
inductive Kdf
  | ecdh1PU
  | ecdhEs
deriving DecidableEq, Repr

structure JsonError where
  /-- The text ended too early. -/
  eof : Bool
  text : String

inductive Bs58Error
  | bufferTooSmall (text : String)
  | other (text : String)

structure Crates where
  -- serde_json: texts as trees, and what it says about a text that is not of the type
  jsonFromStr : String → Option Json
  jsonFromSlice : ByteArray → Option Json
  jsonError : (type : String) → ByteArray → JsonError
  jsonToString : Json → String
  utf8Error : ByteArray → String
  base64Decode : String → Except String ByteArray
  base64Encode : ByteArray → String
  sha256 : ByteArray → ByteArray
  bs58Decode : String → Except Bs58Error ByteArray
  readUnsignedVarint32 : ByteArray → Except String UInt32
  writeUnsignedVarint32 : UInt32 → Except String ByteArray
  -- askar: key pairs of the four curves
  KeyPair : Curve → Type
  fromJwk : (curve : Curve) → String → Except String (KeyPair curve)
  toJwkPublic : {curve : Curve} → KeyPair curve → Except String String
  x25519FromSecretBytes : ByteArray → Except String (KeyPair .x25519)
  publicBytes : KeyPair .x25519 → ByteArray
  secretBytes : KeyPair .x25519 → Option ByteArray
  verifySignature : {curve : Curve} → KeyPair curve → (message signature : ByteArray) →
    SignatureType → Except String Bool
  createSignature : {curve : Curve} → KeyPair curve → (message : ByteArray) → SignatureType →
    Except String ByteArray
  -- askar: key agreement, key wrapping and content encryption
  Kek : Type
  ecdh1PU : {curve : Curve} → (ephemKey sendKey recipKey : KeyPair curve) →
    (alg apu apv ccTag : ByteArray) → (receive : Bool) → Except String Kek
  ecdhEs : {curve : Curve} → (ephemKey recipKey : KeyPair curve) → (alg apu apv : ByteArray) →
    (receive : Bool) → Except String Kek
  kwEncrypt : Kek → ByteArray → Except String ByteArray
  kwDecrypt : Kek → ByteArray → Except String ByteArray
  ContentKey : Cipher → Type
  contentKeyFromBytes : (cipher : Cipher) → ByteArray → Except String (ContentKey cipher)
  contentKeyBytes : {cipher : Cipher} → ContentKey cipher → Except String ByteArray
  contentEncrypt : {cipher : Cipher} → ContentKey cipher → (buf nonce aad : ByteArray) →
    Except String (ByteArray × ByteArray)
  contentDecrypt : {cipher : Cipher} → ContentKey cipher → (buf nonce aad : ByteArray) →
    Except String ByteArray
  -- what one call of the random generators yields
  Random : Type
  generateContentKey : (cipher : Cipher) → Random → Except String (ContentKey cipher)
  generateKeyPair : (curve : Curve) → Random → Except String (KeyPair curve)
  randomNonce : Cipher → Random → ByteArray
  -- ssi: keys of verification methods
  multibaseDecode : String → Option ByteArray
  multiEncoded : ByteArray → Option ByteArray
  jwkFromMulticodec : ByteArray → Option Params
  jwkFromValue : Json → Option Params
  -- the extension of documents by the DID resolver
  containsAuthentication : Document → (kid : String) → Bool
  containsKeyAgreement : Document → (kid : String) → Bool
  findKeyAgreement : Document → (kid : Option String) → List String
  getVerificationMethod : Document → (kid : String) → Option VerificationMethod
  findService : Document → (id : String) → Option Service

/-- The DID resolver, with its documents as they are during one call. -/
structure DidResolver where
  resolve : String → Except String Document

end AffinidiMessaging.Didcomm
