import AffinidiMessaging.Library.Base64
import AffinidiMessaging.Library.JsonText
import AffinidiMessaging.Didcomm.Document

/-! # Crates with ideal cryptography

JSON and base64 are what they are. A key pair is known by its coordinate `x`; a signature and an
encrypted content carry the keys and everything else they depend on, and nothing else opens them.
-/

namespace AffinidiMessaging.Didcomm

open Serde

def joined (parts : List ByteArray) : ByteArray :=
  ⟨(parts.flatMap fun part => part.data.toList).toArray⟩

/-- The bytes after a prefix. -/
def afterPrefix (start bytes : ByteArray) : Option ByteArray :=
  if start.data.toList <+: bytes.data.toList then
    some ⟨(bytes.data.toList.drop start.data.toList.length).toArray⟩
  else none

theorem size_joined (parts : List ByteArray) : (joined parts).size = (parts.map ByteArray.size).sum := by
  change (parts.flatMap fun part => part.data.toList).toArray.size = _
  rw [List.size_toArray, List.length_flatMap]
  rfl

theorem afterPrefix_joined (start rest : ByteArray) : afterPrefix start (joined [start, rest]) = some rest := by
  simp [afterPrefix, joined]

def orFailed (o : Option ByteArray) : Except String ByteArray :=
  match o with
  | some bytes => .ok bytes
  | none => .error "aead::Error"

def jwkCoordinate (jwk : String) : Except String String :=
  match (JsonText.read jwk).bind fun j => (j.index "x").asStr with
  | some x => .ok x
  | none => .error "missing field `x`"

def jwkText (curve : Curve) (x : String) : String :=
  let crv := match curve with
    | .ed25519 => "Ed25519"
    | .x25519 => "X25519"
    | .p256 => "P-256"
    | .k256 => "secp256k1"
  JsonText.write (.obj [("crv", .str crv), ("kty", .str "OKP"), ("x", .str x)])

def jwkParams (jwk : Json) : Option Params := do
  let kty ← (jwk.index "kty").asStr
  let crv ← (jwk.index "crv").asStr
  let x ← (jwk.index "x").asStr
  match kty with
  | "OKP" => some (.okp crv x)
  | "EC" => some (.ec (some crv) (some x) (jwk.index "y").asStr)
  | _ => none

/-- Ideal cryptography over a given digest. -/
def ideal (sha256 : ByteArray → ByteArray) : Crates where
  jsonFromStr := JsonText.read
  jsonFromSlice bytes := (String.fromUTF8? bytes).bind JsonText.read
  jsonError _ bytes := ⟨bytes.size == 0, "expected value at line 1 column 1"⟩
  jsonToString := JsonText.write
  utf8Error _ := "invalid utf-8 sequence"
  base64Decode text :=
    match Base64.decode text with
    | some bytes => .ok bytes
    | none => .error "Invalid symbol"
  base64Encode := Base64.encode
  sha256 := sha256
  bs58Decode _ := .error (.other "provided string contained invalid character")
  readUnsignedVarint32 bytes :=
    match bytes.data.toList with
    | b :: _ => if b < 128 then .ok b.toUInt32 else .error "Invalid"
    | [] => .error "Insufficient"
  writeUnsignedVarint32 n := .ok ⟨#[n.toUInt8]⟩
  KeyPair _ := String
  fromJwk _ := jwkCoordinate
  toJwkPublic := fun {curve} x => .ok (jwkText curve x)
  x25519FromSecretBytes bytes := .ok (Base64.encode bytes)
  publicBytes x := x.toUTF8
  secretBytes x := some x.toUTF8
  verifySignature key message signature _ := .ok (signature == joined [key.toUTF8, message])
  createSignature key message _ := .ok (joined [key.toUTF8, message])
  Kek := ByteArray
  ecdh1PU ephemKey sendKey recipKey alg apu apv ccTag _ :=
    .ok (joined [ephemKey.toUTF8, sendKey.toUTF8, recipKey.toUTF8, alg, apu, apv, ccTag])
  ecdhEs ephemKey recipKey alg apu apv _ :=
    .ok (joined [ephemKey.toUTF8, recipKey.toUTF8, alg, apu, apv])
  kwEncrypt kek bytes := .ok (joined [kek, bytes])
  kwDecrypt kek bytes := orFailed (afterPrefix kek bytes)
  ContentKey _ := ByteArray
  contentKeyFromBytes _ bytes := .ok bytes
  contentKeyBytes key := .ok key
  contentEncrypt key buf nonce aad := .ok (joined [key, nonce, aad, buf], .empty)
  contentDecrypt key buf nonce aad := orFailed (afterPrefix (joined [key, nonce, aad]) buf)
  Random := ByteArray
  generateContentKey _ random := .ok random
  generateKeyPair _ random := .ok (Base64.encode random)
  randomNonce _ random := random
  multibaseDecode _ := none
  multiEncoded := some
  jwkFromMulticodec _ := none
  jwkFromValue := jwkParams
  containsAuthentication doc kid := doc.authentication.any fun key => key.id.resolve doc.id == kid
  containsKeyAgreement doc kid := doc.keyAgreement.any fun key => key.id.resolve doc.id == kid
  findKeyAgreement doc kid :=
    match kid with
    | some kid => (doc.keyAgreement.map fun key => key.id.resolve doc.id).filter (· == kid)
    | none => doc.keyAgreement.map fun key => key.id.resolve doc.id
  getVerificationMethod doc kid := doc.verificationMethod.find? fun method => method.id == kid
  findService doc id := doc.service.find? fun service => service.id == id

section

variable (sha256 : ByteArray → ByteArray)

theorem ideal_base64 (bytes : ByteArray) :
    (ideal sha256).base64Decode ((ideal sha256).base64Encode bytes) = .ok bytes := by
  simp only [ideal, Base64.decode_encode]

theorem ideal_jsonFromStr (j : Json) : (ideal sha256).jsonFromStr (JsonText.write j) = some j :=
  JsonText.read_write j

theorem fromUTF8_toUTF8 (text : String) : String.fromUTF8? text.toUTF8 = some text := by
  unfold String.fromUTF8?
  split
  · rfl
  · rename_i h
    exact absurd text.isValidUTF8 h

end

end AffinidiMessaging.Didcomm
