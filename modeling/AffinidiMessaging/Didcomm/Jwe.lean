import AffinidiMessaging.Didcomm.Message

/-! # Encrypted messages

The JSON form of a JWE, its parsed form and its decryption with one key.
-/

namespace AffinidiMessaging.Didcomm

open Fallible Serde

inductive Algorithm
  | ecdh1puA256kw
  | ecdhEsA256kw
  | other (name : String)
deriving DecidableEq, Repr

def Algorithm.asStr : Algorithm → String
  | .ecdh1puA256kw => "ECDH-1PU+A256KW"
  | .ecdhEsA256kw => "ECDH-ES+A256KW"
  | .other name => name

def Algorithm.ofStr (name : String) : Algorithm :=
  match name with
  | "ECDH-1PU+A256KW" => .ecdh1puA256kw
  | "ECDH-ES+A256KW" => .ecdhEsA256kw
  | name => .other name

theorem Algorithm.asStr_ofStr (name : String) : (ofStr name).asStr = name := by
  unfold ofStr
  split <;> rfl

inductive EncAlgorithm
  | a256cbcHs512
  | xc20P
  | a256Gcm
  | other (name : String)
deriving DecidableEq, Repr

def EncAlgorithm.asStr : EncAlgorithm → String
  | .a256cbcHs512 => "A256CBC-HS512"
  | .xc20P => "XC20P"
  | .a256Gcm => "A256GCM"
  | .other name => name

def EncAlgorithm.ofStr (name : String) : EncAlgorithm :=
  match name with
  | "A256CBC-HS512" => .a256cbcHs512
  | "XC20P" => .xc20P
  | "A256GCM" => .a256Gcm
  | name => .other name

theorem EncAlgorithm.asStr_ofStr (name : String) : (ofStr name).asStr = name := by
  unfold ofStr
  split <;> rfl

structure Recipient where
  kid : String
  encryptedKey : String
deriving DecidableEq, Repr

structure Jwe where
  protected_ : String
  recipients : List Recipient
  iv : String
  ciphertext : String
  tag : String
deriving DecidableEq, Repr

structure ProtectedHeader where
  typ : Option String
  alg : Algorithm
  enc : EncAlgorithm
  skid : Option String
  apu : Option String
  apv : String
  epk : Json

namespace Recipient

/-- The header of a recipient has the kid alone. -/
def ofJson (j : Json) : Option Recipient := do
  let get ← record ["header", "encrypted_key"] j
  let header ← get "header"
  let getHeader ← record ["kid"] header
  let kid ← required Json.asStr (getHeader "kid")
  let encryptedKey ← required Json.asStr (get "encrypted_key")
  return { kid, encryptedKey }

def toJson (r : Recipient) : Json :=
  .obj [("header", .obj [("kid", .str r.kid)]), ("encrypted_key", .str r.encryptedKey)]

end Recipient

namespace Jwe

def ofJson (j : Json) : Option Jwe := do
  let get ← record ["protected", "recipients", "iv", "ciphertext", "tag"] j
  let protected_ ← required Json.asStr (get "protected")
  let recipients ← required (list Recipient.ofJson) (get "recipients")
  let iv ← required Json.asStr (get "iv")
  let ciphertext ← required Json.asStr (get "ciphertext")
  let tag ← required Json.asStr (get "tag")
  return { protected_, recipients, iv, ciphertext, tag }

def toJson (jwe : Jwe) : Json :=
  .obj [("protected", .str jwe.protected_), ("recipients", .arr (jwe.recipients.map Recipient.toJson)),
    ("iv", .str jwe.iv), ("ciphertext", .str jwe.ciphertext), ("tag", .str jwe.tag)]

end Jwe

namespace ProtectedHeader

def ofJson (j : Json) : Option ProtectedHeader := do
  let get ← record ["typ", "alg", "enc", "skid", "apu", "apv", "epk"] j
  let typ ← optional Json.asStr (get "typ")
  let alg ← required Json.asStr (get "alg")
  let enc ← required Json.asStr (get "enc")
  let skid ← optional Json.asStr (get "skid")
  let apu ← optional Json.asStr (get "apu")
  let apv ← required Json.asStr (get "apv")
  let epk ← required value (get "epk")
  return { typ, alg := Algorithm.ofStr alg, enc := EncAlgorithm.ofStr enc, skid, apu, apv, epk }

/-- `typ` is written also when it is absent. -/
def toJson (h : ProtectedHeader) : Json :=
  .obj ([("typ", nullable h.typ), ("alg", .str h.alg.asStr), ("enc", .str h.enc.asStr)] ++
    skipNone "skid" .str h.skid ++ skipNone "apu" .str h.apu ++
    [("apv", .str h.apv), ("epk", h.epk)])

end ProtectedHeader

structure ParsedJWE where
  jwe : Jwe
  protected_ : ProtectedHeader
  apu : Option ByteArray
  apv : ByteArray
  toKids : List String

variable (crates : Crates)

/-- The error for a text that is not of the type, by `to_didcomm`. -/
def jsonFault (msg type : String) (text : ByteArray) : Fault :=
  let e := crates.jsonError type text
  .error ⟨if e.eof then .invalidState else .malformed, [msg, e.text]⟩

/-- The text of some bytes. -/
def utf8 (msg : String) (bytes : ByteArray) : Result String :=
  match String.fromUTF8? bytes with
  | some text => .ok text
  | none => .error (.error ⟨.malformed, [msg, crates.utf8Error bytes]⟩)

def base64 (msg text : String) : Result ByteArray :=
  Result.ofKind .malformed msg (crates.base64Decode text)

/-- The digest of the sorted kids, which a sender writes to `apv`. -/
def apvOf (kids : List String) : ByteArray :=
  crates.sha256 (".".intercalate (kids.insertionSort (· ≤ ·))).toUTF8

def Jwe.parse (jwe : Jwe) : Result ParsedJWE := do
  let decoded ← base64 crates "Unable decode protected header"
    (String.ofList (jwe.protected_.toList.filter (· ≠ '=')))
  let protected_ ← okOr ((crates.jsonFromSlice decoded).bind ProtectedHeader.ofJson)
    (jsonFault crates "Unable parse protected header" "ProtectedHeader" decoded)
  let apv ← base64 crates "Unable decode apv" protected_.apv
  let apu ← protected_.apu.mapM (base64 crates "Unable decode apu")
  return { jwe, protected_, apu, apv, toKids := jwe.recipients.map Recipient.kid }

def Jwe.fromStr (s : String) : Result Jwe :=
  okOr ((crates.jsonFromStr s).bind Jwe.ofJson) (jsonFault crates "Unable parse jwe" "Jwe" s.toUTF8)

def parseJwe (jwe : String) : Result ParsedJWE := do
  let jwe ← Jwe.fromStr crates jwe
  jwe.parse crates

def checkSkid : (apu skid : Option String) → Result Unit
  | some apu, some skid => ensure (apu == skid) (errMsg .malformed "APU mismatch")
  | none, some _ => throw (errMsg .malformed "SKID present, but no apu")
  | _, none => pure ()

namespace ParsedJWE

variable (jwe : ParsedJWE)

def verifyDidcomm : Result ParsedJWE := do
  ensure (jwe.apv == apvOf crates (jwe.jwe.recipients.map Recipient.kid))
    (errMsg .malformed "APV mismatch")
  let apu ← jwe.apu.mapM (utf8 crates "Invalid utf8 for apu")
  checkSkid apu jwe.protected_.skid
  return jwe

/-- `derive_key` for a sender's key that ECDH-1PU needs and ECDH-ES ignores. -/
def deriveKey {curve : Curve} (kdf : Kdf) (ephemKey : crates.KeyPair curve)
    (sendKey : Option (crates.KeyPair curve)) (recipKey : crates.KeyPair curve)
    (alg apu apv ccTag : ByteArray) (receive : Bool) : Result crates.Kek :=
  match kdf with
  | .ecdh1PU => do
    let sendKey ← okOr sendKey (errMsg .invalidState "No sender key for ecdh-1pu")
    messageOf .invalidState "Unable derive kw"
      (crates.ecdh1PU ephemKey sendKey recipKey alg apu apv ccTag receive)
  | .ecdhEs =>
    messageOf .invalidState "Unable derive kw"
      (crates.ecdhEs ephemKey recipKey alg apu apv receive)

def unwrapKey (cipher : Cipher) (kw : crates.Kek) (ciphertext : ByteArray) :
    Result (crates.ContentKey cipher) := do
  let bytes ← messageOf .malformed "Unable decrypt key" (crates.kwDecrypt kw ciphertext)
  messageOf .malformed "Unable create key" (crates.contentKeyFromBytes cipher bytes)

def decrypt {curve : Curve} (cipher : Cipher) (kdf : Kdf)
    (sender : Option (String × crates.KeyPair curve)) (recipient : String × crates.KeyPair curve) :
    Result ByteArray := do
  ensure (sender.map (fun s => s.1.toUTF8) == jwe.apu) (errMsg .invalidState "Wrong skid used")
  let found ← okOr (jwe.jwe.recipients.find? fun r => r.kid == recipient.1)
    (errMsg .invalidState "Recipient not found")
  let encryptedKey ← base64 crates "Unable decode encrypted_key" found.encryptedKey
  let epk ← (fromJwkValue crates curve jwe.protected_.epk).context "Unable instantiate epk"
  let tag ← base64 crates "Unable decode tag" jwe.jwe.tag
  let kw ← (deriveKey crates kdf epk (sender.map Prod.snd) recipient.2
    jwe.protected_.alg.asStr.toUTF8 (jwe.apu.getD .empty) jwe.apv tag true).kind .invalidState
      "Unable derive kw"
  let cek ← (unwrapKey crates cipher kw encryptedKey).kind .malformed "Unable unwrap cek"
  let ciphertext ← base64 crates "Unable decode ciphertext" jwe.jwe.ciphertext
  let iv ← base64 crates "Unable decode iv" jwe.jwe.iv
  messageOf .malformed "Unable decrypt content"
    (crates.contentDecrypt cek (ciphertext ++ tag) iv jwe.jwe.protected_.toUTF8)

end ParsedJWE

end AffinidiMessaging.Didcomm
