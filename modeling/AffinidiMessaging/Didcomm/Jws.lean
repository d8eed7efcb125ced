import AffinidiMessaging.Didcomm.Jwe

/-! # Signed messages

JWS in its general JSON form and in its compact form, which carries a `from_prior` header.
-/

namespace AffinidiMessaging.Didcomm

open Fallible Serde Text

namespace Jws

inductive Algorithm
  | edDSA
  | es256
  | es256K
  | other (name : String)
deriving DecidableEq, Repr

def Algorithm.asStr : Algorithm → String
  | .edDSA => "EdDSA"
  | .es256 => "ES256"
  | .es256K => "ES256K"
  | .other name => name

def Algorithm.ofStr (name : String) : Algorithm :=
  match name with
  | "EdDSA" => .edDSA
  | "ES256" => .es256
  | "ES256K" => .es256K
  | name => .other name

def Algorithm.sigType : Algorithm → Result SignatureType
  | .edDSA => .ok .edDSA
  | .es256 => .ok .es256
  | .es256K => .ok .es256K
  | .other _ => .error (errMsg .unsupported "Unsupported signature type")

structure Signature where
  kid : String
  protected_ : String
  signature : String
deriving DecidableEq, Repr

structure ProtectedHeader where
  typ : String
  alg : Algorithm
deriving DecidableEq, Repr

structure CompactHeader where
  typ : String
  alg : Algorithm
  kid : String
deriving DecidableEq, Repr

end Jws

structure Jws where
  signatures : List Jws.Signature
  payload : String
deriving DecidableEq, Repr

namespace Jws

/-- The header of a signature has the kid alone. -/
def Signature.ofJson (j : Json) : Option Signature := do
  let get ← record ["header", "protected", "signature"] j
  let header ← get "header"
  let getHeader ← record ["kid"] header
  let kid ← required Json.asStr (getHeader "kid")
  let protected_ ← required Json.asStr (get "protected")
  let signature ← required Json.asStr (get "signature")
  return { kid, protected_, signature }

def Signature.toJson (s : Signature) : Json :=
  .obj [("header", .obj [("kid", .str s.kid)]), ("protected", .str s.protected_),
    ("signature", .str s.signature)]

def ProtectedHeader.ofJson (j : Json) : Option ProtectedHeader := do
  let get ← record ["typ", "alg"] j
  let typ ← required Json.asStr (get "typ")
  let alg ← required Json.asStr (get "alg")
  return { typ, alg := Algorithm.ofStr alg }

def ProtectedHeader.toJson (h : ProtectedHeader) : Json :=
  .obj [("typ", .str h.typ), ("alg", .str h.alg.asStr)]

def CompactHeader.ofJson (j : Json) : Option CompactHeader := do
  let get ← record ["typ", "alg", "kid"] j
  let typ ← required Json.asStr (get "typ")
  let alg ← required Json.asStr (get "alg")
  let kid ← required Json.asStr (get "kid")
  return { typ, alg := Algorithm.ofStr alg, kid }

def ofJson (j : Json) : Option Jws := do
  let get ← record ["signatures", "payload"] j
  let signatures ← required (list Signature.ofJson) (get "signatures")
  let payload ← required Json.asStr (get "payload")
  return { signatures, payload }

def toJson (jws : Jws) : Json :=
  .obj [("signatures", .arr (jws.signatures.map Signature.toJson)), ("payload", .str jws.payload)]

end Jws

structure ParsedJWS where
  jws : Jws
  protected_ : List Jws.ProtectedHeader

structure ParsedCompactJWS where
  header : String
  parsedHeader : Jws.CompactHeader
  payload : String
  signature : String

variable (crates : Crates)

def Jws.Signature.parse (s : Jws.Signature) : Result Jws.ProtectedHeader := do
  let decoded ← base64 crates "Unable decode protected header" s.protected_
  okOr ((crates.jsonFromSlice decoded).bind Jws.ProtectedHeader.ofJson)
    (jsonFault crates "Unable parse protected header" "ProtectedHeader" decoded)

def Jws.parse (jws : Jws) : Result ParsedJWS := do
  let protected_ ← jws.signatures.mapM (Jws.Signature.parse crates)
  return { jws, protected_ }

def parseCompact (compactJws : String) : Result ParsedCompactJWS :=
  match splitAll '.' compactJws with
  | [header, payload, signature] => do
    let buf ← base64 crates "Unable decode header" header
    let parsedHeader ← okOr ((crates.jsonFromSlice buf).bind Jws.CompactHeader.ofJson)
      (.error ⟨.malformed, ["Unable parse header", (crates.jsonError "CompactHeader" buf).text]⟩)
    return { header, parsedHeader, payload, signature }
  | _ => .error (errMsg .malformed "Unable to parse compactly serialized JWS")

/-- A signature over the header and the payload, by a key for an algorithm. -/
def verifyInput {curve : Curve} (key : crates.KeyPair curve) (alg : Jws.Algorithm)
    (header payload signature : String) : Result Bool := do
  let sigType ← alg.sigType
  let bytes ← base64 crates "Unable decode signature" signature
  messageOf .malformed "Unable verify signature"
    (crates.verifySignature key (header ++ "." ++ payload).toUTF8 bytes sigType)

def ParsedJWS.verify (jws : ParsedJWS) {curve : Curve} (kid : String)
    (key : crates.KeyPair curve) : Result Bool := do
  let i := jws.jws.signatures.findIdx fun s => s.kid == kid
  let signature ← okOr jws.jws.signatures[i]? (errMsg .invalidState "KID not found")
  let header ← okOr jws.protected_[i]? (errMsg .invalidState "Invalid protected header index")
  verifyInput crates key header.alg signature.protected_ jws.jws.payload signature.signature

def ParsedCompactJWS.verify (jws : ParsedCompactJWS) {curve : Curve}
    (key : crates.KeyPair curve) : Result Bool :=
  verifyInput crates key jws.parsedHeader.alg jws.header jws.payload jws.signature

end AffinidiMessaging.Didcomm
