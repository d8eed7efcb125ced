import AffinidiMessaging.Didcomm.Document

/-! # Plaintext messages

A plaintext message with its attachments, the payload of a `from_prior` header, and how
both are read from JSON and written to it.
-/

namespace AffinidiMessaging.Didcomm

open Fallible Serde

structure Base64AttachmentData where
  base64 : String
  jws : Option String

structure JsonAttachmentData where
  json : Json
  jws : Option String

structure LinksAttachmentData where
  links : List String
  hash : String
  jws : Option String

inductive AttachmentData
  | base64 (value : Base64AttachmentData)
  | json (value : JsonAttachmentData)
  | links (value : LinksAttachmentData)
  | rkyv (value : List UInt8)
  | bytes (value : List UInt8)

structure Attachment where
  data : AttachmentData
  id : Option String
  description : Option String
  filename : Option String
  mediaType : Option String
  format : Option String
  lastmodTime : Option UInt64
  byteCount : Option UInt64

structure Message where
  id : String
  typ : String
  type_ : String
  body : Json
  from_ : Option String
  to_ : Option (List String)
  thid : Option String
  pthid : Option String
  extraHeaders : List (String × Json)
  createdTime : Option UInt64
  expiresTime : Option UInt64
  fromPrior : Option String
  attachments : Option (List Attachment)

structure FromPrior where
  iss : String
  sub : String
  aud : Option String
  exp : Option UInt64
  nbf : Option UInt64
  iat : Option UInt64
  jti : Option String
deriving DecidableEq

def plaintextTyp : String := "application/didcomm-plain+json"

namespace AttachmentData

/-- The fields of a flattened struct among the entries of an object. -/
def flattened (names : List String) (j : Json) : Option (String → Option Json) := do
  let (_, entries) ← flatRecord [] j
  record names (.obj entries)

def readBase64 (j : Json) : Option AttachmentData := do
  let get ← flattened ["base64", "jws"] j
  let base64 ← required Json.asStr (get "base64")
  let jws ← optional Json.asStr (get "jws")
  return .base64 { base64, jws }

def readJson (j : Json) : Option AttachmentData := do
  let get ← flattened ["json", "jws"] j
  let json ← required value (get "json")
  let jws ← optional Json.asStr (get "jws")
  return .json { json, jws }

def readLinks (j : Json) : Option AttachmentData := do
  let get ← flattened ["links", "hash", "jws"] j
  let links ← required (list Json.asStr) (get "links")
  let hash ← required Json.asStr (get "hash")
  let jws ← optional Json.asStr (get "jws")
  return .links { links, hash, jws }

/-- `Rkyv` and `Bytes` look alike; the first one is taken. -/
def readRkyv (j : Json) : Option AttachmentData := do
  let (get, _) ← flatRecord ["value"] j
  let bytes ← required (list u8) (get "value")
  return .rkyv bytes

/-- The first form that fits. -/
def ofJson (j : Json) : Option AttachmentData :=
  readBase64 j <|> readJson j <|> readLinks j <|> readRkyv j

def bytesJson (bytes : List UInt8) : Json := .arr (bytes.map fun b => .num (.posInt b.toUInt64))

def toJson : AttachmentData → Json
  | .base64 v => .obj (("base64", .str v.base64) :: skipNone "jws" .str v.jws)
  | .json v => .obj (("json", v.json) :: skipNone "jws" .str v.jws)
  | .links v =>
    .obj (("links", .arr (v.links.map .str)) :: ("hash", .str v.hash) :: skipNone "jws" .str v.jws)
  | .rkyv v => .obj [("value", bytesJson v)]
  | .bytes v => .obj [("value", bytesJson v)]

end AttachmentData

def u64Json (n : UInt64) : Json := .num (.posInt n)

namespace Attachment

def ofJson (j : Json) : Option Attachment := do
  let get ← record ["data", "id", "description", "filename", "media_type", "format",
    "lastmod_time", "byte_count"] j
  let data ← required AttachmentData.ofJson (get "data")
  let id ← optional Json.asStr (get "id")
  let description ← optional Json.asStr (get "description")
  let filename ← optional Json.asStr (get "filename")
  let mediaType ← optional Json.asStr (get "media_type")
  let format ← optional Json.asStr (get "format")
  let lastmodTime ← optional u64 (get "lastmod_time")
  let byteCount ← optional u64 (get "byte_count")
  return { data, id, description, filename, mediaType, format, lastmodTime, byteCount }

def toJson (a : Attachment) : Json :=
  .obj (("data", a.data.toJson) :: skipNone "id" .str a.id ++
    skipNone "description" .str a.description ++ skipNone "filename" .str a.filename ++
    skipNone "media_type" .str a.mediaType ++ skipNone "format" .str a.format ++
    skipNone "lastmod_time" u64Json a.lastmodTime ++ skipNone "byte_count" u64Json a.byteCount)

end Attachment

namespace Message

def ofJson (j : Json) : Option Message := do
  let (get, rest) ← flatRecord ["id", "typ", "type", "body", "from", "to", "thid", "pthid",
    "created_time", "expires_time", "from_prior", "attachments"] j
  let id ← required Json.asStr (get "id")
  let typ ← withDefault Json.asStr plaintextTyp (get "typ")
  let type_ ← required Json.asStr (get "type")
  let body ← required value (get "body")
  let from_ ← optional Json.asStr (get "from")
  let to_ ← optional (list Json.asStr) (get "to")
  let thid ← optional Json.asStr (get "thid")
  let pthid ← optional Json.asStr (get "pthid")
  let createdTime ← optional u64 (get "created_time")
  let expiresTime ← optional u64 (get "expires_time")
  let fromPrior ← optional Json.asStr (get "from_prior")
  let attachments ← optional (list Attachment.ofJson) (get "attachments")
  let extraHeaders ← valueMap rest
  return { id, typ, type_, body, from_, to_, thid, pthid, extraHeaders, createdTime, expiresTime,
           fromPrior, attachments }

def toJson (m : Message) : Json :=
  .obj ([("id", .str m.id), ("typ", .str m.typ), ("type", .str m.type_), ("body", m.body)] ++
    skipNone "from" .str m.from_ ++ skipNone "to" (fun ids => .arr (ids.map .str)) m.to_ ++
    skipNone "thid" .str m.thid ++ skipNone "pthid" .str m.pthid ++ m.extraHeaders ++
    skipNone "created_time" u64Json m.createdTime ++
    skipNone "expires_time" u64Json m.expiresTime ++ skipNone "from_prior" .str m.fromPrior ++
    skipNone "attachments" (fun as => .arr (as.map Attachment.toJson)) m.attachments)

/-- A message as its builder starts it. -/
def build (id type_ : String) (body : Json) : Message where
  id := id
  typ := plaintextTyp
  type_ := type_
  body := body
  from_ := none
  to_ := none
  thid := none
  pthid := none
  extraHeaders := []
  createdTime := none
  expiresTime := none
  fromPrior := none
  attachments := none

def validate (m : Message) : Result Message := do
  ensure (m.typ == plaintextTyp)
    (errMsg .malformed ("`typ` must be \"" ++ plaintextTyp ++ "\""))
  return m

end Message

namespace FromPrior

def ofJson (j : Json) : Option FromPrior := do
  let get ← record ["iss", "sub", "aud", "exp", "nbf", "iat", "jti"] j
  let iss ← required Json.asStr (get "iss")
  let sub ← required Json.asStr (get "sub")
  let aud ← optional Json.asStr (get "aud")
  let exp ← optional u64 (get "exp")
  let nbf ← optional u64 (get "nbf")
  let iat ← optional u64 (get "iat")
  let jti ← optional Json.asStr (get "jti")
  return { iss, sub, aud, exp, nbf, iat, jti }

end FromPrior

end AffinidiMessaging.Didcomm
