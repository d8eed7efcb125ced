import AffinidiMessaging.Didcomm.Pack

/-! # Forwarding and `pack_encrypted`

The services of a DID document, the onion of forward messages around an encrypted message, and
`pack_encrypted` as a whole.
-/

namespace AffinidiMessaging.Didcomm

open Fallible Serde Text

structure DidCommMessagingService where
  uri : String
  accept : Option (List String)
  routingKeys : List String

structure MessagingServiceMetadata where
  id : String
  serviceEndpoint : String
deriving DecidableEq

structure PackEncryptedMetadata where
  messagingService : Option MessagingServiceMetadata
  fromKid : Option String
  signByKid : Option String
  toKids : List String

namespace DidCommMessagingService

def ofJson (j : Json) : Option DidCommMessagingService := do
  let get ← defaultedRecord 1 ["uri", "accept", "routingKeys"] j
  let uri ← required Json.asStr (get "uri")
  let accept ← optional (list Json.asStr) (get "accept")
  let routingKeys ← withDefault (list Json.asStr) [] (get "routingKeys")
  return { uri, accept, routingKeys }

end DidCommMessagingService

/-- The endpoint is for DIDComm, which it is too when it does not say what it accepts. -/
def Endpoint.accepts : Endpoint → Bool
  | .uri _ => false
  | .map value =>
    match value with
    | .obj fields =>
      match fields.lookup "accept" with
      | some accept => ((list Json.asStr accept).getD []).contains "didcomm/v2"
      | none => true
    | _ => true

namespace Service

variable (service : Service)

/-- Any type will do, as long as there is one. -/
def checkType : Result Unit :=
  ensure (!service.type_.isEmpty) (errMsg .invalidState ("Service (" ++ service.id ++
    ") is not type `DIDCommMessaging. Instead it is (" ++ service.type_.head?.getD "" ++ ")"))

def invalidEndpoint : Fault :=
  errMsg .invalidState ("Service (" ++ service.id ++ ") has an invalid serviceEndpoint definition")

def check : Result (String × DidCommMessagingService) := do
  service.checkType
  let endpoints ← okOr service.serviceEndpoint
    (errMsg .invalidState ("Service (" ++ service.id ++ ") has no serviceEndpoint definitions"))
  let endpoint ← okOr (endpoints.find? Endpoint.accepts)
    (errMsg .illegalArgument "Service with the specified ID does not accept didcomm/v2 profile")
  let value ← match endpoint with
    | .map value => pure value
    | .uri _ => throw service.invalidEndpoint
  let found ← okOr (DidCommMessagingService.ofJson value) service.invalidEndpoint
  return (service.id, found)

end Service

variable (crates : Crates) (dids : DidResolver) (secrets : SecretsResolver)

/-- The service asked for, or the first one that will do. -/
def findDidCommService (doc : Document) : Option String →
    Result (Option (String × DidCommMessagingService))
  | some serviceId => do
    let service ← okOr (crates.findService doc serviceId)
      (errMsg .invalidState "Service with the specified ID not found in the DID document")
    return some (← service.check)
  | none => .ok (doc.service.findSome? fun service =>
    match service.check with
    | .ok found => some found
    | .error _ => none)

/-- The services from the first mediator on; only one of them may refer to another DID. -/
def resolveDidCommServicesChain (to_ : String) (serviceId : Option String) :
    Result (List (String × DidCommMessagingService)) := do
  let unresolved (e : String) : Fault :=
    errMsg .didNotResolved ("Couldn't resolve DID(" ++ to_ ++ "). Reason: " ++ e)
  let doc ← dids.resolved unresolved to_
  match ← findDidCommService crates doc serviceId with
  | none => return []
  | some service =>
    if isDid service.2.uri then
      let doc ← dids.resolved unresolved service.2.uri
      let found ← findDidCommService crates doc none
      let mediator ← okOr found (errMsg .invalidState
        "Referenced mediator does not provide any DIDCommMessaging services")
      ensure (!isDid mediator.2.uri)
        (errMsg .invalidState "DID doc defines alternative endpoints recursively")
      return [mediator, service]
    else return [service]

/-- The text of a forward message, under a fresh id. -/
def buildForwardMessage (id forwardedMsg next : String) (headers : List (String × Json)) :
    Result String := do
  let json ← okOr ((crates.jsonFromStr forwardedMsg).bind value) (.error ⟨.malformed,
    ["Unable deserialize forwarded message", (crates.jsonError "Value" forwardedMsg.toUTF8).text]⟩)
  let attachment : Attachment :=
    { data := .json { json, jws := none }
      id := none, description := none, filename := none, mediaType := none, format := none
      lastmodTime := none, byteCount := none }
  let msg : Message :=
    { Message.build id forwardMsgType (.obj [("next", .str next)]) with
      extraHeaders := headers
      attachments := some [attachment]
      to_ := some [next] }
  return crates.jsonToString msg.toJson

/-- What each forward message needs: an id and what its encryption draws. -/
structure ForwardDraws (crates : Crates) where
  id : String
  draws : Draws crates

/-- The onion for the routing keys, from the last one inwards. -/
def wrapLayers (draws : Nat → ForwardDraws crates) (headers : List (String × Json))
    (encAlgAnon : AnonCryptAlg) (toKidsLimit : Nat) : String → List (String × String) → Result String
  | msg, [] => .ok msg
  | msg, (to_, next) :: rest => do
    let layer := draws rest.length
    let forward ← buildForwardMessage crates layer.id msg next headers
    let wrapped ← anoncrypt crates dids layer.draws to_ forward.toUTF8 encAlgAnon toKidsLimit
    wrapLayers draws headers encAlgAnon toKidsLimit wrapped.1 rest

/-- `wrap_in_forward`: the next hop of each routing key is the one after it, and of the last one the
recipient. -/
def wrapInForward (draws : Nat → ForwardDraws crates) (msg : String) (headers : List (String × Json))
    (to_ : String) (routingKeys : List String) (encAlgAnon : AnonCryptAlg) (toKidsLimit : Nat) :
    Result String :=
  if routingKeys.isEmpty then .error (.panic .removeOutOfRange)
  else
    let nexts := routingKeys.tail ++ [to_]
    wrapLayers crates dids draws headers encAlgAnon toKidsLimit msg
      (routingKeys.reverse.zip nexts.reverse)

/-- The routing keys of a chain of services. -/
def routingKeysOf : List (String × DidCommMessagingService) → List String
  | [] => []
  | chain@(_ :: rest) =>
    rest.map (fun service => service.2.uri) ++ (chain.getLast?.map fun s => s.2.routingKeys).getD []

def wrapInForwardIfNeeded (draws : Nat → ForwardDraws crates) (msg to_ : String)
    (opts : PackEncryptedOptions) : Result (Option (String × MessagingServiceMetadata)) := do
  if !opts.forward then return none
  else do
    let chain ← resolveDidCommServicesChain crates dids to_ opts.messagingService
    match chain.head?, chain.getLast? with
    | some first, some last =>
      let routingKeys := routingKeysOf chain
      if routingKeys.isEmpty then return none
      else do
        let forwardMsg ← wrapInForward crates dids draws msg (opts.forwardHeaders.getD []) to_ routingKeys
          opts.encAlgAnon opts.toKidsLimit
        return some (forwardMsg, { id := last.1, serviceEndpoint := first.2.uri })
    | _, _ => return none

namespace Message

variable (m : Message)

def validatePackEncrypted (to_ : String) (from_ signBy : Option String) : Result Unit := do
  ensure (isDid to_) (errMsg .illegalArgument "`to` value is not a valid DID or DID URL")
  ensure (from_.all isDid) (errMsg .illegalArgument "`from` value is not a valid DID or DID URL")
  ensure (signBy.all isDid) (errMsg .illegalArgument "`sign_from` value is not a valid DID or DID URL")
  ensure (m.to_.all fun to' => to'.contains (didOrUrl to_).1)
    (errMsg .illegalArgument "`message.to` value does not contain `to` value's DID")
  match from_, m.from_ with
  | some sender, some sender' =>
    ensure ((didOrUrl sender).1 == sender')
      (errMsg .illegalArgument "`message.from` value is not equal to `from` value's DID")
  | _, _ => pure ()

/-- The text to encrypt, signed where that is asked for. -/
def packInner (signBy : Option String) : Result (String × Option String) :=
  match signBy with
  | some signBy => do
    let signed ← (m.packSigned crates dids secrets signBy).context "Unable produce sign envelope"
    return (signed.1, some signed.2)
  | none => do
    let msg ← (m.packPlaintext crates dids).context "Unable produce plaintext"
    return (msg, none)

/-- What `pack_encrypted` draws at random. -/
structure PackDraws (crates : Crates) where
  layers : Draws crates × Draws crates
  forwards : Nat → ForwardDraws crates

/-- The encrypted text, the key of the sender and those of the recipient. -/
def packOuter (draws : Draws crates × Draws crates) (to_ : String) (from_ : Option String)
    (opts : PackEncryptedOptions) (msg : String) : Result (String × Option String × List String) :=
  match from_ with
  | some sender => do
    let packed ← authcrypt crates dids secrets draws to_ sender msg.toUTF8 opts
    return (packed.1, some packed.2.1, packed.2.2)
  | none => do
    let packed ← anoncrypt crates dids draws.1 to_ msg.toUTF8 opts.encAlgAnon opts.toKidsLimit
    return (packed.1, none, packed.2)

def packEncrypted (draws : PackDraws crates) (to_ : String) (from_ signBy : Option String)
    (opts : PackEncryptedOptions) : Result (String × PackEncryptedMetadata) := do
  m.validatePackEncrypted to_ from_ signBy
  let inner ← m.packInner crates dids secrets signBy
  let outer ← packOuter crates dids secrets draws.layers to_ from_ opts inner.1
  let forward ← wrapInForwardIfNeeded crates dids draws.forwards outer.1 to_ opts
  let metadata : PackEncryptedMetadata :=
    { messagingService := forward.map Prod.snd, fromKid := outer.2.1, signByKid := inner.2
      toKids := outer.2.2 }
  return ((forward.map Prod.fst).getD outer.1, metadata)

end Message

end AffinidiMessaging.Didcomm
