import AffinidiMessaging.Didcomm.Unpack

/-! # The layers of a message

What a received text is made of, without the order of the steps that find it out: the
layers it can be opened through with the secrets at hand, and the message inside.
Unpacking succeeds with exactly these messages, and its metadata are what the layers say.
-/

namespace AffinidiMessaging.Didcomm

open Fallible Serde Unpack

/-- The kids out of a list that are tried: the first one, or all of them. What the last of them
yields counts. -/
inductive Tried (opens : String → ByteArray → Prop) :
    Bool → List String → List String → ByteArray → Prop
  | first {kid : String} {rest : List String} {payload : ByteArray} (h : opens kid payload) :
    Tried opens false (kid :: rest) [kid] payload
  | last {kid : String} {payload : ByteArray} (h : opens kid payload) :
    Tried opens true [kid] [kid] payload
  | next {kid : String} {rest kids : List String} {payload last : ByteArray}
    (h : opens kid payload) (hRest : Tried opens true rest kids last) :
    Tried opens true (kid :: rest) (kid :: kids) last

/-- A layer and the keys it was opened with. -/
inductive Layer (crates : Crates)
  | anoncrypted (jwe : ParsedJWE) (alg : AnonCryptAlg) (kids : List String)
  | forwarded
  | authcrypted (jwe : ParsedJWE) (sender : String × KnownKeyPair crates) (alg : AuthCryptAlg)
    (kids : List String)
  | signed (jws : ParsedJWS) (kid : String) (key : KnownKeyPair crates) (alg : SignAlg)

namespace Layer

variable {crates : Crates}

def ops : Layer crates → List (CryptoOp crates)
  | .anoncrypted jwe _ kids => kids.map (.decrypted jwe none)
  | .forwarded => []
  | .authcrypted jwe sender _ kids => kids.map (.decrypted jwe (some sender))
  | .signed jws kid key _ => [.verified jws kid key]

/-- What a layer adds to the metadata. -/
def describe : Layer crates → UnpackMetadata → UnpackMetadata
  | .anoncrypted jwe alg _, m =>
    { m with encrypted := true, anonymousSender := true, encryptedToKids := some jwe.toKids,
             encAlgAnon := some alg }
  | .forwarded, m => { m with reWrappedInForward := true }
  | .authcrypted jwe sender alg _, m =>
    { m with encrypted := true, authenticated := true, encryptedFromKid := some sender.1,
             encryptedToKids := some jwe.toKids, encAlgAuth := some alg }
  | .signed jws kid _ alg, m =>
    { m with authenticated := true, nonRepudiation := true, signFrom := some kid,
             signedMessage := some jws.jws, signAlg := some alg }

/-- The key that vouches for the sender, where the layer has one. -/
def senderKid : Layer crates → Option String
  | .anoncrypted .. => none
  | .forwarded => none
  | .authcrypted _ sender _ _ => some sender.1
  | .signed _ kid _ _ => some kid

end Layer

def describeAll {crates : Crates} (layers : List (Layer crates)) (m : UnpackMetadata) :
    UnpackMetadata :=
  layers.foldl (fun m layer => layer.describe m) m

variable (crates : Crates) (dids : DidResolver) (secrets : SecretsResolver)

/-- Of one DID, and some of them among the own secrets. -/
def Recipients (jwe : ParsedJWE) (found : List String) : Prop :=
  ∃ toKid, jwe.toKids.head? = some toKid ∧
    ensureOneDid (didOrUrl toKid).1 jwe.toKids = .ok () ∧
    secrets.findSecrets jwe.toKids = .ok found ∧ found ≠ []

/-- A key agreement key of the DID document its kid belongs to. -/
def SenderKey (kid : String) (key : KnownKeyPair crates) : Prop :=
  (didOrUrl kid).2.isSome ∧ ∃ doc method, dids.resolve (didOrUrl kid).1 = .ok doc ∧
    crates.containsKeyAgreement doc kid ∧ crates.getVerificationMethod doc kid = some method ∧
    method.senderKey crates = .ok key

/-- An authentication key of the DID document its kid belongs to. -/
def SignerKey (kid : String) (key : KnownKeyPair crates) : Prop :=
  (didOrUrl kid).2.isSome ∧ ∃ doc method jwk, dids.resolve (didOrUrl kid).1 = .ok doc ∧
    crates.containsAuthentication doc kid ∧
    doc.verificationMethod.find? (fun method => method.id == kid) = some method ∧
    method.getJwk crates = .ok (some jwk) ∧ jwk.asCurve crates key.curve = .ok key.key

def OpensAnon (jwe : ParsedJWE) (alg : AnonCryptAlg) (toKid : String) (payload : ByteArray) : Prop :=
  ∃ key cipher, recipientKey crates secrets toKid = .ok key ∧
    anonMethod key.curve jwe.protected_.enc = some (cipher, alg) ∧
    jwe.decrypt crates cipher .ecdhEs none (toKid, key.key) = .ok payload

def OpensAuth (jwe : ParsedJWE) (sender : String × KnownKeyPair crates) (alg : AuthCryptAlg)
    (toKid : String) (payload : ByteArray) : Prop :=
  ∃ key toKey, recipientKey crates secrets toKid = .ok key ∧
    authMethod sender.2.curve key.curve jwe.protected_.enc = .ok alg ∧
    key.ofCurve sender.2.curve = .ok toKey ∧
    jwe.decrypt crates .a256CbcHs512 .ecdh1PU (some (sender.1, sender.2.key)) (toKid, toKey) =
      .ok payload

/-- A signature over the payload that holds, by the only signer. -/
def Signed (jws : ParsedJWS) (kid : String) (key : KnownKeyPair crates) (alg : SignAlg) : Prop :=
  ∃ header signature, jws.protected_ = [header] ∧ jws.jws.signatures.head? = some signature ∧
    signature.kid = kid ∧ SignerKey crates dids kid key ∧
    signMethod header.alg = .ok (alg, key.curve) ∧ jws.verify crates kid key.key = .ok true

/-- One layer is opened; a forward is not opened but followed. -/
inductive OpensLayer (opts : UnpackOptions) : ParsedEnvelope → Layer crates → ParsedEnvelope → Prop
  | anoncrypted {jwe : ParsedJWE} {found kids : List String} {alg : AnonCryptAlg}
    {payload : ByteArray} {inner : ParsedEnvelope}
    (hAlg : jwe.protected_.alg = .ecdhEsA256kw) (hRecipients : Recipients secrets jwe found)
    (hTried : Tried (OpensAnon crates secrets jwe alg) opts.expectDecryptByAllKeys found kids payload)
    (hInner : openPayload crates "Anoncrypt payload is invalid utf8" (some payload) = .ok inner) :
    OpensLayer opts (.jwe jwe) (.anoncrypted jwe alg kids) inner
  | authcrypted {jwe : ParsedJWE} {apu : ByteArray} {kid : String} {key : KnownKeyPair crates}
    {found kids : List String} {alg : AuthCryptAlg} {payload : ByteArray} {inner : ParsedEnvelope}
    (hAlg : jwe.protected_.alg = .ecdh1puA256kw) (hApu : jwe.apu = some apu)
    (hKid : String.fromUTF8? apu = some kid) (hSender : SenderKey crates dids kid key)
    (hRecipients : Recipients secrets jwe found)
    (hTried : Tried (OpensAuth crates secrets jwe (kid, key) alg) opts.expectDecryptByAllKeys found
      kids payload)
    (hInner : openPayload crates "Authcrypt payload is invalid utf8" (some payload) = .ok inner) :
    OpensLayer opts (.jwe jwe) (.authcrypted jwe (kid, key) alg kids) inner
  | signed {jws : ParsedJWS} {kid : String} {key : KnownKeyPair crates} {alg : SignAlg}
    {bytes : ByteArray} {payload : String} {inner : ParsedEnvelope}
    (hSigned : Signed crates dids jws kid key alg)
    (hBytes : crates.base64Decode jws.jws.payload = .ok bytes)
    (hPayload : String.fromUTF8? bytes = some payload)
    (hInner : parseEnvelope crates payload = .ok inner) :
    OpensLayer opts (.jws jws) (.signed jws kid key alg) inner

def ParsedEnvelope.hasAlg (alg : Algorithm) : ParsedEnvelope → Prop
  | .jwe e => e.protected_.alg = alg
  | _ => False

def ParsedEnvelope.isJws : ParsedEnvelope → Prop
  | .jws _ => True
  | _ => False

/-- Anonymous layers and forwards, down to what is left, in some rounds. -/
inductive Peels (opts : UnpackOptions) :
    ParsedEnvelope → List (Layer crates) → ParsedEnvelope → Nat → Prop
  | stop {parsed : ParsedEnvelope} (h : ¬ parsed.hasAlg .ecdhEsA256kw) :
    Peels opts parsed [] parsed 1
  | anoncrypted {parsed inner : ParsedEnvelope} {layer : Layer crates}
    (hAlg : parsed.hasAlg .ecdhEsA256kw) (h : OpensLayer crates dids secrets opts parsed layer inner)
    (hForward : unwrapForwarded crates dids secrets opts (some inner) = .ok none) :
    Peels opts parsed [layer] inner 1
  | forwarded {parsed inner next last : ParsedEnvelope} {layer : Layer crates}
    {layers : List (Layer crates)} {text : String} {rounds : Nat}
    (hAlg : parsed.hasAlg .ecdhEsA256kw) (h : OpensLayer crates dids secrets opts parsed layer inner)
    (hForward : unwrapForwarded crates dids secrets opts (some inner) = .ok (some text))
    (hNext : parseEnvelope crates text = .ok next) (hRest : Peels opts next layers last rounds) :
    Peels opts parsed (layer :: .forwarded :: layers) last (rounds + 1)

/-- An authenticated layer where there is one, within the limit of operations. -/
inductive Authenticates (opts : UnpackOptions) (count : Nat) :
    ParsedEnvelope → List (Layer crates) → ParsedEnvelope → Prop
  | none {parsed : ParsedEnvelope} (h : ¬ parsed.hasAlg .ecdh1puA256kw) :
    Authenticates opts count parsed [] parsed
  | authcrypted {parsed inner : ParsedEnvelope} {jwe : ParsedJWE}
    {sender : String × KnownKeyPair crates} {alg : AuthCryptAlg} {kids : List String}
    (h : OpensLayer crates dids secrets opts parsed (.authcrypted jwe sender alg kids) inner)
    (hCount : count + kids.length < opts.cryptoOperationsLimitPerMessage) :
    Authenticates opts count parsed [.authcrypted jwe sender alg kids] inner

/-- A signature where there is one. -/
inductive Attests (opts : UnpackOptions) :
    ParsedEnvelope → List (Layer crates) → ParsedEnvelope → Prop
  | none {parsed : ParsedEnvelope} (h : ¬ parsed.isJws) : Attests opts parsed [] parsed
  | signed {parsed inner : ParsedEnvelope} {layer : Layer crates} (hJws : parsed.isJws)
    (h : OpensLayer crates dids secrets opts parsed layer inner) :
    Attests opts parsed [layer] inner

/-- The envelope opens through the layers to the message, whose `from_prior` says `prior`. -/
def OpensEnvelope (opts : UnpackOptions) (outer : ParsedEnvelope) (layers : List (Layer crates))
    (m : Message) (prior : Option (FromPrior × String)) : Prop :=
  ∃ peeled opened outside sender signature rounds,
    Peels crates dids secrets opts outer outside peeled rounds ∧
    rounds < opts.cryptoOperationsLimitPerMessage ∧
    Authenticates crates dids secrets opts rounds peeled sender opened ∧
    Attests crates dids secrets opts opened signature (.message m) ∧
    m.typ = plaintextTyp ∧ m.fromPrior.mapM (FromPrior.unpack crates dids) = .ok prior ∧
    layers = outside ++ sender ++ signature

def Opens (opts : UnpackOptions) (text : String) (layers : List (Layer crates)) (m : Message)
    (prior : Option (FromPrior × String)) : Prop :=
  ∃ outer, parseEnvelope crates text = .ok outer ∧
    OpensEnvelope crates dids secrets opts outer layers m prior

/-- The metadata of a message with these layers. -/
def metadataOf {crates : Crates} (layers : List (Layer crates))
    (prior : Option (FromPrior × String)) : UnpackMetadata :=
  { describeAll layers {} with
    fromPrior := prior.map Prod.fst, fromPriorIssuerKid := prior.map Prod.snd }

end AffinidiMessaging.Didcomm
