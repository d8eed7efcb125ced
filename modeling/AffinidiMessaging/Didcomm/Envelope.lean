import AffinidiMessaging.Didcomm.Jws

/-! # Envelopes

The three forms of a DIDComm text, and the envelope that `MetaEnvelope::new` makes of it:
for an encrypted text the sender's key and the recipients whose secrets are there.
-/

namespace AffinidiMessaging.Didcomm

open Fallible Serde

inductive Envelope
  | jwe (jwe : Jwe)
  | jws (jws : Jws)
  | message (msg : Message)

inductive ParsedEnvelope
  | jwe (jwe : ParsedJWE)
  | jws (jws : ParsedJWS)
  | message (msg : Message)

inductive AnonCryptAlg
  | a256cbcHs512EcdhEsA256kw
  | xc20pEcdhEsA256kw
  | a256gcmEcdhEsA256kw
deriving DecidableEq, Repr

inductive AuthCryptAlg
  | a256cbcHs512Ecdh1puA256kw
deriving DecidableEq, Repr

inductive SignAlg
  | edDSA
  | es256
  | es256K
deriving DecidableEq, Repr

structure UnpackMetadata where
  encrypted : Bool := false
  authenticated : Bool := false
  nonRepudiation : Bool := false
  anonymousSender : Bool := false
  reWrappedInForward : Bool := false
  encryptedFromKid : Option String := none
  encryptedToKids : Option (List String) := none
  signFrom : Option String := none
  fromPriorIssuerKid : Option String := none
  encAlgAuth : Option AuthCryptAlg := none
  encAlgAnon : Option AnonCryptAlg := none
  signAlg : Option SignAlg := none
  signedMessage : Option Jws := none
  fromPrior : Option FromPrior := none
deriving DecidableEq

structure MetaEnvelope (crates : Crates) where
  envelope : Option Envelope := none
  parsedEnvelope : Option ParsedEnvelope := none
  metadata : UnpackMetadata := {}
  fromKid : Option String := none
  fromDid : Option String := none
  fromDdoc : Option Document := none
  fromKey : Option (KnownKeyPair crates) := none
  toKid : Option String := none
  toDid : Option String := none
  toKidsFound : List String := []

/-- A cryptographic operation that went through. -/
inductive CryptoOp (crates : Crates)
  | decrypted (jwe : ParsedJWE) (sender : Option (String × KnownKeyPair crates)) (toKid : String)
  | verified (jws : ParsedJWS) (kid : String) (key : KnownKeyPair crates)

/-- The envelope, and a record of the operations so far that the code does not keep. -/
structure UnpackState (crates : Crates) where
  envelope : MetaEnvelope crates
  ops : List (CryptoOp crates)

abbrev Unpack (crates : Crates) := EStateM Fault (UnpackState crates)

variable (crates : Crates)

namespace Envelope

/-- The first form that fits. -/
def ofJson (j : Json) : Option Envelope :=
  (Jwe.ofJson j).map .jwe <|> (Jws.ofJson j).map .jws <|> (Message.ofJson j).map .message

def fromStr (s : String) : Result Envelope :=
  okOr ((crates.jsonFromStr s).bind ofJson)
    (jsonFault crates "Unable deserialize envelope" "Envelope" s.toUTF8)

def parse : Envelope → Result ParsedEnvelope
  | .jwe e => do return .jwe (← e.parse crates)
  | .jws e => do return .jws (← e.parse crates)
  | .message msg => .ok (.message msg)

end Envelope

def ParsedEnvelope.verifyDidcomm : ParsedEnvelope → Result ParsedEnvelope
  | .jwe e => do return .jwe (← e.verifyDidcomm crates)
  | .jws e => .ok (.jws e)
  | .message msg => .ok (.message msg)

/-- `Envelope::from_str(..)?.parse()?.verify_didcomm()?` -/
def parseEnvelope (s : String) : Result ParsedEnvelope := do
  let envelope ← Envelope.fromStr crates s
  let parsed ← envelope.parse crates
  parsed.verifyDidcomm crates

namespace Unpack

variable {crates}

def modifyEnvelope (f : MetaEnvelope crates → MetaEnvelope crates) : Unpack crates Unit :=
  modify fun s => { s with envelope := f s.envelope }

def modifyMetadata (f : UnpackMetadata → UnpackMetadata) : Unpack crates Unit :=
  modifyEnvelope fun e => { e with metadata := f e.metadata }

def record (op : CryptoOp crates) : Unpack crates Unit :=
  modify fun s => { s with ops := s.ops ++ [op] }

end Unpack

variable (dids : DidResolver) (secrets : SecretsResolver)

/-- The key pair of the method, for the sender of an encrypted message. -/
def VerificationMethod.senderKey (method : VerificationMethod) : Result (KnownKeyPair crates) := do
  let jwk ← method.getJwk crates
  let jwk ← okOr jwk (errMsg .malformed "Can't convert verification method to a JWK")
  match jwk.asKeyPair crates with
  | .error (.error e) =>
    throw (errMsg .malformed ("Can't convert verification method to a key pair: " ++ e.text))
  | r => r

/-- The document of a DID, or an error about the text of the resolver's error. -/
def DidResolver.resolved (fault : String → Fault) (did : String) : Result Document :=
  match dids.resolve did with
  | .ok doc => .ok doc
  | .error e => .error (fault e)

def firstKid (toKids : List String) : Result String :=
  okOr toKids.head? (errMsg .malformed "No recipient keys found")

/-- All recipient keys belong to the DID of the first one. -/
def ensureOneDid (toDid : String) (toKids : List String) : Result Unit :=
  ensure (toKids.all fun k => (didOrUrl k).1 == toDid && (didOrUrl k).2.isSome) (errMsg .malformed
    "Recipient keys are outside of one did or can't be resolved to key agreement")

def ensureFound (toKidsFound : List String) : Result Unit :=
  ensure (!toKidsFound.isEmpty) (errMsg .secretNotFound "No recipient secrets found")

namespace ParsedJWE

variable (jwe : ParsedJWE)

open Unpack

/-- The sender that `apu` names: `fill_envelope_from` for a message that has one. -/
def fillSender (apu : ByteArray) : Unpack crates Unit := do
  let fromKid ← utf8 crates "apu is invalid utf8" apu
  let fromDid := (didOrUrl fromKid).1
  ensure (didOrUrl fromKid).2.isSome
    (errMsg .malformed "Sender key can't be resolved to key agreement")
  modifyEnvelope fun e => { e with fromDid := some fromDid }
  let doc ← dids.resolved (errMsg .didNotResolved) fromDid
  modifyEnvelope fun e => { e with fromDdoc := some doc }
  ensure (crates.containsKeyAgreement doc fromKid)
    (errMsg .didUrlNotFound "Sender kid not found in did")
  modifyEnvelope fun e => { e with fromKid := some fromKid }
  let method ← okOr (crates.getVerificationMethod doc fromKid)
    (errMsg .didUrlNotFound "Sender verification method not found in did")
  let keyPair ← method.senderKey crates
  modifyEnvelope fun e => { e with fromKey := some keyPair }
  modifyMetadata fun m =>
    { m with authenticated := true, encrypted := true, encryptedFromKid := some fromKid }

/-- The recipients: the other part of `fill_envelope_from`. -/
def fillRecipients : Unpack crates Unit := do
  let toKid ← firstKid jwe.toKids
  let toDid := (didOrUrl toKid).1
  modifyEnvelope fun e => { e with toKid := some toKid, toDid := some toDid }
  ensureOneDid toDid jwe.toKids
  modifyMetadata fun m => { m with encryptedToKids := some jwe.toKids }
  let found ← Result.ofError (secrets.findSecrets jwe.toKids)
  modifyEnvelope fun e => { e with toKidsFound := found }
  ensureFound found

def fillFrom : Unpack crates Unit :=
  match jwe.apu with
  | some apu => fillSender crates dids apu
  | none => modifyMetadata fun m => { m with anonymousSender := true }

def fillEnvelopeFrom : Unpack crates Unit := do
  fillFrom crates dids jwe
  fillRecipients crates secrets jwe

end ParsedJWE

/-- `_from` -/
def ParsedEnvelope.fill : ParsedEnvelope → Unpack crates Unit
  | .jwe e => e.fillEnvelopeFrom crates dids secrets
  | _ => pure ()

open Unpack in
/-- `MetaEnvelope::new`, on the default envelope. -/
def MetaEnvelope.new (msg : String) : Unpack crates Unit := do
  let envelope ← Envelope.fromStr crates msg
  modifyEnvelope fun e => { e with envelope := some envelope }
  let parsed ← envelope.parse crates
  let parsed ← parsed.verifyDidcomm crates
  modifyEnvelope fun e => { e with parsedEnvelope := some parsed }
  parsed.fill crates dids secrets

end AffinidiMessaging.Didcomm
