import AffinidiMessaging.Library.Metered
import AffinidiMessaging.Didcomm.ReWrapping
import AffinidiMessaging.Didcomm.Rotation

/-! # The limit of crypto operations

`unpack` with a counter of its own, which goes up at each decryption of a JWE and at each verification of a signature.
The code counts the rounds of its loop and the keys of an authenticated layer against the limit, and neither the other
keys of an anonymous layer nor signatures.
-/

namespace AffinidiMessaging.Didcomm

open Fallible Serde

theorem unwrap_of_forwarded {crates : Crates} {dids : DidResolver} {secrets : SecretsResolver} {opts : UnpackOptions}
    {e : Option ParsedEnvelope} {forwarded : Option String}
    (h : unwrapForwarded crates dids secrets opts e = .ok forwarded) (hSome : forwarded.isSome) :
    opts.unwrapReWrappingForward = true := by
  cases e with
  | none =>
    cases h
    cases hSome
  | some e =>
    rw [unwrapForwarded] at h
    split at h
    · assumption
    · cases h
      cases hSome

namespace Counted

/-- The counter after some rounds of the loop, of those that are left. -/
structure InRounds {crates : Crates} (opts : UnpackOptions) (left n rounds : Nat) (s : UnpackState crates × Nat) :
    Prop where
  pos : 0 < rounds
  left : rounds ≤ left
  count : s.2 ≤ n + rounds
  once : opts.unwrapReWrappingForward = false → rounds = 1

/-- The counter wherever the loop stops. -/
structure WithinRounds {crates : Crates} (opts : UnpackOptions) (left n : Nat)
    (s : UnpackState crates × Nat) : Prop where
  left : s.2 ≤ n + left
  once : opts.unwrapReWrappingForward = false → s.2 ≤ n + 1

theorem InRounds.succ {crates : Crates} {opts : UnpackOptions} {left n rounds : Nat} {s : UnpackState crates × Nat}
    (h : InRounds opts left (n + 1) rounds s) (hUnwrap : opts.unwrapReWrappingForward = true) :
    InRounds opts (left + 1) n (rounds + 1) s where
  pos := Nat.succ_pos rounds
  left := Nat.succ_le_succ h.left
  count := by have hCount := h.count; omega
  once hOff := absurd hUnwrap (by rw [hOff]; decide)

variable (crates : Crates) (dids : DidResolver) (secrets : SecretsResolver) (opts : UnpackOptions)

/-- `unpack` and its parts, with every operation counted. -/
abbrev Unpack := Metered Fault (UnpackState crates)

def anonDecrypt (jwe : ParsedJWE) (toKid : String) : Unpack crates ByteArray := do
  let toKey ← recipientKey crates secrets toKid
  let method ← okOr (anonMethod toKey.curve jwe.protected_.enc)
    (errMsg .unsupported "Unsupported recipient key agreement method")
  unmetered (Unpack.modifyMetadata fun m => { m with encAlgAnon := some method.2 })
  tick
  let payload ← jwe.decrypt crates method.1 .ecdhEs none (toKid, toKey.key)
  unmetered (Unpack.record (.decrypted jwe none toKid))
  return payload

def anonPayload (jwe : ParsedJWE) : Option ByteArray → List String → Unpack crates (Option ByteArray)
  | payload, [] => pure payload
  | _, toKid :: rest => do
    let payload ← anonDecrypt crates secrets jwe toKid
    if opts.expectDecryptByAllKeys then anonPayload jwe (some payload) rest
    else pure (some payload)

def unpackAnoncrypt (jwe : ParsedJWE) : Unpack crates ParsedEnvelope := do
  let toKid ← firstKid jwe.toKids
  ensureOneDid (didOrUrl toKid).1 jwe.toKids
  unmetered (Unpack.modifyMetadata fun m =>
    { m with encryptedToKids := some jwe.toKids, encrypted := true, anonymousSender := true })
  let toKidsFound ← Result.ofError (secrets.findSecrets jwe.toKids)
  ensureFound toKidsFound
  let payload ← anonPayload crates secrets opts jwe none toKidsFound
  openPayload crates "Anoncrypt payload is invalid utf8" payload

def tryUnpackAnoncrypt : ParsedEnvelope → Unpack crates (Option ParsedEnvelope)
  | .jwe jwe =>
    if jwe.protected_.alg ≠ .ecdhEsA256kw then pure none
    else some <$> unpackAnoncrypt crates secrets opts jwe
  | _ => pure none

def authDecrypt (jwe : ParsedJWE) (toKid : String) : Unpack crates ByteArray := do
  let toKey ← recipientKey crates secrets toKid
  let s ← unmetered (get : Didcomm.Unpack crates (UnpackState crates))
  let fromKey ← Result.unwrap .senderKeyMissing s.envelope.fromKey
  let method ← authMethod fromKey.curve toKey.curve jwe.protected_.enc
  unmetered (Unpack.modifyMetadata fun m => { m with encAlgAuth := some method })
  let fromKid ← Result.unwrap .senderKidMissing s.envelope.fromKid
  let toKey ← toKey.ofCurve fromKey.curve
  tick
  let payload ← jwe.decrypt crates .a256CbcHs512 .ecdh1PU (some (fromKid, fromKey.key)) (toKid, toKey)
  unmetered (Unpack.record (.decrypted jwe (some (fromKid, fromKey)) toKid))
  return payload

def authPayload (jwe : ParsedJWE) :
    Nat → Option ByteArray → List String → Unpack crates (Option ByteArray)
  | _, payload, [] => pure payload
  | count, _, toKid :: rest => do
    ensure (count + 1 < opts.cryptoOperationsLimitPerMessage)
      (tooManyCryptoOperations opts.cryptoOperationsLimitPerMessage (count + 1))
    let payload ← authDecrypt crates secrets jwe toKid
    if opts.expectDecryptByAllKeys then authPayload jwe (count + 1) (some payload) rest
    else pure (some payload)

def unpackAuthcrypt (jwe : ParsedJWE) (count : Nat) : Unpack crates ParsedEnvelope := do
  unmetered (fillIfUnknown crates dids secrets jwe)
  let s ← unmetered (get : Didcomm.Unpack crates (UnpackState crates))
  let payload ← authPayload crates secrets opts jwe count none s.envelope.toKidsFound
  openPayload crates "Authcrypt payload is invalid utf8" payload

def tryUnpackAuthcrypt (count : Nat) : ParsedEnvelope → Unpack crates (Option ParsedEnvelope)
  | .jwe jwe =>
    if jwe.protected_.alg ≠ .ecdh1puA256kw then pure none
    else some <$> unpackAuthcrypt crates dids secrets opts jwe count
  | _ => pure none

def verifySigner (jws : ParsedJWS) (alg : Jws.Algorithm) (signerKid : String) (jwk : Params) :
    Unpack crates Unit := do
  let method ← signMethod alg
  unmetered (Unpack.modifyMetadata fun m => { m with signAlg := some method.1 })
  let key ← (jwk.asCurve crates method.2).context "Unable instantiate signer key"
  tick
  let valid ← (jws.verify crates signerKid key).context "Unable verify sign envelope"
  ensure valid (errMsg .malformed "Wrong signature")
  unmetered (Unpack.record (.verified jws signerKid ⟨method.2, key⟩))

def unpackSign (jws : ParsedJWS) : Unpack crates ParsedEnvelope := do
  ensure (jws.protected_.length == 1) (errMsg .malformed "Wrong amount of signatures for jws")
  let header ← okOr jws.protected_.head?
    (errMsg .invalidState "Unexpected absence of first protected header")
  let signature ← okOr jws.jws.signatures.head?
    (errMsg .invalidState "Unexpected absence of first signature")
  let jwk ← signerJwk crates dids signature.kid
  verifySigner crates jws header.alg signature.kid jwk
  let payload ← base64 crates "Signed payload is invalid base64" jws.jws.payload
  let payload ← utf8 crates "Signed payload is invalid utf8" payload
  unmetered (Unpack.modifyMetadata fun m =>
    { m with authenticated := true, nonRepudiation := true, signFrom := some signature.kid,
             signedMessage := some jws.jws })
  parseEnvelope crates payload

def tryUnpackSign : ParsedEnvelope → Unpack crates (Option ParsedEnvelope)
  | .jws jws => some <$> unpackSign crates dids jws
  | _ => pure none

def fromPrior (fromPriorJwt : String) : Unpack crates (FromPrior × String) := do
  let parsed ← parseCompact crates fromPriorJwt
  ensure (parsed.parsedHeader.typ == "JWT")
    (errMsg .malformed "from_prior is malformed: typ is not JWT")
  let method ← FromPrior.issuerMethod dids parsed.parsedHeader.kid
  let jwk ← method.getJwk crates
  let jwk ← okOr jwk (errMsg .unsupported "Couldn't convert key to jwk")
  let signed ← signMethod parsed.parsedHeader.alg
  let key ← (jwk.asCurve crates signed.2).context "Unable to instantiate from_prior issuer key"
  tick
  let valid ← (parsed.verify crates key).context "Unable to verify from_prior signature"
  ensure valid (errMsg .malformed "Wrong from_prior signature")
  let fromPrior ← FromPrior.payload crates parsed
  return (fromPrior, parsed.parsedHeader.kid)

def unpackFromPrior : Option String → Unpack crates Unit
  | none => pure ()
  | some jwt => do
    let unpacked ← fromPrior crates dids jwt
    unmetered (Unpack.modifyMetadata fun m =>
      { m with fromPrior := some unpacked.1, fromPriorIssuerKid := some unpacked.2 })

def tryUnpackPlaintext : ParsedEnvelope → Unpack crates (Option Message)
  | .message msg => do
    let msg ← msg.validate
    unpackFromPrior crates dids msg.fromPrior
    return some msg
  | _ => pure none

def unpackLoop : (left count : Nat) → ParsedEnvelope → Unpack crates (ParsedEnvelope × Nat)
  | 0, count, _ =>
    throw (tooManyCryptoOperations opts.cryptoOperationsLimitPerMessage (count + 1))
  | left + 1, count, parsed => do
    let anoncrypted ← tryUnpackAnoncrypt crates secrets opts parsed
    let forwarded ← unwrapForwarded crates dids secrets opts anoncrypted
    match forwarded with
    | none => return (anoncrypted.getD parsed, count + 1)
    | some forwardedMsg => do
      unmetered (Unpack.modifyMetadata fun m => { m with reWrappedInForward := true })
      let parsed ← parseEnvelope crates forwardedMsg
      unpackLoop left (count + 1) parsed

def unpackDecrypted (parsed : ParsedEnvelope) : Unpack crates (Message × UnpackMetadata) := do
  let signed ← tryUnpackSign crates dids parsed
  let msg ← tryUnpackPlaintext crates dids (signed.getD parsed)
  let msg ← okOr msg (errMsg .malformed "Message is not a valid JWE, JWS or JWM")
  let s ← unmetered (get : Didcomm.Unpack crates (UnpackState crates))
  return (msg, s.envelope.metadata)

def unpack : Unpack crates (Message × UnpackMetadata) := do
  let s ← unmetered (get : Didcomm.Unpack crates (UnpackState crates))
  let parsed ← okOr s.envelope.parsedEnvelope (errMsg .invalidState "Parsed envelope not found")
  let looped ← unpackLoop crates dids secrets opts (opts.cryptoOperationsLimitPerMessage - 1) 0 parsed
  let authcrypted ← tryUnpackAuthcrypt crates dids secrets opts looped.2 looped.1
  unpackDecrypted crates dids (authcrypted.getD looped.1)

/-! ## The counter changes nothing -/

theorem meters_anonDecrypt (jwe : ParsedJWE) (toKid : String) :
    Meters (anonDecrypt crates secrets jwe toKid) (Didcomm.anonDecrypt crates secrets jwe toKid) := by
  refine .bind (.lift _) fun toKey => .bind (.lift _) fun method => .bind (.unmetered _) fun _ => .tick_bind ?_
  exact .bind (.lift _) fun payload => .bind (.unmetered _) fun _ => .pure _

theorem meters_anonPayload (jwe : ParsedJWE) (before : Option ByteArray) (found : List String) :
    Meters (anonPayload crates secrets opts jwe before found)
      (Didcomm.anonPayload crates secrets opts jwe before found) := by
  induction found generalizing before with
  | nil => exact .pure before
  | cons kid rest ih =>
    exact .bind (meters_anonDecrypt crates secrets jwe kid) fun payload => .ite (ih (some payload)) (.pure _)

theorem meters_tryUnpackAnoncrypt (parsed : ParsedEnvelope) :
    Meters (tryUnpackAnoncrypt crates secrets opts parsed) (Didcomm.tryUnpackAnoncrypt crates secrets opts parsed) := by
  cases parsed with
  | jwe jwe =>
    refine .ite (.pure _) (.map ?_)
    refine .bind (.lift _) fun toKid => .bind (.lift _) fun _ => .bind (.unmetered _) fun _ =>
      .bind (.lift _) fun found => ?_
    exact .bind (.lift _) fun _ => .bind (meters_anonPayload crates secrets opts jwe none found) fun _ => .lift _
  | jws jws => exact .pure _
  | message m => exact .pure _

theorem meters_authDecrypt (jwe : ParsedJWE) (toKid : String) :
    Meters (authDecrypt crates secrets jwe toKid) (Didcomm.authDecrypt crates secrets jwe toKid) := by
  refine .bind (.lift _) fun toKey => .bind (.unmetered _) fun s => .bind (.lift _) fun fromKey =>
    .bind (.lift _) fun method => ?_
  refine .bind (.unmetered _) fun _ => .bind (.lift _) fun fromKid => .bind (.lift _) fun toKey => .tick_bind ?_
  exact .bind (.lift _) fun payload => .bind (.unmetered _) fun _ => .pure _

theorem meters_authPayload (jwe : ParsedJWE) (count : Nat) (before : Option ByteArray) (found : List String) :
    Meters (authPayload crates secrets opts jwe count before found)
      (Didcomm.authPayload crates secrets opts jwe count before found) := by
  induction found generalizing count before with
  | nil => exact .pure before
  | cons kid rest ih =>
    refine .bind (.ensure _ _) fun _ => .bind (meters_authDecrypt crates secrets jwe kid) fun payload => ?_
    exact .ite (ih (count + 1) (some payload)) (.pure _)

theorem meters_tryUnpackAuthcrypt (count : Nat) (parsed : ParsedEnvelope) :
    Meters (tryUnpackAuthcrypt crates dids secrets opts count parsed)
      (Didcomm.tryUnpackAuthcrypt crates dids secrets opts count parsed) := by
  cases parsed with
  | jwe jwe =>
    refine .ite (.pure _) (.map ?_)
    refine .bind (.unmetered _) fun _ => .bind (.unmetered _) fun s => ?_
    exact .bind (meters_authPayload crates secrets opts jwe count none s.envelope.toKidsFound) fun _ => .lift _
  | jws jws => exact .pure _
  | message m => exact .pure _

theorem meters_verifySigner (jws : ParsedJWS) (alg : Jws.Algorithm) (signerKid : String) (jwk : Params) :
    Meters (verifySigner crates jws alg signerKid jwk) (Didcomm.verifySigner crates jws alg signerKid jwk) := by
  refine .bind (.lift _) fun method => .bind (.unmetered _) fun _ => .bind (.lift _) fun key => .tick_bind ?_
  exact .bind (.lift _) fun valid => .bind (.ensure _ _) fun _ => .unmetered _

theorem meters_tryUnpackSign (parsed : ParsedEnvelope) :
    Meters (tryUnpackSign crates dids parsed) (Didcomm.tryUnpackSign crates dids parsed) := by
  cases parsed with
  | jws jws =>
    refine .map (.bind (.ensure _ _) fun _ => .bind (.lift _) fun header => .bind (.lift _) fun signature => ?_)
    refine .bind (.lift _) fun jwk => .bind (meters_verifySigner crates jws header.alg signature.kid jwk) fun _ => ?_
    exact .bind (.lift _) fun _ => .bind (.lift _) fun _ => .bind (.unmetered _) fun _ => .lift _
  | jwe jwe => exact .pure _
  | message m => exact .pure _

theorem meters_fromPrior (jwt : String) :
    Meters (fromPrior crates dids jwt) (liftM (FromPrior.unpack crates dids jwt) : Didcomm.Unpack crates _) := by
  simp only [FromPrior.unpack, lift_bind, lift_ensure]
  refine .bind (.lift _) fun parsed => .bind (.ensure _ _) fun _ => .bind (.lift _) fun method =>
    .bind (.lift _) fun jwk => ?_
  refine .bind (.lift _) fun jwk => .bind (.lift _) fun signed => .bind (.lift _) fun key => .tick_bind ?_
  exact .bind (.lift _) fun valid => .bind (.ensure _ _) fun _ => .bind (.lift _) fun _ => .pure _

theorem meters_tryUnpackPlaintext (parsed : ParsedEnvelope) :
    Meters (tryUnpackPlaintext crates dids parsed) (Didcomm.tryUnpackPlaintext crates dids parsed) := by
  cases parsed with
  | message m =>
    refine .bind (.lift _) fun m => .bind ?_ fun _ => .pure _
    cases m.fromPrior with
    | none => exact .pure ()
    | some jwt => exact .bind (meters_fromPrior crates dids jwt) fun _ => .unmetered _
  | jwe jwe => exact .pure _
  | jws jws => exact .pure _

theorem meters_unpackLoop (left count : Nat) (parsed : ParsedEnvelope) :
    Meters (unpackLoop crates dids secrets opts left count parsed)
      (Didcomm.unpackLoop crates dids secrets opts left count parsed) := by
  induction left generalizing count parsed with
  | zero => exact .throw _
  | succ left ih =>
    refine .bind (meters_tryUnpackAnoncrypt crates secrets opts parsed) fun anoncrypted =>
      .bind (.lift _) fun forwarded => ?_
    cases forwarded with
    | none => exact .pure _
    | some text => exact .bind (.unmetered _) fun _ => .bind (.lift _) fun next => ih (count + 1) next

theorem meters_unpackDecrypted (parsed : ParsedEnvelope) :
    Meters (unpackDecrypted crates dids parsed) (Message.unpackDecrypted crates dids parsed) := by
  refine .bind (meters_tryUnpackSign crates dids parsed) fun signed => ?_
  refine .bind (meters_tryUnpackPlaintext crates dids _) fun msg => .bind (.lift _) fun msg => ?_
  exact .bind (.unmetered _) fun _ => .pure _

/-- Counting does not change what is unpacked. -/
theorem meters_unpack : Meters (unpack crates dids secrets opts) (Message.unpack crates dids secrets opts) := by
  refine .bind (.unmetered _) fun s => .bind (.lift _) fun parsed => ?_
  refine .bind (meters_unpackLoop crates dids secrets opts _ 0 parsed) fun looped => ?_
  refine .bind (meters_tryUnpackAuthcrypt crates dids secrets opts looped.2 looped.1) fun authcrypted => ?_
  exact meters_unpackDecrypted crates dids _

/-! ## Bounds -/

theorem atMost_anonDecrypt (jwe : ParsedJWE) (toKid : String) : AtMost 1 (anonDecrypt crates secrets jwe toKid) := by
  refine .bind_zero (.lift _) fun toKey => .bind_zero (.lift _) fun method =>
    .bind_zero (.unmetered _) fun _ => .tick_bind ?_
  exact .bind_zero (.lift _) fun payload => .bind_zero (.unmetered _) fun _ => .pure _

theorem atMost_authDecrypt (jwe : ParsedJWE) (toKid : String) : AtMost 1 (authDecrypt crates secrets jwe toKid) := by
  refine .bind_zero (.lift _) fun toKey => .bind_zero (.unmetered _) fun s => .bind_zero (.lift _) fun fromKey => ?_
  refine .bind_zero (.lift _) fun method => .bind_zero (.unmetered _) fun _ => .bind_zero (.lift _) fun fromKid => ?_
  refine .bind_zero (.lift _) fun toKey => .tick_bind ?_
  exact .bind_zero (.lift _) fun payload => .bind_zero (.unmetered _) fun _ => .pure _

theorem atMost_tryUnpackSign (parsed : ParsedEnvelope) : AtMost 1 (tryUnpackSign crates dids parsed) := by
  cases parsed with
  | jws jws =>
    refine .map (.bind_zero (.ensure _ _) fun _ => .bind_zero (.lift _) fun header =>
      .bind_zero (.lift _) fun signature => ?_)
    refine .bind_zero (.lift _) fun jwk => .bind_last ?_ fun _ => ?_
    · refine .bind_zero (.lift _) fun method => .bind_zero (.unmetered _) fun _ =>
        .bind_zero (.lift _) fun key => .tick_bind ?_
      exact .bind_zero (.lift _) fun valid => .bind_zero (.ensure _ _) fun _ => .unmetered _
    · exact .bind_zero (.lift _) fun _ => .bind_zero (.lift _) fun _ => .bind_zero (.unmetered _) fun _ => .lift _
  | jwe jwe => exact .pure _
  | message m => exact .pure _

theorem atMost_tryUnpackPlaintext (parsed : ParsedEnvelope) : AtMost 1 (tryUnpackPlaintext crates dids parsed) := by
  cases parsed with
  | message m =>
    refine .bind_zero (.lift _) fun m => .bind_last ?_ fun _ => .pure _
    cases m.fromPrior with
    | none => exact .pure _
    | some jwt =>
      refine .bind_last ?_ fun _ => .unmetered _
      refine .bind_zero (.lift _) fun parsed => .bind_zero (.ensure _ _) fun _ => .bind_zero (.lift _) fun method => ?_
      refine .bind_zero (.lift _) fun jwk => .bind_zero (.lift _) fun jwk => .bind_zero (.lift _) fun signed => ?_
      refine .bind_zero (.lift _) fun key => .tick_bind ?_
      exact .bind_zero (.lift _) fun valid => .bind_zero (.ensure _ _) fun _ => .bind_zero (.lift _) fun _ => .pure _
  | jwe jwe => exact .pure _
  | jws jws => exact .pure _

theorem atMost_unpackDecrypted (parsed : ParsedEnvelope) : AtMost 2 (unpackDecrypted crates dids parsed) := by
  refine .bind (atMost_tryUnpackSign crates dids parsed) fun signed => (?_ : AtMost 1 _)
  refine .bind_last (atMost_tryUnpackPlaintext crates dids _) fun msg => .bind_zero (.lift _) fun msg => ?_
  exact .bind_zero (.unmetered _) fun _ => .pure _

section
variable (hFirst : opts.expectDecryptByAllKeys = false)
include hFirst

theorem atMost_tryUnpackAnoncrypt (parsed : ParsedEnvelope) :
    AtMost 1 (tryUnpackAnoncrypt crates secrets opts parsed) := by
  have hPayload (jwe : ParsedJWE) (before : Option ByteArray) (found : List String) :
      AtMost 1 (anonPayload crates secrets opts jwe before found) := by
    cases found with
    | nil => exact .pure before
    | cons kid rest =>
      rw [anonPayload, hFirst]
      exact .bind_last (atMost_anonDecrypt crates secrets jwe kid) fun payload => .pure _
  cases parsed with
  | jwe jwe =>
    refine .ite (.pure _) (.map ?_)
    refine .bind_zero (.lift _) fun toKid => .bind_zero (.lift _) fun _ => .bind_zero (.unmetered _) fun _ => ?_
    refine .bind_zero (.lift _) fun found => .bind_zero (.lift _) fun _ => ?_
    exact .bind_last (hPayload jwe none found) fun _ => .lift _
  | jws jws => exact .pure _
  | message m => exact .pure _

theorem atMost_tryUnpackAuthcrypt (count : Nat) (parsed : ParsedEnvelope) :
    AtMost (if count + 1 < opts.cryptoOperationsLimitPerMessage then 1 else 0)
      (tryUnpackAuthcrypt crates dids secrets opts count parsed) := by
  have hPayload (jwe : ParsedJWE) (before : Option ByteArray) (found : List String) :
      AtMost (if count + 1 < opts.cryptoOperationsLimitPerMessage then 1 else 0)
        (authPayload crates secrets opts jwe count before found) := by
    cases found with
    | nil => exact .pure before
    | cons kid rest =>
      rw [authPayload, hFirst]
      split
      · refine .bind_zero (.ensure _ _) fun _ => ?_
        exact .bind_last (atMost_authDecrypt crates secrets jwe kid) fun payload => .pure _
      · next hLimit =>
        rw [decide_eq_false hLimit]
        exact .throw _
  cases parsed with
  | jwe jwe =>
    refine .ite (.pure _) (.map (.bind_zero (.unmetered _) fun _ => .bind_zero (.unmetered _) fun s => ?_))
    exact .bind_last (hPayload jwe none s.envelope.toKidsFound) fun _ => .lift _
  | jws jws => exact .pure _
  | message m => exact .pure _

/-- The loop decrypts once in each of its rounds, and has one round where forwards stay wrapped. -/
theorem triple_unpackLoop (left count n : Nat) (parsed : ParsedEnvelope) :
    Triple (fun s => s.2 ≤ n) (unpackLoop crates dids secrets opts left count parsed)
      (fun r s => ∃ rounds, r.2 = count + rounds ∧ InRounds opts left n rounds s)
      (fun _ s => WithinRounds opts left n s) := by
  induction left generalizing count n parsed with
  | zero => exact .throw fun s hs => ⟨hs, fun _ => Nat.le_succ_of_le hs⟩
  | succ left ih =>
    have hWithin : ∀ s : UnpackState crates × Nat, s.2 ≤ n + 1 → WithinRounds opts (left + 1) n s := fun s hs =>
      ⟨Nat.le_trans hs (by omega), fun _ => hs⟩
    refine .bind ((atMost_tryUnpackAnoncrypt crates secrets opts hFirst parsed n).weaken (fun _ => id) (fun _ _ => id)
      fun e s hs => hWithin s hs) fun anoncrypted => ?_
    have hUnwrapped : Triple (fun s : UnpackState crates × Nat => s.2 ≤ n + 1)
        (liftM (unwrapForwarded crates dids secrets opts anoncrypted) : Unpack crates (Option String))
        (fun forwarded s => s.2 ≤ n + 1 ∧ (forwarded.isSome → opts.unwrapReWrappingForward = true))
        (fun _ s => WithinRounds opts (left + 1) n s) :=
      .lift (fun s forwarded hs hForward => ⟨hs, unwrap_of_forwarded hForward⟩) fun s e hs _ => hWithin s hs
    refine hUnwrapped.bind fun forwarded => ?_
    cases forwarded with
    | none => exact .pure fun s hs => ⟨1, rfl, by omega, by omega, hs.1, fun _ => rfl⟩
    | some text =>
      rintro s ⟨hs, hUnwrap⟩
      have hNext : Triple (fun s : UnpackState crates × Nat => s.2 ≤ n + 1)
          (do
            unmetered (Unpack.modifyMetadata fun m => { m with reWrappedInForward := true })
            let parsed ← parseEnvelope crates text
            unpackLoop crates dids secrets opts left (count + 1) parsed)
          (fun r s => ∃ rounds, r.2 = count + 1 + rounds ∧ InRounds opts left (n + 1) rounds s)
          (fun _ s => s.2 ≤ n + 1 + left) := by
        refine .bind (Q := fun _ s => s.2 ≤ n + 1) (.unmetered (fun _ _ _ _ h _ => h) ?_) fun _ => ?_
        · exact fun _ _ _ _ h _ => Nat.le_add_right_of_le h
        refine .bind (Q := fun _ s => s.2 ≤ n + 1) (.lift (fun _ _ h _ => h) ?_) fun next => ?_
        · exact fun _ _ h _ => Nat.le_add_right_of_le h
        exact (ih (count + 1) (n + 1) next).weaken (fun _ => id) (fun _ _ => id) fun e s h => h.1
      refine (hNext.weaken (fun _ => id) ?_ ?_) s hs
      · rintro r s ⟨rounds, hRounds, hIn⟩
        exact ⟨rounds + 1, by omega, hIn.succ (hUnwrap rfl)⟩
      · intro e s hCount
        exact ⟨by omega, fun hOff => absurd (hUnwrap rfl) (by rw [hOff]; decide)⟩

/-- After the loop there is one key of an authenticated layer, within the limit, and two signatures, whatever the
limit. -/
theorem atMost_unpack {bound : Nat}
    (hBound : ∀ rounds, 0 < rounds → rounds ≤ opts.cryptoOperationsLimitPerMessage - 1 →
      (opts.unwrapReWrappingForward = false → rounds = 1) →
        rounds + (if rounds + 1 < opts.cryptoOperationsLimitPerMessage then 1 else 0) + 2 ≤ bound) :
    AtMost bound (unpack crates dids secrets opts) := by
  refine .bind_zero (.unmetered _) fun s => .bind_zero (.lift _) fun parsed n => ?_
  refine .bind ((triple_unpackLoop crates dids secrets opts hFirst _ 0 n parsed).weaken (fun _ => id)
    (fun _ _ => id) ?_) ?_
  · intro e s hWithin
    by_cases hNone : opts.cryptoOperationsLimitPerMessage - 1 = 0
    · have hLeft := hWithin.left
      omega
    · cases hUnwrap : opts.unwrapReWrappingForward with
      | false =>
        have hOne := hBound 1 Nat.one_pos (by omega) fun _ => rfl
        have hOnce := hWithin.once hUnwrap
        omega
      | true =>
        have hAll := hBound _ (Nat.pos_of_ne_zero hNone) le_rfl fun hOff => by rw [hUnwrap] at hOff; cases hOff
        have hLeft := hWithin.left
        omega
  · rintro ⟨peeled, r⟩ s ⟨rounds, hRounds, hIn⟩
    obtain rfl : r = rounds := hRounds.trans (Nat.zero_add rounds)
    have hRest := (atMost_tryUnpackAuthcrypt crates dids secrets opts hFirst r peeled).bind fun authcrypted =>
      atMost_unpackDecrypted crates dids (authcrypted.getD peeled)
    have hEnough := hBound r hIn.pos hIn.left hIn.once
    refine ((hRest (n + r)).weaken (fun _ => id) ?_ ?_) s hIn.count
    · intro a s hs
      omega
    · intro e s hs
      omega

end

/-- A limit of one is reached before the first operation. -/
theorem atMost_unpack_small (hSmall : opts.cryptoOperationsLimitPerMessage ≤ 1) :
    AtMost 0 (unpack crates dids secrets opts) := by
  refine .bind_zero (.unmetered _) fun s => .bind_zero (.lift _) fun parsed => ?_
  rw [Nat.sub_eq_zero_of_le hSmall]
  exact .throw (tooManyCryptoOperations opts.cryptoOperationsLimitPerMessage 1)

/-! ## What is recorded was counted -/

variable {crates dids secrets} in
theorem fillEnvelopeFrom_ops {jwe : ParsedJWE} {s s' : UnpackState crates} {u : Unit}
    (h : jwe.fillEnvelopeFrom crates dids secrets s = .ok u s') : s'.ops = s.ops := by
  cases hApu : jwe.apu with
  | none =>
    obtain ⟨_, _, -, -, -, -, rfl⟩ := (fillEnvelopeFrom_anonymous_ok_iff jwe hApu s s' u).mp h
    simp [UnpackState.sentTo, UnpackState.noted]
  | some apu =>
    obtain ⟨_, _, _, -, -, -, _, _, rfl, -⟩ := (fillEnvelopeFrom_ok_iff jwe hApu s s' u).mp h
    rfl

variable {crates dids secrets} in
theorem fillIfUnknown_ops {jwe : ParsedJWE} {s s' : UnpackState crates} {u : Unit}
    (h : fillIfUnknown crates dids secrets jwe s = .ok u s') : s'.ops = s.ops := by
  rw [fillIfUnknown, get_bind_run] at h
  split at h
  · exact fillEnvelopeFrom_ops h
  · cases h
    rfl

def recorded (s : UnpackState crates) : Nat := s.ops.length

theorem spends_note (f : UnpackMetadata → UnpackMetadata) :
    Spends (recorded crates) (fun _ => 0) (unmetered (Unpack.modifyMetadata f)) := by
  refine .unmetered fun s u s' hRun => ?_
  cases hRun
  exact (Int.add_zero _).symm

theorem spends_get : Spends (recorded crates) (fun _ => 0)
    (unmetered (get : Didcomm.Unpack crates (UnpackState crates))) := by
  refine .unmetered fun s u s' hRun => ?_
  cases hRun
  exact (Int.add_zero _).symm

theorem spends_record (op : CryptoOp crates) : Spends (recorded crates) (fun _ => 1)
    (unmetered (Unpack.record op)) := by
  refine .unmetered fun s u s' hRun => ?_
  cases hRun
  simp [recorded]

theorem spends_anonDecrypt (jwe : ParsedJWE) (toKid : String) :
    Spends (recorded crates) (fun _ => 0) (anonDecrypt crates secrets jwe toKid) := by
  refine .lift_bind fun toKey => .lift_bind fun method => .bind_zero (spends_note crates _) fun _ => .tick_bind ?_
  exact .lift_bind fun payload => .bind (spends_record crates _) fun _ => .pure (by omega)

theorem spends_anonPayload (jwe : ParsedJWE) (before : Option ByteArray) (found : List String) :
    Spends (recorded crates) (fun _ => 0) (anonPayload crates secrets opts jwe before found) := by
  induction found generalizing before with
  | nil => exact .pure rfl
  | cons kid rest ih =>
    exact .bind_zero (spends_anonDecrypt crates secrets jwe kid) fun payload => .ite (ih (some payload)) (.pure rfl)

theorem spends_tryUnpackAnoncrypt (parsed : ParsedEnvelope) :
    Spends (recorded crates) (fun _ => 0) (tryUnpackAnoncrypt crates secrets opts parsed) := by
  cases parsed with
  | jwe jwe =>
    refine .ite (.pure rfl) (.map (d := fun _ => 0) ?_ fun _ => rfl)
    refine .lift_bind fun toKid => .lift_bind fun _ => .bind_zero (spends_note crates _) fun _ =>
      .lift_bind fun found => ?_
    refine .lift_bind fun _ => .bind_zero (spends_anonPayload crates secrets opts jwe none found) fun _ => ?_
    exact .lift fun _ _ => rfl
  | jws jws => exact .pure rfl
  | message m => exact .pure rfl

theorem spends_authDecrypt (jwe : ParsedJWE) (toKid : String) :
    Spends (recorded crates) (fun _ => 0) (authDecrypt crates secrets jwe toKid) := by
  refine .lift_bind fun toKey => .bind_zero (spends_get crates) fun s => .lift_bind fun fromKey =>
    .lift_bind fun method => ?_
  refine .bind_zero (spends_note crates _) fun _ => .lift_bind fun fromKid => .lift_bind fun toKey => .tick_bind ?_
  exact .lift_bind fun payload => .bind (spends_record crates _) fun _ => .pure (by omega)

theorem spends_authPayload (jwe : ParsedJWE) (count : Nat) (before : Option ByteArray) (found : List String) :
    Spends (recorded crates) (fun _ => 0) (authPayload crates secrets opts jwe count before found) := by
  induction found generalizing count before with
  | nil => exact .pure rfl
  | cons kid rest ih =>
    refine .ensure_bind (.bind_zero (spends_authDecrypt crates secrets jwe kid) fun payload => ?_)
    exact .ite (ih (count + 1) (some payload)) (.pure rfl)

theorem spends_tryUnpackAuthcrypt (count : Nat) (parsed : ParsedEnvelope) :
    Spends (recorded crates) (fun _ => 0) (tryUnpackAuthcrypt crates dids secrets opts count parsed) := by
  cases parsed with
  | jwe jwe =>
    refine .ite (.pure rfl) (.map (d := fun _ => 0) ?_ fun _ => rfl)
    refine .bind_zero (.unmetered fun s u s' hRun => ?_) fun _ => .bind_zero (spends_get crates) fun s => ?_
    · rw [recorded, recorded, fillIfUnknown_ops hRun]
      omega
    · refine .bind_zero (spends_authPayload crates secrets opts jwe count none s.envelope.toKidsFound) fun _ => ?_
      exact .lift fun _ _ => rfl
  | jws jws => exact .pure rfl
  | message m => exact .pure rfl

theorem spends_tryUnpackSign (parsed : ParsedEnvelope) :
    Spends (recorded crates) (fun _ => 0) (tryUnpackSign crates dids parsed) := by
  cases parsed with
  | jws jws =>
    refine .map (d := fun _ => 0) (.ensure_bind (.lift_bind fun header => .lift_bind fun signature => ?_)) fun _ => rfl
    refine .lift_bind fun jwk => .bind_zero ?_ fun _ => ?_
    · refine .lift_bind fun method => .bind_zero (spends_note crates _) fun _ => .lift_bind fun key => .tick_bind ?_
      exact .lift_bind fun valid => .ensure_bind ((spends_record crates _).congr fun _ => by omega)
    · refine .lift_bind fun _ => .lift_bind fun _ => .bind_zero (spends_note crates _) fun _ => ?_
      exact .lift fun _ _ => rfl
  | jwe jwe => exact .pure rfl
  | message m => exact .pure rfl

/-- The signature of a `from_prior` is counted and not recorded. -/
theorem spends_unpackFromPrior (jwt : Option String) :
    Spends (recorded crates) (fun _ => -jwt.toList.length) (unpackFromPrior crates dids jwt) := by
  cases jwt with
  | none => exact .pure rfl
  | some jwt =>
    refine .bind (d := fun _ => -1) ?_ fun _ => (spends_note crates _).congr fun _ => by simp
    refine .lift_bind fun parsed => .ensure_bind (.lift_bind fun method => .lift_bind fun jwk => ?_)
    refine .lift_bind fun jwk => .lift_bind fun signed => .lift_bind fun key => .tick_bind ?_
    exact .lift_bind fun valid => .ensure_bind (.lift_bind fun _ => .pure (by omega))

theorem spends_tryUnpackPlaintext (parsed : ParsedEnvelope) :
    Spends (recorded crates) (fun m => -(m.bind Message.fromPrior).toList.length)
      (tryUnpackPlaintext crates dids parsed) := by
  cases parsed with
  | message m =>
    refine .lift_bind fun m => .bind (spends_unpackFromPrior crates dids m.fromPrior) fun _ => .pure ?_
    simp
  | jwe jwe => exact .pure rfl
  | jws jws => exact .pure rfl

theorem spends_unpackLoop (left count : Nat) (parsed : ParsedEnvelope) :
    Spends (recorded crates) (fun _ => 0) (unpackLoop crates dids secrets opts left count parsed) := by
  induction left generalizing count parsed with
  | zero => exact .throw _
  | succ left ih =>
    refine .bind_zero (spends_tryUnpackAnoncrypt crates secrets opts parsed) fun anoncrypted =>
      .lift_bind fun forwarded => ?_
    cases forwarded with
    | none => exact .pure rfl
    | some text => exact .bind_zero (spends_note crates _) fun _ => .lift_bind fun next => ih (count + 1) next

theorem spends_unpack : Spends (recorded crates) (fun r => -r.1.fromPrior.toList.length)
    (unpack crates dids secrets opts) := by
  refine .bind_zero (spends_get crates) fun s => .lift_bind fun parsed => ?_
  refine .bind_zero (spends_unpackLoop crates dids secrets opts _ 0 parsed) fun looped => ?_
  refine .bind_zero (spends_tryUnpackAuthcrypt crates dids secrets opts looped.2 looped.1) fun authcrypted => ?_
  refine .bind_zero (spends_tryUnpackSign crates dids _) fun signed => ?_
  refine .bind (spends_tryUnpackPlaintext crates dids _) fun msg => ?_
  refine .bind (d := fun m => (msg.bind Message.fromPrior).toList.length - m.fromPrior.toList.length)
    (.lift ?_) fun m => ?_
  · intro m hMsg
    cases (okOr_ok_iff msg _ m).mp hMsg
    simp
  · exact .bind_zero (spends_get crates) fun s => .pure (by ring)

end Counted

/-- The decryptions and verifications of one call of `unpack`, however it ends. -/
def cryptoOperations (crates : Crates) (dids : DidResolver) (secrets : SecretsResolver) (opts : UnpackOptions)
    (s : UnpackState crates) : Nat :=
  (stateAfter (Counted.unpack crates dids secrets opts) (s, 0)).2

section
variable {crates : Crates} {dids : DidResolver} {secrets : SecretsResolver} {opts : UnpackOptions}

/-- With one key for each layer the limit is passed by one operation at most. -/
theorem cryptoOperations_le (hFirst : opts.expectDecryptByAllKeys = false) (s : UnpackState crates) :
    cryptoOperations crates dids secrets opts s ≤ opts.cryptoOperationsLimitPerMessage + 1 := by
  refine (Counted.atMost_unpack crates dids secrets opts hFirst fun rounds hPos hLe _ => ?_).stateAfter_le s
  split <;> omega

theorem new_ops {text : String} {s : UnpackState crates} {u : Unit}
    (h : MetaEnvelope.new crates dids secrets text (.fresh crates) = .ok u s) : s.ops = [] := by
  simp only [MetaEnvelope.new, lift_bind_ok_iff, Unpack.modifyEnvelope_bind] at h
  obtain ⟨envelope, -, parsed, -, parsed, -, hFill⟩ := h
  cases parsed with
  | jwe jwe => exact Counted.fillEnvelopeFrom_ops hFill
  | jws jws =>
    cases hFill
    rfl
  | message m =>
    cases hFill
    rfl

/-- A message that opens through some layers takes their operations, and one more for its `from_prior`. -/
theorem Opens.cryptoOperations_eq {text : String} {layers : List (Layer crates)} {m : Message}
    {prior : Option (FromPrior × String)} (h : Opens crates dids secrets opts text layers m prior) :
    ∃ s, MetaEnvelope.new crates dids secrets text (.fresh crates) = .ok () s ∧
      (layers.flatMap Layer.ops).length + m.fromPrior.toList.length = cryptoOperations crates dids secrets opts s := by
  obtain ⟨s', hRun, hOps⟩ := (unpackString_ok_iff crates dids secrets opts text m _ _).mpr ⟨layers, prior, h, rfl, rfl⟩
  obtain ⟨u, s, hNew, hUnpack⟩ := (bind_ok_iff _ _ _ _ _).mp hRun
  refine ⟨s, hNew, ?_⟩
  obtain ⟨k, hCounted⟩ := (Counted.meters_unpack crates dids secrets opts).run_ok hUnpack 0
  have hSpent := Counted.spends_unpack crates dids secrets opts s 0 _ _ hCounted
  rw [cryptoOperations, stateAfter_of_ok hCounted]
  simp only [Counted.recorded, hOps, new_ops hNew] at hSpent
  simp only [List.length_nil] at hSpent
  omega

end

end AffinidiMessaging.Didcomm
