import AffinidiMessaging.Didcomm.FromPriorPack
import AffinidiMessaging.Didcomm.Metadata

/-! # Rotated DIDs

A `from_prior` header says which DID the sender had before. Packing checks that what it says is about the
signer of the header and the sender of the message; unpacking checks the signature alone.
-/

namespace AffinidiMessaging.Didcomm

open Fallible Serde

/-- A DID and not a DID URL. -/
def BareDid (did : String) : Prop := isDid did = true ∧ (didOrUrl did).2 = none

/-- What the metadata say about an earlier DID: the issuer of the header had it, and the sender of the
message has the new one. -/
structure RotationSound (m : Message) (fromPrior : FromPrior) (issuerKid : String) : Prop where
  issuer : (didOrUrl issuerKid).1 = fromPrior.iss
  iss : BareDid fromPrior.iss
  sub : BareDid fromPrior.sub
  distinct : fromPrior.iss ≠ fromPrior.sub
  sender : ∀ sender, m.from_ = some sender → sender = fromPrior.sub

theorem validatePack_ok_iff (fromPrior : FromPrior) {issuerKid : String}
    (hUrl : (didOrUrl issuerKid).2.isSome) :
    fromPrior.validatePack (some issuerKid) = .ok () ↔
      BareDid fromPrior.iss ∧ BareDid fromPrior.sub ∧ fromPrior.iss ≠ fromPrior.sub ∧
        (didOrUrl issuerKid).1 = fromPrior.iss := by
  simp only [FromPrior.validatePack, except_bind_ok_iff, ensure_ok_iff, hUrl, BareDid, Bool.and_eq_true,
    Option.isNone_iff_eq_none, bne_iff_ne, ne_eq, beq_iff_eq, exists_const, true_and]

/-- The checks of `pack_plaintext` accept exactly what is sound. -/
theorem validatePackPlaintext_ok_iff (m : Message) (fromPrior : FromPrior) {issuerKid : String}
    (hUrl : (didOrUrl issuerKid).2.isSome) :
    m.validatePackPlaintext (some (fromPrior, issuerKid)) = .ok () ↔ RotationSound m fromPrior issuerKid := by
  have hSound : RotationSound m fromPrior issuerKid ↔ (BareDid fromPrior.iss ∧ BareDid fromPrior.sub ∧
      fromPrior.iss ≠ fromPrior.sub ∧ (didOrUrl issuerKid).1 = fromPrior.iss) ∧
        ∀ sender, m.from_ = some sender → fromPrior.sub = sender := by
    constructor
    · intro h
      exact ⟨⟨h.iss, h.sub, h.distinct, h.issuer⟩, fun sender hSender => (h.sender sender hSender).symm⟩
    · rintro ⟨⟨hIss, hSub, hDistinct, hIssuer⟩, hFrom⟩
      exact ⟨hIssuer, hIss, hSub, hDistinct, fun sender hSender => (hFrom sender hSender).symm⟩
  simp only [Message.validatePackPlaintext, except_bind_ok_iff, validatePack_ok_iff fromPrior hUrl, exists_const,
    hSound]
  refine and_congr_right fun _ => ?_
  cases m.from_ with
  | none => simp [except_pure_eq]
  | some sender => simp

variable (crates : Crates) (dids : DidResolver) (secrets : SecretsResolver) (opts : UnpackOptions)

variable {crates dids} in
theorem fromPrior_unpack_url {jwt : String} {fromPrior : FromPrior} {issuerKid : String}
    (h : FromPrior.unpack crates dids jwt = .ok (fromPrior, issuerKid)) : (didOrUrl issuerKid).2.isSome := by
  simp only [FromPrior.unpack, FromPrior.issuerMethod, except_bind_ok_iff, ensure_ok_iff] at h
  obtain ⟨parsed, -, _, -, method, ⟨_, hUrl, -⟩, _, -, _, -, _, -, _, -, _, -, _, -, _, -, hResult⟩ := h
  cases hResult
  exact hUrl

variable {crates dids secrets opts} in
theorem Opens.prior_url {text : String} {layers : List (Layer crates)} {m : Message} {prior : FromPrior × String}
    (h : Opens crates dids secrets opts text layers m (some prior)) : (didOrUrl prior.2).2.isSome := by
  obtain ⟨_, -, _, _, _, _, _, _, -, -, -, -, -, hPrior, -⟩ := h
  cases hJwt : m.fromPrior with
  | none =>
    rw [hJwt] at hPrior
    cases hPrior
  | some jwt =>
    rw [hJwt, Option.mapM_some, except_map_eq, except_bind_ok_iff] at hPrior
    obtain ⟨_, hUnpack, hSome⟩ := hPrior
    cases hSome
    exact fromPrior_unpack_url hUnpack

section
variable (sha256 : ByteArray → ByteArray) (service : String → List Service)

/-- The JWT that a signer makes of some claims, whoever they are about. -/
theorem ideal_fromPrior (signer : String) (h : '#' ∉ signer.toList) (iss sub : String) :
    ∃ jwt, FromPrior.unpack (ideal sha256) (everyDid service) jwt =
      .ok (⟨iss, sub, none, none, none, none, none⟩, signKid signer) := by
  let claims : FromPrior := ⟨iss, sub, none, none, none, none, none⟩
  obtain ⟨jwt, hSign⟩ : ∃ jwt, Jws.signCompact (ideal sha256) ((ideal sha256).jsonToString claims.toJson).toUTF8
      (signKid signer) (idealKey sha256 .ed25519 (signKid signer)) "JWT" .edDSA = .ok jwt := ⟨_, rfl⟩
  obtain ⟨jws, hParse, hSigned⟩ :=
    Jws.signCompact_opens (ideal_lawful sha256) (ideal_base64Encode_undotted sha256) hSign
  have hIssuer : FromPrior.issuerMethod (everyDid service) (signKid signer) =
      .ok (methodOf "Ed25519" (signKid signer)) :=
    FromPrior.issuerMethod_ok (didOrUrl_signKid h) (resolve_everyDid service h) (List.mem_singleton_self _) rfl
      (find_signKid (service signer) signer)
  exact ⟨jwt, FromPrior.unpack_signed (ideal_lawful sha256) hParse hSigned hIssuer (getJwk_methodOf sha256 _ _) rfl
    (asCurve_sign sha256 _) ((ideal_samePublic sha256).mpr rfl)⟩

end

end AffinidiMessaging.Didcomm
