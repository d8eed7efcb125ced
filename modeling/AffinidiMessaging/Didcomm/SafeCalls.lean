import AffinidiMessaging.Didcomm.Refinement
import AffinidiMessaging.Didcomm.SecretDecoding

/-! # Calls without a panic

Parsing, decrypting and verifying end with a value or an error. A key is read without a panic where the JWK that its
method speaks of is there, and a secret where it is long enough.
-/

namespace AffinidiMessaging.Didcomm

open Fallible Serde

variable (crates : Crates) (secrets : SecretsResolver)

/-- There is a JWK if the type of the method says so. -/
def VerificationMethod.JwkOk (method : VerificationMethod) : Prop :=
  method.type_ = "JsonWebKey2020" →
    ∃ value, method.properties.lookup "publicKeyJwk" = some value ∧ (crates.jwkFromValue value).isSome

/-- The own secret of this kid is too short to be taken apart. -/
def BadSecret (kid : String) : Prop :=
  ∃ secret, secrets.getSecret kid = .ok (some secret) ∧ ¬ secret.LongEnough crates

namespace Result

variable {α : Type}

@[simp] theorem safe_okOr (o : Option α) (kind : ErrorKind) (msg : String) : Safe (okOr o (errMsg kind msg)) := by
  cases o
  · exact safe_error _
  · exact safe_ok _

@[simp] theorem safe_ofError (x : Except Error α) : Safe (ofError x) := by
  cases x
  · exact safe_error _
  · exact safe_ok _

@[simp] theorem safe_unwrap_iff (site : Panic) (o : Option α) : Safe (unwrap site o) ↔ o.isSome := by
  cases o
  · exact iff_of_false (not_safe_panic site) Bool.false_ne_true
  · exact iff_of_true (safe_ok _) rfl

@[simp] theorem safe_context_iff (msg : String) (x : Result α) : Safe (context msg x) ↔ x.Safe := by
  rcases x with (e | p) | a
  · exact iff_of_true (safe_error _) (safe_error e)
  · exact Iff.rfl
  · exact Iff.rfl

theorem safe_of_bind {β : Type} {x : Result α} {f : α → Result β} (hx : x.Safe) (hf : ∀ a, (f a).Safe) :
    (x >>= f).Safe :=
  safe_bind_iff.mpr ⟨hx, fun a _ => hf a⟩

theorem safe_bind_of_safe {β : Type} {x : Result α} {f : α → Result β} (hf : ∀ a, (f a).Safe) :
    (x >>= f).Safe ↔ x.Safe := by
  rw [safe_bind_iff]
  exact and_iff_left fun a _ => hf a

end Result

variable {crates secrets} {dids : DidResolver}

@[simp] theorem safe_utf8 (msg : String) (bytes : ByteArray) : (utf8 crates msg bytes).Safe := by
  unfold utf8
  split
  · exact Result.safe_ok _
  · exact Result.safe_error _

@[simp] theorem safe_base64 (msg text : String) : (base64 crates msg text).Safe := Result.safe_ofKind _ _ _

theorem safe_okOr_jsonFault {α : Type} (o : Option α) (msg type : String) (text : ByteArray) :
    Result.Safe (okOr o (jsonFault crates msg type text)) := by
  cases o
  · exact Result.safe_error _
  · exact Result.safe_ok _

theorem safe_resolved (fault : String → Fault) (hFault : ∀ e, ∃ error, fault e = .error error) (did : String) :
    (dids.resolved fault did).Safe := by
  unfold DidResolver.resolved
  split
  · exact Result.safe_ok _
  · rename_i e _
    obtain ⟨error, hError⟩ := hFault e
    rw [hError]
    exact Result.safe_error _

theorem safe_mapM_option {α β : Type} (o : Option α) {f : α → Result β} (hf : ∀ a, (f a).Safe) :
    (o.mapM f).Safe := by
  cases o with
  | none => exact Result.safe_ok _
  | some a => exact Result.safe_of_bind (hf a) fun b => Result.safe_ok _

theorem safe_mapM_list {α β : Type} (l : List α) {f : α → Result β} (hf : ∀ a, (f a).Safe) : (l.mapM f).Safe := by
  induction l with
  | nil => exact Result.safe_ok _
  | cons a rest ih =>
    rw [List.mapM_cons]
    exact Result.safe_of_bind (hf a) fun b => Result.safe_of_bind ih fun bs => Result.safe_ok _

/-! ## Parsing -/

theorem Jwe.safe_parse (jwe : Jwe) : (jwe.parse crates).Safe := by
  unfold Jwe.parse
  refine Result.safe_of_bind (safe_base64 _ _) fun decoded => ?_
  refine Result.safe_of_bind (safe_okOr_jsonFault _ _ _ _) fun header => ?_
  refine Result.safe_of_bind (safe_base64 _ _) fun apv => ?_
  exact Result.safe_of_bind (safe_mapM_option _ (safe_base64 _)) fun apu => Result.safe_ok _

theorem Jws.safe_parse (jws : Jws) : (jws.parse crates).Safe := by
  have hSignature (s : Jws.Signature) : (s.parse crates).Safe :=
    Result.safe_of_bind (safe_base64 _ _) fun decoded => safe_okOr_jsonFault _ _ _ _
  exact Result.safe_of_bind (safe_mapM_list _ hSignature) fun headers => Result.safe_ok _

theorem safe_checkSkid (apu skid : Option String) : (checkSkid apu skid).Safe := by
  rcases apu with _ | apu <;> rcases skid with _ | skid
  · exact Result.safe_ok _
  · exact Result.safe_errMsg _ _
  · exact Result.safe_ok _
  · exact Result.safe_ensure _ _ _

theorem ParsedJWE.safe_verifyDidcomm (jwe : ParsedJWE) : (jwe.verifyDidcomm crates).Safe := by
  unfold ParsedJWE.verifyDidcomm
  refine Result.safe_of_bind (Result.safe_ensure _ _ _) fun _ => ?_
  refine Result.safe_of_bind (safe_mapM_option _ (safe_utf8 _)) fun apu => ?_
  exact Result.safe_of_bind (safe_checkSkid _ _) fun _ => Result.safe_ok _

theorem Envelope.safe_fromStr (text : String) : (Envelope.fromStr crates text).Safe := safe_okOr_jsonFault _ _ _ _

theorem Envelope.safe_parse (envelope : Envelope) : (envelope.parse crates).Safe := by
  cases envelope with
  | jwe e => exact Result.safe_of_bind e.safe_parse fun _ => Result.safe_ok _
  | jws e => exact Result.safe_of_bind e.safe_parse fun _ => Result.safe_ok _
  | message m => exact Result.safe_ok _

theorem ParsedEnvelope.safe_verifyDidcomm (parsed : ParsedEnvelope) : (parsed.verifyDidcomm crates).Safe := by
  cases parsed with
  | jwe e => exact Result.safe_of_bind e.safe_verifyDidcomm fun _ => Result.safe_ok _
  | jws e => exact Result.safe_ok _
  | message m => exact Result.safe_ok _

theorem safe_parseEnvelope (text : String) : (parseEnvelope crates text).Safe :=
  Result.safe_of_bind (Envelope.safe_fromStr text) fun envelope =>
    Result.safe_of_bind envelope.safe_parse fun parsed => parsed.safe_verifyDidcomm

theorem safe_openPayload (msg : String) (payload : Option ByteArray) : (openPayload crates msg payload).Safe :=
  Result.safe_of_bind (Result.safe_okOr _ _ _) fun _ =>
    Result.safe_of_bind (safe_utf8 _ _) fun text => safe_parseEnvelope text

theorem safe_parseCompact (jwt : String) : (parseCompact crates jwt).Safe := by
  unfold parseCompact
  split
  · refine Result.safe_of_bind (safe_base64 _ _) fun buf => Result.safe_of_bind ?_ fun header => Result.safe_ok _
    cases (crates.jsonFromSlice buf).bind Jws.CompactHeader.ofJson with
    | none => exact Result.safe_error _
    | some header => exact Result.safe_ok _
  · exact Result.safe_errMsg _ _

/-! ## Keys -/

theorem VerificationMethod.safe_getJwk_iff (method : VerificationMethod) :
    (method.getJwk crates).Safe ↔ method.JwkOk crates := by
  unfold getJwk JwkOk
  split
  · rename_i hType
    exact iff_of_true (Result.safe_ok _) fun h => absurd (hType.symm.trans h) (by decide)
  · rename_i hType
    simp only [hType, true_implies, Result.safe_bind_iff, Result.safe_unwrap_iff, unwrap_ok_iff,
      Result.safe_pure, implies_true, and_true, Option.isSome_iff_exists]
    constructor
    · rintro ⟨⟨value, hValue⟩, hJwk⟩
      exact ⟨value, hValue, hJwk value hValue⟩
    · rintro ⟨value, hValue, hJwk⟩
      refine ⟨⟨value, hValue⟩, fun other hOther => ?_⟩
      cases hValue.symm.trans hOther
      exact hJwk
  · rename_i hMultikey hJwk
    exact iff_of_true (Result.safe_ok _) fun h => absurd h hJwk

@[simp] theorem Params.safe_asKeyPair (jwk : Params) : (jwk.asKeyPair crates).Safe := by
  unfold Params.asKeyPair
  split
  · exact Result.safe_errMsg _ _
  · exact Result.safe_errMsg _ _
  · split
    · exact safe_keyPairFromJwk _ _ _
    · exact Result.safe_errMsg _ _

@[simp] theorem KnownKeyPair.safe_ofCurve (curve : Curve) (pair : KnownKeyPair crates) : (pair.ofCurve curve).Safe := by
  unfold KnownKeyPair.ofCurve
  split
  · exact Result.safe_ok _
  · exact Result.safe_errMsg _ _

@[simp] theorem Params.safe_asCurve (curve : Curve) (jwk : Params) : (jwk.asCurve crates curve).Safe :=
  Result.safe_of_bind (Result.safe_ensure _ _ _) fun _ =>
    Result.safe_of_bind jwk.safe_asKeyPair fun pair => pair.safe_ofCurve curve

theorem VerificationMethod.safe_senderKey_iff (method : VerificationMethod) :
    (method.senderKey crates).Safe ↔ method.JwkOk crates := by
  rw [← method.safe_getJwk_iff]
  refine Result.safe_bind_of_safe fun jwk => Result.safe_of_bind (Result.safe_okOr _ _ _) fun params => ?_
  have hPair : (params.asKeyPair crates).Safe := params.safe_asKeyPair
  split
  · exact Result.safe_errMsg _ _
  · exact hPair

theorem safe_recipientKey_iff (hVarints : Varints crates) (kid : String) :
    (recipientKey crates secrets kid).Safe ↔ ¬ BadSecret crates secrets kid := by
  simp only [recipientKey, Result.safe_bind_iff, Result.safe_ofError, Result.safe_okOr, true_and, ofError_ok_iff,
    okOr_ok_iff, safe_asKeyPair_iff hVarints, BadSecret, not_exists, not_and, not_not]
  constructor
  · intro h secret hSecret
    exact h (some secret) hSecret secret rfl
  · rintro h _ hFound secret rfl
    exact h secret hFound

/-! ## Decryption and signatures -/

theorem ParsedJWE.safe_deriveKey {curve : Curve} (kdf : Kdf) (ephemKey : crates.KeyPair curve)
    (sendKey : Option (crates.KeyPair curve)) (recipKey : crates.KeyPair curve) (alg apu apv ccTag : ByteArray)
    (receive : Bool) : (deriveKey crates kdf ephemKey sendKey recipKey alg apu apv ccTag receive).Safe := by
  cases kdf with
  | ecdh1PU => exact Result.safe_of_bind (Result.safe_okOr _ _ _) fun key => Result.safe_messageOf _ _ _
  | ecdhEs => exact Result.safe_messageOf _ _ _

theorem ParsedJWE.safe_decrypt {curve : Curve} (jwe : ParsedJWE) (cipher : Cipher) (kdf : Kdf)
    (sender : Option (String × crates.KeyPair curve)) (recipient : String × crates.KeyPair curve) :
    (jwe.decrypt crates cipher kdf sender recipient).Safe := by
  unfold ParsedJWE.decrypt
  refine Result.safe_of_bind (Result.safe_ensure _ _ _) fun _ => ?_
  refine Result.safe_of_bind (Result.safe_okOr _ _ _) fun found => ?_
  refine Result.safe_of_bind (safe_base64 _ _) fun encryptedKey => ?_
  refine Result.safe_of_bind ((Result.safe_context_iff _ _).mpr (Result.safe_messageOf _ _ _)) fun epk => ?_
  refine Result.safe_of_bind (safe_base64 _ _) fun tag => ?_
  refine Result.safe_of_bind ((Result.safe_kind_iff _ _ _).mpr (ParsedJWE.safe_deriveKey _ _ _ _ _ _ _ _ _)) fun kw =>
    ?_
  refine Result.safe_of_bind ((Result.safe_kind_iff _ _ _).mpr ?_) fun cek => ?_
  · exact Result.safe_of_bind (Result.safe_messageOf _ _ _) fun _ => Result.safe_messageOf _ _ _
  refine Result.safe_of_bind (safe_base64 _ _) fun ciphertext => ?_
  exact Result.safe_of_bind (safe_base64 _ _) fun iv => Result.safe_messageOf _ _ _

theorem safe_authMethod (fromCurve toCurve : Curve) (enc : EncAlgorithm) : (authMethod fromCurve toCurve enc).Safe := by
  unfold authMethod
  split <;> first | exact Result.safe_ok _ | exact Result.safe_errMsg _ _

theorem safe_signMethod (alg : Jws.Algorithm) : (signMethod alg).Safe := by
  cases alg
  · exact Result.safe_ok _
  · exact Result.safe_ok _
  · exact Result.safe_ok _
  · exact Result.safe_errMsg _ _

theorem safe_verifyInput {curve : Curve} (key : crates.KeyPair curve) (alg : Jws.Algorithm)
    (header payload signature : String) : (verifyInput crates key alg header payload signature).Safe := by
  have hType : alg.sigType.Safe := by
    cases alg
    · exact Result.safe_ok _
    · exact Result.safe_ok _
    · exact Result.safe_ok _
    · exact Result.safe_errMsg _ _
  exact Result.safe_of_bind hType fun sigType =>
    Result.safe_of_bind (safe_base64 _ _) fun _ => Result.safe_messageOf _ _ _

theorem ParsedJWS.safe_verify (jws : ParsedJWS) {curve : Curve} (kid : String) (key : crates.KeyPair curve) :
    (jws.verify crates kid key).Safe :=
  Result.safe_of_bind (Result.safe_okOr _ _ _) fun _ =>
    Result.safe_of_bind (Result.safe_okOr _ _ _) fun _ => safe_verifyInput _ _ _ _ _

end AffinidiMessaging.Didcomm
