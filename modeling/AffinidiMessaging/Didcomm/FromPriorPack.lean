import AffinidiMessaging.Didcomm.Plaintext
import AffinidiMessaging.Didcomm.IdealKeys

/-! # `from_prior` headers are read back

What `FromPrior::pack` signs with an authentication of the issuer, `FromPrior::unpack` verifies with the method that the
issuer's document lists for it. The key of a method is read for two types of methods; any type can be signed with.
-/

namespace AffinidiMessaging.Didcomm

open Fallible Serde

def Jws.CompactHeader.toJson (h : Jws.CompactHeader) : Json :=
  .obj [("typ", .str h.typ), ("alg", .str h.alg.asStr), ("kid", .str h.kid)]

def FromPrior.toJson (fromPrior : FromPrior) : Json :=
  .obj ([("iss", .str fromPrior.iss), ("sub", .str fromPrior.sub)] ++ skipNone "aud" .str fromPrior.aud ++
    skipNone "exp" u64Json fromPrior.exp ++ skipNone "nbf" u64Json fromPrior.nbf ++
    skipNone "iat" u64Json fromPrior.iat ++ skipNone "jti" .str fromPrior.jti)

section
variable (crates : Crates) (dids : DidResolver) (secrets : SecretsResolver)

def Jws.signCompact {curve : Curve} (payload : ByteArray) (kid : String) (key : crates.KeyPair curve) (typ : String)
    (alg : Jws.Algorithm) : Result String := do
  let sigType ← alg.sigType
  let header : Jws.CompactHeader := { typ, alg, kid }
  let header := crates.base64Encode (crates.jsonToString header.toJson).toUTF8
  let payload := crates.base64Encode payload
  let signature ← messageOf .invalidState "Unable create signature"
    (crates.createSignature key (header ++ "." ++ payload).toUTF8 sigType)
  return header ++ "." ++ payload ++ "." ++ crates.base64Encode signature

namespace FromPrior

variable (fromPrior : FromPrior)

/-- The kid that is asked for, or all authentications of the document. -/
def authenticationKids (doc : Document) : Option String → Result (List String)
  | some issuerKid => do
    let kid ← okOr (didOrUrl issuerKid).2 (errMsg .illegalArgument "issuer_kid content is not DID URL")
    ensure ((didOrUrl issuerKid).1 == fromPrior.iss)
      (errMsg .illegalArgument "from_prior issuer kid does not belong to from_prior `iss`")
    let found ← okOr (doc.authentication.find? fun a => a.id.resolve doc.id == kid)
      (errMsg .didUrlNotFound "Provided issuer_kid is not found in DIDDoc")
    return [found.id.resolve doc.id]
  | none => .ok (doc.authentication.map fun a => a.id.resolve doc.id)

def pack (issuerKid : Option String) : Result (String × String) := do
  fromPrior.validatePack issuerKid
  let fromPriorStr := crates.jsonToString fromPrior.toJson
  let doc ← dids.resolved (fun e => errMsg .didNotResolved
    ("from_prior issuer DIDDoc is not found. Reason: " ++ e)) fromPrior.iss
  let kids ← fromPrior.authenticationKids doc issuerKid
  let found ← (Result.ofError (secrets.findSecrets kids)).context "Unable to find secrets"
  let kid ← okOr found.head? (errMsg .secretNotFound "No from_prior issuer secrets found")
  let secret ← (Result.ofError (secrets.getSecret kid)).context "Unable to find secret"
  let secret ← okOr secret (errMsg .secretNotFound "from_prior issuer secret not found")
  let signKey ← (secret.asKeyPair crates).context "Unable to instantiate from_prior issuer key"
  let alg ← signKey.curve.signAlg
  let jwt ← (Jws.signCompact crates fromPriorStr.toUTF8 kid signKey.key "JWT" alg).context
    "Unable to produce signature"
  return (jwt, kid)

end FromPrior

end

theorem didOrUrl_url {text url : String} (h : (didOrUrl text).2 = some url) : url = text := by
  unfold didOrUrl at h
  split at h
  · exact (Option.some.inj h).symm
  · cases h

theorem signMethod_signAlg {curve : Curve} {alg : Jws.Algorithm} (h : curve.signAlg = .ok alg) :
    ∃ name, signMethod alg = .ok (name, curve) := by
  cases curve with
  | x25519 => cases h
  | _ =>
    cases h
    exact ⟨_, rfl⟩

theorem Jws.CompactHeader.ofJson_toJson {h : Jws.CompactHeader} (hAlg : Jws.Algorithm.ofStr h.alg.asStr = h.alg) :
    Jws.CompactHeader.ofJson h.toJson = some h := by
  simp [toJson, ofJson, record, required, Json.asStr, List.lookup, hAlg]

namespace FromPrior

variable (fromPrior : FromPrior)

theorem ofJson_toJson : ofJson fromPrior.toJson = some fromPrior := by
  have hRecord : record ["iss", "sub", "aud", "exp", "nbf", "iat", "jti"] fromPrior.toJson = some fun n =>
      ([("iss", Json.str fromPrior.iss), ("sub", Json.str fromPrior.sub)] ++ skipNone "aud" .str fromPrior.aud ++
        skipNone "exp" u64Json fromPrior.exp ++ skipNone "nbf" u64Json fromPrior.nbf ++
        skipNone "iat" u64Json fromPrior.iat ++ skipNone "jti" .str fromPrior.jti).lookup n := by
    rw [toJson, record, if_pos]
    simp [List.filter_append, filter_skipNone]
  simp only [ofJson, hRecord, List.cons_append, List.nil_append, List.lookup_cons, List.lookup_append, lookup_skipNone,
    String.reduceBEq, String.reduceEq, BEq.rfl, if_true, if_false, Option.or_none, Option.none_or,
    Option.bind_eq_bind, Option.bind_some, required, Json.asStr, optional_str, optional_u64, Option.pure_def]

theorem floatless_toJson : fromPrior.toJson.floatless = true := by
  obtain ⟨iss, sub, aud, exp, nbf, iat, jti⟩ := fromPrior
  cases aud <;> cases exp <;> cases nbf <;> cases iat <;> cases jti <;> rfl

theorem depth_toJson : fromPrior.toJson.depth ≤ recursionLimit := by
  obtain ⟨iss, sub, aud, exp, nbf, iat, jti⟩ := fromPrior
  cases aud <;> cases exp <;> cases nbf <;> cases iat <;> cases jti <;> exact Nat.le_add_left 1 126

end FromPrior

/-- What a parsed compact form is that one key has signed. -/
structure Jws.SignedCompact {crates : Crates} {curve : Curve} (payload : ByteArray) (kid : String)
    (key : crates.KeyPair curve) (typ : String) (alg : Jws.Algorithm) (jws : ParsedCompactJWS) : Prop where
  header : jws.parsedHeader = ⟨typ, alg, kid⟩
  payload : crates.base64Decode jws.payload = .ok payload
  verify : ∀ {key' : crates.KeyPair curve}, SamePublic key key' → jws.verify crates key' = .ok true

section
variable {crates : Crates} {hasPrivate : {curve : Curve} → crates.KeyPair curve → Prop}
  {reread : Int → Int → Int × Int} {limit : ℕ∞} (laws : Lawful crates hasPrivate reread limit)
  (hDots : ∀ bytes, '.' ∉ (crates.base64Encode bytes).toList)

include laws hDots

theorem parseCompact_ok {header : Jws.CompactHeader} (hAlg : Jws.Algorithm.ofStr header.alg.asStr = header.alg)
    (payload signature : ByteArray) :
    parseCompact crates (crates.base64Encode (crates.jsonToString header.toJson).toUTF8 ++ "." ++
        crates.base64Encode payload ++ "." ++ crates.base64Encode signature) =
      .ok ⟨crates.base64Encode (crates.jsonToString header.toJson).toUTF8, header, crates.base64Encode payload,
        crates.base64Encode signature⟩ := by
  have hParts := Text.splitAll_three '.' (hDots (crates.jsonToString header.toJson).toUTF8) (hDots payload)
    (hDots signature)
  have hFlat : header.toJson.depth ≤ recursionLimit := Nat.le_add_left 1 126
  have hRead : crates.jsonFromSlice (crates.jsonToString header.toJson).toUTF8 = some header.toJson := by
    rw [laws.jsonFromSlice_toUTF8, laws.read_written rfl hFlat]
  rw [parseCompact, show ("." : String) = String.ofList ['.'] from rfl, hParts]
  simp only [base64_encoded laws, hRead, Option.bind_some, Jws.CompactHeader.ofJson_toJson hAlg, okOr, bind,
    Except.bind, pure, Except.pure]

theorem Jws.signCompact_opens {curve : Curve} {payload : ByteArray} {kid typ : String} {key : crates.KeyPair curve}
    {alg : Jws.Algorithm} {text : String} (h : Jws.signCompact crates payload kid key typ alg = .ok text) :
    ∃ jws, parseCompact crates text = .ok jws ∧ SignedCompact payload kid key typ alg jws := by
  simp only [Jws.signCompact, except_bind_ok_iff, messageOf_ok_iff] at h
  obtain ⟨sigType, hType, signature, hSign, hText⟩ := h
  cases hText
  let header : Jws.CompactHeader := { typ, alg, kid }
  have hAlg : Jws.Algorithm.ofStr header.alg.asStr = header.alg := by
    cases alg with
    | other name => cases hType
    | _ => rfl
  refine ⟨_, parseCompact_ok laws hDots hAlg payload signature, rfl, laws.base64Decode_base64Encode payload, ?_⟩
  intro key' hSame
  simp only [ParsedCompactJWS.verify, verifyInput, except_bind_ok_iff, messageOf_ok_iff]
  exact ⟨sigType, hType, signature, base64_encoded laws _ _, laws.verifySignature_createSignature hSame hSign⟩

/-- The types of methods whose key is read. -/
def VerificationMethod.Supported (method : VerificationMethod) : Prop :=
  method.type_ = "Multikey" ∨ method.type_ = "JsonWebKey2020"
deriving Decidable

omit laws hDots in
theorem VerificationMethod.getJwk_of_not_supported {method : VerificationMethod} (h : ¬ method.Supported) :
    method.getJwk crates = .ok none := by
  unfold getJwk
  split
  · next hType => exact absurd (.inl hType) h
  · next hType => exact absurd (.inr hType) h
  · rfl

namespace FromPrior

/-- The documents and secrets of an issuer agree. -/
structure Consistent (crates : Crates) (secrets : SecretsResolver) (iss : String) (doc : Document) : Prop where
  urls : ∀ a ∈ doc.authentication, didOrUrl (a.id.resolve doc.id) = (iss, some (a.id.resolve doc.id))
  found : ∀ asked found, secrets.findSecrets asked = .ok found → found ⊆ asked
  /-- A listed method whose key is read has the public key of the secret. -/
  keys : ∀ a ∈ doc.authentication, ∀ secret pair, secrets.getSecret (a.id.resolve doc.id) = .ok (some secret) →
    secret.asKeyPair crates = .ok pair →
      ∀ method ∈ doc.verificationMethod, method.id = a.id.resolve doc.id → method.Supported →
        ∃ jwk key, method.getJwk crates = .ok (some jwk) ∧ jwk.asCurve crates pair.curve = .ok key ∧
          SamePublic pair.key key

variable {dids : DidResolver} {secrets : SecretsResolver} {fromPrior : FromPrior} {issuerKid : Option String}
  {doc : Document} {jwt kid : String}

omit laws hDots in
theorem authenticationKids_ok {kids : List String} (h : fromPrior.authenticationKids doc issuerKid = .ok kids) :
    (∀ k ∈ kids, k ∈ doc.authentication.map fun a => a.id.resolve doc.id) ∧
      ∀ asked, issuerKid = some asked → kids = [asked] := by
  cases issuerKid with
  | none =>
    cases h
    exact ⟨fun k hk => hk, fun asked hAsked => by cases hAsked⟩
  | some asked =>
    simp only [authenticationKids, except_bind_ok_iff, okOr_ok_iff, ensure_ok_iff] at h
    obtain ⟨url, hUrl, -, -, found, hFound, hKids⟩ := h
    cases hKids
    have hMem : found ∈ doc.authentication := List.mem_of_find?_eq_some hFound
    have hResolved : found.id.resolve doc.id = asked := by
      rw [didOrUrl_url hUrl] at hFound
      simpa using List.find?_some hFound
    refine ⟨fun k hk => ?_, ?_⟩
    · cases List.mem_singleton.mp hk
      exact List.mem_map.mpr ⟨found, hMem, rfl⟩
    · rintro _ ⟨⟩
      rw [hResolved]

omit hDots in
theorem payload_ok {jws : ParsedCompactJWS}
    (h : crates.base64Decode jws.payload = .ok (crates.jsonToString fromPrior.toJson).toUTF8) :
    payload crates jws = .ok fromPrior := by
  have hText : base64 crates "from_prior payload is not a valid base64" jws.payload =
      .ok (crates.jsonToString fromPrior.toJson).toUTF8 := by
    rw [base64, h]
    rfl
  simp only [payload, hText, except_bind_ok_iff, okOr_ok_iff, utf8_ok_iff, Except.ok.injEq, exists_eq_left']
  refine ⟨_, fromUTF8_toUTF8 _, ?_⟩
  rw [laws.read_written fromPrior.floatless_toJson fromPrior.depth_toJson, Option.bind_some, ofJson_toJson]

omit laws hDots in
theorem issuerMethod_ok {did : String} {a : ValueOrReference} {method : VerificationMethod}
    (hUrl : didOrUrl kid = (did, some kid)) (hDoc : dids.resolve did = .ok doc) (hMem : a ∈ doc.authentication)
    (hKid : a.id.resolve doc.id = kid) (hFound : doc.verificationMethod.find? (fun m => m.id == kid) = some method) :
    issuerMethod dids kid = .ok method := by
  have hAny : (doc.authentication.any fun a => a.id.resolve doc.id == kid) = true :=
    List.any_eq_true.mpr ⟨a, hMem, beq_iff_eq.mpr hKid⟩
  simp only [issuerMethod, hUrl, except_bind_ok_iff, ensure_ok_iff, resolved_ok_iff, okOr_ok_iff]
  exact ⟨(), rfl, doc, hDoc, (), hAny, hFound⟩

omit hDots in
/-- What a key signed is read where the issuer's method has that key. -/
theorem unpack_signed {jws : ParsedCompactJWS} {alg : Jws.Algorithm} {curve : Curve} {key key' : crates.KeyPair curve}
    {method : VerificationMethod} {jwk : Params} {name : SignAlg} (hParse : parseCompact crates jwt = .ok jws)
    (hSigned : Jws.SignedCompact (crates.jsonToString fromPrior.toJson).toUTF8 kid key "JWT" alg jws)
    (hIssuer : issuerMethod dids kid = .ok method) (hJwk : method.getJwk crates = .ok (some jwk))
    (hName : signMethod alg = .ok (name, curve)) (hCurve : jwk.asCurve crates curve = .ok key')
    (hSame : SamePublic key key') : FromPrior.unpack crates dids jwt = .ok (fromPrior, kid) := by
  have hVerified : jws.verify crates key' = .ok true := hSigned.verify hSame
  have hPayload : payload crates jws = .ok fromPrior := payload_ok laws hSigned.payload
  have hHeader : jws.parsedHeader = ⟨"JWT", alg, kid⟩ := hSigned.header
  simp only [FromPrior.unpack, except_bind_ok_iff, ensure_ok_iff, okOr_ok_iff, context_ok_iff]
  exact ⟨jws, hParse, (), hHeader ▸ rfl, method, hHeader ▸ hIssuer, some jwk, hJwk, jwk, rfl, (name, curve),
    hHeader ▸ hName, key', hCurve, true, hVerified, (), rfl, fromPrior, hPayload, hHeader ▸ rfl⟩

omit laws hDots in
theorem unpack_not_supported {jws : ParsedCompactJWS} {alg : Jws.Algorithm} {method : VerificationMethod}
    (hParse : parseCompact crates jwt = .ok jws) (hHeader : jws.parsedHeader = ⟨"JWT", alg, kid⟩)
    (hIssuer : issuerMethod dids kid = .ok method) (hSupported : ¬ method.Supported) :
    FromPrior.unpack crates dids jwt = .error (errMsg .unsupported "Couldn't convert key to jwk") := by
  simp only [FromPrior.unpack, hParse, hHeader, hIssuer, VerificationMethod.getJwk_of_not_supported hSupported, ensure,
    okOr, bind, Except.bind, pure, Except.pure, BEq.rfl, if_true]

/-- What is packed is signed by an authentication of the issuer, the one that was asked for. -/
theorem pack_signs (hDoc : dids.resolve fromPrior.iss = .ok doc)
    (hConsistent : Consistent crates secrets fromPrior.iss doc)
    (hPack : fromPrior.pack crates dids secrets issuerKid = .ok (jwt, kid)) :
    (∃ a ∈ doc.authentication, a.id.resolve doc.id = kid) ∧ (∀ asked, issuerKid = some asked → kid = asked) ∧
      ∃ secret signKey alg jws, secrets.getSecret kid = .ok (some secret) ∧ secret.asKeyPair crates = .ok signKey ∧
        signKey.curve.signAlg = .ok alg ∧ parseCompact crates jwt = .ok jws ∧
          Jws.SignedCompact (crates.jsonToString fromPrior.toJson).toUTF8 kid signKey.key "JWT" alg jws := by
  simp only [pack, except_bind_ok_iff, okOr_ok_iff, resolved_ok_iff, context_ok_iff, ofError_ok_iff] at hPack
  obtain ⟨-, -, doc', hDoc', kids, hKids, found, hFound, kid', hKid, _, hSecret, secret, rfl, signKey, hKey,
    alg, hAlg, jwt', hSign, hResult⟩ := hPack
  cases hResult
  cases hDoc.symm.trans hDoc'
  obtain ⟨hAuthentications, hAsked⟩ := authenticationKids_ok hKids
  have hMem : kid ∈ kids := hConsistent.found _ _ hFound (List.mem_of_mem_head? hKid)
  obtain ⟨jws, hParse, hSigned⟩ := Jws.signCompact_opens laws hDots hSign
  refine ⟨List.mem_map.mp (hAuthentications kid hMem), fun asked hSome => ?_, secret, signKey, alg, jws,
    hSecret, hKey, hAlg, hParse, hSigned⟩
  rw [hAsked asked hSome] at hMem
  exact List.mem_singleton.mp hMem

/-- What is packed is read back where the issuer's document lists the method of the kid, and has it in a type whose
key is read. -/
theorem unpack_pack (hDoc : dids.resolve fromPrior.iss = .ok doc)
    (hConsistent : Consistent crates secrets fromPrior.iss doc)
    (hPack : fromPrior.pack crates dids secrets issuerKid = .ok (jwt, kid)) :
    (∃ a ∈ doc.authentication, a.id.resolve doc.id = kid) ∧ (∀ asked, issuerKid = some asked → kid = asked) ∧
      ∀ method, doc.verificationMethod.find? (fun m => m.id == kid) = some method →
        if method.Supported then FromPrior.unpack crates dids jwt = .ok (fromPrior, kid)
        else FromPrior.unpack crates dids jwt = .error (errMsg .unsupported "Couldn't convert key to jwk") := by
  obtain ⟨⟨a, ha, hResolved⟩, hAsked, secret, signKey, alg, jws, hSecret, hKey, hAlg, hParse, hSigned⟩ :=
    pack_signs laws hDots hDoc hConsistent hPack
  refine ⟨⟨a, ha, hResolved⟩, hAsked, fun method hMethod => ?_⟩
  have hUrl : didOrUrl kid = (fromPrior.iss, some kid) := hResolved ▸ hConsistent.urls a ha
  have hIssuer : issuerMethod dids kid = .ok method := issuerMethod_ok hUrl hDoc ha hResolved hMethod
  split
  · next hSupported =>
    have hListed : method ∈ doc.verificationMethod := List.mem_of_find?_eq_some hMethod
    have hId : method.id = a.id.resolve doc.id := by
      rw [hResolved]
      simpa using List.find?_some hMethod
    obtain ⟨jwk, key, hJwk, hCurve, hSame⟩ :=
      hConsistent.keys a ha secret signKey (hResolved ▸ hSecret) hKey method hListed hId hSupported
    obtain ⟨name, hName⟩ := signMethod_signAlg hAlg
    exact unpack_signed laws hParse hSigned hIssuer hJwk hName hCurve hSame
  · next hSupported => exact unpack_not_supported hParse hSigned.header hIssuer hSupported

end FromPrior

end

section
variable (sha256 : ByteArray → ByteArray)

theorem ideal_base64Encode_undotted (bytes : ByteArray) :
    '.' ∉ ((ideal sha256).base64Encode bytes).toList := by
  intro h
  simpa [Base64.value] using Base64.isSome_value_of_mem_encode h

/-- The key to sign with, in a method of a type. -/
def signMethodOf (type did : String) : VerificationMethod := { methodOf "Ed25519" (signKid did) with type_ := type }

/-- A document that has the key to sign with in a method of a type. -/
def typedDocument (type did : String) : Document :=
  { documentOf [] did with verificationMethod := [signMethodOf type did] }

theorem find_typed (type did : String) :
    (typedDocument type did).verificationMethod.find? (fun m => m.id == signKid did) =
      some (signMethodOf type did) := by
  simp [typedDocument, signMethodOf, methodOf]

def typedDids (type : String) : DidResolver := ⟨fun did => .ok (typedDocument type did)⟩

variable {iss : String} (h : '#' ∉ iss.toList)

theorem asKeyPair_signSecret (kid : String) :
    (⟨kid, .jsonWebKey2020, .jwk (publicJwk "Ed25519" kid)⟩ : Secret).asKeyPair (ideal sha256) =
      .ok ⟨.ed25519, kid⟩ :=
  keyPairFromJwk_ideal sha256 _ .ed25519 rfl

theorem getSecret_signKid (did : String) : (secretsOf did).getSecret (signKid did) =
    .ok (some ⟨signKid did, .jsonWebKey2020, .jwk (publicJwk "Ed25519" (signKid did))⟩) :=
  (if_neg (agreeKid_ne_signKid did).symm).trans (if_pos rfl)

/-- Whoever has a key to sign with can say which DID theirs was before. -/
theorem pack_typed (type : String) {fromPrior : FromPrior} (hIss : fromPrior.iss = iss)
    (hValid : fromPrior.validatePack none = .ok ()) :
    ∃ jwt, fromPrior.pack (ideal sha256) (typedDids type) (secretsOf iss) none = .ok (jwt, signKid iss) := by
  subst hIss
  have hFound : (secretsOf fromPrior.iss).findSecrets [signKid fromPrior.iss] = .ok [signKid fromPrior.iss] := by
    simp [secretsOf]
  simp only [FromPrior.pack, except_bind_ok_iff, okOr_ok_iff, resolved_ok_iff, context_ok_iff, ofError_ok_iff]
  exact ⟨_, (), hValid, _, rfl, _, rfl, _, hFound, _, rfl, _, getSecret_signKid _, _, rfl, _,
    asKeyPair_signSecret sha256 _, _, rfl, _, rfl, rfl⟩

include h

theorem typedDocument_consistent {type : String} (hType : type ≠ "Multikey") :
    FromPrior.Consistent (ideal sha256) (secretsOf iss) iss (typedDocument type iss) where
  urls a ha := by
    cases List.mem_singleton.mp ha
    exact didOrUrl_signKid h
  found asked found hFound := by
    cases hFound
    exact fun k hk => List.mem_of_mem_filter hk
  keys a ha secret pair hSecret hPair method hMethod _ hSupported := by
    cases List.mem_singleton.mp ha
    cases List.mem_singleton.mp hMethod
    cases (getSecret_signKid iss).symm.trans hSecret
    cases (asKeyPair_signSecret sha256 _).symm.trans hPair
    have hJwk : type = "JsonWebKey2020" := hSupported.resolve_left hType
    subst hJwk
    exact ⟨_, signKid iss, getJwk_methodOf sha256 "Ed25519" _, asCurve_sign sha256 _, (ideal_samePublic sha256).mpr rfl⟩

end

/-- Alice has another DID now. -/
def rotated : FromPrior := ⟨"did:example:alice", "did:example:alice2", none, none, none, none, none⟩

theorem rotated_unpacked : ∃ jwt,
    rotated.pack (ideal id) (typedDids "JsonWebKey2020") (secretsOf "did:example:alice") none =
      .ok (jwt, signKid "did:example:alice") ∧
    FromPrior.unpack (ideal id) (typedDids "JsonWebKey2020") jwt = .ok (rotated, signKid "did:example:alice") := by
  have hUrl : '#' ∉ "did:example:alice".toList := by decide
  have hValid : rotated.validatePack none = .ok () := by decide
  obtain ⟨jwt, hPack⟩ := pack_typed id "JsonWebKey2020" rfl hValid
  obtain ⟨-, -, hReads⟩ := FromPrior.unpack_pack (ideal_lawful id) (ideal_base64Encode_undotted id) rfl
    (typedDocument_consistent id hUrl (by decide)) hPack
  have hRead := hReads _ (find_typed "JsonWebKey2020" "did:example:alice")
  rw [if_pos (.inr rfl)] at hRead
  exact ⟨jwt, hPack, hRead⟩

/-- Alice publishes the key to sign with as a method of another type. -/
theorem rotated_not_unpacked : ∃ jwt,
    FromPrior.Consistent (ideal id) (secretsOf "did:example:alice") "did:example:alice"
      (typedDocument "JsonWebKey" "did:example:alice") ∧
    rotated.pack (ideal id) (typedDids "JsonWebKey") (secretsOf "did:example:alice") none =
      .ok (jwt, signKid "did:example:alice") ∧
    ¬ FromPrior.unpack (ideal id) (typedDids "JsonWebKey") jwt = .ok (rotated, signKid "did:example:alice") := by
  have hUrl : '#' ∉ "did:example:alice".toList := by decide
  have hValid : rotated.validatePack none = .ok () := by decide
  obtain ⟨jwt, hPack⟩ := pack_typed id "JsonWebKey" rfl hValid
  have hConsistent := typedDocument_consistent id hUrl (show "JsonWebKey" ≠ "Multikey" by decide)
  obtain ⟨-, -, _, _, _, jws, -, -, -, hParse, hSigned⟩ :=
    FromPrior.pack_signs (ideal_lawful id) (ideal_base64Encode_undotted id) rfl hConsistent hPack
  have hIssuer : FromPrior.issuerMethod (typedDids "JsonWebKey") (signKid "did:example:alice") =
      .ok (signMethodOf "JsonWebKey" "did:example:alice") :=
    FromPrior.issuerMethod_ok (didOrUrl_signKid hUrl) rfl (List.mem_singleton_self _) rfl
      (find_typed "JsonWebKey" "did:example:alice")
  have hSupported : ¬ (signMethodOf "JsonWebKey" "did:example:alice").Supported := by decide
  refine ⟨jwt, hConsistent, hPack, fun hRead => ?_⟩
  rw [FromPrior.unpack_not_supported hParse hSigned.header hIssuer hSupported] at hRead
  cases hRead

end AffinidiMessaging.Didcomm
