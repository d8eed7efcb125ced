import AffinidiMessaging.Didcomm.Encrypting
import AffinidiMessaging.Didcomm.RoundTrip

/-! # Keys that are known by their ids

With the ideal crates, documents and secrets in which every DID has one key to sign and one to agree
on keys, and each key is its own id.
-/

namespace AffinidiMessaging.Didcomm

open Fallible Serde

def signKid (did : String) : String := did ++ "#sign"

def agreeKid (did : String) : String := did ++ "#agree"

def publicJwk (crv x : String) : Json := .obj [("crv", .str crv), ("kty", .str "OKP"), ("x", .str x)]

def methodOf (crv kid : String) : VerificationMethod where
  id := kid
  type_ := "JsonWebKey2020"
  properties := [("publicKeyJwk", publicJwk crv kid)]

def documentOf (service : List Service) (did : String) : Document where
  id := did
  verificationMethod := [methodOf "Ed25519" (signKid did), methodOf "X25519" (agreeKid did)]
  authentication := [.reference (.absolute (signKid did))]
  keyAgreement := [.reference (.absolute (agreeKid did))]
  service := service

/-- Every DID, and every DID URL by its DID. -/
def everyDid (service : String → List Service) : DidResolver :=
  ⟨fun did => .ok (documentOf (service (didOrUrl did).1) (didOrUrl did).1)⟩

/-- The secrets of one DID. -/
def secretsOf (did : String) : SecretsResolver where
  getSecret kid :=
    if kid = agreeKid did then .ok (some ⟨kid, .jsonWebKey2020, .jwk (publicJwk "X25519" kid)⟩)
    else if kid = signKid did then .ok (some ⟨kid, .jsonWebKey2020, .jwk (publicJwk "Ed25519" kid)⟩)
    else .ok none
  findSecrets kids := .ok (kids.filter fun kid => kid == agreeKid did || kid == signKid did)

theorem didOrUrl_append {did : String} (fragment : String) (h : '#' ∉ did.toList) :
    didOrUrl (did ++ String.ofList ('#' :: fragment.toList)) =
      (did, some (did ++ String.ofList ('#' :: fragment.toList))) := by
  rw [didOrUrl, Text.splitOnce_append '#' did fragment h]

theorem didOrUrl_signKid {did : String} (h : '#' ∉ did.toList) :
    didOrUrl (signKid did) = (did, some (signKid did)) :=
  didOrUrl_append "sign" h

theorem didOrUrl_agreeKid {did : String} (h : '#' ∉ did.toList) :
    didOrUrl (agreeKid did) = (did, some (agreeKid did)) :=
  didOrUrl_append "agree" h

theorem didOrUrl_noFragment {did : String} (h : '#' ∉ did.toList) : didOrUrl did = (did, none) := by
  rw [didOrUrl, (Text.splitOnce_eq_none_iff '#' did).mpr h]

theorem resolve_everyDid (service : String → List Service) {did : String} (h : '#' ∉ did.toList) :
    (everyDid service).resolve did = .ok (documentOf (service did) did) := by
  simp only [everyDid, didOrUrl_noFragment h]

variable (sha256 : ByteArray → ByteArray) (service : String → List Service)

theorem getJwk_methodOf (crv kid : String) :
    (methodOf crv kid).getJwk (ideal sha256) = .ok (some (.okp crv kid)) := rfl

theorem keyPairFromJwk_ideal (msg : String) (curve : Curve) {jwk : Json} {x : String}
    (h : (jwk.index "x").asStr = some x) :
    keyPairFromJwk (ideal sha256) msg curve jwk = .ok ⟨curve, x⟩ := by
  simp only [keyPairFromJwk, fromJwkValue, except_bind_ok_iff, kind_ok_iff, messageOf_ok_iff]
  exact ⟨x, ideal_fromJwk sha256 curve h, rfl⟩

theorem asKeyPair_agree (x : String) :
    (Params.okp "X25519" x).asKeyPair (ideal sha256) = .ok ⟨.x25519, x⟩ :=
  keyPairFromJwk_ideal sha256 _ .x25519 rfl

theorem asCurve_sign (x : String) :
    (Params.okp "Ed25519" x).asCurve (ideal sha256) .ed25519 = .ok x :=
  (except_bind_ok_iff _ _ _).mpr ⟨(), rfl, (except_bind_ok_iff _ _ _).mpr
    ⟨⟨.ed25519, x⟩, keyPairFromJwk_ideal sha256 _ .ed25519 rfl, rfl⟩⟩

theorem asCurve_agree (x : String) :
    (Params.okp "X25519" x).asCurve (ideal sha256) .x25519 = .ok x :=
  (except_bind_ok_iff _ _ _).mpr ⟨(), rfl, (except_bind_ok_iff _ _ _).mpr
    ⟨⟨.x25519, x⟩, asKeyPair_agree sha256 x, rfl⟩⟩

theorem agreeKid_ne_signKid (did : String) : agreeKid did ≠ signKid did := by
  intro h
  exact absurd (Text.append_left_injective h) (by decide)

theorem find_signKid (service : List Service) (did : String) :
    (documentOf service did).verificationMethod.find? (fun method => method.id == signKid did) =
      some (methodOf "Ed25519" (signKid did)) := by
  simp [documentOf, methodOf]

theorem find_agreeKid (service : List Service) (did : String) :
    (documentOf service did).verificationMethod.find? (fun method => method.id == agreeKid did) =
      some (methodOf "X25519" (agreeKid did)) := by
  simp [documentOf, methodOf, (agreeKid_ne_signKid did).symm]

theorem senderKey_methodOf (kid : String) :
    (methodOf "X25519" kid).senderKey (ideal sha256) = .ok ⟨.x25519, kid⟩ := by
  have hPair := asKeyPair_agree sha256 kid
  simp only [VerificationMethod.senderKey, getJwk_methodOf, hPair, okOr, bind, Except.bind]

theorem senderKey_ideal {did : String} (h : '#' ∉ did.toList) :
    SenderKey (ideal sha256) (everyDid service) (agreeKid did) ⟨.x25519, agreeKid did⟩ := by
  rw [SenderKey, didOrUrl_agreeKid h]
  refine ⟨rfl, _, methodOf "X25519" (agreeKid did), resolve_everyDid service h, ?_,
    find_agreeKid (service did) did, senderKey_methodOf sha256 _⟩
  simp [ideal, documentOf, ValueOrReference.id, DidUrlReference.resolve]

theorem signerKey_ideal {did : String} (h : '#' ∉ did.toList) :
    SignerKey (ideal sha256) (everyDid service) (signKid did) ⟨.ed25519, signKid did⟩ := by
  rw [SignerKey, didOrUrl_signKid h]
  refine ⟨rfl, _, methodOf "Ed25519" (signKid did), _, resolve_everyDid service h, ?_,
    find_signKid (service did) did, getJwk_methodOf sha256 _ _, asCurve_sign sha256 _⟩
  simp [ideal, documentOf, ValueOrReference.id, DidUrlReference.resolve]

theorem recipientKey_ideal (did : String) :
    recipientKey (ideal sha256) (secretsOf did) (agreeKid did) = .ok ⟨.x25519, agreeKid did⟩ := by
  have hPair : keyPairFromJwk (ideal sha256) "Unable parse jwk" .x25519 (publicJwk "X25519" (agreeKid did)) =
      .ok ⟨.x25519, agreeKid did⟩ := keyPairFromJwk_ideal sha256 _ _ rfl
  simp only [recipientKey, except_bind_ok_iff, ofError_ok_iff, okOr_ok_iff]
  exact ⟨_, if_pos rfl, _, rfl, hPair⟩

theorem findSecrets_agreeKid (did : String) : (secretsOf did).findSecrets [agreeKid did] = .ok [agreeKid did] := by
  simp [secretsOf]

/-- A key pair that is known by an id. -/
def idealKey (curve : Curve) (kid : String) : (ideal sha256).KeyPair curve := kid

theorem ideal_held {did : String} (h : '#' ∉ did.toList) :
    Held (fun _ => True) (secretsOf did) [(agreeKid did, idealKey sha256 .x25519 (agreeKid did))]
      (agreeKid did) where
  oneDid := ⟨did, by simp [didOrUrl_agreeKid h]⟩
  found := ⟨[], findSecrets_agreeKid did⟩
  key := ⟨agreeKid did, agreeKid did, List.lookup_cons_self, recipientKey_ideal sha256 did,
    (ideal_samePublic sha256).mpr rfl, trivial⟩

section
variable (dids : DidResolver) (opts : UnpackOptions) {text : String} {inner : ParsedEnvelope}
  (hFirst : opts.expectDecryptByAllKeys = false) (hInner : parseEnvelope (ideal sha256) text = .ok inner)
include hInner

include hFirst in
theorem ideal_anoncrypts {did : String} (h : '#' ∉ did.toList) : ∃ packed jwe,
    packed = (ideal sha256).jsonToString jwe.jwe.toJson ∧
      parseEnvelope (ideal sha256) packed = .ok (.jwe jwe) ∧ jwe.toKids = [agreeKid did] ∧
      OpensLayer (ideal sha256) dids (secretsOf did) opts (.jwe jwe)
        (.anoncrypted jwe .xc20pEcdhEsA256kw [agreeKid did]) inner := by
  obtain ⟨packed, hPacked, -⟩ := (ideal_encrypts sha256).encrypt .xc20P .ecdhEs .ecdhEsA256kw none
    (fun h => by cases h) ⟨.empty, .empty, .empty⟩ text.toUTF8 .xc20P
      [(agreeKid did, idealKey sha256 .x25519 (agreeKid did))]
  obtain ⟨jwe, hText, hParse, hSeals⟩ := Jwe.encrypt_opens (ideal_lawful sha256) rfl rfl hPacked
  exact ⟨_, jwe, hText, hParse, hSeals.toKids, hSeals.opensAnon rfl (ideal_held sha256 h) hFirst hInner⟩

include hFirst in
theorem ideal_authcrypts {sender did : String} (hSender : '#' ∉ sender.toList) (h : '#' ∉ did.toList) :
    ∃ packed jwe, packed = (ideal sha256).jsonToString jwe.jwe.toJson ∧
      parseEnvelope (ideal sha256) packed = .ok (.jwe jwe) ∧ jwe.toKids = [agreeKid did] ∧
      OpensLayer (ideal sha256) (everyDid service) (secretsOf did) opts (.jwe jwe)
        (.authcrypted jwe (agreeKid sender, ⟨.x25519, agreeKid sender⟩) .a256cbcHs512Ecdh1puA256kw
          [agreeKid did]) inner := by
  obtain ⟨packed, hPacked, -⟩ := (ideal_encrypts sha256).encrypt .a256CbcHs512 .ecdh1PU .ecdh1puA256kw
    (some (agreeKid sender, idealKey sha256 .x25519 (agreeKid sender))) (fun _ => rfl) ⟨.empty, .empty, .empty⟩
    text.toUTF8 .a256cbcHs512 [(agreeKid did, idealKey sha256 .x25519 (agreeKid did))]
  obtain ⟨jwe, hText, hParse, hSeals⟩ := Jwe.encrypt_opens (ideal_lawful sha256) rfl rfl hPacked
  exact ⟨_, jwe, hText, hParse, hSeals.toKids, hSeals.opensAuth (by decide)
    (senderKey_ideal sha256 service hSender) ((ideal_samePublic sha256).mpr rfl) (ideal_held sha256 h)
    hFirst hInner⟩

theorem ideal_signs {secrets : SecretsResolver} {signer : String}
    (h : '#' ∉ signer.toList) :
    ∃ packed jws, parseEnvelope (ideal sha256) packed = .ok (.jws jws) ∧
      OpensLayer (ideal sha256) (everyDid service) secrets opts (.jws jws)
        (.signed jws (signKid signer) ⟨.ed25519, signKid signer⟩ .edDSA) inner := by
  have hPacked : ∃ packed, Jws.sign (ideal sha256) text.toUTF8 (signKid signer)
      (idealKey sha256 .ed25519 (signKid signer)) .edDSA = .ok packed := ⟨_, rfl⟩
  obtain ⟨packed, hPacked⟩ := hPacked
  obtain ⟨jws, hParse, hAttested⟩ := Jws.sign_opens (ideal_lawful sha256) hPacked
  exact ⟨packed, jws, hParse, hAttested.opensSigned rfl (signerKey_ideal sha256 service h)
    ((ideal_samePublic sha256).mpr rfl) hInner⟩

end

/-- A ping in the name of a sender, or of nobody. -/
def ping (sender : Option String) : Message :=
  { Message.build "1" "https://didcomm.org/trust-ping/2.0/ping" (.obj []) with from_ := sender }

theorem floatless_ping (sender : Option String) : (ping sender).toJson.floatless = true := by
  cases sender <;> rfl

theorem depth_ping (sender : Option String) : (ping sender).toJson.depth ≤ recursionLimit := by
  cases sender <;> exact Nat.le_add_left 2 125

theorem parseEnvelope_ping (sender : Option String) :
    parseEnvelope (ideal sha256) ((ideal sha256).jsonToString (ping sender).toJson) =
      .ok (.message (ping sender)) :=
  parseEnvelope_message (ideal_lawful sha256) (floatless_ping sender) (depth_ping sender)
    (Message.ofJson_toJson rfl rfl (fun _ h => by cases h)) (Message.envelope_toJson rfl)

section
variable (opts : UnpackOptions) (hFirst : opts.expectDecryptByAllKeys = false) {text : String} {m : Message}
  (hText : parseEnvelope (ideal sha256) text = .ok (.message m)) (hTyp : m.typ = plaintextTyp)
  (hPrior : m.fromPrior = none)
include hFirst hText hTyp hPrior

theorem opens_authcrypted_message (hLimit : 2 < opts.cryptoOperationsLimitPerMessage) {sender did : String}
    (hSender : '#' ∉ sender.toList) (h : '#' ∉ did.toList) : ∃ jwe, jwe.toKids = [agreeKid did] ∧
      Opens (ideal sha256) (everyDid service) (secretsOf did) opts ((ideal sha256).jsonToString jwe.jwe.toJson)
        [.authcrypted jwe (agreeKid sender, ⟨.x25519, agreeKid sender⟩) .a256cbcHs512Ecdh1puA256kw
          [agreeKid did]] m none := by
  obtain ⟨_, jwe, rfl, hParse, hKids, hOpens⟩ := ideal_authcrypts sha256 service opts hFirst hText hSender h
  have hOther : ¬ (ParsedEnvelope.jwe jwe).hasAlg .ecdhEsA256kw := by
    cases hOpens with
    | authcrypted hAlg => exact fun hEs => by cases hAlg.symm.trans hEs
  refine ⟨jwe, hKids, _, hParse, _, _, [], _, [], 1, .stop hOther, by omega, .authcrypted hOpens hLimit, .none id,
    hTyp, ?_, rfl⟩
  rw [hPrior]
  rfl

theorem opens_anoncrypted_message (hLimit : 1 < opts.cryptoOperationsLimitPerMessage)
    (hForward : tryParseForward m = none) {did : String} (h : '#' ∉ did.toList) : ∃ jwe,
      Opens (ideal sha256) (everyDid service) (secretsOf did) opts ((ideal sha256).jsonToString jwe.jwe.toJson)
        [.anoncrypted jwe .xc20pEcdhEsA256kw [agreeKid did]] m none := by
  obtain ⟨_, jwe, rfl, hParse, -, hOpens⟩ := ideal_anoncrypts sha256 (everyDid service) opts hFirst hText h
  have hAlg : (ParsedEnvelope.jwe jwe).hasAlg .ecdhEsA256kw := by
    cases hOpens with
    | anoncrypted hAlg => exact hAlg
  have hUnwrap : unwrapForwarded (ideal sha256) (everyDid service) (secretsOf did) opts (some (.message m)) =
      .ok none := by
    simp only [unwrapForwarded, tryUnwrapForwardedMessage, hForward, ite_self]
  refine ⟨jwe, _, hParse, _, _, _, [], [], 1, .anoncrypted hAlg hOpens hUnwrap, hLimit, .none id, .none id, hTyp,
    ?_, rfl⟩
  rw [hPrior]
  rfl

end

theorem opens_authcrypted (opts : UnpackOptions) (hFirst : opts.expectDecryptByAllKeys = false)
    (hLimit : 2 < opts.cryptoOperationsLimitPerMessage) (sender did : String) (hSender : '#' ∉ sender.toList)
    (h : '#' ∉ did.toList) (who : Option String) : ∃ text jwe,
      text = (ideal sha256).jsonToString jwe.jwe.toJson ∧ jwe.toKids = [agreeKid did] ∧
      Opens (ideal sha256) (everyDid service) (secretsOf did) opts text
        [.authcrypted jwe (agreeKid sender, ⟨.x25519, agreeKid sender⟩) .a256cbcHs512Ecdh1puA256kw
          [agreeKid did]] (ping who) none := by
  obtain ⟨jwe, hOpens⟩ := opens_authcrypted_message sha256 service opts hFirst (parseEnvelope_ping sha256 who) rfl rfl
    hLimit hSender h
  exact ⟨_, jwe, rfl, hOpens⟩

/-- A forward of some JSON to a DID. -/
def forwardTo (next : String) (json : Json) : Message :=
  { Message.build "2" forwardMsgType (.obj [("next", .str next)]) with attachments := some [.carrying json] }

theorem parseEnvelope_forwardTo (next : String) {json : Json} (hValue : value json = some json)
    (hFloatless : json.floatless = true) (hDepth : json.depth ≤ 4) :
    parseEnvelope (ideal sha256) ((ideal sha256).jsonToString (forwardTo next json).toJson) =
      .ok (.message (forwardTo next json)) := by
  refine parseEnvelope_message (ideal_lawful sha256) ?_ ?_ (Message.ofJson_toJson rfl rfl ?_)
    (Message.envelope_toJson rfl)
  · simp [forwardTo, Message.build, Message.toJson, Attachment.toJson, Attachment.carrying, AttachmentData.toJson,
      skipNone, Json.floatless, floatlessFields, floatlessItems, hFloatless]
  · simp [forwardTo, Message.build, Message.toJson, Attachment.toJson, Attachment.carrying, AttachmentData.toJson,
      skipNone, Json.depth, fieldsDepth, itemsDepth, recursionLimit]
    omega
  · intro attached hAttached
    cases hAttached
    exact list_map_of_mem fun a ha => by
      cases List.mem_singleton.mp ha
      exact Attachment.ofJson_carrying hValue

theorem hasKeyAgreementSecret_everyDid {did : String} (h : '#' ∉ did.toList) :
    hasKeyAgreementSecret (everyDid service) (secretsOf did) did = .ok true := by
  simp only [hasKeyAgreementSecret, keyAgreementKids, didOrUrl_noFragment h, except_bind_ok_iff, resolved_ok_iff,
    ofError_ok_iff]
  exact ⟨_, ⟨_, resolve_everyDid service h, rfl⟩, _, findSecrets_agreeKid did, rfl⟩

theorem tryUnwrap_forwardTo {did : String} (h : '#' ∉ did.toList) (json : Json) :
    tryUnwrapForwardedMessage (ideal sha256) (everyDid service) (secretsOf did) (.message (forwardTo did json)) =
      .ok (some ((ideal sha256).jsonToString json)) := by
  have hForward : tryParseForward (forwardTo did json) = some ⟨forwardTo did json, did, json⟩ := rfl
  rw [tryUnwrapForwardedMessage, hForward]
  simp only [hasKeyAgreementSecret_everyDid service h, bind, Except.bind]
  rfl

/-! ## The length of an envelope -/

theorem Jwe.size_toValue_le {jwe : Jwe} {r : Recipient} (h : jwe.recipients = [r]) :
    (JsonText.write jwe.toJson.toValue).length ≤ 6 * (jwe.ciphertext.length + jwe.iv.length +
      jwe.protected_.length + jwe.tag.length + r.encryptedKey.length + r.kid.length) + 500 := by
  rw [Jwe.toJson_toValue, h, JsonText.write, String.length_ofList]
  have h1 := JsonText.length_quote_le jwe.ciphertext
  have h2 := JsonText.length_quote_le jwe.iv
  have h3 := JsonText.length_quote_le jwe.protected_
  have h4 := JsonText.length_quote_le jwe.tag
  have h5 := JsonText.length_quote_le r.encryptedKey
  have h6 := JsonText.length_quote_le r.kid
  have hNames : (JsonText.quote "ciphertext").length + (JsonText.quote "iv").length +
      (JsonText.quote "protected").length + (JsonText.quote "recipients").length + (JsonText.quote "tag").length +
      (JsonText.quote "encrypted_key").length + (JsonText.quote "header").length +
      (JsonText.quote "kid").length ≤ 400 := by decide
  simp only [List.map_cons, List.map_nil, Recipient.toJson_toValue, JsonText.chars, JsonText.moreFieldsChars,
    JsonText.moreItemsChars,
    List.length_append, List.length_cons, List.length_nil]
  omega

theorem Jwe.length_toJson {jwe : Jwe} {r : Recipient} (h : jwe.recipients = [r]) :
    (JsonText.write jwe.toJson).length = (JsonText.write jwe.toJson.toValue).length := by
  rw [Jwe.toJson_toValue, Jwe.toJson, h, JsonText.write, JsonText.write, String.length_ofList, String.length_ofList]
  simp only [List.map_cons, List.map_nil, Recipient.toJson_toValue]
  simp only [Recipient.toJson, JsonText.chars, JsonText.moreFieldsChars, JsonText.moreItemsChars, List.length_append,
    List.length_cons, List.length_nil]
  omega

theorem size_toUTF8_le (text : String) : text.toUTF8.size ≤ 4 * text.length := Text.utf8ByteSize_le text

/-- The header of an anonymous message from no randomness. -/
def sampleHeader (apv : String) : Json :=
  .obj [("typ", .str "application/didcomm-encrypted+json"), ("alg", .str "ECDH-ES+A256KW"), ("enc", .str "XC20P"),
    ("apv", .str apv), ("epk", .obj [("crv", .str "X25519"), ("kty", .str "OKP"), ("x", .str "")])]

theorem length_sampleHeader_le (apv : String) : (JsonText.write (sampleHeader apv)).length ≤ 6 * apv.length + 1000 := by
  have hQuote := JsonText.length_quote_le apv
  have hNames : (["typ", "application/didcomm-encrypted+json", "alg", "ECDH-ES+A256KW", "enc", "XC20P", "apv", "epk",
    "crv", "X25519", "kty", "OKP", "x", ""].map fun s => (JsonText.quote s).length).sum ≤ 900 := by decide
  simp only [List.map_cons, List.map_nil, List.sum_cons, List.sum_nil] at hNames
  simp only [sampleHeader, JsonText.write, String.length_ofList, JsonText.chars, JsonText.moreFieldsChars,
    List.length_append, List.length_cons, List.length_nil]
  -- the quoted names count by their lengths only
  generalize JsonText.quote = quote at *
  omega

/-- What such a message is. -/
def sampleJwe (kid : String) (apv plaintext : ByteArray) : Jwe :=
  let protected_ := Base64.encode (JsonText.write (sampleHeader (Base64.encode apv))).toUTF8
  { protected_
    recipients := [{ kid, encryptedKey := Base64.encode (joined [joined [.empty, kid.toUTF8, "ECDH-ES+A256KW".toUTF8,
      .empty, apv], .empty]) }]
    iv := Base64.encode .empty
    ciphertext := Base64.encode (joined [.empty, .empty, protected_.toUTF8, plaintext])
    tag := Base64.encode .empty }

theorem length_sampleJwe_le (kid : String) (apv plaintext : ByteArray) :
    (JsonText.write (sampleJwe kid apv plaintext).toJson.toValue).length ≤
      12 * plaintext.size + 6000 * apv.size + 60 * kid.length + 500000 := by
  refine (Jwe.size_toValue_le rfl).trans ?_
  dsimp only [sampleJwe]
  have hHeader := length_sampleHeader_le (Base64.encode apv)
  generalize JsonText.write (sampleHeader (Base64.encode apv)) = header at hHeader
  have hApv := Base64.length_encode_le apv
  have hHeaderSize := size_toUTF8_le header
  have hProtected := Base64.length_encode_le header.toUTF8
  generalize Base64.encode header.toUTF8 = protected_ at hProtected
  have hProtectedSize := size_toUTF8_le protected_
  have hKidSize := size_toUTF8_le kid
  have hCiphertext := Base64.length_encode_le (joined [.empty, .empty, protected_.toUTF8, plaintext])
  have hWrappedKey := Base64.length_encode_le
    (joined [joined [.empty, kid.toUTF8, "ECDH-ES+A256KW".toUTF8, .empty, apv], .empty])
  have hName : "ECDH-ES+A256KW".toUTF8.size = 14 := rfl
  have hEmpty : (Base64.encode .empty).length = 0 := rfl
  simp only [size_joined, List.map_cons, List.map_nil, List.sum_cons, List.sum_nil, ByteArray.size_empty]
    at hCiphertext hWrappedKey
  omega

theorem toJwkPublicValue_ideal : toJwkPublicValue (ideal id) (idealKey id .x25519 (Base64.encode .empty)) =
    .ok (.obj [("crv", .str "X25519"), ("kty", .str "OKP"), ("x", .str "")]) := by
  have hRead := ideal_jsonFromStr id (.obj [("crv", .str "X25519"), ("kty", .str "OKP"),
    ("x", .str (Base64.encode .empty))])
  simp only [toJwkPublicValue, except_bind_ok_iff, messageOf_ok_iff, okOr_ok_iff]
  exact ⟨_, rfl, (congrArg (Option.bind · value) hRead).trans rfl⟩

theorem ideal_encrypt_eq (kid : String) (plaintext : ByteArray) :
    Jwe.encrypt (ideal id) ⟨.empty, .empty, .empty⟩ plaintext .xc20P .ecdhEs .ecdhEsA256kw .xc20P none
      [(kid, idealKey id .x25519 kid)] = .ok (JsonText.write (sampleJwe kid kid.toUTF8 plaintext).toJson) := by
  simp only [Jwe.encrypt, except_bind_ok_iff, messageOf_ok_iff]
  refine ⟨.empty, rfl, Base64.encode .empty, rfl, _, toJwkPublicValue_ideal, _, rfl, _, rfl, rfl⟩

end AffinidiMessaging.Didcomm
