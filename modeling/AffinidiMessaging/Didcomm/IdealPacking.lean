import AffinidiMessaging.Didcomm.PackUnpack

/-! # Texts of the ideal crates

What is packed in the name of a sender is written out, and how long it is.
-/

namespace AffinidiMessaging.Didcomm

open Fallible Serde

def sampleDraws : Message.PackDraws (ideal id) :=
  ⟨(⟨.empty, .empty, .empty⟩, ⟨.empty, .empty, .empty⟩), anyDraws id⟩

def signedHeader : Jws.ProtectedHeader := ⟨"application/didcomm-signed+json", .edDSA⟩

/-- What a text is signed to where keys are names. -/
def sampleJws (kid : String) (payload : ByteArray) : Jws :=
  let protected_ := Base64.encode (JsonText.write signedHeader.toJson).toUTF8
  let payload := Base64.encode payload
  let signature := Base64.encode (joined [kid.toUTF8, (protected_ ++ "." ++ payload).toUTF8])
  { signatures := [{ kid, protected_, signature }], payload }

theorem length_jws_le {jws : Jws} {s : Jws.Signature} (h : jws.signatures = [s]) : (JsonText.write jws.toJson).length ≤
    6 * (jws.payload.length + s.kid.length + s.protected_.length + s.signature.length) + 500 := by
  rw [Jws.toJson, h, JsonText.write, String.length_ofList]
  have h1 := JsonText.length_quote_le jws.payload
  have h2 := JsonText.length_quote_le s.kid
  have h3 := JsonText.length_quote_le s.protected_
  have h4 := JsonText.length_quote_le s.signature
  have hNames : (["signatures", "payload", "header", "kid", "protected", "signature"].map fun s =>
    (JsonText.quote s).length).sum ≤ 400 := by decide
  simp only [List.map_cons, List.map_nil, List.sum_cons, List.sum_nil] at hNames
  simp only [List.map_cons, List.map_nil, Jws.Signature.toJson, JsonText.chars, JsonText.moreFieldsChars,
    JsonText.moreItemsChars, List.length_append, List.length_cons, List.length_nil]
  omega

theorem length_sampleJws_le (kid : String) (payload : ByteArray) :
    (JsonText.write (sampleJws kid payload).toJson).length ≤ 200 * payload.size + 200 * kid.length + 50000 := by
  refine (length_jws_le rfl).trans ?_
  dsimp only [sampleJws]
  have hHeader : (JsonText.write signedHeader.toJson).length ≤ 100 := by decide
  have hHeaderSize := size_toUTF8_le (JsonText.write signedHeader.toJson)
  generalize JsonText.write signedHeader.toJson = header at hHeader hHeaderSize
  have hProtected := Base64.length_encode_le header.toUTF8
  generalize Base64.encode header.toUTF8 = protected_ at hProtected
  have hPayload := Base64.length_encode_le payload
  generalize Base64.encode payload = encoded at hPayload
  have hSigned := size_toUTF8_le (protected_ ++ "." ++ encoded)
  have hKidSize := size_toUTF8_le kid
  have hSignature := Base64.length_encode_le (joined [kid.toUTF8, (protected_ ++ "." ++ encoded).toUTF8])
  have hDot : ".".length = 1 := rfl
  simp only [size_joined, List.map_cons, List.map_nil, List.sum_cons, List.sum_nil,
    String.length_append] at hSignature hSigned
  omega

/-- The header of a message in the name of a sender. -/
def authHeader (skid apv : String) : ProtectedHeader where
  typ := some "application/didcomm-encrypted+json"
  alg := .ecdh1puA256kw
  enc := .a256cbcHs512
  skid := some skid
  apu := some (Base64.encode skid.toUTF8)
  apv := apv
  epk := .obj [("crv", .str "X25519"), ("kty", .str "OKP"), ("x", .str "")]

/-- What such a message is. -/
def authJwe (skid kid : String) (plaintext : ByteArray) : Jwe :=
  let protected_ := Base64.encode (JsonText.write (authHeader skid (Base64.encode kid.toUTF8)).toJson).toUTF8
  { protected_
    recipients := [{ kid, encryptedKey := Base64.encode (joined [joined [.empty, skid.toUTF8, kid.toUTF8,
      "ECDH-1PU+A256KW".toUTF8, skid.toUTF8, kid.toUTF8, .empty], .empty]) }]
    iv := Base64.encode .empty
    ciphertext := Base64.encode (joined [.empty, .empty, protected_.toUTF8, plaintext])
    tag := Base64.encode .empty }

theorem length_authJwe_le {skid kid : String}
    (hHeader : (JsonText.write (authHeader skid (Base64.encode kid.toUTF8)).toJson).length ≤ 2000)
    (plaintext : ByteArray) : (JsonText.write (authJwe skid kid plaintext).toJson).length ≤
      12 * plaintext.size + 1000 * skid.length + 1000 * kid.length + 1000000 := by
  rw [Jwe.length_toJson rfl]
  refine (Jwe.size_toValue_le rfl).trans ?_
  dsimp only [authJwe]
  generalize JsonText.write (authHeader skid (Base64.encode kid.toUTF8)).toJson = header at hHeader
  have hHeaderSize := size_toUTF8_le header
  have hProtected := Base64.length_encode_le header.toUTF8
  generalize Base64.encode header.toUTF8 = protected_ at hProtected
  have hProtectedSize := size_toUTF8_le protected_
  have hKidSize := size_toUTF8_le kid
  have hSkidSize := size_toUTF8_le skid
  have hCiphertext := Base64.length_encode_le (joined [.empty, .empty, protected_.toUTF8, plaintext])
  have hWrappedKey := Base64.length_encode_le (joined [joined [.empty, skid.toUTF8, kid.toUTF8,
    "ECDH-1PU+A256KW".toUTF8, skid.toUTF8, kid.toUTF8, .empty], .empty])
  have hName : "ECDH-1PU+A256KW".toUTF8.size = 15 := rfl
  have hEmpty : (Base64.encode .empty).length = 0 := rfl
  simp only [size_joined, List.map_cons, List.map_nil, List.sum_cons, List.sum_nil, ByteArray.size_empty]
    at hCiphertext hWrappedKey
  omega

theorem ideal_authEncrypt_eq (skid kid : String) (plaintext : ByteArray) :
    Jwe.encrypt (ideal id) ⟨.empty, .empty, .empty⟩ plaintext .a256CbcHs512 .ecdh1PU .ecdh1puA256kw .a256cbcHs512
      (some (skid, idealKey id .x25519 skid)) [(kid, idealKey id .x25519 kid)] =
        .ok (JsonText.write (authJwe skid kid plaintext).toJson) := by
  simp only [Jwe.encrypt, except_bind_ok_iff, messageOf_ok_iff]
  refine ⟨.empty, rfl, Base64.encode .empty, rfl, _, toJwkPublicValue_ideal, _, rfl, _, rfl, rfl⟩

section
variable {sender did : String} (hSender : '#' ∉ sender.toList) (h : '#' ∉ did.toList)
include hSender

theorem packSigned_everyDid_eq {m : Message} (hDid : isDid sender = true) {payload : String}
    (hPayload : m.packPlaintext (ideal id) (everyDid fun _ => []) = .ok payload) :
    m.packSigned (ideal id) (everyDid fun _ => []) (secretsOf sender) sender =
      .ok (JsonText.write (sampleJws (signKid sender) payload.toUTF8).toJson, signKid sender) := by
  have hFound : (secretsOf sender).findSecrets [signKid sender] = .ok [signKid sender] := by simp [secretsOf]
  simp only [Message.packSigned, didOrUrl_noFragment hSender, except_bind_ok_iff, resolved_ok_iff, ensure_ok_iff,
    context_ok_iff, ofError_ok_iff, okOr_ok_iff]
  exact ⟨(), hDid, _, resolve_everyDid _ hSender, _, rfl, _, hFound, _, rfl, _, getSecret_signKid sender, _, rfl, _,
    asKeyPair_signSecret id _, _, hPayload, _, rfl, _, rfl, rfl⟩

include h

theorem authcrypt_everyDid_eq (msg : ByteArray) :
    authcrypt (ideal id) (everyDid fun _ => []) (secretsOf sender) sampleDraws.layers did sender msg {} =
      .ok (JsonText.write (authJwe (agreeKid sender) (agreeKid did) msg).toJson, agreeKid sender, [agreeKid did]) := by
  have hTo : RecipientKeys (ideal id) (everyDid fun _ => []) did ({} : PackEncryptedOptions).toKidsLimit _ :=
    everyDid_recipientKeys h
  have hShared : sharedWith (ideal id) [methodOf "X25519" (agreeKid did)] .x25519 = true := by
    simp only [sharedWith, List.any_cons, List.any_nil, Bool.or_false]
    exact isOf_agree _
  have hFilter : [methodOf "X25519" (agreeKid did)].filter (VerificationMethod.isOf (ideal id) .x25519) =
      [methodOf "X25519" (agreeKid did)] := List.filter_cons_of_pos (isOf_agree _)
  have hSecret : (secretsOf sender).getSecret (agreeKid sender) =
      .ok (some ⟨agreeKid sender, .jsonWebKey2020, .jwk (publicJwk "X25519" (agreeKid sender))⟩) := by simp [secretsOf]
  have hPair : (⟨agreeKid sender, .jsonWebKey2020, .jwk (publicJwk "X25519" (agreeKid sender))⟩ : Secret).asCurve
      (ideal id) .x25519 = .ok (agreeKid sender) := by
    rw [Secret.asCurve]
    exact (except_bind_ok_iff _ _ _).mpr ⟨(), rfl, (except_bind_ok_iff _ _ _).mpr
      ⟨⟨.x25519, agreeKid sender⟩, keyPairFromJwk_ideal id _ .x25519 rfl, rfl⟩⟩
  refine (authcrypt_ok_iff hTo (everyDid_senderKeys hSender)).mpr
    ⟨fun method hMethod => ?_, methodOf "X25519" (agreeKid sender),
    .x25519, (firstKey_of_isOf _ _ _ (isOf_agree _) hShared).mpr ⟨rfl, rfl⟩, rfl, _, hSecret,
    [(agreeKid did, idealKey id .x25519 (agreeKid did))], ?_,
    JsonText.write (authJwe (agreeKid sender) (agreeKid did) msg).toJson, ?_, ?_⟩
  · exact List.mem_singleton.mp hMethod ▸ readable_methodOf _ _
  · rw [hFilter]
    simp only [keyPairs, except_bind_ok_iff]
    exact ⟨_, asCurve_methodOf id _ _, _, rfl, rfl⟩
  · simp only [authEncrypt, hPair, except_bind_ok_iff, context_ok_iff]
    exact ⟨_, rfl, _, ideal_authEncrypt_eq _ _ _, rfl⟩
  · rw [hFilter]
    rfl

end

section
variable {m : Message} {sender did : String} (hSender : '#' ∉ sender.toList) (h : '#' ∉ did.toList)
include hSender h

/-- A message that is packed in the name of its sender is signed and encrypted. -/
theorem packEncrypted_everyDid_ok {packed : String × PackEncryptedMetadata}
    (hPacked : m.packEncrypted (ideal id) (everyDid fun _ => []) (secretsOf sender) sampleDraws did (some sender)
      (some sender) {} = .ok packed) : packed.2.toKids = [agreeKid did] ∧ ∃ signed,
      m.packSigned (ideal id) (everyDid fun _ => []) (secretsOf sender) sender = .ok signed ∧
      (packed.2.messagingService = none →
        packed.1 = JsonText.write (authJwe (agreeKid sender) (agreeKid did) signed.1.toUTF8).toJson) := by
  simp only [Message.packEncrypted, Message.packInner, Message.packOuter, except_bind_ok_iff, context_ok_iff] at hPacked
  obtain ⟨-, -, inner, ⟨signed, hSigned, hInner⟩, outer, ⟨sealed, hSealed, hOuter⟩, wrapped, -, hPacked⟩ := hPacked
  obtain rfl := Except.ok.inj hInner
  obtain rfl := Except.ok.inj ((authcrypt_everyDid_eq hSender h _).symm.trans hSealed)
  obtain rfl := Except.ok.inj hOuter
  obtain rfl := Except.ok.inj hPacked
  refine ⟨rfl, signed, hSigned, fun hService => ?_⟩
  cases wrapped with
  | none => rfl
  | some wrapped => cases hService

theorem packEncrypted_length (hDid : isDid sender = true) {payload : String}
    (hHeader : (JsonText.write
      (authHeader (agreeKid sender) (Base64.encode (agreeKid did).toUTF8)).toJson).length ≤ 2000)
    (hPayload : m.packPlaintext (ideal id) (everyDid fun _ => []) = .ok payload)
    {packed : String × PackEncryptedMetadata}
    (hPacked : m.packEncrypted (ideal id) (everyDid fun _ => []) (secretsOf sender) sampleDraws did (some sender)
      (some sender) {} = .ok packed) (hService : packed.2.messagingService = none) :
    packed.1.length ≤ 10000 * (payload.toUTF8.size + (agreeKid sender).length + (agreeKid did).length +
      (signKid sender).length) + 4000000 := by
  obtain ⟨-, signed, hSigned, hText⟩ := packEncrypted_everyDid_ok hSender h hPacked
  have hSignedLength : signed.1.length ≤ 200 * payload.toUTF8.size + 200 * (signKid sender).length + 50000 := by
    obtain rfl := Except.ok.inj ((packSigned_everyDid_eq hSender hDid hPayload).symm.trans hSigned)
    exact length_sampleJws_le _ _
  have hSignedSize := size_toUTF8_le signed.1
  have hLength := length_authJwe_le hHeader signed.1.toUTF8
  rw [hText hService]
  omega

end

end AffinidiMessaging.Didcomm
