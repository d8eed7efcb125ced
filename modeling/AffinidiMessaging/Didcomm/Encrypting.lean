import AffinidiMessaging.Didcomm.Lawful
import AffinidiMessaging.Didcomm.Pack
import AffinidiMessaging.Didcomm.Refinement

/-! # Cryptography that does not fail

What packing relies on to encrypt at all: keys and nonces can be drawn, and any two keys of a curve agree.
-/

namespace AffinidiMessaging.Didcomm

open Fallible Serde

/-- The calls that encryption is made of succeed. An agreement takes a tag of 128 bytes at most. -/
structure Encrypts (crates : Crates) : Prop where
  generateContentKey : ∀ cipher random, ∃ key, crates.generateContentKey cipher random = .ok key
  generateKeyPair : ∀ curve random, ∃ key, crates.generateKeyPair curve random = .ok key
  toJwkPublic : ∀ {curve : Curve} (key : crates.KeyPair curve), ∃ text jwk, crates.toJwkPublic key = .ok text ∧
    (crates.jsonFromStr text).bind value = some jwk
  contentEncrypt : ∀ {cipher : Cipher} (key : crates.ContentKey cipher) (buf aad : ByteArray) random,
    ∃ ciphertext tag, crates.contentEncrypt key buf (crates.randomNonce cipher random) aad = .ok (ciphertext, tag) ∧
      tag.size ≤ 128
  ecdhEs : ∀ {curve : Curve} (ephem recip : crates.KeyPair curve) (alg apu apv : ByteArray),
    ∃ kek, crates.ecdhEs ephem recip alg apu apv false = .ok kek
  ecdh1PU : ∀ {curve : Curve} (ephem send recip : crates.KeyPair curve) (alg apu apv ccTag : ByteArray),
    ccTag.size ≤ 128 → ∃ kek, crates.ecdh1PU ephem send recip alg apu apv ccTag false = .ok kek
  kwEncrypt : ∀ {cipher : Cipher} (kek : crates.Kek) (key : crates.ContentKey cipher),
    ∃ bytes wrapped, crates.contentKeyBytes key = .ok bytes ∧ crates.kwEncrypt kek bytes = .ok wrapped

namespace Encrypts

variable {crates : Crates} (h : Encrypts crates)
include h

theorem toJwkPublicValue {curve : Curve} (key : crates.KeyPair curve) :
    ∃ value, Didcomm.toJwkPublicValue crates key = .ok value := by
  obtain ⟨text, jwk, hText, hJwk⟩ := h.toJwkPublic key
  simp only [Didcomm.toJwkPublicValue, except_bind_ok_iff, messageOf_ok_iff, okOr_ok_iff]
  exact ⟨jwk, text, hText, hJwk⟩

section
variable {curve : Curve} (cipher : Cipher) (kdf : Kdf) (alg : Algorithm)
  (sender : Option (String × crates.KeyPair curve)) (hSender : kdf = .ecdh1PU → sender.isSome)
include hSender

theorem deriveKey (ephem recip : crates.KeyPair curve) (algName apu apv tag : ByteArray) (hTag : tag.size ≤ 128) :
    ∃ kek, ParsedJWE.deriveKey crates kdf ephem (sender.map Prod.snd) recip algName apu apv tag false = .ok kek := by
  cases kdf with
  | ecdhEs =>
    obtain ⟨kek, hKek⟩ := h.ecdhEs ephem recip algName apu apv
    exact ⟨kek, (messageOf_ok_iff _ _ _ _).mpr hKek⟩
  | ecdh1PU =>
    cases sender with
    | none => cases hSender rfl
    | some sender =>
      obtain ⟨kek, hKek⟩ := h.ecdh1PU ephem sender.2 recip algName apu apv tag hTag
      exact ⟨kek, (except_bind_ok_iff _ _ _).mpr ⟨sender.2, rfl, (messageOf_ok_iff _ _ _ _).mpr hKek⟩⟩

theorem encryptKeys (apv tag : ByteArray) (hTag : tag.size ≤ 128) (cek : crates.ContentKey cipher)
    (epk : crates.KeyPair curve) (recipients : List (String × crates.KeyPair curve)) :
    ∃ keys, Jwe.encryptKeys crates kdf alg apv tag cek epk sender recipients = .ok keys ∧
      keys.map Recipient.kid = recipients.map Prod.fst := by
  induction recipients with
  | nil => exact ⟨[], rfl, rfl⟩
  | cons recipient rest ih =>
    obtain ⟨keys, hKeys, hKids⟩ := ih
    obtain ⟨kek, hKek⟩ := h.deriveKey kdf sender hSender epk recipient.2 alg.asStr.toUTF8
      ((sender.map fun s => s.1.toUTF8).getD .empty) apv tag hTag
    obtain ⟨bytes, wrapped, hBytes, hWrapped⟩ := h.kwEncrypt kek cek
    simp only [Jwe.encryptKeys, Jwe.encryptKey, wrapKey, except_bind_ok_iff, kind_ok_iff, messageOf_ok_iff]
    exact ⟨_, ⟨_, ⟨kek, hKek, wrapped, ⟨bytes, hBytes, hWrapped⟩, rfl⟩, keys, hKeys, rfl⟩,
      congrArg (recipient.1 :: ·) hKids⟩

/-- Whoever has a key where the sender needs one can encrypt for anybody. -/
theorem encrypt (draws : Draws crates) (plaintext : ByteArray) (enc : EncAlgorithm)
    (recipients : List (String × crates.KeyPair curve)) :
    ∃ jwe : Jwe, Jwe.encrypt crates draws plaintext cipher kdf alg enc sender recipients =
        .ok (crates.jsonToString jwe.toJson) ∧
      jwe.recipients.map Recipient.kid = recipients.map Prod.fst := by
  obtain ⟨cek, hCek⟩ := h.generateContentKey cipher draws.cek
  obtain ⟨epk, hEpk⟩ := h.generateKeyPair curve draws.epk
  obtain ⟨epkJwk, hJwk⟩ := h.toJwkPublicValue epk
  let skid := sender.map Prod.fst
  let apv := apvOf crates (recipients.map Prod.fst)
  let header : ProtectedHeader :=
    { typ := some "application/didcomm-encrypted+json", alg, enc, skid
      apu := skid.map fun skid => crates.base64Encode skid.toUTF8
      apv := crates.base64Encode apv
      epk := epkJwk }
  let protected_ := crates.base64Encode (crates.jsonToString header.toJson).toUTF8
  obtain ⟨ciphertext, tag, hContent, hTag⟩ := h.contentEncrypt cek plaintext protected_.toUTF8 draws.nonce
  obtain ⟨keys, hKeys, hKids⟩ := h.encryptKeys cipher kdf alg sender hSender apv tag hTag cek epk recipients
  refine ⟨⟨protected_, keys, crates.base64Encode (crates.randomNonce cipher draws.nonce),
    crates.base64Encode ciphertext, crates.base64Encode tag⟩, ?_, hKids⟩
  simp only [Jwe.encrypt, except_bind_ok_iff, messageOf_ok_iff]
  exact ⟨cek, hCek, epk, hEpk, epkJwk, hJwk, (ciphertext, tag), hContent, keys, hKeys, rfl⟩

end

end Encrypts

theorem ideal_encrypts (sha256 : ByteArray → ByteArray) : Encrypts (ideal sha256) where
  generateContentKey _ random := ⟨random, rfl⟩
  generateKeyPair _ random := ⟨Base64.encode random, rfl⟩
  toJwkPublic := fun {curve} key => by
    obtain ⟨crv, hRead⟩ := ideal_jwkText sha256 curve key
    exact ⟨_, _, rfl, by rw [hRead, Option.bind_some, value_of_literal rfl]⟩
  contentEncrypt _ _ _ _ := ⟨_, _, rfl, by decide⟩
  ecdhEs _ _ _ _ _ := ⟨_, rfl⟩
  ecdh1PU _ _ _ _ _ _ _ _ := ⟨_, rfl⟩
  kwEncrypt _ key := ⟨key, _, rfl, rfl⟩

end AffinidiMessaging.Didcomm
