import AffinidiMessaging.Library.JsonValue
import AffinidiMessaging.Didcomm.IdealCrates

/-! # Cryptography that inverts itself

What packing and unpacking rely on in the other crates: a text is read back as it was written, up to
the nesting that is read and the precision of floats, and what one side encrypts, wraps or signs the other
side opens when the keys match.
-/

namespace AffinidiMessaging.Didcomm

open Serde

/-- Two keys with the same public key, of which each may have its private key or not. -/
def SamePublic {crates : Crates} {curve : Curve} (key key' : crates.KeyPair curve) : Prop :=
  ∃ jwk, crates.toJwkPublic key = .ok jwk ∧ crates.toJwkPublic key' = .ok jwk

open scoped Classical in
/-- What was written is read as the same tree, unless it is nested too deep; a float may be read as the one next to it.
Which values the tree stands for is another matter. -/
def ReadsWritten (crates : Crates) (reread : Int → Int → Int × Int) (limit : ℕ∞) : Prop :=
  ∀ j, crates.jsonFromStr (crates.jsonToString j) = if j.depth ≤ limit then some (j.mapFloats reread) else none

/-- The nesting that `serde_json` reads. -/
def recursionLimit : Nat := 127

structure Lawful (crates : Crates) (hasPrivate : {curve : Curve} → crates.KeyPair curve → Prop)
    (reread : Int → Int → Int × Int) (limit : ℕ∞) : Prop where
  jsonFromStr_jsonToString : ReadsWritten crates reread limit
  recursionLimit_le : recursionLimit ≤ limit
  jsonFromSlice_toUTF8 : ∀ text : String, crates.jsonFromSlice text.toUTF8 = crates.jsonFromStr text
  base64Decode_base64Encode : ∀ bytes, crates.base64Decode (crates.base64Encode bytes) = .ok bytes
  unpadded : ∀ bytes, '=' ∉ (crates.base64Encode bytes).toList
  fromJwk_toJwkPublic : ∀ {curve : Curve} (key : crates.KeyPair curve) (text : String),
    crates.toJwkPublic key = .ok text → ∃ jwk key', crates.jsonFromStr text = some jwk ∧
      jwk.floatless ∧ jwk.depth ≤ 1 ∧ jwk.literal ∧ jwk.toValue.literal ∧
      crates.fromJwk curve (crates.jsonToString jwk.toValue) = .ok key' ∧ SamePublic key key'
  verifySignature_createSignature : ∀ {curve : Curve} {key key' : crates.KeyPair curve}
    {message signature : ByteArray} {type : SignatureType}, SamePublic key key' →
      crates.createSignature key message type = .ok signature →
      crates.verifySignature key' message signature type = .ok true
  ecdhEs_receive : ∀ {curve : Curve} {ephem ephem' recip recip' : crates.KeyPair curve}
    {alg apu apv : ByteArray} {kek : crates.Kek}, SamePublic ephem ephem' → SamePublic recip recip' →
      hasPrivate recip' → crates.ecdhEs ephem recip alg apu apv false = .ok kek →
      crates.ecdhEs ephem' recip' alg apu apv true = .ok kek
  ecdh1PU_receive : ∀ {curve : Curve} {ephem ephem' send send' recip recip' : crates.KeyPair curve}
    {alg apu apv ccTag : ByteArray} {kek : crates.Kek}, SamePublic ephem ephem' →
      SamePublic send send' → SamePublic recip recip' → hasPrivate recip' →
      crates.ecdh1PU ephem send recip alg apu apv ccTag false = .ok kek →
      crates.ecdh1PU ephem' send' recip' alg apu apv ccTag true = .ok kek
  kwDecrypt_kwEncrypt : ∀ {kek : crates.Kek} {bytes wrapped : ByteArray},
    crates.kwEncrypt kek bytes = .ok wrapped → crates.kwDecrypt kek wrapped = .ok bytes
  contentKeyFromBytes_contentKeyBytes : ∀ {cipher : Cipher} {key : crates.ContentKey cipher}
    {bytes : ByteArray}, crates.contentKeyBytes key = .ok bytes →
      crates.contentKeyFromBytes cipher bytes = .ok key
  contentDecrypt_contentEncrypt : ∀ {cipher : Cipher} {key : crates.ContentKey cipher}
    {buf nonce aad ciphertext tag : ByteArray},
      crates.contentEncrypt key buf nonce aad = .ok (ciphertext, tag) →
      crates.contentDecrypt key (ciphertext ++ tag) nonce aad = .ok buf

section

variable {crates : Crates} {hasPrivate : {curve : Curve} → crates.KeyPair curve → Prop}
  {reread : Int → Int → Int × Int} {limit : ℕ∞}

theorem ReadsWritten.eq_some_iff (h : ReadsWritten crates reread limit) {j j' : Json} :
    crates.jsonFromStr (crates.jsonToString j) = some j' ↔ j.depth ≤ limit ∧ j.mapFloats reread = j' := by
  rw [h, Option.ite_none_right_eq_some, Option.some.injEq]

/-- A text without floats is read back exactly. -/
theorem Lawful.read_written (laws : Lawful crates hasPrivate reread limit) {j : Json} (h : j.floatless = true)
    (hDepth : j.depth ≤ recursionLimit) : crates.jsonFromStr (crates.jsonToString j) = some j := by
  rw [laws.jsonFromStr_jsonToString.eq_some_iff]
  exact ⟨le_trans (Nat.cast_le.mpr hDepth) laws.recursionLimit_le, mapFloats_of_floatless reread h⟩

end

variable (sha256 : ByteArray → ByteArray)

theorem ideal_read (j : Json) : (ideal sha256).jsonFromStr ((ideal sha256).jsonToString j) = some j :=
  ideal_jsonFromStr sha256 j

theorem ideal_jwkText (curve : Curve) (x : String) : ∃ crv, (ideal sha256).jsonFromStr (jwkText curve x) =
    some (.obj [("crv", .str crv), ("kty", .str "OKP"), ("x", .str x)]) :=
  ⟨_, ideal_jsonFromStr sha256 _⟩

theorem ideal_fromJwk (curve : Curve) {jwk : Json} {x : String} (h : (jwk.index "x").asStr = some x) :
    (ideal sha256).fromJwk curve ((ideal sha256).jsonToString jwk) = .ok x := by
  simp only [ideal, jwkCoordinate, JsonText.read_write, Option.bind_some, h]

theorem ideal_samePublic {curve : Curve} {key key' : (ideal sha256).KeyPair curve} :
    SamePublic key key' ↔ key = key' := by
  constructor
  · rintro ⟨jwk, h, h'⟩
    have hText : jwkText curve key = jwkText curve key' :=
      (Except.ok.inj h).trans (Except.ok.inj h').symm
    have hRead := congrArg JsonText.read hText
    simp only [jwkText, JsonText.read_write, Option.some.injEq, Json.obj.injEq, List.cons.injEq,
      Prod.mk.injEq, true_and, and_true] at hRead
    exact Json.str.inj hRead
  · rintro rfl
    exact ⟨_, rfl, rfl⟩

theorem orFailed_afterPrefix (start rest : ByteArray) :
    orFailed (afterPrefix start (joined [start, rest])) = .ok rest := by
  rw [afterPrefix_joined]
  rfl

theorem index_x_toValue (crv kty x : String) :
    ((Json.obj [("crv", .str crv), ("kty", .str kty), ("x", .str x)]).toValue.index "x").asStr = some x := by
  simp only [Json.toValue, toMap, insertField]
  rfl

theorem literal_toValue_jwk (crv kty x : String) :
    (Json.obj [("crv", .str crv), ("kty", .str kty), ("x", .str x)]).toValue.literal = true := by
  simp only [Json.toValue, toMap, insertField]
  rfl

theorem ideal_fromJwk_toJwkPublic {curve : Curve} (key : (ideal sha256).KeyPair curve) (text : String)
    (h : (ideal sha256).toJwkPublic key = .ok text) :
    ∃ jwk key', (ideal sha256).jsonFromStr text = some jwk ∧ jwk.floatless ∧ jwk.depth ≤ 1 ∧
      jwk.literal ∧ jwk.toValue.literal ∧
      (ideal sha256).fromJwk curve ((ideal sha256).jsonToString jwk.toValue) = .ok key' ∧
      SamePublic key key' := by
  obtain ⟨crv, hRead⟩ := ideal_jwkText sha256 curve key
  obtain rfl : jwkText curve key = text := Except.ok.inj h
  refine ⟨_, key, hRead, rfl, le_rfl, rfl, literal_toValue_jwk crv "OKP" key, ?_, (ideal_samePublic sha256).mpr rfl⟩
  exact ideal_fromJwk sha256 curve (index_x_toValue crv "OKP" key)

theorem beq_self (bytes : ByteArray) : (bytes == bytes) = true :=
  beq_self_eq_true bytes.data

theorem joined_empty (key nonce aad buf : ByteArray) :
    joined [key, nonce, aad, buf] ++ ByteArray.empty = joined [joined [key, nonce, aad], buf] := by
  apply ByteArray.ext
  simp [joined]

theorem ideal_readsWritten : ReadsWritten (ideal sha256) Prod.mk ⊤ := by
  intro j
  rw [ideal_read, if_pos le_top, mapFloats_mk]

/-- The crates with ideal cryptography obey the laws; each of their keys has its private key. -/
theorem ideal_lawful : Lawful (ideal sha256) (fun _ => True) Prod.mk ⊤ where
  jsonFromStr_jsonToString := ideal_readsWritten sha256
  recursionLimit_le := le_top
  jsonFromSlice_toUTF8 text := by simp only [ideal, fromUTF8_toUTF8, Option.bind_some]
  base64Decode_base64Encode := ideal_base64 sha256
  unpadded bytes h := by simpa [Base64.value] using Base64.isSome_value_of_mem_encode h
  fromJwk_toJwkPublic := ideal_fromJwk_toJwkPublic sha256
  verifySignature_createSignature := by
    intro curve key key' message signature type hSame hSign
    cases (ideal_samePublic sha256).mp hSame
    cases hSign
    exact congrArg Except.ok (beq_self _)
  ecdhEs_receive := by
    intro curve ephem ephem' recip recip' alg apu apv kek hEphem hRecip _ hKek
    cases (ideal_samePublic sha256).mp hEphem
    cases (ideal_samePublic sha256).mp hRecip
    exact hKek
  ecdh1PU_receive := by
    intro curve ephem ephem' send send' recip recip' alg apu apv ccTag kek hEphem hSend hRecip _ hKek
    cases (ideal_samePublic sha256).mp hEphem
    cases (ideal_samePublic sha256).mp hSend
    cases (ideal_samePublic sha256).mp hRecip
    exact hKek
  kwDecrypt_kwEncrypt := by
    intro kek bytes wrapped hWrap
    cases hWrap
    exact orFailed_afterPrefix kek bytes
  contentKeyFromBytes_contentKeyBytes := by
    intro cipher key bytes hBytes
    cases hBytes
    rfl
  contentDecrypt_contentEncrypt := by
    intro cipher key buf nonce aad ciphertext tag hEncrypt
    cases hEncrypt
    exact (congrArg (fun bytes => orFailed (afterPrefix (joined [key, nonce, aad]) bytes))
      (joined_empty key nonce aad buf)).trans (orFailed_afterPrefix _ buf)

end AffinidiMessaging.Didcomm
