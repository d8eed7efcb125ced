import AffinidiMessaging.Didcomm.IdealKeys

/-! # Verification inverts signing

A JWS by itself: what `sign` writes is parsed to the payload and the one key that signed it, which verifies it, and no
other key id is known to it.
-/

namespace AffinidiMessaging.Didcomm

open Fallible Serde

section
variable (crates : Crates)

def Jws.fromStr (s : String) : Result Jws :=
  okOr ((crates.jsonFromStr s).bind Jws.ofJson) (jsonFault crates "Unable parse jws" "Jws" s.toUTF8)

def parseJws (jws : String) : Result ParsedJWS := do
  let jws ← Jws.fromStr crates jws
  jws.parse crates

end

variable {crates : Crates}

theorem ParsedJWS.verify_unknown {jws : ParsedJWS} {kid : String} (h : kid ∉ jws.jws.signatures.map Jws.Signature.kid)
    {curve : Curve} (key : crates.KeyPair curve) :
    jws.verify crates kid key = .error (errMsg .invalidState "KID not found") := by
  have hIndex : jws.jws.signatures[jws.jws.signatures.findIdx fun s => s.kid == kid]? = none := by
    rw [List.getElem?_eq_none_iff, List.findIdx_eq_length_of_false]
    intro s hs
    rw [beq_eq_false_iff_ne]
    rintro rfl
    exact h (List.mem_map_of_mem hs)
  rw [verify, hIndex]
  rfl

theorem Jws.jws_of_parse {jws : Jws} {parsed : ParsedJWS} (h : jws.parse crates = .ok parsed) : parsed.jws = jws := by
  obtain ⟨protected_, -, hParsed⟩ := (except_bind_ok_iff _ _ _).mp h
  cases hParsed
  rfl

variable {hasPrivate : {curve : Curve} → crates.KeyPair curve → Prop} {reread : Int → Int → Int × Int} {limit : ℕ∞}
  (laws : Lawful crates hasPrivate reread limit)

include laws

theorem Jws.fromStr_written (jws : Jws) : Jws.fromStr crates (crates.jsonToString jws.toJson) = .ok jws := by
  rw [Jws.fromStr, laws.read_written jws.floatless_toJson (jws.depth_toJson.trans (by decide)), okOr_ok_iff,
    Option.bind_some, Jws.ofJson_toJson]

theorem parseEnvelope_jws_ok {jws : Jws} {parsed : ParsedJWS}
    (h : parseEnvelope crates (crates.jsonToString jws.toJson) = .ok (.jws parsed)) :
    jws.parse crates = .ok parsed := by
  obtain ⟨envelope, hText, h⟩ := (except_bind_ok_iff _ _ _).mp h
  cases (fromStr_jws laws jws).symm.trans hText
  obtain ⟨outer, hOuter, hVerify⟩ := (except_bind_ok_iff _ _ _).mp h
  obtain ⟨p, hParse, hSame⟩ := (except_bind_ok_iff _ _ _).mp hOuter
  cases hSame
  cases hVerify
  exact hParse

/-- What is signed is verified with the public key, by the key id that signed it and by no other. -/
theorem Jws.verify_sign {curve : Curve} {payload : ByteArray} {kid : String} {key : crates.KeyPair curve}
    {alg : Jws.Algorithm} {text : String} (h : Jws.sign crates payload kid key alg = .ok text) :
    ∃ jws, parseJws crates text = .ok jws ∧ jws.jws.signatures.map Jws.Signature.kid = [kid] ∧
      jws.protected_.map Jws.ProtectedHeader.alg = [alg] ∧
      crates.base64Decode jws.jws.payload = .ok payload ∧
      (∀ key', SamePublic key key' → jws.verify crates kid key' = .ok true) ∧
      ∀ (curve' : Curve) (key' : crates.KeyPair curve') kid', kid' ≠ kid →
        jws.verify crates kid' key' = .error (errMsg .invalidState "KID not found") := by
  obtain ⟨parsed, hEnvelope, hAttested⟩ := Jws.sign_opens laws h
  obtain ⟨jws, hText, hKids⟩ : ∃ jws : Jws, crates.jsonToString jws.toJson = text ∧
      jws.signatures.map Jws.Signature.kid = [kid] := by
    simp only [Jws.sign, except_bind_ok_iff] at h
    obtain ⟨sigType, -, signature, -, hText⟩ := h
    cases hText
    exact ⟨_, rfl, rfl⟩
  subst hText
  have hParse := parseEnvelope_jws_ok laws hEnvelope
  rw [← Jws.jws_of_parse hParse] at hKids
  refine ⟨parsed, ?_, hKids, ?_, hAttested.payload, fun key' => hAttested.verify, fun curve' key' kid' hOther => ?_⟩
  · rw [parseJws, Jws.fromStr_written laws]
    exact hParse
  · obtain ⟨header, hHeader, rfl⟩ := hAttested.header
    rw [hHeader, List.map_singleton]
  · exact ParsedJWS.verify_unknown (by simp [hKids, hOther]) key'

omit laws

/-- Alice signs; carol did not. -/
theorem Jws.verify_sign_alice : ∃ text jws,
    Jws.sign (ideal id) "hello".toUTF8 "did:example:alice#1" (idealKey id .ed25519 "alice") .edDSA = .ok text ∧
      parseJws (ideal id) text = .ok jws ∧
      jws.verify (ideal id) "did:example:alice#1" (idealKey id .ed25519 "alice") = .ok true ∧
      jws.verify (ideal id) "did:example:carol#1" (idealKey id .ed25519 "carol") =
        .error (errMsg .invalidState "KID not found") := by
  obtain ⟨text, hText⟩ : ∃ text, Jws.sign (ideal id) "hello".toUTF8 "did:example:alice#1" (idealKey id .ed25519 "alice")
      .edDSA = .ok text := ⟨_, rfl⟩
  obtain ⟨jws, hParse, -, -, -, hVerify, hOther⟩ := Jws.verify_sign (ideal_lawful id) hText
  exact ⟨text, jws, hText, hParse, hVerify _ ((ideal_samePublic id).mpr rfl), hOther _ _ _ (by decide)⟩

end AffinidiMessaging.Didcomm
