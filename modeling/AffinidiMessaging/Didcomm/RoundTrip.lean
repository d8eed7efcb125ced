import AffinidiMessaging.Didcomm.Lawful
import AffinidiMessaging.Didcomm.Pack
import AffinidiMessaging.Didcomm.Records
import AffinidiMessaging.Didcomm.Refinement

/-! # Layers are opened as they were made

An encrypted or signed text is read back as the envelope it was written from, and the keys that match
open it to the payload.
-/

namespace AffinidiMessaging.Didcomm

open Fallible Serde

variable {crates : Crates} {hasPrivate : {curve : Curve} → crates.KeyPair curve → Prop}
  {reread : Int → Int → Int × Int} {limit : ℕ∞} (laws : Lawful crates hasPrivate reread limit)

include laws

theorem base64_encoded (msg : String) (bytes : ByteArray) :
    base64 crates msg (crates.base64Encode bytes) = .ok bytes := by
  rw [base64, laws.base64Decode_base64Encode]
  rfl

theorem fromStr_jwe (jwe : Jwe) :
    Envelope.fromStr crates (crates.jsonToString jwe.toJson) = .ok (.jwe jwe) := by
  rw [Envelope.fromStr, laws.read_written jwe.floatless_toJson (jwe.depth_toJson.trans (by decide)), okOr_ok_iff,
    Option.bind_some, Envelope.ofJson, Jwe.ofJson_toJson]
  rfl

theorem value_read_written (jwe : Jwe) :
    (crates.jsonFromStr (crates.jsonToString jwe.toJson)).bind value = some jwe.toJson.toValue := by
  rw [laws.read_written jwe.floatless_toJson (jwe.depth_toJson.trans (by decide)), Option.bind_some,
    value_of_literal jwe.literal_toJson]

theorem fromStr_toValue (jwe : Jwe) :
    Envelope.fromStr crates (crates.jsonToString jwe.toJson.toValue) = .ok (.jwe jwe) := by
  have hDepth : jwe.toJson.toValue.depth ≤ recursionLimit := depth_toValue_le _ (jwe.depth_toJson.trans (by decide))
  rw [Envelope.fromStr, laws.read_written (floatless_toValue _ jwe.floatless_toJson) hDepth, okOr_ok_iff,
    Option.bind_some, Envelope.ofJson, Jwe.ofJson_toValue]
  rfl

theorem parseEnvelope_toValue (jwe : Jwe) :
    parseEnvelope crates (crates.jsonToString jwe.toJson.toValue) =
      parseEnvelope crates (crates.jsonToString jwe.toJson) := by
  simp only [parseEnvelope, fromStr_jwe laws, fromStr_toValue laws]

theorem fromStr_jws (jws : Jws) :
    Envelope.fromStr crates (crates.jsonToString jws.toJson) = .ok (.jws jws) := by
  rw [Envelope.fromStr, laws.read_written jws.floatless_toJson (jws.depth_toJson.trans (by decide)), okOr_ok_iff,
    Option.bind_some, Envelope.ofJson, Jwe.ofJson_jws, Jws.ofJson_toJson]
  rfl

theorem Jwe.parse_ok {jwe : Jwe} {header : ProtectedHeader} {apu : Option ByteArray} {apv : ByteArray}
    (hProtected : jwe.protected_ = crates.base64Encode (crates.jsonToString header.toJson).toUTF8)
    (hHeader : ProtectedHeader.ofJson header.toJson = some header) (hEpk : header.epk.floatless = true)
    (hFlat : header.epk.depth ≤ 1)
    (hApu : header.apu = apu.map crates.base64Encode) (hApv : header.apv = crates.base64Encode apv) :
    jwe.parse crates = .ok { jwe, protected_ := header, apu, apv, toKids := jwe.recipients.map Recipient.kid } := by
  have hUnpadded : String.ofList (jwe.protected_.toList.filter (· ≠ '=')) = jwe.protected_ := by
    rw [List.filter_eq_self.mpr, String.ofList_toList]
    intro c hc
    rw [hProtected] at hc
    exact decide_eq_true fun hPad => laws.unpadded _ (hPad ▸ hc)
  have hRead : crates.jsonFromSlice (crates.jsonToString header.toJson).toUTF8 = some header.toJson := by
    rw [laws.jsonFromSlice_toUTF8, laws.read_written (ProtectedHeader.floatless_toJson hEpk)
      ((ProtectedHeader.depth_toJson hFlat).trans (by decide))]
  have hApuRead : header.apu.mapM (base64 crates "Unable decode apu") = .ok apu := by
    rw [hApu]
    cases apu with
    | none => rfl
    | some bytes =>
      simp only [Option.map_some, Option.mapM_some, base64_encoded laws]
      rfl
  rw [Jwe.parse, hUnpadded, hProtected]
  simp only [base64_encoded laws, hRead, Option.bind_some, hHeader, hApv, hApuRead, okOr, bind, Except.bind,
    pure, Except.pure]

theorem parseEnvelope_jwe {jwe : Jwe} {parsed : ParsedJWE} (hParse : jwe.parse crates = .ok parsed)
    (hVerify : parsed.verifyDidcomm crates = .ok parsed) :
    parseEnvelope crates (crates.jsonToString jwe.toJson) = .ok (.jwe parsed) := by
  simp only [parseEnvelope, fromStr_jwe laws, Envelope.parse, hParse, ParsedEnvelope.verifyDidcomm, hVerify,
    bind, Except.bind, pure, Except.pure]

theorem parseEnvelope_jws {jws : Jws} {parsed : ParsedJWS} (hParse : jws.parse crates = .ok parsed) :
    parseEnvelope crates (crates.jsonToString jws.toJson) = .ok (.jws parsed) := by
  simp only [parseEnvelope, fromStr_jws laws, Envelope.parse, hParse, ParsedEnvelope.verifyDidcomm, bind,
    Except.bind, pure, Except.pure]

/-- A message that is read back as it was, and not as an envelope of another kind. -/
theorem parseEnvelope_message {m : Message} (hFloatless : m.toJson.floatless = true)
    (hDepth : m.toJson.depth ≤ recursionLimit)
    (hRead : Message.ofJson m.toJson = some m) (hOther : Jwe.ofJson m.toJson = none ∧ Jws.ofJson m.toJson = none) :
    parseEnvelope crates (crates.jsonToString m.toJson) = .ok (.message m) := by
  have hFrom : Envelope.fromStr crates (crates.jsonToString m.toJson) = .ok (.message m) := by
    rw [Envelope.fromStr, laws.read_written hFloatless hDepth, okOr_ok_iff, Option.bind_some, Envelope.ofJson,
      hOther.1, hOther.2, hRead]
    rfl
  simp only [parseEnvelope, hFrom, Envelope.parse, ParsedEnvelope.verifyDidcomm, bind, Except.bind]

theorem toJwkPublicValue_read {curve : Curve} {key : crates.KeyPair curve} {value : Json}
    (h : toJwkPublicValue crates key = .ok value) :
    value.floatless = true ∧ value.depth ≤ 1 ∧ Serde.value value = some value ∧
      ∃ key', fromJwkValue crates curve value = .ok key' ∧ SamePublic key key' := by
  simp only [toJwkPublicValue, except_bind_ok_iff, messageOf_ok_iff, okOr_ok_iff] at h
  obtain ⟨text, hText, hJwk⟩ := h
  obtain ⟨jwk, key', hRead, hFloatless, hFlat, hLiteral, hValue, hKey, hSame⟩ :=
    laws.fromJwk_toJwkPublic key text hText
  rw [hRead, Option.bind_some, value_of_literal hLiteral] at hJwk
  cases hJwk
  refine ⟨floatless_toValue jwk hFloatless, depth_toValue_le jwk hFlat, value_self hValue (toValue_toValue jwk), key',
    ?_, hSame⟩
  rw [fromJwkValue, messageOf_ok_iff]
  exact hKey

theorem deriveKey_receive {curve : Curve} {kdf : Kdf} {ephem ephem' recip recip' : crates.KeyPair curve}
    {sender sender' : Option (crates.KeyPair curve)} {alg apu apv ccTag : ByteArray} {kek : crates.Kek}
    (hEphem : SamePublic ephem ephem') (hSender : Option.Rel SamePublic sender sender')
    (hRecip : SamePublic recip recip') (hPrivate : hasPrivate recip')
    (h : ParsedJWE.deriveKey crates kdf ephem sender recip alg apu apv ccTag false = .ok kek) :
    ParsedJWE.deriveKey crates kdf ephem' sender' recip' alg apu apv ccTag true = .ok kek := by
  cases kdf with
  | ecdhEs =>
    simp only [ParsedJWE.deriveKey, messageOf_ok_iff] at h ⊢
    exact laws.ecdhEs_receive hEphem hRecip hPrivate h
  | ecdh1PU =>
    cases hSender with
    | none => simp [ParsedJWE.deriveKey, except_bind_ok_iff] at h
    | some hSend =>
      simp only [ParsedJWE.deriveKey, except_bind_ok_iff, messageOf_ok_iff, okOr_ok_iff,
        Option.some.injEq, exists_eq_left'] at h ⊢
      exact laws.ecdh1PU_receive hEphem hSend hRecip hPrivate h

theorem unwrapKey_wrapKey {cipher : Cipher} {kek : crates.Kek} {cek : crates.ContentKey cipher}
    {wrapped : ByteArray} (h : wrapKey crates kek cek = .ok wrapped) :
    ParsedJWE.unwrapKey crates cipher kek wrapped = .ok cek := by
  simp only [wrapKey, except_bind_ok_iff, messageOf_ok_iff] at h
  obtain ⟨bytes, hBytes, hWrap⟩ := h
  simp only [ParsedJWE.unwrapKey, except_bind_ok_iff, messageOf_ok_iff]
  exact ⟨bytes, laws.kwDecrypt_kwEncrypt hWrap, laws.contentKeyFromBytes_contentKeyBytes hBytes⟩

omit laws in
theorem encryptKeys_find {curve : Curve} {cipher : Cipher} {kdf : Kdf} {alg : Algorithm}
    {apv tag : ByteArray} {cek : crates.ContentKey cipher} {epk : crates.KeyPair curve}
    {sender : Option (String × crates.KeyPair curve)} {recipients : List (String × crates.KeyPair curve)}
    {keys : List Recipient} (h : Jwe.encryptKeys crates kdf alg apv tag cek epk sender recipients = .ok keys) :
    keys.map Recipient.kid = recipients.map Prod.fst ∧
      ∀ kid key, recipients.lookup kid = some key → ∃ r, keys.find? (fun r => r.kid == kid) = some r ∧
        Jwe.encryptKey crates kdf alg apv tag cek epk sender (kid, key) = .ok r := by
  induction recipients generalizing keys with
  | nil =>
    cases h
    exact ⟨rfl, fun kid key hKey => by cases hKey⟩
  | cons first rest ih =>
    simp only [Jwe.encryptKeys, except_bind_ok_iff] at h
    obtain ⟨r, hFirst, others, hRest, hKeys⟩ := h
    cases hKeys
    obtain ⟨hKids, hFind⟩ := ih hRest
    have hKid : r.kid = first.1 := by
      simp only [Jwe.encryptKey, except_bind_ok_iff] at hFirst
      obtain ⟨_, _, _, _, hRecipient⟩ := hFirst
      cases hRecipient
      rfl
    refine ⟨by rw [List.map_cons, List.map_cons, hKids, hKid], fun kid key hKey => ?_⟩
    obtain ⟨firstKid, firstKey⟩ := first
    rw [List.lookup_cons] at hKey
    rw [List.find?_cons]
    by_cases hSame : kid = firstKid
    · subst hSame
      simp only [BEq.rfl, Option.some.injEq] at hKey
      subst hKey
      exact ⟨r, by simp [hKid], hFirst⟩
    · have hOther : (r.kid == kid) = false := by
        rw [hKid]
        exact beq_eq_false_iff_ne.mpr fun hEq => hSame hEq.symm
      rw [hOther]
      exact hFind kid key (by simpa [beq_eq_false_iff_ne.mpr hSame] using hKey)

omit laws in
/-- What a parsed envelope is that was encrypted for some recipients. -/
structure Seals (hasPrivate : {curve : Curve} → crates.KeyPair curve → Prop) {curve : Curve}
    (plaintext : ByteArray) (cipher : Cipher) (kdf : Kdf) (alg : Algorithm) (enc : EncAlgorithm)
    (sender : Option (String × crates.KeyPair curve)) (recipients : List (String × crates.KeyPair curve))
    (jwe : ParsedJWE) : Prop where
  alg : jwe.protected_.alg = alg
  enc : jwe.protected_.enc = enc
  skid : jwe.protected_.skid = sender.map Prod.fst
  apu : jwe.apu = sender.map fun s => s.1.toUTF8
  toKids : jwe.toKids = recipients.map Prod.fst
  /-- The private key of a recipient opens it. -/
  decrypt : ∀ {kid : String} {key key' : crates.KeyPair curve}
    {sender' : Option (String × crates.KeyPair curve)}, recipients.lookup kid = some key →
      SamePublic key key' → hasPrivate key' →
      Option.Rel (fun s s' => s.1 = s'.1 ∧ SamePublic s.2 s'.2) sender sender' →
      jwe.decrypt crates cipher kdf sender' (kid, key') = .ok plaintext

/-- What was encrypted is read back, with the algorithms that have the names in its header. -/
theorem Jwe.encrypt_seals {curve : Curve} {draws : Draws crates} {plaintext : ByteArray} {cipher : Cipher}
    {kdf : Kdf} {alg : Algorithm} {enc : EncAlgorithm} {sender : Option (String × crates.KeyPair curve)}
    {recipients : List (String × crates.KeyPair curve)} {text : String}
    (h : Jwe.encrypt crates draws plaintext cipher kdf alg enc sender recipients = .ok text) :
    ∃ jwe, text = crates.jsonToString jwe.jwe.toJson ∧ jwe.jwe.parse crates = .ok jwe ∧
      jwe.verifyDidcomm crates = .ok jwe ∧ Seals hasPrivate plaintext cipher kdf (.ofStr alg.asStr) (.ofStr enc.asStr)
        sender recipients jwe := by
  simp only [Jwe.encrypt, except_bind_ok_iff, messageOf_ok_iff] at h
  obtain ⟨cek, hCek, epk, hEpk, epkJwk, hJwk, ⟨ciphertext, tag⟩, hContent, keys, hKeys, hText⟩ := h
  cases hText
  obtain ⟨hFloatless, hFlat, hValue, epk', hRead, hSame⟩ := toJwkPublicValue_read laws hJwk
  obtain ⟨hKids, hFind⟩ := encryptKeys_find hKeys
  let written : ProtectedHeader :=
    { typ := some "application/didcomm-encrypted+json", alg, enc, skid := sender.map Prod.fst
      apu := (sender.map Prod.fst).map fun skid => crates.base64Encode skid.toUTF8
      apv := crates.base64Encode (apvOf crates (recipients.map Prod.fst))
      epk := epkJwk }
  let header : ProtectedHeader := { written with alg := .ofStr alg.asStr, enc := .ofStr enc.asStr }
  have hNames : written.toJson = header.toJson := by
    simp only [ProtectedHeader.toJson, written, header, Algorithm.asStr_ofStr, EncAlgorithm.asStr_ofStr]
  have hHeader : ProtectedHeader.ofJson header.toJson = some header := by
    refine ProtectedHeader.ofJson_toJson ?_ ?_ hValue
    · exact congrArg Algorithm.ofStr (Algorithm.asStr_ofStr alg.asStr)
    · exact congrArg EncAlgorithm.ofStr (EncAlgorithm.asStr_ofStr enc.asStr)
  let jwe : Jwe :=
    { protected_ := crates.base64Encode (crates.jsonToString written.toJson).toUTF8
      recipients := keys
      iv := crates.base64Encode (crates.randomNonce cipher draws.nonce)
      ciphertext := crates.base64Encode ciphertext
      tag := crates.base64Encode tag }
  let parsed : ParsedJWE :=
    { jwe, protected_ := header, apu := sender.map fun s => s.1.toUTF8
      apv := apvOf crates (recipients.map Prod.fst), toKids := keys.map Recipient.kid }
  have hApu : header.apu = parsed.apu.map crates.base64Encode := by
    simp [header, written, parsed, Function.comp_def]
  have hProtected : jwe.protected_ = crates.base64Encode (crates.jsonToString header.toJson).toUTF8 := by
    rw [← hNames]
  have hParse : jwe.parse crates = .ok parsed :=
    Jwe.parse_ok laws hProtected hHeader hFloatless hFlat hApu rfl
  have hVerify : parsed.verifyDidcomm crates = .ok parsed := by
    have hApv : (parsed.apv == apvOf crates (parsed.jwe.recipients.map Recipient.kid)) = true := by
      rw [show parsed.jwe.recipients.map Recipient.kid = _ from hKids]
      exact beq_self _
    have hSkid : parsed.apu.mapM (utf8 crates "Invalid utf8 for apu") = .ok parsed.protected_.skid := by
      cases hSender : sender with
      | none =>
        simp only [parsed, header, written, hSender, Option.map_none, Option.mapM_none]
        rfl
      | some sender =>
        simp only [parsed, header, written, hSender, Option.map_some, Option.mapM_some, except_map_eq,
          except_bind_ok_iff, utf8_ok_iff]
        exact ⟨sender.1, fromUTF8_toUTF8 _, rfl⟩
    have hCheck : checkSkid parsed.protected_.skid parsed.protected_.skid = .ok () := by
      cases parsed.protected_.skid with
      | none => rfl
      | some skid => simp [checkSkid]
    simp only [ParsedJWE.verifyDidcomm, hApv, hSkid, hCheck, ensure, bind, Except.bind, pure, Except.pure,
      if_true]
  refine ⟨parsed, rfl, hParse, hVerify, rfl, rfl, rfl, rfl, hKids, ?_⟩
  intro kid key key' sender' hKey hRecipient hPrivate hSender
  obtain ⟨r, hFound, hEncrypted⟩ := hFind kid key hKey
  simp only [Jwe.encryptKey, except_bind_ok_iff, kind_ok_iff] at hEncrypted
  obtain ⟨kek, hDerive, wrapped, hWrap, hResult⟩ := hEncrypted
  cases hResult
  have hWho : (sender'.map (fun s => s.1.toUTF8) == parsed.apu) = true := by
    cases hSender with
    | none => rfl
    | some hSame =>
      simp only [parsed, Option.map_some, hSame.1]
      exact beq_self _
  have hSend : Option.Rel SamePublic (sender.map Prod.snd) (sender'.map Prod.snd) := by
    cases hSender with
    | none => exact .none
    | some hSame => exact .some hSame.2
  have hName : parsed.protected_.alg.asStr = alg.asStr := Algorithm.asStr_ofStr alg.asStr
  have hAgreed := deriveKey_receive laws hSame hSend hRecipient hPrivate hDerive
  rw [← hName] at hAgreed
  simp only [ParsedJWE.decrypt, except_bind_ok_iff, ensure_ok_iff, okOr_ok_iff, context_ok_iff, kind_ok_iff,
    messageOf_ok_iff]
  exact ⟨(), hWho, _, hFound, wrapped, base64_encoded laws _ _, epk', hRead, tag, base64_encoded laws _ _, kek,
    hAgreed, cek, unwrapKey_wrapKey laws hWrap,
    ciphertext, base64_encoded laws _ _, _, base64_encoded laws _ _,
    laws.contentDecrypt_contentEncrypt hContent⟩

theorem Jwe.encrypt_opens {curve : Curve} {draws : Draws crates} {plaintext : ByteArray} {cipher : Cipher}
    {kdf : Kdf} {alg : Algorithm} {enc : EncAlgorithm} {sender : Option (String × crates.KeyPair curve)}
    {recipients : List (String × crates.KeyPair curve)} {text : String}
    (hAlg : Algorithm.ofStr alg.asStr = alg) (hEnc : EncAlgorithm.ofStr enc.asStr = enc)
    (h : Jwe.encrypt crates draws plaintext cipher kdf alg enc sender recipients = .ok text) :
    ∃ jwe, text = crates.jsonToString jwe.jwe.toJson ∧ parseEnvelope crates text = .ok (.jwe jwe) ∧
      Seals hasPrivate plaintext cipher kdf alg enc sender recipients jwe := by
  obtain ⟨jwe, rfl, hParse, hVerify, hSeals⟩ := Jwe.encrypt_seals laws h
  rw [hAlg, hEnc] at hSeals
  exact ⟨jwe, rfl, parseEnvelope_jwe laws hParse hVerify, hSeals⟩

omit laws in
/-- What a parsed envelope is that one key has signed. -/
structure Attested {curve : Curve} (payload : ByteArray) (kid : String) (key : crates.KeyPair curve)
    (alg : Jws.Algorithm) (jws : ParsedJWS) : Prop where
  header : ∃ header, jws.protected_ = [header] ∧ header.alg = alg
  signature : ∃ signature, jws.jws.signatures.head? = some signature ∧ signature.kid = kid
  payload : crates.base64Decode jws.jws.payload = .ok payload
  verify : ∀ {key' : crates.KeyPair curve}, SamePublic key key' → jws.verify crates kid key' = .ok true

theorem Jws.sign_opens {curve : Curve} {payload : ByteArray} {kid : String} {key : crates.KeyPair curve}
    {alg : Jws.Algorithm} {text : String} (h : Jws.sign crates payload kid key alg = .ok text) :
    ∃ jws, parseEnvelope crates text = .ok (.jws jws) ∧ Attested payload kid key alg jws := by
  simp only [Jws.sign, except_bind_ok_iff, messageOf_ok_iff] at h
  obtain ⟨sigType, hType, signature, hSign, hText⟩ := h
  cases hText
  have hAlg : Jws.Algorithm.ofStr alg.asStr = alg := by
    cases alg with
    | other name => cases hType
    | _ => rfl
  let header : Jws.ProtectedHeader := { typ := "application/didcomm-signed+json", alg }
  let protected_ := crates.base64Encode (crates.jsonToString header.toJson).toUTF8
  let entry : Jws.Signature := { kid, protected_, signature := crates.base64Encode signature }
  let jws : Jws := { signatures := [entry], payload := crates.base64Encode payload }
  let parsed : ParsedJWS := { jws, protected_ := [header] }
  have hRead : crates.jsonFromSlice (crates.jsonToString header.toJson).toUTF8 = some header.toJson := by
    have hFlat : header.toJson.depth ≤ recursionLimit := Nat.le_add_left 1 126
    rw [laws.jsonFromSlice_toUTF8, laws.read_written rfl hFlat]
  have hEntry : entry.parse crates = .ok header := by
    simp only [Jws.Signature.parse, entry, protected_, base64_encoded laws, hRead, Option.bind_some,
      Jws.ProtectedHeader.ofJson_toJson (h := header) hAlg, okOr, bind, Except.bind]
  have hParse : jws.parse crates = .ok parsed := by
    simp only [Jws.parse, jws, List.mapM_cons, List.mapM_nil, hEntry, bind, Except.bind, pure, Except.pure]
    rfl
  refine ⟨parsed, parseEnvelope_jws laws hParse, ⟨header, rfl, rfl⟩, ⟨entry, rfl, rfl⟩,
    laws.base64Decode_base64Encode payload, ?_⟩
  intro key' hSame
  have hIndex : parsed.jws.signatures.findIdx (fun s => s.kid == kid) = 0 := by
    simp [parsed, jws, entry, List.findIdx_cons]
  simp only [ParsedJWS.verify, hIndex, verifyInput, except_bind_ok_iff, messageOf_ok_iff, okOr_ok_iff]
  exact ⟨entry, rfl, header, rfl, sigType, hType, signature, base64_encoded laws _ _,
    laws.verifySignature_createSignature hSame hSign⟩

section
omit laws

variable {dids : DidResolver} {secrets : SecretsResolver} {opts : UnpackOptions} {curve : Curve}
  {recipients : List (String × crates.KeyPair curve)} {text : String} {jwe : ParsedJWE}
  {inner : ParsedEnvelope} {kid : String}

/-- The recipients are keys of one DID, and `kid` is the first of them whose private key is among the
own secrets. -/
structure Held (hasPrivate : {curve : Curve} → crates.KeyPair curve → Prop) (secrets : SecretsResolver)
    (recipients : List (String × crates.KeyPair curve)) (kid : String) : Prop where
  oneDid : ∃ did, ∀ r ∈ recipients, (didOrUrl r.1).1 = did ∧ (didOrUrl r.1).2.isSome
  found : ∃ rest, secrets.findSecrets (recipients.map Prod.fst) = .ok (kid :: rest)
  key : ∃ key key', recipients.lookup kid = some key ∧
    recipientKey crates secrets kid = .ok ⟨curve, key'⟩ ∧ SamePublic key key' ∧ hasPrivate key'

theorem Held.found_for (h : Held hasPrivate secrets recipients kid)
    (hKids : jwe.toKids = recipients.map Prod.fst) : ∃ rest, Recipients secrets jwe (kid :: rest) := by
  obtain ⟨did, hOne⟩ := h.oneDid
  obtain ⟨rest, hFound⟩ := h.found
  obtain ⟨key, -, hLookup, -⟩ := h.key
  cases hCons : recipients with
  | nil =>
    rw [hCons] at hLookup
    cases hLookup
  | cons first others =>
    refine ⟨rest, first.1, by rw [hKids, hCons]; rfl, ?_, hKids ▸ hFound, List.cons_ne_nil _ _⟩
    rw [ensureOneDid, ensure_ok_iff, hKids, List.all_eq_true]
    intro k hk
    obtain ⟨r, hr, rfl⟩ := List.mem_map.mp hk
    rw [(hOne r hr).1, (hOne first (hCons ▸ List.mem_cons_self)).1, (hOne r hr).2]
    simp

theorem openPayload_toUTF8 (msg : String) (hInner : parseEnvelope crates text = .ok inner) :
    openPayload crates msg (some text.toUTF8) = .ok inner := by
  simp only [openPayload, except_bind_ok_iff, okOr_ok_iff, utf8_ok_iff]
  exact ⟨_, rfl, text, fromUTF8_toUTF8 text, hInner⟩

/-- An anonymous layer opens with the keys of the recipient. -/
theorem Seals.opensAnon {cipher : Cipher} {enc : EncAlgorithm} {alg : AnonCryptAlg}
    (h : Seals hasPrivate text.toUTF8 cipher .ecdhEs .ecdhEsA256kw enc none recipients jwe)
    (hMethod : anonMethod curve enc = some (cipher, alg)) (hHeld : Held hasPrivate secrets recipients kid)
    (hFirst : opts.expectDecryptByAllKeys = false) (hInner : parseEnvelope crates text = .ok inner) :
    OpensLayer crates dids secrets opts (.jwe jwe) (.anoncrypted jwe alg [kid]) inner := by
  obtain ⟨rest, hRecipients⟩ := hHeld.found_for h.toKids
  obtain ⟨key, key', hLookup, hKey, hSame, hPrivate⟩ := hHeld.key
  refine .anoncrypted h.alg hRecipients ?_ (openPayload_toUTF8 _ hInner)
  rw [hFirst]
  exact .first ⟨⟨curve, key'⟩, cipher, hKey, h.enc ▸ hMethod, h.decrypt hLookup hSame hPrivate .none⟩

theorem authMethod_agreement (hCurve : curve ≠ .ed25519) :
    authMethod curve curve .a256cbcHs512 = .ok .a256cbcHs512Ecdh1puA256kw := by
  cases curve with
  | ed25519 => exact absurd rfl hCurve
  | _ => rfl

/-- An authenticated layer opens with the keys of the recipient and the key that the sender's document
has for the sender's kid. -/
theorem Seals.opensAuth {sender : String} {senderKey senderKey' : crates.KeyPair curve}
    (h : Seals hasPrivate text.toUTF8 .a256CbcHs512 .ecdh1PU .ecdh1puA256kw .a256cbcHs512
      (some (sender, senderKey)) recipients jwe) (hCurve : curve ≠ .ed25519)
    (hSender : SenderKey crates dids sender ⟨curve, senderKey'⟩) (hSameSender : SamePublic senderKey senderKey')
    (hHeld : Held hasPrivate secrets recipients kid) (hFirst : opts.expectDecryptByAllKeys = false)
    (hInner : parseEnvelope crates text = .ok inner) :
    OpensLayer crates dids secrets opts (.jwe jwe)
      (.authcrypted jwe (sender, ⟨curve, senderKey'⟩) .a256cbcHs512Ecdh1puA256kw [kid]) inner := by
  obtain ⟨rest, hRecipients⟩ := hHeld.found_for h.toKids
  obtain ⟨key, key', hLookup, hKey, hSame, hPrivate⟩ := hHeld.key
  refine .authcrypted h.alg h.apu (fromUTF8_toUTF8 sender) hSender hRecipients ?_
    (openPayload_toUTF8 _ hInner)
  rw [hFirst]
  refine .first ⟨⟨curve, key'⟩, key', hKey, h.enc ▸ authMethod_agreement hCurve, ?_,
    h.decrypt hLookup hSame hPrivate (.some ⟨rfl, hSameSender⟩)⟩
  simp [KnownKeyPair.ofCurve]

/-- A signed layer opens with the key that the signer's document has for the signer's kid. -/
theorem Attested.opensSigned {signKey signKey' : crates.KeyPair curve} {alg : Jws.Algorithm} {name : SignAlg}
    {jws : ParsedJWS} (h : Attested text.toUTF8 kid signKey alg jws)
    (hMethod : signMethod alg = .ok (name, curve)) (hSigner : SignerKey crates dids kid ⟨curve, signKey'⟩)
    (hSame : SamePublic signKey signKey') (hInner : parseEnvelope crates text = .ok inner) :
    OpensLayer crates dids secrets opts (.jws jws) (.signed jws kid ⟨curve, signKey'⟩ name) inner := by
  obtain ⟨header, hHeader, hAlg⟩ := h.header
  obtain ⟨signature, hSignature, hKid⟩ := h.signature
  exact .signed ⟨header, signature, hHeader, hSignature, hKid, hSigner, hAlg ▸ hMethod, h.verify hSame⟩
    h.payload (fromUTF8_toUTF8 text) hInner

end

end AffinidiMessaging.Didcomm
