import AffinidiMessaging.Didcomm.IdealKeys

/-! # Decryption inverts encryption

A JWE by itself: what `encrypt` writes for some recipients is parsed and passes the checks of DIDComm, opens for each
of the recipients, and for nobody who names another sender.
-/

namespace AffinidiMessaging.Didcomm

open Fallible Serde

theorem lookup_of_nodup {α : Type} {entries : List (String × α)} (hKeys : (entries.map Prod.fst).Nodup) {k : String}
    {a : α} (h : (k, a) ∈ entries) : entries.lookup k = some a := by
  obtain ⟨before, after, rfl⟩ := List.append_of_mem h
  refine List.lookup_eq_some_iff.mpr ⟨before, after, rfl, fun entry hEntry => ?_⟩
  rw [List.map_append, List.map_cons, List.nodup_append] at hKeys
  exact bne_iff_ne.mpr fun hSame =>
    hKeys.2.2 entry.1 (List.mem_map_of_mem hEntry) k List.mem_cons_self hSame.symm

theorem kid_toUTF8_iff {α β : Type} (sender : Option (String × α)) (sender' : Option (String × β)) :
    (sender.map fun s => s.1.toUTF8) = (sender'.map fun s => s.1.toUTF8) ↔
    sender.map Prod.fst = sender'.map Prod.fst := by
  cases sender <;> cases sender' <;> simp [String.toByteArray_inj]

theorem eq_of_apu_beq {apu apu' : Option ByteArray} (h : (apu == apu') = true) : apu = apu' := by
  cases apu with
  | none =>
    cases apu' with
    | none => rfl
    | some bytes' => cases h
  | some bytes =>
    cases apu' with
    | none => cases h
    | some bytes' =>
      have hData : (bytes.data == bytes'.data) = true := h
      exact congrArg some (ByteArray.ext (eq_of_beq hData))

variable {crates : Crates}

theorem ParsedJWE.decrypt_refused {jwe : ParsedJWE} {curve : Curve} {sender : Option (String × crates.KeyPair curve)}
    (cipher : Cipher) (kdf : Kdf) (recipient : String × crates.KeyPair curve)
    (h : (sender.map fun s => s.1.toUTF8) ≠ jwe.apu) :
    jwe.decrypt crates cipher kdf sender recipient = .error (errMsg .invalidState "Wrong skid used") := by
  have hWho : ((sender.map fun s => s.1.toUTF8) == jwe.apu) = false := by
    rw [Bool.eq_false_iff]
    exact fun hSame => h (eq_of_apu_beq hSame)
  rw [decrypt, hWho]
  rfl

variable {hasPrivate : {curve : Curve} → crates.KeyPair curve → Prop} {reread : Int → Int → Int × Int} {limit : ℕ∞}
  (laws : Lawful crates hasPrivate reread limit)

include laws

theorem Jwe.fromStr_written (jwe : Jwe) : Jwe.fromStr crates (crates.jsonToString jwe.toJson) = .ok jwe := by
  rw [Jwe.fromStr, laws.read_written jwe.floatless_toJson (jwe.depth_toJson.trans (by decide)), okOr_ok_iff,
    Option.bind_some, Jwe.ofJson_toJson]

theorem Jwe.decrypt_encrypt {curve : Curve} {draws : Draws crates} {plaintext : ByteArray} {cipher : Cipher}
    {kdf : Kdf} {alg : Algorithm} {enc : EncAlgorithm} {sender : Option (String × crates.KeyPair curve)}
    {recipients : List (String × crates.KeyPair curve)} {text : String} (hKids : (recipients.map Prod.fst).Nodup)
    (h : Jwe.encrypt crates draws plaintext cipher kdf alg enc sender recipients = .ok text) :
    ∃ jwe, parseJwe crates text = .ok jwe ∧ jwe.verifyDidcomm crates = .ok jwe ∧
      jwe.toKids = recipients.map Prod.fst ∧ jwe.apu = (sender.map fun s => s.1.toUTF8) ∧
      jwe.protected_.skid = sender.map Prod.fst ∧
      (∀ kid key, (kid, key) ∈ recipients → ∀ key' sender', SamePublic key key' → hasPrivate key' →
        Option.Rel (fun s s' => s.1 = s'.1 ∧ SamePublic s.2 s'.2) sender sender' →
          jwe.decrypt crates cipher kdf sender' (kid, key') = .ok plaintext) ∧
      ∀ (curve' : Curve) cipher' kdf' (sender' : Option (String × crates.KeyPair curve')) recipient,
        sender'.map Prod.fst ≠ sender.map Prod.fst →
          jwe.decrypt crates cipher' kdf' sender' recipient = .error (errMsg .invalidState "Wrong skid used") := by
  obtain ⟨jwe, rfl, hParse, hVerify, hSeals⟩ := Jwe.encrypt_seals laws h
  have hText : parseJwe crates (crates.jsonToString jwe.jwe.toJson) = .ok jwe := by
    rw [parseJwe, Jwe.fromStr_written laws]
    exact hParse
  refine ⟨jwe, hText, hVerify, hSeals.toKids, hSeals.apu, hSeals.skid, ?_, ?_⟩
  · intro kid key hMem key' sender' hSame hPrivate hSender
    exact hSeals.decrypt (lookup_of_nodup hKids hMem) hSame hPrivate hSender
  · intro curve' cipher' kdf' sender' recipient hOther
    refine ParsedJWE.decrypt_refused cipher' kdf' recipient ?_
    rw [hSeals.apu]
    exact fun hKid => hOther ((kid_toUTF8_iff sender' sender).mp hKid)

omit laws

/-- Alice encrypts for two keys of Bob, with an algorithm that has no name of its own. -/
theorem Jwe.decrypt_encrypt_bob : ∃ text jwe,
    Jwe.encrypt (ideal id) ⟨.empty, .empty, .empty⟩ "hello".toUTF8 .a256CbcHs512 .ecdh1PU (.other "ECDH") .a256cbcHs512
      (some ("did:example:alice#1", idealKey id .x25519 "alice"))
      [("did:example:bob#1", idealKey id .x25519 "bob"), ("did:example:bob#2", idealKey id .x25519 "bob2")] = .ok text ∧
    parseJwe (ideal id) text = .ok jwe ∧ jwe.toKids = ["did:example:bob#1", "did:example:bob#2"] ∧
    jwe.decrypt (ideal id) .a256CbcHs512 .ecdh1PU (some ("did:example:alice#1", idealKey id .x25519 "alice"))
      ("did:example:bob#2", idealKey id .x25519 "bob2") = .ok "hello".toUTF8 := by
  obtain ⟨jwe, hText, -⟩ := (ideal_encrypts id).encrypt .a256CbcHs512 .ecdh1PU (.other "ECDH")
    (some ("did:example:alice#1", idealKey id .x25519 "alice")) (fun _ => rfl) ⟨.empty, .empty, .empty⟩ "hello".toUTF8
    .a256cbcHs512
    [("did:example:bob#1", idealKey id .x25519 "bob"), ("did:example:bob#2", idealKey id .x25519 "bob2")]
  obtain ⟨parsed, hParse, -, hKids, -, -, hDecrypt, -⟩ := Jwe.decrypt_encrypt (ideal_lawful id) (by decide) hText
  have hSame {curve : Curve} (key : (ideal id).KeyPair curve) : SamePublic key key := (ideal_samePublic id).mpr rfl
  exact ⟨_, parsed, hText, hParse, hKids, hDecrypt _ (idealKey id .x25519 "bob2") (by simp) _ _ (hSame _) trivial
    (.some ⟨rfl, hSame _⟩)⟩

end AffinidiMessaging.Didcomm
