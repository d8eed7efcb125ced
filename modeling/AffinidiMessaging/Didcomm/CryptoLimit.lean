import AffinidiMessaging.Didcomm.Onion
import AffinidiMessaging.Didcomm.Overruns

/-! # What the limit of crypto operations limits

A call keeps the limit unless some key or signature overruns it. Messages that overrun it: one anonymous layer for many
keys, and layers in each other around a signed message with a `from_prior`.
-/

namespace AffinidiMessaging.Didcomm

open Fallible Serde

theorem Tried.all_of_forall {opens : String → ByteArray → Prop} {payload : ByteArray} {found : List String}
    (hFound : found ≠ []) (h : ∀ kid ∈ found, opens kid payload) : Tried opens true found found payload := by
  induction found with
  | nil => exact absurd rfl hFound
  | cons kid rest ih =>
    rw [List.forall_mem_cons] at h
    cases rest with
    | nil => exact .last h.1
    | cons next others => exact .next h.1 (ih (List.cons_ne_nil _ _) h.2)

section
variable (sha256 : ByteArray → ByteArray) (service : String → List Service) {opts : UnpackOptions} {did : String}
  (h : '#' ∉ did.toList)
include h

/-- A ping for one key that is named many times is decrypted as many times. -/
theorem ideal_many_keys (hAll : opts.expectDecryptByAllKeys = true) (hLimit : 1 < opts.cryptoOperationsLimitPerMessage)
    {n : Nat} (hPos : 0 < n) : ∃ text layers,
      Opens (ideal sha256) (everyDid service) (secretsOf did) opts text layers (ping none) none ∧
        (layers.flatMap Layer.ops).length = n := by
  let recipients := List.replicate n (agreeKid did, idealKey sha256 .x25519 (agreeKid did))
  obtain ⟨_, hPacked, -⟩ := (ideal_encrypts sha256).encrypt .xc20P .ecdhEs .ecdhEsA256kw none (fun h => by cases h)
    ⟨.empty, .empty, .empty⟩ ((ideal sha256).jsonToString (ping none).toJson).toUTF8 .xc20P recipients
  obtain ⟨jwe, -, hParse, hSeals⟩ := Jwe.encrypt_opens (ideal_lawful sha256) rfl rfl hPacked
  have hKids : jwe.toKids = List.replicate n (agreeKid did) := by
    rw [hSeals.toKids, List.map_replicate]
  have hLookup : recipients.lookup (agreeKid did) = some (idealKey sha256 .x25519 (agreeKid did)) := by
    obtain ⟨k, rfl⟩ := Nat.exists_eq_add_one_of_ne_zero hPos.ne'
    exact List.lookup_cons_self
  have hNone : List.replicate n (agreeKid did) ≠ [] := by
    rw [Ne, List.replicate_eq_nil_iff]
    omega
  have hRecipients : Recipients (secretsOf did) jwe (List.replicate n (agreeKid did)) := by
    refine ⟨agreeKid did, ?_, ?_, ?_, hNone⟩
    · rw [hKids, List.head?_replicate, if_neg hPos.ne']
    · rw [ensureOneDid, ensure_ok_iff, hKids, List.all_eq_true]
      intro k hk
      rw [List.eq_of_mem_replicate hk, didOrUrl_agreeKid h]
      simp
    · rw [hKids]
      simp [secretsOf]
  have hOpens : ∀ kid ∈ List.replicate n (agreeKid did), OpensAnon (ideal sha256) (secretsOf did) jwe .xc20pEcdhEsA256kw
      kid ((ideal sha256).jsonToString (ping none).toJson).toUTF8 := by
    intro kid hKid
    rw [List.eq_of_mem_replicate hKid]
    exact ⟨⟨.x25519, agreeKid did⟩, .xc20P, recipientKey_ideal sha256 did, hSeals.enc ▸ rfl,
      hSeals.decrypt hLookup ((ideal_samePublic sha256).mpr rfl) trivial .none⟩
  have hTried := Tried.all_of_forall hNone hOpens
  rw [← hAll] at hTried
  have hLayer : OpensLayer (ideal sha256) (everyDid service) (secretsOf did) opts (.jwe jwe) _ _ :=
    .anoncrypted hSeals.alg hRecipients hTried (openPayload_toUTF8 _ (parseEnvelope_ping sha256 none))
  have hStay : unwrapForwarded (ideal sha256) (everyDid service) (secretsOf did) opts (some (.message (ping none))) =
      .ok none := by
    rw [unwrapForwarded]
    split <;> rfl
  exact ⟨_, _, ⟨_, hParse, _, _, _, [], [], 1, .anoncrypted hSeals.alg hLayer hStay, hLimit, .none id, .none id,
    rfl, rfl, rfl⟩, by simp [Layer.ops]⟩

/-- Around an envelope that is no plaintext there can be as many anonymous layers as the loop has rounds. -/
theorem ideal_nested (hFirst : opts.expectDecryptByAllKeys = false) {text : String} {inner : ParsedEnvelope}
    (hInner : parseEnvelope (ideal sha256) text = .ok inner) (hStay : ∀ m, inner ≠ .message m) (n : Nat)
    (hUnwrap : n = 0 ∨ opts.unwrapReWrappingForward = true) : ∃ packed jwe layers,
      packed = (ideal sha256).jsonToString jwe.jwe.toJson ∧ parseEnvelope (ideal sha256) packed = .ok (.jwe jwe) ∧
        Peels (ideal sha256) (everyDid service) (secretsOf did) opts (.jwe jwe) layers inner (n + 1) ∧
          (layers.flatMap Layer.ops).length = n + 1 := by
  induction n with
  | zero =>
    obtain ⟨packed, jwe, hText, hParse, -, hLayer⟩ := ideal_anoncrypts sha256 (everyDid service) opts hFirst hInner h
    have hAlg : (ParsedEnvelope.jwe jwe).hasAlg .ecdhEsA256kw := by
      cases hLayer with
      | anoncrypted hAlg => exact hAlg
    have hNone : unwrapForwarded (ideal sha256) (everyDid service) (secretsOf did) opts (some inner) = .ok none := by
      rw [unwrapForwarded]
      cases inner with
      | message m => exact absurd rfl (hStay m)
      | jwe _ => split <;> rfl
      | jws _ => split <;> rfl
    exact ⟨packed, jwe, _, hText, hParse, .anoncrypted hAlg hLayer hNone, rfl⟩
  | succ n ih =>
    have hOn : opts.unwrapReWrappingForward = true := hUnwrap.resolve_left (Nat.succ_ne_zero n)
    obtain ⟨packed, jwe, layers, hText, hParse, hPeels, hOps⟩ := ih (.inr hOn)
    let json := jwe.jwe.toJson.toValue
    have hValue : value json = some json := jwe.jwe.value_toValue
    have hFloatless : json.floatless = true := floatless_toValue _ jwe.jwe.floatless_toJson
    have hDepth : json.depth ≤ 4 := depth_toValue_le _ jwe.jwe.depth_toJson
    obtain ⟨outer, wrapper, hOuter, hWrapper, -, hLayer⟩ := ideal_anoncrypts sha256 (everyDid service) opts hFirst
      (parseEnvelope_forwardTo sha256 did hValue hFloatless hDepth) h
    have hAlg : (ParsedEnvelope.jwe wrapper).hasAlg .ecdhEsA256kw := by
      cases hLayer with
      | anoncrypted hAlg => exact hAlg
    have hForward : unwrapForwarded (ideal sha256) (everyDid service) (secretsOf did) opts
        (some (.message (forwardTo did json))) = .ok (some ((ideal sha256).jsonToString json)) := by
      rw [unwrapForwarded, if_pos hOn]
      exact tryUnwrap_forwardTo sha256 service h json
    have hNext : parseEnvelope (ideal sha256) ((ideal sha256).jsonToString json) = .ok (.jwe jwe) := by
      rw [parseEnvelope_toValue (ideal_lawful sha256), ← hText, hParse]
    refine ⟨outer, wrapper, _, hOuter, hWrapper, .forwarded hAlg hLayer hForward hNext hPeels, ?_⟩
    simp only [List.flatMap_cons, Layer.ops, List.map_cons, List.map_nil, List.length_append, List.length_cons,
      List.length_nil, List.nil_append, hOps]
    omega

omit h in
/-- Alice signs a ping and says that she had another DID before. -/
theorem ideal_rotated (opts : UnpackOptions) (secrets : SecretsResolver) : ∃ text jws layer m prior,
    parseEnvelope (ideal sha256) text = .ok (.jws jws) ∧
    OpensLayer (ideal sha256) (everyDid service) secrets opts (.jws jws) layer (.message m) ∧ layer.ops.length = 1 ∧
      m.typ = plaintextTyp ∧ m.fromPrior.mapM (FromPrior.unpack (ideal sha256) (everyDid service)) = .ok prior ∧
        m.fromPrior.toList.length = 1 := by
  have hAlice : '#' ∉ "did:example:alice".toList := by decide
  obtain ⟨jwt, hJwt⟩ := ideal_fromPrior sha256 service "did:example:alice" hAlice "did:example:alice"
    "did:example:alice2"
  let m : Message := { ping none with fromPrior := some jwt }
  have hParse : parseEnvelope (ideal sha256) ((ideal sha256).jsonToString m.toJson) = .ok (.message m) :=
    parseEnvelope_message (ideal_lawful sha256) rfl (Nat.le_add_left 2 125)
      (Message.ofJson_toJson rfl rfl (fun _ h => by cases h)) (Message.envelope_toJson rfl)
  have hPrior : m.fromPrior.mapM (FromPrior.unpack (ideal sha256) (everyDid service)) =
      .ok (some (rotated, signKid "did:example:alice")) := by
    rw [show m.fromPrior = some jwt from rfl, Option.mapM_some, hJwt]
    rfl
  obtain ⟨text, jws, hText, hLayer⟩ := ideal_signs sha256 service opts hParse hAlice
  exact ⟨text, jws, _, m, _, hText, hLayer, rfl, rfl, hPrior, rfl⟩

variable (hFirst : opts.expectDecryptByAllKeys = false)
include hFirst

theorem ideal_nested_signed {n : Nat} (hLimit : n + 1 < opts.cryptoOperationsLimitPerMessage)
    (hUnwrap : n = 0 ∨ opts.unwrapReWrappingForward = true) : ∃ text layers m prior,
      Opens (ideal sha256) (everyDid service) (secretsOf did) opts text layers m prior ∧
        (layers.flatMap Layer.ops).length + m.fromPrior.toList.length = n + 3 := by
  obtain ⟨text, jws, layer, m, prior, hText, hLayer, hOps, hTyp, hPrior, hLength⟩ :=
    ideal_rotated sha256 service opts (secretsOf did)
  obtain ⟨packed, jwe, layers, -, hParse, hPeels, hPeeled⟩ :=
    ideal_nested sha256 service h hFirst hText (fun m hSame => by cases hSame) n hUnwrap
  refine ⟨packed, _, m, prior, ⟨_, hParse, _, _, layers, [], [layer], n + 1, hPeels, hLimit, .none not_false,
    .signed trivial hLayer, hTyp, hPrior, rfl⟩, ?_⟩
  simp only [List.append_nil, List.flatMap_append, List.flatMap_cons, List.flatMap_nil, List.length_append,
    hPeeled, hOps, hLength]

theorem ideal_authcrypted_signed (hLimit : 2 < opts.cryptoOperationsLimitPerMessage) : ∃ text layers m prior,
    Opens (ideal sha256) (everyDid service) (secretsOf did) opts text layers m prior ∧
      (layers.flatMap Layer.ops).length + m.fromPrior.toList.length = 4 := by
  have hAlice : '#' ∉ "did:example:alice".toList := by decide
  obtain ⟨text, jws, layer, m, prior, hText, hLayer, hOps, hTyp, hPrior, hLength⟩ :=
    ideal_rotated sha256 service opts (secretsOf did)
  obtain ⟨authcrypted, auth, -, hAuth, -, hAuthLayer⟩ := ideal_authcrypts sha256 service opts hFirst hText hAlice h
  obtain ⟨packed, jwe, layers, -, hParse, hPeels, hPeeled⟩ :=
    ideal_nested sha256 service h hFirst hAuth (fun m hSame => by cases hSame) 0 (.inl rfl)
  refine ⟨packed, _, m, prior,
    ⟨_, hParse, _, _, layers, _, [layer], 1, hPeels, by omega, .authcrypted hAuthLayer hLimit,
    .signed trivial hLayer, hTyp, hPrior, rfl⟩, ?_⟩
  simp only [List.flatMap_append, List.flatMap_cons, List.flatMap_nil, List.length_append, hPeeled, hOps, hLength]
  rfl

end

/-- One call of `unpack` keeps the limit exactly if no key is tried and no signature verified past it. -/
theorem crypto_operations_le_limit_iff {crates : Crates} {dids : DidResolver} {secrets : SecretsResolver}
    {opts : UnpackOptions} {text : String} {s : UnpackState crates}
    (hNew : MetaEnvelope.new crates dids secrets text (.fresh crates) = .ok () s) :
    cryptoOperations crates dids secrets opts s ≤ opts.cryptoOperationsLimitPerMessage ↔
      ¬ Overruns crates dids secrets opts text := by
  rw [← unpack_exceeds_new_iff hNew, Exceeds, Nat.not_lt]
  rfl

/-- A ping for a key of Bob, under as many names as are asked for. -/
theorem ideal_named_often {n : Nat} (hPos : 0 < n) : ∃ text s,
    MetaEnvelope.new (ideal id) (everyDid fun _ => []) (secretsOf "did:example:bob") text (.fresh _) = .ok () s ∧
      cryptoOperations (ideal id) (everyDid fun _ => []) (secretsOf "did:example:bob")
        { expectDecryptByAllKeys := true, cryptoOperationsLimitPerMessage := 1000 } s = n := by
  let opts : UnpackOptions := { expectDecryptByAllKeys := true, cryptoOperationsLimitPerMessage := 1000 }
  have hBob : '#' ∉ "did:example:bob".toList := by decide
  have hAll : opts.expectDecryptByAllKeys = true := rfl
  obtain ⟨text, layers, hOpens, hOps⟩ := ideal_many_keys id (fun _ => []) hBob hAll (by decide) hPos
  obtain ⟨s, hNew, hOperations⟩ := hOpens.cryptoOperations_eq
  exact ⟨text, s, hNew, hOperations.symm.trans hOps⟩

/-- Three names of a key are within the limit, and one more than the limit has overrun it. -/
theorem crypto_operations_le_limit_named :
    (∃ text s, MetaEnvelope.new (ideal id) (everyDid fun _ => []) (secretsOf "did:example:bob") text (.fresh _) =
        .ok () s ∧ ¬ Overruns (ideal id) (everyDid fun _ => []) (secretsOf "did:example:bob")
          { expectDecryptByAllKeys := true, cryptoOperationsLimitPerMessage := 1000 } text) ∧
    ∃ text s, MetaEnvelope.new (ideal id) (everyDid fun _ => []) (secretsOf "did:example:bob") text (.fresh _) =
        .ok () s ∧ Overruns (ideal id) (everyDid fun _ => []) (secretsOf "did:example:bob")
          { expectDecryptByAllKeys := true, cryptoOperationsLimitPerMessage := 1000 } text := by
  constructor
  · obtain ⟨text, s, hNew, hThree⟩ := ideal_named_often (Nat.succ_pos 2)
    exact ⟨text, s, hNew, (crypto_operations_le_limit_iff hNew).mp (hThree.trans_le (by decide))⟩
  · obtain ⟨text, s, hNew, hMany⟩ := ideal_named_often (Nat.succ_pos 1000)
    refine ⟨text, s, hNew, by_contra fun hWithin => ?_⟩
    exact absurd (hMany.symm.trans_le ((crypto_operations_le_limit_iff hNew).mpr hWithin)) (by decide)

/-- A ping for one key of Bob that is named 1001 times, where all keys are expected to decrypt. -/
theorem crypto_operations_exceed_limit : ∃ text s,
    MetaEnvelope.new (ideal id) (everyDid fun _ => []) (secretsOf "did:example:bob") text (.fresh _) = .ok () s ∧
      1000 < cryptoOperations (ideal id) (everyDid fun _ => []) (secretsOf "did:example:bob")
        { expectDecryptByAllKeys := true, cryptoOperationsLimitPerMessage := 1000 } s := by
  obtain ⟨text, s, hNew, hMany⟩ := ideal_named_often (Nat.succ_pos 1000)
  exact ⟨text, s, hNew, by rw [hMany]; decide⟩

/-- The options under which no text overruns: none is let through to the first operation, or the limit leaves room for
each layer once and both signatures, no key is tried after the first one and no forward is unwrapped. -/
theorem crypto_operations_always_le_limit_iff (opts : UnpackOptions) :
    (∀ (crates : Crates) (dids : DidResolver) (secrets : SecretsResolver) (text : String) (s : UnpackState crates),
      MetaEnvelope.new crates dids secrets text (.fresh crates) = .ok () s →
        cryptoOperations crates dids secrets opts s ≤ opts.cryptoOperationsLimitPerMessage) ↔
      opts.cryptoOperationsLimitPerMessage ≤ 1 ∨ opts.expectDecryptByAllKeys = false ∧
        opts.unwrapReWrappingForward = false ∧ 4 ≤ opts.cryptoOperationsLimitPerMessage := by
  constructor
  · intro hAll
    have hNever {text : String} {layers : List (Layer (ideal id))} {m : Message} {prior : Option (FromPrior × String)}
        (hOpens : Opens (ideal id) (everyDid fun _ => []) (secretsOf "did:example:bob") opts text layers m prior) :
        (layers.flatMap Layer.ops).length + m.fromPrior.toList.length ≤ opts.cryptoOperationsLimitPerMessage := by
      obtain ⟨s, hNew, hOperations⟩ := hOpens.cryptoOperations_eq
      exact hOperations.trans_le (hAll _ _ _ text s hNew)
    have hBob : '#' ∉ "did:example:bob".toList := by decide
    rcases Nat.lt_or_ge 1 opts.cryptoOperationsLimitPerMessage with hLimit | hSmall
    · cases hKeys : opts.expectDecryptByAllKeys with
      | true =>
        obtain ⟨text, layers, hOpens, hOps⟩ := ideal_many_keys id (fun _ => []) hBob hKeys hLimit
          (Nat.succ_pos opts.cryptoOperationsLimitPerMessage)
        have hLe := hNever hOpens
        omega
      | false =>
        cases hUnwrap : opts.unwrapReWrappingForward with
        | true =>
          obtain ⟨text, layers, m, prior, hOpens, hOps⟩ := ideal_nested_signed id (fun _ => []) hBob hKeys
            (n := opts.cryptoOperationsLimitPerMessage - 2) (by omega) (.inr hUnwrap)
          have hLe := hNever hOpens
          omega
        | false =>
          refine .inr ⟨rfl, rfl, ?_⟩
          obtain ⟨text, layers, m, prior, hOpens, hOps⟩ := ideal_nested_signed id (fun _ => []) hBob hKeys
            (n := 0) hLimit (.inl rfl)
          have hThree := hNever hOpens
          obtain ⟨text', layers', m', prior', hOpens', hOps'⟩ := ideal_authcrypted_signed id (fun _ => []) hBob hKeys
            (by omega)
          have hFour := hNever hOpens'
          omega
    · exact .inl hSmall
  · rintro (hSmall | ⟨hFirst, hUnwrap, hLimit⟩) crates dids secrets text s -
    · exact ((Counted.atMost_unpack_small crates dids secrets opts hSmall).mono (Nat.zero_le _)).stateAfter_le s
    · refine (Counted.atMost_unpack crates dids secrets opts hFirst fun rounds _ _ hOnce => ?_).stateAfter_le s
      rw [hOnce hUnwrap]
      split <;> omega

end AffinidiMessaging.Didcomm
