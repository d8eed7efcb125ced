import AffinidiMessaging.Didcomm.CryptoOperations
import AffinidiMessaging.Didcomm.UnpackPanics

/-! # The operations past the limit

Of the keys of an anonymous layer the code counts one, and of the signatures none. So a key is tried or a signature
verified that the limit has no room for, where the layers before it and the keys before it took more operations than
were counted.
-/

namespace AffinidiMessaging.Didcomm

open Fallible Serde

variable (crates : Crates) (dids : DidResolver) (secrets : SecretsResolver)

/-- A secret that an anonymous layer is decrypted with, whether it opens the layer or not. -/
def UsesAnon (jwe : ParsedJWE) (toKid : String) : Prop :=
  ∃ key method, recipientKey crates secrets toKid = .ok key ∧ anonMethod key.curve jwe.protected_.enc = some method

/-- A secret that a layer from a sender is decrypted with, whether it opens the layer or not. -/
def UsesAuth (jwe : ParsedJWE) (fromKey : KnownKeyPair crates) (toKid : String) : Prop :=
  ∃ key alg toKey, recipientKey crates secrets toKid = .ok key ∧
    authMethod fromKey.curve key.curve jwe.protected_.enc = .ok alg ∧ key.ofCurve fromKey.curve = .ok toKey

/-- The `n`-th of the own secrets is tried for an anonymous layer. -/
def TriesAnon (opts : UnpackOptions) (parsed : ParsedEnvelope) (n : Nat) : Prop :=
  ∃ jwe found, parsed = .jwe jwe ∧ jwe.protected_.alg = .ecdhEsA256kw ∧ Recipients secrets jwe found ∧
    TriesBad (fun kid => ∃ alg payload, OpensAnon crates secrets jwe alg kid payload) (UsesAnon crates secrets jwe)
      opts.expectDecryptByAllKeys found n

/-- The `n`-th of the own secrets is tried for a layer to authenticate, within what the code counts. -/
def TriesAuth (opts : UnpackOptions) (count : Nat) (parsed : ParsedEnvelope) (n : Nat) : Prop :=
  ∃ jwe apu kid key found, parsed = .jwe jwe ∧ jwe.protected_.alg = .ecdh1puA256kw ∧ jwe.apu = some apu ∧
    String.fromUTF8? apu = some kid ∧ SenderKey crates dids kid key ∧ Recipients secrets jwe found ∧
      TriesBad (fun toKid => ∃ alg payload, OpensAuth crates secrets jwe (kid, key) alg toKid payload)
        (UsesAuth crates secrets jwe key) opts.expectDecryptByAllKeys found n ∧
      count + n < opts.cryptoOperationsLimitPerMessage

/-- A signature is verified, by the key of a signer, whether it holds or not. -/
def TriesSign : ParsedEnvelope → Prop
  | .jws jws => ∃ header signature alg key, jws.protected_ = [header] ∧ jws.jws.signatures.head? = some signature ∧
      SignerKey crates dids signature.kid key ∧ signMethod header.alg = .ok (alg, key.curve)
  | _ => False

/-- The signature of a `from_prior` is verified, whether it holds or not. -/
def TriesPrior (m : Message) : Prop :=
  m.typ = plaintextTyp ∧ ∃ jwt parsed method jwk signed key, m.fromPrior = some jwt ∧
    parseCompact crates jwt = .ok parsed ∧ parsed.parsedHeader.typ = "JWT" ∧
    FromPrior.issuerMethod dids parsed.parsedHeader.kid = .ok method ∧ method.getJwk crates = .ok (some jwk) ∧
    signMethod parsed.parsedHeader.alg = .ok signed ∧ jwk.asCurve crates signed.2 = .ok key

/-- Anonymous layers around own forwards, down to what the last of them forwards. -/
inductive Follows (opts : UnpackOptions) : ParsedEnvelope → List (Layer crates) → ParsedEnvelope → Nat → Prop
  | here {parsed : ParsedEnvelope} : Follows opts parsed [] parsed 0
  | forwarded {parsed inner next last : ParsedEnvelope} {layer : Layer crates} {layers : List (Layer crates)}
    {text : String} {rounds : Nat} (hAlg : parsed.hasAlg .ecdhEsA256kw)
    (h : OpensLayer crates dids secrets opts parsed layer inner)
    (hForward : unwrapForwarded crates dids secrets opts (some inner) = .ok (some text))
    (hNext : parseEnvelope crates text = .ok next) (hRest : Follows opts next layers last rounds) :
    Follows opts parsed (layer :: .forwarded :: layers) last (rounds + 1)

variable {crates} in
/-- The keys and signatures of some layers. -/
def opCount (layers : List (Layer crates)) : Nat := (layers.flatMap Layer.ops).length

/-- A key is tried or a signature verified past the limit. -/
inductive OverrunsInside (opts : UnpackOptions) (outer : ParsedEnvelope) : Prop
  | anon {outside : List (Layer crates)} {parsed : ParsedEnvelope} {rounds n : Nat}
    (hFollows : Follows crates dids secrets opts outer outside parsed rounds)
    (hRound : rounds + 1 < opts.cryptoOperationsLimitPerMessage) (h : TriesAnon crates secrets opts parsed n)
    (hOver : opts.cryptoOperationsLimitPerMessage < opCount outside + n)
  | auth {outside : List (Layer crates)} {peeled : ParsedEnvelope} {rounds n : Nat}
    (hPeels : Peels crates dids secrets opts outer outside peeled rounds)
    (h : TriesAuth crates dids secrets opts rounds peeled n)
    (hOver : opts.cryptoOperationsLimitPerMessage < opCount outside + n)
  | sign {outside sender : List (Layer crates)} {peeled opened : ParsedEnvelope} {rounds : Nat}
    (hPeels : Peels crates dids secrets opts outer outside peeled rounds)
    (hRound : rounds < opts.cryptoOperationsLimitPerMessage)
    (hAuth : Authenticates crates dids secrets opts rounds peeled sender opened) (h : TriesSign crates dids opened)
    (hOver : opts.cryptoOperationsLimitPerMessage < opCount (outside ++ sender) + 1)
  | prior {outside sender signature : List (Layer crates)} {peeled opened : ParsedEnvelope} {m : Message} {rounds : Nat}
    (hPeels : Peels crates dids secrets opts outer outside peeled rounds)
    (hRound : rounds < opts.cryptoOperationsLimitPerMessage)
    (hAuth : Authenticates crates dids secrets opts rounds peeled sender opened)
    (hSign : Attests crates dids secrets opts opened signature (.message m)) (h : TriesPrior crates dids m)
    (hOver : opts.cryptoOperationsLimitPerMessage < opCount (outside ++ sender ++ signature) + 1)

/-- What a text opens to has a key or a signature past the limit. -/
def Overruns (opts : UnpackOptions) (text : String) : Prop :=
  ∃ outer, parseEnvelope crates text = .ok outer ∧ OverrunsInside crates dids secrets opts outer

variable {crates dids secrets}

theorem OpensAnon.uses {jwe : ParsedJWE} {alg : AnonCryptAlg} {kid : String} {payload : ByteArray}
    (h : OpensAnon crates secrets jwe alg kid payload) : UsesAnon crates secrets jwe kid := by
  obtain ⟨key, cipher, hKey, hMethod, -⟩ := h
  exact ⟨key, (cipher, alg), hKey, hMethod⟩

theorem OpensAuth.uses {jwe : ParsedJWE} {sender : String × KnownKeyPair crates} {alg : AuthCryptAlg} {kid : String}
    {payload : ByteArray} (h : OpensAuth crates secrets jwe sender alg kid payload) :
    UsesAuth crates secrets jwe sender.2 kid := by
  obtain ⟨key, toKey, hKey, hMethod, hCurve, -⟩ := h
  exact ⟨key, alg, toKey, hKey, hMethod, hCurve⟩

theorem opCount_nil : opCount ([] : List (Layer crates)) = 0 := rfl

theorem opCount_cons (layer : Layer crates) (layers : List (Layer crates)) :
    opCount (layer :: layers) = layer.ops.length + opCount layers := by
  rw [opCount, List.flatMap_cons, List.length_append]
  rfl

theorem opCount_forwarded (layer : Layer crates) (layers : List (Layer crates)) :
    opCount (layer :: .forwarded :: layers) = layer.ops.length + opCount layers := by
  rw [opCount_cons, opCount_cons, Layer.ops, List.length_nil, Nat.zero_add]

theorem opCount_append (layers layers' : List (Layer crates)) :
    opCount (layers ++ layers') = opCount layers + opCount layers' := by
  rw [opCount, List.flatMap_append, List.length_append]
  rfl

theorem length_opened_ops (s : UnpackState crates) (layers : List (Layer crates)) :
    (s.opened layers).ops.length = s.ops.length + opCount layers :=
  List.length_append

theorem TriesAuth.within {opts : UnpackOptions} {count n : Nat} {parsed : ParsedEnvelope}
    (h : TriesAuth crates dids secrets opts count parsed n) : count + n < opts.cryptoOperationsLimitPerMessage := by
  obtain ⟨_, _, _, _, _, -, -, -, -, -, -, -, hCount⟩ := h
  exact hCount

namespace Counted

variable {opts : UnpackOptions} {limit n : Nat} {s : UnpackState crates}

theorem exceeds_note_bind_iff {α : Type} {g : UnpackMetadata → UnpackMetadata} {f : Unit → Counted.Unpack crates α} :
    Exceeds limit (unmetered (Unpack.modifyMetadata g) >>= f) (s, n) ↔ Exceeds limit (f ()) (s.noted g [], n) := by
  have hRun : unmetered (Unpack.modifyMetadata g) (s, n) = .ok () (s.noted g [], n) :=
    counted_ok_iff.mpr ⟨Unpack.modifyMetadata_run _ _, rfl⟩
  rw [Exceeds, stateAfter_bind_of_ok hRun]
  rfl

theorem exceeds_get_bind_iff {α : Type} {f : UnpackState crates → Counted.Unpack crates α} :
    Exceeds limit (unmetered (get : Didcomm.Unpack crates (UnpackState crates)) >>= f) (s, n) ↔
      Exceeds limit (f s) (s, n) := Iff.rfl

/-! ## The keys of an anonymous layer -/

theorem anonDecrypt_exceeds_iff (jwe : ParsedJWE) (toKid : String) (hn : n ≤ limit) :
    Exceeds limit (anonDecrypt crates secrets jwe toKid) (s, n) ↔
    UsesAnon crates secrets jwe toKid ∧ limit < n + 1 := by
  have hDecrypts (key : KnownKeyPair crates) (cipher : Cipher) (s : UnpackState crates) : Exceeds limit (do
      tick
      let payload ← jwe.decrypt crates cipher .ecdhEs none (toKid, key.key)
      unmetered (Unpack.record (.decrypted jwe none toKid))
      return payload : Counted.Unpack crates ByteArray) (s, n) ↔ limit < n + 1 :=
    exceeds_tick_bind_iff.trans (exceeds_idle_iff (.bind (.lift _) fun _ => .bind (.unmetered _) fun _ => .pure _))
  simp only [anonDecrypt, exceeds_lift_bind_iff, exceeds_note_bind_iff, hn, okOr_ok_iff, hDecrypts, UsesAnon]
  constructor
  · rintro ⟨key, hKey, method, hMethod, hOver⟩
    exact ⟨⟨key, method, hKey, hMethod⟩, hOver⟩
  · rintro ⟨⟨key, method, hKey, hMethod⟩, hOver⟩
    exact ⟨key, hKey, method, hMethod, hOver⟩

theorem anonDecrypt_run_ok_iff (jwe : ParsedJWE) (toKid : String) (payload : ByteArray) (t : UnpackState crates × Nat) :
    anonDecrypt crates secrets jwe toKid (s, n) = .ok payload t ↔
      Didcomm.anonDecrypt crates secrets jwe toKid s = .ok payload t.1 ∧ t.2 = n + 1 := by
  rw [(spends_anonDecrypt crates secrets jwe toKid).run_ok_iff (meters_anonDecrypt crates secrets jwe toKid)]
  refine and_congr_right fun hRun => ?_
  obtain ⟨alg, -, hState⟩ := (anonDecrypt_ok_iff jwe toKid payload s t.1).mp hRun
  rw [hState]
  simp only [recorded, UnpackState.noted, List.length_append, List.length_singleton]
  omega

theorem anonPayload_exceeds_iff (jwe : ParsedJWE) (found : List String) (before : Option ByteArray) (hn : n ≤ limit) :
    Exceeds limit (anonPayload crates secrets opts jwe before found) (s, n) ↔
      ∃ k, TriesBad (fun kid => ∃ alg payload, OpensAnon crates secrets jwe alg kid payload)
        (UsesAnon crates secrets jwe) opts.expectDecryptByAllKeys found k ∧ limit < n + k := by
  induction found generalizing before n s with
  | nil =>
    refine iff_of_false (Nat.not_lt.mpr hn) ?_
    rintro ⟨k, hTries, -⟩
    exact not_triesBad_nil hTries
  | cons toKid rest ih =>
    have hGrows (payload : ByteArray) : Grows (if opts.expectDecryptByAllKeys then
        anonPayload crates secrets opts jwe (some payload) rest else pure (some payload)) :=
      (Meters.ite (meters_anonPayload crates secrets opts jwe (some payload) rest) (.pure _)).grows
    rw [anonPayload, exceeds_bind_iff hGrows, anonDecrypt_exceeds_iff jwe toKid hn]
    simp only [triesBad_cons_iff, anonDecrypt_run_ok_iff, Prod.exists]
    constructor
    · rintro (⟨hUses, hOver⟩ | ⟨payload, s', _, ⟨hRun, rfl⟩, hWithin, hRest⟩)
      · exact ⟨1, .inl ⟨hUses, rfl⟩, hOver⟩
      · obtain ⟨alg, hOpens, -⟩ := (anonDecrypt_ok_iff _ _ _ _ _).mp hRun
        split at hRest
        · rename_i hAll
          obtain ⟨k, hTries, hOver⟩ := (ih (some payload) hWithin).mp hRest
          exact ⟨k + 1, .inr ⟨k, hAll, ⟨alg, payload, hOpens⟩, hTries, rfl⟩, by omega⟩
        · exact absurd hRest (Nat.not_lt.mpr hWithin)
    · rintro ⟨_, ⟨hUses, rfl⟩ | ⟨k, hAll, ⟨alg, payload, hOpens⟩, hTries, rfl⟩, hOver⟩
      · exact .inl ⟨hUses, hOver⟩
      · rcases Nat.lt_or_ge limit (n + 1) with hBefore | hWithin
        · exact .inl ⟨hOpens.uses, hBefore⟩
        · refine .inr ⟨payload, _, _, ⟨(anonDecrypt_ok_iff _ _ _ _ _).mpr ⟨alg, hOpens, rfl⟩, rfl⟩, hWithin, ?_⟩
          rw [if_pos hAll]
          exact (ih (some payload) hWithin).mpr ⟨k, hTries, by omega⟩

theorem tryUnpackAnoncrypt_exceeds_iff (parsed : ParsedEnvelope) (hn : n ≤ limit) :
    Exceeds limit (tryUnpackAnoncrypt crates secrets opts parsed) (s, n) ↔
      ∃ k, TriesAnon crates secrets opts parsed k ∧ limit < n + k := by
  have hOther (hNone : ∀ jwe, parsed = .jwe jwe → jwe.protected_.alg ≠ .ecdhEsA256kw) :
      Exceeds limit (pure none : Counted.Unpack crates (Option ParsedEnvelope)) (s, n) ↔
        ∃ k, TriesAnon crates secrets opts parsed k ∧ limit < n + k := by
    refine iff_of_false (Nat.not_lt.mpr hn) ?_
    rintro ⟨k, ⟨jwe, found, hJwe, hAlg, -⟩, -⟩
    exact hNone jwe hJwe hAlg
  cases parsed with
  | jws jws => exact hOther fun jwe h => by cases h
  | message m => exact hOther fun jwe h => by cases h
  | jwe jwe =>
    rw [tryUnpackAnoncrypt]
    split
    · rename_i hAlg
      refine hOther ?_
      rintro _ ⟨⟩
      exact hAlg
    rename_i hAlg
    have hPayload (found : List String) (s : UnpackState crates) : Exceeds limit (do
        let payload ← anonPayload crates secrets opts jwe none found
        openPayload crates "Anoncrypt payload is invalid utf8" payload :
        Counted.Unpack crates ParsedEnvelope) (s, n) ↔ _ :=
      (exceeds_bind_idle_iff fun _ => .lift _).trans (anonPayload_exceeds_iff jwe found none hn)
    simp only [exceeds_map_iff, unpackAnoncrypt, exceeds_lift_bind_iff, exceeds_note_bind_iff, hn, hPayload,
      firstKid_ok_iff, ofError_ok_iff, ensureFound_ok_iff]
    constructor
    · rintro ⟨toKid, hHead, _, hOne, found, hFound, _, hSome, k, hTries, hOver⟩
      exact ⟨k, ⟨jwe, found, rfl, not_not.mp hAlg, ⟨toKid, hHead, hOne, hFound, hSome⟩, hTries⟩, hOver⟩
    · rintro ⟨k, ⟨_, found, ⟨⟩, -, ⟨toKid, hHead, hOne, hFound, hSome⟩, hTries⟩, hOver⟩
      exact ⟨toKid, hHead, (), hOne, found, hFound, (), hSome, k, hTries, hOver⟩

theorem tryUnpackAnoncrypt_run_ok_iff (parsed : ParsedEnvelope) (result : Option ParsedEnvelope)
    (t : UnpackState crates × Nat) : tryUnpackAnoncrypt crates secrets opts parsed (s, n) = .ok result t ↔
      Didcomm.tryUnpackAnoncrypt crates secrets opts parsed s = .ok result t.1 ∧
        t.2 + s.ops.length = n + t.1.ops.length :=
  (spends_tryUnpackAnoncrypt crates secrets opts parsed).run_ok_iff
    (meters_tryUnpackAnoncrypt crates secrets opts parsed) s n result t

/-! ## The loop -/

theorem unpackLoop_exceeds_iff (left count : Nat) (parsed : ParsedEnvelope) (hn : n ≤ limit) :
    Exceeds limit (unpackLoop crates dids secrets opts left count parsed) (s, n) ↔
      ∃ outside last rounds k, Follows crates dids secrets opts parsed outside last rounds ∧ rounds < left ∧
        TriesAnon crates secrets opts last k ∧ limit < n + (opCount outside + k) := by
  induction left generalizing count parsed s n with
  | zero =>
    refine iff_of_false (Nat.not_lt.mpr hn) ?_
    rintro ⟨_, _, rounds, _, -, hLeft, -⟩
    exact Nat.not_lt_zero rounds hLeft
  | succ left ih =>
    rw [unpackLoop, exceeds_bind_iff, tryUnpackAnoncrypt_exceeds_iff parsed hn]
    swap
    · refine fun anoncrypted => .bind (Idle.grows (.lift _)) fun forwarded => ?_
      cases forwarded with
      | none => exact Idle.grows (.pure _)
      | some text =>
        refine .bind (Idle.grows (.unmetered _)) fun _ => .bind (Idle.grows (.lift _)) fun next => ?_
        exact (meters_unpackLoop crates dids secrets opts left (count + 1) next).grows
    constructor
    · rintro (⟨k, hTries, hOver⟩ | ⟨anoncrypted, ⟨s', n'⟩, hRun, hWithin, hRest⟩)
      · exact ⟨[], parsed, 0, k, .here, Nat.zero_lt_succ left, hTries, (Nat.zero_add k).symm ▸ hOver⟩
      · obtain ⟨hRun, hCount⟩ := (tryUnpackAnoncrypt_run_ok_iff _ _ _).mp hRun
        obtain ⟨forwarded, hForward, hRest⟩ := (exceeds_lift_bind_iff hWithin).mp hRest
        cases forwarded with
        | none => exact absurd hRest (Nat.not_lt.mpr hWithin)
        | some text =>
          have hCounter : n' ≤ limit := hWithin
          obtain ⟨next, hNext, hRest⟩ :=
            (exceeds_lift_bind_iff (s := (_, n')) hCounter).mp (exceeds_note_bind_iff.mp hRest)
          obtain ⟨outside, last, rounds, k, hFollows, hLeft, hTries, hOver⟩ := (ih (count + 1) next hWithin).mp hRest
          rcases (tryUnpackAnoncrypt_ok_iff dids opts parsed _ _ _).mp hRun with
            ⟨-, rfl, -⟩ | ⟨hAlg, layer, inner, hLayer, rfl, rfl⟩
          · cases hForward
          · refine ⟨_, last, rounds + 1, k, .forwarded hAlg hLayer hForward hNext hFollows, by omega, hTries, ?_⟩
            simp only [length_opened_ops, opCount_cons, opCount_nil] at hCount
            rw [opCount_forwarded]
            omega
    · rintro ⟨outside, last, rounds, k, hFollows, hLeft, hTries, hOver⟩
      cases hFollows with
      | here => exact .inl ⟨k, hTries, Nat.zero_add k ▸ hOver⟩
      | @forwarded _ inner next _ layer layers text rounds hAlg hLayer hForward hNext hRest =>
        have hAnon : tryUnpackAnoncrypt crates secrets opts parsed (s, n) =
            .ok (some inner) (s.opened [layer], n + layer.ops.length) := by
          refine (tryUnpackAnoncrypt_run_ok_iff _ _ _).mpr ⟨?_, ?_⟩
          · exact (tryUnpackAnoncrypt_ok_iff dids opts parsed _ _ _).mpr (.inr ⟨hAlg, layer, inner, hLayer, rfl, rfl⟩)
          · simp only [length_opened_ops, opCount_cons, opCount_nil]
            omega
        rw [opCount_forwarded] at hOver
        rcases Nat.lt_or_ge limit (n + layer.ops.length) with hBefore | hWithin
        · exact .inl ((tryUnpackAnoncrypt_exceeds_iff parsed hn).mp (exceeds_of_ok hAnon hBefore))
        · refine .inr ⟨some inner, _, hAnon, hWithin, (exceeds_lift_bind_iff hWithin).mpr ⟨some text, hForward, ?_⟩⟩
          refine exceeds_note_bind_iff.mpr ((exceeds_lift_bind_iff (s := (_, n + layer.ops.length)) hWithin).mpr ?_)
          refine ⟨next, hNext, ?_⟩
          exact (ih (count + 1) next hWithin).mpr ⟨_, _, _, k, hRest, by omega, hTries, by omega⟩

/-! ## The keys of a layer to authenticate -/

theorem authDecrypt_exceeds_iff (jwe : ParsedJWE) {kid : String} {key : KnownKeyPair crates}
    (hKey : s.envelope.fromKey = some key) (hKid : s.envelope.fromKid = some kid) (toKid : String) (hn : n ≤ limit) :
    Exceeds limit (authDecrypt crates secrets jwe toKid) (s, n) ↔
      UsesAuth crates secrets jwe key toKid ∧ limit < n + 1 := by
  have hDecrypts (toKey : crates.KeyPair key.curve) (s : UnpackState crates) : Exceeds limit (do
      tick
      let payload ← jwe.decrypt crates .a256CbcHs512 .ecdh1PU (some (kid, key.key)) (toKid, toKey)
      unmetered (Unpack.record (.decrypted jwe (some (kid, key)) toKid))
      return payload : Counted.Unpack crates ByteArray) (s, n) ↔ limit < n + 1 :=
    exceeds_tick_bind_iff.trans (exceeds_idle_iff (.bind (.lift _) fun _ => .bind (.unmetered _) fun _ => .pure _))
  simp only [authDecrypt, exceeds_lift_bind_iff, exceeds_note_bind_iff, exceeds_get_bind_iff, hn, hKey, hKid,
    unwrap_ok_iff, Option.some.injEq, exists_eq_left', hDecrypts, UsesAuth]
  constructor
  · rintro ⟨toKey, hToKey, alg, hMethod, known, hCurve, hOver⟩
    exact ⟨⟨toKey, alg, known, hToKey, hMethod, hCurve⟩, hOver⟩
  · rintro ⟨⟨toKey, alg, known, hToKey, hMethod, hCurve⟩, hOver⟩
    exact ⟨toKey, hToKey, alg, hMethod, known, hCurve, hOver⟩

/-- Without a sender the code gives up before it decrypts. -/
theorem authDecrypt_unnamed_within (jwe : ParsedJWE) (hKey : s.envelope.fromKey = none) (toKid : String)
    (hn : n ≤ limit) : ¬ Exceeds limit (authDecrypt crates secrets jwe toKid) (s, n) := by
  simp only [authDecrypt, exceeds_lift_bind_iff, exceeds_get_bind_iff, hn, hKey, unwrap_ok_iff, reduceCtorEq, false_and,
    exists_false, and_false, not_false_eq_true]

theorem authDecrypt_run_ok_iff (jwe : ParsedJWE) {kid : String} {key : KnownKeyPair crates}
    (hKey : s.envelope.fromKey = some key) (hKid : s.envelope.fromKid = some kid) (toKid : String) (payload : ByteArray)
    (t : UnpackState crates × Nat) : authDecrypt crates secrets jwe toKid (s, n) = .ok payload t ↔
      Didcomm.authDecrypt crates secrets jwe toKid s = .ok payload t.1 ∧ t.2 = n + 1 := by
  rw [(spends_authDecrypt crates secrets jwe toKid).run_ok_iff (meters_authDecrypt crates secrets jwe toKid)]
  refine and_congr_right fun hRun => ?_
  obtain ⟨alg, -, hState⟩ := (authDecrypt_ok_iff jwe hKey hKid toKid payload t.1).mp hRun
  rw [hState]
  simp only [recorded, UnpackState.noted, List.length_append, List.length_singleton]
  omega

theorem grows_afterAuth (jwe : ParsedJWE) (count : Nat) (rest : List String) (payload : ByteArray) :
    Grows (if opts.expectDecryptByAllKeys then authPayload crates secrets opts jwe (count + 1) (some payload) rest
      else pure (some payload)) :=
  (Meters.ite (meters_authPayload crates secrets opts jwe (count + 1) (some payload) rest) (.pure _)).grows

theorem authPayload_exceeds_iff (jwe : ParsedJWE) {kid : String} {key : KnownKeyPair crates} (found : List String)
    (count : Nat) (before : Option ByteArray) (hKey : s.envelope.fromKey = some key)
    (hKid : s.envelope.fromKid = some kid) (hn : n ≤ limit) :
    Exceeds limit (authPayload crates secrets opts jwe count before found) (s, n) ↔
      ∃ k, TriesBad (fun toKid => ∃ alg payload, OpensAuth crates secrets jwe (kid, key) alg toKid payload)
        (UsesAuth crates secrets jwe key) opts.expectDecryptByAllKeys found k ∧
        count + k < opts.cryptoOperationsLimitPerMessage ∧ limit < n + k := by
  induction found generalizing count before n s with
  | nil =>
    refine iff_of_false (Nat.not_lt.mpr hn) ?_
    rintro ⟨k, hTries, -⟩
    exact not_triesBad_nil hTries
  | cons toKid rest ih =>
    rw [authPayload, exceeds_ensure_bind_iff (s := (s, n)) hn, exceeds_bind_iff (grows_afterAuth jwe count rest),
      authDecrypt_exceeds_iff jwe hKey hKid toKid hn, decide_eq_true_iff]
    simp only [triesBad_cons_iff, authDecrypt_run_ok_iff jwe hKey hKid, Prod.exists]
    constructor
    · rintro ⟨hCount, ⟨hUses, hOver⟩ | ⟨payload, s', _, ⟨hRun, rfl⟩, hWithin, hRest⟩⟩
      · exact ⟨1, .inl ⟨hUses, rfl⟩, hCount, hOver⟩
      · obtain ⟨alg, hOpens, rfl⟩ := (authDecrypt_ok_iff jwe hKey hKid _ _ _).mp hRun
        split at hRest
        · rename_i hAll
          obtain ⟨k, hTries, hLeft, hOver⟩ :=
            (ih (s := s.noted _ _) (count + 1) (some payload) hKey hKid hWithin).mp hRest
          exact ⟨k + 1, .inr ⟨k, hAll, ⟨alg, payload, hOpens⟩, hTries, rfl⟩, by omega, by omega⟩
        · exact absurd hRest (Nat.not_lt.mpr hWithin)
    · rintro ⟨_, ⟨hUses, rfl⟩ | ⟨k, hAll, ⟨alg, payload, hOpens⟩, hTries, rfl⟩, hCount, hOver⟩
      · exact ⟨hCount, .inl ⟨hUses, hOver⟩⟩
      · refine ⟨by omega, ?_⟩
        rcases Nat.lt_or_ge limit (n + 1) with hBefore | hWithin
        · exact .inl ⟨hOpens.uses, hBefore⟩
        · refine .inr ⟨payload, _, _,
            ⟨(authDecrypt_ok_iff jwe hKey hKid _ _ _).mpr ⟨alg, hOpens, rfl⟩, rfl⟩, hWithin, ?_⟩
          rw [if_pos hAll]
          exact (ih (s := s.noted _ _) (count + 1) (some payload) hKey hKid hWithin).mpr
            ⟨k, hTries, by omega, by omega⟩

theorem authPayload_unnamed_within (jwe : ParsedJWE) (found : List String) (count : Nat) (before : Option ByteArray)
    (hKey : s.envelope.fromKey = none) (hn : n ≤ limit) :
    ¬ Exceeds limit (authPayload crates secrets opts jwe count before found) (s, n) := by
  cases found with
  | nil => exact Nat.not_lt.mpr hn
  | cons toKid rest =>
    rw [authPayload, exceeds_ensure_bind_iff (s := (s, n)) hn, exceeds_bind_iff (grows_afterAuth jwe count rest)]
    rintro ⟨-, hOver | ⟨payload, t, hRun, -⟩⟩
    · exact authDecrypt_unnamed_within jwe hKey toKid hn hOver
    · exact authDecrypt_without_sender jwe hKey toKid payload t.1
        ((meters_authDecrypt crates secrets jwe toKid).ok_of_run hRun)

/-- Once the sender is filled in, the keys are tried. -/
theorem tryUnpackAuthcrypt_exceeds_filled_iff (count : Nat) {jwe : ParsedJWE}
    (hAlg : jwe.protected_.alg = .ecdh1puA256kw) (hn : n ≤ limit) :
    Exceeds limit (tryUnpackAuthcrypt crates dids secrets opts count (.jwe jwe)) (s, n) ↔
      ∃ u s₁, fillIfUnknown crates dids secrets jwe s = .ok u s₁ ∧
        Exceeds limit (authPayload crates secrets opts jwe count none s₁.envelope.toKidsFound) (s₁, n) := by
  have hOpen (s₁ : UnpackState crates) : Exceeds limit (do
      let s ← unmetered (get : Didcomm.Unpack crates (UnpackState crates))
      let payload ← authPayload crates secrets opts jwe count none s.envelope.toKidsFound
      openPayload crates "Authcrypt payload is invalid utf8" payload : Counted.Unpack crates ParsedEnvelope) (s₁, n) ↔
        Exceeds limit (authPayload crates secrets opts jwe count none s₁.envelope.toKidsFound) (s₁, n) :=
    exceeds_get_bind_iff.trans (exceeds_bind_idle_iff fun _ => .lift _)
  rw [tryUnpackAuthcrypt, if_neg (not_not_intro hAlg), exceeds_map_iff, unpackAuthcrypt,
    exceeds_unmetered_bind_iff (s := (s, n)) hn]
  simp only [hOpen]

theorem tryUnpackAuthcrypt_exceeds_iff_of_other (count : Nat) {parsed : ParsedEnvelope}
    (hAlg : ¬ parsed.hasAlg .ecdh1puA256kw) (hn : n ≤ limit) :
    Exceeds limit (tryUnpackAuthcrypt crates dids secrets opts count parsed) (s, n) ↔
      ∃ k, TriesAuth crates dids secrets opts count parsed k ∧ limit < n + k := by
  have hRun : tryUnpackAuthcrypt crates dids secrets opts count parsed = pure none := by
    cases parsed with
    | jwe jwe => exact if_pos hAlg
    | jws jws => rfl
    | message m => rfl
  rw [hRun]
  refine iff_of_false (Nat.not_lt.mpr hn) ?_
  rintro ⟨k, ⟨jwe, -, -, -, -, rfl, hJwe, -⟩, -⟩
  exact hAlg hJwe

theorem tryUnpackAuthcrypt_unknown_exceeds_iff (count : Nat) (parsed : ParsedEnvelope)
    (hKid : s.envelope.fromKid = none) (hKey : s.envelope.fromKey = none) (hn : n ≤ limit) :
    Exceeds limit (tryUnpackAuthcrypt crates dids secrets opts count parsed) (s, n) ↔
      ∃ k, TriesAuth crates dids secrets opts count parsed k ∧ limit < n + k := by
  by_cases hAlg : parsed.hasAlg .ecdh1puA256kw
  swap
  · exact tryUnpackAuthcrypt_exceeds_iff_of_other count hAlg hn
  obtain ⟨jwe, rfl⟩ : ∃ jwe, parsed = .jwe jwe := by
    cases parsed with
    | jwe jwe => exact ⟨jwe, rfl⟩
    | jws jws => cases hAlg
    | message m => cases hAlg
  rw [tryUnpackAuthcrypt_exceeds_filled_iff count hAlg hn]
  cases hApu : jwe.apu with
  | none =>
    refine iff_of_false ?_ ?_
    · rintro ⟨u, s₁, hFill, hOver⟩
      rw [fillIfUnknown_anonymous jwe s hApu] at hFill
      cases hFill
      exact authPayload_unnamed_within jwe _ count none hKey hn hOver
    · rintro ⟨k, ⟨_, apu, _, _, _, ⟨⟩, -, hSome, -⟩, -⟩
      cases hApu.symm.trans hSome
  | some apu =>
    rw [fillIfUnknown_unknown jwe hApu hKid]
    constructor
    · rintro ⟨u, s₁, hFill, hOver⟩
      obtain ⟨kid, key, found, hUtf8, hSender, hRecipients, doc, toKid, rfl, -⟩ :=
        (fillEnvelopeFrom_ok_iff jwe hApu s s₁ u).mp hFill
      obtain ⟨k, hTries, hCount, hOver⟩ := (authPayload_exceeds_iff jwe found count none rfl rfl hn).mp hOver
      exact ⟨k, ⟨jwe, apu, kid, key, found, rfl, hAlg, hApu, hUtf8, hSender, hRecipients, hTries, hCount⟩, hOver⟩
    · rintro ⟨k, ⟨_, apu', kid, key, found, ⟨⟩, -, hSome, hUtf8, hSender, hRecipients, hTries, hCount⟩, hOver⟩
      cases hApu.symm.trans hSome
      obtain ⟨-, doc, -, hDoc, -⟩ := id hSender
      obtain ⟨toKid, hHead, -⟩ := id hRecipients
      exact ⟨(), _, (fillEnvelopeFrom_ok_iff jwe hApu s _ ()).mpr
        ⟨kid, key, found, hUtf8, hSender, hRecipients, doc, toKid, rfl, hDoc, hHead⟩,
        (authPayload_exceeds_iff jwe found count none rfl rfl hn).mpr ⟨k, hTries, hCount, hOver⟩⟩

theorem tryUnpackAuthcrypt_known_exceeds_iff (count : Nat) {jwe : ParsedJWE} {apu : ByteArray} {kid toKid : String}
    {doc : Document} {key : KnownKeyPair crates} {found : List String} (hApu : jwe.apu = some apu)
    (hUtf8 : String.fromUTF8? apu = some kid) (hSender : SenderKey crates dids kid key)
    (hRecipients : Recipients secrets jwe found) (s : UnpackState crates) (hn : n ≤ limit) :
    Exceeds limit (tryUnpackAuthcrypt crates dids secrets opts count (.jwe jwe))
        ((s.sentBy kid doc key).sentTo toKid jwe.toKids found, n) ↔
      ∃ k, TriesAuth crates dids secrets opts count (.jwe jwe) k ∧ limit < n + k := by
  by_cases hAlg : ParsedEnvelope.hasAlg .ecdh1puA256kw (.jwe jwe)
  swap
  · exact tryUnpackAuthcrypt_exceeds_iff_of_other count hAlg hn
  have hFill : fillIfUnknown crates dids secrets jwe
    ((s.sentBy kid doc key).sentTo toKid jwe.toKids found) = .ok () _ :=
    fillIfUnknown_known jwe rfl
  rw [tryUnpackAuthcrypt_exceeds_filled_iff count hAlg hn]
  constructor
  · rintro ⟨u, s₁, hOther, hOver⟩
    cases hFill.symm.trans hOther
    obtain ⟨k, hTries, hCount, hOver⟩ := (authPayload_exceeds_iff jwe found count none rfl rfl hn).mp hOver
    exact ⟨k, ⟨jwe, apu, kid, key, found, rfl, hAlg, hApu, hUtf8, hSender, hRecipients, hTries, hCount⟩, hOver⟩
  · rintro ⟨k, ⟨_, apu', kid', key', found', ⟨⟩, -, hApu', hUtf8', hSender', hRecipients', hTries, hCount⟩, hOver⟩
    cases hApu.symm.trans hApu'
    cases hUtf8.symm.trans hUtf8'
    cases hSender.unique hSender'
    cases hRecipients.unique hRecipients'
    exact ⟨(), _, hFill, (authPayload_exceeds_iff jwe found count none rfl rfl hn).mpr ⟨k, hTries, hCount, hOver⟩⟩

/-! ## The signatures -/

theorem verifySigner_exceeds_iff (jws : ParsedJWS) (alg : Jws.Algorithm) (kid : String) (jwk : Params)
    (hn : n ≤ limit) :
    Exceeds limit (verifySigner crates jws alg kid jwk) (s, n) ↔
      (∃ name curve key, signMethod alg = .ok (name, curve) ∧ jwk.asCurve crates curve = .ok key) ∧ limit < n + 1 := by
  have hVerifies {curve : Curve} (key : crates.KeyPair curve) (s : UnpackState crates) : Exceeds limit (do
      tick
      let valid ← (jws.verify crates kid key).context "Unable verify sign envelope"
      ensure valid (errMsg .malformed "Wrong signature")
      unmetered (Unpack.record (.verified jws kid ⟨curve, key⟩)) : Counted.Unpack crates Unit) (s, n) ↔ limit < n + 1 :=
    exceeds_tick_bind_iff.trans
      (exceeds_idle_iff (.bind (.lift _) fun _ => .bind (.ensure _ _) fun _ => .unmetered _))
  simp only [verifySigner, exceeds_lift_bind_iff, exceeds_note_bind_iff, hn, context_ok_iff, hVerifies]
  constructor
  · rintro ⟨method, hMethod, key, hKey, hOver⟩
    exact ⟨⟨method.1, method.2, key, hMethod, hKey⟩, hOver⟩
  · rintro ⟨⟨name, curve, key, hMethod, hKey⟩, hOver⟩
    exact ⟨(name, curve), hMethod, key, hKey, hOver⟩

theorem tryUnpackSign_exceeds_iff (parsed : ParsedEnvelope) (hn : n ≤ limit) :
    Exceeds limit (tryUnpackSign crates dids parsed) (s, n) ↔ TriesSign crates dids parsed ∧ limit < n + 1 := by
  cases parsed with
  | jwe jwe => exact iff_of_false (Nat.not_lt.mpr hn) fun h => h.1
  | message m => exact iff_of_false (Nat.not_lt.mpr hn) fun h => h.1
  | jws jws =>
    have hRest (kid : String) (alg : Jws.Algorithm) (jwk : Params) : Exceeds limit (do
        verifySigner crates jws alg kid jwk
        let payload ← base64 crates "Signed payload is invalid base64" jws.jws.payload
        let payload ← utf8 crates "Signed payload is invalid utf8" payload
        unmetered (Unpack.modifyMetadata fun m =>
          { m with authenticated := true, nonRepudiation := true, signFrom := some kid, signedMessage := some jws.jws })
        parseEnvelope crates payload : Counted.Unpack crates ParsedEnvelope) (s, n) ↔ _ :=
      (exceeds_bind_idle_iff fun _ => .bind (.lift _) fun _ => .bind (.lift _) fun _ => .bind (.unmetered _) fun _ =>
        .lift _).trans (verifySigner_exceeds_iff jws alg kid jwk hn)
    simp only [tryUnpackSign, exceeds_map_iff, unpackSign, exceeds_ensure_bind_iff, exceeds_lift_bind_iff, hn, hRest,
      okOr_ok_iff, signerJwk_ok_iff, beq_iff_eq, TriesSign]
    constructor
    · rintro ⟨hLength, header, hHeader, signature, hSignature, jwk, ⟨hUrl, doc, method, hDoc, hContains, hMethod, hJwk⟩,
        ⟨name, curve, key, hName, hKey⟩, hOver⟩
      obtain ⟨header', hOne⟩ := List.length_eq_one_iff.mp hLength
      rw [hOne, List.head?_cons, Option.some.injEq] at hHeader
      subst hHeader
      exact ⟨⟨header', signature, name, ⟨curve, key⟩, hOne, hSignature,
        ⟨hUrl, doc, method, jwk, hDoc, hContains, hMethod, hJwk, hKey⟩, hName⟩, hOver⟩
    · rintro ⟨⟨header, signature, name, key, hOne, hSignature,
        ⟨hUrl, doc, method, jwk, hDoc, hContains, hMethod, hJwk, hKey⟩, hName⟩, hOver⟩
      rw [hOne]
      exact ⟨rfl, header, rfl, signature, hSignature, jwk, ⟨hUrl, doc, method, hDoc, hContains, hMethod, hJwk⟩,
        ⟨name, key.curve, key.key, hName, hKey⟩, hOver⟩

theorem tryUnpackSign_run_ok_iff (parsed : ParsedEnvelope) (result : Option ParsedEnvelope)
    (t : UnpackState crates × Nat) :
    tryUnpackSign crates dids parsed (s, n) = .ok result t ↔
      Didcomm.tryUnpackSign crates dids parsed s = .ok result t.1 ∧ t.2 + s.ops.length = n + t.1.ops.length :=
  (spends_tryUnpackSign crates dids parsed).run_ok_iff (meters_tryUnpackSign crates dids parsed) s n result t

theorem fromPrior_exceeds_iff (jwt : String) (hn : n ≤ limit) :
    Exceeds limit (fromPrior crates dids jwt) (s, n) ↔ ∃ parsed, parseCompact crates jwt = .ok parsed ∧
      parsed.parsedHeader.typ = "JWT" ∧ ∃ method, FromPrior.issuerMethod dids parsed.parsedHeader.kid = .ok method ∧
        ∃ jwk, method.getJwk crates = .ok (some jwk) ∧ ∃ signed, signMethod parsed.parsedHeader.alg = .ok signed ∧
          ∃ key, jwk.asCurve crates signed.2 = .ok key ∧ limit < n + 1 := by
  have hVerifies (parsed : ParsedCompactJWS) {curve : Curve} (key : crates.KeyPair curve) : Exceeds limit (do
      tick
      let valid ← (parsed.verify crates key).context "Unable to verify from_prior signature"
      ensure valid (errMsg .malformed "Wrong from_prior signature")
      let fromPrior ← FromPrior.payload crates parsed
      return (fromPrior, parsed.parsedHeader.kid) : Counted.Unpack crates (FromPrior × String)) (s, n) ↔
        limit < n + 1 :=
    exceeds_tick_bind_iff.trans (exceeds_idle_iff
      (.bind (.lift _) fun _ => .bind (.ensure _ _) fun _ => .bind (.lift _) fun _ => .pure _))
  simp only [fromPrior, exceeds_lift_bind_iff, exceeds_ensure_bind_iff, hn, hVerifies, context_ok_iff, okOr_ok_iff,
    beq_iff_eq]
  refine exists_congr fun parsed => and_congr_right fun _ => and_congr_right fun _ => exists_congr fun method =>
    and_congr_right fun _ => ?_
  constructor
  · rintro ⟨_, hJwk, jwk, rfl, hRest⟩
    exact ⟨jwk, hJwk, hRest⟩
  · rintro ⟨jwk, hJwk, hRest⟩
    exact ⟨some jwk, hJwk, jwk, rfl, hRest⟩

theorem unpackFromPrior_exceeds_iff (m : Message) (hTyp : m.typ = plaintextTyp) (hn : n ≤ limit) :
    Exceeds limit (unpackFromPrior crates dids m.fromPrior) (s, n) ↔ TriesPrior crates dids m ∧ limit < n + 1 := by
  cases hSome : m.fromPrior with
  | none =>
    refine iff_of_false (Nat.not_lt.mpr hn) ?_
    rintro ⟨⟨-, jwt, _, _, _, _, _, hJwt, -⟩, -⟩
    cases hSome.symm.trans hJwt
  | some jwt =>
    have hJwt : Exceeds limit (unpackFromPrior crates dids (some jwt)) (s, n) ↔ _ :=
      (exceeds_bind_idle_iff fun _ => .unmetered _).trans (fromPrior_exceeds_iff jwt hn)
    rw [hJwt]
    constructor
    · rintro ⟨parsed, hParsed, hJwtTyp, method, hMethod, jwk, hJwk, signed, hSigned, key, hKey, hOver⟩
      exact ⟨⟨hTyp, jwt, parsed, method, jwk, signed, key, hSome, hParsed, hJwtTyp, hMethod, hJwk, hSigned, hKey⟩,
        hOver⟩
    · rintro ⟨⟨-, jwt', parsed, method, jwk, signed, key, hSame, hParsed, hJwtTyp, hMethod, hJwk, hSigned, hKey⟩, hOver⟩
      cases hSome.symm.trans hSame
      exact ⟨parsed, hParsed, hJwtTyp, method, hMethod, jwk, hJwk, signed, hSigned, key, hKey, hOver⟩

theorem tryUnpackPlaintext_exceeds_iff (parsed : ParsedEnvelope) (hn : n ≤ limit) :
    Exceeds limit (tryUnpackPlaintext crates dids parsed) (s, n) ↔
      ∃ m, parsed = .message m ∧ TriesPrior crates dids m ∧ limit < n + 1 := by
  cases parsed with
  | jwe jwe =>
    refine iff_of_false (Nat.not_lt.mpr hn) ?_
    rintro ⟨m, ⟨⟩, -⟩
  | jws jws =>
    refine iff_of_false (Nat.not_lt.mpr hn) ?_
    rintro ⟨m, ⟨⟩, -⟩
  | message m =>
    have hPrior (m : Message) : Exceeds limit (do
        unpackFromPrior crates dids m.fromPrior
        return some m : Counted.Unpack crates (Option Message)) (s, n) ↔
          Exceeds limit (unpackFromPrior crates dids m.fromPrior) (s, n) :=
      exceeds_bind_idle_iff fun _ => .pure _
    simp only [tryUnpackPlaintext, exceeds_lift_bind_iff, hn, validate_ok_iff, hPrior, ParsedEnvelope.message.injEq,
      exists_eq_left']
    constructor
    · rintro ⟨_, ⟨hTyp, rfl⟩, hOver⟩
      exact (unpackFromPrior_exceeds_iff _ hTyp hn).mp hOver
    · rintro ⟨hTries, hOver⟩
      exact ⟨m, ⟨hTries.1, rfl⟩, (unpackFromPrior_exceeds_iff m hTries.1 hn).mpr ⟨hTries, hOver⟩⟩

variable (secrets opts) in
theorem unpackDecrypted_exceeds_iff (parsed : ParsedEnvelope) (hn : n ≤ limit) :
    Exceeds limit (unpackDecrypted crates dids parsed) (s, n) ↔ TriesSign crates dids parsed ∧ limit < n + 1 ∨
      ∃ signature m, Attests crates dids secrets opts parsed signature (.message m) ∧ TriesPrior crates dids m ∧
        limit < n + opCount signature + 1 := by
  have hPlain (signed : Option ParsedEnvelope) (s : UnpackState crates) {n : Nat} (hn : n ≤ limit) : Exceeds limit (do
      let msg ← tryUnpackPlaintext crates dids (signed.getD parsed)
      let msg ← okOr msg (errMsg .malformed "Message is not a valid JWE, JWS or JWM")
      let s ← unmetered (get : Didcomm.Unpack crates (UnpackState crates))
      return (msg, s.envelope.metadata) : Counted.Unpack crates (Message × UnpackMetadata)) (s, n) ↔ _ :=
    (exceeds_bind_idle_iff fun _ => .bind (.lift _) fun _ => .bind (.unmetered _) fun _ => .pure _).trans
      (tryUnpackPlaintext_exceeds_iff (signed.getD parsed) hn)
  rw [unpackDecrypted, exceeds_bind_iff, tryUnpackSign_exceeds_iff parsed hn]
  swap
  · refine fun signed => (meters_tryUnpackPlaintext crates dids _).grows.bind fun msg => Idle.grows ?_
    exact .bind (.lift _) fun _ => .bind (.unmetered _) fun _ => .pure _
  constructor
  · rintro (hSign | ⟨signed, ⟨s', n'⟩, hRun, hWithin, hOver⟩)
    · exact .inl hSign
    · obtain ⟨hRun, hCount⟩ := (tryUnpackSign_run_ok_iff _ _ _).mp hRun
      obtain ⟨m, hMessage, hPrior, hOver⟩ := (hPlain signed s' hWithin).mp hOver
      rcases (tryUnpackSign_ok_iff secrets opts parsed _ _ _).mp hRun with
        ⟨hJws, rfl, rfl⟩ | ⟨hJws, layer, inner, hOpens, rfl, rfl⟩
      · obtain rfl : parsed = .message m := hMessage
        exact .inr ⟨[], m, .none hJws, hPrior, by rw [opCount_nil]; omega⟩
      · obtain rfl : inner = .message m := hMessage
        rw [length_opened_ops] at hCount
        exact .inr ⟨[layer], m, .signed hJws hOpens, hPrior, by omega⟩
  · rintro (hSign | ⟨signature, m, hAttests, hPrior, hOver⟩)
    · exact .inl hSign
    · cases hAttests with
      | none hJws =>
        have hRun : tryUnpackSign crates dids (.message m) (s, n) = .ok none (s, n) := rfl
        exact .inr ⟨none, _, hRun, hn, (hPlain none s hn).mpr ⟨m, rfl, hPrior, hOver⟩⟩
      | @signed _ layer hJws hOpens =>
        have hRun : tryUnpackSign crates dids parsed (s, n) =
            .ok (some (.message m)) (s.opened [layer], n + opCount [layer]) := by
          refine (tryUnpackSign_run_ok_iff _ _ _).mpr ⟨?_, ?_⟩
          · exact (tryUnpackSign_ok_iff secrets opts parsed _ _ _).mpr (.inr ⟨hJws, layer, _, hOpens, rfl, rfl⟩)
          · rw [length_opened_ops]
            omega
        rcases Nat.lt_or_ge limit (n + opCount [layer]) with hBefore | hWithin
        · exact .inl ((tryUnpackSign_exceeds_iff parsed hn).mp (exceeds_of_ok hRun hBefore))
        · exact .inr ⟨_, _, hRun, hWithin, (hPlain _ _ hWithin).mpr ⟨m, rfl, hPrior, hOver⟩⟩

/-! ## The whole of it -/

theorem unpackLoop_run_ok_iff (left : Nat) (parsed last : ParsedEnvelope) (rounds : Nat)
    (t : UnpackState crates × Nat) :
    unpackLoop crates dids secrets opts left 0 parsed (s, n) = .ok (last, rounds) t ↔
      ∃ outside, Peels crates dids secrets opts parsed outside last rounds ∧ rounds ≤ left ∧
        t = (s.opened outside, n + opCount outside) := by
  rw [(spends_unpackLoop crates dids secrets opts left 0 parsed).run_ok_iff
    (meters_unpackLoop crates dids secrets opts left 0 parsed), unpackLoop_ok_iff]
  obtain ⟨s', n'⟩ := t
  simp only [Nat.zero_add, recorded, Prod.mk.injEq]
  constructor
  · rintro ⟨⟨outside, _, hPeels, hLeft, rfl, rfl⟩, hCount⟩
    rw [length_opened_ops] at hCount
    exact ⟨outside, hPeels, hLeft, rfl, by omega⟩
  · rintro ⟨outside, hPeels, hLeft, rfl, rfl⟩
    rw [length_opened_ops]
    exact ⟨⟨outside, rounds, hPeels, hLeft, rfl, rfl⟩, by omega⟩

/-- Where the sender is found, its layer adds its keys to the count. -/
theorem tryUnpackAuthcrypt_opened_iff {outside : List (Layer crates)} {peeled : ParsedEnvelope} {rounds : Nat}
    (hFinds : FindsSender dids secrets opts rounds peeled (s.opened outside)) (opened : ParsedEnvelope) (n : Nat) :
    (∃ result s', tryUnpackAuthcrypt crates dids secrets opts rounds peeled (s.opened outside, opCount outside) =
      .ok result (s', n) ∧ result.getD peeled = opened) ↔
    ∃ sender, Authenticates crates dids secrets opts rounds peeled sender opened ∧ n = opCount (outside ++ sender) := by
  have hRuns (result : Option ParsedEnvelope) (s' : UnpackState crates) :
      tryUnpackAuthcrypt crates dids secrets opts rounds peeled (s.opened outside, opCount outside) =
        .ok result (s', n) ↔ _ :=
    (spends_tryUnpackAuthcrypt crates dids secrets opts rounds peeled).run_ok_iff
      (meters_tryUnpackAuthcrypt crates dids secrets opts rounds peeled) (s.opened outside) (opCount outside) result
        (s', n)
  simp only [hRuns, recorded, opCount_append]
  constructor
  · rintro ⟨result, s', ⟨hRun, hCount⟩, hOpened⟩
    obtain ⟨sender, hAuthenticates, -, hOps⟩ := (hFinds _ _ _).mp ⟨result, s', hRun, hOpened, rfl, rfl⟩
    refine ⟨sender, hAuthenticates, ?_⟩
    rw [hOps, List.length_append] at hCount
    change n = _ + (sender.flatMap Layer.ops).length
    omega
  · rintro ⟨sender, hAuthenticates, rfl⟩
    obtain ⟨result, s', hRun, hOpened, -, hOps⟩ := (hFinds _ _ _).mpr ⟨sender, hAuthenticates, rfl, rfl⟩
    refine ⟨result, s', ⟨hRun, ?_⟩, hOpened⟩
    rw [hOps, List.length_append]
    change _ + (sender.flatMap Layer.ops).length + _ = _
    omega

/-- Unpacking, where the sender is found whatever the anonymous layers are. -/
theorem unpack_exceeds_iff {outer : ParsedEnvelope} (hOuter : s.envelope.parsedEnvelope = some outer)
    (hSender : ∀ outside peeled rounds, Peels crates dids secrets opts outer outside peeled rounds →
      FindsSender dids secrets opts rounds peeled (s.opened outside) ∧
        ∀ n ≤ opts.cryptoOperationsLimitPerMessage,
          (Exceeds opts.cryptoOperationsLimitPerMessage (tryUnpackAuthcrypt crates dids secrets opts rounds peeled)
            (s.opened outside, n) ↔
              ∃ k, TriesAuth crates dids secrets opts rounds peeled k ∧ opts.cryptoOperationsLimitPerMessage < n + k)) :
    Exceeds opts.cryptoOperationsLimitPerMessage (unpack crates dids secrets opts) (s, 0) ↔
      OverrunsInside crates dids secrets opts outer := by
  have hZero : (s, 0).2 ≤ opts.cryptoOperationsLimitPerMessage := Nat.zero_le _
  have hRest (authcrypted : Option ParsedEnvelope) (looped : ParsedEnvelope × Nat) :
      Grows (unpackDecrypted crates dids (authcrypted.getD looped.1)) := (meters_unpackDecrypted crates dids _).grows
  have hGrows (looped : ParsedEnvelope × Nat) : Grows (tryUnpackAuthcrypt crates dids secrets opts looped.2 looped.1 >>=
      fun authcrypted => unpackDecrypted crates dids (authcrypted.getD looped.1)) :=
    (meters_tryUnpackAuthcrypt crates dids secrets opts looped.2 looped.1).grows.bind (hRest · looped)
  rw [unpack, exceeds_get_bind_iff, exceeds_lift_bind_iff hZero]
  simp only [hOuter, okOr_ok_iff, Option.some.injEq, exists_eq_left']
  constructor
  · rw [exceeds_bind_iff hGrows, unpackLoop_exceeds_iff _ 0 outer hZero]
    rintro (⟨outside, last, rounds, k, hFollows, hLeft, hTries, hOver⟩ | ⟨⟨peeled, rounds⟩, t, hRun, hWithin, hOver⟩)
    · exact .anon hFollows (by omega) hTries (by omega)
    · obtain ⟨outside, hPeels, hLeft, rfl⟩ := (unpackLoop_run_ok_iff _ _ _ _ _).mp hRun
      have hPos := hPeels.rounds_pos
      rw [Nat.zero_add] at hWithin hOver
      obtain ⟨hFinds, hAuth⟩ := hSender outside peeled rounds hPeels
      rw [exceeds_bind_iff fun authcrypted => hRest authcrypted (peeled, rounds), hAuth _ hWithin] at hOver
      rcases hOver with ⟨k, hTries, hOver⟩ | ⟨authcrypted, ⟨s', n'⟩, hRun, hWithin', hOver⟩
      · exact .auth hPeels hTries hOver
      · obtain ⟨sender, hAuthenticates, rfl⟩ :=
          (tryUnpackAuthcrypt_opened_iff hFinds _ n').mp ⟨authcrypted, s', hRun, rfl⟩
        rcases (unpackDecrypted_exceeds_iff secrets opts _ hWithin').mp hOver with
          ⟨hSign, hOver⟩ | ⟨signature, m, hAttests, hPrior, hOver⟩
        · exact .sign hPeels (by omega) hAuthenticates hSign hOver
        · rw [← opCount_append] at hOver
          exact .prior hPeels (by omega) hAuthenticates hAttests hPrior hOver
  · have hLooped {outside : List (Layer crates)} {peeled : ParsedEnvelope} {rounds : Nat}
        (hPeels : Peels crates dids secrets opts outer outside peeled rounds)
        (hRound : rounds < opts.cryptoOperationsLimitPerMessage) :
        unpackLoop crates dids secrets opts (opts.cryptoOperationsLimitPerMessage - 1) 0 outer (s, 0) =
          .ok (peeled, rounds) (s.opened outside, opCount outside) :=
      (unpackLoop_run_ok_iff _ _ _ _ _).mpr ⟨outside, hPeels, by omega, by rw [Nat.zero_add]⟩
    have hOpened {outside sender : List (Layer crates)} {peeled opened : ParsedEnvelope} {rounds : Nat}
        (hPeels : Peels crates dids secrets opts outer outside peeled rounds)
        (hAuth : Authenticates crates dids secrets opts rounds peeled sender opened) :=
      (tryUnpackAuthcrypt_opened_iff (hSender outside peeled rounds hPeels).1 opened _).mpr ⟨sender, hAuth, rfl⟩
    rintro (⟨hFollows, hRound, hTries, hOver⟩ | ⟨hPeels, hTries, hOver⟩ | ⟨hPeels, hRound, hAuth, hSign, hOver⟩ |
      ⟨hPeels, hRound, hAuth, hAttests, hPrior, hOver⟩)
    · refine (exceeds_bind_iff hGrows).mpr (.inl ((unpackLoop_exceeds_iff _ 0 outer hZero).mpr ?_))
      exact ⟨_, _, _, _, hFollows, by omega, hTries, by omega⟩
    · have hRound := hTries.within
      refine exceeds_bind_of_ok hGrows (hLooped hPeels (by omega)) fun hWithin => ?_
      refine (exceeds_bind_iff (hRest · _)).mpr (.inl ?_)
      exact ((hSender _ _ _ hPeels).2 _ hWithin).mpr ⟨_, hTries, hOver⟩
    · obtain ⟨result, s', hRun, rfl⟩ := hOpened hPeels hAuth
      refine exceeds_bind_of_ok hGrows (hLooped hPeels hRound) fun _ => ?_
      refine exceeds_bind_of_ok (hRest · _) hRun fun hWithin => ?_
      exact (unpackDecrypted_exceeds_iff secrets opts _ hWithin).mpr (.inl ⟨hSign, hOver⟩)
    · obtain ⟨result, s', hRun, rfl⟩ := hOpened hPeels hAuth
      refine exceeds_bind_of_ok hGrows (hLooped hPeels hRound) fun _ => ?_
      refine exceeds_bind_of_ok (hRest · _) hRun fun hWithin => ?_
      rw [opCount_append] at hOver
      exact (unpackDecrypted_exceeds_iff secrets opts _ hWithin).mpr (.inr ⟨_, _, hAttests, hPrior, hOver⟩)

end Counted

section
variable {opts : UnpackOptions} {text : String} {s : UnpackState crates}

theorem new_ok_iff (u : Unit) : MetaEnvelope.new crates dids secrets text (.fresh crates) = .ok u s ↔
    ∃ envelope outer, Envelope.fromStr crates text = .ok envelope ∧ parseEnvelope crates text = .ok outer ∧
      outer.fill crates dids secrets ⟨{ envelope := some envelope, parsedEnvelope := some outer }, []⟩ = .ok u s := by
  simp only [MetaEnvelope.new, lift_bind_ok_iff, Unpack.modifyEnvelope_bind, parseEnvelope, except_bind_ok_iff]
  constructor
  · rintro ⟨envelope, hEnvelope, parsed, hParsed, outer, hOuter, hFill⟩
    exact ⟨envelope, outer, hEnvelope, ⟨envelope, hEnvelope, parsed, hParsed, hOuter⟩, hFill⟩
  · rintro ⟨envelope, outer, hEnvelope, ⟨envelope', hEnvelope', parsed, hParsed, hOuter⟩, hFill⟩
    cases hEnvelope.symm.trans hEnvelope'
    exact ⟨envelope, hEnvelope, parsed, hParsed, outer, hOuter, hFill⟩

theorem unpack_exceeds_new_iff (hNew : MetaEnvelope.new crates dids secrets text (.fresh crates) = .ok () s) :
    Exceeds opts.cryptoOperationsLimitPerMessage (Counted.unpack crates dids secrets opts) (s, 0) ↔
      Overruns crates dids secrets opts text := by
  obtain ⟨envelope, outer, -, hOuter, hFill⟩ := (new_ok_iff ()).mp hNew
  have hText : Overruns crates dids secrets opts text ↔ OverrunsInside crates dids secrets opts outer := by
    simp only [Overruns, hOuter, Except.ok.injEq, exists_eq_left']
  rw [hText]
  have hUnknown {s : UnpackState crates} (hKid : s.envelope.fromKid = none) (hKey : s.envelope.fromKey = none)
      (hParsed : s.envelope.parsedEnvelope = some outer) :
      Exceeds opts.cryptoOperationsLimitPerMessage (Counted.unpack crates dids secrets opts) (s, 0) ↔
        OverrunsInside crates dids secrets opts outer :=
    Counted.unpack_exceeds_iff hParsed fun outside peeled rounds _ => ⟨findsSender_of_unknown opts _ _ hKid hKey,
      fun n hn => Counted.tryUnpackAuthcrypt_unknown_exceeds_iff rounds peeled hKid hKey hn⟩
  cases outer with
  | jws jws =>
    cases hFill
    exact hUnknown rfl rfl rfl
  | message m =>
    cases hFill
    exact hUnknown rfl rfl rfl
  | jwe jwe =>
    rw [ParsedEnvelope.fill] at hFill
    cases hApu : jwe.apu with
    | none =>
      obtain ⟨toKid, found, -, -, -, -, rfl⟩ := (fillEnvelopeFrom_anonymous_ok_iff jwe hApu _ s ()).mp hFill
      exact hUnknown rfl rfl rfl
    | some apu =>
      obtain ⟨kid, key, found, hUtf8, hSender, hRecipients, doc, toKid, rfl, -⟩ :=
        (fillEnvelopeFrom_ok_iff jwe hApu _ s ()).mp hFill
      refine Counted.unpack_exceeds_iff rfl fun outside peeled rounds hPeels =>
        ⟨findsSender_of_sent opts doc toKid hApu hUtf8 hSender hRecipients _ hPeels, fun n hn => ?_⟩
      cases hPeels with
      | stop _ =>
        rw [UnpackState.opened_nil]
        exact Counted.tryUnpackAuthcrypt_known_exceeds_iff 1 hApu hUtf8 hSender hRecipients _ hn
      | anoncrypted hAlg hOpens _ => cases hApu.symm.trans (hOpens.apu_of_anonymous hAlg)
      | forwarded hAlg hOpens _ _ _ => cases hApu.symm.trans (hOpens.apu_of_anonymous hAlg)

end

end AffinidiMessaging.Didcomm
