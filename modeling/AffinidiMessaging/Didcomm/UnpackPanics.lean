import AffinidiMessaging.Didcomm.IdealKeys
import AffinidiMessaging.Didcomm.SafeCalls

/-! # The texts that make unpacking panic

A layer gives up where it names a verification method of type `JsonWebKey2020` without a JWK, where a secret that is
tried for it is too short, or where it is to be authenticated and no sender is named.
-/

namespace AffinidiMessaging.Didcomm

open Fallible Serde

variable (crates : Crates) (dids : DidResolver) (secrets : SecretsResolver)

/-- The method that a sender's kid names. -/
def SenderMethod (kid : String) (method : VerificationMethod) : Prop :=
  (didOrUrl kid).2.isSome ∧ ∃ doc, dids.resolve (didOrUrl kid).1 = .ok doc ∧
    crates.containsKeyAgreement doc kid ∧ crates.getVerificationMethod doc kid = some method

/-- The method that a signer's kid names. -/
def SignerMethod (kid : String) (method : VerificationMethod) : Prop :=
  (didOrUrl kid).2.isSome ∧ ∃ doc, dids.resolve (didOrUrl kid).1 = .ok doc ∧
    crates.containsAuthentication doc kid ∧
    doc.verificationMethod.find? (fun method => method.id == kid) = some method

/-- The sender that `apu` names has a method that says it has a JWK and has none. -/
def BadSender (jwe : ParsedJWE) : Prop :=
  ∃ apu kid method, jwe.apu = some apu ∧ String.fromUTF8? apu = some kid ∧
    SenderMethod crates dids kid method ∧ ¬ method.JwkOk crates

/-- Out of a list of kids a bad one is tried, after some that open the layer. -/
inductive TriesBad (opens bad : String → Prop) : Bool → List String → Nat → Prop
  | here {all : Bool} {kid : String} {rest : List String} (h : bad kid) : TriesBad opens bad all (kid :: rest) 1
  | later {kid : String} {rest : List String} {n : Nat} (h : opens kid) (hRest : TriesBad opens bad true rest n) :
    TriesBad opens bad true (kid :: rest) (n + 1)

/-- Unwraps in anonymous layers, down to an envelope inside. -/
inductive Unwraps (opts : UnpackOptions) : ParsedEnvelope → ParsedEnvelope → Nat → Prop
  | here {parsed : ParsedEnvelope} : Unwraps opts parsed parsed 0
  | forwarded {parsed inner next last : ParsedEnvelope} {layer : Layer crates} {text : String} {rounds : Nat}
    (hAlg : parsed.hasAlg .ecdhEsA256kw) (h : OpensLayer crates dids secrets opts parsed layer inner)
    (hForward : unwrapForwarded crates dids secrets opts (some inner) = .ok (some text))
    (hNext : parseEnvelope crates text = .ok next) (hRest : Unwraps opts next last rounds) :
    Unwraps opts parsed last (rounds + 1)

/-- An anonymous layer for a bad secret. -/
def BreaksAnon (opts : UnpackOptions) (jwe : ParsedJWE) : Prop :=
  jwe.protected_.alg = .ecdhEsA256kw ∧ ∃ found n, Recipients secrets jwe found ∧
    TriesBad (fun kid => ∃ alg payload, OpensAnon crates secrets jwe alg kid payload) (BadSecret crates secrets)
      opts.expectDecryptByAllKeys found n

/-- The first of the own kids that the outermost envelope is for. -/
def FirstFound (outer : ParsedEnvelope) (kid : String) : Prop :=
  ∃ jwe rest, outer = .jwe jwe ∧ Recipients secrets jwe (kid :: rest)

/-- A layer to authenticate, with a bad sender, without a sender, or for a bad secret. -/
inductive BreaksAuth (opts : UnpackOptions) (outer : ParsedEnvelope) (count : Nat) : ParsedEnvelope → Prop
  | sender {jwe : ParsedJWE} (hAlg : jwe.protected_.alg = .ecdh1puA256kw) (h : BadSender crates dids jwe) :
    BreaksAuth opts outer count (.jwe jwe)
  | unnamed {jwe : ParsedJWE} {kid : String} {key : KnownKeyPair crates}
    (hAlg : jwe.protected_.alg = .ecdh1puA256kw) (hApu : jwe.apu = none) (hFirst : FirstFound secrets outer kid)
    (hCount : count + 1 < opts.cryptoOperationsLimitPerMessage) (hKey : recipientKey crates secrets kid = .ok key) :
    BreaksAuth opts outer count (.jwe jwe)
  | unnamedSecret {jwe : ParsedJWE} {kid : String}
    (hAlg : jwe.protected_.alg = .ecdh1puA256kw) (hApu : jwe.apu = none) (hFirst : FirstFound secrets outer kid)
    (hCount : count + 1 < opts.cryptoOperationsLimitPerMessage) (hSecret : BadSecret crates secrets kid) :
    BreaksAuth opts outer count (.jwe jwe)
  | secret {jwe : ParsedJWE} {apu : ByteArray} {kid : String} {key : KnownKeyPair crates} {found : List String}
    {n : Nat} (hAlg : jwe.protected_.alg = .ecdh1puA256kw) (hApu : jwe.apu = some apu)
    (hKid : String.fromUTF8? apu = some kid) (hSender : SenderKey crates dids kid key)
    (hRecipients : Recipients secrets jwe found)
    (hTries : TriesBad (fun toKid => ∃ alg payload, OpensAuth crates secrets jwe (kid, key) alg toKid payload)
      (BadSecret crates secrets) opts.expectDecryptByAllKeys found n)
    (hCount : count + n < opts.cryptoOperationsLimitPerMessage) : BreaksAuth opts outer count (.jwe jwe)

/-- A method without its JWK behind a signature. -/
def BreaksSign : ParsedEnvelope → Prop
  | .jws jws => ∃ header signature method, jws.protected_ = [header] ∧ jws.jws.signatures.head? = some signature ∧
    SignerMethod crates dids signature.kid method ∧ ¬ method.JwkOk crates
  | _ => False

/-- A method without its JWK behind `from_prior`. -/
def BreaksPrior (m : Message) : Prop :=
  m.typ = plaintextTyp ∧ ∃ jwt parsed method, m.fromPrior = some jwt ∧ parseCompact crates jwt = .ok parsed ∧
    parsed.parsedHeader.typ = "JWT" ∧ FromPrior.issuerMethod dids parsed.parsedHeader.kid = .ok method ∧
    ¬ method.JwkOk crates

/-- A sender that can be found, and own secrets. -/
def Addressed : ParsedEnvelope → Prop
  | .jwe jwe =>
    (∀ apu, jwe.apu = some apu → ∃ kid key, String.fromUTF8? apu = some kid ∧ SenderKey crates dids kid key) ∧
      ∃ found, Recipients secrets jwe found
  | _ => True

/-- Some layer that is reached gives up. -/
inductive BreaksInside (opts : UnpackOptions) (outer : ParsedEnvelope) : Prop
  | anon {jwe : ParsedJWE} {rounds : Nat} (hUnwraps : Unwraps crates dids secrets opts outer (.jwe jwe) rounds)
    (hLimit : rounds + 1 < opts.cryptoOperationsLimitPerMessage) (h : BreaksAnon crates secrets opts jwe)
  | auth {outside : List (Layer crates)} {peeled : ParsedEnvelope} {rounds : Nat}
    (hPeels : Peels crates dids secrets opts outer outside peeled rounds)
    (hLimit : rounds < opts.cryptoOperationsLimitPerMessage)
    (h : BreaksAuth crates dids secrets opts outer rounds peeled)
  | sign {outside sender : List (Layer crates)} {peeled opened : ParsedEnvelope} {rounds : Nat}
    (hPeels : Peels crates dids secrets opts outer outside peeled rounds)
    (hLimit : rounds < opts.cryptoOperationsLimitPerMessage)
    (hAuth : Authenticates crates dids secrets opts rounds peeled sender opened) (h : BreaksSign crates dids opened)
  | prior {outside sender signature : List (Layer crates)} {peeled opened : ParsedEnvelope} {m : Message} {rounds : Nat}
    (hPeels : Peels crates dids secrets opts outer outside peeled rounds)
    (hLimit : rounds < opts.cryptoOperationsLimitPerMessage)
    (hAuth : Authenticates crates dids secrets opts rounds peeled sender opened)
    (hSign : Attests crates dids secrets opts opened signature (.message m)) (h : BreaksPrior crates dids m)

/-- The outermost sender, or some layer that is reached, gives up. -/
def Breaks (opts : UnpackOptions) (text : String) : Prop :=
  ∃ outer, parseEnvelope crates text = .ok outer ∧ ((∃ jwe, outer = .jwe jwe ∧ BadSender crates dids jwe) ∨
    Addressed crates dids secrets outer ∧ BreaksInside crates dids secrets opts outer)

variable {crates dids secrets}

/-! ## Runs that end in a panic -/

namespace Unpack

variable {α β : Type} {s : UnpackState crates}

def Panics (x : Unpack crates α) (s : UnpackState crates) : Prop := ∃ p s', x s = .error (.panic p) s'

theorem panics_bind_iff {x : Unpack crates α} {f : α → Unpack crates β} :
    Panics (x >>= f) s ↔ Panics x s ∨ ∃ a s', x s = .ok a s' ∧ Panics (f a) s' := by
  simp only [Panics, bind_error_iff]
  constructor
  · rintro ⟨p, s'', hRun | ⟨a, s', hRun, hRest⟩⟩
    · exact .inl ⟨p, s'', hRun⟩
    · exact .inr ⟨a, s', hRun, p, s'', hRest⟩
  · rintro (⟨p, s'', hRun⟩ | ⟨a, s', hRun, p, s'', hRest⟩)
    · exact ⟨p, s'', .inl hRun⟩
    · exact ⟨p, s'', .inr ⟨a, s', hRun, hRest⟩⟩

@[simp] theorem not_panics_pure (a : α) : ¬ Panics (pure a : Unpack crates α) s := by
  rintro ⟨p, s', ⟨⟩⟩

@[simp] theorem not_panics_get : ¬ Panics (get : Unpack crates (UnpackState crates)) s := by
  rintro ⟨p, s', ⟨⟩⟩

@[simp] theorem not_panics_errMsg (kind : ErrorKind) (msg : String) :
    ¬ Panics (throw (errMsg kind msg) : Unpack crates α) s := by
  rintro ⟨p, s', ⟨⟩⟩

@[simp] theorem panics_lift_iff (r : Result α) : Panics (liftM r : Unpack crates α) s ↔ ¬ r.Safe := by
  simp only [Panics, lift_error_iff, Result.Safe, not_forall, not_not]
  constructor
  · rintro ⟨p, s', hPanic, -⟩
    exact ⟨p, hPanic⟩
  · rintro ⟨p, hPanic⟩
    exact ⟨p, s, hPanic, rfl⟩

theorem panics_lift_bind_iff {r : Result α} {f : α → Unpack crates β} :
    Panics ((liftM r : Unpack crates α) >>= f) s ↔ ¬ r.Safe ∨ ∃ a, r = .ok a ∧ Panics (f a) s := by
  rw [panics_bind_iff, panics_lift_iff]
  refine or_congr_right ⟨?_, ?_⟩
  · rintro ⟨a, s', hRun, hRest⟩
    obtain ⟨hOk, rfl⟩ := (lift_ok_iff _ _ _ _).mp hRun
    exact ⟨a, hOk, hRest⟩
  · rintro ⟨a, hOk, hRest⟩
    exact ⟨a, s, (lift_ok_iff _ _ _ _).mpr ⟨hOk, rfl⟩, hRest⟩

/-- A call without a panic is as good as its value. -/
theorem panics_safe_bind_iff {r : Result α} {f : α → Unpack crates β} (h : r.Safe) :
    Panics ((liftM r : Unpack crates α) >>= f) s ↔ ∃ a, r = .ok a ∧ Panics (f a) s := by
  rw [panics_lift_bind_iff, or_iff_right (not_not_intro h)]

theorem panics_ensure_bind_iff {c : Bool} {kind : ErrorKind} {msg : String} {f : Unit → Unpack crates β} :
    Panics ((ensure c (errMsg kind msg) : Unpack crates Unit) >>= f) s ↔ c = true ∧ Panics (f ()) s := by
  cases c
  · refine iff_of_false ?_ fun h => Bool.false_ne_true h.1
    rintro ⟨p, s', ⟨⟩⟩
  · exact ⟨fun h => ⟨rfl, h⟩, fun h => h.2⟩

theorem panics_modifyEnvelope_bind_iff {g : MetaEnvelope crates → MetaEnvelope crates} {f : Unit → Unpack crates β} :
    Panics (modifyEnvelope g >>= f) s ↔ Panics (f ()) { s with envelope := g s.envelope } := Iff.rfl

theorem panics_modifyMetadata_bind_iff {g : UnpackMetadata → UnpackMetadata} {f : Unit → Unpack crates β} :
    Panics (modifyMetadata g >>= f) s ↔ Panics (f ()) (s.noted g []) := by
  simp only [Panics, modifyMetadata_bind]

theorem panics_record_bind_iff {op : CryptoOp crates} {f : Unit → Unpack crates β} :
    Panics (record op >>= f) s ↔ Panics (f ()) (s.noted id [op]) := Iff.rfl

theorem panics_get_bind_iff {f : UnpackState crates → Unpack crates β} :
    Panics (get >>= f) s ↔ Panics (f s) s := Iff.rfl

@[simp] theorem not_panics_modifyMetadata (g : UnpackMetadata → UnpackMetadata) :
    ¬ Panics (modifyMetadata g : Unpack crates Unit) s := by
  rintro ⟨p, s', hRun⟩
  rw [modifyMetadata_run] at hRun
  cases hRun

theorem panics_map_iff {x : Unpack crates α} {f : α → β} : Panics (f <$> x) s ↔ Panics x s := by
  rw [map_eq_pure_bind, panics_bind_iff]
  exact or_iff_left fun ⟨_, _, _, h⟩ => not_panics_pure _ h

end Unpack

open Unpack

variable {opts : UnpackOptions} {s : UnpackState crates}

theorem fillSender_panics_iff (apu : ByteArray) : Panics (ParsedJWE.fillSender crates dids apu) s ↔
    ∃ kid method, String.fromUTF8? apu = some kid ∧ SenderMethod crates dids kid method ∧ ¬ method.JwkOk crates := by
  have hResolved (did : String) : (dids.resolved (errMsg .didNotResolved) did).Safe :=
    safe_resolved _ (fun e => ⟨_, rfl⟩) did
  simp only [ParsedJWE.fillSender, panics_safe_bind_iff (safe_utf8 _ _), panics_ensure_bind_iff,
    panics_modifyEnvelope_bind_iff, panics_safe_bind_iff (hResolved _), panics_safe_bind_iff (Result.safe_okOr _ _ _),
    panics_lift_bind_iff, VerificationMethod.safe_senderKey_iff, not_panics_modifyMetadata, utf8_ok_iff,
    resolved_ok_iff, okOr_ok_iff, SenderMethod, and_false, exists_false, or_false]
  constructor
  · rintro ⟨kid, hKid, hUrl, doc, hDoc, hContains, method, hMethod, hBad⟩
    exact ⟨kid, method, hKid, ⟨hUrl, doc, hDoc, hContains, hMethod⟩, hBad⟩
  · rintro ⟨kid, method, hKid, ⟨hUrl, doc, hDoc, hContains, hMethod⟩, hBad⟩
    exact ⟨kid, hKid, hUrl, doc, hDoc, hContains, method, hMethod, hBad⟩

theorem not_panics_fillRecipients (jwe : ParsedJWE) : ¬ Panics (jwe.fillRecipients crates secrets) s := by
  simp only [ParsedJWE.fillRecipients, firstKid, ensureOneDid, ensureFound,
    panics_safe_bind_iff (Result.safe_okOr _ _ _),
    panics_modifyEnvelope_bind_iff, panics_safe_bind_iff (Result.safe_ensure _ _ _), panics_modifyMetadata_bind_iff,
    panics_safe_bind_iff (Result.safe_ofError _), panics_lift_iff, Result.safe_ensure, not_true_eq_false, and_false,
    exists_false, not_false_eq_true]

theorem fillEnvelopeFrom_panics_iff (jwe : ParsedJWE) :
    Panics (jwe.fillEnvelopeFrom crates dids secrets) s ↔ BadSender crates dids jwe := by
  have hRecipients : ¬ ∃ u s', ParsedJWE.fillFrom crates dids jwe s = .ok u s' ∧
      Panics (jwe.fillRecipients crates secrets) s' :=
    fun ⟨_, _, _, h⟩ => not_panics_fillRecipients jwe h
  rw [ParsedJWE.fillEnvelopeFrom, panics_bind_iff, or_iff_left hRecipients, ParsedJWE.fillFrom]
  unfold BadSender
  cases jwe.apu with
  | none => simp only [not_panics_modifyMetadata, reduceCtorEq, false_and, exists_false]
  | some apu =>
    rw [fillSender_panics_iff]
    constructor
    · rintro ⟨kid, method, h⟩
      exact ⟨apu, kid, method, rfl, h⟩
    · rintro ⟨apu', kid, method, ⟨⟩, h⟩
      exact ⟨kid, method, h⟩

theorem not_triesBad_nil {opens bad : String → Prop} {all : Bool} {n : Nat} : ¬ TriesBad opens bad all [] n := by
  rintro ⟨⟩

theorem triesBad_cons_iff {opens bad : String → Prop} {all : Bool} {kid : String} {rest : List String} {n : Nat} :
    TriesBad opens bad all (kid :: rest) n ↔ (bad kid ∧ n = 1) ∨
      ∃ m, all = true ∧ opens kid ∧ TriesBad opens bad all rest m ∧ n = m + 1 := by
  constructor
  · rintro (hBad | ⟨hOpens, hRest⟩)
    · exact .inl ⟨hBad, rfl⟩
    · exact .inr ⟨_, rfl, hOpens, hRest, rfl⟩
  · rintro (⟨hBad, rfl⟩ | ⟨m, rfl, hOpens, hRest, rfl⟩)
    · exact .here hBad
    · exact .later hOpens hRest

theorem anonDecrypt_panics_iff (hVarints : Varints crates) (jwe : ParsedJWE) (toKid : String) :
    Panics (anonDecrypt crates secrets jwe toKid) s ↔ BadSecret crates secrets toKid := by
  simp only [anonDecrypt, panics_lift_bind_iff, safe_recipientKey_iff hVarints, not_not, Result.safe_okOr, okOr_ok_iff,
    panics_modifyMetadata_bind_iff, ParsedJWE.safe_decrypt, panics_record_bind_iff, not_panics_pure, and_false,
    exists_false, or_false, not_true_eq_false]

theorem anonPayload_panics_iff (hVarints : Varints crates) (jwe : ParsedJWE) (found : List String)
    (before : Option ByteArray) :
    Panics (anonPayload crates secrets opts jwe before found) s ↔
      ∃ n, TriesBad (fun kid => ∃ alg payload, OpensAnon crates secrets jwe alg kid payload) (BadSecret crates secrets)
        opts.expectDecryptByAllKeys found n := by
  induction found generalizing before s with
  | nil =>
    exact iff_of_false (not_panics_pure before) fun ⟨n, h⟩ => not_triesBad_nil h
  | cons toKid rest ih =>
    rw [anonPayload, panics_bind_iff, anonDecrypt_panics_iff hVarints]
    simp only [triesBad_cons_iff]
    constructor
    · rintro (hBad | ⟨payload, s', hRun, hRest⟩)
      · exact ⟨1, .inl ⟨hBad, rfl⟩⟩
      · obtain ⟨alg, hOpens, -⟩ := (anonDecrypt_ok_iff _ _ _ _ _).mp hRun
        split at hRest
        · rename_i hAll
          obtain ⟨n, hTries⟩ := (ih (some payload)).mp hRest
          exact ⟨n + 1, .inr ⟨n, hAll, ⟨alg, payload, hOpens⟩, hTries, rfl⟩⟩
        · exact absurd hRest (not_panics_pure _)
    · rintro ⟨_, ⟨hBad, -⟩ | ⟨n, hAll, ⟨alg, payload, hOpens⟩, hRest, -⟩⟩
      · exact .inl hBad
      · refine .inr ⟨payload, _, (anonDecrypt_ok_iff _ _ _ _ _).mpr ⟨alg, hOpens, rfl⟩, ?_⟩
        rw [if_pos hAll, ih]
        exact ⟨n, hRest⟩

theorem unpackAnoncrypt_panics_iff (hVarints : Varints crates) (jwe : ParsedJWE)
    (hAlg : jwe.protected_.alg = .ecdhEsA256kw) :
    Panics (unpackAnoncrypt crates secrets opts jwe) s ↔ BreaksAnon crates secrets opts jwe := by
  have hOne (did : String) : (ensureOneDid did jwe.toKids).Safe := Result.safe_ensure _ _ _
  have hSome (found : List String) : (ensureFound found).Safe := Result.safe_ensure _ _ _
  have hOpen (payload : Option ByteArray) (s' : UnpackState crates) : ¬ Panics (liftM (openPayload crates
      "Anoncrypt payload is invalid utf8" payload) : Unpack crates ParsedEnvelope) s' := by
    rw [panics_lift_iff, not_not]
    exact safe_openPayload _ _
  have hFirst : (firstKid jwe.toKids).Safe := Result.safe_okOr _ _ _
  simp only [unpackAnoncrypt, panics_safe_bind_iff hFirst, firstKid_ok_iff, panics_safe_bind_iff (hOne _),
    panics_modifyMetadata_bind_iff, panics_safe_bind_iff (Result.safe_ofError _), panics_safe_bind_iff (hSome _),
    ensureFound_ok_iff, ofError_ok_iff]
  constructor
  · rintro ⟨toKid, hHead, _, hOneDid, found, hFound, _, hNone, hRun⟩
    rw [panics_bind_iff, or_iff_left fun ⟨_, _, _, h⟩ => hOpen _ _ h, anonPayload_panics_iff hVarints] at hRun
    obtain ⟨n, hTries⟩ := hRun
    exact ⟨hAlg, found, n, ⟨toKid, hHead, hOneDid, hFound, hNone⟩, hTries⟩
  · rintro ⟨-, found, n, ⟨toKid, hHead, hOneDid, hFound, hNone⟩, hTries⟩
    refine ⟨toKid, hHead, (), hOneDid, found, hFound, (), hNone, ?_⟩
    rw [panics_bind_iff, anonPayload_panics_iff hVarints]
    exact .inl ⟨n, hTries⟩

theorem tryUnpackAnoncrypt_panics_iff (hVarints : Varints crates) (parsed : ParsedEnvelope) :
    Panics (tryUnpackAnoncrypt crates secrets opts parsed) s ↔
      ∃ jwe, parsed = .jwe jwe ∧ BreaksAnon crates secrets opts jwe := by
  cases parsed with
  | jws jws =>
    refine iff_of_false (not_panics_pure none) ?_
    rintro ⟨jwe, ⟨⟩, h⟩
  | message m =>
    refine iff_of_false (not_panics_pure none) ?_
    rintro ⟨jwe, ⟨⟩, h⟩
  | jwe jwe =>
    simp only [ParsedEnvelope.jwe.injEq, exists_eq_left', tryUnpackAnoncrypt]
    split
    · rename_i hAlg
      exact iff_of_false (not_panics_pure none) fun h => hAlg h.1
    · rename_i hAlg
      rw [panics_map_iff, unpackAnoncrypt_panics_iff hVarints jwe (not_not.mp hAlg)]

theorem safe_unwrapForwarded (parsed : Option ParsedEnvelope) :
    (unwrapForwarded crates dids secrets opts parsed).Safe := by
  have hKids (did : String) : (keyAgreementKids dids did).Safe := by
    unfold keyAgreementKids
    split
    · exact Result.safe_ok _
    · exact Result.safe_of_bind (safe_resolved _ (fun e => ⟨_, rfl⟩) _) fun doc => Result.safe_ok _
  have hMine (did : String) : (hasKeyAgreementSecret dids secrets did).Safe :=
    Result.safe_of_bind (hKids did) fun kids => Result.safe_of_bind (Result.safe_ofError _) fun ids => Result.safe_ok _
  unfold unwrapForwarded
  split
  · split
    · unfold tryUnwrapForwardedMessage
      split
      · split
        · exact Result.safe_ok _
        · exact Result.safe_of_bind (hMine _) fun mine => Result.safe_ok _
      · exact Result.safe_ok _
    · exact Result.safe_ok _
  · exact Result.safe_ok _

theorem unpackLoop_panics_iff (hVarints : Varints crates) (left count : Nat) (parsed : ParsedEnvelope) :
    Panics (unpackLoop crates dids secrets opts left count parsed) s ↔
      ∃ jwe rounds, Unwraps crates dids secrets opts parsed (.jwe jwe) rounds ∧ rounds < left ∧
        BreaksAnon crates secrets opts jwe := by
  induction left generalizing count parsed s with
  | zero =>
    refine iff_of_false (not_panics_errMsg _ _) ?_
    rintro ⟨jwe, rounds, -, hLeft, -⟩
    exact absurd hLeft (Nat.not_lt_zero rounds)
  | succ left ih =>
    rw [unpackLoop_succ, panics_bind_iff, tryUnpackAnoncrypt_panics_iff hVarints]
    constructor
    · rintro (⟨jwe, rfl, hBreaks⟩ | ⟨anoncrypted, s', hRun, hRest⟩)
      · exact ⟨jwe, 0, .here, Nat.zero_lt_succ left, hBreaks⟩
      · obtain ⟨forwarded, hForward, hRest⟩ := (panics_safe_bind_iff (safe_unwrapForwarded anoncrypted)).mp hRest
        cases forwarded with
        | none => exact absurd hRest (not_panics_pure _)
        | some text =>
          obtain ⟨next, hNext, hRest⟩ := (panics_safe_bind_iff (safe_parseEnvelope text)).mp
            (panics_modifyMetadata_bind_iff.mp hRest)
          obtain ⟨jwe, rounds, hUnwraps, hLeft, hBreaks⟩ := (ih (count + 1) next).mp hRest
          rcases (tryUnpackAnoncrypt_ok_iff dids opts parsed _ _ _).mp hRun with
            ⟨-, rfl, -⟩ | ⟨hAlg, layer, inner, hLayer, rfl, -⟩
          · cases hForward
          · exact ⟨jwe, rounds + 1, .forwarded hAlg hLayer hForward hNext hUnwraps, by omega, hBreaks⟩
    · rintro ⟨jwe, rounds, hUnwraps, hLeft, hBreaks⟩
      cases hUnwraps with
      | here => exact .inl ⟨jwe, rfl, hBreaks⟩
      | @forwarded _ inner next _ layer text rounds hAlg hLayer hForward hNext hRest =>
        refine .inr ⟨some inner, _, (tryUnpackAnoncrypt_ok_iff dids opts parsed _ _ _).mpr
          (.inr ⟨hAlg, layer, inner, hLayer, rfl, rfl⟩), ?_⟩
        rw [panics_safe_bind_iff (safe_unwrapForwarded _)]
        refine ⟨some text, hForward, panics_modifyMetadata_bind_iff.mpr ?_⟩
        rw [panics_safe_bind_iff (safe_parseEnvelope text)]
        exact ⟨next, hNext, (ih (count + 1) next).mpr ⟨jwe, rounds, hRest, by omega, hBreaks⟩⟩

/-! ## The layer to authenticate -/

theorem authDecrypt_panics_iff (hVarints : Varints crates) (jwe : ParsedJWE) {kid : String} {key : KnownKeyPair crates}
    (hKey : s.envelope.fromKey = some key) (hKid : s.envelope.fromKid = some kid) (toKid : String) :
    Panics (authDecrypt crates secrets jwe toKid) s ↔ BadSecret crates secrets toKid := by
  simp only [authDecrypt, panics_lift_bind_iff, safe_recipientKey_iff hVarints, not_not,
    panics_get_bind_iff, hKey, hKid,
    Result.safe_unwrap_iff, Option.isSome_some, safe_authMethod, panics_modifyMetadata_bind_iff,
    KnownKeyPair.safe_ofCurve, ParsedJWE.safe_decrypt, panics_record_bind_iff, not_panics_pure, not_true_eq_false,
    and_false, exists_false, or_false]

/-- Without a sender a secret that can be used is as bad as one that cannot. -/
theorem authDecrypt_unnamed_panics_iff (hVarints : Varints crates) (jwe : ParsedJWE)
    (hKey : s.envelope.fromKey = none) (toKid : String) :
    Panics (authDecrypt crates secrets jwe toKid) s ↔
      BadSecret crates secrets toKid ∨ ∃ key, recipientKey crates secrets toKid = .ok key := by
  simp only [authDecrypt, panics_lift_bind_iff, safe_recipientKey_iff hVarints, not_not, panics_get_bind_iff, hKey,
    Result.safe_unwrap_iff, Option.isSome_none, Bool.false_eq_true, not_false_eq_true, true_or, and_true]

theorem authPayload_panics_iff (hVarints : Varints crates) (jwe : ParsedJWE) {kid : String}
    {key : KnownKeyPair crates} (found : List String) (count : Nat) (before : Option ByteArray)
    (hKey : s.envelope.fromKey = some key) (hKid : s.envelope.fromKid = some kid) :
    Panics (authPayload crates secrets opts jwe count before found) s ↔
      ∃ n, TriesBad (fun toKid => ∃ alg payload, OpensAuth crates secrets jwe (kid, key) alg toKid payload)
        (BadSecret crates secrets) opts.expectDecryptByAllKeys found n ∧
        count + n < opts.cryptoOperationsLimitPerMessage := by
  induction found generalizing count before s with
  | nil => exact iff_of_false (not_panics_pure before) fun ⟨n, h, _⟩ => not_triesBad_nil h
  | cons toKid rest ih =>
    rw [authPayload, tooManyCryptoOperations, panics_ensure_bind_iff, panics_bind_iff,
      authDecrypt_panics_iff hVarints jwe hKey hKid, decide_eq_true_iff]
    simp only [triesBad_cons_iff]
    constructor
    · rintro ⟨hCount, hBad | ⟨payload, s', hRun, hRest⟩⟩
      · exact ⟨1, .inl ⟨hBad, rfl⟩, hCount⟩
      · obtain ⟨alg, hOpens, rfl⟩ := (authDecrypt_ok_iff jwe hKey hKid _ _ _).mp hRun
        split at hRest
        · rename_i hAll
          obtain ⟨n, hTries, hLeft⟩ := (ih (s := s.noted _ _) (count + 1) (some payload) hKey hKid).mp hRest
          exact ⟨n + 1, .inr ⟨n, hAll, ⟨alg, payload, hOpens⟩, hTries, rfl⟩, by omega⟩
        · exact absurd hRest (not_panics_pure _)
    · rintro ⟨_, ⟨hBad, rfl⟩ | ⟨n, hAll, ⟨alg, payload, hOpens⟩, hRest, rfl⟩, hCount⟩
      · exact ⟨hCount, .inl hBad⟩
      · refine ⟨by omega, .inr ⟨payload, _, (authDecrypt_ok_iff jwe hKey hKid _ _ _).mpr ⟨alg, hOpens, rfl⟩, ?_⟩⟩
        rw [if_pos hAll]
        exact (ih (s := s.noted _ _) (count + 1) (some payload) hKey hKid).mpr ⟨n, hRest, by omega⟩

theorem authPayload_unnamed_panics_iff (hVarints : Varints crates) (jwe : ParsedJWE) (found : List String)
    (count : Nat) (before : Option ByteArray) (hKey : s.envelope.fromKey = none) :
    Panics (authPayload crates secrets opts jwe count before found) s ↔
      ∃ toKid, found.head? = some toKid ∧ count + 1 < opts.cryptoOperationsLimitPerMessage ∧
        (BadSecret crates secrets toKid ∨ ∃ key, recipientKey crates secrets toKid = .ok key) := by
  cases found with
  | nil =>
    refine iff_of_false (not_panics_pure before) ?_
    rintro ⟨toKid, ⟨⟩, h⟩
  | cons toKid rest =>
    have hNever : ¬ ∃ payload s', authDecrypt crates secrets jwe toKid s = .ok payload s' ∧
        Panics (if opts.expectDecryptByAllKeys = true then
          authPayload crates secrets opts jwe (count + 1) (some payload) rest else pure (some payload)) s' :=
      fun ⟨payload, s', hRun, _⟩ => authDecrypt_without_sender jwe hKey toKid payload s' hRun
    rw [authPayload, tooManyCryptoOperations, panics_ensure_bind_iff, panics_bind_iff, or_iff_left hNever,
      authDecrypt_unnamed_panics_iff hVarints jwe hKey, decide_eq_true_iff]
    simp only [List.head?_cons, Option.some.injEq, exists_eq_left']

/-- Once its sender is known or is not named, a layer gives up in the loop over the keys. -/
theorem unpackAuthcrypt_panics_iff (jwe : ParsedJWE) (count : Nat) {s₁ : UnpackState crates}
    (hFill : fillIfUnknown crates dids secrets jwe s = .ok () s₁) :
    Panics (unpackAuthcrypt crates dids secrets opts jwe count) s ↔
      Panics (authPayload crates secrets opts jwe count none s₁.envelope.toKidsFound) s₁ := by
  have hOpen (payload : Option ByteArray) (s' : UnpackState crates) : ¬ Panics (liftM (openPayload crates
      "Authcrypt payload is invalid utf8" payload) : Unpack crates ParsedEnvelope) s' := by
    rw [panics_lift_iff, not_not]
    exact safe_openPayload _ _
  have hRun : Panics (unpackAuthcrypt crates dids secrets opts jwe count) s ↔
      Panics (authPayload crates secrets opts jwe count none s₁.envelope.toKidsFound >>= fun payload =>
        (liftM (openPayload crates "Authcrypt payload is invalid utf8" payload) : Unpack crates ParsedEnvelope))
            s₁ := by
    simp only [Panics, unpackAuthcrypt, bind_of_ok hFill, get_bind_run]
  rw [hRun, panics_bind_iff]
  refine or_iff_left ?_
  rintro ⟨_, _, _, h⟩
  exact hOpen _ _ h

theorem SenderKey.not_badSender {jwe : ParsedJWE} {apu : ByteArray} {kid : String} {key : KnownKeyPair crates}
    (h : SenderKey crates dids kid key) (hApu : jwe.apu = some apu) (hKid : String.fromUTF8? apu = some kid) :
    ¬ BadSender crates dids jwe := by
  rintro ⟨apu', kid', method', hApu', hKid', ⟨-, doc', hDoc', -, hMethod'⟩, hBad⟩
  obtain ⟨-, doc, method, hDoc, -, hMethod, hKey⟩ := h
  cases hApu.symm.trans hApu'
  cases hKid.symm.trans hKid'
  cases hDoc.symm.trans hDoc'
  cases hMethod.symm.trans hMethod'
  refine hBad ((VerificationMethod.safe_senderKey_iff _).mp ?_)
  rw [hKey]
  exact Result.safe_ok key

theorem tryUnpackAuthcrypt_panics_of_other (count : Nat) (outer : ParsedEnvelope) {parsed : ParsedEnvelope}
    (hAlg : ¬ parsed.hasAlg .ecdh1puA256kw) : Panics (tryUnpackAuthcrypt crates dids secrets opts count parsed) s ↔
      BreaksAuth crates dids secrets opts outer count parsed := by
  have hRun : tryUnpackAuthcrypt crates dids secrets opts count parsed = pure none := by
    cases parsed with
    | jwe jwe => exact if_pos hAlg
    | jws jws => rfl
    | message m => rfl
  rw [hRun]
  refine iff_of_false (not_panics_pure none) ?_
  rintro (⟨h, -⟩ | ⟨h, -, -, -, -⟩ | ⟨h, -, -, -, -⟩ | ⟨h, -, -, -, -, -, -⟩)
  all_goals exact hAlg h

theorem tryUnpackAuthcrypt_panics_eq (count : Nat) {jwe : ParsedJWE} (hAlg : jwe.protected_.alg = .ecdh1puA256kw) :
    Panics (tryUnpackAuthcrypt crates dids secrets opts count (.jwe jwe)) s ↔
      Panics (unpackAuthcrypt crates dids secrets opts jwe count) s := by
  rw [tryUnpackAuthcrypt, if_neg (not_not_intro hAlg), panics_map_iff]

theorem tryUnpackAuthcrypt_unknown_panics_iff (hVarints : Varints crates) (count : Nat) {outer : ParsedEnvelope}
    (parsed : ParsedEnvelope) (hKid : s.envelope.fromKid = none) (hKey : s.envelope.fromKey = none)
    (hFirst : ∀ kid, s.envelope.toKidsFound.head? = some kid ↔ FirstFound secrets outer kid) :
    Panics (tryUnpackAuthcrypt crates dids secrets opts count parsed) s ↔
      BreaksAuth crates dids secrets opts outer count parsed := by
  by_cases hAlg : parsed.hasAlg .ecdh1puA256kw
  swap
  · exact tryUnpackAuthcrypt_panics_of_other count outer hAlg
  obtain ⟨jwe, rfl⟩ : ∃ jwe, parsed = .jwe jwe := by
    cases parsed with
    | jwe jwe => exact ⟨jwe, rfl⟩
    | jws jws => cases hAlg
    | message m => cases hAlg
  rw [tryUnpackAuthcrypt_panics_eq count hAlg]
  cases hApu : jwe.apu with
  | none =>
    rw [unpackAuthcrypt_panics_iff jwe count (fillIfUnknown_anonymous jwe s hApu),
      authPayload_unnamed_panics_iff hVarints jwe _ _ _ hKey]
    constructor
    · rintro ⟨kid, hHead, hCount, hSecret | ⟨key, hSecret⟩⟩
      · exact .unnamedSecret hAlg hApu ((hFirst kid).mp hHead) hCount hSecret
      · exact .unnamed hAlg hApu ((hFirst kid).mp hHead) hCount hSecret
    · rintro (⟨-, apu, _, _, hSome, -⟩ | ⟨-, -, hHead, hCount, hSecret⟩ | ⟨-, -, hHead, hCount, hSecret⟩ |
        ⟨-, hSome, -, -, -, -, -⟩)
      · cases hApu.symm.trans hSome
      · exact ⟨_, (hFirst _).mpr hHead, hCount, .inr ⟨_, hSecret⟩⟩
      · exact ⟨_, (hFirst _).mpr hHead, hCount, .inl hSecret⟩
      · cases hApu.symm.trans hSome
  | some apu =>
    have hFill : Panics (fillIfUnknown crates dids secrets jwe) s ↔ BadSender crates dids jwe := by
      rw [Panics, fillIfUnknown_unknown jwe hApu hKid]
      exact fillEnvelopeFrom_panics_iff jwe
    have hPanics : Panics (unpackAuthcrypt crates dids secrets opts jwe count) s ↔ BadSender crates dids jwe ∨
        ∃ kid key found, String.fromUTF8? apu = some kid ∧ SenderKey crates dids kid key ∧
        Recipients secrets jwe found ∧
          ∃ n, TriesBad (fun toKid => ∃ alg payload, OpensAuth crates secrets jwe (kid, key) alg toKid payload)
            (BadSecret crates secrets) opts.expectDecryptByAllKeys found n ∧
            count + n < opts.cryptoOperationsLimitPerMessage := by
      constructor
      · intro hRun
        by_cases hBad : BadSender crates dids jwe
        · exact .inl hBad
        · obtain h | ⟨_, s₁, hFilled, -⟩ := panics_bind_iff.mp hRun
          · exact .inl (hFill.mp h)
          · have hFrom := hFilled
            rw [fillIfUnknown_unknown jwe hApu hKid] at hFrom
            obtain ⟨kid, key, found, hUtf8, hSender, hRecipients, doc, toKid, rfl, -⟩ :=
              (fillEnvelopeFrom_ok_iff jwe hApu s s₁ ()).mp hFrom
            rw [unpackAuthcrypt_panics_iff jwe count hFilled] at hRun
            exact .inr ⟨kid, key, found, hUtf8, hSender, hRecipients,
              (authPayload_panics_iff hVarints jwe found count none rfl rfl).mp hRun⟩
      · rintro (hBad | ⟨kid, key, found, hUtf8, hSender, hRecipients, hTries⟩)
        · exact panics_bind_iff.mpr (.inl (hFill.mpr hBad))
        · have ⟨_, doc, _, hDoc, _⟩ := hSender
          have ⟨toKid, hHead, _⟩ := hRecipients
          have hFilled : fillIfUnknown crates dids secrets jwe s = .ok ()
              ((s.sentBy kid doc key).sentTo toKid jwe.toKids found) := by
            rw [fillIfUnknown_unknown jwe hApu hKid]
            exact (fillEnvelopeFrom_ok_iff jwe hApu s _ ()).mpr
              ⟨kid, key, found, hUtf8, hSender, hRecipients, doc, toKid, rfl, hDoc, hHead⟩
          rw [unpackAuthcrypt_panics_iff jwe count hFilled]
          exact (authPayload_panics_iff hVarints jwe found count none rfl rfl).mpr hTries
    rw [hPanics]
    constructor
    · rintro (hBad | ⟨kid, key, found, hUtf8, hSender, hRecipients, n, hTries, hCount⟩)
      · exact .sender hAlg hBad
      · exact .secret hAlg hApu hUtf8 hSender hRecipients hTries hCount
    · rintro (⟨-, hBad⟩ | ⟨-, hNone, -, -, -⟩ | ⟨-, hNone, -, -, -⟩ |
        ⟨-, hApu', hUtf8, hSender, hRecipients, hTries, hCount⟩)
      · exact .inl hBad
      · cases hApu.symm.trans hNone
      · cases hApu.symm.trans hNone
      · cases hApu.symm.trans hApu'
        exact .inr ⟨_, _, _, hUtf8, hSender, hRecipients, _, hTries, hCount⟩

theorem tryUnpackAuthcrypt_known_panics_iff (hVarints : Varints crates) (count : Nat) (outer : ParsedEnvelope)
    {jwe : ParsedJWE} {apu : ByteArray}
    {kid toKid : String} {doc : Document} {key : KnownKeyPair crates} {found : List String}
    (hApu : jwe.apu = some apu) (hUtf8 : String.fromUTF8? apu = some kid) (hSender : SenderKey crates dids kid key)
    (hRecipients : Recipients secrets jwe found) (s : UnpackState crates) :
    Panics (tryUnpackAuthcrypt crates dids secrets opts count (.jwe jwe))
        ((s.sentBy kid doc key).sentTo toKid jwe.toKids found) ↔
      BreaksAuth crates dids secrets opts outer count (.jwe jwe) := by
  by_cases hAlg : ParsedEnvelope.hasAlg .ecdh1puA256kw (.jwe jwe)
  swap
  · exact tryUnpackAuthcrypt_panics_of_other count outer hAlg
  have hFill : fillIfUnknown crates dids secrets jwe
    ((s.sentBy kid doc key).sentTo toKid jwe.toKids found) = .ok () _ :=
    fillIfUnknown_known jwe rfl
  rw [tryUnpackAuthcrypt_panics_eq count hAlg, unpackAuthcrypt_panics_iff jwe count hFill,
    authPayload_panics_iff hVarints jwe _ count none rfl rfl]
  constructor
  · rintro ⟨n, hTries, hCount⟩
    exact .secret hAlg hApu hUtf8 hSender hRecipients hTries hCount
  · rintro (⟨-, hBad⟩ | ⟨-, hNone, -, -, -⟩ | ⟨-, hNone, -, -, -⟩ |
      ⟨-, hApu', hUtf8', hSender', hRecipients', hTries, hCount⟩)
    · exact absurd hBad (hSender.not_badSender hApu hUtf8)
    · cases hApu.symm.trans hNone
    · cases hApu.symm.trans hNone
    · cases hApu.symm.trans hApu'
      cases hUtf8.symm.trans hUtf8'
      cases hSender.unique hSender'
      cases hRecipients.unique hRecipients'
      exact ⟨_, hTries, hCount⟩

/-! ## What is not encrypted any more -/

theorem signerJwk_safe_iff (kid : String) : (signerJwk crates dids kid).Safe ↔
    ∀ method, SignerMethod crates dids kid method → method.JwkOk crates := by
  have hResolved (did : String) :
      (dids.resolved (fun _ => errMsg .didNotResolved "Signer did not found") did).Safe :=
    safe_resolved _ (fun e => ⟨_, rfl⟩) did
  simp only [signerJwk, Result.safe_bind_iff, Result.safe_ensure, ensure_ok_iff, hResolved, resolved_ok_iff,
    Result.safe_okOr, okOr_ok_iff, VerificationMethod.safe_getJwk_iff, true_and, implies_true, and_true, SignerMethod]
  constructor
  · rintro h method ⟨hUrl, doc, hDoc, hContains, hMethod⟩
    exact h () hUrl doc hDoc () hContains method hMethod
  · intro h _ hUrl doc hDoc _ hContains method hMethod
    exact h method ⟨hUrl, doc, hDoc, hContains, hMethod⟩

theorem verifySigner_not_panics (jws : ParsedJWS) (alg : Jws.Algorithm) (kid : String) (jwk : Params) :
    ¬ Panics (verifySigner crates jws alg kid jwk) s := by
  have hKey (curve : Curve) : Result.Safe ((jwk.asCurve crates curve).context "Unable instantiate signer key") :=
    (Result.safe_context_iff _ _).mpr (jwk.safe_asCurve curve)
  have hValid {curve : Curve} (key : crates.KeyPair curve) :
      Result.Safe ((jws.verify crates kid key).context "Unable verify sign envelope") :=
    (Result.safe_context_iff _ _).mpr (jws.safe_verify kid key)
  simp only [verifySigner, panics_safe_bind_iff (safe_signMethod alg), panics_modifyMetadata_bind_iff,
    panics_safe_bind_iff (hKey _), panics_safe_bind_iff (hValid _), panics_ensure_bind_iff]
  rintro ⟨_, _, _, _, _, _, _, p, s', ⟨⟩⟩

theorem unpackSign_panics_iff (jws : ParsedJWS) :
    Panics (unpackSign crates dids jws) s ↔ BreaksSign crates dids (.jws jws) := by
  have hRest (kid : String) (alg : Jws.Algorithm) (jwk : Params) (s : UnpackState crates) : ¬ Panics (do
      verifySigner crates jws alg kid jwk
      let payload ← base64 crates "Signed payload is invalid base64" jws.jws.payload
      let payload ← utf8 crates "Signed payload is invalid utf8" payload
      modifyMetadata fun m =>
        { m with authenticated := true, nonRepudiation := true, signFrom := some kid, signedMessage := some jws.jws }
      parseEnvelope crates payload : Unpack crates ParsedEnvelope) s := by
    rw [panics_bind_iff, or_iff_right (verifySigner_not_panics jws alg kid jwk)]
    simp only [panics_safe_bind_iff (safe_base64 _ _), panics_safe_bind_iff (safe_utf8 _ _),
      panics_modifyMetadata_bind_iff, panics_lift_iff, safe_parseEnvelope, not_true_eq_false, and_false, exists_false,
      not_false_eq_true]
  simp only [unpackSign, panics_ensure_bind_iff, panics_safe_bind_iff (Result.safe_okOr _ _ _), okOr_ok_iff,
    panics_lift_bind_iff, signerJwk_safe_iff, hRest, and_false, exists_false, or_false, beq_iff_eq, BreaksSign,
    not_forall]
  constructor
  · rintro ⟨hLength, header, hHeader, signature, hSignature, method, hMethod, hBad⟩
    obtain ⟨header', hOne⟩ := List.length_eq_one_iff.mp hLength
    exact ⟨header', signature, method, hOne, hSignature, hMethod, hBad⟩
  · rintro ⟨header, signature, method, hOne, hSignature, hMethod, hBad⟩
    rw [hOne]
    exact ⟨rfl, header, rfl, signature, hSignature, method, hMethod, hBad⟩

theorem FromPrior.safe_unpack_iff (jwt : String) : (FromPrior.unpack crates dids jwt).Safe ↔
    ∀ parsed method, parseCompact crates jwt = .ok parsed → parsed.parsedHeader.typ = "JWT" →
      FromPrior.issuerMethod dids parsed.parsedHeader.kid = .ok method → method.JwkOk crates := by
  have hIssuer (kid : String) : (FromPrior.issuerMethod dids kid).Safe := by
    unfold FromPrior.issuerMethod
    refine Result.safe_of_bind (Result.safe_ensure _ _ _) fun _ => ?_
    refine Result.safe_of_bind (safe_resolved _ (fun e => ⟨_, rfl⟩) _) fun doc => ?_
    exact Result.safe_of_bind (Result.safe_ensure _ _ _) fun _ => Result.safe_okOr _ _ _
  have hPayload (parsed : ParsedCompactJWS) : (FromPrior.payload crates parsed).Safe := by
    unfold FromPrior.payload
    refine Result.safe_of_bind (safe_base64 _ _) fun bytes => Result.safe_of_bind (safe_utf8 _ _) fun text => ?_
    cases (crates.jsonFromStr text).bind FromPrior.ofJson with
    | none => exact Result.safe_error _
    | some fromPrior => exact Result.safe_ok _
  have hVerify (parsed : ParsedCompactJWS) {curve : Curve} (key : crates.KeyPair curve) :
      (parsed.verify crates key).Safe := safe_verifyInput _ _ _ _ _
  simp only [FromPrior.unpack, Result.safe_bind_iff, safe_parseCompact, Result.safe_ensure, ensure_ok_iff, hIssuer,
    VerificationMethod.safe_getJwk_iff, Result.safe_okOr, safe_signMethod, Result.safe_context_iff,
    Params.safe_asCurve, hVerify, hPayload, Result.safe_pure, true_and, implies_true, and_true, beq_iff_eq]
  constructor
  · intro h parsed method hParsed hTyp hMethod
    exact h parsed hParsed () hTyp method hMethod
  · intro h parsed hParsed _ hTyp method hMethod
    exact h parsed method hParsed hTyp hMethod

theorem tryUnpackPlaintext_panics_iff (parsed : ParsedEnvelope) : Panics (tryUnpackPlaintext crates dids parsed) s ↔
    ∃ m, parsed = .message m ∧ BreaksPrior crates dids m := by
  cases parsed with
  | jwe jwe =>
    refine iff_of_false (not_panics_pure none) ?_
    rintro ⟨m, ⟨⟩, h⟩
  | jws jws =>
    refine iff_of_false (not_panics_pure none) ?_
    rintro ⟨m, ⟨⟩, h⟩
  | message m =>
    have hValid : m.validate.Safe := Result.safe_of_bind (Result.safe_ensure _ _ _) fun _ => Result.safe_ok _
    have hPrior (m : Message) (s : UnpackState crates) : Panics (unpackFromPrior crates dids m.fromPrior >>= fun _ =>
        (pure (some m) : Unpack crates (Option Message))) s ↔
          ∃ jwt, m.fromPrior = some jwt ∧ ¬ (FromPrior.unpack crates dids jwt).Safe := by
      rw [panics_bind_iff, or_iff_left fun ⟨_, _, _, h⟩ => not_panics_pure _ h]
      cases m.fromPrior with
      | none => exact iff_of_false (not_panics_pure _) fun ⟨jwt, h, _⟩ => by cases h
      | some jwt =>
        simp only [unpackFromPrior, panics_lift_bind_iff, not_panics_modifyMetadata, and_false, exists_false, or_false,
          Option.some.injEq, exists_eq_left']
    simp only [tryUnpackPlaintext, panics_safe_bind_iff hValid, validate_ok_iff, hPrior, ParsedEnvelope.message.injEq,
      exists_eq_left', FromPrior.safe_unpack_iff, BreaksPrior, not_forall]
    constructor
    · rintro ⟨_, ⟨hTyp, rfl⟩, jwt, hJwt, parsed, method, hParsed, hJwtTyp, hMethod, hBad⟩
      exact ⟨hTyp, jwt, parsed, method, hJwt, hParsed, hJwtTyp, hMethod, hBad⟩
    · rintro ⟨hTyp, jwt, parsed, method, hJwt, hParsed, hJwtTyp, hMethod, hBad⟩
      exact ⟨m, ⟨hTyp, rfl⟩, jwt, hJwt, parsed, method, hParsed, hJwtTyp, hMethod, hBad⟩

variable (secrets opts) in
theorem unpackDecrypted_panics_iff (parsed : ParsedEnvelope) : Panics (Message.unpackDecrypted crates dids parsed) s ↔
    BreaksSign crates dids parsed ∨ ∃ signature m, Attests crates dids secrets opts parsed signature (.message m) ∧
      BreaksPrior crates dids m := by
  have hSign : Panics (tryUnpackSign crates dids parsed) s ↔ BreaksSign crates dids parsed := by
    cases parsed with
    | jwe jwe => exact iff_of_false (not_panics_pure none) id
    | message m => exact iff_of_false (not_panics_pure none) id
    | jws jws => rw [tryUnpackSign, panics_map_iff, unpackSign_panics_iff]
  have hRest (signed : Option ParsedEnvelope) (s : UnpackState crates) : Panics (do
      let msg ← tryUnpackPlaintext crates dids (signed.getD parsed)
      let msg ← okOr msg (errMsg .malformed "Message is not a valid JWE, JWS or JWM")
      let s ← get
      return (msg, s.envelope.metadata) : Unpack crates (Message × UnpackMetadata)) s ↔
        ∃ m, signed.getD parsed = .message m ∧ BreaksPrior crates dids m := by
    simp only [panics_bind_iff, tryUnpackPlaintext_panics_iff, panics_lift_iff, Result.safe_okOr, not_panics_pure,
      not_panics_get, not_true_eq_false, and_false, exists_false, or_false]
  rw [Message.unpackDecrypted, panics_bind_iff, hSign]
  simp only [hRest, tryUnpackSign_ok_iff secrets opts]
  refine or_congr_right ⟨?_, ?_⟩
  · rintro ⟨signed, s', ⟨hJws, rfl, rfl⟩ | ⟨hJws, layer, inner, hOpens, rfl, rfl⟩, m, hMessage, hBreaks⟩
    · obtain rfl : parsed = .message m := hMessage
      exact ⟨[], m, .none hJws, hBreaks⟩
    · obtain rfl : inner = .message m := hMessage
      exact ⟨[layer], m, .signed hJws hOpens, hBreaks⟩
  · rintro ⟨signature, m, hAttests, hBreaks⟩
    cases hAttests with
    | none hJws => exact ⟨none, s, .inl ⟨hJws, rfl, rfl⟩, m, rfl, hBreaks⟩
    | signed hJws hOpens =>
      exact ⟨some (.message m), _, .inr ⟨hJws, _, _, hOpens, rfl, rfl⟩, m, rfl, hBreaks⟩

theorem Peels.rounds_pos {outer peeled : ParsedEnvelope} {outside : List (Layer crates)} {rounds : Nat}
    (h : Peels crates dids secrets opts outer outside peeled rounds) : 0 < rounds := by
  cases h <;> exact Nat.succ_pos _

/-- Unpacking, where the sender is found whatever the anonymous layers are. -/
theorem unpack_panics_iff (hVarints : Varints crates) {outer : ParsedEnvelope}
    (hOuter : s.envelope.parsedEnvelope = some outer)
    (hSender : ∀ outside peeled rounds, Peels crates dids secrets opts outer outside peeled rounds →
      FindsSender dids secrets opts rounds peeled (s.opened outside) ∧
        (Panics (tryUnpackAuthcrypt crates dids secrets opts rounds peeled) (s.opened outside) ↔
          BreaksAuth crates dids secrets opts outer rounds peeled)) :
    Panics (Message.unpack crates dids secrets opts) s ↔ BreaksInside crates dids secrets opts outer := by
  have hParsed : okOr s.envelope.parsedEnvelope (errMsg .invalidState "Parsed envelope not found") =
      (.ok outer : Result ParsedEnvelope) := by
    rw [hOuter]
    rfl
  rw [Message.unpack, panics_get_bind_iff, panics_safe_bind_iff (Result.safe_okOr _ _ _), hParsed]
  simp only [Except.ok.injEq, exists_eq_left', panics_bind_iff (x := unpackLoop _ _ _ _ _ _ _),
    unpackLoop_panics_iff hVarints, Prod.exists, unpackLoop_ok_iff, Nat.zero_add,
    panics_bind_iff (x := tryUnpackAuthcrypt _ _ _ _ _ _), unpackDecrypted_panics_iff secrets opts]
  constructor
  · rintro (⟨jwe, rounds, hUnwraps, hLimit, hBreaks⟩ |
      ⟨peeled, _, _, ⟨outside, rounds, hPeels, hLimit, rfl, rfl⟩, hBreaks⟩)
    · exact .anon hUnwraps (by omega) hBreaks
    · have hPos := hPeels.rounds_pos
      obtain ⟨hFinds, hPanics⟩ := hSender outside peeled _ hPeels
      rcases hBreaks with hAuth | ⟨result, s', hRun, hBreaks⟩
      · exact .auth hPeels (by omega) (hPanics.mp hAuth)
      · obtain ⟨sender, hAuthenticates, -, -⟩ := (hFinds _ _ _).mp ⟨result, s', hRun, rfl, rfl, rfl⟩
        rcases hBreaks with hSign | ⟨signature, m, hAttests, hPrior⟩
        · exact .sign hPeels (by omega) hAuthenticates hSign
        · exact .prior hPeels (by omega) hAuthenticates hAttests hPrior
  · rintro (⟨hUnwraps, hLimit, hBreaks⟩ | ⟨hPeels, hLimit, hBreaks⟩ | ⟨hPeels, hLimit, hAuth, hBreaks⟩ |
      ⟨hPeels, hLimit, hAuth, hAttests, hBreaks⟩)
    · exact .inl ⟨_, _, hUnwraps, by omega, hBreaks⟩
    · exact .inr ⟨_, _, _, ⟨_, _, hPeels, by omega, rfl, rfl⟩, .inl ((hSender _ _ _ hPeels).2.mpr hBreaks)⟩
    · obtain ⟨result, s', hRun, rfl, -, -⟩ := ((hSender _ _ _ hPeels).1 _ _ _).mpr ⟨_, hAuth, rfl, rfl⟩
      exact .inr ⟨_, _, _, ⟨_, _, hPeels, by omega, rfl, rfl⟩, .inr ⟨result, s', hRun, .inl hBreaks⟩⟩
    · obtain ⟨result, s', hRun, rfl, -, -⟩ := ((hSender _ _ _ hPeels).1 _ _ _).mpr ⟨_, hAuth, rfl, rfl⟩
      exact .inr ⟨_, _, _, ⟨_, _, hPeels, by omega, rfl, rfl⟩,
        .inr ⟨result, s', hRun, .inr ⟨_, _, hAttests, hBreaks⟩⟩⟩

variable (crates dids secrets opts) in
theorem fill_panics_iff (hVarints : Varints crates) (outer : ParsedEnvelope) (hKid : s.envelope.fromKid = none)
    (hKey : s.envelope.fromKey = none)
    (hFound : s.envelope.toKidsFound = []) (hOuter : s.envelope.parsedEnvelope = some outer) :
    Panics (outer.fill crates dids secrets >>= fun _ => Message.unpack crates dids secrets opts) s ↔
      (∃ jwe, outer = .jwe jwe ∧ BadSender crates dids jwe) ∨
        Addressed crates dids secrets outer ∧ BreaksInside crates dids secrets opts outer := by
  have hPlain (hOther : ∀ jwe, outer ≠ .jwe jwe) : Panics (Message.unpack crates dids secrets opts) s ↔
      (∃ jwe, outer = .jwe jwe ∧ BadSender crates dids jwe) ∨
        Addressed crates dids secrets outer ∧ BreaksInside crates dids secrets opts outer := by
    have hAddressed : Addressed crates dids secrets outer := by
      cases outer with
      | jwe jwe => exact absurd rfl (hOther jwe)
      | jws jws => trivial
      | message m => trivial
    have hNone : ¬ ∃ jwe, outer = .jwe jwe ∧ BadSender crates dids jwe := by
      rintro ⟨jwe, h, -⟩
      exact hOther jwe h
    rw [or_iff_right hNone, and_iff_right hAddressed]
    refine unpack_panics_iff hVarints hOuter fun outside peeled rounds _ =>
      ⟨findsSender_of_unknown opts _ _ hKid hKey, ?_⟩
    refine tryUnpackAuthcrypt_unknown_panics_iff hVarints rounds peeled hKid hKey fun kid => iff_of_false ?_ ?_
    · rw [UnpackState.opened, UnpackState.noted, hFound]
      rintro ⟨⟩
    · rintro ⟨jwe, rest, h, -⟩
      exact hOther jwe h
  cases outer with
  | jws jws => exact hPlain fun jwe h => by cases h
  | message m => exact hPlain fun jwe h => by cases h
  | jwe jwe =>
    change Panics (jwe.fillEnvelopeFrom crates dids secrets >>= fun _ => Message.unpack crates dids secrets opts) s ↔ _
    rw [panics_bind_iff, fillEnvelopeFrom_panics_iff]
    simp only [ParsedEnvelope.jwe.injEq, exists_eq_left']
    refine or_congr_right ?_
    cases hApu : jwe.apu with
    | none =>
      have hUnpack (toKid : String) {found : List String} (hRecipients : Recipients secrets jwe found) :
          Panics (Message.unpack crates dids secrets opts)
              ((s.noted (fun m => { m with anonymousSender := true }) []).sentTo toKid jwe.toKids found) ↔
            BreaksInside crates dids secrets opts (.jwe jwe) := by
        refine unpack_panics_iff hVarints hOuter fun outside peeled rounds _ =>
          ⟨findsSender_of_unknown opts _ _ hKid hKey, ?_⟩
        refine tryUnpackAuthcrypt_unknown_panics_iff hVarints rounds peeled hKid hKey fun kid => ?_
        change found.head? = some kid ↔ _
        constructor
        · intro hHead
          obtain ⟨rest, rfl⟩ := List.head?_eq_some_iff.mp hHead
          exact ⟨jwe, rest, rfl, hRecipients⟩
        · rintro ⟨_, rest, ⟨⟩, hOther⟩
          rw [hRecipients.unique hOther]
          rfl
      constructor
      · rintro ⟨_, s', hFill, hRun⟩
        obtain ⟨toKid, found, hHead, hOne, hFind, hSome, rfl⟩ :=
          (fillEnvelopeFrom_anonymous_ok_iff jwe hApu s s' ()).mp hFill
        have hRecipients : Recipients secrets jwe found := ⟨toKid, hHead, hOne, hFind, hSome⟩
        refine ⟨⟨fun apu hSome => ?_, found, hRecipients⟩, (hUnpack toKid hRecipients).mp hRun⟩
        cases hApu.symm.trans hSome
      · rintro ⟨⟨-, found, toKid, hHead, hOne, hFind, hSome⟩, hBreaks⟩
        exact ⟨(), _, (fillEnvelopeFrom_anonymous_ok_iff jwe hApu s _ ()).mpr
          ⟨toKid, found, hHead, hOne, hFind, hSome, rfl⟩,
          (hUnpack toKid ⟨toKid, hHead, hOne, hFind, hSome⟩).mpr hBreaks⟩
    | some apu =>
      have hUnpack {kid toKid : String} {doc : Document} {key : KnownKeyPair crates} {found : List String}
          (hUtf8 : String.fromUTF8? apu = some kid) (hSender : SenderKey crates dids kid key)
          (hRecipients : Recipients secrets jwe found) :
          Panics (Message.unpack crates dids secrets opts) ((s.sentBy kid doc key).sentTo toKid jwe.toKids found) ↔
            BreaksInside crates dids secrets opts (.jwe jwe) := by
        refine unpack_panics_iff hVarints hOuter fun outside peeled rounds hPeels =>
          ⟨findsSender_of_sent opts doc toKid hApu hUtf8 hSender hRecipients s hPeels, ?_⟩
        cases hPeels with
        | stop _ =>
          rw [UnpackState.opened_nil]
          exact tryUnpackAuthcrypt_known_panics_iff hVarints 1 _ hApu hUtf8 hSender hRecipients s
        | anoncrypted hAlg hOpens _ => cases hApu.symm.trans (hOpens.apu_of_anonymous hAlg)
        | forwarded hAlg hOpens _ _ _ => cases hApu.symm.trans (hOpens.apu_of_anonymous hAlg)
      constructor
      · rintro ⟨_, s', hFill, hRun⟩
        obtain ⟨kid, key, found, hUtf8, hSender, hRecipients, doc, toKid, rfl, -⟩ :=
          (fillEnvelopeFrom_ok_iff jwe hApu s s' ()).mp hFill
        refine ⟨⟨fun apu' hSome => ?_, found, hRecipients⟩, (hUnpack hUtf8 hSender hRecipients).mp hRun⟩
        cases hApu.symm.trans hSome
        exact ⟨kid, key, hUtf8, hSender⟩
      · rintro ⟨⟨hNamed, found, hRecipients⟩, hBreaks⟩
        obtain ⟨kid, key, hUtf8, hSender⟩ := hNamed apu hApu
        obtain ⟨-, doc, -, hDoc, -⟩ := id hSender
        obtain ⟨toKid, hHead, -⟩ := id hRecipients
        exact ⟨(), _, (fillEnvelopeFrom_ok_iff jwe hApu s _ ()).mpr
          ⟨kid, key, found, hUtf8, hSender, hRecipients, doc, toKid, rfl, hDoc, hHead⟩,
          (hUnpack hUtf8 hSender hRecipients).mpr hBreaks⟩

variable (crates dids secrets opts) in
theorem unpackString_panics_iff (hVarints : Varints crates) (text : String) :
    Panics (Message.unpackString crates dids secrets opts text) (.fresh crates) ↔
      Breaks crates dids secrets opts text := by
  have hRun (envelope : Envelope) (outer : ParsedEnvelope) := fill_panics_iff crates dids secrets opts hVarints
    (s := ⟨{ envelope := some envelope, parsedEnvelope := some outer }, []⟩) outer rfl rfl rfl rfl
  have hNew : Panics (Message.unpackString crates dids secrets opts text) (.fresh crates) ↔
      ∃ envelope, Envelope.fromStr crates text = .ok envelope ∧ ∃ parsed, envelope.parse crates = .ok parsed ∧
        ∃ outer, parsed.verifyDidcomm crates = .ok outer ∧
          Panics (outer.fill crates dids secrets >>= fun _ => Message.unpack crates dids secrets opts)
            ⟨{ envelope := some envelope, parsedEnvelope := some outer }, []⟩ := by
    simp only [Message.unpackString, MetaEnvelope.new, bind_assoc, panics_safe_bind_iff (Envelope.safe_fromStr _),
      panics_modifyEnvelope_bind_iff, panics_safe_bind_iff (Envelope.safe_parse _),
      panics_safe_bind_iff (ParsedEnvelope.safe_verifyDidcomm _)]
    rfl
  simp only [hNew, hRun, Breaks, parseEnvelope, except_bind_ok_iff]
  constructor
  · rintro ⟨envelope, hEnvelope, parsed, hParsed, outer, hOuter, hBreaks⟩
    exact ⟨outer, ⟨envelope, hEnvelope, parsed, hParsed, hOuter⟩, hBreaks⟩
  · rintro ⟨outer, ⟨envelope, hEnvelope, parsed, hParsed, hOuter⟩, hBreaks⟩
    exact ⟨envelope, hEnvelope, parsed, hParsed, outer, hOuter, hBreaks⟩

/-- Unpacking a text does not panic exactly if no layer that is reached gives up. -/
theorem unpack_never_panics_iff (crates : Crates) (dids : DidResolver) (secrets : SecretsResolver)
    (opts : UnpackOptions)
    (text : String) (hVarints : Varints crates) :
    (∀ p s', Message.unpackString crates dids secrets opts text (.fresh crates) ≠ .error (.panic p) s') ↔
      ¬ Breaks crates dids secrets opts text := by
  rw [← unpackString_panics_iff crates dids secrets opts hVarints, Panics]
  push Not
  rfl

/-! ## Texts -/

theorem lawful_leb128Crates : Lawful leb128Crates (fun _ => True) Prod.mk ⊤ := { ideal_lawful id with }

theorem encrypts_leb128Crates : Encrypts leb128Crates := { ideal_encrypts id with }

theorem not_breaksInside_message {m : Message} (hPrior : m.fromPrior = none) :
    ¬ BreaksInside crates dids secrets opts (.message m) := by
  have hPeels {outside : List (Layer crates)} {peeled : ParsedEnvelope} {rounds : Nat}
      (h : Peels crates dids secrets opts (.message m) outside peeled rounds) : peeled = .message m := by
    cases h with
    | stop _ => rfl
    | anoncrypted hAlg _ _ => cases hAlg
    | forwarded hAlg _ _ _ _ => cases hAlg
  have hOpened {sender : List (Layer crates)} {opened : ParsedEnvelope} {rounds : Nat}
      (h : Authenticates crates dids secrets opts rounds (.message m) sender opened) : opened = .message m := by
    cases h with
    | none _ => rfl
    | authcrypted h _ => cases h
  intro h
  cases h with
  | anon h _ _ =>
    cases h with
    | forwarded hAlg _ _ _ _ => cases hAlg
  | auth h _ hAuth =>
    cases hPeels h
    cases hAuth
  | sign h _ hAuth hSign =>
    cases hPeels h
    cases hOpened hAuth
    exact hSign
  | prior h _ hAuth hSign hBreaks =>
    cases hPeels h
    cases hOpened hAuth
    obtain ⟨-, jwt, _, _, hJwt, -⟩ := hBreaks
    cases hSign with
    | none _ => cases hPrior.symm.trans hJwt
    | signed hJws _ => exact hJws

theorem recipientKey_leb128Crates (did : String) :
    recipientKey leb128Crates (secretsOf did) (agreeKid did) = .ok ⟨.x25519, agreeKid did⟩ := by
  have hIndex : ((publicJwk "X25519" (agreeKid did)).index "x").asStr = some (agreeKid did) := rfl
  have hKey : leb128Crates.fromJwk .x25519 (leb128Crates.jsonToString (publicJwk "X25519" (agreeKid did))) =
      .ok (agreeKid did) := by
    dsimp only [leb128Crates]
    exact ideal_fromJwk id .x25519 hIndex
  have hPair : keyPairFromJwk leb128Crates "Unable parse jwk" .x25519 (publicJwk "X25519" (agreeKid did)) =
      .ok ⟨.x25519, agreeKid did⟩ := by
    rw [keyPairFromJwk, fromJwkValue, hKey]
    rfl
  simp only [recipientKey, except_bind_ok_iff, ofError_ok_iff, okOr_ok_iff]
  exact ⟨_, if_pos rfl, _, rfl, hPair⟩

/-- A key pair that is known by an id. -/
def leb128Key (curve : Curve) (kid : String) : leb128Crates.KeyPair curve := kid

theorem leb128_held {did : String} (h : '#' ∉ did.toList) :
    Held (fun _ => True) (secretsOf did) [(agreeKid did, leb128Key .x25519 (agreeKid did))] (agreeKid did) where
  oneDid := ⟨did, by simp [didOrUrl_agreeKid h]⟩
  found := ⟨[], findSecrets_agreeKid did⟩
  key := ⟨agreeKid did, agreeKid did, List.lookup_cons_self, recipientKey_leb128Crates did, ⟨_, rfl, rfl⟩, trivial⟩

/-- The text of the ping. -/
def pingPlain : String := leb128Crates.jsonToString (ping none).toJson

theorem parseEnvelope_pingPlain : parseEnvelope leb128Crates pingPlain = .ok (.message (ping none)) :=
  parseEnvelope_message lawful_leb128Crates (floatless_ping none) (depth_ping none)
    (Message.ofJson_toJson rfl rfl fun _ h => by cases h) (Message.envelope_toJson rfl)

theorem opens_sealedPing {did : String} (hDid : '#' ∉ did.toList) : ∃ text layers,
    Jwe.encrypt leb128Crates ⟨.empty, .empty, .empty⟩ pingPlain.toUTF8 .xc20P .ecdhEs .ecdhEsA256kw .xc20P none
      [(agreeKid did, leb128Key .x25519 (agreeKid did))] = .ok text ∧
    Opens leb128Crates (everyDid fun _ => []) (secretsOf did) {} text layers (ping none) none := by
  obtain ⟨jwe, hEncrypt, -⟩ := encrypts_leb128Crates.encrypt .xc20P .ecdhEs .ecdhEsA256kw none (fun h => by cases h)
    ⟨.empty, .empty, .empty⟩ pingPlain.toUTF8 .xc20P [(agreeKid did, leb128Key .x25519 (agreeKid did))]
  obtain ⟨parsed, -, hParse, hSeals⟩ := Jwe.encrypt_opens lawful_leb128Crates rfl rfl hEncrypt
  have hForward : tryParseForward (ping none) = none := rfl
  have hUnwrap : unwrapForwarded leb128Crates (everyDid fun _ => []) (secretsOf did) {}
      (some (.message (ping none))) = .ok none := by
    simp only [unwrapForwarded, tryUnwrapForwardedMessage, hForward, ite_self]
  exact ⟨_, _, hEncrypt, _, hParse, _, _, _, [], [], 1,
    .anoncrypted hSeals.alg (hSeals.opensAnon rfl (leb128_held hDid) rfl parseEnvelope_pingPlain) hUnwrap,
    by decide, .none id, .none id, rfl, rfl, rfl⟩

/-- A ping in the open, and one that is encrypted. -/
theorem unpack_never_panics_ping :
    (¬ ∃ p s', Message.unpackString leb128Crates (everyDid fun _ => []) (secretsOf "did:example:bob") {} pingPlain
      (.fresh leb128Crates) = .error (.panic p) s') ∧
    ∃ text metadata s', Jwe.encrypt leb128Crates ⟨.empty, .empty, .empty⟩ pingPlain.toUTF8 .xc20P .ecdhEs .ecdhEsA256kw
        .xc20P none [(agreeKid "did:example:bob", leb128Key .x25519 (agreeKid "did:example:bob"))] = .ok text ∧
      Message.unpackString leb128Crates (everyDid fun _ => []) (secretsOf "did:example:bob") {} text
        (.fresh leb128Crates) = .ok (ping none, metadata) s' ∧
      ¬ Breaks leb128Crates (everyDid fun _ => []) (secretsOf "did:example:bob") {} text := by
  constructor
  · rintro ⟨p, s', hPanic⟩
    refine (unpack_never_panics_iff _ _ _ _ _ varints_leb128Crates).mpr ?_ p s' hPanic
    rintro ⟨outer, hOuter, hBreaks⟩
    obtain rfl := Except.ok.inj (hOuter.symm.trans parseEnvelope_pingPlain)
    rcases hBreaks with ⟨jwe, hJwe, -⟩ | ⟨-, hBreaks⟩
    · exact ParsedEnvelope.noConfusion hJwe
    · exact not_breaksInside_message rfl hBreaks
  · obtain ⟨text, layers, hEncrypt, hOpens⟩ := opens_sealedPing (by decide : '#' ∉ "did:example:bob".toList)
    obtain ⟨s', hRun, -⟩ := (unpackString_ok_iff _ _ _ _ _ _ _ _).mpr ⟨layers, none, hOpens, rfl, rfl⟩
    refine ⟨text, _, s', hEncrypt, hRun, ?_⟩
    refine (unpack_never_panics_iff _ _ _ _ _ varints_leb128Crates).mp fun p t hPanic => ?_
    cases hRun.symm.trans hPanic

/-- A signer whose method says it has a JWK and has none. -/
def keylessDid : DidResolver :=
  ⟨fun did => .ok { documentOf [] did with verificationMethod := [⟨signKid did, "JsonWebKey2020", []⟩] }⟩

theorem sign_leb128Crates (payload : ByteArray) (kid : String) (key : leb128Crates.KeyPair .ed25519) :
    ∃ text, Jws.sign leb128Crates payload kid key .edDSA = .ok text := ⟨_, rfl⟩

theorem breaks_unnamed {did : String} (hDid : '#' ∉ did.toList) : ∃ text,
    Jwe.encrypt leb128Crates ⟨.empty, .empty, .empty⟩ .empty .xc20P .ecdhEs .ecdh1puA256kw .xc20P none
      [(agreeKid did, leb128Key .x25519 (agreeKid did))] = .ok text ∧
    Breaks leb128Crates (everyDid fun _ => []) (secretsOf did) {} text := by
  obtain ⟨jwe, hEncrypt, -⟩ := encrypts_leb128Crates.encrypt .xc20P .ecdhEs .ecdh1puA256kw none (fun h => by cases h)
    ⟨.empty, .empty, .empty⟩ .empty .xc20P [(agreeKid did, leb128Key .x25519 (agreeKid did))]
  obtain ⟨parsed, -, hParse, hSeals⟩ := Jwe.encrypt_opens lawful_leb128Crates rfl rfl hEncrypt
  have hKids : parsed.toKids = [agreeKid did] := hSeals.toKids
  have hRecipients : Recipients (secretsOf did) parsed [agreeKid did] := by
    refine ⟨agreeKid did, ?_, ?_, ?_, List.cons_ne_nil _ _⟩
    · rw [hKids]
      rfl
    · rw [ensureOneDid, ensure_ok_iff, hKids]
      simp [didOrUrl_agreeKid hDid]
    · rw [hKids]
      exact findSecrets_agreeKid did
  have hOther : ¬ (ParsedEnvelope.jwe parsed).hasAlg .ecdhEsA256kw := fun h => by cases hSeals.alg.symm.trans h
  have hUnnamed : parsed.apu = none := hSeals.apu
  have hAddressed : Addressed leb128Crates (everyDid fun _ => []) (secretsOf did) (.jwe parsed) :=
    ⟨fun apu h => absurd (hUnnamed.symm.trans h) (Option.some_ne_none apu).symm, _, hRecipients⟩
  have hAuth : BreaksAuth leb128Crates (everyDid fun _ => []) (secretsOf did) {} (.jwe parsed) 1 (.jwe parsed) :=
    .unnamed hSeals.alg hUnnamed ⟨parsed, [], rfl, hRecipients⟩ (by decide) (recipientKey_leb128Crates did)
  exact ⟨_, hEncrypt, _, hParse, .inr ⟨hAddressed, .auth (.stop hOther) (by decide) hAuth⟩⟩

theorem breaks_keyless {did : String} (hDid : '#' ∉ did.toList) (secrets : SecretsResolver) : ∃ text,
    Jws.sign leb128Crates .empty (signKid did) (leb128Key .ed25519 (signKid did)) .edDSA = .ok text ∧
    Breaks leb128Crates keylessDid secrets {} text := by
  obtain ⟨text, hSign⟩ := sign_leb128Crates .empty (signKid did) (leb128Key .ed25519 (signKid did))
  obtain ⟨jws, hParse, hAttested⟩ := Jws.sign_opens lawful_leb128Crates hSign
  obtain ⟨header, hHeader, -⟩ := hAttested.header
  obtain ⟨signature, hSignature, hKid⟩ := hAttested.signature
  have hMethod : SignerMethod leb128Crates keylessDid (signKid did) ⟨signKid did, "JsonWebKey2020", []⟩ := by
    rw [SignerMethod, didOrUrl_signKid hDid]
    refine ⟨rfl, _, rfl, ?_, ?_⟩
    · simp [leb128Crates, ideal, documentOf, ValueOrReference.id, DidUrlReference.resolve]
    · simp
  have hKeyless : ¬ (⟨signKid did, "JsonWebKey2020", []⟩ : VerificationMethod).JwkOk leb128Crates := by
    intro h
    obtain ⟨value, hValue, -⟩ := h rfl
    cases hValue
  rw [← hKid] at hMethod
  exact ⟨text, hSign, _, hParse, .inr ⟨trivial, .sign (.stop id) (by decide) (.none id)
    ⟨header, signature, _, hHeader, hSignature, hMethod, hKeyless⟩⟩⟩

/-- To authenticate without a sender, and to verify without a key. -/
theorem unpack_panics :
    (∃ text p s', Jwe.encrypt leb128Crates ⟨.empty, .empty, .empty⟩ .empty .xc20P .ecdhEs .ecdh1puA256kw .xc20P none
        [(agreeKid "did:example:bob", leb128Key .x25519 (agreeKid "did:example:bob"))] = .ok text ∧
      Message.unpackString leb128Crates (everyDid fun _ => []) (secretsOf "did:example:bob") {} text
        (.fresh leb128Crates) = .error (.panic p) s') ∧
    ∃ text p s', Jws.sign leb128Crates .empty (signKid "did:example:alice")
        (leb128Key .ed25519 (signKid "did:example:alice")) .edDSA = .ok text ∧
      Message.unpackString leb128Crates keylessDid (secretsOf "did:example:bob") {} text (.fresh leb128Crates) =
        .error (.panic p) s' := by
  have hPanics (dids : DidResolver) (text : String) :=
    unpackString_panics_iff leb128Crates dids (secretsOf "did:example:bob") {} varints_leb128Crates text
  constructor
  · obtain ⟨text, hEncrypt, hBreaks⟩ := breaks_unnamed (by decide : '#' ∉ "did:example:bob".toList)
    obtain ⟨p, s', hRun⟩ := (hPanics _ text).mpr hBreaks
    exact ⟨text, p, s', hEncrypt, hRun⟩
  · obtain ⟨text, hSign, hBreaks⟩ :=
      breaks_keyless (by decide : '#' ∉ "did:example:alice".toList) (secretsOf "did:example:bob")
    obtain ⟨p, s', hRun⟩ := (hPanics _ text).mpr hBreaks
    exact ⟨text, p, s', hSign, hRun⟩

end AffinidiMessaging.Didcomm
