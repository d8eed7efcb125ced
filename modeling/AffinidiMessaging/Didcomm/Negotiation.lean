import AffinidiMessaging.Didcomm.Onion

/-! # Which keys a message is encrypted with

The search for the keys of sender and recipient, on documents that embed all of their key agreement keys.
-/

namespace AffinidiMessaging.Didcomm

open Fallible Serde

/-- The keys of the curve can be used to agree on others. -/
def Curve.agrees : Curve → Bool
  | .ed25519 => false
  | _ => true

/-- The verification methods of the kids. -/
def keyMethods (doc : Document) (kids : List String) : List VerificationMethod :=
  kids.filterMap fun kid => doc.verificationMethod.find? fun method => method.id == kid

/-- The kids are those of verification methods of the document. -/
def Embedded (doc : Document) (kids : List String) : Prop :=
  ∀ kid ∈ kids, (doc.verificationMethod.find? fun method => method.id == kid).isSome

theorem keysOf_embedded {doc : Document} {kids : List String} (h : Embedded doc kids) (missing : String → Fault) :
    keysOf doc missing kids = .ok (keyMethods doc kids) := by
  induction kids with
  | nil => rfl
  | cons kid rest ih =>
    obtain ⟨method, hMethod⟩ := Option.isSome_iff_exists.mp (h kid List.mem_cons_self)
    have hRest := ih fun kid hKid => h kid (List.mem_cons_of_mem _ hKid)
    have hCons : keyMethods doc (kid :: rest) = method :: keyMethods doc rest := List.filterMap_cons_some hMethod
    simp only [keysOf, except_bind_ok_iff, okOr_ok_iff]
    exact ⟨method, hMethod, _, hRest, congrArg Except.ok hCons.symm⟩

theorem Embedded.filter {doc : Document} {kids : List String} (h : Embedded doc kids) (p : String → Bool) :
    Embedded doc (kids.filter p) :=
  fun kid hKid => h kid (List.mem_filter.mp hKid).1

section
variable (crates : Crates)

namespace VerificationMethod

/-- The JWK of the method, if it is of a type that has one, is there and can be read. -/
def Readable (method : VerificationMethod) : Prop :=
  ∃ alg, method.keyAlg crates = .ok alg

def isOf (curve : Curve) (method : VerificationMethod) : Bool :=
  match method.keyAlg crates with
  | .ok alg => alg == some (.known curve)
  | .error _ => false

/-- The method is a key of the curve. -/
def HasKey (curve : Curve) (method : VerificationMethod) : Prop :=
  ∃ jwk key, method.getJwk crates = .ok (some jwk) ∧ jwk.asCurve crates curve = .ok key

variable {crates} {method : VerificationMethod}

theorem isOf_iff {curve : Curve} : method.isOf crates curve = true ↔
    method.keyAlg crates = .ok (some (.known curve)) := by
  unfold isOf
  cases method.keyAlg crates <;> simp

theorem isOf_unique {curve curve' : Curve} (h : method.isOf crates curve = true)
    (h' : method.isOf crates curve' = true) :
    curve' = curve := by
  cases (isOf_iff.mp h).symm.trans (isOf_iff.mp h')
  rfl

theorem asCurve_ok_iff {msg : String} {curve : Curve} {key : crates.KeyPair curve} :
    method.asCurve crates msg curve = .ok key ↔
      ∃ jwk, method.getJwk crates = .ok (some jwk) ∧ jwk.asCurve crates curve = .ok key := by
  simp only [asCurve, except_bind_ok_iff, okOr_ok_iff]
  constructor
  · rintro ⟨_, hJwk, jwk, rfl, hKey⟩
    exact ⟨jwk, hJwk, hKey⟩
  · rintro ⟨jwk, hJwk, hKey⟩
    exact ⟨_, hJwk, jwk, rfl, hKey⟩

end VerificationMethod

open VerificationMethod

def anyCurve : Curve → Bool := fun _ => true

/-- Some of the keys is of the curve. -/
def sharedWith (methods : List VerificationMethod) (curve : Curve) : Bool :=
  methods.any (isOf crates curve)

/-- The first of the keys that is of a curve in question; those before it can be read. -/
def FirstKey (inQuestion : Curve → Bool) (methods : List VerificationMethod) (method : VerificationMethod)
    (curve : Curve) : Prop :=
  ∃ before after, methods = before ++ method :: after ∧ method.isOf crates curve = true ∧ inQuestion curve = true ∧
    ∀ earlier ∈ before, earlier.Readable crates ∧ ∀ c, earlier.isOf crates c = true → inQuestion c = false

variable {crates}

theorem firstKey_cons_iff {inQuestion : Curve → Bool} {first : VerificationMethod} {rest : List VerificationMethod}
    {method : VerificationMethod} {curve : Curve} :
    FirstKey crates inQuestion (first :: rest) method curve ↔
      first = method ∧ method.isOf crates curve = true ∧ inQuestion curve = true ∨
      (first.Readable crates ∧ ∀ c, first.isOf crates c = true → inQuestion c = false) ∧
        FirstKey crates inQuestion rest method curve := by
  constructor
  · rintro ⟨before, after, hMethods, hOf, hIn, hBefore⟩
    cases before with
    | nil =>
      cases hMethods
      exact .inl ⟨rfl, hOf, hIn⟩
    | cons e before =>
      cases hMethods
      exact .inr ⟨hBefore _ List.mem_cons_self, before, after, rfl, hOf, hIn,
        fun e he => hBefore e (List.mem_cons_of_mem _ he)⟩
  · rintro (⟨rfl, hOf, hIn⟩ | ⟨hFirst, before, after, rfl, hOf, hIn, hBefore⟩)
    · exact ⟨[], rest, rfl, hOf, hIn, by simp⟩
    · exact ⟨first :: before, after, rfl, hOf, hIn, List.forall_mem_cons.mpr ⟨hFirst, hBefore⟩⟩

theorem not_firstKey_nil {inQuestion : Curve → Bool} {method : VerificationMethod} {curve : Curve} :
    ¬ FirstKey crates inQuestion [] method curve := by
  rintro ⟨before, after, hMethods, -⟩
  simp at hMethods

section
variable {inQuestion : Curve → Bool} {first : VerificationMethod} (rest : List VerificationMethod)
  (method : VerificationMethod) (curve : Curve)

theorem not_firstKey_of_error {e : Fault} (h : first.keyAlg crates = .error e) :
    ¬ FirstKey crates inQuestion (first :: rest) method curve := by
  rw [firstKey_cons_iff]
  rintro (⟨rfl, hOf, -⟩ | ⟨⟨⟨alg, hAlg⟩, -⟩, -⟩)
  · cases h.symm.trans (isOf_iff.mp hOf)
  · cases h.symm.trans hAlg

theorem firstKey_of_other (hReadable : first.Readable crates)
    (h : ∀ c, first.isOf crates c = true → inQuestion c = false) :
    FirstKey crates inQuestion (first :: rest) method curve ↔ FirstKey crates inQuestion rest method curve := by
  rw [firstKey_cons_iff]
  constructor
  · rintro (⟨rfl, hOf, hIn⟩ | ⟨-, hRest⟩)
    · cases (h curve hOf).symm.trans hIn
    · exact hRest
  · exact fun hRest => .inr ⟨⟨hReadable, h⟩, hRest⟩

theorem firstKey_of_isOf {c : Curve} (hOf : first.isOf crates c = true) (hIn : inQuestion c = true) :
    FirstKey crates inQuestion (first :: rest) method curve ↔ first = method ∧ curve = c := by
  rw [firstKey_cons_iff]
  constructor
  · rintro (⟨rfl, hOf', -⟩ | ⟨⟨-, hOther⟩, -⟩)
    · exact ⟨rfl, isOf_unique hOf hOf'⟩
    · cases (hOther c hOf).symm.trans hIn
  · rintro ⟨rfl, rfl⟩
    exact .inl ⟨rfl, hOf, hIn⟩

end

theorem isOf_of_keyAlg {method : VerificationMethod} {alg : Option KnownKeyAlg} (h : method.keyAlg crates = .ok alg)
    (curve : Curve) : method.isOf crates curve = (alg == some (.known curve)) := by
  rw [isOf, h]

theorem firstKeyAlg_ok_iff {methods : List VerificationMethod} {alg : KnownKeyAlg} :
    firstKeyAlg crates methods = .ok (some alg) ↔
      ∃ method curve, alg = .known curve ∧ FirstKey crates anyCurve methods method curve := by
  induction methods with
  | nil => simp [firstKeyAlg, not_firstKey_nil]
  | cons first rest ih =>
    rw [firstKeyAlg]
    cases hKey : first.keyAlg crates with
    | error e =>
      simp only [not_firstKey_of_error rest _ _ hKey]
      simp [bind, Except.bind]
    | ok found =>
      have hOf := isOf_of_keyAlg hKey
      have hOther (h : ∀ c, first.isOf crates c = false) (method : VerificationMethod) (curve : Curve) :
          FirstKey crates anyCurve (first :: rest) method curve ↔ FirstKey crates anyCurve rest method curve :=
        firstKey_of_other rest method curve ⟨found, hKey⟩ fun c hc => by cases (h c).symm.trans hc
      cases found with
      | none =>
        simp only [hOther fun c => hOf c]
        exact ih
      | some found =>
        cases found with
        | unsupported =>
          simp only [hOther fun c => hOf c]
          exact ih
        | known c =>
          have hFirst (method : VerificationMethod) (curve : Curve) :
              FirstKey crates anyCurve (first :: rest) method curve ↔ first = method ∧ curve = c :=
            firstKey_of_isOf rest method curve ((hOf c).trans (by simp)) rfl
          simp only [hFirst]
          constructor
          · rintro ⟨⟩
            exact ⟨first, c, rfl, rfl, rfl⟩
          · rintro ⟨_, _, rfl, rfl, rfl⟩
            rfl

theorem anyKeyAlg_readable {methods : List VerificationMethod} (h : ∀ method ∈ methods, method.Readable crates)
    (curve : Curve) : anyKeyAlg crates (.known curve) methods = .ok (sharedWith crates methods curve) := by
  induction methods with
  | nil => rfl
  | cons first rest ih =>
    obtain ⟨alg, hAlg⟩ := h first List.mem_cons_self
    have hRest := ih fun method hMethod => h method (List.mem_cons_of_mem _ hMethod)
    rw [anyKeyAlg, hAlg, sharedWith, List.any_cons, isOf_of_keyAlg hAlg]
    simp only [bind, Except.bind]
    cases alg == some (.known curve) with
    | true => rfl
    | false => exact hRest

/-- The first key of the sender that some key of the recipient is like. -/
theorem commonKey_ok_iff {toKeys : List VerificationMethod} (hTo : ∀ method ∈ toKeys, method.Readable crates)
    {fromKeys : List VerificationMethod} {method : VerificationMethod} {alg : KnownKeyAlg} :
    commonKey crates toKeys fromKeys = .ok (some (method, alg)) ↔
      ∃ curve, alg = .known curve ∧ FirstKey crates (sharedWith crates toKeys) fromKeys method curve := by
  induction fromKeys with
  | nil => simp [commonKey, not_firstKey_nil]
  | cons first rest ih =>
    rw [commonKey]
    cases hKey : first.keyAlg crates with
    | error e =>
      simp only [not_firstKey_of_error rest _ _ hKey]
      simp [bind, Except.bind]
    | ok found =>
      have hOf := isOf_of_keyAlg hKey
      have hOther (h : ∀ c, first.isOf crates c = true → sharedWith crates toKeys c = false) (curve : Curve) :
          FirstKey crates (sharedWith crates toKeys) (first :: rest) method curve ↔
            FirstKey crates (sharedWith crates toKeys) rest method curve :=
        firstKey_of_other rest method curve ⟨found, hKey⟩ h
      cases found with
      | none =>
        simp only [hOther fun c hc => by cases (hOf c).symm.trans hc]
        exact ih
      | some found =>
        cases found with
        | unsupported =>
          simp only [hOther fun c hc => by cases (hOf c).symm.trans hc]
          exact ih
        | known c =>
          have hSelf : first.isOf crates c = true := (hOf c).trans (by simp)
          simp only [bind, Except.bind, anyKeyAlg_readable hTo]
          cases hIn : sharedWith crates toKeys c with
          | true =>
            simp only [firstKey_of_isOf rest method _ hSelf hIn]
            constructor
            · rintro ⟨⟩
              exact ⟨c, rfl, rfl, rfl⟩
            · rintro ⟨_, rfl, rfl, rfl⟩
              rfl
          | false =>
            simp only [hOther fun c' hc' => isOf_unique hSelf hc' ▸ hIn]
            exact ih

theorem keysWithAlg_ok_iff {methods found : List VerificationMethod} {curve : Curve} :
    keysWithAlg crates (.known curve) methods = .ok found ↔
      (∀ method ∈ methods, method.Readable crates) ∧ found = methods.filter (isOf crates curve) := by
  induction methods generalizing found with
  | nil => simp [keysWithAlg, eq_comm]
  | cons first rest ih =>
    simp only [keysWithAlg, except_bind_ok_iff, except_pure_eq, Except.ok.injEq, ih, List.forall_mem_cons]
    constructor
    · rintro ⟨alg, hAlg, _, ⟨hRest, rfl⟩, rfl⟩
      refine ⟨⟨⟨alg, hAlg⟩, hRest⟩, ?_⟩
      rw [List.filter_cons, isOf_of_keyAlg hAlg]
    · rintro ⟨⟨⟨alg, hAlg⟩, hRest⟩, rfl⟩
      refine ⟨alg, hAlg, _, ⟨hRest, rfl⟩, ?_⟩
      rw [List.filter_cons, isOf_of_keyAlg hAlg]

theorem keysWithAlg_readable {methods found : List VerificationMethod} {alg : KnownKeyAlg}
    (h : keysWithAlg crates alg methods = .ok found) : ∀ method ∈ methods, method.Readable crates := by
  induction methods generalizing found with
  | nil => simp
  | cons first rest ih =>
    simp only [keysWithAlg, except_bind_ok_iff] at h
    obtain ⟨alg', hAlg, others, hOthers, -⟩ := h
    exact List.forall_mem_cons.mpr ⟨⟨alg', hAlg⟩, ih hOthers⟩

theorem keyPairs_ok_iff {msg : String} {curve : Curve} {methods : List VerificationMethod} :
    (∃ keys, keyPairs crates msg curve methods = .ok keys) ↔ ∀ method ∈ methods, method.HasKey crates curve := by
  induction methods with
  | nil => simp [keyPairs]
  | cons first rest ih =>
    rw [List.forall_mem_cons, ← ih]
    simp only [keyPairs, except_bind_ok_iff, except_pure_eq, Except.ok.injEq, asCurve_ok_iff]
    constructor
    · rintro ⟨_, key, ⟨jwk, hJwk, hKey⟩, others, hOthers, rfl⟩
      exact ⟨⟨jwk, key, hJwk, hKey⟩, others, hOthers⟩
    · rintro ⟨⟨jwk, key, hJwk, hKey⟩, others, hOthers⟩
      exact ⟨_, key, ⟨jwk, hJwk, hKey⟩, others, hOthers, rfl⟩

theorem agreementCurve_ok_iff {fault : Fault} {curve curve' : Curve} :
    (KnownKeyAlg.known curve).agreementCurve fault = .ok curve' ↔ curve' = curve ∧ curve.agrees = true := by
  cases curve <;> simp [KnownKeyAlg.agreementCurve, Curve.agrees, eq_comm]

section
variable (crates) (dids : DidResolver) (secrets : SecretsResolver)

/-- The keys of a recipient: those of its document, or the one that is asked for. -/
def RecipientKeys (to_ : String) (toKidsLimit : Nat) (toKeys : List VerificationMethod) : Prop :=
  ∃ doc, dids.resolve (didOrUrl to_).1 = .ok doc ∧
    Embedded doc (crates.findKeyAgreement doc (didOrUrl to_).2) ∧
    (crates.findKeyAgreement doc (didOrUrl to_).2).length ≤ toKidsLimit ∧
    toKeys = keyMethods doc (crates.findKeyAgreement doc (didOrUrl to_).2)

/-- The keys of a sender that there are secrets of, each for the key. -/
def SenderKeys (from_ : String) (fromKeys : List VerificationMethod) : Prop :=
  ∃ doc, ∃ stored : String → Bool, dids.resolve (didOrUrl from_).1 = .ok doc ∧
    Embedded doc (crates.findKeyAgreement doc (didOrUrl from_).2) ∧
    secrets.findSecrets (crates.findKeyAgreement doc (didOrUrl from_).2) =
      .ok ((crates.findKeyAgreement doc (didOrUrl from_).2).filter stored) ∧
    fromKeys = keyMethods doc ((crates.findKeyAgreement doc (didOrUrl from_).2).filter stored) ∧
    ∀ key ∈ fromKeys, ∃ secret, secrets.getSecret key.id = .ok (some secret) ∧
      ∀ curve, key.isOf crates curve = true → ∃ pair, secret.asCurve crates curve = .ok pair

/-- The search settles on a key that others can be agreed on with, all keys of the recipient can be read, and
those of its curve are keys of the curve. -/
def Settles (inQuestion : Curve → Bool) (own toKeys : List VerificationMethod) : Prop :=
  (∀ method ∈ toKeys, method.Readable crates) ∧ ∃ method curve, FirstKey crates inQuestion own method curve ∧
    curve.agrees = true ∧ ∀ method ∈ toKeys, method.isOf crates curve = true → method.HasKey crates curve

/-- Encrypted to the keys of one curve that others can be agreed on with. -/
def AnonNegotiated (draws : Draws crates) (to_ : String) (msg : ByteArray) (alg : AnonCryptAlg) (toKidsLimit : Nat)
    (toKeys : List VerificationMethod) : Prop :=
  ∃ (curve : Curve) (jwe : Jwe), curve.agrees = true ∧ sharedWith crates toKeys curve = true ∧
    anoncrypt crates dids draws to_ msg alg toKidsLimit = .ok (crates.jsonToString jwe.toJson,
      (toKeys.filter (isOf crates curve)).map VerificationMethod.id) ∧
    jwe.recipients.map Recipient.kid = (toKeys.filter (isOf crates curve)).map VerificationMethod.id

/-- Encrypted from a key of the sender to the keys of its curve, with which others can be agreed on. -/
def AuthNegotiated (draws : Draws crates × Draws crates) (to_ from_ : String) (msg : ByteArray)
    (opts : PackEncryptedOptions) (fromKeys toKeys : List VerificationMethod) : Prop :=
  ∃ method ∈ fromKeys, ∃ (curve : Curve) (jwe : Jwe), curve.agrees = true ∧ method.isOf crates curve = true ∧
    sharedWith crates toKeys curve = true ∧
    authcrypt crates dids secrets draws to_ from_ msg opts = .ok (crates.jsonToString jwe.toJson, method.id,
      (toKeys.filter (isOf crates curve)).map VerificationMethod.id) ∧
    jwe.recipients.map Recipient.kid = (toKeys.filter (isOf crates curve)).map VerificationMethod.id

end

section
variable {dids : DidResolver} {secrets : SecretsResolver} {inQuestion : Curve → Bool}
  {own toKeys : List VerificationMethod}

theorem FirstKey.mem {method : VerificationMethod} {curve : Curve} (h : FirstKey crates inQuestion own method curve) :
    method ∈ own ∧ method.isOf crates curve = true ∧ inQuestion curve = true := by
  obtain ⟨before, after, rfl, hOf, hIn, -⟩ := h
  exact ⟨by simp, hOf, hIn⟩

theorem exists_keyPairs {curve : Curve}
    (h : ∀ method ∈ toKeys, method.isOf crates curve = true → method.HasKey crates curve) (msg : String) :
    ∃ keys, keyPairs crates msg curve (toKeys.filter (isOf crates curve)) = .ok keys ∧
      keys.map Prod.fst = (toKeys.filter (isOf crates curve)).map VerificationMethod.id := by
  obtain ⟨keys, hKeys⟩ := keyPairs_ok_iff.mpr fun method hMethod =>
    h method (List.mem_filter.mp hMethod).1 (List.mem_filter.mp hMethod).2
  exact ⟨keys, hKeys, (keyPairs_mem hKeys).1⟩

theorem hasKey_of_keyPairs {curve : Curve} {msg : String} {keys : List (String × crates.KeyPair curve)}
    (h : keyPairs crates msg curve (toKeys.filter (isOf crates curve)) = .ok keys) :
    ∀ method ∈ toKeys, method.isOf crates curve = true → method.HasKey crates curve :=
  fun method hMethod hOf => keyPairs_ok_iff.mp ⟨keys, h⟩ method (List.mem_filter.mpr ⟨hMethod, hOf⟩)

theorem toKidsOf_ok_iff {doc : Document} {kid : Option String} {toKidsLimit : Nat} {kids : List String} :
    toKidsOf crates doc kid toKidsLimit = .ok kids ↔ kids = crates.findKeyAgreement doc kid ∧
      crates.findKeyAgreement doc kid ≠ [] ∧ (crates.findKeyAgreement doc kid).length ≤ toKidsLimit := by
  simp only [toKidsOf, except_bind_ok_iff, ensure_ok_iff, except_pure_eq, Except.ok.injEq, Bool.not_eq_true',
    List.isEmpty_eq_false_iff, decide_eq_false_iff_not, Nat.not_lt]
  constructor
  · rintro ⟨_, hSome, _, hLimit, rfl⟩
    exact ⟨rfl, hSome, hLimit⟩
  · rintro ⟨rfl, hSome, hLimit⟩
    exact ⟨(), hSome, (), hLimit, rfl⟩

theorem FirstKey.kids_ne_nil {doc : Document} {kids : List String} {method : VerificationMethod} {curve : Curve}
    (h : FirstKey crates inQuestion (keyMethods doc kids) method curve) : kids ≠ [] := by
  rintro rfl
  exact not_firstKey_nil h

theorem anoncrypt_ok_iff {draws : Draws crates} {to_ : String} {msg : ByteArray} {alg : AnonCryptAlg}
    {toKidsLimit : Nat}
    (hTo : RecipientKeys crates dids to_ toKidsLimit toKeys) {r : String × List String} :
    anoncrypt crates dids draws to_ msg alg toKidsLimit = .ok r ↔
      (∀ method ∈ toKeys, method.Readable crates) ∧ ∃ method curve, FirstKey crates anyCurve toKeys method curve ∧
        curve.agrees = true ∧ ∃ keys, keyPairs crates (noJwk "p256" "k256" curve) curve
          (toKeys.filter (isOf crates curve)) = .ok keys ∧
        ∃ text, anonEncrypt crates draws curve msg alg "Unable produce anoncrypt envelope" keys = .ok text ∧
          r = (text, (toKeys.filter (isOf crates curve)).map VerificationMethod.id) := by
  obtain ⟨doc, hDoc, hEmbedded, hLimit, rfl⟩ := hTo
  simp only [anoncrypt, except_bind_ok_iff, resolved_ok_iff, toKidsOf_ok_iff, okOr_ok_iff, except_pure_eq,
    Except.ok.injEq]
  constructor
  · rintro ⟨doc', hDoc', _, ⟨rfl, -, -⟩, toKeys, hKeys, _, hFirst, alg', rfl, found, hFound, c, hCurve, keys, hPairs,
      text, hText, rfl⟩
    cases hDoc.symm.trans hDoc'
    cases (keysOf_embedded hEmbedded _).symm.trans hKeys
    obtain ⟨method, curve, rfl, hMethod⟩ := firstKeyAlg_ok_iff.mp hFirst
    obtain ⟨hReadable, rfl⟩ := keysWithAlg_ok_iff.mp hFound
    obtain ⟨rfl, hAgrees⟩ := agreementCurve_ok_iff.mp hCurve
    exact ⟨hReadable, method, c, hMethod, hAgrees, keys, hPairs, text, hText, rfl⟩
  · rintro ⟨hReadable, method, curve, hMethod, hAgrees, keys, hPairs, text, hText, rfl⟩
    exact ⟨doc, hDoc, _, ⟨rfl, hMethod.kids_ne_nil, hLimit⟩, _, keysOf_embedded hEmbedded _, _,
      firstKeyAlg_ok_iff.mpr ⟨method, curve, rfl, hMethod⟩, _, rfl, _, keysWithAlg_ok_iff.mpr ⟨hReadable, rfl⟩, curve,
      agreementCurve_ok_iff.mpr ⟨rfl, hAgrees⟩, keys, hPairs, text, hText, rfl⟩

theorem authcrypt_ok_iff {draws : Draws crates × Draws crates} {to_ from_ : String} {msg : ByteArray}
    {opts : PackEncryptedOptions} {fromKeys : List VerificationMethod}
    (hTo : RecipientKeys crates dids to_ opts.toKidsLimit toKeys)
    (hFrom : SenderKeys crates dids secrets from_ fromKeys) {r : String × String × List String} :
    authcrypt crates dids secrets draws to_ from_ msg opts = .ok r ↔
      (∀ method ∈ toKeys, method.Readable crates) ∧ ∃ method curve,
        FirstKey crates (sharedWith crates toKeys) fromKeys method curve ∧ curve.agrees = true ∧
        ∃ secret, secrets.getSecret method.id = .ok (some secret) ∧
        ∃ keys, keyPairs crates (noJwk "p_256" "k_256" curve) curve (toKeys.filter (isOf crates curve)) = .ok keys ∧
        ∃ text, authEncrypt crates draws curve msg method.id secret opts keys = .ok text ∧
          r = (text, method.id, (toKeys.filter (isOf crates curve)).map VerificationMethod.id) := by
  obtain ⟨toDoc, hToDoc, hToEmbedded, hLimit, rfl⟩ := hTo
  obtain ⟨fromDoc, stored, hFromDoc, hFromEmbedded, hStored, rfl, hSecrets⟩ := hFrom
  simp only [authcrypt, senderKids, except_bind_ok_iff, resolved_ok_iff, toKidsOf_ok_iff, okOr_ok_iff, ensure_ok_iff,
    context_ok_iff, ofError_ok_iff, except_pure_eq, Except.ok.injEq, Bool.not_eq_true', List.isEmpty_eq_false_iff]
  constructor
  · rintro ⟨toDoc', hToDoc', fromDoc', hFromDoc', _, ⟨_, hSome, kids, hKids, _, hFound, rfl⟩, fromKeys, hFromKeys, _,
      ⟨rfl, -, -⟩, toKeys, hToKeys, _, hCommon, ⟨method, alg⟩, rfl, _, hSecret, secret, rfl, found, hWithAlg, c, hCurve,
      keys, hPairs, text, hText, rfl⟩
    cases hToDoc.symm.trans hToDoc'
    cases hFromDoc.symm.trans hFromDoc'
    cases hStored.symm.trans hKids
    cases (keysOf_embedded (hFromEmbedded.filter stored) _).symm.trans hFromKeys
    cases (keysOf_embedded hToEmbedded _).symm.trans hToKeys
    have hReadable := keysWithAlg_readable hWithAlg
    obtain ⟨curve, rfl, hMethod⟩ := (commonKey_ok_iff hReadable).mp hCommon
    obtain ⟨-, rfl⟩ := keysWithAlg_ok_iff.mp hWithAlg
    obtain ⟨rfl, hAgrees⟩ := agreementCurve_ok_iff.mp hCurve
    exact ⟨hReadable, method, c, hMethod, hAgrees, secret, hSecret, keys, hPairs, text, hText, rfl⟩
  · rintro ⟨hReadable, method, curve, hMethod, hAgrees, secret, hSecret, keys, hPairs, text, hText, rfl⟩
    have hFiltered := hMethod.kids_ne_nil
    have hFromSome : crates.findKeyAgreement fromDoc (didOrUrl from_).2 ≠ [] := fun hNone =>
      hFiltered (by rw [hNone]; rfl)
    have hToSome : crates.findKeyAgreement toDoc (didOrUrl to_).2 ≠ [] := by
      intro hNone
      rw [hNone] at hMethod
      cases hMethod.mem.2.2
    refine ⟨toDoc, hToDoc, fromDoc, hFromDoc, _, ⟨(), hFromSome, _, hStored, (), hFiltered, rfl⟩, _,
      keysOf_embedded (hFromEmbedded.filter stored) _, _, ⟨rfl, hToSome, hLimit⟩, _, keysOf_embedded hToEmbedded _, _,
      (commonKey_ok_iff hReadable).mpr ⟨curve, rfl, hMethod⟩, (method, .known curve), rfl, _, hSecret, secret, rfl, _,
      keysWithAlg_ok_iff.mpr ⟨hReadable, rfl⟩, curve, agreementCurve_ok_iff.mpr ⟨rfl, hAgrees⟩, keys, hPairs, text,
      hText, rfl⟩

variable (hEncrypts : Encrypts crates)
include hEncrypts

theorem Encrypts.anonEncrypt (draws : Draws crates) (curve : Curve) (msg : ByteArray) (alg : AnonCryptAlg)
    (context : String) (keys : List (String × crates.KeyPair curve)) :
    ∃ jwe : Jwe, Didcomm.anonEncrypt crates draws curve msg alg context keys = .ok (crates.jsonToString jwe.toJson) ∧
      jwe.recipients.map Recipient.kid = keys.map Prod.fst := by
  obtain ⟨jwe, hText, hKids⟩ :=
    hEncrypts.encrypt alg.method.2 .ecdhEs .ecdhEsA256kw none (fun h => by cases h) draws msg alg.method.1 keys
  exact ⟨jwe, (context_ok_iff _ _ _).mpr hText, hKids⟩

theorem Encrypts.authEncrypt (draws : Draws crates × Draws crates) {curve : Curve} (msg : ByteArray) (fromKid : String)
    {secret : Secret} {pair : crates.KeyPair curve} (hPair : secret.asCurve crates curve = .ok pair)
    (opts : PackEncryptedOptions) (keys : List (String × crates.KeyPair curve)) :
    ∃ jwe : Jwe, Didcomm.authEncrypt crates draws curve msg fromKid secret opts keys =
        .ok (crates.jsonToString jwe.toJson) ∧
      jwe.recipients.map Recipient.kid = keys.map Prod.fst := by
  obtain ⟨jwe, hText, hKids⟩ := hEncrypts.encrypt .a256CbcHs512 .ecdh1PU .ecdh1puA256kw (some (fromKid, pair))
    (fun _ => rfl) draws.1 msg .a256cbcHs512 keys
  simp only [Didcomm.authEncrypt, except_bind_ok_iff, context_ok_iff]
  cases hProtect : opts.protectSender with
  | false => exact ⟨jwe, ⟨pair, hPair, _, hText, rfl⟩, hKids⟩
  | true =>
    obtain ⟨outer, hOuter, hOuterKids⟩ := hEncrypts.anonEncrypt draws.2 curve (crates.jsonToString jwe.toJson).toUTF8
      opts.encAlgAnon "Unable produce authcrypt envelope" keys
    exact ⟨outer, ⟨pair, hPair, _, hText, hOuter⟩, hOuterKids⟩

/-- A recipient with a key that others can be agreed on with is encrypted to exactly if the first of its keys
that is of a known kind is one of them. -/
theorem anonNegotiated_iff {draws : Draws crates} {to_ : String} {msg : ByteArray} {alg : AnonCryptAlg}
    {toKidsLimit : Nat} (hTo : RecipientKeys crates dids to_ toKidsLimit toKeys) :
    AnonNegotiated crates dids draws to_ msg alg toKidsLimit toKeys ↔ Settles crates anyCurve toKeys toKeys := by
  constructor
  · rintro ⟨_, _, -, -, hRun, -⟩
    obtain ⟨hReadable, method, curve, hMethod, hAgrees, keys, hPairs, -⟩ := (anoncrypt_ok_iff hTo).mp hRun
    exact ⟨hReadable, method, curve, hMethod, hAgrees, hasKey_of_keyPairs hPairs⟩
  · rintro ⟨hReadable, method, curve, hMethod, hAgrees, hKeys⟩
    obtain ⟨keys, hPairs, hIds⟩ := exists_keyPairs hKeys (noJwk "p256" "k256" curve)
    obtain ⟨jwe, hText, hKids⟩ := hEncrypts.anonEncrypt draws curve msg alg "Unable produce anoncrypt envelope" keys
    have hShared : sharedWith crates toKeys curve = true :=
      List.any_eq_true.mpr ⟨method, hMethod.mem.1, hMethod.mem.2.1⟩
    exact ⟨curve, jwe, hAgrees, hShared, (anoncrypt_ok_iff hTo).mpr
      ⟨hReadable, method, curve, hMethod, hAgrees, keys, hPairs, _, hText, rfl⟩, hKids.trans hIds⟩

theorem authNegotiated_iff {draws : Draws crates × Draws crates} {to_ from_ : String} {msg : ByteArray}
    {opts : PackEncryptedOptions} {fromKeys : List VerificationMethod}
    (hTo : RecipientKeys crates dids to_ opts.toKidsLimit toKeys)
    (hFrom : SenderKeys crates dids secrets from_ fromKeys) :
    AuthNegotiated crates dids secrets draws to_ from_ msg opts fromKeys toKeys ↔
      Settles crates (sharedWith crates toKeys) fromKeys toKeys := by
  constructor
  · rintro ⟨_, -, _, _, -, -, -, hRun, -⟩
    obtain ⟨hReadable, method, curve, hMethod, hAgrees, secret, -, keys, hPairs, -⟩ :=
      (authcrypt_ok_iff hTo hFrom).mp hRun
    exact ⟨hReadable, method, curve, hMethod, hAgrees, hasKey_of_keyPairs hPairs⟩
  · rintro ⟨hReadable, method, curve, hMethod, hAgrees, hKeys⟩
    obtain ⟨hMem, hOf, hShared⟩ := hMethod.mem
    obtain ⟨keys, hPairs, hIds⟩ := exists_keyPairs hKeys (noJwk "p_256" "k_256" curve)
    obtain ⟨secret, hSecret, hPair⟩ : ∃ secret, secrets.getSecret method.id = .ok (some secret) ∧
        ∀ curve, method.isOf crates curve = true → ∃ pair, secret.asCurve crates curve = .ok pair := by
      obtain ⟨_, _, -, -, -, -, hSecrets⟩ := hFrom
      exact hSecrets method hMem
    obtain ⟨pair, hPair⟩ := hPair curve hOf
    obtain ⟨jwe, hText, hKids⟩ := hEncrypts.authEncrypt draws msg method.id hPair opts keys
    exact ⟨method, hMem, curve, jwe, hAgrees, hOf, hShared, (authcrypt_ok_iff hTo hFrom).mpr
      ⟨hReadable, method, curve, hMethod, hAgrees, secret, hSecret, keys, hPairs, _, hText, rfl⟩, hKids.trans hIds⟩

/-- Some of the keys can be used to agree on others, and is of a curve in question. -/
def HasAgreement (crates : Crates) (inQuestion : Curve → Bool) (methods : List VerificationMethod) : Prop :=
  ∃ method ∈ methods, ∃ curve : Curve, curve.agrees = true ∧ method.isOf crates curve = true ∧ inQuestion curve = true

/-- Where sender and recipient have keys in common, or the recipient has any, they are found exactly if the
search settles on keys that others can be agreed on with. -/
theorem key_negotiation_iff {to_ from_ : String} {opts : PackEncryptedOptions} {fromKeys : List VerificationMethod}
    (hTo : RecipientKeys crates dids to_ opts.toKidsLimit toKeys)
    (hFrom : SenderKeys crates dids secrets from_ fromKeys) (draws : Draws crates × Draws crates) (msg : ByteArray) :
    ((HasAgreement crates (sharedWith crates toKeys) fromKeys →
        AuthNegotiated crates dids secrets draws to_ from_ msg opts fromKeys toKeys) ↔
      (HasAgreement crates (sharedWith crates toKeys) fromKeys →
        Settles crates (sharedWith crates toKeys) fromKeys toKeys)) ∧
    ((HasAgreement crates anyCurve toKeys →
        AnonNegotiated crates dids draws.1 to_ msg opts.encAlgAnon opts.toKidsLimit toKeys) ↔
      (HasAgreement crates anyCurve toKeys → Settles crates anyCurve toKeys toKeys)) :=
  ⟨imp_congr_right fun _ => authNegotiated_iff hEncrypts hTo hFrom,
    imp_congr_right fun _ => anonNegotiated_iff hEncrypts hTo⟩

end

end

/-! ## Examples -/

open VerificationMethod

/-- The document of a DID that lists the key to sign with before the one to agree on keys. -/
def mixedDocument (did : String) : Document :=
  { documentOf [] did with
    keyAgreement := [.reference (.absolute (signKid did)), .reference (.absolute (agreeKid did))] }

def mixedDids : DidResolver :=
  ⟨fun did => .ok (mixedDocument did)⟩

/-- The verification methods that `mixedDocument` lists. -/
def mixedKeys (did : String) : List VerificationMethod :=
  [methodOf "Ed25519" (signKid did), methodOf "X25519" (agreeKid did)]

theorem isOf_agree (kid : String) : (methodOf "X25519" kid).isOf (ideal id) .x25519 = true := rfl

theorem isOf_sign (kid : String) : (methodOf "Ed25519" kid).isOf (ideal id) .ed25519 = true := rfl

theorem readable_methodOf (crv kid : String) : (methodOf crv kid).Readable (ideal id) := ⟨_, rfl⟩

theorem hasKey_agree (kid : String) : (methodOf "X25519" kid).HasKey (ideal id) .x25519 :=
  asCurve_ok_iff.mp (asCurve_methodOf id "" kid) |>.imp fun _ h => ⟨_, h⟩

theorem asCurve_secret (kid : String) :
    (∃ pair, (⟨kid, .jsonWebKey2020, .jwk (publicJwk "X25519" kid)⟩ : Secret).asCurve (ideal id) .x25519 = .ok pair) ∧
      ∃ pair, (⟨kid, .jsonWebKey2020, .jwk (publicJwk "Ed25519" kid)⟩ : Secret).asCurve (ideal id) .ed25519 =
        .ok pair := by
  have hPair (curve : Curve) (crv : String) : keyPairFromJwk (ideal id) "Unable parse jwk" curve (publicJwk crv kid) =
      .ok ⟨curve, kid⟩ := keyPairFromJwk_ideal id _ _ rfl
  constructor
  · exact ⟨kid, (except_bind_ok_iff _ _ _).mpr ⟨(), rfl, (except_bind_ok_iff _ _ _).mpr ⟨_, hPair .x25519 _, rfl⟩⟩⟩
  · exact ⟨kid, (except_bind_ok_iff _ _ _).mpr ⟨(), rfl, (except_bind_ok_iff _ _ _).mpr ⟨_, hPair .ed25519 _, rfl⟩⟩⟩

theorem keyMethods_mixed (did : String) : keyMethods (mixedDocument did)
    [signKid did, agreeKid did] = mixedKeys did := by
  have hAgree : keyMethods (mixedDocument did) [agreeKid did] = [methodOf "X25519" (agreeKid did)] :=
    List.filterMap_cons_some (find_agreeKid [] did)
  have hSign : keyMethods (mixedDocument did) [signKid did, agreeKid did] =
      methodOf "Ed25519" (signKid did) :: keyMethods (mixedDocument did) [agreeKid did] :=
    List.filterMap_cons_some (find_signKid [] did)
  rw [hSign, hAgree]
  rfl

theorem embedded_mixed (did : String) : Embedded (mixedDocument did) [signKid did, agreeKid did] := by
  intro kid hKid
  rcases List.mem_cons.mp hKid with rfl | hKid
  · exact Option.isSome_iff_exists.mpr ⟨_, find_signKid [] did⟩
  · rw [List.mem_singleton.mp hKid]
    exact Option.isSome_iff_exists.mpr ⟨_, find_agreeKid [] did⟩

theorem secretsOf_mixed (did : String) : ∀ key ∈ mixedKeys did, ∃ secret,
    (secretsOf did).getSecret key.id = .ok (some secret) ∧
      ∀ curve, key.isOf (ideal id) curve = true → ∃ pair, secret.asCurve (ideal id) curve = .ok pair := by
  intro key hKey
  rcases List.mem_cons.mp hKey with rfl | hKey
  · refine ⟨_, (if_neg (agreeKid_ne_signKid did).symm).trans (if_pos rfl), fun curve hCurve => ?_⟩
    obtain rfl : curve = .ed25519 := isOf_unique (isOf_sign _) hCurve
    exact (asCurve_secret _).2
  · obtain rfl := List.mem_singleton.mp hKey
    refine ⟨_, if_pos rfl, fun curve hCurve => ?_⟩
    obtain rfl : curve = .x25519 := isOf_unique (isOf_agree _) hCurve
    exact (asCurve_secret _).1

section
variable {did : String} (h : '#' ∉ did.toList)
include h

theorem everyDid_recipientKeys :
    RecipientKeys (ideal id) (everyDid fun _ => []) did 100 [methodOf "X25519" (agreeKid did)] := by
  rw [RecipientKeys, didOrUrl_noFragment h]
  have hFind := find_agreeKid [] did
  have hKeys : keyMethods (documentOf [] did) [agreeKid did] = [methodOf "X25519" (agreeKid did)] :=
    List.filterMap_cons_some hFind
  refine ⟨_, resolve_everyDid _ h, ?_, (by decide : 1 ≤ 100), hKeys.symm⟩
  intro kid hKid
  rw [List.mem_singleton.mp hKid]
  exact Option.isSome_iff_exists.mpr ⟨_, hFind⟩

theorem everyDid_senderKeys : SenderKeys (ideal id) (everyDid fun _ => []) (secretsOf did) did
    [methodOf "X25519" (agreeKid did)] := by
  have hFind := find_agreeKid [] did
  have hKeys : keyMethods (documentOf [] did) [agreeKid did] = [methodOf "X25519" (agreeKid did)] :=
    List.filterMap_cons_some hFind
  have hKids : [agreeKid did].filter (fun _ => true) = [agreeKid did] := rfl
  rw [SenderKeys, didOrUrl_noFragment h]
  refine ⟨_, fun _ => true, resolve_everyDid _ h, ?_, (findSecrets_agreeKid did).trans (congrArg _ hKids.symm),
    hKeys.symm, fun key hKey => secretsOf_mixed did key (List.mem_cons_of_mem _ hKey)⟩
  intro kid hKid
  rw [List.mem_singleton.mp hKid]
  exact Option.isSome_iff_exists.mpr ⟨_, hFind⟩

theorem mixedDids_recipientKeys : RecipientKeys (ideal id) mixedDids did 100 (mixedKeys did) := by
  rw [RecipientKeys, didOrUrl_noFragment h]
  exact ⟨_, rfl, embedded_mixed did, (by decide : 2 ≤ 100), (keyMethods_mixed did).symm⟩

theorem mixedDids_senderKeys : SenderKeys (ideal id) mixedDids (secretsOf did) did (mixedKeys did) := by
  rw [SenderKeys, didOrUrl_noFragment h]
  refine ⟨_, fun _ => true, rfl, embedded_mixed did, ?_, (keyMethods_mixed did).symm, secretsOf_mixed did⟩
  have hKids : [signKid did, agreeKid did].filter (fun kid => kid == agreeKid did || kid == signKid did) =
      [signKid did, agreeKid did] := by simp
  exact congrArg Except.ok hKids

end

theorem settles_agree (inQuestion : Curve → Bool) (kid kid' : String) (hIn : inQuestion .x25519 = true) :
    Settles (ideal id) inQuestion [methodOf "X25519" kid] [methodOf "X25519" kid'] := by
  refine ⟨fun method hMethod => ?_, _, .x25519, (firstKey_of_isOf _ _ _ (isOf_agree kid) hIn).mpr ⟨rfl, rfl⟩, rfl,
    fun method hMethod _ => ?_⟩
  · exact List.mem_singleton.mp hMethod ▸ readable_methodOf _ _
  · exact List.mem_singleton.mp hMethod ▸ hasKey_agree _

theorem authcrypt_everyDid {sender did : String} (hSender : '#' ∉ sender.toList) (h : '#' ∉ did.toList)
    (draws : Draws (ideal id) × Draws (ideal id)) (msg : ByteArray) :
    ∃ packed, authcrypt (ideal id) (everyDid fun _ => []) (secretsOf sender) draws did sender msg {} = .ok packed ∧
      packed.2.2 = [agreeKid did] := by
  have hTo : RecipientKeys (ideal id) (everyDid fun _ => []) did ({} : PackEncryptedOptions).toKidsLimit _ :=
    everyDid_recipientKeys h
  have hNegotiated : AuthNegotiated (ideal id) (everyDid fun _ => []) (secretsOf sender) draws did sender msg {}
      [methodOf "X25519" (agreeKid sender)] [methodOf "X25519" (agreeKid did)] :=
    (authNegotiated_iff (ideal_encrypts id) hTo (everyDid_senderKeys hSender)).mpr (settles_agree _ _ _ rfl)
  obtain ⟨_, -, curve, _, -, -, hShared, hRun, -⟩ := hNegotiated
  have hOf : (methodOf "X25519" (agreeKid did)).isOf (ideal id) curve = true := by
    simpa only [sharedWith, List.any_cons, List.any_nil, Bool.or_false] using hShared
  refine ⟨_, hRun, ?_⟩
  rw [List.filter_cons_of_pos hOf]
  rfl

/-- Between documents with one key to agree on keys, these are found. -/
theorem key_negotiation_bob :
    AuthNegotiated (ideal id) (everyDid fun _ => []) (secretsOf "did:example:alice")
        (⟨.empty, .empty, .empty⟩, ⟨.empty, .empty, .empty⟩) "did:example:bob" "did:example:alice" "hello".toUTF8 {}
        [methodOf "X25519" (agreeKid "did:example:alice")] [methodOf "X25519" (agreeKid "did:example:bob")] ∧
      AnonNegotiated (ideal id) (everyDid fun _ => []) ⟨.empty, .empty, .empty⟩ "did:example:bob" "hello".toUTF8
        .xc20pEcdhEsA256kw 100 [methodOf "X25519" (agreeKid "did:example:bob")] := by
  have hTo : RecipientKeys (ideal id)
    (everyDid fun _ => []) "did:example:bob" ({} : PackEncryptedOptions).toKidsLimit _ :=
    everyDid_recipientKeys (by decide : '#' ∉ "did:example:bob".toList)
  have hFrom := everyDid_senderKeys (by decide : '#' ∉ "did:example:alice".toList)
  have hIff := key_negotiation_iff (ideal_encrypts id) hTo hFrom (⟨.empty, .empty, .empty⟩, ⟨.empty, .empty, .empty⟩)
    "hello".toUTF8
  have hAgreement (inQuestion : Curve → Bool) (kid : String) (hIn : inQuestion .x25519 = true) :
      HasAgreement (ideal id) inQuestion [methodOf "X25519" kid] :=
    ⟨_, List.mem_cons_self, .x25519, rfl, isOf_agree kid, hIn⟩
  exact ⟨hIff.1.mpr (fun _ => settles_agree _ _ _ rfl) (hAgreement _ _ rfl),
    hIff.2.mpr (fun _ => settles_agree _ _ _ rfl) (hAgreement _ _ rfl)⟩

/-- Of two keys that both sides have, the one to sign with comes first. -/
theorem signing_key_negotiated :
    RecipientKeys (ideal id) mixedDids "did:example:bob" 100 (mixedKeys "did:example:bob") ∧
    SenderKeys (ideal id) mixedDids (secretsOf "did:example:alice") "did:example:alice"
      (mixedKeys "did:example:alice") ∧
    HasAgreement (ideal id) (sharedWith (ideal id) (mixedKeys "did:example:bob")) (mixedKeys "did:example:alice") ∧
    HasAgreement (ideal id) anyCurve (mixedKeys "did:example:bob") ∧
    ∀ draws msg, ¬ AuthNegotiated (ideal id) mixedDids (secretsOf "did:example:alice") draws "did:example:bob"
        "did:example:alice" msg {} (mixedKeys "did:example:alice") (mixedKeys "did:example:bob") ∧
      ¬ AnonNegotiated (ideal id) mixedDids draws.1 "did:example:bob" msg .xc20pEcdhEsA256kw 100
        (mixedKeys "did:example:bob") := by
  have hTo := mixedDids_recipientKeys (by decide : '#' ∉ "did:example:bob".toList)
  have hFrom := mixedDids_senderKeys (by decide : '#' ∉ "did:example:alice".toList)
  have hAgree : ∀ did, methodOf "X25519" (agreeKid did) ∈ mixedKeys did := fun did => by simp [mixedKeys]
  refine ⟨hTo, hFrom, ⟨_, hAgree _, .x25519, rfl, isOf_agree _, rfl⟩, ⟨_, hAgree _, .x25519, rfl, isOf_agree _, rfl⟩,
    fun draws msg => ⟨?_, ?_⟩⟩
  · rw [authNegotiated_iff (ideal_encrypts id) hTo hFrom]
    rintro ⟨-, method, curve, hMethod, hAgrees, -⟩
    obtain ⟨-, rfl⟩ := (firstKey_of_isOf _ _ _ (isOf_sign _) rfl).mp hMethod
    cases hAgrees
  · rw [anonNegotiated_iff (ideal_encrypts id) hTo]
    rintro ⟨-, method, curve, hMethod, hAgrees, -⟩
    obtain ⟨-, rfl⟩ := (firstKey_of_isOf _ _ _ (isOf_sign _) rfl).mp hMethod
    cases hAgrees

end AffinidiMessaging.Didcomm
