import AffinidiMessaging.Didcomm.Layers

/-! # Unpacking finds the layers

Each step of `unpack` succeeds exactly when there is a layer of its kind to open, and
writes to the metadata what that layer says.
-/

namespace AffinidiMessaging.Didcomm

open Fallible Serde

variable {crates : Crates} {dids : DidResolver} {secrets : SecretsResolver}

/-- The state after metadata are written and operations went through. -/
def UnpackState.noted (s : UnpackState crates) (f : UnpackMetadata → UnpackMetadata)
    (ops : List (CryptoOp crates)) : UnpackState crates :=
  { envelope := { s.envelope with metadata := f s.envelope.metadata }, ops := s.ops ++ ops }

@[simp] theorem UnpackState.noted_noted (s : UnpackState crates) (f g : UnpackMetadata → UnpackMetadata)
    (ops ops' : List (CryptoOp crates)) :
    (s.noted f ops).noted g ops' = s.noted (fun m => g (f m)) (ops ++ ops') := by
  simp [noted]

namespace Unpack

variable (s : UnpackState crates)

theorem modifyEnvelope_bind {β : Type} (f : MetaEnvelope crates → MetaEnvelope crates)
    (g : Unit → Unpack crates β) :
    (modifyEnvelope f >>= g) s = g () { s with envelope := f s.envelope } := rfl

theorem modifyMetadata_run (f : UnpackMetadata → UnpackMetadata) :
    modifyMetadata f s = .ok () (s.noted f []) := by
  simp [modifyMetadata, modifyEnvelope, UnpackState.noted]

theorem modifyMetadata_bind {β : Type} (f : UnpackMetadata → UnpackMetadata)
    (g : Unit → Unpack crates β) : (modifyMetadata f >>= g) s = g () (s.noted f []) :=
  bind_of_ok (modifyMetadata_run s f)

theorem record_bind {β : Type} (op : CryptoOp crates) (g : Unit → Unpack crates β) :
    (record op >>= g) s = g () (s.noted id [op]) := rfl

end Unpack

@[simp] theorem ofError_ok_iff {α : Type} (x : Except Error α) (a : α) :
    Result.ofError x = .ok a ↔ x = .ok a := by
  cases x <;> simp [Result.ofError]

@[simp] theorem ofKind_ok_iff {α : Type} (kind : ErrorKind) (msg : String) (x : Except String α)
    (a : α) : Result.ofKind kind msg x = .ok a ↔ x = .ok a := by
  cases x <;> simp [Result.ofKind]

@[simp] theorem messageOf_ok_iff {α : Type} (kind : ErrorKind) (msg : String) (x : Except String α)
    (a : α) : messageOf kind msg x = .ok a ↔ x = .ok a := by
  cases x <;> simp [messageOf]

@[simp] theorem kind_ok_iff {α : Type} (kind : ErrorKind) (msg : String) (x : Result α) (a : α) :
    x.kind kind msg = .ok a ↔ x = .ok a := by
  unfold Result.kind
  split <;> simp

@[simp] theorem context_ok_iff {α : Type} (msg : String) (x : Result α) (a : α) :
    x.context msg = .ok a ↔ x = .ok a := by
  unfold Result.context
  split <;> simp

@[simp] theorem unwrap_ok_iff {α : Type} (site : Panic) (o : Option α) (a : α) :
    Result.unwrap site o = .ok a ↔ o = some a := by
  cases o <;> simp [Result.unwrap]

@[simp] theorem utf8_ok_iff (msg : String) (bytes : ByteArray) (text : String) :
    utf8 crates msg bytes = .ok text ↔ String.fromUTF8? bytes = some text := by
  unfold utf8
  cases String.fromUTF8? bytes <;> simp

@[simp] theorem resolved_ok_iff (fault : String → Fault) (did : String) (doc : Document) :
    dids.resolved fault did = .ok doc ↔ dids.resolve did = .ok doc := by
  unfold DidResolver.resolved
  cases dids.resolve did <;> simp

theorem anonMethod_unique {curve curve' : Curve} {enc : EncAlgorithm} {m m' : Cipher × AnonCryptAlg}
    (h : anonMethod curve enc = some m) (h' : anonMethod curve' enc = some m') : m = m' := by
  cases curve <;> cases curve' <;> cases enc <;> simp_all [anonMethod]

theorem anonDecrypt_ok_iff (jwe : ParsedJWE) (toKid : String) (payload : ByteArray)
    (s s' : UnpackState crates) :
    anonDecrypt crates secrets jwe toKid s = .ok payload s' ↔
      ∃ alg, OpensAnon crates secrets jwe alg toKid payload ∧
        s' = s.noted (fun m => { m with encAlgAnon := some alg }) [.decrypted jwe none toKid] := by
  simp only [anonDecrypt, lift_bind_ok_iff, Unpack.modifyMetadata_bind, Unpack.record_bind,
    okOr_ok_iff, pure_run, OpensAnon]
  constructor
  · rintro ⟨key, hKey, method, hMethod, payload', hDecrypt, hRun⟩
    cases hRun
    exact ⟨method.2, ⟨key, method.1, hKey, hMethod, hDecrypt⟩, by simp⟩
  · rintro ⟨alg, ⟨key, cipher, hKey, hMethod, hDecrypt⟩, rfl⟩
    exact ⟨key, hKey, (cipher, alg), hMethod, payload, hDecrypt, by simp⟩

theorem OpensAnon.alg_unique {jwe : ParsedJWE} {alg alg' : AnonCryptAlg} {kid kid' : String}
    {payload payload' : ByteArray} (h : OpensAnon crates secrets jwe alg kid payload)
    (h' : OpensAnon crates secrets jwe alg' kid' payload') : alg = alg' := by
  obtain ⟨key, cipher, -, hMethod, -⟩ := h
  obtain ⟨key', cipher', -, hMethod', -⟩ := h'
  exact congrArg Prod.snd (anonMethod_unique hMethod hMethod')

theorem anonPayload_ok_iff (opts : UnpackOptions) (jwe : ParsedJWE) {found : List String}
    (hFound : found ≠ []) (before : Option ByteArray) (result : Option ByteArray)
    (s s' : UnpackState crates) :
    anonPayload crates secrets opts jwe before found s = .ok result s' ↔
      ∃ alg kids payload,
        Tried (OpensAnon crates secrets jwe alg) opts.expectDecryptByAllKeys found kids payload ∧
        result = some payload ∧
        s' = s.noted (fun m => { m with encAlgAnon := some alg }) (kids.map (.decrypted jwe none)) := by
  induction found generalizing before s with
  | nil => exact absurd rfl hFound
  | cons kid rest ih =>
    rw [anonPayload]
    simp only [bind_ok_iff, anonDecrypt_ok_iff]
    cases hAll : opts.expectDecryptByAllKeys with
    | false =>
      simp only [Bool.false_eq_true, if_false, pure_run, EStateM.Result.ok.injEq]
      constructor
      · rintro ⟨payload, _, ⟨alg, hOpens, rfl⟩, rfl, rfl⟩
        exact ⟨alg, [kid], payload, .first hOpens, rfl, rfl⟩
      · rintro ⟨alg, kids, payload, hTried, rfl, rfl⟩
        cases hTried with
        | first hOpens => exact ⟨payload, _, ⟨alg, hOpens, rfl⟩, rfl, rfl⟩
    | true =>
      rw [hAll] at ih
      cases rest with
      | nil =>
        simp only [if_true, anonPayload, pure_run, EStateM.Result.ok.injEq]
        constructor
        · rintro ⟨payload, _, ⟨alg, hOpens, rfl⟩, rfl, rfl⟩
          exact ⟨alg, [kid], payload, .last hOpens, rfl, rfl⟩
        · rintro ⟨alg, kids, payload, hTried, rfl, rfl⟩
          cases hTried with
          | last hOpens => exact ⟨payload, _, ⟨alg, hOpens, rfl⟩, rfl, rfl⟩
          | next _ hRest => cases hRest
      | cons kid' rest =>
        simp only [if_true, ih (List.cons_ne_nil _ _)]
        constructor
        · rintro ⟨payload, _, ⟨alg, hOpens, rfl⟩, alg', kids, last, hTried, rfl, rfl⟩
          obtain rfl : alg = alg' := by
            cases hTried with
            | last hNext => exact hOpens.alg_unique hNext
            | next hNext _ => exact hOpens.alg_unique hNext
          exact ⟨alg, kid :: kids, last, .next hOpens hTried, rfl, by simp⟩
        · rintro ⟨alg, kids, last, hTried, rfl, rfl⟩
          cases hTried with
          | next hOpens hRest =>
            exact ⟨_, _, ⟨alg, hOpens, rfl⟩, alg, _, last, hRest, rfl, by simp⟩

theorem firstKid_ok_iff (toKids : List String) (kid : String) :
    firstKid toKids = .ok kid ↔ toKids.head? = some kid := by
  simp [firstKid]

theorem ensureFound_ok_iff (found : List String) (u : Unit) :
    ensureFound found = .ok u ↔ found ≠ [] := by
  simp [ensureFound]

theorem unpackAnoncrypt_ok_iff (opts : UnpackOptions) (jwe : ParsedJWE) (inner : ParsedEnvelope)
    (s s' : UnpackState crates) :
    unpackAnoncrypt crates secrets opts jwe s = .ok inner s' ↔
      ∃ alg kids found payload, Recipients secrets jwe found ∧
        Tried (OpensAnon crates secrets jwe alg) opts.expectDecryptByAllKeys found kids payload ∧
        openPayload crates "Anoncrypt payload is invalid utf8" (some payload) = .ok inner ∧
        s' = s.noted (Layer.anoncrypted jwe alg kids : Layer crates).describe
          (Layer.ops (.anoncrypted jwe alg kids)) := by
  simp only [unpackAnoncrypt, lift_bind_ok_iff, Unpack.modifyMetadata_bind, firstKid_ok_iff,
    ofError_ok_iff, ensureFound_ok_iff]
  simp only [bind_ok_iff, lift_ok_iff]
  constructor
  · rintro ⟨toKid, hFirst, ⟨⟩, hOne, found, hFind, ⟨⟩, hFound, result, s₁, hRun, hInner, rfl⟩
    obtain ⟨alg, kids, payload, hTried, rfl, rfl⟩ :=
      (anonPayload_ok_iff opts jwe hFound none result _ _).mp hRun
    exact ⟨alg, kids, found, payload, ⟨toKid, hFirst, hOne, hFind, hFound⟩, hTried, hInner,
      UnpackState.noted_noted _ _ _ _ _⟩
  · rintro ⟨alg, kids, found, payload, ⟨toKid, hFirst, hOne, hFind, hFound⟩, hTried, hInner, rfl⟩
    refine ⟨toKid, hFirst, (), hOne, found, hFind, (), hFound, some payload, _,
      (anonPayload_ok_iff opts jwe hFound none _ _ _).mpr ⟨alg, kids, payload, hTried, rfl, rfl⟩,
      hInner, ?_⟩
    rw [UnpackState.noted_noted]
    rfl

theorem authDecrypt_ok_iff (jwe : ParsedJWE) {kid : String} {key : KnownKeyPair crates}
    {s : UnpackState crates} (hKey : s.envelope.fromKey = some key)
    (hKid : s.envelope.fromKid = some kid) (toKid : String) (payload : ByteArray)
    (s' : UnpackState crates) :
    authDecrypt crates secrets jwe toKid s = .ok payload s' ↔
      ∃ alg, OpensAuth crates secrets jwe (kid, key) alg toKid payload ∧
        s' = s.noted (fun m => { m with encAlgAuth := some alg })
          [.decrypted jwe (some (kid, key)) toKid] := by
  simp only [authDecrypt, lift_bind_ok_iff, get_bind_run, Unpack.modifyMetadata_bind,
    Unpack.record_bind, unwrap_ok_iff, hKey, hKid, Option.some.injEq, exists_eq_left', pure_run,
    OpensAuth]
  constructor
  · rintro ⟨toKey, hToKey, alg, hMethod, key', hCurve, payload', hDecrypt, hRun⟩
    cases hRun
    exact ⟨alg, ⟨toKey, key', hToKey, hMethod, hCurve, hDecrypt⟩, by simp⟩
  · rintro ⟨alg, ⟨toKey, key', hToKey, hMethod, hCurve, hDecrypt⟩, rfl⟩
    exact ⟨toKey, hToKey, alg, hMethod, key', hCurve, payload, hDecrypt, by simp⟩

theorem authDecrypt_without_sender (jwe : ParsedJWE) {s : UnpackState crates}
    (hKey : s.envelope.fromKey = none) (toKid : String) (payload : ByteArray)
    (s' : UnpackState crates) : authDecrypt crates secrets jwe toKid s ≠ .ok payload s' := by
  intro h
  simp [authDecrypt, lift_bind_ok_iff, get_bind_run, hKey] at h

theorem authPayload_ok_iff (opts : UnpackOptions) (jwe : ParsedJWE) {kid : String}
    {key : KnownKeyPair crates} {found : List String} (hFound : found ≠ []) (count : Nat)
    (before result : Option ByteArray) {s : UnpackState crates}
    (hKey : s.envelope.fromKey = some key) (hKid : s.envelope.fromKid = some kid)
    (s' : UnpackState crates) :
    authPayload crates secrets opts jwe count before found s = .ok result s' ↔
      ∃ alg kids payload,
        Tried (OpensAuth crates secrets jwe (kid, key) alg) opts.expectDecryptByAllKeys found kids
          payload ∧
        count + kids.length < opts.cryptoOperationsLimitPerMessage ∧ result = some payload ∧
        s' = s.noted (fun m => { m with encAlgAuth := some alg })
          (kids.map (.decrypted jwe (some (kid, key)))) := by
  induction found generalizing before s count with
  | nil => exact absurd rfl hFound
  | cons toKid rest ih =>
    rw [authPayload]
    simp only [ensure_bind_ok_iff, decide_eq_true_eq]
    simp only [bind_ok_iff, authDecrypt_ok_iff jwe hKey hKid]
    cases hAll : opts.expectDecryptByAllKeys with
    | false =>
      simp only [Bool.false_eq_true, if_false, pure_run, EStateM.Result.ok.injEq]
      constructor
      · rintro ⟨hCount, payload, _, ⟨alg, hOpens, rfl⟩, rfl, rfl⟩
        exact ⟨alg, [toKid], payload, .first hOpens, hCount, rfl, rfl⟩
      · rintro ⟨alg, kids, payload, hTried, hCount, rfl, rfl⟩
        cases hTried with
        | first hOpens => exact ⟨hCount, payload, _, ⟨alg, hOpens, rfl⟩, rfl, rfl⟩
    | true =>
      rw [hAll] at ih
      cases rest with
      | nil =>
        simp only [if_true, authPayload, pure_run, EStateM.Result.ok.injEq]
        constructor
        · rintro ⟨hCount, payload, _, ⟨alg, hOpens, rfl⟩, rfl, rfl⟩
          exact ⟨alg, [toKid], payload, .last hOpens, hCount, rfl, rfl⟩
        · rintro ⟨alg, kids, payload, hTried, hCount, rfl, rfl⟩
          cases hTried with
          | last hOpens => exact ⟨hCount, payload, _, ⟨alg, hOpens, rfl⟩, rfl, rfl⟩
          | next _ hRest => cases hRest
      | cons toKid' rest =>
        simp only [if_true]
        have hKeyKept : ∀ f ops, (s.noted f ops).envelope.fromKey = some key := fun _ _ => hKey
        have hKidKept : ∀ f ops, (s.noted f ops).envelope.fromKid = some kid := fun _ _ => hKid
        constructor
        · rintro ⟨hCount, payload, s₁, ⟨alg, hOpens, rfl⟩, hRun⟩
          obtain ⟨alg', kids, last, hTried, hRest, rfl, rfl⟩ :=
            (ih (List.cons_ne_nil _ _) (count + 1) _ (hKeyKept _ _) (hKidKept _ _)).mp hRun
          cases alg
          cases alg'
          refine ⟨_, toKid :: kids, last, .next hOpens hTried, ?_, rfl, by simp⟩
          rw [List.length_cons]
          omega
        · rintro ⟨alg, kids, last, hTried, hCount, rfl, rfl⟩
          cases hTried with
          | next hOpens hRest =>
            rw [List.length_cons] at hCount
            exact ⟨by omega, _, _, ⟨alg, hOpens, rfl⟩,
              (ih (List.cons_ne_nil _ _) (count + 1) _ (hKeyKept _ _) (hKidKept _ _)).mpr
                ⟨alg, _, last, hRest, by omega, rfl, by simp⟩⟩

/-- The state after the sender of a message is filled in. -/
def UnpackState.sentBy (s : UnpackState crates) (kid : String) (doc : Document)
    (key : KnownKeyPair crates) : UnpackState crates :=
  { s with envelope := { s.envelope with
      fromDid := some (didOrUrl kid).1, fromDdoc := some doc, fromKid := some kid,
      fromKey := some key,
      metadata := { s.envelope.metadata with
        authenticated := true, encrypted := true, encryptedFromKid := some kid } } }

/-- The state after the recipients of a message are filled in. -/
def UnpackState.sentTo (s : UnpackState crates) (toKid : String) (toKids found : List String) :
    UnpackState crates :=
  { s with envelope := { s.envelope with
      toKid := some toKid, toDid := some (didOrUrl toKid).1, toKidsFound := found,
      metadata := { s.envelope.metadata with encryptedToKids := some toKids } } }

theorem fillSender_ok_iff (apu : ByteArray) (s s' : UnpackState crates) (u : Unit) :
    ParsedJWE.fillSender crates dids apu s = .ok u s' ↔
      ∃ kid doc method key, String.fromUTF8? apu = some kid ∧ (didOrUrl kid).2.isSome ∧
        dids.resolve (didOrUrl kid).1 = .ok doc ∧ crates.containsKeyAgreement doc kid ∧
        crates.getVerificationMethod doc kid = some method ∧ method.senderKey crates = .ok key ∧
        s' = s.sentBy kid doc key := by
  simp only [ParsedJWE.fillSender, lift_bind_ok_iff, ensure_bind_ok_iff, Unpack.modifyEnvelope_bind,
    Unpack.modifyMetadata_run, utf8_ok_iff, resolved_ok_iff, okOr_ok_iff]
  constructor
  · rintro ⟨kid, hKid, hUrl, doc, hDoc, hContains, method, hMethod, key, hKey, hRun⟩
    cases hRun
    exact ⟨kid, doc, method, key, hKid, hUrl, hDoc, hContains, hMethod, hKey, by
      simp [UnpackState.noted, UnpackState.sentBy]⟩
  · rintro ⟨kid, doc, method, key, hKid, hUrl, hDoc, hContains, hMethod, hKey, rfl⟩
    exact ⟨kid, hKid, hUrl, doc, hDoc, hContains, method, hMethod, key, hKey, by
      simp [UnpackState.noted, UnpackState.sentBy]⟩

theorem fillRecipients_ok_iff (jwe : ParsedJWE) (s s' : UnpackState crates) (u : Unit) :
    jwe.fillRecipients crates secrets s = .ok u s' ↔
      ∃ toKid found, jwe.toKids.head? = some toKid ∧
        ensureOneDid (didOrUrl toKid).1 jwe.toKids = .ok () ∧
        secrets.findSecrets jwe.toKids = .ok found ∧ found ≠ [] ∧
        s' = s.sentTo toKid jwe.toKids found := by
  simp only [ParsedJWE.fillRecipients, lift_bind_ok_iff, Unpack.modifyEnvelope_bind,
    Unpack.modifyMetadata_bind, firstKid_ok_iff, ofError_ok_iff, lift_ok_iff, ensureFound_ok_iff]
  constructor
  · rintro ⟨toKid, hFirst, ⟨⟩, hOne, found, hFind, hFound, rfl⟩
    exact ⟨toKid, found, hFirst, hOne, hFind, hFound, by
      simp [UnpackState.noted, UnpackState.sentTo]⟩
  · rintro ⟨toKid, found, hFirst, hOne, hFind, hFound, rfl⟩
    exact ⟨toKid, hFirst, (), hOne, found, hFind, hFound, by
      simp [UnpackState.noted, UnpackState.sentTo]⟩

theorem fillIfUnknown_known (jwe : ParsedJWE) {kid : String} {s : UnpackState crates}
    (hKid : s.envelope.fromKid = some kid) : fillIfUnknown crates dids secrets jwe s = .ok () s := by
  simp [fillIfUnknown, get_bind_run, hKid]

theorem fillIfUnknown_anonymous (jwe : ParsedJWE) (s : UnpackState crates) (hApu : jwe.apu = none) :
    fillIfUnknown crates dids secrets jwe s = .ok () s := by
  simp [fillIfUnknown, get_bind_run, hApu]

theorem fillEnvelopeFrom_anonymous_ok_iff (jwe : ParsedJWE) (hApu : jwe.apu = none)
    (s s' : UnpackState crates) (u : Unit) :
    jwe.fillEnvelopeFrom crates dids secrets s = .ok u s' ↔
      ∃ toKid found, jwe.toKids.head? = some toKid ∧
        ensureOneDid (didOrUrl toKid).1 jwe.toKids = .ok () ∧
        secrets.findSecrets jwe.toKids = .ok found ∧ found ≠ [] ∧
        s' = (s.noted (fun m => { m with anonymousSender := true }) []).sentTo toKid jwe.toKids
          found := by
  rw [ParsedJWE.fillEnvelopeFrom, ParsedJWE.fillFrom, hApu]
  dsimp only
  rw [Unpack.modifyMetadata_bind, fillRecipients_ok_iff]

theorem fillEnvelopeFrom_ok_iff (jwe : ParsedJWE) {apu : ByteArray} (hApu : jwe.apu = some apu)
    (s s' : UnpackState crates) (u : Unit) :
    jwe.fillEnvelopeFrom crates dids secrets s = .ok u s' ↔
      ∃ kid key found, String.fromUTF8? apu = some kid ∧ SenderKey crates dids kid key ∧
        Recipients secrets jwe found ∧ ∃ doc toKid,
        s' = (s.sentBy kid doc key).sentTo toKid jwe.toKids found ∧
        dids.resolve (didOrUrl kid).1 = .ok doc ∧ jwe.toKids.head? = some toKid := by
  rw [ParsedJWE.fillEnvelopeFrom, ParsedJWE.fillFrom, hApu]
  simp only [bind_ok_iff, fillSender_ok_iff, fillRecipients_ok_iff]
  constructor
  · rintro ⟨⟨⟩, _, ⟨kid, doc, method, key, hUtf8, hUrl, hDoc, hContains, hMethod, hKey, rfl⟩,
      toKid, found, hFirst, hOne, hFind, hFound, rfl⟩
    exact ⟨kid, key, found, hUtf8, ⟨hUrl, doc, method, hDoc, hContains, hMethod, hKey⟩,
      ⟨toKid, hFirst, hOne, hFind, hFound⟩, doc, toKid, rfl, hDoc, hFirst⟩
  · rintro ⟨kid, key, found, hUtf8, ⟨hUrl, doc, method, hDoc, hContains, hMethod, hKey⟩,
      ⟨toKid, hFirst, hOne, hFind, hFound⟩, doc', toKid', rfl, hDoc', hFirst'⟩
    obtain rfl : doc = doc' := Except.ok.inj (hDoc.symm.trans hDoc')
    obtain rfl : toKid = toKid' := Option.some.inj (hFirst.symm.trans hFirst')
    exact ⟨(), _, ⟨kid, doc, method, key, hUtf8, hUrl, hDoc, hContains, hMethod, hKey, rfl⟩,
      toKid, found, hFirst, hOne, hFind, hFound, rfl⟩

theorem fillIfUnknown_unknown (jwe : ParsedJWE) {apu : ByteArray} (hApu : jwe.apu = some apu)
    {s : UnpackState crates} (hKid : s.envelope.fromKid = none) :
    fillIfUnknown crates dids secrets jwe s = jwe.fillEnvelopeFrom crates dids secrets s := by
  simp [fillIfUnknown, get_bind_run, hApu, hKid]

/-- An authenticated layer, once its sender and its recipients are there. -/
theorem unpackAuthcrypt_ok_iff (opts : UnpackOptions) (jwe : ParsedJWE) (count : Nat) {kid : String}
    {key : KnownKeyPair crates} {s s₁ : UnpackState crates}
    (hFill : fillIfUnknown crates dids secrets jwe s = .ok () s₁)
    (hKid : s₁.envelope.fromKid = some kid) (hKey : s₁.envelope.fromKey = some key)
    (hFound : s₁.envelope.toKidsFound ≠ []) (inner : ParsedEnvelope) (s' : UnpackState crates) :
    unpackAuthcrypt crates dids secrets opts jwe count s = .ok inner s' ↔
      ∃ alg kids payload,
        Tried (OpensAuth crates secrets jwe (kid, key) alg) opts.expectDecryptByAllKeys
          s₁.envelope.toKidsFound kids payload ∧
        count + kids.length < opts.cryptoOperationsLimitPerMessage ∧
        openPayload crates "Authcrypt payload is invalid utf8" (some payload) = .ok inner ∧
        s' = s₁.noted (fun m => { m with encAlgAuth := some alg })
          (kids.map (.decrypted jwe (some (kid, key)))) := by
  rw [unpackAuthcrypt, bind_of_ok hFill, get_bind_run]
  simp only [bind_ok_iff, lift_ok_iff, authPayload_ok_iff opts jwe hFound count none _ hKey hKid]
  constructor
  · rintro ⟨_, _, ⟨alg, kids, payload, hTried, hCount, rfl, rfl⟩, hInner, rfl⟩
    exact ⟨alg, kids, payload, hTried, hCount, hInner, rfl⟩
  · rintro ⟨alg, kids, payload, hTried, hCount, hInner, rfl⟩
    exact ⟨_, _, ⟨alg, kids, payload, hTried, hCount, rfl, rfl⟩, hInner, rfl⟩

theorem unpackAuthcrypt_anonymous (opts : UnpackOptions) (jwe : ParsedJWE) (count : Nat)
    {s s' : UnpackState crates} (hApu : jwe.apu = none) (hKey : s.envelope.fromKey = none)
    (inner : ParsedEnvelope) :
    unpackAuthcrypt crates dids secrets opts jwe count s ≠ .ok inner s' := by
  intro hRun
  rw [unpackAuthcrypt, bind_of_ok (fillIfUnknown_anonymous jwe s hApu), get_bind_run] at hRun
  obtain ⟨result, s₁, hPayload, hRun⟩ := (bind_ok_iff _ _ _ _ _).mp hRun
  cases hFound : s.envelope.toKidsFound with
  | nil =>
    rw [hFound, authPayload] at hPayload
    cases hPayload
    simp [lift_ok_iff, openPayload, except_bind_ok_iff] at hRun
  | cons toKid rest =>
    rw [hFound, authPayload, ensure_bind_ok_iff] at hPayload
    obtain ⟨payload, s₂, hDecrypt, -⟩ := (bind_ok_iff _ _ _ _ _).mp hPayload.2
    exact authDecrypt_without_sender jwe hKey toKid payload s₂ hDecrypt

theorem unpackAuthcrypt_unknown (opts : UnpackOptions) (jwe : ParsedJWE) (count : Nat)
    {s : UnpackState crates} (hKid : s.envelope.fromKid = none) (hKey : s.envelope.fromKey = none)
    (hAlg : jwe.protected_.alg = .ecdh1puA256kw) (inner : ParsedEnvelope)
    (metadata : UnpackMetadata) (ops : List (CryptoOp crates)) :
    (∃ s', unpackAuthcrypt crates dids secrets opts jwe count s = .ok inner s' ∧
        s'.envelope.metadata = metadata ∧ s'.ops = ops) ↔
      ∃ sender alg kids, OpensLayer crates dids secrets opts (.jwe jwe)
          (.authcrypted jwe sender alg kids) inner ∧
        count + kids.length < opts.cryptoOperationsLimitPerMessage ∧
        metadata = Layer.describe (.authcrypted jwe sender alg kids) s.envelope.metadata ∧
        ops = s.ops ++ Layer.ops (.authcrypted jwe sender alg kids) := by
  constructor
  · rintro ⟨s', hRun, rfl, rfl⟩
    cases hApu : jwe.apu with
    | none => exact absurd hRun (unpackAuthcrypt_anonymous opts jwe count hApu hKey inner)
    | some apu =>
      obtain ⟨⟨⟩, s₁, hFill, -⟩ := (bind_ok_iff _ _ _ _ _).mp hRun
      rw [fillIfUnknown_unknown jwe hApu hKid] at hFill
      obtain ⟨kid, key, found, hUtf8, hSender, hRecipients, doc, toKid, rfl, -⟩ :=
        (fillEnvelopeFrom_ok_iff jwe hApu _ _ _).mp hFill
      rw [← fillIfUnknown_unknown jwe hApu hKid] at hFill
      have ⟨_, _, _, _, hFound⟩ := hRecipients
      obtain ⟨alg, kids, payload, hTried, hCount, hInner, rfl⟩ :=
        (unpackAuthcrypt_ok_iff opts jwe count hFill rfl rfl hFound inner s').mp hRun
      exact ⟨(kid, key), alg, kids, .authcrypted hAlg hApu hUtf8 hSender hRecipients hTried hInner,
        hCount, rfl, rfl⟩
  · rintro ⟨sender, alg, kids, hOpens, hCount, rfl, rfl⟩
    cases hOpens with
    | authcrypted _ hApu hUtf8 hSender hRecipients hTried hInner =>
      have ⟨_, doc, _, hDoc, _⟩ := hSender
      have ⟨toKid, hFirst, _, _, hFound⟩ := hRecipients
      have hFill := (fillEnvelopeFrom_ok_iff jwe hApu s _ ()).mpr
        ⟨_, _, _, hUtf8, hSender, hRecipients, doc, toKid, rfl, hDoc, hFirst⟩
      rw [← fillIfUnknown_unknown jwe hApu hKid] at hFill
      exact ⟨_, (unpackAuthcrypt_ok_iff opts jwe count hFill rfl rfl hFound inner _).mpr
        ⟨alg, kids, _, hTried, hCount, hInner, rfl⟩, rfl, rfl⟩

theorem signerJwk_ok_iff (kid : String) (jwk : Params) :
    signerJwk crates dids kid = .ok jwk ↔
      (didOrUrl kid).2.isSome ∧ ∃ doc method, dids.resolve (didOrUrl kid).1 = .ok doc ∧
        crates.containsAuthentication doc kid ∧
        doc.verificationMethod.find? (fun method => method.id == kid) = some method ∧
        method.getJwk crates = .ok (some jwk) := by
  simp only [signerJwk, except_bind_ok_iff, ensure_ok_iff, resolved_ok_iff, okOr_ok_iff]
  constructor
  · rintro ⟨⟨⟩, hUrl, doc, hDoc, ⟨⟩, hContains, method, hMethod, _, hJwk, rfl⟩
    exact ⟨hUrl, doc, method, hDoc, hContains, hMethod, hJwk⟩
  · rintro ⟨hUrl, doc, method, hDoc, hContains, hMethod, hJwk⟩
    exact ⟨(), hUrl, doc, hDoc, (), hContains, method, hMethod, _, hJwk, rfl⟩

theorem verifySigner_ok_iff (jws : ParsedJWS) (alg : Jws.Algorithm) (kid : String) (jwk : Params)
    (s s' : UnpackState crates) (u : Unit) :
    verifySigner crates jws alg kid jwk s = .ok u s' ↔
      ∃ name key, signMethod alg = .ok (name, key.curve) ∧
        jwk.asCurve crates key.curve = .ok key.key ∧ jws.verify crates kid key.key = .ok true ∧
        s' = s.noted (fun m => { m with signAlg := some name }) [.verified jws kid key] := by
  simp only [verifySigner, lift_bind_ok_iff, Unpack.modifyMetadata_bind, ensure_bind_ok_iff,
    context_ok_iff]
  constructor
  · rintro ⟨method, hMethod, key, hKey, valid, hValid, rfl, hRun⟩
    cases hRun
    exact ⟨method.1, ⟨method.2, key⟩, hMethod, hKey, hValid, by simp [UnpackState.noted]⟩
  · rintro ⟨name, key, hMethod, hKey, hValid, rfl⟩
    exact ⟨(name, key.curve), hMethod, key.key, hKey, true, hValid, rfl, by
      simp [Unpack.record, UnpackState.noted]⟩

variable (secrets) in
theorem unpackSign_ok_iff (opts : UnpackOptions) (jws : ParsedJWS) (inner : ParsedEnvelope)
    (s s' : UnpackState crates) :
    unpackSign crates dids jws s = .ok inner s' ↔
      ∃ layer, OpensLayer crates dids secrets opts (.jws jws) layer inner ∧
        s' = s.noted layer.describe layer.ops := by
  simp only [unpackSign, lift_bind_ok_iff, ensure_bind_ok_iff, okOr_ok_iff, signerJwk_ok_iff,
    beq_iff_eq]
  simp only [bind_ok_iff, verifySigner_ok_iff]
  simp only [Unpack.modifyMetadata_run, utf8_ok_iff, base64, ofKind_ok_iff, lift_ok_iff]
  constructor
  · rintro ⟨hLength, header, hHeader, signature, hSignature, jwk,
      ⟨hUrl, doc, method, hDoc, hContains, hMethod, hJwk⟩, ⟨⟩, _,
      ⟨name, key, hName, hKey, hValid, rfl⟩, bytes, _, ⟨hBytes, rfl⟩, payload, _, ⟨hPayload, rfl⟩, _,
      _, hModify, hInner, rfl⟩
    cases hModify
    obtain ⟨header', hProtected⟩ := List.length_eq_one_iff.mp hLength
    rw [hProtected, List.head?_cons, Option.some.injEq] at hHeader
    subst hHeader
    refine ⟨_, .signed ⟨header', signature, hProtected, hSignature, rfl,
      ⟨hUrl, doc, method, jwk, hDoc, hContains, hMethod, hJwk, hKey⟩, hName, hValid⟩ hBytes hPayload
      hInner, ?_⟩
    rw [UnpackState.noted_noted]
    rfl
  · rintro ⟨layer, hOpens, rfl⟩
    cases hOpens with
    | signed hSigned hBytes hPayload hInner =>
      obtain ⟨header, signature, hProtected, hSignature, rfl, hSigner, hName, hValid⟩ := hSigned
      obtain ⟨hUrl, doc, method, jwk, hDoc, hContains, hMethod, hJwk, hKey⟩ := hSigner
      refine ⟨by rw [hProtected]; rfl, header, by rw [hProtected]; rfl, signature, hSignature, jwk,
        ⟨hUrl, doc, method, hDoc, hContains, hMethod, hJwk⟩, (), _,
        ⟨_, _, hName, hKey, hValid, rfl⟩, _, _, ⟨hBytes, rfl⟩, _, _, ⟨hPayload, rfl⟩, (), _, rfl,
        hInner, ?_⟩
      rw [UnpackState.noted_noted]
      rfl

/-- What `from_prior` adds to the metadata. -/
def describePrior (prior : Option (FromPrior × String)) (m : UnpackMetadata) : UnpackMetadata :=
  match prior with
  | none => m
  | some p => { m with fromPrior := some p.1, fromPriorIssuerKid := some p.2 }

theorem unpackFromPrior_ok_iff (jwt : Option String) (s s' : UnpackState crates) (u : Unit) :
    unpackFromPrior crates dids jwt s = .ok u s' ↔
      ∃ prior, jwt.mapM (FromPrior.unpack crates dids) = .ok prior ∧
        s' = s.noted (describePrior prior) [] := by
  cases jwt with
  | none =>
    have hSame : s.noted (describePrior none) [] = s := by
      simp [describePrior, UnpackState.noted]
    simp [unpackFromPrior, except_pure_eq, hSame, eq_comm]
  | some jwt =>
    simp only [unpackFromPrior, lift_bind_ok_iff, Unpack.modifyMetadata_run, Option.mapM_some,
      except_map_eq, except_bind_ok_iff, except_pure_eq]
    constructor
    · rintro ⟨prior, hPrior, hRun⟩
      cases hRun
      exact ⟨some prior, ⟨prior, hPrior, rfl⟩, rfl⟩
    · rintro ⟨_, ⟨prior, hPrior, ⟨⟩⟩, rfl⟩
      exact ⟨prior, hPrior, rfl⟩

theorem validate_ok_iff (m m' : Message) : m.validate = .ok m' ↔ m.typ = plaintextTyp ∧ m' = m := by
  simp only [Message.validate, except_bind_ok_iff, ensure_ok_iff, except_pure_eq, beq_iff_eq]
  constructor
  · rintro ⟨⟨⟩, hTyp, h⟩
    cases h
    exact ⟨hTyp, rfl⟩
  · rintro ⟨hTyp, rfl⟩
    exact ⟨(), hTyp, rfl⟩

theorem tryUnpackPlaintext_some_iff (parsed : ParsedEnvelope) (m : Message)
    (s s' : UnpackState crates) :
    tryUnpackPlaintext crates dids parsed s = .ok (some m) s' ↔
      parsed = .message m ∧ m.typ = plaintextTyp ∧ ∃ prior,
        m.fromPrior.mapM (FromPrior.unpack crates dids) = .ok prior ∧
        s' = s.noted (describePrior prior) [] := by
  cases parsed with
  | message msg =>
    simp only [tryUnpackPlaintext, lift_bind_ok_iff, validate_ok_iff]
    simp only [bind_ok_iff, unpackFromPrior_ok_iff, pure_run, EStateM.Result.ok.injEq,
      Option.some.injEq, ParsedEnvelope.message.injEq]
    constructor
    · rintro ⟨_, ⟨hTyp, rfl⟩, ⟨⟩, _, hPrior, rfl, rfl⟩
      exact ⟨rfl, hTyp, hPrior⟩
    · rintro ⟨rfl, hTyp, hPrior⟩
      exact ⟨_, ⟨hTyp, rfl⟩, (), _, hPrior, rfl, rfl⟩
  | jwe jwe => simp [tryUnpackPlaintext]
  | jws jws => simp [tryUnpackPlaintext]

/-- The state after the layers are opened. -/
def UnpackState.opened (s : UnpackState crates) (layers : List (Layer crates)) :
    UnpackState crates :=
  s.noted (describeAll layers) (layers.flatMap Layer.ops)

theorem UnpackState.opened_append (s : UnpackState crates) (layers layers' : List (Layer crates)) :
    (s.opened layers).opened layers' = s.opened (layers ++ layers') := by
  rw [opened, opened, opened, noted_noted, List.flatMap_append]
  congr 1
  funext m
  rw [describeAll, describeAll, describeAll, List.foldl_append]

theorem UnpackState.opened_nil (s : UnpackState crates) : s.opened [] = s := by
  simp [opened, describeAll, noted]

theorem UnpackState.noted_layer (s : UnpackState crates) (layer : Layer crates) :
    s.noted layer.describe layer.ops = s.opened [layer] := by
  simp [opened, describeAll, noted]

theorem UnpackState.noted_forwarded (s : UnpackState crates) :
    s.noted (fun m => { m with reWrappedInForward := true }) [] = s.opened [.forwarded] :=
  s.noted_layer .forwarded

variable (dids) in
theorem tryUnpackAnoncrypt_ok_iff (opts : UnpackOptions) (parsed : ParsedEnvelope)
    (result : Option ParsedEnvelope) (s s' : UnpackState crates) :
    tryUnpackAnoncrypt crates secrets opts parsed s = .ok result s' ↔
      (¬ parsed.hasAlg .ecdhEsA256kw ∧ result = none ∧ s' = s) ∨
      (parsed.hasAlg .ecdhEsA256kw ∧ ∃ layer inner,
        OpensLayer crates dids secrets opts parsed layer inner ∧ result = some inner ∧
        s' = s.opened [layer]) := by
  cases parsed with
  | jwe jwe =>
    by_cases hAlg : jwe.protected_.alg = .ecdhEsA256kw
    · simp only [tryUnpackAnoncrypt, hAlg, ne_eq, not_true_eq_false, if_false,
        ParsedEnvelope.hasAlg, false_and, true_and, false_or, map_eq_pure_bind, bind_ok_iff,
        unpackAnoncrypt_ok_iff, pure_run, EStateM.Result.ok.injEq]
      constructor
      · rintro ⟨inner, _, ⟨alg, kids, found, payload, hRecipients, hTried, hInner, rfl⟩, rfl, rfl⟩
        exact ⟨_, inner, .anoncrypted hAlg hRecipients hTried hInner, rfl,
          UnpackState.noted_layer _ _⟩
      · rintro ⟨layer, inner, hOpens, rfl, rfl⟩
        cases hOpens with
        | anoncrypted _ hRecipients hTried hInner =>
          exact ⟨inner, _, ⟨_, _, _, _, hRecipients, hTried, hInner, rfl⟩, rfl,
            UnpackState.noted_layer _ _⟩
        | authcrypted hOther => rw [hAlg] at hOther; cases hOther
    · simp [tryUnpackAnoncrypt, ParsedEnvelope.hasAlg, hAlg, eq_comm]
  | jws jws => simp [tryUnpackAnoncrypt, ParsedEnvelope.hasAlg, eq_comm]
  | message m => simp [tryUnpackAnoncrypt, ParsedEnvelope.hasAlg, eq_comm]

theorem unpackLoop_succ (opts : UnpackOptions) (left count : Nat) (parsed : ParsedEnvelope) :
    unpackLoop crates dids secrets opts (left + 1) count parsed =
      (tryUnpackAnoncrypt crates secrets opts parsed >>= fun anoncrypted =>
        liftM (unwrapForwarded crates dids secrets opts anoncrypted) >>= fun forwarded =>
        match forwarded with
        | none => pure (anoncrypted.getD parsed, count + 1)
        | some forwardedMsg =>
          Unpack.modifyMetadata (fun m => { m with reWrappedInForward := true }) >>= fun _ =>
          liftM (parseEnvelope crates forwardedMsg) >>= fun parsed =>
          unpackLoop crates dids secrets opts left (count + 1) parsed) := rfl

theorem unpackLoop_ok_iff (opts : UnpackOptions) (left count : Nat) (parsed last : ParsedEnvelope)
    (total : Nat) (s s' : UnpackState crates) :
    unpackLoop crates dids secrets opts left count parsed s = .ok (last, total) s' ↔
      ∃ layers rounds, Peels crates dids secrets opts parsed layers last rounds ∧ rounds ≤ left ∧
        total = count + rounds ∧ s' = s.opened layers := by
  induction left generalizing count parsed s with
  | zero =>
    simp only [unpackLoop, throw_run, reduceCtorEq, false_iff]
    rintro ⟨layers, rounds, hPeels, hRounds, -⟩
    cases hPeels <;> omega
  | succ left ih =>
    rw [unpackLoop_succ]
    simp only [bind_ok_iff, tryUnpackAnoncrypt_ok_iff dids, lift_ok_iff]
    constructor
    · rintro ⟨result, _, hAnon, forwarded, _, ⟨hForward, rfl⟩, hRun⟩
      rcases hAnon with ⟨hAlg, rfl, rfl⟩ | ⟨hAlg, layer, inner, hOpens, rfl, rfl⟩
      · cases hForward
        cases hRun
        exact ⟨[], 1, .stop hAlg, by omega, rfl, s'.opened_nil.symm⟩
      · cases forwarded with
        | none =>
          cases hRun
          exact ⟨[layer], 1, .anoncrypted hAlg hOpens hForward, by omega, rfl, rfl⟩
        | some text =>
          dsimp only at hRun
          rw [Unpack.modifyMetadata_bind, lift_bind_ok_iff] at hRun
          obtain ⟨next, hNext, hRun⟩ := hRun
          obtain ⟨layers, rounds, hRest, hRounds, rfl, rfl⟩ := (ih (count + 1) next _).mp hRun
          exact ⟨layer :: .forwarded :: layers, rounds + 1,
            .forwarded hAlg hOpens hForward hNext hRest, by omega, by omega, by
              rw [UnpackState.noted_forwarded, UnpackState.opened_append,
                UnpackState.opened_append]
              rfl⟩
    · rintro ⟨layers, rounds, hPeels, hRounds, rfl, rfl⟩
      cases hPeels with
      | stop hAlg =>
        exact ⟨none, s, .inl ⟨hAlg, rfl, rfl⟩, none, s, ⟨rfl, rfl⟩, by
          rw [UnpackState.opened_nil]
          rfl⟩
      | anoncrypted hAlg hOpens hForward =>
        exact ⟨_, _, .inr ⟨hAlg, _, last, hOpens, rfl, rfl⟩, none, _, ⟨hForward, rfl⟩, rfl⟩
      | forwarded hAlg hOpens hForward hNext hRest =>
        refine ⟨_, _, .inr ⟨hAlg, _, _, hOpens, rfl, rfl⟩, some _, _, ⟨hForward, rfl⟩, ?_⟩
        dsimp only
        rw [Unpack.modifyMetadata_bind, lift_bind_ok_iff]
        exact ⟨_, hNext, (ih (count + 1) _ _).mpr ⟨_, _, hRest, by omega, by omega, by
          rw [UnpackState.noted_forwarded, UnpackState.opened_append, UnpackState.opened_append]
          rfl⟩⟩

variable (secrets) in
theorem tryUnpackSign_ok_iff (opts : UnpackOptions) (parsed : ParsedEnvelope)
    (result : Option ParsedEnvelope) (s s' : UnpackState crates) :
    tryUnpackSign crates dids parsed s = .ok result s' ↔
      (¬ parsed.isJws ∧ result = none ∧ s' = s) ∨
      (parsed.isJws ∧ ∃ layer inner, OpensLayer crates dids secrets opts parsed layer inner ∧
        result = some inner ∧ s' = s.opened [layer]) := by
  cases parsed with
  | jws jws =>
    simp only [tryUnpackSign, map_eq_pure_bind, bind_ok_iff, unpackSign_ok_iff secrets opts,
      pure_run, EStateM.Result.ok.injEq, ParsedEnvelope.isJws, not_true_eq_false, false_and,
      true_and, false_or]
    constructor
    · rintro ⟨inner, _, ⟨layer, hOpens, rfl⟩, rfl, rfl⟩
      exact ⟨layer, inner, hOpens, rfl, UnpackState.noted_layer _ _⟩
    · rintro ⟨layer, inner, hOpens, rfl, rfl⟩
      exact ⟨inner, _, ⟨layer, hOpens, rfl⟩, rfl, UnpackState.noted_layer _ _⟩
  | jwe jwe => simp [tryUnpackSign, ParsedEnvelope.isJws, eq_comm]
  | message m => simp [tryUnpackSign, ParsedEnvelope.isJws, eq_comm]

variable (secrets) in
theorem unpackDecrypted_ok_iff (opts : UnpackOptions) (parsed : ParsedEnvelope) (m : Message)
    (metadata : UnpackMetadata) (s s' : UnpackState crates) :
    Message.unpackDecrypted crates dids parsed s = .ok (m, metadata) s' ↔
      ∃ layers prior, Attests crates dids secrets opts parsed layers (.message m) ∧
        m.typ = plaintextTyp ∧ m.fromPrior.mapM (FromPrior.unpack crates dids) = .ok prior ∧
        s' = (s.opened layers).noted (describePrior prior) [] ∧ metadata = s'.envelope.metadata := by
  simp only [Message.unpackDecrypted, bind_ok_iff, tryUnpackSign_ok_iff secrets opts]
  simp only [lift_ok_iff, okOr_ok_iff, get_run, pure_run, EStateM.Result.ok.injEq, Prod.mk.injEq]
  constructor
  · rintro ⟨result, s₁, hSign, _, s₂, hPlain, _, _, ⟨rfl, rfl⟩, _, _, ⟨rfl, rfl⟩, ⟨rfl, rfl⟩, rfl⟩
    obtain ⟨hMessage, hTyp, prior, hPrior, rfl⟩ := (tryUnpackPlaintext_some_iff _ _ _ _).mp hPlain
    rcases hSign with ⟨hJws, rfl, rfl⟩ | ⟨hJws, layer, inner, hOpens, rfl, rfl⟩
    · obtain rfl : parsed = .message _ := hMessage
      exact ⟨[], prior, .none hJws, hTyp, hPrior, by rw [UnpackState.opened_nil], rfl⟩
    · obtain rfl : inner = .message _ := hMessage
      exact ⟨[layer], prior, .signed hJws hOpens, hTyp, hPrior, rfl, rfl⟩
  · rintro ⟨layers, prior, hAttests, hTyp, hPrior, rfl, rfl⟩
    cases hAttests with
    | none hJws =>
      exact ⟨none, _, .inl ⟨hJws, rfl, rfl⟩, some m, _,
        (tryUnpackPlaintext_some_iff _ _ _ _).mpr ⟨rfl, hTyp, prior, hPrior, rfl⟩, m, _, ⟨rfl, rfl⟩,
        _, _, ⟨rfl, rfl⟩, ⟨rfl, by rw [UnpackState.opened_nil]⟩, by rw [UnpackState.opened_nil]⟩
    | signed hJws hOpens =>
      exact ⟨some (.message m), _, .inr ⟨hJws, _, _, hOpens, rfl, rfl⟩, some m, _,
        (tryUnpackPlaintext_some_iff _ _ _ _).mpr ⟨rfl, hTyp, prior, hPrior, rfl⟩, m, _, ⟨rfl, rfl⟩,
        _, _, ⟨rfl, rfl⟩, ⟨rfl, rfl⟩, rfl⟩

theorem describeAll_append (layers layers' : List (Layer crates)) (m : UnpackMetadata) :
    describeAll (layers ++ layers') m = describeAll layers' (describeAll layers m) :=
  List.foldl_append

theorem SenderKey.unique {kid : String} {key key' : KnownKeyPair crates}
    (h : SenderKey crates dids kid key) (h' : SenderKey crates dids kid key') : key = key' := by
  obtain ⟨-, doc, method, hDoc, -, hMethod, hKey⟩ := h
  obtain ⟨-, doc', method', hDoc', -, hMethod', hKey'⟩ := h'
  rw [hDoc] at hDoc'
  cases hDoc'
  rw [hMethod] at hMethod'
  cases hMethod'
  exact Except.ok.inj (hKey.symm.trans hKey')

theorem Recipients.unique {jwe : ParsedJWE} {found found' : List String}
    (h : Recipients secrets jwe found) (h' : Recipients secrets jwe found') : found = found' := by
  obtain ⟨_, -, -, hFind, -⟩ := h
  obtain ⟨_, -, -, hFind', -⟩ := h'
  exact Except.ok.inj (hFind.symm.trans hFind')

variable (dids secrets) in
/-- From this state an authenticated layer of the envelope is found and described. -/
def FindsSender (opts : UnpackOptions) (count : Nat) (parsed : ParsedEnvelope)
    (s : UnpackState crates) : Prop :=
  ∀ opened metadata ops,
    (∃ result s', tryUnpackAuthcrypt crates dids secrets opts count parsed s = .ok result s' ∧
        result.getD parsed = opened ∧ s'.envelope.metadata = metadata ∧ s'.ops = ops) ↔
      ∃ layers, Authenticates crates dids secrets opts count parsed layers opened ∧
        metadata = describeAll layers s.envelope.metadata ∧ ops = s.ops ++ layers.flatMap Layer.ops

theorem findsSender_of_other (opts : UnpackOptions) (count : Nat) {parsed : ParsedEnvelope}
    (hAlg : ¬ parsed.hasAlg .ecdh1puA256kw) (s : UnpackState crates) :
    FindsSender dids secrets opts count parsed s := by
  intro opened metadata ops
  have hRun : tryUnpackAuthcrypt crates dids secrets opts count parsed = pure none := by
    cases parsed with
    | jwe jwe => exact if_pos hAlg
    | jws jws => rfl
    | message m => rfl
  rw [hRun]
  constructor
  · rintro ⟨result, s', h, rfl, rfl, rfl⟩
    cases h
    exact ⟨[], .none hAlg, rfl, by simp⟩
  · rintro ⟨layers, hAuthenticates, rfl, rfl⟩
    cases hAuthenticates with
    | none _ => exact ⟨none, s, rfl, rfl, rfl, by simp⟩
    | authcrypted h => cases h; contradiction

theorem findsSender_of_authcrypt (opts : UnpackOptions) (count : Nat) {jwe : ParsedJWE}
    (hAlg : jwe.protected_.alg = .ecdh1puA256kw) {s : UnpackState crates}
    (hRun : ∀ inner metadata ops,
      (∃ s', unpackAuthcrypt crates dids secrets opts jwe count s = .ok inner s' ∧
          s'.envelope.metadata = metadata ∧ s'.ops = ops) ↔
        ∃ sender alg kids, OpensLayer crates dids secrets opts (.jwe jwe)
            (.authcrypted jwe sender alg kids) inner ∧
          count + kids.length < opts.cryptoOperationsLimitPerMessage ∧
          metadata = Layer.describe (.authcrypted jwe sender alg kids) s.envelope.metadata ∧
          ops = s.ops ++ Layer.ops (.authcrypted jwe sender alg kids)) :
    FindsSender dids secrets opts count (.jwe jwe) s := by
  intro opened metadata ops
  rw [tryUnpackAuthcrypt, if_neg (not_not_intro hAlg)]
  simp only [map_eq_pure_bind, bind_ok_iff, pure_run, EStateM.Result.ok.injEq]
  constructor
  · rintro ⟨result, s', ⟨inner, _, hInner, rfl, rfl⟩, rfl, rfl, rfl⟩
    obtain ⟨sender, alg, kids, hOpens, hCount, hMetadata, hOps⟩ :=
      (hRun inner _ _).mp ⟨_, hInner, rfl, rfl⟩
    exact ⟨[_], .authcrypted hOpens hCount, hMetadata, by simpa using hOps⟩
  · rintro ⟨layers, hAuthenticates, rfl, rfl⟩
    cases hAuthenticates with
    | none hOther => exact absurd hAlg hOther
    | authcrypted hOpens hCount =>
      have hJwe := hOpens
      cases hJwe with
      | authcrypted =>
        obtain ⟨s', hInner, hMetadata, hOps⟩ :=
          (hRun opened _ _).mpr ⟨_, _, _, hOpens, hCount, rfl, rfl⟩
        exact ⟨some opened, s', ⟨opened, s', hInner, rfl, rfl⟩, rfl, hMetadata, by simpa using hOps⟩

theorem findsSender_of_unknown (opts : UnpackOptions) (count : Nat) (parsed : ParsedEnvelope)
    {s : UnpackState crates} (hKid : s.envelope.fromKid = none) (hKey : s.envelope.fromKey = none) :
    FindsSender dids secrets opts count parsed s := by
  by_cases hAlg : parsed.hasAlg .ecdh1puA256kw
  · cases parsed with
    | jwe jwe =>
      exact findsSender_of_authcrypt opts count hAlg
        (unpackAuthcrypt_unknown opts jwe count hKid hKey hAlg)
    | jws jws => cases hAlg
    | message m => cases hAlg
  · exact findsSender_of_other opts count hAlg s

/-- The sender and the recipients were filled in from the envelope itself. -/
theorem findsSender_of_known (opts : UnpackOptions) (count : Nat) {jwe : ParsedJWE} {apu : ByteArray}
    {kid toKid : String} {doc : Document} {key : KnownKeyPair crates} {found : List String}
    (hApu : jwe.apu = some apu) (hUtf8 : String.fromUTF8? apu = some kid)
    (hSender : SenderKey crates dids kid key) (hRecipients : Recipients secrets jwe found)
    (s : UnpackState crates) :
    FindsSender dids secrets opts count (.jwe jwe)
      ((s.sentBy kid doc key).sentTo toKid jwe.toKids found) := by
  by_cases hAlg : ParsedEnvelope.hasAlg .ecdh1puA256kw (.jwe jwe)
  · refine findsSender_of_authcrypt opts count hAlg fun inner metadata ops => ?_
    have ⟨_, _, _, _, hFound⟩ := hRecipients
    have hFill : fillIfUnknown crates dids secrets jwe
        ((s.sentBy kid doc key).sentTo toKid jwe.toKids found) = .ok () _ :=
      fillIfUnknown_known jwe rfl
    constructor
    · rintro ⟨s', hRun, rfl, rfl⟩
      obtain ⟨alg, kids, payload, hTried, hCount, hInner, rfl⟩ :=
        (unpackAuthcrypt_ok_iff opts jwe count hFill rfl rfl hFound inner s').mp hRun
      exact ⟨(kid, key), alg, kids, .authcrypted hAlg hApu hUtf8 hSender hRecipients hTried hInner,
        hCount, rfl, rfl⟩
    · rintro ⟨sender, alg, kids, hOpens, hCount, rfl, rfl⟩
      cases hOpens with
      | authcrypted _ hApu' hUtf8' hSender' hRecipients' hTried hInner =>
        cases hApu.symm.trans hApu'
        cases hUtf8.symm.trans hUtf8'
        cases hSender.unique hSender'
        cases hRecipients.unique hRecipients'
        exact ⟨_, (unpackAuthcrypt_ok_iff opts jwe count hFill rfl rfl hFound inner _).mpr
          ⟨alg, kids, _, hTried, hCount, hInner, rfl⟩, rfl, rfl⟩
  · exact findsSender_of_other opts count hAlg _

variable (dids secrets) in
/-- Unpacking, where the sender is found whatever the anonymous layers are. -/
theorem unpack_ok_iff (opts : UnpackOptions) {outer : ParsedEnvelope} {s : UnpackState crates}
    (hOuter : s.envelope.parsedEnvelope = some outer)
    (hSender : ∀ outside peeled rounds, Peels crates dids secrets opts outer outside peeled rounds →
      FindsSender dids secrets opts rounds peeled (s.opened outside))
    (m : Message) (metadata : UnpackMetadata) (ops : List (CryptoOp crates)) :
    (∃ s', Message.unpack crates dids secrets opts s = .ok (m, metadata) s' ∧ s'.ops = ops) ↔
      ∃ layers prior, OpensEnvelope crates dids secrets opts outer layers m prior ∧
        metadata = describePrior prior (describeAll layers s.envelope.metadata) ∧
        ops = s.ops ++ layers.flatMap Layer.ops := by
  simp only [Message.unpack, get_bind_run, lift_bind_ok_iff, okOr_ok_iff, hOuter, Option.some.injEq,
    exists_eq_left']
  simp only [bind_ok_iff, Prod.exists, unpackLoop_ok_iff, unpackDecrypted_ok_iff secrets opts,
    Nat.zero_add]
  constructor
  · rintro ⟨s', ⟨peeled, count, _, ⟨outside, rounds, hPeels, hRounds, rfl, rfl⟩, result, s₂, hAuth,
      inside, prior, hAttests, hTyp, hPrior, rfl, rfl⟩, rfl⟩
    obtain ⟨sender, hAuthenticates, hMetadata, hOps⟩ :=
      (hSender _ _ _ hPeels _ _ _).mp ⟨result, s₂, hAuth, rfl, rfl, rfl⟩
    refine ⟨outside ++ sender ++ inside, prior, ⟨peeled, _, outside, sender, inside, count, hPeels,
      ?_, hAuthenticates, hAttests, hTyp, hPrior, rfl⟩, ?_, ?_⟩
    · cases hPeels <;> omega
    · rw [describeAll_append, describeAll_append]
      change describePrior prior (describeAll inside s₂.envelope.metadata) = _
      rw [hMetadata]
      rfl
    · change s₂.ops ++ _ ++ _ = _
      rw [hOps]
      simp [UnpackState.opened, UnpackState.noted]
  · rintro ⟨layers, prior, ⟨peeled, opened, outside, sender, inside, rounds, hPeels, hRounds,
      hAuthenticates, hAttests, hTyp, hPrior, rfl⟩, rfl, rfl⟩
    obtain ⟨result, s₂, hAuth, hOpened, hMetadata, hOps⟩ :=
      (hSender _ _ _ hPeels _ _ _).mpr ⟨sender, hAuthenticates, rfl, rfl⟩
    subst hOpened
    refine ⟨_, ⟨peeled, rounds, _, ⟨outside, rounds, hPeels, by omega, rfl, rfl⟩, result, s₂, hAuth,
      inside, prior, hAttests, hTyp, hPrior, rfl, ?_⟩, ?_⟩
    · rw [describeAll_append, describeAll_append]
      change _ = describePrior prior (describeAll inside s₂.envelope.metadata)
      rw [hMetadata]
      rfl
    · change s₂.ops ++ _ ++ _ = _
      rw [hOps]
      simp [UnpackState.opened, UnpackState.noted]

theorem Tried.exists_opens {opens : String → ByteArray → Prop} {all : Bool}
    {found kids : List String} {payload : ByteArray} (h : Tried opens all found kids payload) :
    ∃ kid payload, opens kid payload := by
  cases h with
  | first h => exact ⟨_, _, h⟩
  | last h => exact ⟨_, _, h⟩
  | next h _ => exact ⟨_, _, h⟩

theorem OpensAnon.apu {jwe : ParsedJWE} {alg : AnonCryptAlg} {kid : String} {payload : ByteArray}
    (h : OpensAnon crates secrets jwe alg kid payload) : jwe.apu = none := by
  obtain ⟨_, _, -, -, hDecrypt⟩ := h
  simp only [ParsedJWE.decrypt, except_bind_ok_iff, ensure_ok_iff] at hDecrypt
  obtain ⟨_, hApu, -⟩ := hDecrypt
  cases hNone : jwe.apu with
  | none => rfl
  | some apu =>
    rw [hNone] at hApu
    cases hApu

/-- The layers of an encrypted message start with its own. -/
theorem OpensEnvelope.first_layer {opts : UnpackOptions} {jwe : ParsedJWE}
    {layers : List (Layer crates)} {m : Message} {prior : Option (FromPrior × String)}
    (h : OpensEnvelope crates dids secrets opts (.jwe jwe) layers m prior) :
    ∃ layer rest inner, layers = layer :: rest ∧
      OpensLayer crates dids secrets opts (.jwe jwe) layer inner := by
  obtain ⟨peeled, opened, outside, sender, inside, rounds, hPeels, -, hAuthenticates, hAttests, -, -,
    rfl⟩ := h
  cases hPeels with
  | anoncrypted _ hOpens _ => exact ⟨_, _, _, rfl, hOpens⟩
  | forwarded _ hOpens _ _ _ => exact ⟨_, _, _, rfl, hOpens⟩
  | stop _ =>
    cases hAuthenticates with
    | authcrypted hOpens _ => exact ⟨_, _, _, rfl, hOpens⟩
    | none _ =>
      cases hAttests with
      | signed hJws _ => cases hJws

/-- What is filled in for an anonymous message, its outermost layer says as well. -/
theorem OpensEnvelope.describeAll_anonymous {opts : UnpackOptions} {jwe : ParsedJWE}
    {layers : List (Layer crates)} {m : Message} {prior : Option (FromPrior × String)}
    (h : OpensEnvelope crates dids secrets opts (.jwe jwe) layers m prior) (hApu : jwe.apu = none)
    (metadata : UnpackMetadata) :
    describeAll layers { metadata with anonymousSender := true, encryptedToKids := some jwe.toKids } =
      describeAll layers metadata := by
  obtain ⟨layer, rest, inner, rfl, hOpens⟩ := h.first_layer
  cases hOpens with
  | anoncrypted => rfl
  | authcrypted _ hSome => cases hApu.symm.trans hSome

/-- What is filled in for a message with a sender, its outermost layer says as well. -/
theorem OpensEnvelope.describeAll_sent {opts : UnpackOptions} {jwe : ParsedJWE}
    {layers : List (Layer crates)} {m : Message} {prior : Option (FromPrior × String)}
    (h : OpensEnvelope crates dids secrets opts (.jwe jwe) layers m prior) {apu : ByteArray}
    (hApu : jwe.apu = some apu) (kid : String) (metadata : UnpackMetadata) :
    describeAll layers { metadata with
        authenticated := true, encrypted := true, encryptedFromKid := some kid,
        encryptedToKids := some jwe.toKids } =
      describeAll layers metadata := by
  obtain ⟨layer, rest, inner, rfl, hOpens⟩ := h.first_layer
  cases hOpens with
  | authcrypted => rfl
  | anoncrypted _ _ hTried _ =>
    obtain ⟨_, _, hAnon⟩ := hTried.exists_opens
    cases hApu.symm.trans hAnon.apu

theorem fill_anonymous_ok_iff (opts : UnpackOptions) {jwe : ParsedJWE} (hApu : jwe.apu = none)
    {s : UnpackState crates} (hKid : s.envelope.fromKid = none) (hKey : s.envelope.fromKey = none)
    (hOuter : s.envelope.parsedEnvelope = some (.jwe jwe)) (m : Message) (metadata : UnpackMetadata)
    (ops : List (CryptoOp crates)) :
    (∃ s', (jwe.fillEnvelopeFrom crates dids secrets >>= fun _ =>
          Message.unpack crates dids secrets opts) s = .ok (m, metadata) s' ∧ s'.ops = ops) ↔
      ∃ layers prior, OpensEnvelope crates dids secrets opts (.jwe jwe) layers m prior ∧
        metadata = describePrior prior (describeAll layers s.envelope.metadata) ∧
        ops = s.ops ++ layers.flatMap Layer.ops := by
  have hUnpack (toKid : String) (found : List String) := unpack_ok_iff dids secrets opts
    (s := (s.noted (fun m => { m with anonymousSender := true }) []).sentTo toKid jwe.toKids found)
    hOuter (fun _ _ _ _ => findsSender_of_unknown opts _ _ hKid hKey) m metadata ops
  constructor
  · rintro ⟨s', hRun, hOps⟩
    obtain ⟨_, s₁, hFill, hRun⟩ := (bind_ok_iff _ _ _ _ _).mp hRun
    obtain ⟨toKid, found, -, -, -, -, rfl⟩ :=
      (fillEnvelopeFrom_anonymous_ok_iff jwe hApu s s₁ ()).mp hFill
    obtain ⟨layers, prior, hOpens, rfl, rfl⟩ := (hUnpack toKid found).mp ⟨s', hRun, hOps⟩
    exact ⟨layers, prior, hOpens, congrArg _ (hOpens.describeAll_anonymous hApu s.envelope.metadata), by
      simp [UnpackState.sentTo, UnpackState.noted]⟩
  · rintro ⟨layers, prior, hOpens, rfl, rfl⟩
    have ⟨layer, rest, inner, _, hLayer⟩ := hOpens.first_layer
    cases hLayer with
    | authcrypted _ hSome => cases hApu.symm.trans hSome
    | anoncrypted _ hRecipients _ _ =>
      obtain ⟨toKid, hFirst, hOne, hFind, hFound⟩ := hRecipients
      obtain ⟨s', hRun, hOps⟩ := (hUnpack toKid _).mpr ⟨layers, prior, hOpens,
        congrArg _ (hOpens.describeAll_anonymous hApu s.envelope.metadata).symm, by
          simp [UnpackState.sentTo, UnpackState.noted]⟩
      exact ⟨s', (bind_ok_iff _ _ _ _ _).mpr ⟨(), _,
        (fillEnvelopeFrom_anonymous_ok_iff jwe hApu s _ ()).mpr
          ⟨toKid, _, hFirst, hOne, hFind, hFound, rfl⟩, hRun⟩, hOps⟩

theorem OpensLayer.apu_of_anonymous {opts : UnpackOptions} {jwe : ParsedJWE} {layer : Layer crates}
    {inner : ParsedEnvelope} (h : OpensLayer crates dids secrets opts (.jwe jwe) layer inner)
    (hAlg : ParsedEnvelope.hasAlg .ecdhEsA256kw (.jwe jwe)) : jwe.apu = none := by
  cases h with
  | anoncrypted _ _ hTried _ =>
    obtain ⟨_, _, hAnon⟩ := hTried.exists_opens
    exact hAnon.apu
  | authcrypted hAuth => cases hAuth.symm.trans hAlg

/-- Filled in from the envelope, the sender is there for its only encrypted layer. -/
theorem findsSender_of_sent (opts : UnpackOptions) {jwe : ParsedJWE} {apu : ByteArray}
    {kid : String} {key : KnownKeyPair crates} {found : List String} (doc : Document) (toKid : String)
    (hApu : jwe.apu = some apu) (hUtf8 : String.fromUTF8? apu = some kid)
    (hSender : SenderKey crates dids kid key) (hRecipients : Recipients secrets jwe found)
    (s : UnpackState crates) {outside : List (Layer crates)} {peeled : ParsedEnvelope} {rounds : Nat}
    (h : Peels crates dids secrets opts (.jwe jwe) outside peeled rounds) :
    FindsSender dids secrets opts rounds peeled
      (((s.sentBy kid doc key).sentTo toKid jwe.toKids found).opened outside) := by
  cases h with
  | stop _ =>
    rw [UnpackState.opened_nil]
    exact findsSender_of_known opts _ hApu hUtf8 hSender hRecipients s
  | anoncrypted hAlg hOpens _ => cases hApu.symm.trans (hOpens.apu_of_anonymous hAlg)
  | forwarded hAlg hOpens _ _ _ => cases hApu.symm.trans (hOpens.apu_of_anonymous hAlg)

theorem fill_sent_ok_iff (opts : UnpackOptions) {jwe : ParsedJWE} {apu : ByteArray}
    (hApu : jwe.apu = some apu) {s : UnpackState crates}
    (hOuter : s.envelope.parsedEnvelope = some (.jwe jwe)) (m : Message) (metadata : UnpackMetadata)
    (ops : List (CryptoOp crates)) :
    (∃ s', (jwe.fillEnvelopeFrom crates dids secrets >>= fun _ =>
          Message.unpack crates dids secrets opts) s = .ok (m, metadata) s' ∧ s'.ops = ops) ↔
      ∃ layers prior, OpensEnvelope crates dids secrets opts (.jwe jwe) layers m prior ∧
        metadata = describePrior prior (describeAll layers s.envelope.metadata) ∧
        ops = s.ops ++ layers.flatMap Layer.ops := by
  have hUnpack {kid : String} {key : KnownKeyPair crates} {found : List String} (doc : Document)
      (toKid : String) (hUtf8 : String.fromUTF8? apu = some kid)
      (hSender : SenderKey crates dids kid key) (hRecipients : Recipients secrets jwe found) :=
    unpack_ok_iff dids secrets opts (s := (s.sentBy kid doc key).sentTo toKid jwe.toKids found)
      hOuter (fun _ _ _ => findsSender_of_sent opts doc toKid hApu hUtf8 hSender hRecipients s)
      m metadata ops
  constructor
  · rintro ⟨s', hRun, hOps⟩
    obtain ⟨_, s₁, hFill, hRun⟩ := (bind_ok_iff _ _ _ _ _).mp hRun
    obtain ⟨kid, key, found, hUtf8, hSender, hRecipients, doc, toKid, rfl, -⟩ :=
      (fillEnvelopeFrom_ok_iff jwe hApu s s₁ ()).mp hFill
    obtain ⟨layers, prior, hOpens, rfl, rfl⟩ :=
      (hUnpack doc toKid hUtf8 hSender hRecipients).mp ⟨s', hRun, hOps⟩
    exact ⟨layers, prior, hOpens,
      congrArg _ (hOpens.describeAll_sent hApu kid s.envelope.metadata), rfl⟩
  · rintro ⟨layers, prior, hOpens, rfl, rfl⟩
    have ⟨layer, rest, inner, _, hLayer⟩ := hOpens.first_layer
    cases hLayer with
    | anoncrypted _ _ hTried _ =>
      obtain ⟨_, _, hAnon⟩ := hTried.exists_opens
      cases hApu.symm.trans hAnon.apu
    | @authcrypted _ _ kid key _ _ _ _ _ _ hSome hUtf8 hSender hRecipients _ _ =>
      cases hApu.symm.trans hSome
      have ⟨_, doc, _, hDoc, _⟩ := hSender
      have ⟨toKid, hFirst, _⟩ := hRecipients
      obtain ⟨s', hRun, hOps⟩ := (hUnpack doc toKid hUtf8 hSender hRecipients).mpr ⟨layers, prior,
        hOpens, congrArg _ (hOpens.describeAll_sent hApu kid s.envelope.metadata).symm, rfl⟩
      exact ⟨s', (bind_ok_iff _ _ _ _ _).mpr ⟨(), _, (fillEnvelopeFrom_ok_iff jwe hApu s _ ()).mpr
        ⟨kid, key, _, hUtf8, hSender, hRecipients, doc, toKid, rfl, hDoc, hFirst⟩, hRun⟩, hOps⟩

variable (dids secrets) in
theorem fill_ok_iff (opts : UnpackOptions) (outer : ParsedEnvelope) {s : UnpackState crates}
    (hKid : s.envelope.fromKid = none) (hKey : s.envelope.fromKey = none)
    (hOuter : s.envelope.parsedEnvelope = some outer) (m : Message) (metadata : UnpackMetadata)
    (ops : List (CryptoOp crates)) :
    (∃ s', (outer.fill crates dids secrets >>= fun _ => Message.unpack crates dids secrets opts) s =
        .ok (m, metadata) s' ∧ s'.ops = ops) ↔
      ∃ layers prior, OpensEnvelope crates dids secrets opts outer layers m prior ∧
        metadata = describePrior prior (describeAll layers s.envelope.metadata) ∧
        ops = s.ops ++ layers.flatMap Layer.ops := by
  have hPlain := unpack_ok_iff dids secrets opts hOuter
    (fun _ _ _ _ => findsSender_of_unknown opts _ _ hKid hKey) m metadata ops
  cases outer with
  | jws jws => exact hPlain
  | message msg => exact hPlain
  | jwe jwe =>
    cases hApu : jwe.apu with
    | none => exact fill_anonymous_ok_iff opts hApu hKid hKey hOuter m metadata ops
    | some apu => exact fill_sent_ok_iff opts hApu hOuter m metadata ops

theorem layers_keep_prior (layers : List (Layer crates)) (m : UnpackMetadata) :
    (describeAll layers m).fromPrior = m.fromPrior ∧
      (describeAll layers m).fromPriorIssuerKid = m.fromPriorIssuerKid := by
  induction layers generalizing m with
  | nil => exact ⟨rfl, rfl⟩
  | cons layer rest ih =>
    obtain ⟨hPrior, hKid⟩ := ih (layer.describe m)
    cases layer <;> exact ⟨hPrior, hKid⟩

theorem describePrior_describeAll (layers : List (Layer crates))
    (prior : Option (FromPrior × String)) :
    describePrior prior (describeAll layers {}) = metadataOf layers prior := by
  cases prior with
  | some p => rfl
  | none =>
    obtain ⟨hPrior, hKid⟩ := layers_keep_prior layers {}
    rw [metadataOf, Option.map_none, Option.map_none]
    change _ = { describeAll layers ({} : UnpackMetadata) with
      fromPrior := ({} : UnpackMetadata).fromPrior,
      fromPriorIssuerKid := ({} : UnpackMetadata).fromPriorIssuerKid }
    rw [← hPrior, ← hKid]
    rfl

variable (crates) in
/-- The default envelope, before anything is done with it. -/
def UnpackState.fresh : UnpackState crates := { envelope := {}, ops := [] }

variable (crates dids secrets) in
/-- A text is unpacked to a message exactly when it opens to it; the metadata are what the layers
and `from_prior` say, and the operations that went through are those of the layers. -/
theorem unpackString_ok_iff (opts : UnpackOptions) (text : String) (m : Message)
    (metadata : UnpackMetadata) (ops : List (CryptoOp crates)) :
    (∃ s', Message.unpackString crates dids secrets opts text (.fresh crates) =
        .ok (m, metadata) s' ∧ s'.ops = ops) ↔
      ∃ layers prior, Opens crates dids secrets opts text layers m prior ∧
        metadata = metadataOf layers prior ∧ ops = layers.flatMap Layer.ops := by
  have hRun (envelope : Envelope) (outer : ParsedEnvelope) := fill_ok_iff dids secrets opts outer
    (s := ⟨{ envelope := some envelope, parsedEnvelope := some outer }, []⟩) rfl rfl rfl m metadata ops
  constructor
  · rintro ⟨s', hString, hOps⟩
    obtain ⟨_, s₁, hNew, hUnpack⟩ := (bind_ok_iff _ _ _ _ _).mp hString
    simp only [MetaEnvelope.new, lift_bind_ok_iff, Unpack.modifyEnvelope_bind] at hNew
    obtain ⟨envelope, hEnvelope, parsed, hParsed, outer, hOuter, hFill⟩ := hNew
    obtain ⟨layers, prior, hOpens, rfl, rfl⟩ := (hRun envelope outer).mp
      ⟨s', (bind_ok_iff _ _ _ _ _).mpr ⟨(), s₁, hFill, hUnpack⟩, hOps⟩
    refine ⟨layers, prior, ⟨outer, ?_, hOpens⟩, describePrior_describeAll layers prior, rfl⟩
    simp only [parseEnvelope, except_bind_ok_iff]
    exact ⟨envelope, hEnvelope, parsed, hParsed, hOuter⟩
  · rintro ⟨layers, prior, ⟨outer, hText, hOpens⟩, rfl, rfl⟩
    simp only [parseEnvelope, except_bind_ok_iff] at hText
    obtain ⟨envelope, hEnvelope, parsed, hParsed, hOuter⟩ := hText
    obtain ⟨s', hFilled, hOps⟩ := (hRun envelope outer).mpr
      ⟨layers, prior, hOpens, (describePrior_describeAll layers prior).symm, rfl⟩
    obtain ⟨_, s₁, hFill, hUnpack⟩ := (bind_ok_iff _ _ _ _ _).mp hFilled
    refine ⟨s', (bind_ok_iff _ _ _ _ _).mpr ⟨(), s₁, ?_, hUnpack⟩, hOps⟩
    simp only [MetaEnvelope.new, lift_bind_ok_iff, Unpack.modifyEnvelope_bind]
    exact ⟨envelope, hEnvelope, parsed, hParsed, outer, hOuter, hFill⟩

end AffinidiMessaging.Didcomm
