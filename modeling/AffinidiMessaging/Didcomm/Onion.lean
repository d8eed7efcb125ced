import AffinidiMessaging.Didcomm.Plaintext
import AffinidiMessaging.Didcomm.ReWrapping
import AffinidiMessaging.Didcomm.Routing

/-! # The onion of forwards

Each layer of the onion that `wrap_in_forward` makes is opened with the secrets of its routing key, and
inside of it is the forward message to the next one.
-/

namespace AffinidiMessaging.Didcomm

open Fallible Serde

section
variable {opens : String → ByteArray → Prop} {payload : ByteArray}

/-- Where all kids open the same, all kinds of trying do. -/
theorem Tried.of_forall (all : Bool) {found : List String} (hFound : found ≠ [])
    (h : ∀ kid ∈ found, opens kid payload) : ∃ kids, Tried opens all found kids payload := by
  cases all with
  | false =>
    cases found with
    | nil => exact absurd rfl hFound
    | cons kid rest => exact ⟨[kid], .first (h kid List.mem_cons_self)⟩
  | true =>
    induction found with
    | nil => exact absurd rfl hFound
    | cons kid rest ih =>
      rw [List.forall_mem_cons] at h
      cases rest with
      | nil => exact ⟨[kid], .last h.1⟩
      | cons next others =>
        obtain ⟨kids, hRest⟩ := ih (List.cons_ne_nil _ _) h.2
        exact ⟨kid :: kids, .next h.1 hRest⟩

theorem Tried.exists_of_payload {all : Bool} {found kids : List String} (h : Tried opens all found kids payload) :
    ∃ kid ∈ found, opens kid payload := by
  induction h with
  | first h => exact ⟨_, List.mem_cons_self, h⟩
  | last h => exact ⟨_, List.mem_cons_self, h⟩
  | next _ _ ih =>
    obtain ⟨kid, hKid, h⟩ := ih
    exact ⟨kid, List.mem_cons_of_mem _ hKid, h⟩

end

theorem exists_lookup_of_mem {α : Type} {k : String} {entries : List (String × α)} (h : k ∈ entries.map Prod.fst) :
    ∃ v, entries.lookup k = some v ∧ (k, v) ∈ entries := by
  cases hLookup : entries.lookup k with
  | none =>
    obtain ⟨p, hp, rfl⟩ := List.mem_map.mp h
    have hOther := List.lookup_eq_none_iff.mp hLookup p hp
    exact absurd rfl (bne_iff_ne.mp hOther)
  | some v =>
    obtain ⟨before, after, rfl, -⟩ := List.lookup_eq_some_iff.mp hLookup
    exact ⟨v, rfl, List.mem_append_right _ List.mem_cons_self⟩

variable {crates : Crates} {hasPrivate : {curve : Curve} → crates.KeyPair curve → Prop}
  {dids : DidResolver} {secrets : SecretsResolver} {opts : UnpackOptions}

variable (crates) in
/-- The key agreement keys of a well-formed document, and secrets for them. -/
structure HoldsKeys (hasPrivate : {curve : Curve} → crates.KeyPair curve → Prop) (doc : Document)
    (kid : Option String) (secrets : SecretsResolver) : Prop where
  oneDid : ∃ did, ∀ k ∈ crates.findKeyAgreement doc kid, (didOrUrl k).1 = did ∧ (didOrUrl k).2.isSome
  found : ∀ kids, kids ≠ [] → (∀ k ∈ kids, k ∈ crates.findKeyAgreement doc kid) →
    ∃ found, secrets.findSecrets kids = .ok found ∧ found ≠ [] ∧ ∀ k ∈ found, k ∈ kids
  key : ∀ k ∈ crates.findKeyAgreement doc kid, ∀ method,
    doc.verificationMethod.find? (fun m => m.id == k) = some method →
    ∀ msg curve (key : crates.KeyPair curve), method.asCurve crates msg curve = .ok key →
      ∃ key', recipientKey crates secrets k = .ok ⟨curve, key'⟩ ∧ SamePublic key key' ∧ hasPrivate key'

/-- The recipients of an anonymous message, as `anoncrypt` takes them from a document. -/
structure RecipientsOf (doc : Document) (kid : Option String) {curve : Curve}
    (recipients : List (String × crates.KeyPair curve)) : Prop where
  some_ : recipients ≠ []
  key : ∀ r ∈ recipients, r.1 ∈ crates.findKeyAgreement doc kid ∧
    ∃ method msg, doc.verificationMethod.find? (fun m => m.id == r.1) = some method ∧
      method.asCurve crates msg curve = .ok r.2

theorem keysOf_mem {doc : Document} {missing : String → Fault} {kids : List String}
    {methods : List VerificationMethod} (h : keysOf doc missing kids = .ok methods) :
    ∀ method ∈ methods, method.id ∈ kids ∧ doc.verificationMethod.find? (fun m => m.id == method.id) = some method := by
  induction kids generalizing methods with
  | nil =>
    cases h
    simp
  | cons kid rest ih =>
    simp only [keysOf, except_bind_ok_iff, okOr_ok_iff] at h
    obtain ⟨first, hFirst, others, hOthers, hMethods⟩ := h
    cases hMethods
    have hFound := List.find?_some hFirst
    obtain rfl : first.id = kid := beq_iff_eq.mp hFound
    rw [List.forall_mem_cons]
    refine ⟨⟨List.mem_cons_self, hFirst⟩, fun method hMethod => ?_⟩
    exact ⟨List.mem_cons_of_mem _ (ih hOthers method hMethod).1, (ih hOthers method hMethod).2⟩

theorem keysWithAlg_mem {alg : KnownKeyAlg} {methods found : List VerificationMethod}
    (h : keysWithAlg crates alg methods = .ok found) : ∀ method ∈ found, method ∈ methods := by
  induction methods generalizing found with
  | nil =>
    cases h
    simp
  | cons first rest ih =>
    simp only [keysWithAlg, except_bind_ok_iff] at h
    obtain ⟨alg', -, others, hOthers, hFound⟩ := h
    cases hFound
    intro method hMethod
    split at hMethod
    · rcases List.mem_cons.mp hMethod with rfl | hRest
      · exact List.mem_cons_self
      · exact List.mem_cons_of_mem _ (ih hOthers method hRest)
    · exact List.mem_cons_of_mem _ (ih hOthers method hMethod)

theorem keysWithAlg_ne_nil {alg : KnownKeyAlg} {methods found : List VerificationMethod}
    (hAlg : firstKeyAlg crates methods = .ok (some alg)) (h : keysWithAlg crates alg methods = .ok found) :
    found ≠ [] := by
  induction methods generalizing found with
  | nil => cases hAlg
  | cons first rest ih =>
    simp only [keysWithAlg, except_bind_ok_iff] at h
    obtain ⟨alg', hKey, others, hOthers, hFound⟩ := h
    cases hFound
    simp only [firstKeyAlg, hKey, bind, Except.bind] at hAlg
    split at hAlg
    · cases hAlg
      rw [if_pos (beq_self_eq_true _)]
      exact List.cons_ne_nil _ _
    · split
      · exact List.cons_ne_nil _ _
      · exact ih hAlg hOthers

theorem keyPairs_mem {msg : String} {curve : Curve} {methods : List VerificationMethod}
    {recipients : List (String × crates.KeyPair curve)} (h : keyPairs crates msg curve methods = .ok recipients) :
    recipients.map Prod.fst = methods.map VerificationMethod.id ∧
      ∀ r ∈ recipients, ∃ method ∈ methods, r.1 = method.id ∧ method.asCurve crates msg curve = .ok r.2 := by
  induction methods generalizing recipients with
  | nil =>
    cases h
    simp
  | cons first rest ih =>
    simp only [keyPairs, except_bind_ok_iff] at h
    obtain ⟨key, hKey, others, hOthers, hRecipients⟩ := h
    cases hRecipients
    obtain ⟨hIds, hKeys⟩ := ih hOthers
    refine ⟨by rw [List.map_cons, List.map_cons, hIds], ?_⟩
    rw [List.forall_mem_cons]
    refine ⟨⟨first, List.mem_cons_self, rfl, hKey⟩, fun r hr => ?_⟩
    obtain ⟨method, hMethod, hRest⟩ := hKeys r hr
    exact ⟨method, List.mem_cons_of_mem _ hMethod, hRest⟩

theorem recipients_ok {doc : Document} {missing : String → Fault} {kids : List String}
    {methods found : List VerificationMethod} {alg : KnownKeyAlg} {msg : String} {curve : Curve}
    {recipients : List (String × crates.KeyPair curve)} (hMethods : keysOf doc missing kids = .ok methods)
    (hFound : keysWithAlg crates alg methods = .ok found)
    (hRecipients : keyPairs crates msg curve found = .ok recipients) :
    recipients.map Prod.fst = found.map VerificationMethod.id ∧ ∀ r ∈ recipients, r.1 ∈ kids ∧
      ∃ method msg, doc.verificationMethod.find? (fun m => m.id == r.1) = some method ∧
        method.asCurve crates msg curve = .ok r.2 := by
  obtain ⟨hIds, hKeys⟩ := keyPairs_mem hRecipients
  refine ⟨hIds, fun r hr => ?_⟩
  obtain ⟨method, hMethod, hId, hKey⟩ := hKeys r hr
  obtain ⟨hMem, hFind⟩ := keysOf_mem hMethods method (keysWithAlg_mem hFound method hMethod)
  rw [hId]
  exact ⟨hMem, method, msg, hFind, hKey⟩

theorem agreementCurve_ne {fault : Fault} {alg : KnownKeyAlg} {curve : Curve}
    (h : alg.agreementCurve fault = .ok curve) : alg = .known curve ∧ curve ≠ .ed25519 := by
  cases alg with
  | known c => cases c <;> cases h <;> exact ⟨rfl, by decide⟩
  | unsupported => cases h

theorem anonMethod_method (alg : AnonCryptAlg) {curve : Curve} (h : curve ≠ .ed25519) :
    anonMethod curve alg.method.1 = some (alg.method.2, alg) := by
  cases curve with
  | ed25519 => exact absurd rfl h
  | _ => cases alg <;> rfl

section
variable {reread : Int → Int → Int × Int} {limit : ℕ∞} (laws : Lawful crates hasPrivate reread limit)
  {draws : Draws crates} {to_ text : String} {alg : AnonCryptAlg} {toKidsLimit : Nat}

/-- What a parsed envelope is that holds a text for the keys of a document. -/
structure SealedFor (hasPrivate : {curve : Curve} → crates.KeyPair curve → Prop) (doc : Document)
    (kid : Option String) (text : String) (alg : AnonCryptAlg) (jwe : ParsedJWE) : Prop where
  seals : ∃ curve recipients, RecipientsOf doc kid recipients ∧
    anonMethod curve alg.method.1 = some (alg.method.2, alg) ∧
    Seals hasPrivate text.toUTF8 alg.method.2 .ecdhEs .ecdhEsA256kw alg.method.1
      (none : Option (String × crates.KeyPair curve)) recipients jwe

include laws in
/-- An anonymous message is a JWE for the keys of the recipient's document. -/
theorem anoncrypt_sealed {packed : String × List String}
    (h : anoncrypt crates dids draws to_ text.toUTF8 alg toKidsLimit = .ok packed) :
    ∃ doc jwe, dids.resolve (didOrUrl to_).1 = .ok doc ∧ packed.1 = crates.jsonToString jwe.jwe.toJson ∧
      parseEnvelope crates packed.1 = .ok (.jwe jwe) ∧
      SealedFor hasPrivate doc (didOrUrl to_).2 text alg jwe := by
  simp only [anoncrypt, except_bind_ok_iff, resolved_ok_iff, okOr_ok_iff] at h
  obtain ⟨doc, hDoc, kids, hKids, methods, hMethods, alg', hAlg, keyAlg, rfl, found, hFound, curve, hCurve,
    recipients, hRecipients, msg, hMsg, hPacked⟩ := h
  cases hPacked
  obtain ⟨rfl, hCurveOk⟩ := agreementCurve_ne hCurve
  have hToKids : kids = crates.findKeyAgreement doc (didOrUrl to_).2 := by
    simp only [toKidsOf, except_bind_ok_iff] at hKids
    obtain ⟨_, -, _, -, hKids⟩ := hKids
    exact (Except.ok.inj hKids).symm
  obtain ⟨hIds, hKeys⟩ := recipients_ok hMethods hFound hRecipients
  rw [anonEncrypt, context_ok_iff] at hMsg
  have hAlgName : EncAlgorithm.ofStr alg.method.1.asStr = alg.method.1 := by cases alg <;> rfl
  obtain ⟨jwe, hText, hParse, hSeals⟩ := Jwe.encrypt_opens laws rfl hAlgName hMsg
  refine ⟨doc, jwe, hDoc, hText, hParse, curve, recipients, ⟨?_, hToKids ▸ hKeys⟩,
    anonMethod_method alg hCurveOk, hSeals⟩
  intro hNone
  rw [hNone, List.map_nil, eq_comm, List.map_eq_nil_iff] at hIds
  exact keysWithAlg_ne_nil hAlg hFound hIds

variable {doc : Document} {kid : Option String} {jwe : ParsedJWE} (hSealed : SealedFor hasPrivate doc kid text alg jwe)
include hSealed

theorem SealedFor.hasAlg : (ParsedEnvelope.jwe jwe).hasAlg .ecdhEsA256kw := by
  obtain ⟨curve, recipients, -, -, hSeals⟩ := hSealed
  exact hSeals.alg

variable (hHolds : HoldsKeys crates hasPrivate doc kid secrets)
include hHolds

/-- With the secrets for the keys each of those found opens the layer to the text. -/
theorem SealedFor.opens : ∃ found, Recipients secrets jwe found ∧
    ∀ k ∈ found, ∀ alg' payload, OpensAnon crates secrets jwe alg' k payload ↔ alg' = alg ∧ payload = text.toUTF8 := by
  obtain ⟨curve, recipients, hRecipients, hMethod, hSeals⟩ := hSealed
  obtain ⟨did, hOneDid⟩ := hHolds.oneDid
  have hMem : ∀ k ∈ jwe.toKids, k ∈ crates.findKeyAgreement doc kid := by
    rw [hSeals.toKids, List.forall_mem_map]
    exact fun r hr => (hRecipients.key r hr).1
  have hSome : jwe.toKids ≠ [] := by
    rw [hSeals.toKids]
    exact fun hNone => hRecipients.some_ (List.map_eq_nil_iff.mp hNone)
  obtain ⟨found, hFind, hFound, hSubset⟩ := hHolds.found jwe.toKids hSome hMem
  refine ⟨found, ?_, fun k hk alg' payload => ?_⟩
  · obtain ⟨first, others, hCons⟩ := List.exists_cons_of_ne_nil hSome
    refine ⟨first, by rw [hCons]; rfl, ?_, hFind, hFound⟩
    rw [ensureOneDid, ensure_ok_iff, List.all_eq_true]
    intro k hk
    have hFirst := hOneDid first (hMem first (hCons ▸ List.mem_cons_self))
    rw [hFirst.1, (hOneDid k (hMem k hk)).1, (hOneDid k (hMem k hk)).2]
    simp
  · have hKid := hSubset k hk
    rw [hSeals.toKids] at hKid
    obtain ⟨key, hLookup, hMem⟩ := exists_lookup_of_mem hKid
    obtain ⟨hAgreement, method, msg, hMethodOf, hKey⟩ := hRecipients.key _ hMem
    obtain ⟨key', hSecret, hSame, hPrivate⟩ := hHolds.key k hAgreement method hMethodOf msg curve key hKey
    have hDecrypt := hSeals.decrypt hLookup hSame hPrivate .none
    constructor
    · rintro ⟨⟨curve', key''⟩, cipher, hSecret', hMethod', hDecrypt'⟩
      cases hSecret.symm.trans hSecret'
      rw [hSeals.enc] at hMethod'
      cases hMethod.symm.trans hMethod'
      exact ⟨rfl, (Except.ok.inj (hDecrypt.symm.trans hDecrypt')).symm⟩
    · rintro ⟨rfl, rfl⟩
      exact ⟨⟨curve, key'⟩, _, hSecret, hSeals.enc ▸ hMethod, hDecrypt⟩

theorem SealedFor.opensLayer_iff {inner : ParsedEnvelope} :
    (∃ layer, OpensLayer crates dids secrets opts (.jwe jwe) layer inner) ↔ parseEnvelope crates text = .ok inner := by
  obtain ⟨found, hRecipients, hOpens⟩ := hSealed.opens hHolds
  have hFound : found ≠ [] := by
    obtain ⟨_, -, -, -, hFound⟩ := hRecipients
    exact hFound
  have hAlg : jwe.protected_.alg = .ecdhEsA256kw := hSealed.hasAlg
  constructor
  · rintro ⟨layer, hLayer⟩
    cases hLayer with
    | anoncrypted _ hRecipients' hTried hInner =>
      obtain rfl := hRecipients.unique hRecipients'
      obtain ⟨k, hk, hOpened⟩ := hTried.exists_of_payload
      obtain ⟨-, rfl⟩ := (hOpens k hk _ _).mp hOpened
      simpa only [openPayload, except_bind_ok_iff, okOr_ok_iff, utf8_ok_iff, Option.some.injEq, exists_eq_left',
        fromUTF8_toUTF8] using hInner
    | authcrypted hAuth => cases hAuth.symm.trans hAlg
  · intro hParse
    obtain ⟨kids, hTried⟩ := Tried.of_forall opts.expectDecryptByAllKeys hFound
      fun k hk => (hOpens k hk alg _).mpr ⟨rfl, rfl⟩
    exact ⟨_, .anoncrypted hAlg hRecipients hTried (openPayload_toUTF8 _ hParse)⟩

/-- A message that is followed no further is unpacked, encrypted by nobody in particular. -/
theorem SealedFor.unpacked_message (hLimit : 1 < opts.cryptoOperationsLimitPerMessage) {packed : String}
    (hPacked : parseEnvelope crates packed = .ok (.jwe jwe)) {m : Message}
    (hParse : parseEnvelope crates text = .ok (.message m))
    (hForward : unwrapForwarded crates dids secrets opts (some (.message m)) = .ok none)
    (hAcceptable : m.Acceptable crates dids) :
    ∃ metadata, Message.unpacked crates dids secrets opts packed = some (m, metadata) ∧
      metadata.encrypted = true ∧ metadata.authenticated = false := by
  have hAlg := hSealed.hasAlg
  obtain ⟨hTyp, prior, hPrior⟩ := hAcceptable
  obtain ⟨layer, hLayer⟩ : ∃ layer, OpensLayer crates dids secrets opts (.jwe jwe) layer (.message m) :=
    (hSealed.opensLayer_iff hHolds).mpr hParse
  refine ⟨metadataOf [layer] prior,
    (unpacked_eq_some_iff _ _ _ _).mpr ⟨[layer], prior, ⟨_, hPacked, _, _, [layer], [], [],
    1, .anoncrypted hAlg hLayer hForward, hLimit, .none id, .none id, hTyp, hPrior, rfl⟩, rfl⟩, ?_⟩
  cases hLayer with
  | anoncrypted => exact ⟨rfl, rfl⟩
  | authcrypted hAuth => cases hAuth.symm.trans hAlg

/-- Without unwrapping, the message inside is what is unpacked, in nobody's name. -/
theorem SealedFor.unpacked_iff (hUnwrap : opts.unwrapReWrappingForward = false)
    (hLimit : 1 < opts.cryptoOperationsLimitPerMessage) {packed : String}
    (hPacked : parseEnvelope crates packed = .ok (.jwe jwe)) (m : Message) :
    (∃ metadata, Message.unpacked crates dids secrets opts packed = some (m, metadata) ∧
      metadata.authenticated = false) ↔
      parseEnvelope crates text = .ok (.message m) ∧ m.Acceptable crates dids := by
  have hAlg := hSealed.hasAlg
  simp only [unpacked_eq_some_iff]
  constructor
  · rintro ⟨metadata, ⟨layers, prior, ⟨outer, hOuter, hOpens⟩, rfl⟩, hAnonymous⟩
    cases hPacked.symm.trans hOuter
    obtain ⟨peeled, opened, outside, sender, signature, rounds, hPeels, -, hSender, hSignature, hTyp, hPrior, rfl⟩ :=
      hOpens
    cases hPeels with
    | stop hOther => exact absurd hAlg hOther
    | forwarded _ _ hForward =>
      rw [unwrapForwarded, hUnwrap] at hForward
      cases hForward
    | anoncrypted _ hLayer =>
      cases hSender with
      | authcrypted =>
        rcases hSignature.layers_eq with rfl | ⟨_, _, _, _, rfl⟩ <;> cases hAnonymous
      | none =>
        cases hSignature with
        | signed hJws hSigned =>
          cases hSigned with
          | signed => cases hAnonymous
          | _ => cases hJws
        | none => exact ⟨(hSealed.opensLayer_iff hHolds).mp ⟨_, hLayer⟩, hTyp, prior, hPrior⟩
  · rintro ⟨hParse, hAcceptable⟩
    have hForward : unwrapForwarded crates dids secrets opts (some (.message m)) = .ok none := by
      rw [unwrapForwarded, hUnwrap]
      rfl
    obtain ⟨metadata, hUnpacked, -, hAnonymous⟩ :=
      hSealed.unpacked_message hHolds hLimit hPacked hParse hForward hAcceptable
    obtain ⟨layers, prior, hOpens⟩ := (unpacked_eq_some_iff _ _ _ _).mp hUnpacked
    exact ⟨metadata, ⟨layers, prior, hOpens⟩, hAnonymous⟩

end

/-! ## Forward messages -/

/-- A map of headers. -/
structure HeaderMap where
  entries : List (String × Json)
  sorted : Sorted entries
  canonical : ∀ p ∈ entries, p.2.toValue = p.2

/-- The message that `build_forward_message` makes. -/
def forwardMessage (id next : String) (headers : List (String × Json)) (json : Json) : Message :=
  { Message.build id forwardMsgType (.obj [("next", .str next)]) with
    extraHeaders := headers
    attachments := some [.carrying json]
    to_ := some [next] }

theorem buildForwardMessage_ok_iff {id forwardedMsg next text : String} {headers : List (String × Json)} :
    buildForwardMessage crates id forwardedMsg next headers = .ok text ↔
      ∃ json, (crates.jsonFromStr forwardedMsg).bind value = some json ∧
        text = crates.jsonToString (forwardMessage id next headers json).toJson := by
  simp only [buildForwardMessage, except_bind_ok_iff, okOr_ok_iff, except_pure_eq, Except.ok.injEq]
  exact exists_congr fun json => and_congr_right fun _ => eq_comm

section
variable {id next : String} {headers : HeaderMap} {json : Json}

theorem forwardMessage_read_iff (f : Int → Int → Int × Int) (hNames : ∀ p ∈ headers.entries, p.1 ∉ Message.names)
    {m : Message} : Message.ofJson ((forwardMessage id next headers.entries json).mapFloats f).toJson = some m ↔
      ∃ json' headers', value (json.mapFloats f) = some json' ∧
        valueMap (mapFloatFields f headers.entries) = some headers' ∧ m = forwardMessage id next headers' json' := by
  have hOwn : ((forwardMessage id next headers.entries json).mapFloats f).OwnNames :=
    Message.OwnNames.mapFloats f (m := forwardMessage id next headers.entries json) hNames
  have hBody : value ((forwardMessage id next headers.entries json).mapFloats f).body =
      some (.obj [("next", .str next)]) := rfl
  have hAttachments : Serde.optional (list Attachment.ofJson)
      (((forwardMessage id next headers.entries json).mapFloats f).attachments.map fun attached =>
        .arr (attached.map Attachment.toJson)) = (value (json.mapFloats f)).map fun json => some [.carrying json] := by
    change (list Attachment.ofJson (.arr [Attachment.toJson (.carrying (json.mapFloats f))])).map some = _
    have hForm : (Attachment.carrying (json.mapFloats f)).data.Discriminated := trivial
    have hRead : Attachment.ofJson (Attachment.toJson (.carrying (json.mapFloats f))) =
        (value (json.mapFloats f)).map Attachment.carrying := by
      rw [Attachment.ofJson_toJson hForm]
      change ((value (json.mapFloats f)).map _).map _ = _
      cases value (json.mapFloats f) <;> rfl
    rw [list, List.mapM_cons, hRead]
    cases value (json.mapFloats f) <;> rfl
  rw [hOwn.ofJson_toJson, hBody, Option.bind_some, hAttachments]
  constructor
  · intro h
    obtain ⟨attachments, hAttached, h⟩ := Option.bind_eq_some_iff.mp h
    obtain ⟨json', hJson, rfl⟩ := Option.map_eq_some_iff.mp hAttached
    obtain ⟨headers', hHeaders, rfl⟩ := Option.map_eq_some_iff.mp h
    exact ⟨json', headers', hJson, hHeaders, rfl⟩
  · rintro ⟨json', headers', hJson, hHeaders, rfl⟩
    rw [hJson, Option.map_some, Option.bind_some,
      show ((forwardMessage id next headers.entries json).mapFloats f).extraHeaders =
        mapFloatFields f headers.entries from rfl, hHeaders]
    rfl

theorem tryParseForward_forwardMessage (headers : List (String × Json)) :
    tryParseForward (forwardMessage id next headers json) = some ⟨forwardMessage id next headers json, next, json⟩ :=
  rfl

theorem depth_forwardMessage : (forwardMessage id next headers.entries json).toJson.depth =
    max (Json.obj headers.entries).depth (json.depth + 4) := by
  simp only [forwardMessage, Message.build, Message.toJson, Attachment.toJson, Attachment.carrying,
    AttachmentData.toJson, skipNone, List.map_cons, List.map_nil, List.append_nil, Json.depth, fieldsDepth_append,
    fieldsDepth, itemsDepth]
  omega

end

/-- Unpacked in nobody's name, the text is a forward message of some JSON to `next`. -/
def Forwards (crates : Crates) (dids : DidResolver) (secrets : SecretsResolver) (opts : UnpackOptions)
    (headers : List (String × Json)) (text next : String) (json : Json) : Prop :=
  ∃ f metadata, Message.unpacked crates dids secrets opts text = some (f, metadata) ∧
    metadata.authenticated = false ∧ tryParseForward f = some ⟨f, next, json⟩ ∧ f.extraHeaders = headers

/-- What a route is: its keys in order, each with the one after it. -/
abbrev Hops := List (String × String)

/-- The text is an onion along the route with the value in the middle. -/
inductive PeelsBack (crates : Crates) (dids : DidResolver) (secrets : String → SecretsResolver) (opts : UnpackOptions)
    (headers : List (String × Json)) (value : Json) : String → Hops → Prop
  | last {text key next : String} (h : Forwards crates dids (secrets key) opts headers text next value) :
    PeelsBack crates dids secrets opts headers value text [(key, next)]
  | hop {text key next : String} {forwarded : Json} {rest : Hops}
    (h : Forwards crates dids (secrets key) opts headers text next forwarded)
    (hRest : PeelsBack crates dids secrets opts headers value (crates.jsonToString forwarded) rest) :
    PeelsBack crates dids secrets opts headers value text ((key, next) :: rest)

/-- What the headers and the value have to be for the forwards to be read as they were written. -/
structure Carried (reread : Int → Int → Int × Int) (limit : ℕ∞) (headers : List (String × Json)) (value : Json) :
    Prop where
  notJwe : Jwe.ofJson (.obj headers) = none
  notJws : Jws.ofJson (.obj headers) = none
  headersLiteral : literalFields headers = true
  valueLiteral : value.literal = true
  headerFloats : mapFloatFields reread headers = headers
  valueFloats : value.mapFloats reread = value
  headersDepth : (Json.obj headers).depth ≤ limit
  valueDepth : (value.depth + 4 : ℕ) ≤ limit

theorem parseEnvelope_message_iff {text : String} {m : Message} :
    parseEnvelope crates text = .ok (.message m) ↔ Envelope.fromStr crates text = .ok (.message m) := by
  simp only [parseEnvelope, except_bind_ok_iff]
  constructor
  · rintro ⟨envelope, hEnvelope, parsed, hParsed, hVerified⟩
    cases envelope with
    | message m' =>
      cases hParsed
      cases hVerified
      exact hEnvelope
    | jwe jwe =>
      simp only [Envelope.parse, except_bind_ok_iff, except_pure_eq, Except.ok.injEq] at hParsed
      obtain ⟨e, -, rfl⟩ := hParsed
      simp only [ParsedEnvelope.verifyDidcomm, except_bind_ok_iff, except_pure_eq] at hVerified
      obtain ⟨e', -, hVerified⟩ := hVerified
      cases hVerified
    | jws jws =>
      simp only [Envelope.parse, except_bind_ok_iff, except_pure_eq, Except.ok.injEq] at hParsed
      obtain ⟨e, -, rfl⟩ := hParsed
      cases hVerified
  · exact fun hEnvelope => ⟨_, hEnvelope, _, rfl, rfl⟩

theorem PeelsBack.congr {secrets : String → SecretsResolver} {headers : List (String × Json)} {value : Json}
    {text text' : String} {hops : Hops} (hSame : parseEnvelope crates text = parseEnvelope crates text')
    (h : PeelsBack crates dids secrets opts headers value text hops) :
    PeelsBack crates dids secrets opts headers value text' hops := by
  have hForwards : ∀ secrets next json, Forwards crates dids secrets opts headers text next json →
      Forwards crates dids secrets opts headers text' next json := by
    rintro secrets next json ⟨f, metadata, hUnpacked, hRest⟩
    refine ⟨f, metadata, ?_, hRest⟩
    simp only [unpacked_eq_some_iff, Opens] at hUnpacked ⊢
    rw [← hSame]
    exact hUnpacked
  cases h with
  | last h => exact .last (hForwards _ _ _ h)
  | hop h hRest => exact .hop (hForwards _ _ _ h) hRest

section
variable {reread : Int → Int → Int × Int} {limit : ℕ∞} (laws : Lawful crates hasPrivate reread limit)
  {id next : String} {headers : HeaderMap} {json : Json} {doc : Document} {kid : Option String} {alg : AnonCryptAlg}
  {jwe : ParsedJWE}

variable (dids) in
include laws in
theorem SealedFor.forwards_iff (hUnwrap : opts.unwrapReWrappingForward = false)
    (hLimit : 1 < opts.cryptoOperationsLimitPerMessage) (hNames : ∀ p ∈ headers.entries, p.1 ∉ Message.names)
    (hHolds : HoldsKeys crates hasPrivate doc kid secrets)
    (hSealed : SealedFor hasPrivate doc kid
      (crates.jsonToString (forwardMessage id next headers.entries json).toJson) alg jwe) {packed : String}
    (hPacked : parseEnvelope crates packed = .ok (.jwe jwe)) (next' : String) (json' : Json) :
    Forwards crates dids secrets opts headers.entries packed next' json' ↔
      next' = next ∧ value (json.mapFloats reread) = some json' ∧ Jwe.ofJson (.obj headers.entries) = none ∧
        Jws.ofJson (.obj headers.entries) = none ∧ literalFields headers.entries = true ∧
        mapFloatFields reread headers.entries = headers.entries ∧
        (Json.obj headers.entries).depth ≤ limit ∧ (json.depth + 4 : ℕ) ≤ limit := by
  let m := forwardMessage id next headers.entries json
  have hDepth : (m.toJson.depth : ℕ∞) ≤ limit ↔
      (Json.obj headers.entries).depth ≤ limit ∧ (json.depth + 4 : ℕ) ≤ limit := by
    have hMono : Monotone (Nat.cast : Nat → ℕ∞) := fun _ _ => Nat.cast_le.mpr
    rw [depth_forwardMessage, hMono.map_max, max_le_iff]
  have hRead : ∀ f, parseEnvelope crates (crates.jsonToString m.toJson) = .ok (.message f) ↔
      ((Json.obj headers.entries).depth ≤ limit ∧ (json.depth + 4 : ℕ) ≤ limit) ∧
        Jwe.ofJson (.obj headers.entries) = none ∧ Jws.ofJson (.obj headers.entries) = none ∧
        ∃ json' headers', value (json.mapFloats reread) = some json' ∧
          valueMap (mapFloatFields reread headers.entries) = some headers' ∧
          f = forwardMessage id next headers' json' := by
    intro f
    rw [parseEnvelope_message_iff, fromStr_written_iff laws.jsonFromStr_jsonToString, hDepth,
      forwardMessage_read_iff reread hNames]
    rfl
  have hSame := valueMap_mapFloats_iff reread headers.sorted headers.canonical
  constructor
  · rintro ⟨f, metadata, hUnpacked, hAnonymous, hForward, hHeaders⟩
    obtain ⟨hParse, -⟩ := (hSealed.unpacked_iff hHolds hUnwrap hLimit hPacked f).mp ⟨metadata, hUnpacked, hAnonymous⟩
    obtain ⟨hDepths, hNotJwe, hNotJws, read, headers', hRead, hMap, rfl⟩ := (hRead f).mp hParse
    cases hForward
    obtain rfl : headers' = headers.entries := hHeaders
    obtain ⟨hLiteral, hFloats⟩ := hSame.mp hMap
    exact ⟨rfl, hRead, hNotJwe, hNotJws, hLiteral, hFloats, hDepths⟩
  · rintro ⟨rfl, hJson, hNotJwe, hNotJws, hLiteral, hFloats, hDepths⟩
    have hParse := (hRead _).mpr
      ⟨hDepths, hNotJwe, hNotJws, json', headers.entries, hJson, hSame.mpr ⟨hLiteral, hFloats⟩, rfl⟩
    obtain ⟨metadata, hUnpacked, hAnonymous⟩ :=
      (hSealed.unpacked_iff hHolds hUnwrap hLimit hPacked _).mpr ⟨hParse, rfl, none, rfl⟩
    exact ⟨_, metadata, hUnpacked, hAnonymous, tryParseForward_forwardMessage _, rfl⟩

end

/-! ## The onion -/

theorem wrapLayers_concat_ok_iff {draws : Nat → ForwardDraws crates} {headers : List (String × Json)}
    {alg : AnonCryptAlg} {toKidsLimit : Nat} {msg text : String} {layers : Hops} {hop : String × String} :
    wrapLayers crates dids draws headers alg toKidsLimit msg (layers ++ [hop]) = .ok text ↔
      ∃ inner, wrapLayers crates dids (fun i => draws (i + 1)) headers alg toKidsLimit msg layers = .ok inner ∧
      ∃ forward, buildForwardMessage crates (draws 0).id inner hop.2 headers = .ok forward ∧
      ∃ packed, anoncrypt crates dids (draws 0).draws hop.1 forward.toUTF8 alg toKidsLimit = .ok packed ∧
        packed.1 = text := by
  induction layers generalizing msg with
  | nil => simp [wrapLayers, except_bind_ok_iff]
  | cons first rest ih =>
    simp only [List.cons_append, wrapLayers, except_bind_ok_iff, ih, List.length_append, List.length_singleton]
    constructor
    · rintro ⟨forward, hForward, packed, hPacked, inner, hInner, hRest⟩
      exact ⟨inner, ⟨forward, hForward, packed, hPacked, hInner⟩, hRest⟩
    · rintro ⟨inner, ⟨forward, hForward, packed, hPacked, hInner⟩, hRest⟩
      exact ⟨forward, hForward, packed, hPacked, inner, hInner, hRest⟩

section
variable {routingKeys : List String} (h : routingKeys ≠ []) (to_ : String)
include h

theorem length_nexts : routingKeys.length = (routingKeys.tail ++ [to_]).length := by
  have hPos := List.length_pos_iff.mpr h
  rw [List.length_append, List.length_tail, List.length_singleton]
  omega

theorem hops_ne_nil : routingKeys.zip (routingKeys.tail ++ [to_]) ≠ [] := by
  intro hNone
  rw [List.zip_eq_nil_iff] at hNone
  exact hNone.elim h (List.append_ne_nil_of_right_ne_nil _ (List.cons_ne_nil _ _))

variable {to_}

/-- The onion is wrapped from the last hop of the route on. -/
theorem wrapInForward_eq {draws : Nat → ForwardDraws crates} {msg : String} {headers : List (String × Json)}
    {alg : AnonCryptAlg} {toKidsLimit : Nat} :
    wrapInForward crates dids draws msg headers to_ routingKeys alg toKidsLimit =
      wrapLayers crates dids draws headers alg toKidsLimit msg
        (routingKeys.zip (routingKeys.tail ++ [to_])).reverse := by
  have hReverse : (routingKeys.zip (routingKeys.tail ++ [to_])).reverse =
      routingKeys.reverse.zip (routingKeys.tail ++ [to_]).reverse := List.reverse_zipWith (length_nexts h to_)
  rw [wrapInForward, List.isEmpty_eq_false_iff.mpr h, hReverse]
  rfl

end

section
variable {reread : Int → Int → Int × Int} {limit : ℕ∞} (laws : Lawful crates hasPrivate reread limit)
  (hUnwrap : opts.unwrapReWrappingForward = false) (hLimit : 1 < opts.cryptoOperationsLimitPerMessage)
  {headers : HeaderMap} (hNames : ∀ p ∈ headers.entries, p.1 ∉ Message.names) {alg : AnonCryptAlg} {toKidsLimit : Nat}
  {secrets : String → SecretsResolver} {msg : String} {value : Json}
  (hValue : (crates.jsonFromStr msg).bind Serde.value = some value)

include laws hUnwrap hLimit hNames hValue in
/-- The onion around a message: from the outside in, each forward is the next layer's. -/
theorem wrapLayers_peels_iff {hops : Hops} (hHops : hops ≠ [])
    (hHolds : ∀ hop ∈ hops, ∀ doc, dids.resolve (didOrUrl hop.1).1 = .ok doc →
      HoldsKeys crates hasPrivate doc (didOrUrl hop.1).2 (secrets hop.1)) {draws : Nat → ForwardDraws crates}
        {text : String}
    (hWrap : wrapLayers crates dids draws headers.entries alg toKidsLimit msg hops.reverse = .ok text) :
    (∃ jwe : Jwe, text = crates.jsonToString jwe.toJson) ∧
      (PeelsBack crates dids secrets opts headers.entries value text hops ↔
        Carried reread limit headers.entries value) := by
  induction hops generalizing draws text with
  | nil => exact absurd rfl hHops
  | cons hop rest ih =>
    rw [List.forall_mem_cons] at hHolds
    rw [List.reverse_cons, wrapLayers_concat_ok_iff] at hWrap
    obtain ⟨inner, hInner, forward, hForward, packed, hPacked, rfl⟩ := hWrap
    obtain ⟨json, hJson, rfl⟩ := buildForwardMessage_ok_iff.mp hForward
    obtain ⟨doc, jwe, hDoc, hText, hParse, hSealed⟩ := anoncrypt_sealed laws hPacked
    have hForwards := hSealed.forwards_iff dids laws hUnwrap hLimit hNames
      (hHolds.1 doc hDoc) hParse
    refine ⟨⟨jwe.jwe, hText⟩, ?_⟩
    cases rest with
    | nil =>
      cases hInner
      cases hValue.symm.trans hJson
      obtain ⟨read, -, hValue⟩ := Option.bind_eq_some_iff.mp hValue
      have hSame := value_mapFloats_iff reread (toValue_of_value hValue)
      constructor
      · intro h
        cases h with
        | last h =>
          obtain ⟨-, hRead, hNotJwe, hNotJws, hHeaders, hFloats, hDepth, hDepth'⟩ := (hForwards _ _).mp h
          obtain ⟨hLiteral, hValueFloats⟩ := hSame.mp hRead
          exact ⟨hNotJwe, hNotJws, hHeaders, hLiteral, hFloats, hValueFloats, hDepth, hDepth'⟩
        | hop _ hRest => cases hRest
      · intro h
        exact .last ((hForwards _ _).mpr ⟨rfl, hSame.mpr ⟨h.valueLiteral, h.valueFloats⟩, h.notJwe, h.notJws,
          h.headersLiteral, h.headerFloats, h.headersDepth, h.valueDepth⟩)
    | cons next others =>
      obtain ⟨⟨jwe', rfl⟩, hPeels⟩ := ih (List.cons_ne_nil _ _) hHolds.2 hInner
      cases (value_read_written laws jwe').symm.trans hJson
      have hRead := jwe'.value_mapFloats reread
      have hSame := parseEnvelope_toValue laws jwe'
      constructor
      · intro h
        cases h with
        | hop h hRest =>
          obtain ⟨-, hForwarded, -⟩ := (hForwards _ _).mp h
          cases hRead.symm.trans hForwarded
          exact hPeels.mp (hRest.congr hSame)
      · intro h
        have hDepth : (jwe'.toJson.toValue.depth + 4 : ℕ) ≤ limit := by
          have hShallow := depth_toValue_le _ jwe'.depth_toJson
          have hRead' : jwe'.toJson.toValue.depth + 4 ≤ recursionLimit :=
            (Nat.add_le_add_right hShallow 4).trans (by decide)
          exact le_trans (Nat.cast_le.mpr hRead') laws.recursionLimit_le
        exact .hop ((hForwards _ _).mpr ⟨rfl, hRead, h.notJwe, h.notJws, h.headersLiteral, h.headerFloats,
          h.headersDepth, hDepth⟩) ((hPeels.mpr h).congr hSame.symm)

end

/-! ## Examples -/

theorem asCurve_methodOf (sha256 : ByteArray → ByteArray) (msg kid : String) :
    (methodOf "X25519" kid).asCurve (ideal sha256) msg .x25519 = .ok (idealKey sha256 .x25519 kid) := by
  simp only [VerificationMethod.asCurve, Params.asCurve, except_bind_ok_iff, okOr_ok_iff]
  exact ⟨_, getJwk_methodOf sha256 _ _, _, rfl, (), rfl, _, asKeyPair_agree sha256 kid, rfl⟩

theorem curve_of_asCurve_methodOf {sha256 : ByteArray → ByteArray} {msg kid : String} {curve : Curve}
    {key : (ideal sha256).KeyPair curve} (h : (methodOf "X25519" kid).asCurve (ideal sha256) msg curve = .ok key) :
    curve = .x25519 := by
  simp only [VerificationMethod.asCurve, Params.asCurve, except_bind_ok_iff, okOr_ok_iff, getJwk_methodOf,
    Except.ok.injEq, exists_eq_left', Option.some.injEq, ensure_ok_iff, beq_iff_eq] at h
  obtain ⟨_, hAlg, -⟩ := h
  cases hAlg
  rfl

section
variable (sha256 : ByteArray → ByteArray) (service : String → List Service) {did : String} (h : '#' ∉ did.toList)
include h

/-- An anonymous message for a DID or for its key is one for the key. -/
theorem ideal_anoncrypt_eq {to_ : String} {kid : Option String} (hTo : didOrUrl to_ = (did, kid))
    (hKid : kid = none ∨ kid = some (agreeKid did)) (draws : Draws (ideal sha256)) (bytes : ByteArray)
    (alg : AnonCryptAlg) {text : String}
    (hText : Jwe.encrypt (ideal sha256) draws bytes alg.method.2 .ecdhEs .ecdhEsA256kw alg.method.1 none
      [(agreeKid did, idealKey sha256 .x25519 (agreeKid did))] = .ok text) :
    anoncrypt (ideal sha256) (everyDid service) draws to_ bytes alg 100 = .ok (text, [agreeKid did]) := by
  let method := methodOf "X25519" (agreeKid did)
  have hKids : toKidsOf (ideal sha256) (documentOf (service did) did) kid 100 = .ok [agreeKid did] := by
    rcases hKid with rfl | rfl
    · rfl
    · simp [toKidsOf, ideal, documentOf, ValueOrReference.id, DidUrlReference.resolve, ensure, bind, Except.bind, pure,
        Except.pure]
  have hKeys : keysOf (documentOf (service did) did)
      (fun _ => errMsg .unsupported "External keys are unsupported in this version") [agreeKid did] =
        .ok [method] := by
    simp only [keysOf, find_agreeKid, okOr, bind, Except.bind, pure, Except.pure, method]
  have hPairs : ∀ msg, keyPairs (ideal sha256) msg .x25519 [method] =
      .ok [(agreeKid did, idealKey sha256 .x25519 (agreeKid did))] := by
    intro msg
    simp only [keyPairs, method, asCurve_methodOf, bind, Except.bind, pure, Except.pure]
    rfl
  simp only [anoncrypt, except_bind_ok_iff, resolved_ok_iff, okOr_ok_iff, hTo, resolve_everyDid service h,
    Except.ok.injEq, exists_eq_left']
  refine ⟨[agreeKid did], hKids, [method], hKeys, some (.known .x25519), rfl, .known .x25519, rfl, [method], rfl,
    .x25519, rfl, _, hPairs _, text, ?_, rfl⟩
  rw [anonEncrypt, context_ok_iff]
  exact hText

theorem ideal_anoncrypt (draws : Draws (ideal sha256)) (bytes : ByteArray) (alg : AnonCryptAlg) :
    ∃ packed, anoncrypt (ideal sha256) (everyDid service) draws did bytes alg 100 = .ok packed := by
  obtain ⟨jwe, hText, -⟩ := (ideal_encrypts sha256).encrypt alg.method.2 .ecdhEs .ecdhEsA256kw none
    (fun h => by cases h) draws bytes alg.method.1 [(agreeKid did, idealKey sha256 .x25519 (agreeKid did))]
  exact ⟨_, ideal_anoncrypt_eq sha256 service h (didOrUrl_noFragment h) (.inl rfl) draws bytes alg hText⟩

theorem ideal_holdsKeys : HoldsKeys (ideal sha256) (fun _ => True) (documentOf (service did) did) none
    (secretsOf did) where
  oneDid := by
    refine ⟨did, fun k hk => ?_⟩
    rw [List.mem_singleton.mp hk]
    change (didOrUrl (agreeKid did)).1 = did ∧ (didOrUrl (agreeKid did)).2.isSome
    rw [didOrUrl_agreeKid h]
    exact ⟨rfl, rfl⟩
  found := by
    intro kids hKids hMem
    refine ⟨kids, ?_, hKids, fun _ => id⟩
    have hAll : kids.filter (fun kid => kid == agreeKid did || kid == signKid did) = kids := by
      rw [List.filter_eq_self]
      intro k hk
      have hKid : k = agreeKid did := List.mem_singleton.mp (hMem k hk)
      simp [hKid]
    exact congrArg Except.ok hAll
  key := by
    intro k hk method hMethod msg curve key hKey
    obtain rfl : k = agreeKid did := List.mem_singleton.mp hk
    cases (find_agreeKid (service did) did).symm.trans hMethod
    obtain rfl := curve_of_asCurve_methodOf hKey
    cases (asCurve_methodOf sha256 msg (agreeKid did)).symm.trans hKey
    exact ⟨_, recipientKey_ideal sha256 did, (ideal_samePublic sha256).mpr rfl, trivial⟩

end

theorem ideal_wrapLayers (sha256 : ByteArray → ByteArray) (service : String → List Service) {layers : Hops}
    (h : ∀ hop ∈ layers, '#' ∉ hop.1.toList) (draws : Nat → ForwardDraws (ideal sha256))
    (headers : List (String × Json)) (alg : AnonCryptAlg) {msg : String} {json : Json}
    (hMsg : ((ideal sha256).jsonFromStr msg).bind value = some json) :
    ∃ s, wrapLayers (ideal sha256) (everyDid service) draws headers alg 100 msg layers = .ok s := by
  induction layers generalizing msg json with
  | nil => exact ⟨msg, rfl⟩
  | cons hop rest ih =>
    rw [List.forall_mem_cons] at h
    let forward := (ideal sha256).jsonToString
      (forwardMessage (draws rest.length).id hop.2 headers json).toJson
    have hForward : buildForwardMessage (ideal sha256) (draws rest.length).id msg hop.2 headers = .ok forward :=
      buildForwardMessage_ok_iff.mpr ⟨json, hMsg, rfl⟩
    obtain ⟨packed, hPacked⟩ := ideal_anoncrypt sha256 service h.1 (draws rest.length).draws forward.toUTF8 alg
    obtain ⟨doc, jwe, -, hText, -⟩ := anoncrypt_sealed (ideal_lawful sha256) hPacked
    have hRead : ((ideal sha256).jsonFromStr packed.1).bind value = some jwe.jwe.toJson.toValue := by
      rw [hText, value_read_written (ideal_lawful sha256)]
    obtain ⟨s, hWrap⟩ := ih h.2 hRead
    simp only [wrapLayers, except_bind_ok_iff]
    exact ⟨s, forward, hForward, packed, hPacked, hWrap⟩

theorem ideal_wrapInForward (sha256 : ByteArray → ByteArray) (service : String → List Service)
    {routingKeys : List String} (hKeys : routingKeys ≠ []) (h : ∀ key ∈ routingKeys, '#' ∉ key.toList)
    (draws : Nat → ForwardDraws (ideal sha256))
    (headers : List (String × Json)) (to_ : String) (alg : AnonCryptAlg) {msg : String} {json : Json}
    (hMsg : ((ideal sha256).jsonFromStr msg).bind value = some json) :
    ∃ s, wrapInForward (ideal sha256) (everyDid service) draws msg headers to_ routingKeys alg 100 = .ok s := by
  rw [wrapInForward_eq hKeys]
  apply ideal_wrapLayers sha256 service _ draws headers alg hMsg
  intro hop hHop
  exact h hop.1 (List.of_mem_zip (List.mem_reverse.mp hHop)).1

theorem ideal_holdsKeys_of (sha256 : ByteArray → ByteArray) {service : String → List Service} {key : String}
    (h : '#' ∉ key.toList) {doc : Document} (hDoc : (everyDid service).resolve (didOrUrl key).1 = .ok doc) :
    HoldsKeys (ideal sha256) (fun _ => True) doc (didOrUrl key).2 (secretsOf key) := by
  rw [didOrUrl_noFragment h] at hDoc ⊢
  cases (resolve_everyDid service h).symm.trans hDoc
  exact ideal_holdsKeys sha256 service h

/-- What is drawn does not matter to the ideal crates. -/
def anyDraws (sha256 : ByteArray → ByteArray) : Nat → ForwardDraws (ideal sha256) :=
  fun _ => ⟨"1", ⟨.empty, .empty, .empty⟩⟩

def langHeader : HeaderMap where
  entries := [("lang", .str "en")]
  sorted := List.pairwise_singleton _ _
  canonical := by simp [Json.toValue]

/-- Headers that make a signed envelope out of a forward. -/
def jwsHeaders : HeaderMap where
  entries := [("payload", .str ""), ("signatures", .arr [])]
  sorted := by
    rw [Sorted, List.pairwise_pair]
    exact (by decide : ("payload" : String) < "signatures")
  canonical := by simp [Json.toValue, toValues]

theorem parseEnvelope_jwsHeaders (sha256 : ByteArray → ByteArray) (id next : String) (json : Json) :
    parseEnvelope (ideal sha256) ((ideal sha256).jsonToString (forwardMessage id next jwsHeaders.entries json).toJson) =
      .ok (.jws ⟨⟨[], ""⟩, []⟩) := by
  have hJwe : Jwe.ofJson (forwardMessage id next jwsHeaders.entries json).toJson = none := by
    rw [Message.jwe_ofJson_toJson]
    rfl
  have hJws : Jws.ofJson (forwardMessage id next jwsHeaders.entries json).toJson = some ⟨[], ""⟩ := by
    rw [Message.jws_ofJson_toJson]
    rfl
  simp only [parseEnvelope, Envelope.fromStr, ideal_read, Option.bind_some, Envelope.ofJson, hJwe, hJws]
  rfl

theorem wrapInForward_one (draws : Nat → ForwardDraws crates) (msg : String) (headers : List (String × Json))
    (to_ key : String) (alg : AnonCryptAlg) (toKidsLimit : Nat) :
    wrapInForward crates dids draws msg headers to_ [key] alg toKidsLimit =
      wrapLayers crates dids draws headers alg toKidsLimit msg ([] ++ [(key, to_)]) := rfl

end AffinidiMessaging.Didcomm
