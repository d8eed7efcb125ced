import AffinidiMessaging.Didcomm.Onion

/-! # What the last routing key unpacks

The forward messages of `pack_encrypted` on their way through the routing keys. At the last one the
forward is to the recipient as it was named, and carries the envelope that the sender packed.
-/

namespace AffinidiMessaging.Didcomm

open Fallible Serde

theorem lookup_append_of_unique {α : Type} {before after : List (String × α)} {k : String} {v : α}
    (h : ((before ++ (k, v) :: after).filter (·.1 == k)).length ≤ 1) :
    (before ++ (k, v) :: after).lookup k = some v := by
  have hBefore : before.filter (·.1 == k) = [] := by
    rw [List.filter_append, List.filter_cons_of_pos (by simp), List.length_append, List.length_cons] at h
    exact List.eq_nil_of_length_eq_zero (by omega)
  have hNone : before.lookup k = none := by
    rw [List.lookup_eq_none_iff]
    intro p hp
    have hOther := List.filter_eq_nil_iff.mp hBefore p hp
    rw [beq_iff_eq] at hOther
    exact bne_iff_ne.mpr fun hEq => hOther hEq.symm
  rw [List.lookup_append, hNone, List.lookup_cons_self]
  rfl

section
variable {id next : String} {headers : List (String × Json)} {json forwarded : Json}

/-- Whatever the headers are named, what is read as a message is the forward. -/
theorem tryParseForward_of_ofJson (hJson : value json = some forwarded) {m : Message}
    (h : Message.ofJson (forwardMessage id next headers json).toJson = some m) :
    tryParseForward m = some ⟨m, next, forwarded⟩ := by
  let before : List (String × Json) := [("id", .str id), ("typ", .str plaintextTyp), ("type", .str forwardMsgType),
    ("body", .obj [("next", .str next)]), ("to", .arr [.str next])] ++ headers
  let carried : Json := .arr [Attachment.toJson (.carrying json)]
  have hFields : (forwardMessage id next headers json).toJson = .obj (before ++ [("attachments", carried)]) := by
    simp [forwardMessage, Message.build, Message.toJson, skipNone, before, carried]
  rw [hFields, Message.ofJson] at h
  obtain ⟨⟨get, rest⟩, hRead, h⟩ := Option.bind_eq_some_iff.mp h
  rw [flatRecord, Option.ite_none_right_eq_some, List.all_eq_true] at hRead
  obtain ⟨hOnce, hRead⟩ := hRead
  obtain ⟨rfl, rfl⟩ := Prod.mk.inj (Option.some.inj hRead)
  have hType : (before ++ [("attachments", carried)]).lookup "type" = some (.str forwardMsgType) := by
    simp [before, List.lookup_cons]
  have hBody : (before ++ [("attachments", carried)]).lookup "body" = some (.obj [("next", .str next)]) := by
    simp [before, List.lookup_cons]
  have hAttachments : (before ++ [("attachments", carried)]).lookup "attachments" = some carried :=
    lookup_append_of_unique (of_decide_eq_true (hOnce "attachments" (by simp)))
  have hCarried : Serde.optional (list Attachment.ofJson) (some carried) = some (some [.carrying forwarded]) := by
    simp [Serde.optional, list, carried, Attachment.ofJson_carrying hJson]
  have hNext : value (.obj [("next", .str next)]) = some (.obj [("next", .str next)]) := rfl
  simp only [hType, hBody, hAttachments, hCarried, required, Json.asStr, hNext, Option.bind_eq_bind,
    Option.bind_some, Option.bind_eq_some_iff, Option.pure_def, Option.some.injEq] at h
  obtain ⟨_, -, _, -, _, -, _, -, _, -, _, -, _, -, _, -, _, -, _, -, rfl⟩ := h
  rfl

end

variable {crates : Crates} {hasPrivate : {curve : Curve} → crates.KeyPair curve → Prop}
  {dids : DidResolver} {secrets : SecretsResolver} {opts : UnpackOptions}

/-- The headers make neither an encrypted nor a signed envelope of a message. -/
structure PlainHeaders (headers : List (String × Json)) : Prop where
  notJwe : Jwe.ofJson (.obj headers) = none
  notJws : Jws.ofJson (.obj headers) = none

section
variable {reread : Int → Int → Int × Int} {limit : ℕ∞} {id next : String} {headers : List (String × Json)}
  {json forwarded : Json}

/-- The text of a forward with plain headers is read as the forward, if it is read at all. -/
theorem parseEnvelope_forward (hRead : ReadsWritten crates reread limit) (hPlain : PlainHeaders headers)
    (hJson : value (json.mapFloats reread) = some forwarded) {inner : ParsedEnvelope}
    (h : parseEnvelope crates (crates.jsonToString (forwardMessage id next headers json).toJson) = .ok inner) :
    ∃ f, inner = .message f ∧ tryParseForward f = some ⟨f, next, forwarded⟩ := by
  have hParsed : ∃ f, inner = .message f := by
    simp only [parseEnvelope, except_bind_ok_iff] at h
    obtain ⟨envelope, hEnvelope, parsed, hParsed, hVerified⟩ := h
    obtain ⟨j, hWritten, hForm⟩ : ∃ j, crates.jsonFromStr _ = some j ∧ Envelope.ofJson j = some envelope := by
      simpa only [Envelope.fromStr, okOr_ok_iff, Option.bind_eq_some_iff] using hEnvelope
    obtain ⟨-, rfl⟩ := hRead.eq_some_iff.mp hWritten
    obtain ⟨f, rfl⟩ : ∃ f, envelope = .message f := by
      simp only [Envelope.ofJson, Message.jwe_ofJson_mapFloats, Message.jws_ofJson_mapFloats] at hForm
      rw [show (forwardMessage id next headers json).extraHeaders = headers from rfl, hPlain.notJwe,
        hPlain.notJws] at hForm
      obtain ⟨f, -, rfl⟩ := Option.map_eq_some_iff.mp hForm
      exact ⟨f, rfl⟩
    cases hParsed
    cases hVerified
    exact ⟨f, rfl⟩
  obtain ⟨f, rfl⟩ := hParsed
  obtain ⟨-, -, -, hMessage⟩ := (fromStr_written_iff hRead _ f).mp (parseEnvelope_message_iff.mp h)
  rw [show (forwardMessage id next headers json).mapFloats reread =
    forwardMessage id next (mapFloatFields reread headers) (json.mapFloats reread) from rfl] at hMessage
  exact ⟨f, rfl, tryParseForward_of_ofJson hJson hMessage⟩

variable (laws : Lawful crates hasPrivate reread limit) (hPlain : PlainHeaders headers)
  (hJson : value (json.mapFloats reread) = some forwarded)
  {doc : Document} {kid : Option String} {alg : AnonCryptAlg} {jwe : ParsedJWE}
  (hSealed : SealedFor hasPrivate doc kid (crates.jsonToString (forwardMessage id next headers json).toJson) alg jwe)
  (hHolds : HoldsKeys crates hasPrivate doc kid secrets)
include laws hPlain hJson hSealed hHolds

theorem SealedFor.forward_inside {layer : Layer crates} {inner : ParsedEnvelope}
    (h : OpensLayer crates dids secrets opts (.jwe jwe) layer inner) :
    ∃ f, inner = .message f ∧ tryParseForward f = some ⟨f, next, forwarded⟩ :=
  parseEnvelope_forward laws.jsonFromStr_jsonToString hPlain hJson ((hSealed.opensLayer_iff hHolds).mp ⟨layer, h⟩)

theorem SealedFor.forward_of_fromAnoncrypt {text : String} (hText : parseEnvelope crates text = .ok (.jwe jwe))
    {f : Message} (h : FromAnoncrypt crates dids secrets opts text f) :
    tryParseForward f = some ⟨f, next, forwarded⟩ := by
  obtain ⟨outer, layer, hOuter, -, hLayer⟩ := h
  cases hText.symm.trans hOuter
  obtain ⟨f', hInner, hForward⟩ := hSealed.forward_inside laws hPlain hJson hHolds hLayer
  cases hInner
  exact hForward

/-- Where `next` is not one of the own keys, the forward is what is unpacked. -/
theorem SealedFor.forward_of_unpacked (hOther : hasKeyAgreementSecret dids secrets next ≠ .ok true) {text : String}
    (hText : parseEnvelope crates text = .ok (.jwe jwe)) {m : Message} {metadata : UnpackMetadata}
    (h : Message.unpacked crates dids secrets opts text = some (m, metadata)) :
    tryParseForward m = some ⟨m, next, forwarded⟩ := by
  obtain ⟨layers, prior, ⟨outer, hOuter, hOpens⟩, -⟩ := (unpacked_eq_some_iff opts text m metadata).mp h
  cases hText.symm.trans hOuter
  obtain ⟨peeled, opened, outside, sender, signature, rounds, hPeels, -, hSender, hSignature, -⟩ := hOpens
  cases hPeels with
  | stop hNone => exact absurd hSealed.hasAlg hNone
  | anoncrypted _ hLayer =>
    obtain ⟨f, rfl, hForward⟩ := hSealed.forward_inside laws hPlain hJson hHolds hLayer
    -- a plaintext is neither authenticated nor signed
    cases hSender with
    | authcrypted hAuth => cases hAuth
    | none =>
      cases hSignature with
      | signed hJws => cases hJws
      | none => exact hForward
  | forwarded _ hLayer hFollow =>
    obtain ⟨f, rfl, hForward⟩ := hSealed.forward_inside laws hPlain hJson hHolds hLayer
    refine absurd ?_ hOther
    rw [unwrapForwarded] at hFollow
    split at hFollow
    · simp only [tryUnwrapForwardedMessage, hForward, except_bind_ok_iff, except_pure_eq] at hFollow
      obtain ⟨mine, hMine, hText⟩ := hFollow
      cases mine with
      | true => exact hMine
      | false => cases hText
    · cases hFollow

end

/-- What arrives at the last of the keys, when each one before takes the forward out of the layer for it and
sends on what the forward carries. -/
inductive Relayed (crates : Crates) (dids : DidResolver) (secrets : String → SecretsResolver) (opts : UnpackOptions) :
    String → List String → String → Prop
  | arrived {text key : String} : Relayed crates dids secrets opts text [key] text
  | hop {text key key' arrived : String} {rest : List String} {f : Message} {forward : ParsedForward}
    (h : FromAnoncrypt crates dids (secrets key) opts text f) (hForward : tryParseForward f = some forward)
    (hRest : Relayed crates dids secrets opts (crates.jsonToString forward.forwardedMsg) (key' :: rest) arrived) :
    Relayed crates dids secrets opts text (key :: key' :: rest) arrived

section
variable {reread : Int → Int → Int × Int} {limit : ℕ∞} (laws : Lawful crates hasPrivate reread limit)
  {headers : List (String × Json)} {alg : AnonCryptAlg} {toKidsLimit : Nat}
  {secrets : String → SecretsResolver} {msg : String} {value : Json}
  (hValue : (crates.jsonFromStr msg).bind Serde.value = some value)

include laws in
theorem wrapLayers_jwe {hops : Hops} {hop : String × String} {draws : Nat → ForwardDraws crates} {text : String}
    (hWrap : wrapLayers crates dids draws headers alg toKidsLimit msg (hops ++ [hop]) = .ok text) :
    ∃ jwe : Jwe, text = crates.jsonToString jwe.toJson := by
  obtain ⟨inner, -, forward, hForward, packed, hPacked, rfl⟩ := wrapLayers_concat_ok_iff.mp hWrap
  obtain ⟨json, -, rfl⟩ := buildForwardMessage_ok_iff.mp hForward
  obtain ⟨doc, jwe, -, hText, -⟩ := anoncrypt_sealed laws hPacked
  exact ⟨jwe.jwe, hText⟩

include laws hValue in
/-- What arrives at the last routing key is sealed for it, around the forward of the message to the recipient. -/
theorem wrapLayers_relayed (hPlain : PlainHeaders headers) {hops : Hops} (hHops : hops ≠ [])
    (hHolds : ∀ hop ∈ hops, ∀ doc, dids.resolve (didOrUrl hop.1).1 = .ok doc →
      HoldsKeys crates hasPrivate doc (didOrUrl hop.1).2 (secrets hop.1)) {draws : Nat → ForwardDraws crates}
    {text text' arrived : String}
    (hWrap : wrapLayers crates dids draws headers alg toKidsLimit msg hops.reverse = .ok text)
    (hSame : parseEnvelope crates text' = parseEnvelope crates text)
    (hRelayed : Relayed crates dids secrets opts text' (hops.map Prod.fst) arrived) :
    ∃ doc jwe id, dids.resolve (didOrUrl (hops.getLast hHops).1).1 = .ok doc ∧
      parseEnvelope crates arrived = .ok (.jwe jwe) ∧
      SealedFor hasPrivate doc (didOrUrl (hops.getLast hHops).1).2
        (crates.jsonToString (forwardMessage id (hops.getLast hHops).2 headers value).toJson) alg jwe := by
  induction hops generalizing draws text text' with
  | nil => exact absurd rfl hHops
  | cons hop rest ih =>
    rw [List.forall_mem_cons] at hHolds
    rw [List.reverse_cons, wrapLayers_concat_ok_iff] at hWrap
    obtain ⟨inner, hInner, forward, hForward, packed, hPacked, rfl⟩ := hWrap
    obtain ⟨json, hJson, rfl⟩ := buildForwardMessage_ok_iff.mp hForward
    obtain ⟨doc, jwe, hDoc, hText, hParse, hSealed⟩ := anoncrypt_sealed laws hPacked
    cases rest with
    | nil =>
      cases hInner
      cases hValue.symm.trans hJson
      cases hRelayed
      exact ⟨doc, jwe, _, hDoc, hSame.trans hParse, hSealed⟩
    | cons next others =>
      obtain ⟨jwe', rfl⟩ := wrapLayers_jwe laws (by rwa [List.reverse_cons] at hInner)
      cases (value_read_written laws jwe').symm.trans hJson
      cases hRelayed with
      | hop hFrom hParsed hRest =>
        have hForward := hSealed.forward_of_fromAnoncrypt laws hPlain (jwe'.value_mapFloats reread) (hHolds.1 doc hDoc)
          (hSame.trans hParse) hFrom
        cases hForward.symm.trans hParsed
        exact ih (List.cons_ne_nil _ _) hHolds.2 hInner (parseEnvelope_toValue laws jwe') hRest

end

/-! ## `pack_encrypted` -/

theorem Jwe.encrypt_text {curve : Curve} {draws : Draws crates} {plaintext : ByteArray} {cipher : Cipher}
    {kdf : Kdf} {alg : Algorithm} {enc : EncAlgorithm} {sender : Option (String × crates.KeyPair curve)}
    {recipients : List (String × crates.KeyPair curve)} {text : String}
    (h : Jwe.encrypt crates draws plaintext cipher kdf alg enc sender recipients = .ok text) :
    ∃ jwe : Jwe, text = crates.jsonToString jwe.toJson := by
  simp only [Jwe.encrypt, except_bind_ok_iff, except_pure_eq, Except.ok.injEq] at h
  obtain ⟨_, -, _, -, _, -, _, -, _, -, rfl⟩ := h
  exact ⟨_, rfl⟩

theorem anoncrypt_text {draws : Draws crates} {to_ : String} {msg : ByteArray} {alg : AnonCryptAlg} {toKidsLimit : Nat}
    {packed : String × List String} (h : anoncrypt crates dids draws to_ msg alg toKidsLimit = .ok packed) :
    ∃ jwe : Jwe, packed.1 = crates.jsonToString jwe.toJson := by
  simp only [anoncrypt, except_bind_ok_iff, except_pure_eq, Except.ok.injEq] at h
  obtain ⟨_, -, _, -, _, -, _, -, _, -, _, -, _, -, _, -, text, hText, rfl⟩ := h
  rw [anonEncrypt, context_ok_iff] at hText
  exact Jwe.encrypt_text hText

theorem authEncrypt_text {draws : Draws crates × Draws crates} {curve : Curve} {msg : ByteArray} {fromKid : String}
    {fromSecret : Secret} {opts : PackEncryptedOptions} {toKeys : List (String × crates.KeyPair curve)} {text : String}
    (h : authEncrypt crates draws curve msg fromKid fromSecret opts toKeys = .ok text) :
    ∃ jwe : Jwe, text = crates.jsonToString jwe.toJson := by
  simp only [authEncrypt, except_bind_ok_iff, context_ok_iff] at h
  obtain ⟨_, -, msg, hMsg, h⟩ := h
  split at h
  · rw [anonEncrypt, context_ok_iff] at h
    exact Jwe.encrypt_text h
  · cases h
    exact Jwe.encrypt_text hMsg

theorem packOuter_text {draws : Draws crates × Draws crates} {to_ msg : String} {from_ : Option String}
    {opts : PackEncryptedOptions} {packed : String × Option String × List String}
    (h : Message.packOuter crates dids secrets draws to_ from_ opts msg = .ok packed) :
    ∃ jwe : Jwe, packed.1 = crates.jsonToString jwe.toJson := by
  unfold Message.packOuter at h
  split at h
  · simp only [except_bind_ok_iff, except_pure_eq, Except.ok.injEq] at h
    obtain ⟨auth, hAuth, rfl⟩ := h
    simp only [authcrypt, except_bind_ok_iff, except_pure_eq, Except.ok.injEq] at hAuth
    obtain ⟨_, -, _, -, _, -, _, -, _, -, _, -, _, -, _, -, _, -, _, -, _, -, _, -, _, -, text, hText, rfl⟩ := hAuth
    exact authEncrypt_text hText
  · simp only [except_bind_ok_iff, except_pure_eq, Except.ok.injEq] at h
    obtain ⟨anon, hAnon, rfl⟩ := h
    exact anoncrypt_text hAnon

section
variable {m : Message} {draws : Message.PackDraws crates} {to_ : String} {from_ signBy : Option String}
  {opts : PackEncryptedOptions} {packed : String × PackEncryptedMetadata}

/-- The envelope is the one without forwarding, in the onion for the routing keys. -/
theorem packEncrypted_onion (h : m.packEncrypted crates dids secrets draws to_ from_ signBy opts = .ok packed)
    (hForward : opts.forward = true) {chain : List (String × DidCommMessagingService)}
    (hChain : resolveDidCommServicesChain crates dids to_ opts.messagingService = .ok chain)
    (hKeys : routingKeysOf chain ≠ []) :
    ∃ envelope : String × PackEncryptedMetadata,
      m.packEncrypted crates dids secrets draws to_ from_ signBy { opts with forward := false } = .ok envelope ∧
      (∃ jwe : Jwe, envelope.1 = crates.jsonToString jwe.toJson) ∧
      wrapInForward crates dids draws.forwards envelope.1 (opts.forwardHeaders.getD []) to_ (routingKeysOf chain)
        opts.encAlgAnon opts.toKidsLimit = .ok packed.1 := by
  simp only [Message.packEncrypted, except_bind_ok_iff, except_pure_eq, Except.ok.injEq] at h
  obtain ⟨_, hValid, inner, hInner, outer, hOuter, forward, hWrap, rfl⟩ := h
  have hPlain : m.packEncrypted crates dids secrets draws to_ from_ signBy { opts with forward := false } =
      .ok (outer.1, { messagingService := none, fromKid := outer.2.1, signByKid := inner.2, toKids := outer.2.2 }) := by
    simp only [Message.packEncrypted, except_bind_ok_iff, except_pure_eq, Except.ok.injEq]
    exact ⟨(), hValid, inner, hInner, outer, hOuter, none, rfl, rfl⟩
  refine ⟨_, hPlain, packOuter_text hOuter, ?_⟩
  simp only [wrapInForwardIfNeeded, hForward, Bool.not_true, Bool.false_eq_true, if_false, except_bind_ok_iff] at hWrap
  obtain ⟨chain', hChain', hWrap⟩ := hWrap
  cases hChain.symm.trans hChain'
  cases chain with
  | nil => exact absurd rfl hKeys
  | cons first rest =>
    rw [List.head?_cons, List.getLast?_cons] at hWrap
    simp only [List.isEmpty_eq_false_iff.mpr hKeys, Bool.false_eq_true, if_false, except_bind_ok_iff, except_pure_eq,
      Except.ok.injEq] at hWrap
    obtain ⟨text, hText, rfl⟩ := hWrap
    exact hText

end

theorem getLast_hops {routingKeys : List String} {key to_ : String} (h : routingKeys.getLast? = some key)
    (hHops : routingKeys.zip (routingKeys.tail ++ [to_]) ≠ []) :
    (routingKeys.zip (routingKeys.tail ++ [to_])).getLast hHops = (key, to_) := by
  have hKeys : routingKeys ≠ [] := fun hNone => by simp [hNone] at h
  have hLast : (routingKeys.zip (routingKeys.tail ++ [to_])).getLast? = some (key, to_) := by
    rw [List.getLast?_eq_head?_reverse, List.zip, List.reverse_zipWith (length_nexts hKeys to_),
      List.head?_zipWith, ← List.getLast?_eq_head?_reverse, ← List.getLast?_eq_head?_reverse, h, List.getLast?_concat]
  rw [List.getLast?_eq_some_getLast hHops] at hLast
  exact Option.some.inj hLast

variable {reread : Int → Int → Int × Int} {limit : ℕ∞} (laws : Lawful crates hasPrivate reread limit)
  {m : Message} {draws : Message.PackDraws crates} {to_ : String} {from_ signBy : Option String}
  {senderSecrets : SecretsResolver} {packing : PackEncryptedOptions} {packed : String × PackEncryptedMetadata}

include laws in
/-- What arrives at the last routing key holds the envelope without forwarding, in a forward to the recipient. -/
theorem packEncrypted_relayed {secrets : String → SecretsResolver}
    (h : m.packEncrypted crates dids senderSecrets draws to_ from_ signBy packing = .ok packed)
    (hForward : packing.forward = true) (hPlain : PlainHeaders (packing.forwardHeaders.getD []))
    {chain : List (String × DidCommMessagingService)}
    (hChain : resolveDidCommServicesChain crates dids to_ packing.messagingService = .ok chain) {key : String}
    (hLast : (routingKeysOf chain).getLast? = some key)
    (hHolds : ∀ key ∈ routingKeysOf chain, ∀ doc, dids.resolve (didOrUrl key).1 = .ok doc →
      HoldsKeys crates hasPrivate doc (didOrUrl key).2 (secrets key)) {arrived : String}
    (hRelayed : Relayed crates dids secrets opts packed.1 (routingKeysOf chain) arrived) :
    ∃ (envelope : String × PackEncryptedMetadata) (jwe : Jwe) (id : String) (doc : Document) (sealed : ParsedJWE),
      m.packEncrypted crates dids senderSecrets draws to_ from_ signBy { packing with forward := false } =
        .ok envelope ∧
      envelope.1 = crates.jsonToString jwe.toJson ∧ dids.resolve (didOrUrl key).1 = .ok doc ∧
      parseEnvelope crates arrived = .ok (.jwe sealed) ∧
      SealedFor hasPrivate doc (didOrUrl key).2 (crates.jsonToString
        (forwardMessage id to_ (packing.forwardHeaders.getD []) jwe.toJson.toValue).toJson)
          packing.encAlgAnon sealed := by
  have hKeys : routingKeysOf chain ≠ [] := fun hNone => by simp [hNone] at hLast
  obtain ⟨envelope, hEnvelope, ⟨jwe, hText⟩, hWrap⟩ := packEncrypted_onion h hForward hChain hKeys
  rw [wrapInForward_eq hKeys, hText] at hWrap
  have hHops := hops_ne_nil hKeys to_
  have hFst : ((routingKeysOf chain).zip ((routingKeysOf chain).tail ++ [to_])).map Prod.fst = routingKeysOf chain :=
    List.map_fst_zip (length_nexts hKeys to_).le
  obtain ⟨doc, sealed, id, hDoc, hArrived, hSealed⟩ := wrapLayers_relayed laws
    (value_read_written laws jwe) hPlain hHops (fun hop hHop => hHolds hop.1 (List.of_mem_zip hHop).1) hWrap rfl
      (hFst.symm ▸ hRelayed)
  rw [getLast_hops hLast hHops] at hDoc hSealed
  exact ⟨envelope, jwe, id, doc, sealed, hEnvelope, hText, hDoc, hArrived, hSealed⟩

end AffinidiMessaging.Didcomm
