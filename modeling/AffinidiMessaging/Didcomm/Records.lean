import AffinidiMessaging.Library.JsonValue
import AffinidiMessaging.Didcomm.Jws

/-! # Records are read back as they were written

The JSON forms of envelopes and messages: what their readers make of what their writers wrote.
-/

namespace AffinidiMessaging.Didcomm

open Fallible Serde

theorem list_map_iff {α β : Type} {read : Json → Option α} {write : β → Json} {item : β → α} {items : List β} :
    list read (.arr (items.map write)) = some (items.map item) ↔ ∀ b ∈ items, read (write b) = some (item b) := by
  rw [list, List.mapM_map]
  induction items with
  | nil => simp
  | cons b rest ih =>
    rw [List.forall_mem_cons, ← ih]
    simp [Option.bind_eq_some_iff]

theorem list_map_of_mem {α : Type} {read : Json → Option α} {write : α → Json} {items : List α}
    (h : ∀ a ∈ items, read (write a) = some a) : list read (.arr (items.map write)) = some items := by
  have hItems : list read (.arr (items.map write)) = some (items.map id) := list_map_iff.mpr h
  rwa [List.map_id] at hItems

theorem list_map {α : Type} {read : Json → Option α} {write : α → Json}
    (h : ∀ a, read (write a) = some a) (items : List α) : list read (.arr (items.map write)) = some items :=
  list_map_of_mem fun a _ => h a

theorem Recipient.ofJson_toJson (r : Recipient) : Recipient.ofJson r.toJson = some r := by
  simp [Recipient.ofJson, Recipient.toJson, record, required, Json.asStr, List.lookup]

theorem Jwe.ofJson_toJson (jwe : Jwe) : Jwe.ofJson jwe.toJson = some jwe := by
  have hRecipients := list_map Recipient.ofJson_toJson jwe.recipients
  simp [Jwe.ofJson, Jwe.toJson, record, required, Json.asStr, List.lookup, hRecipients]

theorem Recipient.toJson_toValue (r : Recipient) : r.toJson.toValue =
    .obj [("encrypted_key", .str r.encryptedKey), ("header", .obj [("kid", .str r.kid)])] := by
  simp only [toJson, toValue_str, toValue_obj, toMap_cons, toMap_nil, insertField, String.reduceEq, if_false]
  rw [if_pos (by decide)]

theorem Recipient.ofJson_toValue (r : Recipient) : Recipient.ofJson r.toJson.toValue = some r := by
  rw [toJson_toValue]
  simp [ofJson, record, required, Json.asStr, List.lookup]

theorem Jwe.toJson_toValue (jwe : Jwe) : jwe.toJson.toValue =
    .obj [("ciphertext", .str jwe.ciphertext), ("iv", .str jwe.iv), ("protected", .str jwe.protected_),
      ("recipients", .arr (jwe.recipients.map fun r => r.toJson.toValue)), ("tag", .str jwe.tag)] := by
  have hRecipients : ¬ ("recipients" : String) < "protected" := by decide
  have hIv : ("iv" : String) < "protected" := by decide
  have hCiphertext : ("ciphertext" : String) < "iv" := by decide
  have hTag : ¬ ("tag" : String) < "ciphertext" ∧ ¬ ("tag" : String) < "iv" ∧ ¬ ("tag" : String) < "protected" ∧
      ¬ ("tag" : String) < "recipients" := by decide
  simp only [toJson, toValue_str, toValue_obj, toValue_arr, toMap_cons, toMap_nil, insertField, toValues_map,
    String.reduceEq, if_false, if_true, hRecipients, hIv, hCiphertext, hTag]

theorem Jwe.ofJson_toValue (jwe : Jwe) : Jwe.ofJson jwe.toJson.toValue = some jwe := by
  have hRecipients := list_map Recipient.ofJson_toValue jwe.recipients
  rw [toJson_toValue]
  simp [ofJson, record, required, Json.asStr, List.lookup, hRecipients]

theorem Jws.Signature.ofJson_toJson (s : Jws.Signature) : Jws.Signature.ofJson s.toJson = some s := by
  simp [Jws.Signature.ofJson, Jws.Signature.toJson, record, required, Json.asStr, List.lookup]

theorem Jws.ofJson_toJson (jws : Jws) : Jws.ofJson jws.toJson = some jws := by
  have hSignatures := list_map Jws.Signature.ofJson_toJson jws.signatures
  simp [Jws.ofJson, Jws.toJson, record, required, Json.asStr, List.lookup, hSignatures]

theorem Jwe.ofJson_jws (jws : Jws) : Jwe.ofJson jws.toJson = none := by
  simp [Jwe.ofJson, Jws.toJson, record, required, List.lookup]

theorem ProtectedHeader.ofJson_toJson {h : ProtectedHeader} (hAlg : Algorithm.ofStr h.alg.asStr = h.alg)
    (hEnc : EncAlgorithm.ofStr h.enc.asStr = h.enc) (hEpk : value h.epk = some h.epk) :
    ProtectedHeader.ofJson h.toJson = some h := by
  obtain ⟨typ, alg, enc, skid, apu, apv, epk⟩ := h
  cases typ <;> cases skid <;> cases apu <;>
    simp [ProtectedHeader.ofJson, ProtectedHeader.toJson, record, required, Serde.optional, Json.asStr,
      List.lookup, skipNone, nullable, hAlg, hEnc, hEpk]

theorem Jws.ProtectedHeader.ofJson_toJson {h : Jws.ProtectedHeader}
    (hAlg : Jws.Algorithm.ofStr h.alg.asStr = h.alg) :
    Jws.ProtectedHeader.ofJson h.toJson = some h := by
  simp [Jws.ProtectedHeader.ofJson, Jws.ProtectedHeader.toJson, record, required, Json.asStr, List.lookup,
    hAlg]

theorem floatlessItems_map {α : Type} (write : α → Json) (h : ∀ a, (write a).floatless = true)
    (items : List α) : floatlessItems (items.map write) = true := by
  induction items with
  | nil => rfl
  | cons a rest ih => rw [List.map_cons, floatlessItems, h, ih, Bool.and_self]

theorem Jwe.floatless_toJson (jwe : Jwe) : jwe.toJson.floatless = true := by
  have hRecipients := floatlessItems_map Recipient.toJson (fun _ => rfl) jwe.recipients
  simp [Jwe.toJson, Json.floatless, floatlessFields, hRecipients]

theorem Jws.floatless_toJson (jws : Jws) : jws.toJson.floatless = true := by
  have hSignatures := floatlessItems_map Jws.Signature.toJson (fun _ => rfl) jws.signatures
  simp [Jws.toJson, Json.floatless, floatlessFields, hSignatures]

theorem ProtectedHeader.floatless_toJson {h : ProtectedHeader} (hEpk : h.epk.floatless = true) :
    h.toJson.floatless = true := by
  rw [ProtectedHeader.toJson, Json.floatless, floatlessFields_iff]
  intro p hp
  simp only [List.mem_append, List.mem_cons, List.not_mem_nil, or_false] at hp
  rcases hp with (((rfl | rfl | rfl) | hp) | hp) | rfl | rfl
  · cases h.typ <;> rfl
  · rfl
  · rfl
  · cases hSkid : h.skid <;> simp_all [skipNone, Json.floatless]
  · cases hApu : h.apu <;> simp_all [skipNone, Json.floatless]
  · rfl
  · exact hEpk

theorem literalItems_map {α : Type} (write : α → Json) (h : ∀ a, (write a).literal = true) (items : List α) :
    literalItems (items.map write) = true := by
  rw [literalItems_iff, List.forall_mem_map]
  exact fun a _ => h a

theorem Recipient.literal_toValue (r : Recipient) : r.toJson.toValue.literal = true := by
  simp [toJson_toValue, Json.literal, literalFields, startsNumber, numberKey]

theorem Jwe.literal_toJson (jwe : Jwe) : jwe.toJson.literal = true := by
  have hRecipients := literalItems_map Recipient.toJson
    (fun r => by simp [Recipient.toJson, Json.literal, literalFields, startsNumber, numberKey]) jwe.recipients
  simp [toJson, Json.literal, literalFields, startsNumber, numberKey, hRecipients]

theorem Jwe.literal_toValue (jwe : Jwe) : jwe.toJson.toValue.literal = true := by
  have hRecipients := literalItems_map (fun r : Recipient => r.toJson.toValue) Recipient.literal_toValue
    jwe.recipients
  simp [toJson_toValue, Json.literal, literalFields, startsNumber, numberKey, hRecipients]

theorem Jwe.value_toValue (jwe : Jwe) : value jwe.toJson.toValue = some jwe.toJson.toValue :=
  value_self jwe.literal_toValue (toValue_toValue _)

theorem Jwe.value_mapFloats (jwe : Jwe) (f : Int → Int → Int × Int) :
    value (jwe.toJson.toValue.mapFloats f) = some jwe.toJson.toValue := by
  rw [mapFloats_of_floatless f (floatless_toValue _ jwe.floatless_toJson), jwe.value_toValue]

theorem forall_mem_skipNone {α : Type} {name : String} {write : α → Json} {o : Option α} {p : String × Json → Prop} :
    (∀ q ∈ skipNone name write o, p q) ↔ ∀ a, o = some a → p (name, write a) := by
  cases o with
  | none => simp [skipNone]
  | some a => simp [skipNone]

theorem depth_str (text : String) : (Json.str text).depth = 0 := rfl

theorem depth_u64Json (n : UInt64) : (u64Json n).depth = 0 := rfl

theorem depth_map_of_zero {α : Type} {write : α → Json} (h : ∀ a, (write a).depth = 0) (items : List α) :
    (Json.arr (items.map write)).depth = 1 := by
  have hItems : itemsDepth (items.map write) ≤ 0 := by
    rw [itemsDepth_le, List.forall_mem_map]
    exact fun a _ => (h a).le
  rw [Json.depth, Nat.le_zero.mp hItems]

theorem Jwe.depth_toJson (jwe : Jwe) : jwe.toJson.depth ≤ 4 := by
  have hRecipients : (Json.arr (jwe.recipients.map Recipient.toJson)).depth ≤ 3 := by
    rw [depth_arr_le, List.forall_mem_map]
    exact fun _ _ => le_rfl
  rw [toJson, depth_obj_le]
  simp [hRecipients, depth_str]

theorem Jws.depth_toJson (jws : Jws) : jws.toJson.depth ≤ 4 := by
  have hSignatures : (Json.arr (jws.signatures.map Signature.toJson)).depth ≤ 3 := by
    rw [depth_arr_le, List.forall_mem_map]
    exact fun _ _ => le_rfl
  rw [toJson, depth_obj_le]
  simp [hSignatures, depth_str]

theorem ProtectedHeader.depth_toJson {h : ProtectedHeader} (hEpk : h.epk.depth ≤ 1) : h.toJson.depth ≤ 2 := by
  have hTyp : (nullable h.typ).depth ≤ 1 := by
    cases h.typ <;> exact Nat.zero_le _
  rw [toJson, depth_obj_le]
  simp only [List.forall_mem_append, List.forall_mem_cons, forall_mem_skipNone, depth_str, hTyp, hEpk,
    Nat.zero_le, implies_true, List.not_mem_nil, false_implies, and_self]

section
variable {α : Type} {read : Json → Option α} {write : α → Json}

theorem lookup_skipNone (n name : String) (o : Option α) :
    (skipNone name write o).lookup n = if n = name then o.map write else none := by
  cases o with
  | none => simp [skipNone]
  | some a =>
    by_cases h : n = name
    · simp [skipNone, h]
    · simp [skipNone, List.lookup_cons, h, beq_eq_false_iff_ne.mpr h]

theorem filter_skipNone (n name : String) (o : Option α) :
    ((skipNone name write o).filter (·.1 == n)).length = if name = n then o.toList.length else 0 := by
  cases o with
  | none => simp [skipNone]
  | some a => by_cases h : name = n <;> simp [skipNone, h]

variable (read write) in
theorem optional_map (hRead : ∀ a, read (write a) = some a) (hNull : ∀ a, write a ≠ .null) (o : Option α) :
    Serde.optional read (o.map write) = some o := by
  cases o with
  | none => rfl
  | some a =>
    rw [Option.map_some]
    unfold Serde.optional
    split
    · rename_i h; cases h
    · rename_i h
      exact absurd (Option.some.inj h) (hNull a)
    · rename_i j _ h
      cases h
      rw [hRead]
      rfl

end

/-- An attachment with some JSON and nothing else. -/
def Attachment.carrying (j : Json) : Attachment where
  data := .json { json := j, jws := none }
  id := none
  description := none
  filename := none
  mediaType := none
  format := none
  lastmodTime := none
  byteCount := none

theorem Attachment.ofJson_carrying {j j' : Json} (h : value j = some j') :
    Attachment.ofJson (Attachment.toJson (.carrying j)) = some (.carrying j') := by
  simp [Attachment.ofJson, Attachment.toJson, Attachment.carrying, AttachmentData.ofJson, AttachmentData.toJson,
    AttachmentData.readBase64, AttachmentData.readJson, AttachmentData.flattened, flatRecord, record, required,
    Serde.optional, skipNone, List.lookup, h]

theorem key_of_mem_skipNone {α : Type} {write : α → Json} {name : String} {o : Option α} {p : String × Json}
    (h : p ∈ skipNone name write o) : p.1 = name := by
  cases o with
  | none => cases h
  | some a => exact congrArg Prod.fst (List.mem_singleton.mp h)

namespace Message

/-- The entries of a message without headers of its own. -/
def fields (m : Message) : List (String × Json) :=
  [("id", .str m.id), ("typ", .str m.typ), ("type", .str m.type_), ("body", m.body)] ++
    skipNone "from" .str m.from_ ++ skipNone "to" (fun ids => .arr (ids.map .str)) m.to_ ++
    skipNone "thid" .str m.thid ++ skipNone "pthid" .str m.pthid ++
    skipNone "created_time" u64Json m.createdTime ++
    skipNone "expires_time" u64Json m.expiresTime ++ skipNone "from_prior" .str m.fromPrior ++
    skipNone "attachments" (fun as => .arr (as.map Attachment.toJson)) m.attachments

def names : List String := ["id", "typ", "type", "body", "from", "to", "thid", "pthid", "created_time",
  "expires_time", "from_prior", "attachments"]

theorem fields_once (m : Message) :
    (names.all fun n => (m.fields.filter (·.1 == n)).length ≤ 1) = true := by
  simp [names, fields, List.filter_append, filter_skipNone]

theorem name_of_mem {m : Message} {p : String × Json} (h : p ∈ m.fields) : p.1 ∈ names := by
  simp only [fields, List.mem_append] at h
  rcases h with (((((((h | h) | h) | h) | h) | h) | h) | h) | h
  · simp only [List.mem_cons, List.not_mem_nil, or_false] at h
    rcases h with rfl | rfl | rfl | rfl <;> simp [names]
  all_goals
    rw [key_of_mem_skipNone h]
    decide

theorem fields_named (m : Message) : m.fields.filter (fun p => p.1 ∉ names) = [] := by
  rw [List.filter_eq_nil_iff]
  intro p hp
  simp [name_of_mem hp]

theorem lookup_other (m : Message) {n : String} (h : n ∉ names) : m.fields.lookup n = none := by
  rw [List.lookup_eq_none_iff]
  intro p hp
  exact bne_iff_ne.mpr fun hEq => h (hEq ▸ name_of_mem hp)

theorem toJson_eq {m : Message} (hHeaders : m.extraHeaders = []) : m.toJson = .obj m.fields := by
  rw [toJson, hHeaders, List.append_nil]
  rfl

theorem flatRecord_toJson {m : Message} (hHeaders : m.extraHeaders = []) :
    flatRecord names m.toJson = some (fun n => m.fields.lookup n, []) := by
  rw [toJson_eq hHeaders, flatRecord, if_pos m.fields_once, fields_named]

/-- An object with the fields of a message and other entries is read as this message, where the body, the
attachments and the other entries are what their readers make of them. -/
theorem ofJson_of_fields {m : Message} {j : Json} {get : String → Option Json} {rest : List (String × Json)}
    (hRead : flatRecord names j = some (get, rest)) (hGet : ∀ n ∈ names, get n = m.fields.lookup n) :
    ofJson j = (value m.body).bind fun body =>
      (Serde.optional (list Attachment.ofJson)
        (m.attachments.map fun attached => .arr (attached.map Attachment.toJson))).bind fun attachments =>
      (valueMap rest).map fun extraHeaders => { m with body, attachments, extraHeaders } := by
  have hStr := optional_map Json.asStr Json.str (fun _ => rfl) (fun _ => by simp)
  have hList := optional_map (list Json.asStr) (fun ids : List String => .arr (ids.map .str))
    (list_map fun _ => rfl) (fun _ => by simp)
  have hTime := optional_map u64 u64Json (fun _ => rfl) (fun _ => by simp [u64Json])
  have hId : get "id" = some (.str m.id) := hGet _ (by decide)
  have hTyp : get "typ" = some (.str m.typ) := hGet _ (by decide)
  have hType : get "type" = some (.str m.type_) := hGet _ (by decide)
  have hBodyField : get "body" = some m.body := hGet _ (by decide)
  have hFrom : get "from" = m.from_.map .str := by
    rw [hGet _ (by decide)]
    simp [fields, List.lookup_append, lookup_skipNone, List.lookup_cons]
  have hTo : get "to" = m.to_.map fun ids => .arr (ids.map .str) := by
    rw [hGet _ (by decide)]
    simp [fields, List.lookup_append, lookup_skipNone, List.lookup_cons]
  have hThid : get "thid" = m.thid.map .str := by
    rw [hGet _ (by decide)]
    simp [fields, List.lookup_append, lookup_skipNone, List.lookup_cons]
  have hPthid : get "pthid" = m.pthid.map .str := by
    rw [hGet _ (by decide)]
    simp [fields, List.lookup_append, lookup_skipNone, List.lookup_cons]
  have hCreated : get "created_time" = m.createdTime.map u64Json := by
    rw [hGet _ (by decide)]
    simp [fields, List.lookup_append, lookup_skipNone, List.lookup_cons]
  have hExpires : get "expires_time" = m.expiresTime.map u64Json := by
    rw [hGet _ (by decide)]
    simp [fields, List.lookup_append, lookup_skipNone, List.lookup_cons]
  have hPrior : get "from_prior" = m.fromPrior.map .str := by
    rw [hGet _ (by decide)]
    simp [fields, List.lookup_append, lookup_skipNone, List.lookup_cons]
  have hAttachment : get "attachments" =
      m.attachments.map fun attached => .arr (attached.map Attachment.toJson) := by
    rw [hGet _ (by decide)]
    simp [fields, List.lookup_append, lookup_skipNone, List.lookup_cons]
  simp only [names] at hRead
  rw [ofJson, hRead, Option.bind_eq_bind, Option.bind_some]
  dsimp only
  rw [hId, hTyp, hType, hBodyField, hFrom, hTo, hThid, hPthid, hCreated, hExpires, hPrior, hAttachment, hStr, hStr,
    hStr, hStr, hList, hTime, hTime]
  change (value m.body).bind _ = _
  refine Option.bind_congr fun body _ => ?_
  change (Serde.optional (list Attachment.ofJson) _).bind _ = _
  refine Option.bind_congr fun attachments _ => ?_
  cases valueMap rest <;> rfl

theorem ofJson_toJson {m : Message} (hBody : value m.body = some m.body) (hHeaders : m.extraHeaders = [])
    (hAttachments : ∀ attached, m.attachments = some attached →
      list Attachment.ofJson (.arr (attached.map Attachment.toJson)) = some attached) :
    ofJson m.toJson = some m := by
  have hAttached : Serde.optional (list Attachment.ofJson)
      (m.attachments.map fun attached => .arr (attached.map Attachment.toJson)) = some m.attachments := by
    cases h : m.attachments with
    | none => rfl
    | some attached => simp [Serde.optional, hAttachments attached h]
  rw [ofJson_of_fields (flatRecord_toJson hHeaders) fun _ _ => rfl, hBody, Option.bind_some, hAttached,
    Option.bind_some, ← hHeaders, hHeaders]
  obtain ⟨id, typ, type_, body, from_, to_, thid, pthid, extraHeaders⟩ := m
  cases hHeaders
  rfl

theorem envelope_toJson {m : Message} (hHeaders : m.extraHeaders = []) :
    Jwe.ofJson m.toJson = none ∧ Jws.ofJson m.toJson = none := by
  have hProtected := lookup_other m (n := "protected") (by decide)
  have hSignatures := lookup_other m (n := "signatures") (by decide)
  rw [toJson_eq hHeaders]
  constructor
  · rw [Jwe.ofJson, record]
    split <;> simp [hProtected, required]
  · rw [Jws.ofJson, record]
    split <;> simp [hSignatures, required]

end Message

theorem Recipient.floatBlind : FloatBlind Recipient.ofJson := by
  intro j
  simp only [Recipient.ofJson, record_eraseFloats]
  cases record ["header", "encrypted_key"] j with
  | none => rfl
  | some get =>
    simp only [Option.map_some, Option.bind_eq_bind, Option.bind_some, floatBlind_asStr.required]
    cases get "header" with
    | none => rfl
    | some header =>
      simp only [Option.map_some, Option.bind_some, record_eraseFloats]
      cases record ["kid"] header with
      | none => rfl
      | some getHeader => simp only [Option.map_some, Option.bind_some, floatBlind_asStr.required]

theorem Jwe.floatBlind : FloatBlind Jwe.ofJson := by
  intro j
  simp only [Jwe.ofJson, record_eraseFloats]
  cases record ["protected", "recipients", "iv", "ciphertext", "tag"] j with
  | none => rfl
  | some get =>
    simp only [Option.map_some, Option.bind_eq_bind, Option.bind_some, floatBlind_asStr.required,
      Recipient.floatBlind.list.required]

theorem Jws.Signature.floatBlind : FloatBlind Jws.Signature.ofJson := by
  intro j
  simp only [Jws.Signature.ofJson, record_eraseFloats]
  cases record ["header", "protected", "signature"] j with
  | none => rfl
  | some get =>
    simp only [Option.map_some, Option.bind_eq_bind, Option.bind_some, floatBlind_asStr.required]
    cases get "header" with
    | none => rfl
    | some header =>
      simp only [Option.map_some, Option.bind_some, record_eraseFloats]
      cases record ["kid"] header with
      | none => rfl
      | some getHeader => simp only [Option.map_some, Option.bind_some, floatBlind_asStr.required]

theorem Jws.floatBlind : FloatBlind Jws.ofJson := by
  intro j
  simp only [Jws.ofJson, record_eraseFloats]
  cases record ["signatures", "payload"] j with
  | none => rfl
  | some get =>
    simp only [Option.map_some, Option.bind_eq_bind, Option.bind_some, floatBlind_asStr.required,
      Jws.Signature.floatBlind.list.required]

namespace Message

/-- The entries before the headers of one's own and those after them. -/
def leading (m : Message) : List (String × Json) :=
  [("id", .str m.id), ("typ", .str m.typ), ("type", .str m.type_), ("body", m.body)] ++
    skipNone "from" .str m.from_ ++ skipNone "to" (fun ids => .arr (ids.map .str)) m.to_ ++
    skipNone "thid" .str m.thid ++ skipNone "pthid" .str m.pthid

def trailing (m : Message) : List (String × Json) :=
  skipNone "created_time" u64Json m.createdTime ++
    skipNone "expires_time" u64Json m.expiresTime ++ skipNone "from_prior" .str m.fromPrior ++
    skipNone "attachments" (fun as => .arr (as.map Attachment.toJson)) m.attachments

theorem toJson_eq_append (m : Message) : m.toJson = .obj (m.leading ++ m.extraHeaders ++ m.trailing) := by
  simp only [toJson, leading, trailing, List.append_assoc]

theorem leading_append_trailing (m : Message) : m.leading ++ m.trailing = m.fields := by
  simp only [fields, leading, trailing, List.append_assoc]

theorem lookup_toJson (m : Message) {n : String} (h : n ∉ names) :
    (m.leading ++ m.extraHeaders ++ m.trailing).lookup n = m.extraHeaders.lookup n := by
  have hOther := lookup_other m h
  rw [← leading_append_trailing, List.lookup_append, Option.or_eq_none_iff] at hOther
  rw [List.lookup_append, List.lookup_append, hOther.1, hOther.2, Option.none_or, Option.or_none]

theorem filter_toJson (m : Message) {n : String} (h : n ∉ names) :
    (m.leading ++ m.extraHeaders ++ m.trailing).filter (·.1 == n) = m.extraHeaders.filter (·.1 == n) := by
  have hOther : m.fields.filter (·.1 == n) = [] := by
    rw [List.filter_eq_nil_iff]
    intro p hp hEq
    exact h (beq_iff_eq.mp hEq ▸ name_of_mem hp)
  rw [← leading_append_trailing, List.filter_append, List.append_eq_nil_iff] at hOther
  rw [List.filter_append, List.filter_append, hOther.1, hOther.2, List.nil_append, List.append_nil]

/-- Whether a message looks like an encrypted or a signed one is up to its headers. -/
theorem jwe_ofJson_toJson (m : Message) : Jwe.ofJson m.toJson = Jwe.ofJson (.obj m.extraHeaders) := by
  have hOther : ∀ n ∈ ["protected", "recipients", "iv", "ciphertext", "tag"], n ∉ names := by decide
  rw [toJson_eq_append, Jwe.ofJson, Jwe.ofJson]
  rcases record_agree (fun n hn => filter_toJson m (hOther n hn)) (fun n hn => lookup_toJson m (hOther n hn)) with
    ⟨hNone, hNone'⟩ | ⟨get, get', hGet, hGet', hSame⟩
  · rw [hNone, hNone']
  · rw [hGet, hGet']
    simp only [Option.bind_eq_bind, Option.bind_some, hSame "protected" (by decide),
      hSame "recipients" (by decide), hSame "iv" (by decide), hSame "ciphertext" (by decide),
      hSame "tag" (by decide)]

theorem jws_ofJson_toJson (m : Message) : Jws.ofJson m.toJson = Jws.ofJson (.obj m.extraHeaders) := by
  have hOther : ∀ n ∈ ["signatures", "payload"], n ∉ names := by decide
  rw [toJson_eq_append, Jws.ofJson, Jws.ofJson]
  rcases record_agree (fun n hn => filter_toJson m (hOther n hn)) (fun n hn => lookup_toJson m (hOther n hn)) with
    ⟨hNone, hNone'⟩ | ⟨get, get', hGet, hGet', hSame⟩
  · rw [hNone, hNone']
  · rw [hGet, hGet']
    simp only [Option.bind_eq_bind, Option.bind_some, hSame "signatures" (by decide),
      hSame "payload" (by decide)]

end Message

end AffinidiMessaging.Didcomm
