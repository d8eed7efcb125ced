import AffinidiMessaging.Didcomm.Lawful
import AffinidiMessaging.Didcomm.Pack
import AffinidiMessaging.Didcomm.Records

/-! # Plaintext messages are read back

The messages that a builder makes, and which of them are read back from the text that
`pack_plaintext` makes of them.
-/

namespace AffinidiMessaging.Didcomm

open Fallible Serde

/-- How an attachment is begun. -/
inductive AttachmentKind
  | base64 (base64 : String)
  | json (json : Value)
  | links (links : List String) (hash : String)
  | rkyv (bytes : List UInt8)
  | bytes (bytes : List UInt8)

def AttachmentKind.data : AttachmentKind → AttachmentData
  | .base64 text => .base64 { base64 := text, jws := none }
  | .json v => .json { json := v.json, jws := none }
  | .links uris digest => .links { links := uris, hash := digest, jws := none }
  | .rkyv value => .rkyv value
  | .bytes value => .bytes value

inductive AttachmentCall
  | id (id : String)
  | description (description : String)
  | filename (filename : String)
  | mediaType (mediaType : String)
  | format (format : String)
  | lastmodTime (lastmodTime : UInt64)
  | byteCount (byteCount : UInt64)
  | jws (jws : String)

def AttachmentData.withJws (text : String) : AttachmentData → AttachmentData
  | .base64 v => .base64 { v with jws := some text }
  | .json v => .json { v with jws := some text }
  | .links v => .links { v with jws := some text }
  | data => data

def AttachmentCall.run (a : Attachment) : AttachmentCall → Attachment
  | .id text => { a with id := some text }
  | .description text => { a with description := some text }
  | .filename text => { a with filename := some text }
  | .mediaType text => { a with mediaType := some text }
  | .format text => { a with format := some text }
  | .lastmodTime time => { a with lastmodTime := some time }
  | .byteCount count => { a with byteCount := some count }
  | .jws text => { a with data := a.data.withJws text }

/-- An attachment as it is built: how it is begun and the calls after that. -/
structure AttachmentBuilder where
  kind : AttachmentKind
  calls : List AttachmentCall

def AttachmentBuilder.start (b : AttachmentBuilder) : Attachment where
  data := b.kind.data
  id := none
  description := none
  filename := none
  mediaType := none
  format := none
  lastmodTime := none
  byteCount := none

def AttachmentBuilder.finalize (b : AttachmentBuilder) : Attachment := b.calls.foldl AttachmentCall.run b.start

inductive MessageCall
  | body (body : Value)
  | to_ (to_ : String)
  | toMany (to_ : List String)
  | from_ (from_ : String)
  | thid (thid : String)
  | pthid (pthid : String)
  | header (key : String) (value : Value)
  | createdTime (createdTime : UInt64)
  | expiresTime (expiresTime : UInt64)
  | fromPrior (fromPrior : String)
  | attachment (attachment : AttachmentBuilder)
  | attachments (attachments : List AttachmentBuilder)

def MessageCall.run (m : Message) : MessageCall → Message
  | .body v => { m with body := v.json }
  | .to_ did => { m with to_ := some (m.to_.getD [] ++ [did]) }
  | .toMany dids => { m with to_ := some (m.to_.getD [] ++ dids) }
  | .from_ did => { m with from_ := some did }
  | .thid text => { m with thid := some text }
  | .pthid text => { m with pthid := some text }
  | .header key v => { m with extraHeaders := insertField key v.json m.extraHeaders }
  | .createdTime time => { m with createdTime := some time }
  | .expiresTime time => { m with expiresTime := some time }
  | .fromPrior jwt => { m with fromPrior := some jwt }
  | .attachment a => { m with attachments := some (m.attachments.getD [] ++ [a.finalize]) }
  | .attachments as => { m with attachments := some (m.attachments.getD [] ++ as.map AttachmentBuilder.finalize) }

/-- A message as it is built: `Message::build` and the calls after that. -/
structure MessageBuilder where
  id : String
  type_ : String
  body : Value
  calls : List MessageCall

def MessageBuilder.finalize (b : MessageBuilder) : Message :=
  b.calls.foldl MessageCall.run (Message.build b.id b.type_ b.body.json)

def AttachmentData.Canonical : AttachmentData → Prop
  | .json v => v.json.toValue = v.json
  | _ => True

/-- The JSON in a message is made of values. -/
structure Message.Canonical (m : Message) : Prop where
  body : m.body.toValue = m.body
  sorted : Sorted m.extraHeaders
  headers : ∀ p ∈ m.extraHeaders, p.2.toValue = p.2
  attachments : ∀ attached, m.attachments = some attached → ∀ a ∈ attached, a.data.Canonical

/-- None of the objects in it stands for a number. -/
def AttachmentData.Literal : AttachmentData → Prop
  | .json v => v.json.literal = true
  | _ => True

theorem AttachmentCall.run_canonical (call : AttachmentCall) {a : Attachment} (h : a.data.Canonical) :
    (AttachmentCall.run a call).data.Canonical := by
  cases call with
  | jws text =>
    change (a.data.withJws text).Canonical
    cases hData : a.data with
    | json v =>
      rw [hData] at h
      exact h
    | _ => trivial
  | _ => exact h

theorem AttachmentBuilder.finalize_canonical (b : AttachmentBuilder) : b.finalize.data.Canonical := by
  rw [finalize]
  have hStart : b.start.data.Canonical := by
    rw [start]
    cases b.kind with
    | json v => exact v.canonical
    | _ => trivial
  generalize b.start = a at hStart
  induction b.calls generalizing a with
  | nil => exact hStart
  | cons call calls ih => exact ih _ (call.run_canonical hStart)

namespace Message

variable {m : Message}

theorem Canonical.add (h : m.Canonical) {added : List Attachment} (hAdded : ∀ a ∈ added, a.data.Canonical) :
    Canonical { m with attachments := some (m.attachments.getD [] ++ added) } where
  body := h.body
  sorted := h.sorted
  headers := h.headers
  attachments := by
    intro attached hAttached a ha
    cases hAttached
    rcases List.mem_append.mp ha with hOld | hNew
    · cases hOlder : m.attachments with
      | none =>
        rw [hOlder] at hOld
        cases hOld
      | some older =>
        rw [hOlder] at hOld
        exact h.attachments older hOlder a hOld
    · exact hAdded a hNew

end Message

theorem MessageCall.run_canonical (call : MessageCall) {m : Message} (h : m.Canonical) :
    (MessageCall.run m call).Canonical := by
  cases call with
  | body v => exact { h with body := v.canonical }
  | header key v =>
    refine { h with sorted := sorted_insertField h.sorted key v.json, headers := fun p hp => ?_ }
    rcases mem_insertField hp with rfl | hp
    · exact v.canonical
    · exact h.headers p hp
  | attachment a =>
    apply h.add
    intro a' ha'
    rw [List.mem_singleton.mp ha']
    exact a.finalize_canonical
  | attachments as =>
    apply h.add
    intro a' ha'
    obtain ⟨a, -, rfl⟩ := List.mem_map.mp ha'
    exact a.finalize_canonical
  | _ => exact { h with }

theorem MessageBuilder.finalize_canonical (b : MessageBuilder) : b.finalize.Canonical := by
  rw [finalize]
  have hStart : (Message.build b.id b.type_ b.body.json).Canonical :=
    { body := b.body.canonical
      sorted := List.Pairwise.nil
      headers := fun _ hp => (List.not_mem_nil hp).elim
      attachments := fun _ h => nomatch h }
  generalize Message.build b.id b.type_ b.body.json = m at hStart
  induction b.calls generalizing m with
  | nil => exact hStart
  | cons call calls ih => exact ih _ (call.run_canonical hStart)

/-! ## Attachments -/

theorem optional_str (o : Option String) : Serde.optional Json.asStr (o.map .str) = some o :=
  optional_map Json.asStr Json.str (fun _ => rfl) (fun _ => by simp) o

theorem optional_u64 (o : Option UInt64) : Serde.optional u64 (o.map u64Json) = some o :=
  optional_map u64 u64Json (fun _ => rfl) (fun _ => by simp [u64Json]) o

theorem u8_byte (b : UInt8) : u8 (.num (.posInt b.toUInt64)) = some b := by
  have hSmall : b.toUInt64 < 256 := by
    rw [UInt64.lt_iff_toNat_lt]
    exact b.toNat_lt
  simp [u8, hSmall]

namespace AttachmentData

/-- Data that its own form reads back. -/
def Discriminated : AttachmentData → Prop
  | .bytes _ => False
  | _ => True

/-- The data with its JSON read as a value. -/
def asValue : AttachmentData → Option AttachmentData
  | .json v => (value v.json).map fun json => .json { v with json }
  | data => some data

theorem ofJson_toJson {data : AttachmentData} (hForm : data.Discriminated) : ofJson data.toJson = data.asValue := by
  cases data with
  | base64 v =>
    obtain ⟨text, jws⟩ := v
    cases jws <;>
      simp [ofJson, toJson, asValue, readBase64, flattened, flatRecord, record, required, Serde.optional, skipNone,
        Json.asStr, List.lookup]
  | json v =>
    obtain ⟨j, jws⟩ := v
    cases hValue : value j <;> cases jws <;>
      simp [ofJson, toJson, asValue, readBase64, readJson, readLinks, readRkyv, flattened, flatRecord, record, required,
        Serde.optional, skipNone, Json.asStr, List.lookup, hValue]
  | links v =>
    obtain ⟨uris, digest, jws⟩ := v
    have hUris : list Json.asStr (.arr (uris.map .str)) = some uris :=
      @list_map String Json.asStr Json.str (fun _ => rfl) uris
    cases jws <;>
      simp [ofJson, toJson, asValue, readBase64, readJson, readLinks, flattened, flatRecord, record, required,
        Serde.optional, skipNone, Json.asStr, List.lookup, hUris]
  | rkyv bytes =>
    have hBytes : list u8 (bytesJson bytes) = some bytes := list_map u8_byte bytes
    simp [ofJson, toJson, asValue, readBase64, readJson, readLinks, readRkyv, flattened, flatRecord, record, required,
      List.lookup, hBytes]
  | bytes bytes => exact hForm.elim

/-- No data is read as `Bytes`. -/
theorem discriminated_of_ofJson {j : Json} {data : AttachmentData} (h : ofJson j = some data) :
    data.Discriminated := by
  cases data with
  | bytes bytes =>
    simp only [ofJson, Option.orElse_eq_orElse, Option.orElse_eq_or, Option.or_eq_some_iff] at h
    rcases h with h | ⟨-, h | ⟨-, h | ⟨-, h⟩⟩⟩
    · simp [readBase64, Option.bind_eq_some_iff] at h
    · simp [readJson, Option.bind_eq_some_iff] at h
    · simp [readLinks, Option.bind_eq_some_iff] at h
    · simp [readRkyv, Option.bind_eq_some_iff] at h
  | _ => trivial

end AttachmentData

namespace Attachment

theorem ofJson_toJson {a : Attachment} (hForm : a.data.Discriminated) :
    ofJson a.toJson = a.data.asValue.map fun data => { a with data } := by
  have hData := AttachmentData.ofJson_toJson hForm
  have hRecord : record ["data", "id", "description", "filename", "media_type", "format", "lastmod_time",
      "byte_count"] a.toJson = some fun n => (("data", a.data.toJson) :: skipNone "id" .str a.id ++
        skipNone "description" .str a.description ++ skipNone "filename" .str a.filename ++
        skipNone "media_type" .str a.mediaType ++ skipNone "format" .str a.format ++
        skipNone "lastmod_time" u64Json a.lastmodTime ++ skipNone "byte_count" u64Json a.byteCount).lookup n := by
    rw [toJson, record, if_pos]
    simp [List.filter_append, filter_skipNone]
  simp only [ofJson, hRecord, List.cons_append, List.lookup_cons, List.lookup_append, lookup_skipNone,
    String.reduceBEq, String.reduceEq, BEq.rfl, if_true, if_false, Option.or_none, Option.none_or,
    Option.bind_eq_bind, Option.bind_some, required, hData, optional_str, optional_u64, Option.pure_def]
  cases a.data.asValue <;> rfl

theorem discriminated_of_ofJson {j : Json} {a : Attachment} (h : ofJson j = some a) : a.data.Discriminated := by
  simp only [ofJson, Option.bind_eq_bind, Option.bind_eq_some_iff, Option.pure_def, Option.some.injEq,
    required] at h
  obtain ⟨get, -, data, ⟨j, -, hData⟩, id, -, description, -, filename, -, mediaType, -, format, -,
    lastmodTime, -, byteCount, -, rfl⟩ := h
  exact AttachmentData.discriminated_of_ofJson hData

end Attachment

theorem exists_of_mem_list {α : Type} {read : Json → Option α} {j : Json} {items : List α}
    (h : list read j = some items) : ∀ a ∈ items, ∃ item, read item = some a := by
  cases j with
  | arr written =>
    rw [list] at h
    induction written generalizing items with
    | nil =>
      cases h
      simp
    | cons item rest ih =>
      simp only [List.mapM_cons, Option.bind_eq_bind, Option.bind_eq_some_iff, Option.pure_def,
        Option.some.injEq] at h
      obtain ⟨a, hItem, others, hRest, rfl⟩ := h
      rw [List.forall_mem_cons]
      exact ⟨⟨item, hItem⟩, ih hRest⟩
  | _ => cases h

theorem of_optional {α : Type} {read : Json → Option α} {o : Option Json} {a : α}
    (h : Serde.optional read o = some (some a)) : read (o.getD .null) = some a := by
  unfold Serde.optional at h
  split at h
  · cases h
  · cases h
  · obtain ⟨b, hRead, hSome⟩ := Option.map_eq_some_iff.mp h
    cases hSome
    exact hRead

/-! ## Messages -/

namespace Message

/-- The names of its headers are no names of fields of a message. -/
def OwnNames (m : Message) : Prop := ∀ p ∈ m.extraHeaders, p.1 ∉ names

def Discriminated (m : Message) : Prop :=
  ∀ attached, m.attachments = some attached → ∀ a ∈ attached, a.data.Discriminated

/-- None of the objects in its JSON stands for a number. -/
structure Literal (m : Message) : Prop where
  body : m.body.literal = true
  headers : literalFields m.extraHeaders = true
  attachments : ∀ attached, m.attachments = some attached → ∀ a ∈ attached, a.data.Literal

section
variable {m : Message}

theorem OwnNames.lookup (h : m.OwnNames) {n : String} (hName : n ∈ names) : m.extraHeaders.lookup n = none := by
  rw [List.lookup_eq_none_iff]
  intro p hp
  exact bne_iff_ne.mpr fun hEq => h p hp (hEq ▸ hName)

theorem OwnNames.flatRecord (h : m.OwnNames) : ∃ get, flatRecord names m.toJson = some (get, m.extraHeaders) ∧
    ∀ n ∈ names, get n = m.fields.lookup n := by
  have hFilter : ∀ n ∈ names, m.extraHeaders.filter (·.1 == n) = [] := by
    intro n hn
    rw [List.filter_eq_nil_iff]
    intro p hp hEq
    exact h p hp (beq_iff_eq.mp hEq ▸ hn)
  have hOnce : (names.all fun n => ((m.leading ++ m.extraHeaders ++ m.trailing).filter (·.1 == n)).length ≤ 1)
      = true := by
    rw [List.all_eq_true]
    intro n hn
    have hFields := List.all_eq_true.mp m.fields_once n hn
    rw [← leading_append_trailing] at hFields
    simp only [List.filter_append, hFilter n hn, List.append_nil] at hFields ⊢
    exact hFields
  have hRest : (m.leading ++ m.extraHeaders ++ m.trailing).filter (fun p => p.1 ∉ names) = m.extraHeaders := by
    have hFields := m.fields_named
    rw [← leading_append_trailing, List.filter_append, List.append_eq_nil_iff] at hFields
    rw [List.filter_append, List.filter_append, hFields.1, hFields.2, List.nil_append, List.append_nil,
      List.filter_eq_self]
    exact fun p hp => decide_eq_true (h p hp)
  refine ⟨fun n => (m.leading ++ m.extraHeaders ++ m.trailing).lookup n, ?_, fun n hn => ?_⟩
  · rw [toJson_eq_append, Serde.flatRecord, if_pos hOnce, hRest]
  · simp only [← leading_append_trailing, List.lookup_append, h.lookup hn, Option.or_none]

/-- What is read of the text of a message whose headers are not named like fields. -/
theorem OwnNames.ofJson_toJson (h : m.OwnNames) :
    ofJson m.toJson = (value m.body).bind fun body =>
      (Serde.optional (list Attachment.ofJson)
        (m.attachments.map fun attached => .arr (attached.map Attachment.toJson))).bind fun attachments =>
      (valueMap m.extraHeaders).map fun extraHeaders => { m with body, attachments, extraHeaders } := by
  obtain ⟨get, hRead, hGet⟩ := h.flatRecord
  exact ofJson_of_fields hRead hGet

/-- A message that was read has headers of its own only, and no `Bytes`. -/
theorem of_ofJson {j : Json} (h : ofJson j = some m) : m.OwnNames ∧ m.Discriminated := by
  obtain ⟨⟨get, rest⟩, hRead, h⟩ := Option.bind_eq_some_iff.mp h
  obtain ⟨id, -, h⟩ := Option.bind_eq_some_iff.mp h
  obtain ⟨typ, -, h⟩ := Option.bind_eq_some_iff.mp h
  obtain ⟨type_, -, h⟩ := Option.bind_eq_some_iff.mp h
  obtain ⟨body, -, h⟩ := Option.bind_eq_some_iff.mp h
  obtain ⟨from_, -, h⟩ := Option.bind_eq_some_iff.mp h
  obtain ⟨to_, -, h⟩ := Option.bind_eq_some_iff.mp h
  obtain ⟨thid, -, h⟩ := Option.bind_eq_some_iff.mp h
  obtain ⟨pthid, -, h⟩ := Option.bind_eq_some_iff.mp h
  obtain ⟨createdTime, -, h⟩ := Option.bind_eq_some_iff.mp h
  obtain ⟨expiresTime, -, h⟩ := Option.bind_eq_some_iff.mp h
  obtain ⟨fromPrior, -, h⟩ := Option.bind_eq_some_iff.mp h
  obtain ⟨attachments, hAttachments, h⟩ := Option.bind_eq_some_iff.mp h
  obtain ⟨extraHeaders, hHeaders, h⟩ := Option.bind_eq_some_iff.mp h
  cases h
  constructor
  · intro p hp
    obtain ⟨q, hq, hName⟩ := key_of_mem_valueMap hHeaders hp
    rw [← hName]
    cases j with
    | obj fields =>
      rw [Serde.flatRecord, Option.ite_none_right_eq_some] at hRead
      obtain ⟨-, hGet⟩ := hRead
      cases hGet
      exact of_decide_eq_true (List.mem_filter.mp hq).2
    | _ => cases hRead
  · intro attached hAttached a ha
    rw [show attachments = some attached from hAttached] at hAttachments
    obtain ⟨item, hItem⟩ := exists_of_mem_list (of_optional hAttachments) a ha
    exact Attachment.discriminated_of_ofJson hItem

end

end Message

/-! ## Floats -/

section
variable (f : Int → Int → Int × Int)

def AttachmentData.mapFloats : AttachmentData → AttachmentData
  | .json v => .json { v with json := v.json.mapFloats f }
  | data => data

def Attachment.mapFloats (a : Attachment) : Attachment := { a with data := a.data.mapFloats f }

/-- The message with other floats. -/
def Message.mapFloats (m : Message) : Message :=
  { m with
    body := m.body.mapFloats f
    extraHeaders := mapFloatFields f m.extraHeaders
    attachments := m.attachments.map fun attached => attached.map (Attachment.mapFloats f) }

theorem mapFloatFields_skipNone {α : Type} (name : String) (write : α → Json) (o : Option α) :
    mapFloatFields f (skipNone name write o) = skipNone name (fun a => (write a).mapFloats f) o := by
  cases o <;> rfl

theorem mapFloatItems_map {α : Type} (write : α → Json) (items : List α) :
    mapFloatItems f (items.map write) = items.map fun a => (write a).mapFloats f := by
  rw [mapFloatItems_eq_map, List.map_map]
  rfl

theorem AttachmentData.toJson_mapFloats (data : AttachmentData) :
    (data.mapFloats f).toJson = data.toJson.mapFloats f := by
  have hBytes : ∀ bytes, (bytesJson bytes).mapFloats f = bytesJson bytes := by
    intro bytes
    simp only [bytesJson, Json.mapFloats, mapFloatItems_map]
  cases data with
  | base64 v =>
    simp only [mapFloats, toJson, Json.mapFloats, mapFloatFields, mapFloatFields_skipNone]
  | json v =>
    simp only [mapFloats, toJson, Json.mapFloats, mapFloatFields, mapFloatFields_skipNone]
  | links v =>
    simp only [mapFloats, toJson, Json.mapFloats, mapFloatFields, mapFloatFields_skipNone, mapFloatItems_map]
  | _ => simp only [mapFloats, toJson, Json.mapFloats, mapFloatFields, hBytes]

theorem Attachment.toJson_mapFloats (a : Attachment) : (a.mapFloats f).toJson = a.toJson.mapFloats f := by
  simp only [mapFloats, toJson, Json.mapFloats, mapFloatFields, mapFloatFields_append, mapFloatFields_skipNone,
    AttachmentData.toJson_mapFloats, List.cons_append]
  rfl

theorem Attachment.mapFloats_eq_self_iff (a : Attachment) : a.mapFloats f = a ↔ a.data.mapFloats f = a.data := by
  obtain ⟨data⟩ := a
  simp [mapFloats]

theorem AttachmentData.mapFloats_mk (data : AttachmentData) : data.mapFloats Prod.mk = data := by
  cases data with
  | json v => rw [mapFloats, Serde.mapFloats_mk]
  | _ => rfl

theorem Attachment.mapFloats_mk (a : Attachment) : a.mapFloats Prod.mk = a :=
  (a.mapFloats_eq_self_iff Prod.mk).mpr a.data.mapFloats_mk

theorem AttachmentData.Discriminated.mapFloats {data : AttachmentData} (h : data.Discriminated) :
    (data.mapFloats f).Discriminated := by
  cases data with
  | bytes bytes => exact h
  | _ => trivial

theorem AttachmentData.read_iff {data : AttachmentData} (hCanonical : data.Canonical) (hForm : data.Discriminated) :
    ofJson (data.mapFloats f).toJson = some data ↔ data.Literal ∧ data.mapFloats f = data := by
  rw [ofJson_toJson (hForm.mapFloats f)]
  cases data with
  | json v =>
    have hValue : v.json.toValue = v.json := hCanonical
    have hRead := value_mapFloats_iff f hValue
    obtain ⟨j, jws⟩ := v
    simpa [asValue, mapFloats, Literal] using hRead
  | _ => simp [asValue, mapFloats, Literal]

theorem Attachment.read_iff (a : Attachment) (hCanonical : a.data.Canonical) (hForm : a.data.Discriminated) :
    ofJson (a.mapFloats f).toJson = some a ↔ a.data.Literal ∧ a.mapFloats f = a := by
  have hData := AttachmentData.read_iff f hCanonical hForm
  rw [ofJson_toJson (by exact hForm.mapFloats f), a.mapFloats_eq_self_iff, ← hData,
    AttachmentData.ofJson_toJson (hForm.mapFloats f)]
  constructor
  · intro hSame
    obtain ⟨data, hRead, hSame⟩ := Option.map_eq_some_iff.mp hSame
    exact hRead.trans (congrArg (some ·.data) hSame)
  · intro hRead
    rw [show (a.mapFloats f).data = a.data.mapFloats f from rfl, hRead]
    rfl

namespace Message

variable (m : Message)

theorem toJson_mapFloats : (m.mapFloats f).toJson = m.toJson.mapFloats f := by
  have hAttachments : skipNone "attachments" (fun as => Json.arr (as.map Attachment.toJson))
      (m.attachments.map fun attached => attached.map (Attachment.mapFloats f)) =
      skipNone "attachments" (fun as => Json.arr (as.map fun a => a.toJson.mapFloats f)) m.attachments := by
    cases m.attachments with
    | none => rfl
    | some attached =>
      simp only [Option.map_some, skipNone, List.map_map, Function.comp_def, Attachment.toJson_mapFloats]
  simp only [mapFloats, toJson, Json.mapFloats, mapFloatFields, mapFloatFields_append, mapFloatFields_skipNone,
    mapFloatItems_map, hAttachments]
  rfl

theorem exists_of_mem_mapFloats {attached : List Attachment} (h : (m.mapFloats f).attachments = some attached)
    {a : Attachment} (ha : a ∈ attached) :
    ∃ older, m.attachments = some older ∧ ∃ b ∈ older, b.mapFloats f = a := by
  obtain ⟨older, hOlder, rfl⟩ := Option.map_eq_some_iff.mp h
  exact ⟨older, hOlder, List.mem_map.mp ha⟩

variable {m}

theorem Canonical.mapFloats (h : m.Canonical) : (m.mapFloats f).Canonical where
  body := by
    change (m.body.mapFloats f).toValue = m.body.mapFloats f
    rw [toValue_mapFloats, h.body]
  sorted := sorted_mapFloatFields f h.sorted
  headers := by
    intro p hp
    obtain ⟨q, hq, rfl⟩ := (mem_mapFloatFields f).mp hp
    rw [toValue_mapFloats, h.headers q hq]
  attachments := by
    intro attached hAttached a ha
    obtain ⟨older, hOlder, b, hb, rfl⟩ := exists_of_mem_mapFloats f m hAttached ha
    have hOld := h.attachments older hOlder b hb
    change (b.data.mapFloats f).Canonical
    cases hData : b.data with
    | json v =>
      rw [hData] at hOld
      have hValue : v.json.toValue = v.json := hOld
      change (v.json.mapFloats f).toValue = v.json.mapFloats f
      rw [toValue_mapFloats, hValue]
    | _ => trivial

theorem mapFloats_eq_self_iff : m.mapFloats f = m ↔ m.body.mapFloats f = m.body ∧
    mapFloatFields f m.extraHeaders = m.extraHeaders ∧
    ∀ attached, m.attachments = some attached → ∀ a ∈ attached, a.mapFloats f = a := by
  have hAttachments : (m.attachments.map fun attached => attached.map (Attachment.mapFloats f)) = m.attachments ↔
      ∀ attached, m.attachments = some attached → ∀ a ∈ attached, a.mapFloats f = a := by
    cases m.attachments with
    | none => simp
    | some attached =>
      simp only [Option.map_some, Option.some.injEq, forall_eq']
      conv_lhs => rhs; rw [← List.map_id attached]
      exact List.map_inj_left
  rw [← hAttachments]
  obtain ⟨id, typ, type_, body, from_, to_, thid, pthid, extraHeaders⟩ := m
  simp [mapFloats]

theorem OwnNames.mapFloats (h : m.OwnNames) : (m.mapFloats f).OwnNames := by
  intro p hp
  obtain ⟨q, hq, rfl⟩ := (mem_mapFloatFields f).mp hp
  exact h q hq

theorem Discriminated.mapFloats (h : m.Discriminated) : (m.mapFloats f).Discriminated := by
  intro attached hAttached a ha
  obtain ⟨older, hOlder, b, hb, rfl⟩ := exists_of_mem_mapFloats f m hAttached ha
  exact (h older hOlder b hb).mapFloats f

/-- A message of values that comes back with other floats is the same when no object of it stands for a number
and its floats are kept. -/
theorem Canonical.read_iff (h : m.Canonical) (hNames : m.OwnNames) (hForms : m.Discriminated) :
    ofJson (m.mapFloats f).toJson = some m ↔ m.Literal ∧ m.mapFloats f = m := by
  have hHeaders := valueMap_mapFloats_iff f h.sorted h.headers
  have hAttachments : Serde.optional (list Attachment.ofJson) ((m.mapFloats f).attachments.map fun attached =>
      .arr (attached.map Attachment.toJson)) = some m.attachments ↔ ∀ attached, m.attachments = some attached →
        ∀ a ∈ attached, a.data.Literal ∧ a.mapFloats f = a := by
    rw [Message.mapFloats]
    cases hSome : m.attachments with
    | none => simp [Serde.optional]
    | some attached =>
      have hList := @list_map_iff _ _ Attachment.ofJson (fun a => (a.mapFloats f).toJson) (fun a => a) attached
      rw [List.map_id'] at hList
      simp only [Option.map_some, Serde.optional, Option.map_eq_some_iff, List.map_map, Option.some.injEq,
        exists_eq_right, forall_eq', Function.comp_def, hList]
      exact forall₂_congr fun a ha => a.read_iff f (h.attachments attached hSome a ha) (hForms attached hSome a ha)
  have hRead : ofJson (m.mapFloats f).toJson = some m ↔ value (m.body.mapFloats f) = some m.body ∧
      Serde.optional (list Attachment.ofJson) ((m.mapFloats f).attachments.map fun attached =>
        .arr (attached.map Attachment.toJson)) = some m.attachments ∧
      valueMap (mapFloatFields f m.extraHeaders) = some m.extraHeaders := by
    rw [(hNames.mapFloats f).ofJson_toJson]
    constructor
    · intro hSame
      obtain ⟨body, hBody, hSame⟩ := Option.bind_eq_some_iff.mp hSame
      obtain ⟨attachments, hAttached, hSame⟩ := Option.bind_eq_some_iff.mp hSame
      obtain ⟨extraHeaders, hExtra, hSame⟩ := Option.map_eq_some_iff.mp hSame
      exact ⟨hBody.trans (congrArg (some ·.body) hSame), hAttached.trans (congrArg (some ·.attachments) hSame),
        hExtra.trans (congrArg (some ·.extraHeaders) hSame)⟩
    · rintro ⟨hBody, hAttached, hExtra⟩
      rw [show (m.mapFloats f).body = m.body.mapFloats f from rfl, hBody, Option.bind_some, hAttached,
        Option.bind_some, show (m.mapFloats f).extraHeaders = mapFloatFields f m.extraHeaders from rfl, hExtra]
      rfl
  rw [hRead, value_mapFloats_iff f h.body, hAttachments, hHeaders, mapFloats_eq_self_iff]
  constructor
  · rintro ⟨⟨hBody, hBodyFloats⟩, hAttached, hExtra, hExtraFloats⟩
    exact ⟨⟨hBody, hExtra, fun as hAs a ha => (hAttached as hAs a ha).1⟩, hBodyFloats, hExtraFloats,
      fun as hAs a ha => (hAttached as hAs a ha).2⟩
  · rintro ⟨hLiteral, hBodyFloats, hExtraFloats, hAttached⟩
    exact ⟨⟨hLiteral.body, hBodyFloats⟩, fun as hAs a ha => ⟨hLiteral.attachments as hAs a ha, hAttached as hAs a ha⟩,
      hLiteral.headers, hExtraFloats⟩

theorem Canonical.ofJson_toJson (h : m.Canonical) (hNames : m.OwnNames) (hForms : m.Discriminated)
    (hLiteral : m.Literal) : ofJson m.toJson = some m := by
  have hSame : m.mapFloats Prod.mk = m :=
    (mapFloats_eq_self_iff Prod.mk).mpr
      ⟨Serde.mapFloats_mk _, Serde.mapFloats_mk.fields_mk _, fun _ _ a _ => a.mapFloats_mk⟩
  have hRead := (h.read_iff Prod.mk hNames hForms).mpr ⟨hLiteral, hSame⟩
  rwa [hSame] at hRead

end Message

end

/-! ## The round trip -/

section
variable {limit : Nat}

theorem AttachmentData.depth_toJson (data : AttachmentData) :
    data.toJson.depth ≤ limit + 2 ↔ ∀ v, data = .json v → v.json.depth ≤ limit + 1 := by
  have hStrs := fun texts => (depth_map_of_zero depth_str texts).le.trans (Nat.le_add_left 1 limit)
  have hBytes : ∀ bytes, (bytesJson bytes).depth ≤ limit + 1 := fun bytes =>
    (depth_map_of_zero (fun b : UInt8 => depth_u64Json b.toUInt64) bytes).le.trans (Nat.le_add_left 1 limit)
  cases data with
  | json v =>
    rw [toJson, depth_obj_le]
    simp only [List.forall_mem_cons, forall_mem_skipNone, depth_str, Nat.zero_le, implies_true, and_true,
      json.injEq, forall_eq']
  | links v =>
    rw [toJson, depth_obj_le]
    simp only [List.forall_mem_cons, forall_mem_skipNone, depth_str, Nat.zero_le, implies_true, and_true, hStrs,
      reduceCtorEq, false_implies]
  | _ =>
    rw [toJson, depth_obj_le]
    simp only [List.forall_mem_cons, forall_mem_skipNone, depth_str, Nat.zero_le, implies_true, and_true, hBytes,
      List.not_mem_nil, reduceCtorEq, false_implies]

theorem Attachment.depth_toJson (a : Attachment) :
    a.toJson.depth ≤ limit + 3 ↔ ∀ v, a.data = .json v → v.json.depth ≤ limit + 1 := by
  rw [toJson, depth_obj_le, ← AttachmentData.depth_toJson]
  simp only [List.cons_append, List.forall_mem_cons, List.forall_mem_append, forall_mem_skipNone, depth_str,
    depth_u64Json, Nat.zero_le, implies_true, and_true]

end

namespace Message

/-- The JSON in a message is not nested too deep. -/
structure Shallow (m : Message) : Prop where
  body : m.body.depth ≤ 126
  headers : ∀ p ∈ m.extraHeaders, p.2.depth ≤ 126
  attachments : ∀ attached, m.attachments = some attached → ∀ a ∈ attached, ∀ v, a.data = .json v →
    v.json.depth ≤ 123

/-- What a message has to be to be read back: no floats that are read as others, no objects that are read as
numbers, headers that are not named like fields and do not make another envelope of it, no `Bytes`, and no deep
JSON. -/
structure Survives (reread : Int → Int → Int × Int) (m : Message) : Prop where
  floats : m.mapFloats reread = m
  literal : m.Literal
  names : m.OwnNames
  notJwe : Jwe.ofJson (.obj m.extraHeaders) = none
  notJws : Jws.ofJson (.obj m.extraHeaders) = none
  forms : m.Discriminated
  shallow : m.Shallow

variable {m : Message}

theorem depth_toJson : m.toJson.depth ≤ recursionLimit ↔ m.Shallow := by
  have hAttachments : ∀ attached : List Attachment,
      (Json.arr (attached.map Attachment.toJson)).depth ≤ 126 ↔
        ∀ a ∈ attached, ∀ v, a.data = .json v → v.json.depth ≤ 123 := by
    intro attached
    have hItems := @depth_arr_le 125 (attached.map Attachment.toJson)
    rw [hItems, List.forall_mem_map]
    exact forall₂_congr fun a _ => @Attachment.depth_toJson 122 a
  rw [toJson, recursionLimit, depth_obj_le]
  simp only [List.forall_mem_append, forall_mem_skipNone, List.forall_mem_cons, hAttachments, depth_str,
    depth_map_of_zero depth_str, depth_u64Json, Nat.zero_le, Nat.reduceLeDiff, true_and, and_true, implies_true,
    List.not_mem_nil, false_implies]
  constructor
  · rintro ⟨⟨hBody, hHeaders⟩, h⟩
    exact ⟨hBody, hHeaders, h⟩
  · intro h
    exact ⟨⟨h.body, h.headers⟩, h.attachments⟩

theorem envelope_message_iff {j : Json} : Envelope.ofJson j = some (.message m) ↔
    Jwe.ofJson j = none ∧ Jws.ofJson j = none ∧ ofJson j = some m := by
  rw [Envelope.ofJson]
  cases Jwe.ofJson j with
  | some jwe => simp
  | none =>
    cases Jws.ofJson j with
    | some jws => simp
    | none => simp

end Message

variable {crates : Crates} {dids : DidResolver} {reread : Int → Int → Int × Int}

theorem packPlaintext_eq {m : Message} {s : String} (h : m.packPlaintext crates dids = .ok s) :
    s = crates.jsonToString m.toJson := by
  simp only [Message.packPlaintext, except_bind_ok_iff] at h
  obtain ⟨prior, -, _, -, h⟩ := h
  exact (Except.ok.inj h).symm

theorem Message.jwe_ofJson_mapFloats (m : Message) :
    Jwe.ofJson (m.toJson.mapFloats reread) = Jwe.ofJson (.obj m.extraHeaders) := by
  rw [← Jwe.floatBlind, eraseFloats_mapFloats, Jwe.floatBlind, m.jwe_ofJson_toJson]

theorem Message.jws_ofJson_mapFloats (m : Message) :
    Jws.ofJson (m.toJson.mapFloats reread) = Jws.ofJson (.obj m.extraHeaders) := by
  rw [← Jws.floatBlind, eraseFloats_mapFloats, Jws.floatBlind, m.jws_ofJson_toJson]

section
variable {limit : ℕ∞} (hRead : ReadsWritten crates reread limit)
include hRead

/-- Which message a text is read as that was written from a message. -/
theorem fromStr_written_iff (m m' : Message) :
    Envelope.fromStr crates (crates.jsonToString m.toJson) = .ok (.message m') ↔ m.toJson.depth ≤ limit ∧
      Jwe.ofJson (.obj m.extraHeaders) = none ∧ Jws.ofJson (.obj m.extraHeaders) = none ∧
      Message.ofJson (m.mapFloats reread).toJson = some m' := by
  rw [Envelope.fromStr, okOr_ok_iff, Option.bind_eq_some_iff]
  constructor
  · rintro ⟨j, hWritten, hMessage⟩
    obtain ⟨hDepth, rfl⟩ := hRead.eq_some_iff.mp hWritten
    rw [Message.envelope_message_iff, m.jwe_ofJson_mapFloats, m.jws_ofJson_mapFloats,
      ← Message.toJson_mapFloats] at hMessage
    exact ⟨hDepth, hMessage⟩
  · rintro ⟨hDepth, hMessage⟩
    refine ⟨_, hRead.eq_some_iff.mpr ⟨hDepth, rfl⟩, ?_⟩
    rw [Message.envelope_message_iff, m.jwe_ofJson_mapFloats, m.jws_ofJson_mapFloats,
      ← Message.toJson_mapFloats]
    exact hMessage

end

/-- Crates whose reader stops at deep texts. -/
def Crates.limited (crates : Crates) : Crates :=
  { crates with
    jsonFromStr := fun text => (crates.jsonFromStr text).filter fun j => j.depth ≤ recursionLimit
    jsonFromSlice := fun bytes => (crates.jsonFromSlice bytes).filter fun j => j.depth ≤ recursionLimit }

theorem limited_readsWritten (sha256 : ByteArray → ByteArray) :
    ReadsWritten (ideal sha256).limited Prod.mk recursionLimit := by
  intro j
  change ((ideal sha256).jsonFromStr ((ideal sha256).jsonToString j)).filter _ = _
  rw [ideal_read, Option.filter_some, mapFloats_mk]
  simp only [decide_eq_true_eq, Nat.cast_le]

/-- An example message with one attachment, as its builder makes it. -/
def exampleBuilder (kind : AttachmentKind) : MessageBuilder where
  id := "1"
  type_ := "example/v1"
  body := ⟨.obj [], rfl⟩
  calls := [.header "lang" ⟨.str "en", rfl⟩, .attachment ⟨kind, [.id "a"]⟩]

def noDids : DidResolver where
  resolve _ := .error "unknown"

end AffinidiMessaging.Didcomm
