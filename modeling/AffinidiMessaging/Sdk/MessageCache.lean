import AffinidiMessaging.Library.Machine
import AffinidiMessaging.Didcomm.Envelope

/-! # The cache of received messages

`MessageCache` keeps messages in a map, in a list by arrival and in an index by thread. Inserting a message
that is already cached and removing one of several of a thread are the steps that put the three at odds.
-/

namespace AffinidiMessaging.Sdk

open Didcomm Machine

abbrev Received := Message × UnpackMetadata

structure MessageCache where
  messages : AList fun _ : String => Received := ∅
  thidLookup : AList fun _ : String => String := ∅
  searchList : Finset String := ∅
  orderedList : List String := []
  totalCount : UInt32 := 0
  totalBytes : UInt64 := 0
  cacheFull : Bool := false
  fetchCacheLimitCount : UInt32
  fetchCacheLimitBytes : UInt64
  nextFlag : Bool := false

inductive CacheOp
  | insert (message : Message) (metadata : UnpackMetadata)
  | next
  | get (msgId : String)
  | remove (msgId : String)

/-- A message of a thread, as the builder starts it. -/
def ofThread (id thid : String) : Message :=
  { Message.build id "https://didcomm.org/basicmessage/2.0/message" .null with thid := some thid }

namespace MessageCache

def withLimits (count : UInt32) (bytes : UInt64) : MessageCache where
  fetchCacheLimitCount := count
  fetchCacheLimitBytes := bytes

/-- Is one of the two limits exceeded? -/
def OverLimit (c : MessageCache) : Prop :=
  c.fetchCacheLimitCount < c.totalCount ∨ c.fetchCacheLimitBytes < c.totalBytes

instance (c : MessageCache) : Decidable c.OverLimit :=
  inferInstanceAs (Decidable (_ ∨ _))

-- What `size_of_val` says of every message: the size of the struct.
variable (messageSize : UInt64)

/-- The counters wrap around, as in a release build. -/
def insert (c : MessageCache) (message : Message) (metadata : UnpackMetadata) : MessageCache :=
  let c := { c with
    messages := c.messages.insert message.id (message, metadata)
    orderedList := c.orderedList ++ [message.id]
    totalCount := c.totalCount + 1
    totalBytes := c.totalBytes + messageSize }
  { c with
    cacheFull := if c.OverLimit then true else c.cacheFull
    thidLookup := match message.thid with
      | some thid => c.thidLookup.insert thid message.id
      | none => c.thidLookup }

def remove (c : MessageCache) (msgId : String) : MessageCache × Option Received :=
  let c := { c with
    orderedList := c.orderedList.erase msgId
    searchList := c.searchList.erase msgId }
  match c.messages.lookup msgId with
  | some (message, metadata) =>
    let c := { c with
      messages := c.messages.erase msgId
      thidLookup := match message.thid with
        | some thid => c.thidLookup.erase thid
        | none => c.thidLookup
      totalCount := c.totalCount - 1
      totalBytes := c.totalBytes - messageSize }
    ({ c with cacheFull := if c.cacheFull = true ∧ ¬c.OverLimit then false else c.cacheFull },
      some (message, metadata))
  | none => (c, none)

def next (c : MessageCache) : MessageCache × Option Received :=
  match c.orderedList with
  | [] => ({ c with nextFlag := true }, none)
  | id :: rest => { c with orderedList := rest }.remove messageSize id

def get (c : MessageCache) (msgId : String) : MessageCache × Option Received :=
  match c.messages.lookup msgId with
  | some r => ((c.remove messageSize r.1.id).1, some r)
  | none =>
    match c.thidLookup.lookup msgId with
    | some id =>
      match c.messages.lookup id with
      | some r => ((c.remove messageSize r.1.id).1, some r)
      | none => (c, none)
    | none => ({ c with searchList := Insert.insert msgId c.searchList }, none)

def perform (c : MessageCache) : CacheOp → MessageCache × Option Received
  | .insert message metadata => (c.insert messageSize message metadata, none)
  | .next => c.next messageSize
  | .get msgId => c.get messageSize msgId
  | .remove msgId => c.remove messageSize msgId

def after (c : MessageCache) (op : CacheOp) : MessageCache := (c.perform messageSize op).1

/-- The message an operation takes out of the cache, by its id. -/
def target (c : MessageCache) : CacheOp → Option String
  | .insert _ _ => none
  | .next => c.orderedList.head?
  | .get msgId => if msgId ∈ c.messages then some msgId else c.thidLookup.lookup msgId
  | .remove msgId => if msgId ∈ c.messages then some msgId else none

/-- Every message is cached under its id. -/
def Keyed (c : MessageCache) : Prop :=
  ∀ id r, c.messages.lookup id = some r → r.1.id = id

/-- The index leads to cached messages of the thread, the list holds the ids of cached messages. -/
structure Linked (c : MessageCache) : Prop where
  keyed : c.Keyed
  distinct : c.orderedList.Nodup
  listed : ∀ id, id ∈ c.orderedList ↔ id ∈ c.messages
  leads : ∀ thid id, c.thidLookup.lookup thid = some id →
    ∃ r, c.messages.lookup id = some r ∧ r.1.thid = some thid

/-! ## The operations by what they take out -/

section
variable {messageSize} {c : MessageCache} {id : String} {r : Received}

theorem remove_cached (h : c.messages.lookup id = some r) :
    c.remove messageSize id =
      ({ c with
        orderedList := c.orderedList.erase id
        searchList := c.searchList.erase id
        messages := c.messages.erase id
        thidLookup := match r.1.thid with
          | some thid => c.thidLookup.erase thid
          | none => c.thidLookup
        totalCount := c.totalCount - 1
        totalBytes := c.totalBytes - messageSize
        cacheFull := if c.cacheFull = true ∧ ¬(c.fetchCacheLimitCount < c.totalCount - 1 ∨
            c.fetchCacheLimitBytes < c.totalBytes - messageSize) then false else c.cacheFull }, some r) := by
  obtain ⟨message, metadata⟩ := r
  unfold remove
  simp only [h]
  rfl

theorem remove_absent (h : c.messages.lookup id = none) :
    c.remove messageSize id =
      ({ c with orderedList := c.orderedList.erase id, searchList := c.searchList.erase id }, none) := by
  unfold remove
  simp only [h]

theorem mem_thidLookup_insert {message : Message} {metadata : UnpackMetadata} {thid : String} :
    thid ∈ (c.insert messageSize message metadata).thidLookup ↔
      message.thid = some thid ∨ thid ∈ c.thidLookup := by
  unfold insert
  cases message.thid with
  | none => simp
  | some own => simp [eq_comm]

theorem mem_thidLookup_remove (h : c.messages.lookup id = some r) {thid : String} :
    thid ∈ (c.remove messageSize id).1.thidLookup ↔ r.1.thid ≠ some thid ∧ thid ∈ c.thidLookup := by
  rw [remove_cached h]
  cases r.1.thid with
  | none => simp
  | some own => simp [eq_comm]

theorem Linked.cached_of_listed (hc : c.Linked) (h : id ∈ c.orderedList) :
    ∃ r, c.messages.lookup id = some r :=
  Option.isSome_iff_exists.mp (AList.lookup_isSome.mpr ((hc.listed id).mp h))

theorem Linked.next_eq_remove (hc : c.Linked) {rest : List String} (h : c.orderedList = id :: rest) :
    c.next messageSize = c.remove messageSize id := by
  obtain ⟨r, hr⟩ := hc.cached_of_listed (by rw [h]; exact List.mem_cons_self)
  have hNotLater : id ∉ rest := (List.nodup_cons.mp (h ▸ hc.distinct)).1
  have hRest : { c with orderedList := rest }.messages.lookup id = some r := hr
  unfold next
  rw [h]
  dsimp only
  rw [remove_cached hRest, remove_cached hr, h, List.erase_cons_head]
  simp [List.erase_of_not_mem hNotLater]

theorem get_cached (hc : c.Keyed) (h : c.messages.lookup id = some r) :
    c.get messageSize id = c.remove messageSize id := by
  unfold get
  simp only [h]
  rw [hc id r h, remove_cached h]

theorem get_thread (hc : c.Keyed) {thid : String} (hId : c.messages.lookup thid = none)
    (hThread : c.thidLookup.lookup thid = some id) (h : c.messages.lookup id = some r) :
    c.get messageSize thid = c.remove messageSize id := by
  unfold get
  simp only [hId, hThread, h]
  rw [hc id r h, remove_cached h]

theorem target_get_none_iff {msgId : String} :
    c.target (.get msgId) = none ↔ msgId ∉ c.messages ∧ msgId ∉ c.thidLookup := by
  rw [target]
  split
  · rename_i hCached
    simp [hCached]
  · rename_i hAbsent
    rw [AList.lookup_eq_none]
    exact (and_iff_right hAbsent).symm

theorem Linked.found (hc : c.Linked) {msgId : String} (hTarget : c.target (.get msgId) = some id)
    (h : c.messages.lookup id = some r) : r.1.id = msgId ∨ r.1.thid = some msgId := by
  rw [target] at hTarget
  split at hTarget
  · cases hTarget
    exact .inl (hc.keyed id r h)
  · obtain ⟨r', hr', hThread⟩ := hc.leads msgId id hTarget
    rw [h] at hr'
    cases hr'
    exact .inr hThread

variable (messageSize) {op : CacheOp}

theorem Linked.perform_target (hc : c.Linked) (h : c.target op = some id) :
    (∃ r, c.messages.lookup id = some r) ∧ c.perform messageSize op = c.remove messageSize id := by
  cases op with
  | insert message metadata => cases h
  | next =>
    obtain ⟨rest, hList⟩ := List.head?_eq_some_iff.mp h
    exact ⟨hc.cached_of_listed (by rw [hList]; exact List.mem_cons_self), hc.next_eq_remove hList⟩
  | get msgId =>
    simp only [target] at h
    split at h
    · rename_i hCached
      cases h
      obtain ⟨r, hr⟩ := Option.isSome_iff_exists.mp (AList.lookup_isSome.mpr hCached)
      exact ⟨⟨r, hr⟩, get_cached hc.keyed hr⟩
    · rename_i hAbsent
      obtain ⟨r, hr, _⟩ := hc.leads msgId id h
      exact ⟨⟨r, hr⟩, get_thread hc.keyed (AList.lookup_eq_none.mpr hAbsent) h hr⟩
  | remove msgId =>
    simp only [target] at h
    split at h
    · rename_i hCached
      cases h
      exact ⟨Option.isSome_iff_exists.mp (AList.lookup_isSome.mpr hCached), rfl⟩
    · cases h

theorem Linked.perform_idle (hc : c.Linked) (hInsert : ∀ message metadata, op ≠ .insert message metadata)
    (h : c.target op = none) :
    ∃ searchList nextFlag,
      c.perform messageSize op = ({ c with searchList := searchList, nextFlag := nextFlag }, none) := by
  cases op with
  | insert message metadata => exact absurd rfl (hInsert message metadata)
  | next =>
    have hList : c.orderedList = [] := List.head?_eq_none_iff.mp h
    refine ⟨c.searchList, true, ?_⟩
    simp [perform, next, hList]
  | get msgId =>
    simp only [target] at h
    split at h
    · cases h
    · rename_i hAbsent
      refine ⟨Insert.insert msgId c.searchList, c.nextFlag, ?_⟩
      simp [perform, get, AList.lookup_eq_none.mpr hAbsent, h]
  | remove msgId =>
    have hAbsent : msgId ∉ c.messages := by
      intro hCached
      simp [target, hCached] at h
    refine ⟨c.searchList.erase msgId, c.nextFlag, ?_⟩
    have hList : msgId ∉ c.orderedList := fun hMem => hAbsent ((hc.listed msgId).mp hMem)
    simp [perform, remove_absent (AList.lookup_eq_none.mpr hAbsent), List.erase_of_not_mem hList]

end

/-! ## The links between the fields -/

section
variable {c : MessageCache}

theorem linked_withLimits (count : UInt32) (bytes : UInt64) : (withLimits count bytes).Linked where
  keyed := by
    intro id r h
    cases h
  distinct := List.nodup_nil
  listed := by
    intro id
    exact iff_of_false List.not_mem_nil (AList.notMem_empty id)
  leads := by
    intro thid id h
    cases h

theorem Linked.insert (hc : c.Linked) {message : Message} (metadata : UnpackMetadata)
    (hFresh : message.id ∉ c.messages) : (c.insert messageSize message metadata).Linked where
  keyed := by
    intro id r h
    change (c.messages.insert message.id (message, metadata)).lookup id = some r at h
    by_cases hId : id = message.id
    · subst hId
      rw [AList.lookup_insert] at h
      cases h
      rfl
    · rw [AList.lookup_insert_ne hId] at h
      exact hc.keyed id r h
  distinct := by
    change (c.orderedList ++ [message.id]).Nodup
    have hNew : message.id ∉ c.orderedList := fun h => hFresh ((hc.listed _).mp h)
    exact List.nodup_append.mpr ⟨hc.distinct, List.nodup_singleton _, by
      rintro a ha b hb rfl
      exact hNew (List.mem_singleton.mp hb ▸ ha)⟩
  listed := by
    intro id
    change id ∈ c.orderedList ++ [message.id] ↔ id ∈ c.messages.insert message.id (message, metadata)
    rw [AList.mem_insert, List.mem_append, List.mem_singleton, hc.listed id, or_comm]
  leads := by
    have hKeeps : ∀ thid id, c.thidLookup.lookup thid = some id →
        ∃ r, (c.messages.insert message.id (message, metadata)).lookup id = some r ∧
          r.1.thid = some thid := by
      intro thid id h
      obtain ⟨r, hr, hThread⟩ := hc.leads thid id h
      have hOther : id ≠ message.id := by
        rintro rfl
        exact hFresh (AList.lookup_isSome.mp (by rw [hr]; rfl))
      exact ⟨r, by rw [AList.lookup_insert_ne hOther, hr], hThread⟩
    intro thid id h
    change (match message.thid with
      | some thid => c.thidLookup.insert thid message.id
      | none => c.thidLookup).lookup thid = some id at h
    cases hThread : message.thid with
    | none =>
      rw [hThread] at h
      exact hKeeps thid id h
    | some own =>
      rw [hThread] at h
      by_cases hOwn : thid = own
      · subst hOwn
        rw [AList.lookup_insert] at h
        cases h
        exact ⟨(message, metadata), AList.lookup_insert _, hThread⟩
      · rw [AList.lookup_insert_ne hOwn] at h
        exact hKeeps thid id h

theorem Linked.remove (hc : c.Linked) {id : String} {r : Received} (h : c.messages.lookup id = some r) :
    (c.remove messageSize id).1.Linked := by
  rw [remove_cached h]
  constructor
  case keyed =>
    intro id' r' h'
    dsimp only at h'
    by_cases hId : id' = id
    · subst hId
      rw [AList.lookup_erase] at h'
      cases h'
    · rw [AList.lookup_erase_ne hId] at h'
      exact hc.keyed id' r' h'
  case distinct => exact hc.distinct.erase id
  case listed =>
    intro id'
    dsimp only
    rw [AList.mem_erase, hc.distinct.mem_erase_iff, hc.listed id']
  case leads =>
    intro thid id' h'
    dsimp only at h' ⊢
    have hOld : c.thidLookup.lookup thid = some id' ∧ r.1.thid ≠ some thid := by
      cases hThread : r.1.thid with
      | none =>
        rw [hThread] at h'
        exact ⟨h', by simp⟩
      | some own =>
        rw [hThread] at h'
        by_cases hOwn : thid = own
        · subst hOwn
          rw [AList.lookup_erase] at h'
          cases h'
        · rw [AList.lookup_erase_ne hOwn] at h'
          exact ⟨h', fun hSame => hOwn (Option.some.inj hSame).symm⟩
    obtain ⟨r', hr', hThread'⟩ := hc.leads thid id' hOld.1
    have hOther : id' ≠ id := by
      rintro rfl
      rw [h] at hr'
      cases hr'
      exact hOld.2 hThread'
    exact ⟨r', by rw [AList.lookup_erase_ne hOther, hr'], hThread'⟩

end

end MessageCache

end AffinidiMessaging.Sdk
