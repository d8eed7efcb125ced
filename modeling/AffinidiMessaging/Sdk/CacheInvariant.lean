import AffinidiMessaging.Sdk.MessageCache

/-! # The invariant of the cache

The map, the list, the index, the counters and the flag of a cache describe one set of messages. A run keeps
them consistent exactly if it never inserts a message that is still cached, never wraps a counter around, and
takes a message out only when it is the last one cached of its thread.
-/

namespace AffinidiMessaging.Sdk.MessageCache

open Didcomm Machine

variable (messageSize : UInt64)

structure Consistent (c : MessageCache) : Prop extends Linked c where
  indexed : ∀ id r thid, c.messages.lookup id = some r → r.1.thid = some thid → thid ∈ c.thidLookup
  count : c.totalCount.toNat = c.messages.keys.length
  bytes : c.totalBytes.toNat = (c.messages.keys.map fun _ => messageSize.toNat).sum
  noUnderflow : ∀ id ∈ c.messages, 1 ≤ c.totalCount ∧ messageSize ≤ c.totalBytes
  full : c.cacheFull = true ↔ c.OverLimit

/-- No other cached message shares the thread of this one. -/
def Alone (c : MessageCache) (id : String) : Prop :=
  ∀ r r' id' thid, c.messages.lookup id = some r → c.messages.lookup id' = some r' →
    r.1.thid = some thid → r'.1.thid = some thid → id' = id

def Regular (c : MessageCache) (op : CacheOp) : Prop :=
  match op with
  | .insert message _ =>
    message.id ∉ c.messages ∧ c.totalCount.toNat + 1 < 2 ^ 32 ∧
      c.totalBytes.toNat + messageSize.toNat < 2 ^ 64
  | op => ∀ id, c.target op = some id → c.Alone id

variable {messageSize} {c : MessageCache}

theorem sum_sizes (ids : List String) (size : Nat) : (ids.map fun _ => size).sum = ids.length * size := by
  simp

theorem overLimit_iff :
    c.OverLimit ↔ c.fetchCacheLimitCount.toNat < c.totalCount.toNat ∨
      c.fetchCacheLimitBytes.toNat < c.totalBytes.toNat := by
  rw [OverLimit, UInt32.lt_iff_toNat_lt, UInt64.lt_iff_toNat_lt]

theorem Consistent.idle (hc : c.Consistent messageSize) (searchList : Finset String) (nextFlag : Bool) :
    { c with searchList := searchList, nextFlag := nextFlag }.Consistent messageSize where
  keyed := hc.keyed
  distinct := hc.distinct
  listed := hc.listed
  leads := hc.leads
  indexed := hc.indexed
  count := hc.count
  bytes := hc.bytes
  noUnderflow := hc.noUnderflow
  full := hc.full

/-! ## Insertion -/

section
variable {message : Message} (metadata : UnpackMetadata)

variable (messageSize) in
theorem length_keys_insert (h : message.id ∉ c.messages) :
    (c.insert messageSize message metadata).messages.keys.length = c.messages.keys.length + 1 := by
  change (c.messages.insert message.id (message, metadata)).keys.length = _
  rw [AList.keys_insert, List.erase_of_not_mem (fun hKey => h (AList.mem_keys.mpr hKey)), List.length_cons]

variable (messageSize message) in
theorem count_insert (h : c.totalCount.toNat + 1 < 2 ^ 32) :
    (c.insert messageSize message metadata).totalCount.toNat = c.totalCount.toNat + 1 := by
  change (c.totalCount + 1).toNat = _
  rw [UInt32.toNat_add]
  exact Nat.mod_eq_of_lt h

variable (message) in
theorem bytes_insert (h : c.totalBytes.toNat + messageSize.toNat < 2 ^ 64) :
    (c.insert messageSize message metadata).totalBytes.toNat = c.totalBytes.toNat + messageSize.toNat := by
  change (c.totalBytes + messageSize).toNat = _
  rw [UInt64.toNat_add]
  exact Nat.mod_eq_of_lt h

theorem Consistent.insert (hc : c.Consistent messageSize)
    (h : c.Regular messageSize (.insert message metadata)) :
    (c.insert messageSize message metadata).Consistent messageSize := by
  obtain ⟨hFresh, hCount, hBytes⟩ := h
  have hLength := length_keys_insert messageSize metadata hFresh
  have hCount' := count_insert messageSize message metadata hCount
  have hBytes' := bytes_insert message metadata hBytes
  refine ⟨hc.toLinked.insert messageSize metadata hFresh, ?indexed, ?count, ?bytes, ?noUnderflow, ?full⟩
  case indexed =>
    intro id r thid h hThread
    rw [mem_thidLookup_insert]
    change (c.messages.insert message.id (message, metadata)).lookup id = some r at h
    by_cases hId : id = message.id
    · subst hId
      rw [AList.lookup_insert] at h
      cases h
      exact .inl hThread
    · rw [AList.lookup_insert_ne hId] at h
      exact .inr (hc.indexed id r thid h hThread)
  case count => rw [hCount', hLength, hc.count]
  case bytes =>
    have hOld := hc.bytes
    rw [sum_sizes] at hOld
    rw [sum_sizes, hBytes', hLength, hOld, Nat.succ_mul]
  case noUnderflow =>
    intro id _
    rw [UInt32.le_iff_toNat_le, UInt64.le_iff_toNat_le, hCount', hBytes']
    exact ⟨Nat.le_add_left _ _, Nat.le_add_left _ _⟩
  case full =>
    have hGrows : c.OverLimit → (c.insert messageSize message metadata).OverLimit := by
      rw [overLimit_iff, overLimit_iff, hCount', hBytes']
      change _ → c.fetchCacheLimitCount.toNat < _ ∨ c.fetchCacheLimitBytes.toNat < _
      omega
    change (if (c.insert messageSize message metadata).OverLimit then true else c.cacheFull) = true ↔ _
    split
    · rename_i hOver
      exact ⟨fun _ => hOver, fun _ => rfl⟩
    · rename_i hWithin
      rw [hc.full]
      exact ⟨hGrows, fun hOver => absurd hOver hWithin⟩

theorem regular_of_insert (hc : c.Consistent messageSize)
    (h : (c.insert messageSize message metadata).Consistent messageSize) :
    c.Regular messageSize (.insert message metadata) := by
  have hFresh : message.id ∉ c.messages := by
    intro hCached
    have hDistinct : (c.orderedList ++ [message.id]).Nodup := h.distinct
    exact (List.nodup_append.mp hDistinct).2.2 _ ((hc.listed _).mpr hCached) _ (List.mem_singleton_self _) rfl
  have hLength := length_keys_insert messageSize metadata hFresh
  refine ⟨hFresh, ?_, ?_⟩
  · have hNew := h.count
    rw [hLength, ← hc.count] at hNew
    rw [← hNew]
    exact UInt32.toNat_lt _
  · have hNew := h.bytes
    have hOld := hc.bytes
    rw [sum_sizes] at hNew hOld
    rw [hLength, Nat.succ_mul, ← hOld] at hNew
    rw [← hNew]
    exact UInt64.toNat_lt _

end

/-! ## Removal -/

section
variable {id : String} {r : Received}

variable (messageSize) in
theorem length_keys_remove (h : c.messages.lookup id = some r) :
    (c.remove messageSize id).1.messages.keys.length + 1 = c.messages.keys.length := by
  have hCached : id ∈ c.messages.keys := AList.mem_keys.mp (AList.lookup_isSome.mp (by rw [h]; rfl))
  rw [remove_cached h]
  dsimp only
  rw [AList.keys_erase, List.length_erase_of_mem hCached]
  exact Nat.succ_pred_eq_of_pos (List.length_pos_of_mem hCached)

theorem Consistent.counters_remove (hc : c.Consistent messageSize) (h : c.messages.lookup id = some r) :
    (c.totalCount - 1).toNat = c.totalCount.toNat - 1 ∧
      (c.totalBytes - messageSize).toNat = c.totalBytes.toNat - messageSize.toNat := by
  obtain ⟨hCount, hBytes⟩ := hc.noUnderflow id (AList.lookup_isSome.mp (by rw [h]; rfl))
  exact ⟨UInt32.toNat_sub_of_le _ _ hCount, UInt64.toNat_sub_of_le _ _ hBytes⟩

theorem Consistent.remove (hc : c.Consistent messageSize) (h : c.messages.lookup id = some r)
    (hAlone : c.Alone id) : (c.remove messageSize id).1.Consistent messageSize := by
  have hLength := length_keys_remove messageSize h
  obtain ⟨hCount, hBytes⟩ := hc.counters_remove h
  have hOldBytes := hc.bytes
  rw [sum_sizes, ← hLength, Nat.succ_mul] at hOldBytes
  have hOldCount := hc.count
  rw [← hLength] at hOldCount
  have hCounters : (c.remove messageSize id).1.totalCount.toNat =
        (c.remove messageSize id).1.messages.keys.length ∧
      (c.remove messageSize id).1.totalBytes.toNat =
        (c.remove messageSize id).1.messages.keys.length * messageSize.toNat := by
    have hSame : (c.remove messageSize id).1.totalCount = c.totalCount - 1 ∧
        (c.remove messageSize id).1.totalBytes = c.totalBytes - messageSize := by
      rw [remove_cached h]
      exact ⟨rfl, rfl⟩
    rw [hSame.1, hSame.2, hCount, hBytes, hOldCount, hOldBytes]
    exact ⟨Nat.add_sub_cancel _ _, Nat.add_sub_cancel _ _⟩
  refine ⟨hc.toLinked.remove messageSize h, ?indexed, hCounters.1, ?bytes, ?noUnderflow, ?full⟩
  case indexed =>
    intro id' r' thid h' hThread
    rw [remove_cached h] at h'
    dsimp only at h'
    have hOther : id' ≠ id := by
      rintro rfl
      rw [AList.lookup_erase] at h'
      cases h'
    rw [AList.lookup_erase_ne hOther] at h'
    refine (mem_thidLookup_remove h).mpr ⟨?_, hc.indexed id' r' thid h' hThread⟩
    intro hOwn
    exact hOther (hAlone r r' id' thid h h' hOwn hThread)
  case bytes => rw [sum_sizes, hCounters.2]
  case noUnderflow =>
    intro id' hCached
    have hSome : 0 < (c.remove messageSize id).1.messages.keys.length :=
      List.length_pos_of_mem (AList.mem_keys.mp hCached)
    rw [UInt32.le_iff_toNat_le, UInt64.le_iff_toNat_le, hCounters.1, hCounters.2]
    exact ⟨hSome, Nat.le_mul_of_pos_left _ hSome⟩
  case full =>
    have hShrinks : (c.remove messageSize id).1.OverLimit → c.OverLimit := by
      rw [overLimit_iff, overLimit_iff, hCounters.1, hCounters.2, hOldCount, hOldBytes, remove_cached h]
      dsimp only
      omega
    have hFlag : (c.remove messageSize id).1.cacheFull =
        if c.cacheFull = true ∧ ¬(c.remove messageSize id).1.OverLimit then false else c.cacheFull := by
      rw [remove_cached h]
      rfl
    rw [hFlag]
    by_cases hOver : (c.remove messageSize id).1.OverLimit
    · simp [hOver, hc.full.mpr (hShrinks hOver)]
    · simp [hOver]

theorem alone_of_remove (h : c.messages.lookup id = some r)
    (hAfter : (c.remove messageSize id).1.Consistent messageSize) : c.Alone id := by
  intro r₀ r' id' thid h₀ h' hThread hThread'
  rw [h] at h₀
  cases h₀
  by_contra hOther
  have hCached : (c.remove messageSize id).1.messages.lookup id' = some r' := by
    rw [remove_cached h]
    dsimp only
    rw [AList.lookup_erase_ne hOther, h']
  have hIndexed := hAfter.indexed id' r' thid hCached hThread'
  exact ((mem_thidLookup_remove h).mp hIndexed).1 hThread

end

/-! ## Runs -/

variable {op : CacheOp}

theorem consistent_after_iff (hc : c.Consistent messageSize) :
    (c.after messageSize op).Consistent messageSize ↔ c.Regular messageSize op := by
  by_cases hInsert : ∃ message metadata, op = .insert message metadata
  · obtain ⟨message, metadata, rfl⟩ := hInsert
    exact ⟨regular_of_insert metadata hc, hc.insert metadata⟩
  · have hRegular : c.Regular messageSize op ↔ ∀ id, c.target op = some id → c.Alone id := by
      cases op with
      | insert message metadata => exact absurd ⟨message, metadata, rfl⟩ hInsert
      | _ => exact Iff.rfl
    rw [hRegular]
    cases hTarget : c.target op with
    | none =>
      obtain ⟨searchList, nextFlag, hIdle⟩ := hc.perform_idle messageSize
        (fun message metadata h => hInsert ⟨message, metadata, h⟩) hTarget
      rw [after, hIdle]
      simpa using hc.idle searchList nextFlag
    | some id =>
      obtain ⟨⟨r, hr⟩, hRemove⟩ := hc.perform_target messageSize hTarget
      rw [after, hRemove]
      constructor
      · rintro hAfter id' hSame
        cases hSame
        exact alone_of_remove hr hAfter
      · intro hAlone
        exact hc.remove hr (hAlone id rfl)

theorem consistent_withLimits (count : UInt32) (bytes : UInt64) :
    (withLimits count bytes).Consistent messageSize where
  toLinked := linked_withLimits count bytes
  indexed := by
    intro id r thid h
    cases h
  count := rfl
  bytes := rfl
  noUnderflow := by
    intro id h
    exact absurd h (AList.notMem_empty id)
  full := by
    rw [overLimit_iff]
    change false = true ↔ count.toNat < 0 ∨ bytes.toNat < 0
    simp

variable (messageSize) in
/-- Every state a run reaches is consistent if and only if every step of the run is regular. -/
theorem run_consistent_iff (count : UInt32) (bytes : UInt64) (ops : List CacheOp) :
    Throughout (after messageSize) (Consistent messageSize) (withLimits count bytes) ops ↔
      Along (after messageSize) (Regular messageSize) (withLimits count bytes) ops := by
  rw [throughout_iff, and_iff_right (consistent_withLimits count bytes)]
  apply along_congr (consistent_withLimits count bytes)
  · intro c op hc
    exact consistent_after_iff hc
  · intro c op _ hAfter
    exact hAfter

/-- Two messages of a thread, one of them taken out, and a message inserted twice. -/
theorem shared_thread_inconsistent :
    (¬ Throughout (after 400) (Consistent 400) (withLimits 100 10485760)
      [.insert (ofThread "1" "t") {}, .insert (ofThread "2" "t") {}, .next]) ∧
    ¬ Throughout (after 400) (Consistent 400) (withLimits 100 10485760)
      [.insert (ofThread "1" "t") {}, .insert (ofThread "1" "t") {}] := by
  constructor
  · intro h
    have hIndexed := (h _ [] (List.append_nil _).symm).indexed "2" _ "t" rfl rfl
    exact absurd hIndexed (by decide)
  · intro h
    exact absurd (h _ [] (List.append_nil _).symm).distinct (by decide)

end AffinidiMessaging.Sdk.MessageCache
