import AffinidiMessaging.Library.KeyedQueue
import AffinidiMessaging.Sdk.MessageCache

/-! # The cache as a queue

Between the messages inserted and those answered, the cache holds the rest, oldest first. Its index loses a
thread with the first message of it that is answered: until another one arrives, the messages that are left
of this thread are not found by it.
-/

namespace AffinidiMessaging.Sdk

open Didcomm Machine KeyedQueue

inductive QueueOp
  | insert (message : Message) (metadata : UnpackMetadata)
  | next
  | get (msgId : String)

def QueueOp.toCacheOp : QueueOp → CacheOp
  | .insert message metadata => .insert message metadata
  | .next => .next
  | .get msgId => .get msgId

def Received.id (r : Received) : String := r.1.id

def Received.thid (r : Received) : Option String := r.1.thid

/-- A cache beside the ledger of what has gone in and out. -/
structure CacheRun where
  cache : MessageCache
  ledger : Ledger Received String := {}

namespace CacheRun

variable (messageSize : UInt64)

def answer (s : CacheRun) (op : QueueOp) : Option Received :=
  (s.cache.perform messageSize op.toCacheOp).2

def note (l : Ledger Received String) (op : QueueOp) (answer : Option Received) : Ledger Received String :=
  match op with
  | .insert message metadata => l.insert Received.thid (message, metadata)
  | _ =>
    match answer with
    | some r => l.give Received.thid r
    | none => l

def step (s : CacheRun) (op : QueueOp) : CacheRun where
  cache := s.cache.after messageSize op.toCacheOp
  ledger := note s.ledger op (s.answer messageSize op)

/-- The messages not yet returned, oldest first. -/
def waiting (s : CacheRun) : List Received := s.ledger.waiting Received.id

/-- What a queue with lookup by id and by thread answers. -/
def AnswersAsQueue (s : CacheRun) (op : QueueOp) : Prop :=
  match op with
  | .insert _ _ => True
  | .next => s.answer messageSize op = s.waiting.head?
  | .get msgId =>
    ((s.answer messageSize op).isSome ↔ ∃ r ∈ s.waiting, r.id = msgId ∨ r.thid = some msgId) ∧
      ∀ r, s.answer messageSize op = some r → r ∈ s.waiting ∧ (r.id = msgId ∨ r.thid = some msgId)

/-- What is cached is what waits, and with what was returned it is what was inserted. -/
structure KeepsAll (s : CacheRun) : Prop where
  conserved : s.ledger.Conserved Received.id
  cached : s.cache.orderedList.filterMap s.cache.messages.lookup = s.waiting

def Faithful (s : CacheRun) (op : QueueOp) : Prop :=
  s.AnswersAsQueue messageSize op ∧ (s.step messageSize op).KeepsAll

/-- The thread asked for has lost its place in the index, and messages of it are left. -/
def AsksSevered (s : CacheRun) (op : QueueOp) : Prop :=
  match op with
  | .get msgId =>
    msgId ∈ s.ledger.severed ∧ (∀ r ∈ s.waiting, r.id ≠ msgId) ∧ ∃ r ∈ s.waiting, r.thid = some msgId
  | _ => False

structure Queued (s : CacheRun) : Prop extends s.cache.Linked where
  conserved : s.ledger.Conserved Received.id
  order : s.cache.orderedList = s.waiting.map Received.id
  holds : ∀ r ∈ s.waiting, s.cache.messages.lookup r.id = some r
  indexed : ∀ r ∈ s.waiting, ∀ thid, r.thid = some thid → thid ∉ s.ledger.severed → thid ∈ s.cache.thidLookup
  severed : ∀ thid ∈ s.ledger.severed, thid ∉ s.cache.thidLookup

variable {messageSize} {s : CacheRun} {op : QueueOp} {id : String} {r : Received}

theorem Queued.mem_waiting (h : s.Queued) (hr : s.cache.messages.lookup id = some r) : r ∈ s.waiting := by
  have hListed := (h.listed id).mpr (AList.lookup_isSome.mp (by rw [hr]; rfl))
  rw [h.order] at hListed
  obtain ⟨r', hr', rfl⟩ := List.mem_map.mp hListed
  rw [h.holds r' hr'] at hr
  cases hr
  exact hr'

theorem Queued.keepsAll (h : s.Queued) : s.KeepsAll where
  conserved := h.conserved
  cached := by
    rw [h.order, List.filterMap_map]
    calc s.waiting.filterMap (s.cache.messages.lookup ∘ Received.id)
        = s.waiting.filterMap some := List.filterMap_congr h.holds
      _ = s.waiting := List.filterMap_some

theorem Queued.start (count : UInt32) (bytes : UInt64) :
    ({ cache := .withLimits count bytes } : CacheRun).Queued where
  toLinked := MessageCache.linked_withLimits count bytes
  conserved := .start
  order := rfl
  holds := by
    intro r h
    cases h
  indexed := by
    intro r h
    cases h
  severed := by
    intro thid h
    cases h

variable (messageSize)

theorem Queued.insert (h : s.Queued) {message : Message} (metadata : UnpackMetadata)
    (hFresh : message.id ∉ s.ledger.inserted.map Received.id) :
    (s.step messageSize (.insert message metadata)).Queued := by
  have hNotWaiting : ∀ r ∈ s.waiting, r.id ≠ message.id := by
    rintro r hr hSame
    exact hFresh (hSame ▸ List.mem_map_of_mem (Ledger.mem_waiting_iff.mp hr).1)
  have hNotCached : message.id ∉ s.cache.messages := by
    intro hCached
    obtain ⟨r, hr⟩ := Option.isSome_iff_exists.mp (AList.lookup_isSome.mpr hCached)
    exact hNotWaiting r (h.mem_waiting hr) (h.keyed _ _ hr)
  have hWaiting : (s.step messageSize (.insert message metadata)).waiting = s.waiting ++ [(message, metadata)] :=
    Ledger.waiting_insert h.conserved hFresh
  refine ⟨h.toLinked.insert messageSize metadata hNotCached, h.conserved.insert hFresh, ?order, ?holds, ?indexed,
    ?severed⟩
  case order =>
    rw [hWaiting, List.map_append, ← h.order]
    rfl
  case holds =>
    intro r hr
    rw [hWaiting] at hr
    change (s.cache.messages.insert message.id (message, metadata)).lookup r.id = some r
    rcases List.mem_append.mp hr with hOld | hNew
    · rw [AList.lookup_insert_ne (hNotWaiting r hOld)]
      exact h.holds r hOld
    · cases List.mem_singleton.mp hNew
      exact AList.lookup_insert _
  case indexed =>
    intro r hr thid hThread hOpen
    rw [hWaiting] at hr
    refine MessageCache.mem_thidLookup_insert.mpr (or_iff_not_imp_left.mpr fun hOther => ?_)
    rcases List.mem_append.mp hr with hOld | hNew
    · refine h.indexed r hOld thid hThread fun hSevered => hOpen ?_
      exact Ledger.mem_severed_insert_iff.mpr ⟨hOther, hSevered⟩
    · cases List.mem_singleton.mp hNew
      exact absurd hThread hOther
  case severed =>
    intro thid hSevered hIndexed
    obtain ⟨hOther, hOld⟩ := Ledger.mem_severed_insert_iff.mp hSevered
    exact (MessageCache.mem_thidLookup_insert.mp hIndexed).elim hOther (h.severed thid hOld)

theorem Queued.remove (h : s.Queued) (hr : r ∈ s.waiting) :
    ({ cache := (s.cache.remove messageSize r.id).1, ledger := s.ledger.give Received.thid r } : CacheRun).Queued := by
  have hCached := h.holds r hr
  have hWaiting : (s.ledger.give Received.thid r).waiting Received.id = s.waiting.filter fun r' => r'.id ≠ r.id :=
    Ledger.waiting_give
  have hRest : ∀ r' ∈ (s.ledger.give Received.thid r).waiting Received.id, r' ∈ s.waiting ∧ r'.id ≠ r.id := by
    intro r' hr'
    rw [hWaiting, List.mem_filter, decide_eq_true_iff] at hr'
    exact hr'
  refine ⟨h.toLinked.remove messageSize hCached, h.conserved.give hr, ?order, ?holds, ?indexed, ?severed⟩
  case order =>
    rw [MessageCache.remove_cached hCached]
    change s.cache.orderedList.erase r.id = ((s.ledger.give Received.thid r).waiting Received.id).map Received.id
    rw [h.distinct.erase_eq_filter, h.order, List.filter_map, hWaiting]
    congr 2
    funext r'
    simp [bne, beq_eq_decide]
  case holds =>
    intro r' hr'
    rw [MessageCache.remove_cached hCached]
    change (s.cache.messages.erase r.id).lookup r'.id = some r'
    rw [AList.lookup_erase_ne (hRest r' hr').2]
    exact h.holds r' (hRest r' hr').1
  case indexed =>
    intro r' hr' thid hThread hOpen
    obtain ⟨hOther, hOpen⟩ := not_or.mp fun hMem => hOpen (Ledger.mem_severed_give_iff.mpr hMem)
    exact (MessageCache.mem_thidLookup_remove hCached).mpr ⟨hOther, h.indexed r' (hRest r' hr').1 thid hThread hOpen⟩
  case severed =>
    intro thid hSevered hIndexed
    obtain ⟨hOther, hIndexed⟩ := (MessageCache.mem_thidLookup_remove hCached).mp hIndexed
    exact (Ledger.mem_severed_give_iff.mp hSevered).elim hOther fun hOld => h.severed thid hOld hIndexed

/-! ## One operation -/

theorem Queued.give (h : s.Queued) (hr : r ∈ s.waiting) (hOp : s.cache.target op.toCacheOp = some r.id) :
    s.answer messageSize op = some r ∧ (s.step messageSize op).Queued := by
  obtain ⟨_, hPerform⟩ := h.perform_target messageSize hOp
  have hAnswer : s.answer messageSize op = some r := by
    rw [answer, hPerform, MessageCache.remove_cached (h.holds r hr)]
  have hNote : note s.ledger op (some r) = s.ledger.give Received.thid r := by
    cases op with
    | insert message metadata => cases hOp
    | next => rfl
    | get msgId => rfl
  refine ⟨hAnswer, ?_⟩
  rw [step, hAnswer, hNote, MessageCache.after, hPerform]
  exact h.remove messageSize hr

theorem Queued.idle (h : s.Queued) (hInsert : ∀ message metadata, op ≠ .insert message metadata)
    (hOp : s.cache.target op.toCacheOp = none) :
    s.answer messageSize op = none ∧ (s.step messageSize op).Queued := by
  have hNoInsert : ∀ message metadata, op.toCacheOp ≠ .insert message metadata := by
    cases op with
    | insert message metadata => exact absurd rfl (hInsert message metadata)
    | next => simp [QueueOp.toCacheOp]
    | get msgId => simp [QueueOp.toCacheOp]
  obtain ⟨searchList, nextFlag, hPerform⟩ := h.perform_idle messageSize hNoInsert hOp
  have hAnswer : s.answer messageSize op = none := by
    rw [answer, hPerform]
  have hNote : note s.ledger op none = s.ledger := by
    cases op with
    | insert message metadata => exact absurd rfl (hInsert message metadata)
    | next => rfl
    | get msgId => rfl
  refine ⟨hAnswer, ?_⟩
  rw [step, hAnswer, hNote, MessageCache.after, hPerform]
  exact {
    keyed := h.keyed
    distinct := h.distinct
    listed := h.listed
    leads := h.leads
    conserved := h.conserved
    order := h.order
    holds := h.holds
    indexed := h.indexed
    severed := h.severed }

theorem Queued.next (h : s.Queued) :
    s.answer messageSize .next = s.waiting.head? ∧ (s.step messageSize .next).Queued := by
  have hTarget : s.cache.target QueueOp.next.toCacheOp = s.waiting.head?.map Received.id := by
    change s.cache.orderedList.head? = _
    rw [h.order, List.head?_map]
  cases hHead : s.waiting.head? with
  | none =>
    rw [hHead] at hTarget
    exact h.idle messageSize (by simp) hTarget
  | some r =>
    rw [hHead] at hTarget
    exact h.give messageSize (List.mem_of_mem_head? hHead) hTarget

/-- A message is found by its id; by its thread it is found where the index has kept the thread. -/
theorem Queued.get (h : s.Queued) (msgId : String) :
    (s.AnswersAsQueue messageSize (.get msgId) ↔ ¬s.AsksSevered (.get msgId)) ∧
      (s.step messageSize (.get msgId)).Queued := by
  cases hTarget : s.cache.target (QueueOp.get msgId).toCacheOp with
  | none =>
    obtain ⟨hAnswer, hNext⟩ := h.idle messageSize (by simp) hTarget
    refine ⟨?_, hNext⟩
    obtain ⟨hAbsent, hNoThread⟩ := MessageCache.target_get_none_iff.mp hTarget
    have hNoId : ∀ r ∈ s.waiting, r.id ≠ msgId := by
      rintro r hr rfl
      exact hAbsent (AList.lookup_isSome.mp (by rw [h.holds r hr]; rfl))
    have hSevered : ∀ r ∈ s.waiting, r.thid = some msgId → msgId ∈ s.ledger.severed := by
      intro r hr hThread
      by_contra hOpen
      exact hNoThread (h.indexed r hr msgId hThread hOpen)
    rw [AnswersAsQueue, hAnswer, AsksSevered]
    constructor
    · rintro ⟨hNone, _⟩ ⟨_, _, r, hr, hThread⟩
      exact Bool.false_ne_true (hNone.mpr ⟨r, hr, .inr hThread⟩)
    · intro hNotSevered
      refine ⟨iff_of_false Bool.false_ne_true ?_, by simp⟩
      rintro ⟨r, hr, hId | hThread⟩
      · exact hNoId r hr hId
      · exact hNotSevered ⟨hSevered r hr hThread, hNoId, r, hr, hThread⟩
  | some id =>
    obtain ⟨⟨r, hr⟩, _⟩ := h.perform_target messageSize hTarget
    have hWaits := h.mem_waiting hr
    have hId : r.id = id := h.keyed id r hr
    obtain ⟨hAnswer, hNext⟩ := h.give messageSize hWaits (hTarget.trans (by rw [hId]))
    have hFound : r.id = msgId ∨ r.thid = some msgId := h.found hTarget hr
    refine ⟨iff_of_true ⟨?_, ?_⟩ ?_, hNext⟩
    · rw [hAnswer]
      exact iff_of_true rfl ⟨r, hWaits, hFound⟩
    · intro r' hr'
      rw [hAnswer] at hr'
      cases hr'
      exact ⟨hWaits, hFound⟩
    · rintro ⟨hSevered, hNoId, _⟩
      have hNoThread := h.severed msgId hSevered
      have hAbsent : msgId ∉ s.cache.messages := by
        intro hCached
        obtain ⟨r', hr'⟩ := Option.isSome_iff_exists.mp (AList.lookup_isSome.mpr hCached)
        exact hNoId r' (h.mem_waiting hr') (h.keyed msgId r' hr')
      have hNone := MessageCache.target_get_none_iff.mpr ⟨hAbsent, hNoThread⟩
      exact absurd (hTarget.symm.trans hNone) (by simp)

/-- A message inserted is not one of those inserted before. -/
def Fresh (s : CacheRun) (op : QueueOp) : Prop :=
  ∀ message metadata, op = .insert message metadata → message.id ∉ s.ledger.inserted.map Received.id

theorem Queued.step (h : s.Queued) (hFresh : s.Fresh op) :
    (s.Faithful messageSize op ↔ ¬s.AsksSevered op) ∧ (s.step messageSize op).Queued := by
  cases op with
  | insert message metadata =>
    have hNext := h.insert messageSize metadata (hFresh message metadata rfl)
    exact ⟨iff_of_true ⟨trivial, hNext.keepsAll⟩ not_false, hNext⟩
  | next =>
    obtain ⟨hAnswer, hNext⟩ := h.next messageSize
    exact ⟨iff_of_true ⟨hAnswer, hNext.keepsAll⟩ not_false, hNext⟩
  | get msgId =>
    obtain ⟨hIff, hNext⟩ := h.get messageSize msgId
    exact ⟨(and_iff_left hNext.keepsAll).trans hIff, hNext⟩

end CacheRun

/-- The messages a run inserts. -/
def insertedBy (ops : List QueueOp) : List Received :=
  ops.filterMap fun
    | .insert message metadata => some (message, metadata)
    | _ => none

namespace CacheRun

variable {messageSize : UInt64} {s : CacheRun}

theorem step_inserted (op : QueueOp) :
    (s.step messageSize op).ledger.inserted = s.ledger.inserted ++ insertedBy [op] := by
  cases op with
  | insert message metadata => rfl
  | next =>
    change (note s.ledger .next (s.answer messageSize .next)).inserted = _
    cases s.answer messageSize .next <;> exact (List.append_nil _).symm
  | get msgId =>
    change (note s.ledger (.get msgId) (s.answer messageSize (.get msgId))).inserted = _
    cases s.answer messageSize (.get msgId) <;> exact (List.append_nil _).symm

theorem fresh_of_distinct {ops : List QueueOp}
    (h : ((s.ledger.inserted ++ insertedBy ops).map Received.id).Nodup) :
    Along (step messageSize) Fresh s ops := by
  induction ops generalizing s with
  | nil => exact along_nil
  | cons op ops ih =>
    have hSplit : insertedBy (op :: ops) = insertedBy [op] ++ insertedBy ops := List.filterMap_append (l := [op])
    rw [hSplit, ← List.append_assoc] at h
    refine along_cons.mpr ⟨?_, ih (by rwa [step_inserted])⟩
    rintro message metadata rfl
    rw [List.map_append] at h
    have hOne := (List.nodup_append.mp h).1
    rw [List.map_append] at hOne
    intro hMem
    exact (List.nodup_append.mp hOne).2.2 _ hMem _ List.mem_cons_self rfl

variable (messageSize) in
/-- A run whose messages have distinct ids answers as a queue, and keeps every message, if and only if it never
asks for a severed thread of which messages are left. -/
theorem run_queue_iff (count : UInt32) (bytes : UInt64) (ops : List QueueOp)
    (hDistinct : ((insertedBy ops).map Received.id).Nodup) :
    Along (step messageSize) (Faithful messageSize) { cache := .withLimits count bytes } ops ↔
      Along (step messageSize) (fun s op => ¬s.AsksSevered op) { cache := .withLimits count bytes } ops := by
  have hFresh : Along (step messageSize) Fresh { cache := .withLimits count bytes } ops :=
    fresh_of_distinct hDistinct
  apply along_congr_of hFresh (Queued.start count bytes)
  · intro s op h hFresh
    exact (h.step messageSize hFresh).1
  · intro s op h hFresh _
    exact (h.step messageSize hFresh).2

/-- The later message of a thread is found by the thread. -/
theorem run_queue_thread :
    Along (step 400) (Faithful 400) { cache := .withLimits 100 10485760 }
      [.insert (ofThread "1" "t") {}, .insert (ofThread "2" "t") {}, .get "t", .next] := by
  refine (run_queue_iff 400 100 10485760 _ (by decide)).mpr ?_
  have hNoGet : ∀ s : CacheRun, ¬s.AsksSevered .next := fun _ => not_false
  have hNoInsert : ∀ (s : CacheRun) m u, ¬s.AsksSevered (.insert m u) := fun _ _ _ => not_false
  simp only [along_cons, along_nil, hNoGet, hNoInsert, not_false_eq_true, and_true, true_and]
  exact fun hAsks => absurd hAsks.1 (by decide)

/-- Two messages of a thread, and then the thread asked for. -/
def threadTaken : List QueueOp :=
  [.insert (ofThread "1" "t") {}, .insert (ofThread "2" "t") {}, .next, .get "t"]

/-- Once a message of a thread is returned, the others are not found by the thread. -/
theorem severed_thread_lost :
    ((insertedBy threadTaken).map Received.id).Nodup ∧
    (∀ r ∈ insertedBy threadTaken, ∀ r' ∈ insertedBy threadTaken, r'.thid ≠ some r.id) ∧
    ¬Along (step 400) (Faithful 400) { cache := .withLimits 100 10485760 } threadTaken := by
  refine ⟨by decide, by decide, fun h => ?_⟩
  obtain ⟨⟨hFound, _⟩, _⟩ := h (threadTaken.take 3) (.get "t") [] rfl
  exact Bool.false_ne_true (hFound.mpr ⟨(ofThread "2" "t", {}), List.mem_cons_self, .inr rfl⟩)

end CacheRun

end AffinidiMessaging.Sdk
