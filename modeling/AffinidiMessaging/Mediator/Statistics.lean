import AffinidiMessaging.Library.RedisCommands
import AffinidiMessaging.Mediator.Availability

/-! # The statistics of the database

What the counters of GLOBAL say about the calls of a whole run, and about the
messages that are there.
-/

namespace AffinidiMessaging.Mediator

open Redis Text Fallible Transition

structure MetadataStats where
  receivedBytes : Int := 0
  sentBytes : Int := 0
  deletedBytes : Int := 0
  receivedCount : Int := 0
  sentCount : Int := 0
  deletedCount : Int := 0
  websocketOpen : Int := 0
  websocketClose : Int := 0
  sessionsCreated : Int := 0
  sessionsSuccess : Int := 0

/-- `parse().unwrap_or(0)` into an i64. -/
def parseI64OrZero (s : String) : Int :=
  let number := match s.toList with
    | '+' :: digits => (parseNat (String.ofList digits)).map Int.ofNat
    | _ => parseSigned s
  match number with
  | some n => if inI64 n then n else 0
  | none => 0

theorem parseI64OrZero_of_parseI64 {s : String} {n : Int} (h : parseI64 s = some n) :
    parseI64OrZero s = n := by
  have hText := toString_of_parseI64 h
  have hRange := inI64_of_parseI64 h
  have hSigned : parseSigned s = some n := hText ▸ parseSigned_toString n
  have hPlus : ∀ digits, s.toList ≠ '+' :: digits := by
    intro digits hList
    have hNumeral : isNumeral s.toList = false := by
      rw [hList]
      simp [isNumeral]
    rw [parseSigned, hList] at hSigned
    simp [parseNat, hNumeral] at hSigned
  have hNumber : (match s.toList with
      | '+' :: digits => (parseNat (String.ofList digits)).map Int.ofNat
      | _ => parseSigned s) = some n := by
    split
    · exact absurd ‹_› (hPlus _)
    · exact hSigned
  rw [parseI64OrZero, hNumber]
  exact if_pos hRange

def statsField (stats : MetadataStats) (p : String × String) : MetadataStats :=
  match p.1 with
  | "RECEIVED_BYTES" => { stats with receivedBytes := parseI64OrZero p.2 }
  | "SENT_BYTES" => { stats with sentBytes := parseI64OrZero p.2 }
  | "DELETED_BYTES" => { stats with deletedBytes := parseI64OrZero p.2 }
  | "RECEIVED_COUNT" => { stats with receivedCount := parseI64OrZero p.2 }
  | "SENT_COUNT" => { stats with sentCount := parseI64OrZero p.2 }
  | "DELETED_COUNT" => { stats with deletedCount := parseI64OrZero p.2 }
  | "WEBSOCKET_OPEN" => { stats with websocketOpen := parseI64OrZero p.2 }
  | "WEBSOCKET_CLOSE" => { stats with websocketClose := parseI64OrZero p.2 }
  | "SESSIONS_CREATED" => { stats with sessionsCreated := parseI64OrZero p.2 }
  | "SESSIONS_SUCCESS" => { stats with sessionsSuccess := parseI64OrZero p.2 }
  | _ => stats

def DatabaseHandler.getDbMetadata (env : Environment) : Handler MetadataStats := do
  let fields ← query env "NA" "Couldn't get shared METADATA from database: " (hgetall .global)
  return fields.foldl statsField {}

def Measure.sent : Measure → String
  | .bytes => "SENT_BYTES"
  | .count => "SENT_COUNT"

namespace MetadataStats

variable (stats : MetadataStats)

def received : Measure → Int
  | .bytes => stats.receivedBytes
  | .count => stats.receivedCount

def sent : Measure → Int
  | .bytes => stats.sentBytes
  | .count => stats.sentCount

def deleted : Measure → Int
  | .bytes => stats.deletedBytes
  | .count => stats.deletedCount

/-- What is printed as queued. -/
def queued (m : Measure) : Int := stats.received m - stats.deleted m

end MetadataStats

/-- No field of a hash is there twice. -/
def UniqueFields (v : Option Value) : Prop :=
  ∀ fields, asHash v = .ok fields → (fields.map Prod.fst).Nodup

theorem uniqueFields_hincrby (f increment : String) :
    Keeps (fun db : Db => UniqueFields (db .global)) (hincrby .global f increment) := by
  intro db hdb
  constructor
  · intro u db' hRun
    obtain ⟨fields, i, j, hFields, -, -, -, rfl⟩ := (hincrby_ok_iff _ _ _ _ _ _).mp hRun
    intro fields' hFields'
    rw [Function.update_self, asHash_hash] at hFields'
    cases hFields'
    exact nodup_setField (hdb fields hFields)
  · intro e db' hRun
    rw [hincrby_error hRun]
    exact hdb

theorem uniqueFields_records (env : Environment) (time : ServerTime) (message toDid : String)
    (fromDid : Option String) :
    Keeps (fun db => UniqueFields (db .global)) (DatabaseHandler.records env time message toDid fromDid) := by
  refine Keeps.bind (Untouched.set (by simp) _).keeps fun _ => ?_
  refine Keeps.bind (uniqueFields_hincrby _ _) fun _ => ?_
  refine Keeps.bind (uniqueFields_hincrby _ _) fun _ => ?_
  refine Keeps.bind (Untouched.rpush (by simp) _).keeps fun _ => ?_
  refine Keeps.bind (untouched_enqueue (by simp) (by simp) _ _ _ _ _).keeps fun _ => ?_
  refine Keeps.bind (untouched_storeSender _ (by simp) _ _ _ _).keeps fun _ => ?_
  exact Keeps.bind (untouched_storeMetadata (by simp) _ _ _ _ _).keeps fun _ => .pure _

theorem untouched_notNil {α : Type} (k : Key) (o : Option α) (text : String) :
    Untouched k (notNil o text) := fun _ => DatabaseHandler.keeps_notNil o text

theorem untouched_deleteRecords {k : Key} {didHash : String} {queue : Key} (hDid : k ≠ .did didHash)
    (hQueue : k ≠ queue) (strtod : String → Option LuaNumber) (queueBytes queueCount bytes : String)
    (id : Option String) : Untouched k (deleteRecords strtod didHash queueBytes queueCount queue bytes id) := by
  have hNegated : Untouched k (negated strtod bytes) :=
    (untouched_notNil k _ _).bind fun _ => .pure _
  refine hNegated.bind fun _ => (Untouched.hincrby hDid _ _).bind fun _ => ?_
  refine (Untouched.hincrby hDid _ _).bind fun _ => (untouched_notNil k _ _).bind fun _ => ?_
  exact Untouched.xdel hQueue _

theorem uniqueFields_deleteOwned (strtod : String → Option LuaNumber) (messageHash : String)
    (fields : Fields) (bytes : String) :
    Keeps (fun db => UniqueFields (db .global)) (deleteOwned strtod messageHash fields bytes) := by
  have hReceiver : Untouched .global (deleteReceiver strtod fields bytes) :=
    (untouched_notNil _ _ _).bind fun _ => untouched_deleteRecords (by simp) (by simp) _ _ _ _ _
  have hSender : Untouched .global (deleteSender strtod fields bytes) := by
    unfold deleteSender
    split
    · exact .pure _
    · exact (untouched_notNil _ _ _).bind fun _ => untouched_deleteRecords (by simp) (by simp) _ _ _ _ _
  refine Keeps.bind (Untouched.del (by simp)).keeps fun _ => ?_
  refine Keeps.bind (uniqueFields_hincrby _ _) fun _ => ?_
  refine Keeps.bind (uniqueFields_hincrby _ _) fun _ => ?_
  refine Keeps.bind hReceiver.keeps fun _ => Keeps.bind hSender.keeps fun _ => ?_
  exact Keeps.bind (Untouched.del (by simp)).keeps fun _ => .pure _

namespace DatabaseHandler

variable {env : Environment} {db : Db}

/-- A counter of the statistics is the number that its field of GLOBAL counts. -/
theorem foldl_statsField (place : MetadataStats → Int) {f : String}
    (hSelf : ∀ stats v, place (statsField stats (f, v)) = parseI64OrZero v)
    (hOther : ∀ stats g v, g ≠ f → place (statsField stats (g, v)) = place stats)
    (hZero : place {} = 0) {fields : Fields} (hNodup : (fields.map Prod.fst).Nodup)
    (hNumeric : Numeric fields) (hFields : asHash (db .global) = .ok fields) :
    place (fields.foldl statsField {}) = counter db .global f := by
  rw [foldl_fields hSelf hOther hNodup, hZero, counter, ← lookup_of_asHash hFields]
  cases hLookup : fields.lookup f with
  | none => decide
  | some t =>
    obtain ⟨n, hn⟩ := Option.isSome_iff_exists.mp (hNumeric f t hLookup)
    rw [Option.elim_some, parseI64OrZero_of_parseI64 hn, Option.getD_some, hn, Option.getD_some]

theorem getDbMetadata_ok (env : Environment) (hdb : Shaped db) (hUnique : UniqueFields (db .global)) :
    ∃ stats, getDbMetadata env db = .ok stats db ∧
      ∀ m : Measure, stats.received m = counter db .global m.received ∧
        stats.deleted m = counter db .global m.deleted ∧
        stats.sent m = counter db .global m.sent := by
  obtain ⟨fields, hFields, hNumeric⟩ := hdb.counters (.inl rfl)
  have hGetAll : hgetall .global db = .ok fields db := (ofKey_ok_iff _ _ _ _ _).mpr ⟨hFields, rfl⟩
  refine ⟨fields.foldl statsField {}, bind_of_ok (query_of_ok hGetAll), fun m => ?_⟩
  have hNodup := hUnique fields hFields
  refine ⟨foldl_statsField (MetadataStats.received · m) ?_ ?_ ?_ hNodup hNumeric hFields,
    foldl_statsField (MetadataStats.deleted · m) ?_ ?_ ?_ hNodup hNumeric hFields,
    foldl_statsField (MetadataStats.sent · m) ?_ ?_ ?_ hNodup hNumeric hFields⟩
  all_goals first
    | (intro stats v; cases m <;> rfl)
    | (intro stats g v hg; cases m <;> (unfold statsField; split <;> first | rfl | exact absurd ‹_› hg))
    | (cases m <;> rfl)

end DatabaseHandler

/-- The size of a message that is there. -/
def bodySize (db : Db) (h : String) : Nat :=
  match db (.msg h) with
  | some (.string body) => body.utf8ByteSize
  | _ => 0

theorem bodySize_congr {db db' : Db} {h : String} (hMsg : db' (.msg h) = db (.msg h)) :
    bodySize db' h = bodySize db h := by
  rw [bodySize, hMsg, bodySize]

/-- A number of messages and their bytes. -/
abbrev Tally := Measure → Int

def Tally.add (t : Tally) (n : Nat) : Tally := fun m => t m + m.weight n

theorem Tally.add_apply (t : Tally) (n : Nat) (m : Measure) : t.add n m = t m + m.weight n := rfl

/-- No message has been counted, or none of its bytes is missing. -/
def Tally.Counted (t : Tally) : Prop := 0 ≤ t .count ∧ (t .count = 0 → t .bytes = 0)

theorem Tally.counted_zero : Tally.Counted fun _ => 0 := ⟨le_refl 0, fun _ => rfl⟩

theorem Tally.Counted.add {t : Tally} (h : t.Counted) (n : Nat) : (t.add n).Counted := by
  have hCount : (t.add n) .count = t .count + 1 := rfl
  rw [Counted, hCount]
  obtain ⟨hNonneg, -⟩ := h
  exact ⟨by omega, fun hZero => by omega⟩

/-- What the calls of a run have done: messages stored, deleted and got, and messages replaced by a
store of their digest. -/
structure Ledger where
  stored : Tally
  deleted : Tally
  got : Tally
  replaced : Tally

def Ledger.empty : Ledger := ⟨fun _ => 0, fun _ => 0, fun _ => 0, fun _ => 0⟩

/-- Only what succeeds is recorded. -/
def DatabaseCall.record (env : Environment) (db : Db) (l : Ledger) : DatabaseCall → Ledger
  | .storeMessage time sessionId message toDid fromDid =>
    match DatabaseHandler.storeMessage env time sessionId message.text toDid fromDid db with
    | .ok hash _ =>
      { l with
        stored := l.stored.add message.text.utf8ByteSize
        replaced := if db (.msg hash) = none then l.replaced else l.replaced.add (bodySize db hash) }
    | .error _ _ => l
  | .getMessage didHash msgId =>
    match DatabaseHandler.getMessage env didHash msgId db with
    | .ok _ _ => { l with got := l.got.add (bodySize db msgId) }
    | .error _ _ => l
  | .deleteMessage sessionId didHash messageHash =>
    match DatabaseHandler.deleteMessage env sessionId didHash messageHash db with
    | .ok _ _ => { l with deleted := l.deleted.add (bodySize db messageHash) }
    | .error _ _ => l
  | .fetchMessages _ _ _ => l

/-- Stores, reads and deletes; no store is stopped by Redis after its first write. -/
def DatabaseCall.Whole (env : Environment) (db : Db) : DatabaseCall → Prop
  | .storeMessage time sessionId message toDid fromDid => ∀ e db',
    DatabaseHandler.storeMessage env time sessionId message.text toDid fromDid db = .error e db' → db' = db
  | .fetchMessages _ _ _ => False
  | _ => True

/-- Runs on an empty database, with a ledger of what they have done. -/
def ledgeredCalls (env : Environment) : System (Db × Ledger) DatabaseCall where
  init s := s = (fun _ => none, .empty)
  step s call s' := call.Whole env s.1 ∧ s' = (call.run env s.1, call.record env s.1 s.2)

/-- What the statistics are to say about a run that has reached a database. -/
structure MetadataStats.Balanced (stats : MetadataStats) (db : Db) (l : Ledger) : Prop where
  received : ∀ m, stats.received m = l.stored m
  deleted : ∀ m, stats.deleted m = l.deleted m
  sent : ∀ m, stats.sent m = l.got m
  queued : ∃ S : Finset String, (∀ h, h ∈ S ↔ db (.msg h) ≠ none) ∧
    ∀ m, stats.queued m = S.sum fun h => m.weight (bodySize db h)

def StatisticsBalance (env : Environment) (db : Db) (l : Ledger) : Prop :=
  ∃ stats, DatabaseHandler.getDbMetadata env db = .ok stats db ∧ stats.Balanced db l

/-- What a run keeps of the counters, the ledger and the messages that are there. -/
structure Audit (db : Db) (l : Ledger) : Prop where
  sound : Sound db
  unique : UniqueFields (db .global)
  size : ∀ h fields, db (.msgMeta h) = some (.hash fields) →
    fields.lookup "BYTES" = some (bodySize db h).repr
  received : ∀ m : Measure, counter db .global m.received = l.stored m
  deleted : ∀ m : Measure, counter db .global m.deleted = l.deleted m
  sent : ∀ m : Measure, counter db .global m.sent = 0
  got : l.got.Counted
  replaced : l.replaced.Counted
  queued : ∃ S : Finset String, (∀ h, h ∈ S ↔ db (.msg h) ≠ none) ∧
    ∀ m, l.stored m - l.deleted m = (S.sum fun h => m.weight (bodySize db h)) + l.replaced m

theorem counter_empty (k : Key) (f : String) : counter (fun _ => none) k f = 0 := by
  change (parseI64 "0").getD 0 = 0
  decide

namespace Audit

variable {env : Environment} {db db' : Db} {l : Ledger}

theorem empty : Audit (fun _ => none) .empty where
  sound := .empty
  unique := by
    intro fields hFields
    cases hFields
    exact List.nodup_nil
  size := by simp
  received m := counter_empty _ _
  deleted m := counter_empty _ _
  sent m := counter_empty _ _
  got := Tally.counted_zero
  replaced := Tally.counted_zero
  queued := ⟨∅, by simp, by simp [Ledger.empty]⟩

theorem stored (hdb : Audit db l) {messageHash message time toDidHash : String}
    {fromDidHash : Option String} {id : Side → StreamId}
    (hSound : Sound db') (hUnique : UniqueFields (db' .global))
    (h : Stored messageHash message time (.integer message.utf8ByteSize) toDidHash fromDidHash id
      message.utf8ByteSize db db') :
    Audit db' { l with
      stored := l.stored.add message.utf8ByteSize
      replaced := if db (.msg messageHash) = none then l.replaced
        else l.replaced.add (bodySize db messageHash) } := by
  have hNew : bodySize db' messageHash = message.utf8ByteSize := by rw [bodySize, h.msg]
  have hOther : ∀ x, x ≠ messageHash →
      db' (.msg x) = db (.msg x) ∧ db' (.msgMeta x) = db (.msgMeta x) := fun x hx =>
    ⟨h.others _ trivial (by simpa using hx) (by simp), h.others _ trivial (by simp) (by simpa using hx)⟩
  constructor
  case sound => exact hSound
  case unique => exact hUnique
  case size =>
    intro x fields hx
    by_cases hHash : x = messageHash
    · subst hHash
      obtain ⟨old, -, hMeta⟩ := h.metadata
      rw [hMeta, Option.some.injEq, Value.hash.injEq] at hx
      rw [← hx, (lookup_metadataFields _ _ _ _ _ .receive _).2.2, hNew]
      rfl
    · rw [(hOther x hHash).2] at hx
      rw [bodySize_congr (hOther x hHash).1]
      exact hdb.size x fields hx
  case received =>
    intro m
    cases m with
    | bytes => exact h.totals.1.trans (congrArg (· + _) (hdb.received .bytes))
    | count => exact h.totals.2.1.trans (congrArg (· + _) (hdb.received .count))
  case deleted =>
    intro m
    rw [h.totals.2.2 _ (m.deleted_ne_received .bytes) (m.deleted_ne_received .count)]
    exact hdb.deleted m
  case sent =>
    intro m
    rw [h.totals.2.2 m.sent (by cases m <;> decide) (by cases m <;> decide)]
    exact hdb.sent m
  case got => exact hdb.got
  case replaced =>
    dsimp only
    split
    · exact hdb.replaced
    · exact hdb.replaced.add _
  case queued =>
    obtain ⟨S, hS, hSum⟩ := hdb.queued
    refine ⟨insert messageHash (S.erase messageHash), ?_, ?_⟩
    · intro x
      by_cases hHash : x = messageHash
      · simp [hHash, h.msg]
      · simp [hHash, hS, (hOther x hHash).1]
    · intro m
      have hRest : ((S.erase messageHash).sum fun x => m.weight (bodySize db' x)) =
          (S.erase messageHash).sum fun x => m.weight (bodySize db x) := by
        refine Finset.sum_congr rfl fun x hx => ?_
        rw [bodySize_congr (hOther x (Finset.ne_of_mem_erase hx)).1]
      have hOld := hSum m
      rw [Finset.sum_insert (Finset.notMem_erase _ _), hNew, hRest]
      by_cases hNone : db (.msg messageHash) = none
      · have hNot : messageHash ∉ S := fun hMem => (hS messageHash).mp hMem hNone
        rw [if_pos hNone, Finset.erase_eq_of_notMem hNot]
        simp only [Tally.add_apply]
        omega
      · have hMem : messageHash ∈ S := (hS messageHash).mpr hNone
        rw [← Finset.add_sum_erase S _ hMem] at hOld
        rw [if_neg hNone]
        simp only [Tally.add_apply]
        omega

theorem deletedOne (hdb : Audit db l) {messageHash : String} {fields : Fields} {n : Nat}
    {id : Side → StreamId} (hMeta : db (.msgMeta messageHash) = some (.hash fields))
    (hFields : Metadata fields n id) (hSound : Sound db') (hUnique : UniqueFields (db' .global))
    (h : Deleted messageHash fields n id db db') :
    Audit db' { l with deleted := l.deleted.add (bodySize db messageHash) } := by
  have hOther : ∀ x, x ≠ messageHash →
      db' (.msg x) = db (.msg x) ∧ db' (.msgMeta x) = db (.msgMeta x) := fun x hx =>
    ⟨h.others _ trivial (by simpa using hx) (by simp), h.others _ trivial (by simp) (by simpa using hx)⟩
  have hSize : bodySize db messageHash = n := by
    have hText := (hdb.size _ _ hMeta).symm.trans hFields.bytes
    rw [Option.some.injEq] at hText
    have hParse := congrArg parseNat hText
    rwa [parseNat_repr, parseNat_repr, Option.some.injEq] at hParse
  constructor
  case sound => exact hSound
  case unique => exact hUnique
  case size =>
    intro x fields' hx
    have hHash : x ≠ messageHash := by
      rintro rfl
      simp [h.metadata] at hx
    rw [(hOther x hHash).2] at hx
    rw [bodySize_congr (hOther x hHash).1]
    exact hdb.size x fields' hx
  case received =>
    intro m
    rw [h.totals.2.2 m.received (by cases m <;> decide) (by cases m <;> decide)]
    exact hdb.received m
  case deleted =>
    intro m
    rw [hSize]
    cases m with
    | bytes => exact h.totals.1.trans (congrArg (· + _) (hdb.deleted .bytes))
    | count => exact h.totals.2.1.trans (congrArg (· + _) (hdb.deleted .count))
  case sent =>
    intro m
    rw [h.totals.2.2 m.sent (by cases m <;> decide) (by cases m <;> decide)]
    exact hdb.sent m
  case got => exact hdb.got
  case replaced => exact hdb.replaced
  case queued =>
    obtain ⟨S, hS, hSum⟩ := hdb.queued
    have hMem : messageHash ∈ S := (hS messageHash).mpr (hdb.sound.kept _ _ hMeta).1
    refine ⟨S.erase messageHash, ?_, ?_⟩
    · intro x
      by_cases hHash : x = messageHash
      · simp [hHash, h.msg]
      · simp [hHash, hS, (hOther x hHash).1]
    · intro m
      have hRest : ((S.erase messageHash).sum fun x => m.weight (bodySize db' x)) =
          (S.erase messageHash).sum fun x => m.weight (bodySize db x) := by
        refine Finset.sum_congr rfl fun x hx => ?_
        rw [bodySize_congr (hOther x (Finset.ne_of_mem_erase hx)).1]
      have hOld := hSum m
      rw [← Finset.add_sum_erase S _ hMem] at hOld
      rw [hRest]
      simp only [Tally.add_apply]
      omega

theorem step (hdb : Audit db l) (hDigests : Digested db) {call : DatabaseCall} (hWhole : call.Whole env db) :
    Audit (call.run env db) (call.record env db l) := by
  cases call with
  | storeMessage time sessionId message toDid fromDid =>
    have hSound := (DatabaseHandler.storeMessage_outcome env hdb.sound hDigests message.nonempty time
      sessionId toDid fromDid).sound
    dsimp only [DatabaseCall.run, DatabaseCall.record]
    rcases DatabaseHandler.storeMessage_cases env time sessionId message.text toDid fromDid db with
      ⟨e, hRun⟩ | ⟨-, ⟨answer, db', hRecords, hRun⟩ | ⟨e, e', db', -, hRun⟩⟩
    · rw [stateAfter_of_error hRun, hRun]
      exact hdb
    · rw [stateAfter_of_ok hRun] at hSound ⊢
      rw [hRun]
      obtain ⟨-, id, hStored⟩ := DatabaseHandler.storeMessage_effect hRun
      exact hdb.stored hSound ((uniqueFields_records _ _ _ _ _ _ hdb.unique).1 _ _ hRecords) hStored
    · rw [stateAfter_of_error hRun, hRun, hWhole e' db' hRun]
      exact hdb
  | getMessage didHash msgId =>
    have hSame : (DatabaseCall.getMessage didHash msgId).run env db = db :=
      (DatabaseHandler.keeps_getMessage (I := (· = db)) env didHash msgId).stateAfter rfl
    rw [hSame]
    dsimp only [DatabaseCall.record]
    split
    · exact { hdb with got := hdb.got.add _ }
    · exact hdb
  | fetchMessages _ _ _ => exact hWhole.elim
  | deleteMessage sessionId didHash messageHash =>
    dsimp only [DatabaseCall.run, DatabaseCall.record]
    rcases DatabaseHandler.deleteMessage_sound env hdb.sound sessionId didHash messageHash with ⟨e, hRun⟩ |
      ⟨fields, n, id, db', hMeta, hFields, -, hDeleted, hSound, hRun⟩
    · rw [stateAfter_of_error hRun, hRun]
      exact hdb
    · rw [stateAfter_of_ok hRun, hRun]
      obtain ⟨fields', bytes, -, -, hOwned⟩ := DatabaseHandler.deleteMessage_effect hRun
      have hUnique := (uniqueFields_deleteOwned _ _ _ _ _ hdb.unique).1 _ _ hOwned
      exact hdb.deletedOne hMeta hFields hSound hUnique hDeleted

/-- The statistics balance when nothing was got and nothing replaced. -/
theorem balance_iff (hdb : Audit db l) :
    StatisticsBalance env db l ↔ l.got .count = 0 ∧ l.replaced .count = 0 := by
  obtain ⟨stats, hStats, hCounters⟩ := DatabaseHandler.getDbMetadata_ok env hdb.sound.shaped hdb.unique
  obtain ⟨S, hS, hSum⟩ := hdb.queued
  have hQueued : ∀ m, stats.queued m = l.stored m - l.deleted m := fun m => by
    rw [MetadataStats.queued, (hCounters m).1, (hCounters m).2.1, hdb.received, hdb.deleted]
  constructor
  · rintro ⟨stats', hStats', hBalanced⟩
    rw [hStats] at hStats'
    cases hStats'
    constructor
    · rw [← hBalanced.sent .count, (hCounters .count).2.2, hdb.sent]
    · obtain ⟨S', hS', hSum'⟩ := hBalanced.queued
      obtain rfl : S' = S := Finset.ext fun h => (hS' h).trans (hS h).symm
      have hLeft := hSum' .count
      have hRight := hSum .count
      rw [hQueued] at hLeft
      omega
  · rintro ⟨hGot, hReplaced⟩
    refine ⟨stats, hStats, ?_, ?_, ?_, S, hS, ?_⟩
    · intro m
      rw [(hCounters m).1, hdb.received]
    · intro m
      rw [(hCounters m).2.1, hdb.deleted]
    · intro m
      rw [(hCounters m).2.2, hdb.sent]
      cases m with
      | bytes => exact (hdb.got.2 hGot).symm
      | count => exact hGot.symm
    · intro m
      have hZero : l.replaced m = 0 := by
        cases m with
        | bytes => exact hdb.replaced.2 hReplaced
        | count => exact hReplaced
      rw [hQueued, hSum, hZero, Int.add_zero]

end Audit

theorem audit_of_reachable {env : Environment} {s : Db × Ledger} (h : (ledgeredCalls env).Reachable s) :
    Audit s.1 s.2 ∧ Digested s.1 := by
  refine System.Invariant.holds (I := fun s => Audit s.1 s.2 ∧ Digested s.1) ⟨?_, ?_⟩ h
  · rintro s rfl
    exact ⟨.empty, by simp [Digested]⟩
  · rintro s call s' ⟨hAudit, hDigests⟩ ⟨hWhole, rfl⟩
    exact ⟨hAudit.step hDigests hWhole, (call.outcome env hAudit.sound hDigests).digested⟩

/-- The statistics of a run balance exactly when it has got no message and replaced none. -/
theorem statistics_balance_iff (env : Environment) (s : Db × Ledger)
    (h : (ledgeredCalls env).Reachable s) :
    StatisticsBalance env s.1 s.2 ↔ s.2.got .count = 0 ∧ s.2.replaced .count = 0 :=
  (audit_of_reachable h).1.balance_iff

/-- The state of a run, from the calls it made. -/
def ledgered (env : Environment) : List DatabaseCall → Db × Ledger :=
  List.foldl (fun s call => (call.run env s.1, call.record env s.1 s.2)) (fun _ => none, .empty)

theorem helloToAlice_whole : helloToAlice.Whole sampleEnvironment fun _ => none := by
  obtain ⟨db, hRun⟩ : ∃ db, DatabaseHandler.storeMessage sampleEnvironment
      ⟨1700000000, 100000, by decide⟩ "s" "hello" "did:example:alice" none (fun _ => none) =
        .ok helloHash db := ⟨_, rfl⟩
  intro e db' hError
  rw [hRun] at hError
  cases hError

theorem ledgered_hello :
    (ledgeredCalls sampleEnvironment).Reachable (ledgered sampleEnvironment [helloToAlice]) :=
  .step (l := helloToAlice) (.init rfl) ⟨helloToAlice_whole, rfl⟩

theorem statistics_balance_hello :
    StatisticsBalance sampleEnvironment (ledgered sampleEnvironment [helloToAlice]).1
      (ledgered sampleEnvironment [helloToAlice]).2 :=
  (statistics_balance_iff sampleEnvironment _ ledgered_hello).mpr ⟨rfl, rfl⟩

def helloRead : List DatabaseCall := [helloToAlice, .getMessage aliceHash helloHash]

/-- "hello" stored for alice, and got by her: nothing is counted as sent. -/
theorem statistics_not_balanced :
    (ledgeredCalls sampleEnvironment).Reachable (ledgered sampleEnvironment helloRead) ∧
      ¬ StatisticsBalance sampleEnvironment (ledgered sampleEnvironment helloRead).1
        (ledgered sampleEnvironment helloRead).2 := by
  refine ⟨.step (l := .getMessage aliceHash helloHash) ledgered_hello ⟨trivial, rfl⟩, ?_⟩
  rintro ⟨stats, hStats, hBalanced⟩
  have hSent : (match DatabaseHandler.getDbMetadata sampleEnvironment
      (ledgered sampleEnvironment helloRead).1 with
      | .ok stats _ => stats.sent .count
      | .error _ _ => 1) = 0 := by decide
  rw [hStats] at hSent
  have hGot := (hBalanced.sent .count).symm.trans hSent
  revert hGot
  decide

end AffinidiMessaging.Mediator
