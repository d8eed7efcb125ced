import AffinidiMessaging.Library.Transition
import AffinidiMessaging.Mediator.Functions

/-! # The time of a stored message

`store_message` writes the seconds and the milliseconds next to each other without
padding. The numeral is the time in milliseconds from the first tenth of each second
on; before it, the numeral is too small and later ids of the stream are ahead of it.
-/

namespace AffinidiMessaging.Mediator

open Redis Text Fallible Transition

/-- The time in milliseconds since the epoch. -/
def ServerTime.millis (t : ServerTime) : Nat := t.sec * 1000 + t.usec / 1000

/-- The sub-second part has three digits, or there are no seconds before it. -/
def ServerTime.ThreeDigits (t : ServerTime) : Prop := 100000 ≤ t.usec ∨ t.sec = 0

theorem ServerTime.millis_le {s t : ServerTime} (h : s ≤ t) : s.millis ≤ t.millis := by
  have hs := s.usec_lt
  have ht := t.usec_lt
  rw [ServerTime.le_iff] at h
  unfold ServerTime.millis
  omega

theorem parseNat_formatTime (t : ServerTime) :
    parseNat (formatTime t) = some (t.sec * 10 ^ (t.usec / 1000).repr.length + t.usec / 1000) :=
  parseNat_append_repr _ _

theorem length_repr_eq_three_iff {n : Nat} (h : n < 1000) : n.repr.length = 3 ↔ 100 ≤ n := by
  have hTwo : n.repr.length ≤ 2 ↔ n < 10 ^ 2 := Nat.length_repr_le_iff (by decide)
  have hThree : n.repr.length ≤ 3 ↔ n < 10 ^ 3 := Nat.length_repr_le_iff (by decide)
  omega

theorem parseNat_formatTime_iff (t : ServerTime) :
    parseNat (formatTime t) = some t.millis ↔ t.ThreeDigits := by
  have hLt : t.usec / 1000 < 1000 := by
    have := t.usec_lt
    omega
  rw [parseNat_formatTime, ServerTime.millis, ServerTime.ThreeDigits, Option.some.injEq,
    Nat.add_right_cancel_iff]
  constructor
  · intro h
    rcases Nat.eq_zero_or_pos t.sec with hZero | hPos
    · exact .inr hZero
    · left
      have hPow : 10 ^ (t.usec / 1000).repr.length = 10 ^ 3 := Nat.eq_of_mul_eq_mul_left hPos h
      have hLength := (length_repr_eq_three_iff hLt).mp (Nat.pow_right_injective (by omega) hPow)
      omega
  · rintro (h | h)
    · have hLength := (length_repr_eq_three_iff hLt).mpr (by omega)
      simp [hLength]
    · simp [h]

/-- No stream was last written under a later time. -/
def NotAhead (t : ServerTime) (db : Db) : Prop :=
  ∀ k s, db k = some (.stream s) → s.lastId.ms ≤ t.millis

/-- Run at the time `t`, the script keeps the streams behind it and has no id rejected. -/
def InOrder {α : Type} (t : ServerTime) (c : Script α) : Prop :=
  Triple (NotAhead t) c (fun _ => NotAhead t) fun e db => e ≠ .idTooSmall ∧ NotAhead t db

namespace InOrder

variable {α β : Type} {t : ServerTime}

theorem pure (a : α) : InOrder t (Pure.pure a : Script α) := Triple.pure fun _ => id

theorem bind {c : Script α} {f : α → Script β} (hc : InOrder t c) (hf : ∀ a, InOrder t (f a)) :
    InOrder t (c >>= f) :=
  Triple.bind hc hf

theorem throw {e : RedisError} (h : e ≠ .idTooSmall) :
    InOrder t (MonadExcept.throw e : Script α) :=
  Triple.throw fun _ hdb => ⟨h, hdb⟩

theorem atKey {k : Key} {f : Option Value → Except RedisError (Value × α)}
    (hValue : ∀ v w a s, f v = .ok (w, a) → w ≠ .stream s) (hError : ∀ v, f v ≠ .error .idTooSmall) :
    InOrder t (Redis.atKey k f) := by
  intro db hdb
  constructor
  · intro a db' hRun
    obtain ⟨w, hw, rfl⟩ := (atKey_ok_iff _ _ _ _ _).mp hRun
    intro k' s hs
    by_cases hk : k' = k
    · subst hk
      rw [Function.update_self, Option.some.injEq] at hs
      exact absurd hs (hValue _ _ _ _ hw)
    · rw [Function.update_of_ne hk] at hs
      exact hdb k' s hs
  · intro e db' hRun
    obtain ⟨he, rfl⟩ := (atKey_error_iff _ _ _ _ _).mp hRun
    refine ⟨?_, hdb⟩
    rintro rfl
    exact hError _ he

theorem ofKey {k : Key} {f : Option Value → Except RedisError α}
    (hError : ∀ v, f v ≠ .error .idTooSmall) : InOrder t (Redis.ofKey k f) := by
  intro db hdb
  constructor
  · intro a db' hRun
    obtain ⟨-, rfl⟩ := (ofKey_ok_iff _ _ _ _ _).mp hRun
    exact hdb
  · intro e db' hRun
    obtain ⟨he, rfl⟩ := (ofKey_error_iff _ _ _ _ _).mp hRun
    refine ⟨?_, hdb⟩
    rintro rfl
    exact hError _ he

theorem set (k : Key) (text : String) : InOrder t (Redis.set k text) := by
  refine atKey ?_ (by simp)
  rintro v w a s h
  cases h
  simp

theorem asHash_ne (v : Option Value) : asHash v ≠ .error .idTooSmall := by
  cases v with
  | none => simp [asHash]
  | some v => cases v <;> simp [asHash]

theorem asList_ne (v : Option Value) : asList v ≠ .error .idTooSmall := by
  cases v with
  | none => simp [asList]
  | some v => cases v <;> simp [asList]

theorem asString_ne (v : Option Value) : asString v ≠ .error .idTooSmall := by
  cases v with
  | none => simp [asString]
  | some v => cases v <;> simp [asString]

theorem asStream_ne (v : Option Value) : asStream v ≠ .error .idTooSmall := by
  cases v with
  | none => simp [asStream]
  | some v => cases v <;> simp [asStream]

theorem streamMs_ne (ms : String) : streamMs ms ≠ .error .idTooSmall := by
  unfold streamMs
  split
  · split <;> simp
  · simp

theorem incremented_ne (fields : Fields) (f increment : String) :
    incremented fields f increment ≠ .error .idTooSmall := by
  unfold incremented
  simp only [ne_eq, except_bind_error_iff, okOr_error_iff, reduceCtorEq, and_false, false_or,
    not_exists, not_and]
  intro i _ j _ h
  split at h <;> cases h

theorem hincrby (k : Key) (f increment : String) : InOrder t (Redis.hincrby k f increment) := by
  refine atKey ?_ ?_
  · intro v w a s h
    simp only [except_bind_ok_iff, except_pure_eq, Except.ok.injEq, Prod.mk.injEq] at h
    obtain ⟨fields, -, n, -, rfl, -⟩ := h
    simp
  · intro v h
    simp only [except_bind_error_iff, except_pure_eq, reduceCtorEq, and_false, exists_false,
      or_false] at h
    rcases h with h | ⟨fields, -, h⟩
    · exact asHash_ne v h
    · exact incremented_ne _ _ _ h

theorem rpush (k : Key) (item : String) : InOrder t (Redis.rpush k item) := by
  refine atKey ?_ ?_
  · intro v w a s h
    simp only [except_bind_ok_iff, except_pure_eq, Except.ok.injEq, Prod.mk.injEq] at h
    obtain ⟨xs, -, rfl, -⟩ := h
    simp
  · intro v h
    simp only [except_bind_error_iff, except_pure_eq, reduceCtorEq, and_false, exists_false,
      or_false] at h
    exact asList_ne v h

theorem hmset (k : Key) (pairs : Fields) : InOrder t (Redis.hmset k pairs) := by
  refine atKey ?_ ?_
  · intro v w a s h
    simp only [except_bind_ok_iff, except_pure_eq, Except.ok.injEq, Prod.mk.injEq] at h
    obtain ⟨fields, -, rfl, -⟩ := h
    simp
  · intro v h
    simp only [except_bind_error_iff, except_pure_eq, reduceCtorEq, and_false, exists_false,
      or_false] at h
    exact asHash_ne v h

theorem get (k : Key) : InOrder t (Redis.get k) := ofKey asString_ne

theorem hgetall (k : Key) : InOrder t (Redis.hgetall k) := ofKey asHash_ne

theorem notNil {o : Option α} (text : String) : InOrder t (Mediator.notNil o text) := by
  cases o with
  | none => exact InOrder.throw (by simp)
  | some a => exact InOrder.pure a

theorem errorReply (text : String) : InOrder t (Mediator.errorReply text : Script α) :=
  InOrder.throw (by simp)

theorem del (k : Key) : InOrder t (Redis.del k : Script Unit) := by
  intro db hdb
  constructor
  · intro u db' hRun
    obtain rfl := (del_ok_iff _ _ _ _).mp hRun
    intro k' s hs
    by_cases hk : k' = k
    · simp [hk] at hs
    · rw [Function.update_of_ne hk] at hs
      exact hdb k' s hs
  · rintro e db' hRun
    cases hRun

theorem xdel (k : Key) (id : String) : InOrder t (Redis.xdel k id) := by
  intro db hdb
  constructor
  · intro u db' hRun
    rcases (xdel_ok_iff _ _ _ _ _).mp hRun with ⟨-, rfl⟩ | ⟨s, i, hk, -, rfl⟩
    · exact hdb
    · intro k' s' hs
      by_cases hk' : k' = k
      · subst hk'
        rw [Function.update_self, Option.some.injEq, Value.stream.injEq] at hs
        subst hs
        exact hdb k' s hk
      · rw [Function.update_of_ne hk'] at hs
        exact hdb k' s' hs
  · intro e db' hRun
    obtain ⟨rfl, ⟨rfl, -⟩ | ⟨rfl, -⟩⟩ := xdel_error hRun
    · exact ⟨by simp, hdb⟩
    · exact ⟨by simp, hdb⟩

/-- The numeral of the time reads as the time, so it is not behind the stream. -/
theorem xadd (ht : t.ThreeDigits) (k : Key) (fields : Fields) :
    InOrder t (Redis.xadd k (formatTime t) fields) := by
  have hMs : ∀ n, streamMs (formatTime t) = .ok n → n.val = t.millis := by
    intro n hn
    unfold streamMs at hn
    rw [(parseNat_formatTime_iff t).mpr ht] at hn
    simp only at hn
    split at hn <;> cases hn
    rfl
  have hLast : ∀ db, NotAhead t db → ∀ s, asStream (db k) = .ok s → s.lastId.ms ≤ t.millis := by
    intro db hdb s hs
    cases hk : db k with
    | none =>
      rw [hk] at hs
      cases hs
      exact Nat.zero_le _
    | some v =>
      cases v with
      | stream s' =>
        rw [hk, asStream_stream] at hs
        cases hs
        exact hdb k s hk
      | _ =>
        rw [hk] at hs
        cases hs
  intro db hdb
  constructor
  · intro a db' hRun
    obtain ⟨s, n, id, hs, hn, hid, -, rfl⟩ := (xadd_ok_iff _ _ _ _ _ _).mp hRun
    intro k' s' hs'
    by_cases hk' : k' = k
    · subst hk'
      rw [Function.update_self, Option.some.injEq, Value.stream.injEq] at hs'
      subst hs'
      exact ((ms_of_nextId hid).trans (hMs n hn)).le
    · rw [Function.update_of_ne hk'] at hs'
      exact hdb k' s' hs'
  · intro e db' hRun
    obtain ⟨he, rfl⟩ := (atKey_error_iff _ _ _ _ _).mp hRun
    refine ⟨?_, hdb⟩
    rintro rfl
    simp only [except_bind_error_iff, except_pure_eq, reduceCtorEq, and_false, exists_false,
      or_false] at he
    rcases he with he | ⟨s, hs, he | ⟨n, hn, he⟩⟩
    · exact asStream_ne _ he
    · exact streamMs_ne _ he
    · have hBehind := lt_of_nextId_idTooSmall he
      rw [hMs n hn] at hBehind
      exact absurd (hLast db' hdb s hs) (by omega)

theorem enqueue (ht : t.ThreeDigits) (didHash bytesField countField : String) (queue : Key)
    (bytes : LuaNumber) (entry : Fields) :
    InOrder t (Mediator.enqueue didHash bytesField countField queue (formatTime t) bytes entry) :=
  (hincrby _ _ _).bind fun _ => (hincrby _ _ _).bind fun _ => xadd ht _ _

theorem storeSender (ht : t.ThreeDigits) (fromDidHash : Option String) (messageHash : String)
    (bytes : LuaNumber) (toDid : String) :
    InOrder t (Mediator.storeSender fromDidHash messageHash (formatTime t) bytes toDid) := by
  cases fromDidHash with
  | none => exact pure none
  | some d => exact (enqueue ht _ _ _ _ _ _).bind fun _ => pure _

theorem storeMetadata (messageHash time : String) (bytes : LuaNumber) (toDidHash rq : String)
    (sent : Option (String × String)) :
    InOrder t (Mediator.storeMetadata messageHash time bytes toDidHash rq sent) := by
  refine (hmset _ _).bind fun _ => ?_
  cases sent with
  | none => exact pure ()
  | some p => exact hmset _ _

variable (strtod : String → Option LuaNumber)

theorem storeMessage (ht : t.ThreeDigits) (keys args : List String) :
    InOrder t (Mediator.storeMessage strtod t keys args) := by
  unfold Mediator.storeMessage
  split
  · split
    · exact errorReply _
    · split
      · exact errorReply _
      · refine (notNil _).bind fun messageHash => ?_
        refine (set _ _).bind fun _ => (hincrby _ _ _).bind fun _ => (hincrby _ _ _).bind fun _ => ?_
        refine (rpush _ _).bind fun _ => (enqueue ht _ _ _ _ _ _).bind fun rq => ?_
        refine (storeSender ht _ _ _ _).bind fun sent => ?_
        exact (storeMetadata _ _ _ _ _ _).bind fun _ => pure "OK"
  · exact errorReply _

theorem deleteRecords (didHash queueBytes queueCount : String) (queue : Key) (bytes : String)
    (id : Option String) :
    InOrder t (Mediator.deleteRecords strtod didHash queueBytes queueCount queue bytes id) := by
  refine ((notNil _).bind fun _ => pure _).bind fun _ => (hincrby _ _ _).bind fun _ => ?_
  exact (hincrby _ _ _).bind fun _ => (notNil _).bind fun _ => xdel _ _

theorem deleteReceiver (fields : Fields) (bytes : String) :
    InOrder t (Mediator.deleteReceiver strtod fields bytes) :=
  (notNil _).bind fun _ => deleteRecords _ _ _ _ _ _ _

theorem deleteSender (fields : Fields) (bytes : String) :
    InOrder t (Mediator.deleteSender strtod fields bytes) := by
  unfold Mediator.deleteSender
  split
  · exact pure ()
  · exact (notNil _).bind fun _ => deleteRecords _ _ _ _ _ _ _

theorem deleteMessage (keys args : List String) :
    InOrder t (Mediator.deleteMessage strtod keys args) := by
  unfold Mediator.deleteMessage
  split
  · split
    · refine (hgetall _).bind fun fields => ?_
      unfold deleteChecked
      split
      · exact errorReply _
      · split
        · exact errorReply _
        · refine (del _).bind fun _ => (hincrby _ _ _).bind fun _ => (hincrby _ _ _).bind fun _ => ?_
          refine (deleteReceiver _ _ _).bind fun _ => (deleteSender _ _ _).bind fun _ => ?_
          exact (del _).bind fun _ => pure "OK"
    · exact errorReply _
  · exact errorReply _

end InOrder

/-- A call of a function of the library. `fetch_messages` writes nothing. -/
inductive FunctionCall
  | storeMessage (time : ServerTime) (keys args : List String)
  | deleteMessage (keys args : List String)

structure Clocked where
  now : ServerTime
  db : Db

/-- The functions called in any order on an empty database, while TIME never decreases. -/
def clockedCalls (strtod : String → Option LuaNumber) : System Clocked FunctionCall where
  init s := s.db = fun _ => none
  step s call s' :=
    match call with
    | .storeMessage time keys args =>
      s.now ≤ time ∧ s' = ⟨time, stateAfter (storeMessage strtod time keys args) s.db⟩
    | .deleteMessage keys args => s' = ⟨s.now, stateAfter (deleteMessage strtod keys args) s.db⟩

def callsWithThreeDigits (strtod : String → Option LuaNumber) : System Clocked FunctionCall :=
  (clockedCalls strtod).restrict fun _ call =>
    match call with
    | .storeMessage time _ _ => time.ThreeDigits
    | .deleteMessage _ _ => True

theorem InOrder.stateAfter {α : Type} {t : ServerTime} {c : Script α} (h : InOrder t c) {db : Db}
    (hdb : NotAhead t db) : NotAhead t (Fallible.stateAfter c db) := by
  unfold Fallible.stateAfter
  cases hRun : c db with
  | ok a db' => exact (h db hdb).1 a db' hRun
  | error e db' => exact ((h db hdb).2 e db' hRun).2

theorem notAhead_of_reachable {strtod : String → Option LuaNumber} {s : Clocked}
    (hs : (callsWithThreeDigits strtod).Reachable s) : NotAhead s.now s.db := by
  refine System.Invariant.holds (I := fun s => NotAhead s.now s.db) ⟨?_, ?_⟩ hs
  · intro s hInit k st hk
    rw [show s.db k = none from congrFun hInit k] at hk
    cases hk
  · rintro s call s' hInv ⟨hAllowed, hStep⟩
    cases call with
    | storeMessage time keys args =>
      obtain ⟨hNow, rfl⟩ := hStep
      have hLater : NotAhead time s.db := fun k st hk =>
        (hInv k st hk).trans (ServerTime.millis_le hNow)
      exact (InOrder.storeMessage strtod hAllowed keys args).stateAfter hLater
    | deleteMessage keys args =>
      obtain rfl := hStep
      exact (InOrder.deleteMessage strtod keys args).stateAfter hInv

/-- The numeral of a time is the time in milliseconds exactly when its sub-second part has three
digits; on such times numerals are ordered as the times are, and no id is rejected. -/
theorem formatTime_millis_iff (strtod : String → Option LuaNumber) :
    (∀ t, parseNat (formatTime t) = some t.millis ↔ t.ThreeDigits) ∧
    (∀ s t : ServerTime, s ≤ t → s.ThreeDigits → t.ThreeDigits →
      ∃ m n, parseNat (formatTime s) = some m ∧ parseNat (formatTime t) = some n ∧ m ≤ n) ∧
    (∀ s, (callsWithThreeDigits strtod).Reachable s → ∀ time keys args db',
      s.now ≤ time → time.ThreeDigits →
        storeMessage strtod time keys args s.db ≠ .error .idTooSmall db') := by
  refine ⟨parseNat_formatTime_iff, ?_, ?_⟩
  · intro s t h hs ht
    exact ⟨_, _, (parseNat_formatTime_iff s).mpr hs, (parseNat_formatTime_iff t).mpr ht,
      ServerTime.millis_le h⟩
  · intro s hs time keys args db' hNow hTime hRun
    have hLater : NotAhead time s.db := fun k st hk =>
      (notAhead_of_reachable hs k st hk).trans (ServerTime.millis_le hNow)
    exact ((InOrder.storeMessage strtod hTime keys args _ hLater).2 _ _ hRun).1 rfl

/-- Five milliseconds into a second the numeral is a digit short of two, and XADD rejects a
message stored six milliseconds after the one before it. -/
theorem formatTime_goes_back :
    parseNat (formatTime ⟨1700000001, 5000, by decide⟩) = some 17000000015 ∧
    parseNat (formatTime ⟨1700000000, 999000, by decide⟩) = some 1700000000999 ∧
    ∃ db db', storeMessage (fun _ => none) ⟨1700000000, 999000, by decide⟩ ["h"]
        ["hello", "5", "did:example:bob", "d", "ANONYMOUS"] (fun _ => none) = .ok "OK" db ∧
      storeMessage (fun _ => none) ⟨1700000001, 5000, by decide⟩ ["g"]
        ["hullo", "5", "did:example:bob", "d", "ANONYMOUS"] db = .error .idTooSmall db' :=
  ⟨by decide, by decide, _, _, rfl, rfl⟩

end AffinidiMessaging.Mediator
