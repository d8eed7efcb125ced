import AffinidiMessaging.Library.Redis

/-! # Commands on sets, on single fields and on whole keys

Redis keeps no empty hash and no empty set: the key goes with its last element.
-/

namespace AffinidiMessaging.Redis

open Fallible

variable {K α : Type}

def asSet : Option Value → Except RedisError (List String)
  | none => .ok []
  | some (.set ms) => .ok ms
  | some _ => .error .wrongType

def ofHash (fields : Fields) : Option Value :=
  if fields.isEmpty then none else some (.hash fields)

def ofSet (ms : List String) : Option Value :=
  if ms.isEmpty then none else some (.set ms)

def members (db : Keyspace K) (k : K) : List String :=
  match db k with
  | some (.set ms) => ms
  | _ => []

/-- The key is unused or holds a hash. -/
def HoldsHash (db : Keyspace K) (k : K) : Prop := ∃ fields, asHash (db k) = .ok fields

def HoldsSet (db : Keyspace K) (k : K) : Prop := ∃ ms, asSet (db k) = .ok ms

theorem members_of_asSet {db : Keyspace K} {k : K} {ms : List String} (h : asSet (db k) = .ok ms) :
    members db k = ms := by
  unfold members
  cases hv : db k with
  | none => simpa [hv, asSet] using h
  | some v => cases v <;> simp_all [asSet]

theorem members_congr {db db' : Keyspace K} {k : K} (h : db k = db' k) :
    members db k = members db' k := by
  rw [members, members, h]

theorem exec_cons_run (c : Command K Unit) (cs : List (Command K Unit)) (db : Keyspace K) :
    exec (c :: cs) db =
      match c db with
      | .ok _ db' => exec cs db'
      | .error e db' =>
        match exec cs db' with
        | .ok _ db'' => .error e db''
        | .error _ db'' => .error e db'' := rfl

theorem exec_cons_ok_iff (c : Command K Unit) (cs : List (Command K Unit)) (db db'' : Keyspace K)
    (u : Unit) :
    exec (c :: cs) db = .ok u db'' ↔ ∃ db', c db = .ok () db' ∧ exec cs db' = .ok u db'' := by
  rw [exec_cons_run]
  cases h : c db with
  | ok a db' =>
    constructor
    · intro hRest
      exact ⟨db', rfl, hRest⟩
    · rintro ⟨_, hEq, hRest⟩
      cases hEq
      exact hRest
  | error e db' =>
    dsimp only
    cases exec cs db' <;> simp

@[simp] theorem exec_nil_ok_iff (db db' : Keyspace K) (u : Unit) :
    exec [] db = .ok u db' ↔ db' = db := by
  simp [exec, eq_comm]

/-- Failed or not, every command of EXEC is executed in turn. -/
theorem stateAfter_exec_cons (c : Command K Unit) (cs : List (Command K Unit)) (db : Keyspace K) :
    stateAfter (exec (c :: cs)) db = stateAfter (exec cs) (stateAfter c db) := by
  rw [stateAfter, exec_cons_run, stateAfter, stateAfter]
  cases c db with
  | ok a db' => rfl
  | error e db' =>
    dsimp only
    cases exec cs db' <;> rfl

theorem keeps_exec {I : Keyspace K → Prop} {cs : List (Command K Unit)} (h : ∀ c ∈ cs, Keeps I c) :
    Keeps I (exec cs) := by
  apply Keeps.of_stateAfter
  induction cs with
  | nil =>
    intro db hdb
    exact hdb
  | cons c cs ih =>
    intro db hdb
    rw [stateAfter_exec_cons]
    apply ih fun c' hc' => h c' (List.mem_cons_of_mem _ hc')
    exact (h c List.mem_cons_self).stateAfter hdb

theorem Untouched.keeps_counter {k : K} {c : Command K α} (h : Untouched k c) (f : String) (n : Int) :
    Keeps (fun db => counter db k f = n) c := by
  intro db hdb
  constructor
  · intro a db' hRun
    rw [counter_congr (field_congr (h.of_ok hRun) f), hdb]
  · intro e db' hRun
    rw [counter_congr (field_congr (h.of_error hRun) f), hdb]

theorem Untouched.keeps {P : Option Value → Prop} {k : K} {c : Command K α} (h : Untouched k c) :
    Keeps (fun db => P (db k)) c := by
  intro db hdb
  constructor
  · intro a db' hRun
    rwa [h.of_ok hRun]
  · intro e db' hRun
    rwa [h.of_error hRun]

variable [DecidableEq K]

theorem keeps_counter_hincrby {k : K} {f g : String} (h : f ≠ g) (increment : String) (n : Int) :
    Keeps (fun db => counter db k f = n) (hincrby k g increment) := by
  intro db hdb
  constructor
  · intro u db' hRun
    rw [counter_of_hincrby_of_ne (.inr h) hRun, hdb]
  · intro e db' hRun
    rw [hincrby_error hRun]
    exact hdb

/-- A command that rewrites one key or removes it. -/
def rewriteKey (k : K) (f : Option Value → Except RedisError (Option Value × α)) : Command K α :=
  fun db =>
    match f (db k) with
    | .ok (v, a) => .ok a (Function.update db k v)
    | .error e => .error e db

theorem rewriteKey_ok_iff (k : K) (f : Option Value → Except RedisError (Option Value × α))
    (db db' : Keyspace K) (a : α) :
    rewriteKey k f db = .ok a db' ↔ ∃ v, f (db k) = .ok (v, a) ∧ db' = Function.update db k v := by
  unfold rewriteKey
  cases h : f (db k) with
  | ok p =>
    obtain ⟨v, b⟩ := p
    constructor
    · intro hRun
      cases hRun
      exact ⟨v, rfl, rfl⟩
    · rintro ⟨w, hEq, rfl⟩
      cases hEq
      rfl
  | error e => simp

def hget (k : K) (f : String) : Command K (Option String) :=
  ofKey k fun v => do
    let fields ← asHash v
    return fields.lookup f

def hmget (k : K) (names : List String) : Command K (List (Option String)) :=
  ofKey k fun v => do
    let fields ← asHash v
    return names.map fun f => fields.lookup f

def hexists (k : K) (f : String) : Command K Bool :=
  ofKey k fun v => do
    let fields ← asHash v
    return (fields.lookup f).isSome

/-- XINFO STREAM. -/
def xinfoStream (k : K) : Command K Stream :=
  ofKey k fun
    | none => .error (.reply "ERR no such key")
    | some (.stream s) => .ok s
    | some _ => .error .wrongType

/-- HSET with any number of pairs. -/
def hset (k : K) (pairs : Fields) : Command K Unit := hmset k pairs

def hdel (k : K) (f : String) : Command K Unit :=
  rewriteKey k fun v => do
    let fields ← asHash v
    return (ofHash (fields.filter (·.1 ≠ f)), ())

def sadd (k : K) (member : String) : Command K Unit :=
  rewriteKey k fun v => do
    let ms ← asSet v
    return (some (.set (if member ∈ ms then ms else ms ++ [member])), ())

def srem (k : K) (member : String) : Command K Unit :=
  rewriteKey k fun v => do
    let ms ← asSet v
    return (ofSet (ms.filter (· ≠ member)), ())

/-- SPOP of one member, at random; nothing for a missing key. -/
def spop (random : List String → Nat) (k : K) : Command K (Option String) :=
  rewriteKey k fun v => do
    let ms ← asSet v
    let popped := ms[random ms % ms.length]?
    return (ofSet (ms.filter fun m => some m ≠ popped), popped)

/-- RENAME takes the value of the old key, of whatever type, and replaces the one of the new key. -/
def rename (k k' : K) : Command K Unit := fun db =>
  match db k with
  | none => .error (.reply "no such key") db
  | some v => .ok () (Function.update (Function.update db k none) k' (some v))

/-- The time to live is not part of the keyspace: a key that has one may go at any time. EXPIRE
of a missing key is no error. -/
def expire (_k : K) (_seconds : Nat) : Command K Unit := pure ()

omit [DecidableEq K] in
theorem keeps_expire {I : Keyspace K → Prop} (k : K) (seconds : Nat) : Keeps I (expire k seconds) :=
  Keeps.pure ()

theorem Untouched.rewriteKey {k k' : K} {f : Option Value → Except RedisError (Option Value × α)}
    (h : k ≠ k') : Untouched k (rewriteKey k' f) := by
  intro v db hv
  unfold Redis.rewriteKey
  cases f (db k') with
  | ok p =>
    constructor
    · intro a db' hRun
      cases hRun
      rw [Function.update_of_ne h]
      exact hv
    · intro e db' hRun
      cases hRun
  | error e =>
    constructor
    · intro a db' hRun
      cases hRun
    · intro e' db' hRun
      cases hRun
      exact hv

omit [DecidableEq K] in
theorem Untouched.exec {k : K} {cs : List (Command K Unit)} (h : ∀ c ∈ cs, Untouched k c) :
    Untouched k (exec cs) := fun v =>
  keeps_exec fun c hc => h c hc v

theorem Untouched.hset {k k' : K} (h : k ≠ k') (pairs : Fields) : Untouched k (hset k' pairs) :=
  .hmset h pairs

theorem Untouched.rename {k a b : K} (ha : k ≠ a) (hb : k ≠ b) : Untouched k (rename a b) := by
  intro v db hv
  constructor
  · intro u db' hRun
    simp only [Redis.rename] at hRun
    split at hRun <;> cases hRun
    rw [Function.update_of_ne hb, Function.update_of_ne ha]
    exact hv
  · intro e db' hRun
    simp only [Redis.rename] at hRun
    split at hRun <;> cases hRun
    exact hv

theorem hset_ok_iff (k : K) (f v : String) (db db' : Keyspace K) (u : Unit) :
    hset k [(f, v)] db = .ok u db' ↔
      ∃ fields, asHash (db k) = .ok fields ∧
        db' = Function.update db k (some (.hash (setField f v fields))) :=
  hmset_ok_iff k [(f, v)] db db' u

theorem field_of_hset {k : K} {f v : String} {db db' : Keyspace K} {u : Unit}
    (h : hset k [(f, v)] db = .ok u db') (g : String) :
    field db' k g = if g = f then some v else field db k g := by
  obtain ⟨fields, hFields, rfl⟩ := (hset_ok_iff _ _ _ _ _ _).mp h
  rw [field_update, if_pos rfl, lookup_setField, lookup_of_asHash hFields]

theorem lookup_filter_ne (f g : String) (fields : Fields) :
    (fields.filter (·.1 ≠ f)).lookup g = if g = f then none else fields.lookup g := by
  induction fields with
  | nil => simp
  | cons p rest ih =>
    obtain ⟨k, v⟩ := p
    by_cases hk : k = f
    · rw [List.filter_cons_of_neg (by simp [hk]), ih, List.lookup_cons]
      by_cases hg : g = f
      · rw [if_pos hg, if_pos hg]
      · have hNe : (g == k) = false := by simp [hk, hg]
        rw [if_neg hg, if_neg hg, hNe]
    · rw [List.filter_cons_of_pos (by simp [hk]), List.lookup_cons, List.lookup_cons, ih]
      by_cases hg : g = k
      · simp [hg, hk]
      · have hNe : (g == k) = false := by simp [hg]
        rw [hNe]

theorem asHash_ofHash (fields : Fields) : asHash (ofHash fields) = .ok fields := by
  cases fields <;> rfl

theorem asSet_ofSet (ms : List String) : asSet (ofSet ms) = .ok ms := by
  cases ms <;> rfl

theorem hdel_ok_iff (k : K) (f : String) (db db' : Keyspace K) (u : Unit) :
    hdel k f db = .ok u db' ↔
      ∃ fields, asHash (db k) = .ok fields ∧
        db' = Function.update db k (ofHash (fields.filter (·.1 ≠ f))) := by
  unfold hdel
  rw [rewriteKey_ok_iff]
  cases h : asHash (db k) with
  | ok fields =>
    simp only [bind, Except.bind, pure, Except.pure, Except.ok.injEq, Prod.mk.injEq, and_true]
    simp [eq_comm]
  | error e => simp [bind, Except.bind]

theorem field_of_hdel {k : K} {f : String} {db db' : Keyspace K} {u : Unit}
    (h : hdel k f db = .ok u db') (g : String) :
    field db' k g = if g = f then none else field db k g := by
  obtain ⟨fields, hFields, rfl⟩ := (hdel_ok_iff _ _ _ _ _).mp h
  have hNew : asHash (Function.update db k (ofHash (fields.filter (·.1 ≠ f))) k) =
      .ok (fields.filter (·.1 ≠ f)) := by
    rw [Function.update_self, asHash_ofHash]
  rw [← lookup_of_asHash hNew, lookup_filter_ne, lookup_of_asHash hFields]

theorem sadd_ok_iff (k : K) (member : String) (db db' : Keyspace K) (u : Unit) :
    sadd k member db = .ok u db' ↔
      ∃ ms, asSet (db k) = .ok ms ∧
        db' = Function.update db k (some (.set (if member ∈ ms then ms else ms ++ [member]))) := by
  unfold sadd
  rw [rewriteKey_ok_iff]
  cases h : asSet (db k) with
  | ok ms =>
    simp only [bind, Except.bind, pure, Except.pure, Except.ok.injEq, Prod.mk.injEq, and_true]
    simp
  | error e => simp [bind, Except.bind]

theorem srem_ok_iff (k : K) (member : String) (db db' : Keyspace K) (u : Unit) :
    srem k member db = .ok u db' ↔
      ∃ ms, asSet (db k) = .ok ms ∧
        db' = Function.update db k (ofSet (ms.filter (· ≠ member))) := by
  unfold srem
  rw [rewriteKey_ok_iff]
  cases h : asSet (db k) with
  | ok ms =>
    simp only [bind, Except.bind, pure, Except.pure, Except.ok.injEq, Prod.mk.injEq, and_true]
    simp [eq_comm]
  | error e => simp [bind, Except.bind]

theorem mem_members_of_sadd {k : K} {member : String} {db db' : Keyspace K} {u : Unit}
    (h : sadd k member db = .ok u db') (m : String) :
    m ∈ members db' k ↔ m = member ∨ m ∈ members db k := by
  obtain ⟨ms, hMs, rfl⟩ := (sadd_ok_iff _ _ _ _ _).mp h
  rw [members_of_asSet hMs, members, Function.update_self]
  by_cases hMem : member ∈ ms
  · rw [if_pos hMem]
    exact ⟨.inr, fun h => h.elim (fun e => e ▸ hMem) id⟩
  · rw [if_neg hMem, List.mem_append, List.mem_singleton, or_comm]

theorem members_ofSet {db : Keyspace K} {k : K} (ms : List String) :
    members (Function.update db k (ofSet ms)) k = ms :=
  members_of_asSet (by rw [Function.update_self, asSet_ofSet])

theorem mem_members_of_srem {k : K} {member : String} {db db' : Keyspace K} {u : Unit}
    (h : srem k member db = .ok u db') (m : String) :
    m ∈ members db' k ↔ m ≠ member ∧ m ∈ members db k := by
  obtain ⟨ms, hMs, rfl⟩ := (srem_ok_iff _ _ _ _ _).mp h
  rw [members_of_asSet hMs, members_ofSet, List.mem_filter, decide_eq_true_eq, and_comm]

theorem spop_ok_iff (random : List String → Nat) (k : K) (db db' : Keyspace K)
    (popped : Option String) :
    spop random k db = .ok popped db' ↔
      ∃ ms, asSet (db k) = .ok ms ∧ popped = ms[random ms % ms.length]? ∧
        db' = Function.update db k (ofSet (ms.filter fun m => some m ≠ popped)) := by
  unfold spop
  rw [rewriteKey_ok_iff]
  cases h : asSet (db k) with
  | ok ms =>
    simp only [bind, Except.bind, pure, Except.pure, Except.ok.injEq, Prod.mk.injEq]
    constructor
    · rintro ⟨v, ⟨rfl, rfl⟩, rfl⟩
      exact ⟨ms, rfl, rfl, rfl⟩
    · rintro ⟨_, rfl, rfl, rfl⟩
      exact ⟨_, ⟨rfl, rfl⟩, rfl⟩
  | error e => simp [bind, Except.bind]

theorem rename_ok_iff (k k' : K) (db db' : Keyspace K) (u : Unit) :
    rename k k' db = .ok u db' ↔
      ∃ v, db k = some v ∧ db' = Function.update (Function.update db k none) k' (some v) := by
  unfold rename
  cases db k with
  | none => simp
  | some v => simp [eq_comm]

theorem rewriteKey_other {k k' : K} (hk : k' ≠ k)
    {f : Option Value → Except RedisError (Option Value × α)} {db db' : Keyspace K} {a : α}
    (h : rewriteKey k f db = .ok a db') : db' k' = db k' := by
  obtain ⟨v, -, rfl⟩ := (rewriteKey_ok_iff _ _ _ _ _).mp h
  exact Function.update_of_ne hk _ _

theorem hset_other {k k' : K} (hk : k' ≠ k) {pairs : Fields} {db db' : Keyspace K} {u : Unit}
    (h : hset k pairs db = .ok u db') : db' k' = db k' := by
  obtain ⟨fields, -, rfl⟩ := (hmset_ok_iff _ _ _ _ _).mp h
  exact Function.update_of_ne hk _ _

end AffinidiMessaging.Redis
