import AffinidiMessaging.Library.JsonValue

/-! # Types with a JSON form

A wire is how the values of a type are written as trees and read from trees. A value that fits is read back as it
was. The trees have no floats and a bounded nesting, so that their texts are read back as well.
-/

namespace AffinidiMessaging.Serde

structure Wire (α : Type) where
  write : α → Json
  read : Json → Option α
  Fits : α → Prop
  depth : Nat
  read_write : ∀ a, Fits a → read (write a) = some a
  floatless_write : ∀ a, (write a).floatless = true
  depth_write : ∀ a, (write a).depth ≤ depth

/-- A tree that is written to a text and read from it without a change, if the nesting that is read is the bound. -/
def Json.Plain (limit : Nat) (j : Json) : Prop := j.floatless = true ∧ j.depth ≤ limit

namespace Wire

variable {α β : Type}

theorem plain_write (w : Wire α) (a : α) {limit : Nat} (h : w.depth ≤ limit) : (w.write a).Plain limit :=
  ⟨w.floatless_write a, (w.depth_write a).trans h⟩

def string : Wire String where
  write := .str
  read := Json.asStr
  Fits _ := True
  depth := 0
  read_write _ _ := rfl
  floatless_write _ := rfl
  depth_write _ := le_rfl

def bool : Wire Bool where
  write := .bool
  read
    | .bool b => some b
    | _ => none
  Fits _ := True
  depth := 0
  read_write _ _ := rfl
  floatless_write _ := rfl
  depth_write _ := le_rfl

/-- An unsigned integer of some width. -/
def unsigned (bits : Fin 65) : Wire Nat where
  write n := .num (.posInt (UInt64.ofNat n))
  read j := (u64 j).bind fun n => if n.toNat < 2 ^ bits.val then some n.toNat else none
  Fits n := n < 2 ^ bits.val
  depth := 0
  read_write n h := by
    have hSmall : n < 2 ^ 64 := lt_of_lt_of_le h (Nat.pow_le_pow_right (by decide) (Nat.le_of_lt_succ bits.isLt))
    have hNat : (UInt64.ofNat n).toNat = n := UInt64.toNat_ofNat_of_lt' hSmall
    rw [u64, Option.bind_some, hNat, if_pos h]
  floatless_write _ := rfl
  depth_write _ := le_rfl

/-- A signed integer of 32 bits. -/
def i32 : Wire Int where
  write
    | .ofNat n => .num (.posInt (UInt64.ofNat n))
    | .negSucc n => .num (.negInt (Fin.ofNat (2 ^ 63) n))
  read
    | .num (.posInt n) => if n.toNat < 2 ^ 31 then some (.ofNat n.toNat) else none
    | .num (.negInt n) => if n.val < 2 ^ 31 then some (.negSucc n.val) else none
    | _ => none
  Fits
    | .ofNat n => n < 2 ^ 31
    | .negSucc n => n < 2 ^ 31
  depth := 0
  read_write i h := by
    cases i with
    | ofNat n =>
      have hNat : (UInt64.ofNat n).toNat = n := UInt64.toNat_ofNat_of_lt' (lt_trans h (by decide))
      dsimp only at h ⊢
      rw [hNat, if_pos h]
    | negSucc n =>
      have hNat : (Fin.ofNat (2 ^ 63) n).val = n := Nat.mod_eq_of_lt (lt_trans h (by decide))
      dsimp only at h ⊢
      rw [hNat, if_pos h]
  floatless_write i := by cases i <;> rfl
  depth_write i := by cases i <;> exact le_rfl

theorem floatlessItems_map {write : α → Json} (h : ∀ a, (write a).floatless = true) (l : List α) :
    floatlessItems (l.map write) = true := by
  induction l with
  | nil => rfl
  | cons a rest ih => rw [List.map_cons, floatlessItems, h, ih, Bool.and_self]

theorem mapM_map {w : Wire α} {l : List α} (h : ∀ a ∈ l, w.Fits a) : (l.map w.write).mapM w.read = some l := by
  induction l with
  | nil => rfl
  | cons a rest ih =>
    rw [List.forall_mem_cons] at h
    rw [List.map_cons, List.mapM_cons, w.read_write a h.1, ih h.2]
    rfl

/-- An array of any length. -/
def list (w : Wire α) : Wire (List α) where
  write l := .arr (l.map w.write)
  read := Serde.list w.read
  Fits l := ∀ a ∈ l, w.Fits a
  depth := w.depth + 1
  read_write _ h := mapM_map h
  floatless_write l := floatlessItems_map w.floatless_write l
  depth_write l := by
    refine depth_arr_le.mpr fun j hj => ?_
    obtain ⟨a, -, rfl⟩ := List.mem_map.mp hj
    exact w.depth_write a

/-- A pair as an array of two. -/
def pair (w : Wire α) (w' : Wire β) : Wire (α × β) where
  write p := .arr [w.write p.1, w'.write p.2]
  read
    | .arr [j, j'] => do return (← w.read j, ← w'.read j')
    | _ => none
  Fits p := w.Fits p.1 ∧ w'.Fits p.2
  depth := max w.depth w'.depth + 1
  read_write p h := by
    dsimp only
    rw [w.read_write _ h.1, w'.read_write _ h.2]
    rfl
  floatless_write p := by
    change floatlessItems [_, _] = true
    rw [floatlessItems, floatlessItems, floatlessItems, w.floatless_write, w'.floatless_write]
    rfl
  depth_write p := by
    refine depth_arr_le.mpr ?_
    rw [List.forall_mem_cons, List.forall_mem_singleton]
    exact ⟨(w.depth_write _).trans (le_max_left _ _), (w'.depth_write _).trans (le_max_right _ _)⟩

/-! ## Records -/

/-- The entries of an object; a field without a value is skipped. -/
def entries (fields : List (String × Option Json)) : List (String × Json) :=
  fields.filterMap fun p => p.2.map fun j => (p.1, j)

section
variable {fields : List (String × Option Json)}

theorem entries_cons (name : String) (o : Option Json) (rest : List (String × Option Json)) :
    entries ((name, o) :: rest) = (o.map fun j => (name, j)).toList ++ entries rest := by
  cases o <;> rfl

theorem mem_entries {p : String × Json} : p ∈ entries fields ↔ (p.1, some p.2) ∈ fields := by
  rw [entries, List.mem_filterMap]
  constructor
  · rintro ⟨⟨name, o⟩, hMem, hSome⟩
    obtain ⟨j, rfl, rfl⟩ := Option.map_eq_some_iff.mp hSome
    exact hMem
  · exact fun hMem => ⟨_, hMem, rfl⟩

theorem names_entries (fields : List (String × Option Json)) :
    ((entries fields).map Prod.fst).Sublist (fields.map Prod.fst) := by
  induction fields with
  | nil => exact .slnil
  | cons p rest ih =>
    obtain ⟨name, o⟩ := p
    rw [entries_cons, List.map_append, List.map_cons]
    cases o with
    | none => exact ih.cons name
    | some j => exact ih.cons_cons name

theorem lookup_entries (h : (fields.map Prod.fst).Nodup) (name : String) :
    (entries fields).lookup name = (fields.lookup name).join := by
  induction fields with
  | nil => rfl
  | cons p rest ih =>
    obtain ⟨key, o⟩ := p
    rw [List.map_cons, List.nodup_cons] at h
    rw [entries_cons, List.lookup_cons]
    by_cases hName : name = key
    · subst hName
      rw [beq_self_eq_true]
      cases o with
      | some j => simp
      | none =>
        -- no later field has the name
        have hNone : (entries rest).lookup name = none := by
          rw [List.lookup_eq_none_iff]
          intro q hq
          rw [bne_iff_ne]
          rintro rfl
          exact h.1 (List.mem_map.mpr ⟨_, mem_entries.mp hq, rfl⟩)
        simpa using hNone
    · rw [beq_eq_false_iff_ne.mpr hName]
      cases o with
      | none => exact ih h.2
      | some j =>
        rw [Option.map_some, Option.toList_some, List.singleton_append, List.lookup_cons, beq_eq_false_iff_ne.mpr hName]
        exact ih h.2

theorem record_entries (h : (fields.map Prod.fst).Nodup) :
    record (fields.map Prod.fst) (.obj (entries fields)) = some fun name => (fields.lookup name).join := by
  have hOnce : ((fields.map Prod.fst).all fun n => ((entries fields).filter (·.1 == n)).length ≤ 1) = true := by
    rw [List.all_eq_true]
    intro name _
    have hNodup := h.sublist (names_entries fields)
    have hCount : ((entries fields).map Prod.fst).count name ≤ 1 := List.nodup_iff_count_le_one.mp hNodup name
    rw [List.count, List.countP_map, List.countP_eq_length_filter] at hCount
    exact decide_eq_true hCount
  rw [record, if_pos hOnce]
  exact congrArg some (funext (lookup_entries h))

end

theorem optional_some (w : Wire α) {a : α} (hFits : w.Fits a) (hValue : w.write a ≠ .null) :
    optional w.read (some (w.write a)) = some (some a) := by
  have hRead := w.read_write a hFits
  generalize w.write a = j at hRead hValue
  cases j with
  | null => exact absurd rfl hValue
  | _ => exact congrArg (Option.map some) hRead

/-- An option, as null when there is no value. -/
def option (w : Wire α) : Wire (Option α) where
  write o := o.elim .null w.write
  read j := optional w.read (some j)
  Fits o := ∀ a ∈ o, w.Fits a ∧ w.write a ≠ .null
  depth := w.depth
  read_write o h := by
    cases o with
    | none => rfl
    | some a => exact w.optional_some (h a rfl).1 (h a rfl).2
  floatless_write o := by
    cases o with
    | none => rfl
    | some a => exact w.floatless_write a
  depth_write o := by
    cases o with
    | none => exact Nat.zero_le _
    | some a => exact w.depth_write a

theorem optional_map (w : Wire α) {o : Option α} (h : ∀ a ∈ o, w.Fits a ∧ w.write a ≠ .null) :
    optional w.read (o.map w.write) = some o := by
  cases o with
  | none => rfl
  | some a => exact w.optional_some (h a rfl).1 (h a rfl).2

theorem plain_some (w : Wire α) (a : α) {limit : Nat} (h : w.depth ≤ limit) :
    ∀ j ∈ some (w.write a), j.Plain limit := by
  intro j hj
  cases hj
  exact w.plain_write a h

theorem plain_map (w : Wire α) (o : Option α) {limit : Nat} (h : w.depth ≤ limit) :
    ∀ j ∈ o.map w.write, j.Plain limit := by
  intro j hj
  obtain ⟨a, -, rfl⟩ := Option.map_eq_some_iff.mp hj
  exact w.plain_write a h

/-- A struct: its fields by name, and how the struct is made of what is read of each. -/
structure Fields (α : Type) where
  names : List String
  fields : α → List (String × Option Json)
  get : (String → Option Json) → Option α
  Fits : α → Prop
  depth : Nat
  names_fields : ∀ a, (fields a).map Prod.fst = names
  nodup : names.Nodup
  get_fields : ∀ a, Fits a → get (fun name => ((fields a).lookup name).join) = some a
  plain : ∀ a, ∀ p ∈ fields a, ∀ j ∈ p.2, j.Plain depth

/-- A struct as an object. -/
def object (f : Fields α) : Wire α where
  write a := .obj (entries (f.fields a))
  read j := (record f.names j).bind f.get
  Fits := f.Fits
  depth := f.depth + 1
  read_write a h := by
    have hRecord := @record_entries (f.fields a) (by rw [f.names_fields]; exact f.nodup)
    rw [f.names_fields] at hRecord
    rw [hRecord, Option.bind_some, f.get_fields a h]
  floatless_write a := by
    refine floatlessFields_iff.mpr fun p hp => ?_
    exact (f.plain a _ (mem_entries.mp hp) p.2 rfl).1
  depth_write a := by
    refine depth_obj_le.mpr fun p hp => ?_
    exact (f.plain a _ (mem_entries.mp hp) p.2 rfl).2

end Wire

end AffinidiMessaging.Serde
