import AffinidiMessaging.Library.Serde

/-! # Trees as values

A value is a tree whose objects are sorted maps: reading one as a value changes nothing. A text
gives back the tree it was written from, up to the precision of floats.
-/

namespace AffinidiMessaging.Serde

/-- A `Value`: its objects are maps. -/
structure Value where
  json : Json
  canonical : json.toValue = json

/-- The entries of a map: no key twice, in the order of the keys. -/
def Sorted {α : Type} (fields : List (String × α)) : Prop := fields.Pairwise fun p q => p.1 < q.1

section
variable {α : Type} {k : String} {v : α} {fields : List (String × α)}

theorem mem_insertField {p : String × α} (h : p ∈ insertField k v fields) : p = (k, v) ∨ p ∈ fields := by
  induction fields with
  | nil => exact .inl (List.mem_singleton.mp h)
  | cons q rest ih =>
    rw [insertField] at h
    split at h
    · exact (List.mem_cons.mp h).imp_right (List.mem_cons_of_mem _)
    split at h
    · exact List.mem_cons.mp h
    · rcases List.mem_cons.mp h with rfl | hRest
      · exact .inr List.mem_cons_self
      · exact (ih hRest).imp_right (List.mem_cons_of_mem _)

theorem sorted_insertField (h : Sorted fields) (k : String) (v : α) : Sorted (insertField k v fields) := by
  induction fields with
  | nil => exact List.pairwise_singleton _ _
  | cons q rest ih =>
    obtain ⟨hFirst, hRest⟩ := List.pairwise_cons.mp h
    rw [insertField]
    split
    · rename_i hEq
      subst hEq
      exact List.pairwise_cons.mpr ⟨hFirst, hRest⟩
    split
    · rename_i hLess
      refine List.pairwise_cons.mpr ⟨fun p hp => ?_, h⟩
      rcases List.mem_cons.mp hp with rfl | hp
      · exact hLess
      · exact lt_trans hLess (hFirst p hp)
    · rename_i hNe hNotLess
      refine List.pairwise_cons.mpr ⟨fun p hp => ?_, ih hRest⟩
      rcases mem_insertField hp with rfl | hp
      · exact lt_of_le_of_ne (not_lt.mp hNotLess) (Ne.symm hNe)
      · exact hFirst p hp

theorem insertField_of_lt (h : ∀ p ∈ fields, p.1 < k) : insertField k v fields = fields ++ [(k, v)] := by
  induction fields with
  | nil => rfl
  | cons q rest ih =>
    have hLess := h q List.mem_cons_self
    rw [insertField, if_neg (ne_of_gt hLess), if_neg (lt_asymm hLess),
      ih fun p hp => h p (List.mem_cons_of_mem _ hp)]
    rfl

end

theorem toValue_str (s : String) : (Json.str s).toValue = .str s := rfl

theorem toValue_obj (fields : List (String × Json)) : (Json.obj fields).toValue = .obj (toMap [] fields) := rfl

theorem toValue_arr (items : List Json) : (Json.arr items).toValue = .arr (toValues items) := rfl

theorem toMap_nil (acc : List (String × Json)) : toMap acc [] = acc := rfl

theorem toMap_cons (acc : List (String × Json)) (k : String) (v : Json) (rest : List (String × Json)) :
    toMap acc ((k, v) :: rest) = toMap (insertField k v.toValue acc) rest := rfl

theorem toValues_map {α : Type} (write : α → Json) (items : List α) :
    toValues (items.map write) = items.map fun a => (write a).toValue := by
  induction items with
  | nil => rfl
  | cons a rest ih => rw [List.map_cons, toValues, ih, List.map_cons]

theorem sorted_toMap {acc : List (String × Json)} (h : Sorted acc) (fields : List (String × Json)) :
    Sorted (toMap acc fields) := by
  induction fields generalizing acc with
  | nil => exact h
  | cons p rest ih => exact ih (sorted_insertField h p.1 p.2.toValue)

theorem mem_toMap {acc fields : List (String × Json)} {p : String × Json} (h : p ∈ toMap acc fields) :
    p ∈ acc ∨ ∃ q ∈ fields, p = (q.1, q.2.toValue) := by
  induction fields generalizing acc with
  | nil => exact .inl h
  | cons q rest ih =>
    rcases ih h with hAcc | ⟨r, hr, rfl⟩
    · rcases mem_insertField hAcc with rfl | hAcc
      · exact .inr ⟨q, List.mem_cons_self, rfl⟩
      · exact .inl hAcc
    · exact .inr ⟨r, List.mem_cons_of_mem _ hr, rfl⟩

theorem toMap_of_sorted {acc fields : List (String × Json)} (h : Sorted (acc ++ fields))
    (hValues : ∀ p ∈ fields, p.2.toValue = p.2) : toMap acc fields = acc ++ fields := by
  induction fields generalizing acc with
  | nil => exact (List.append_nil acc).symm
  | cons p rest ih =>
    have hLess : ∀ q ∈ acc, q.1 < p.1 := fun q hq =>
      (List.pairwise_append.mp h).2.2 q hq p List.mem_cons_self
    have hAssoc : acc ++ p :: rest = (acc ++ [(p.1, p.2)]) ++ rest := by simp
    rw [hAssoc] at h
    rw [toMap, hValues p List.mem_cons_self, insertField_of_lt hLess,
      ih h fun q hq => hValues q (List.mem_cons_of_mem _ hq), hAssoc]

mutual
theorem toValue_toValue (j : Json) : j.toValue.toValue = j.toValue := by
  match j with
  | .null => rfl
  | .bool b => rfl
  | .num n => rfl
  | .str s => rfl
  | .arr items =>
    simp only [Json.toValue]
    rw [toValues_toValues items]
  | .obj fields =>
    simp only [Json.toValue]
    rw [toMap_of_sorted]
    · rfl
    · exact sorted_toMap List.Pairwise.nil fields
    · intro p hp
      rcases mem_toMap hp with hNone | ⟨q, hq, rfl⟩
      · cases hNone
      · exact field_toValue fields q hq

theorem toValues_toValues (items : List Json) : toValues (toValues items) = toValues items := by
  match items with
  | [] => rfl
  | j :: rest => rw [toValues, toValues, toValue_toValue j, toValues_toValues rest]

theorem field_toValue (fields : List (String × Json)) :
    ∀ p ∈ fields, p.2.toValue.toValue = p.2.toValue := by
  match fields with
  | [] => simp
  | (k, v) :: rest =>
    rw [List.forall_mem_cons]
    exact ⟨toValue_toValue v, field_toValue rest⟩
end

mutual
/-- The tree with all floats alike. -/
def Json.eraseFloats : Json → Json
  | .num (.float ..) => .num (.float 0 0)
  | .arr items => .arr (eraseItems items)
  | .obj fields => .obj (eraseFields fields)
  | j => j

def eraseItems : List Json → List Json
  | [] => []
  | j :: rest => j.eraseFloats :: eraseItems rest

def eraseFields : List (String × Json) → List (String × Json)
  | [] => []
  | (k, v) :: rest => (k, v.eraseFloats) :: eraseFields rest
end

mutual
def Json.floatless : Json → Bool
  | .num (.float ..) => false
  | .arr items => floatlessItems items
  | .obj fields => floatlessFields fields
  | _ => true

def floatlessItems : List Json → Bool
  | [] => true
  | j :: rest => j.floatless && floatlessItems rest

def floatlessFields : List (String × Json) → Bool
  | [] => true
  | (_, v) :: rest => v.floatless && floatlessFields rest
end

theorem floatlessFields_iff {fields : List (String × Json)} :
    floatlessFields fields = true ↔ ∀ p ∈ fields, p.2.floatless = true := by
  induction fields with
  | nil => simp [floatlessFields]
  | cons p rest ih => rw [floatlessFields, Bool.and_eq_true, ih, List.forall_mem_cons]

theorem eraseFields_eq_map (fields : List (String × Json)) :
    eraseFields fields = fields.map fun p => (p.1, p.2.eraseFloats) := by
  induction fields with
  | nil => rfl
  | cons p rest ih => rw [eraseFields, ih, List.map_cons]

theorem lookup_eraseFields (name : String) (fields : List (String × Json)) :
    (eraseFields fields).lookup name = (fields.lookup name).map Json.eraseFloats := by
  induction fields with
  | nil => rfl
  | cons p rest ih =>
    obtain ⟨k, v⟩ := p
    rw [eraseFields, List.lookup_cons, List.lookup_cons, ih]
    split <;> rfl

mutual
theorem eq_of_eraseFloats (j : Json) (hFloatless : j.floatless = true) {j' : Json}
    (h : j'.eraseFloats = j.eraseFloats) : j' = j := by
  match j with
  | .null => cases j' with
    | num n => cases n <;> simp [Json.eraseFloats] at h
    | null => rfl
    | _ => simp [Json.eraseFloats] at h
  | .bool b => cases j' with
    | num n => cases n <;> simp [Json.eraseFloats] at h
    | bool b' => simpa [Json.eraseFloats] using h
    | _ => simp [Json.eraseFloats] at h
  | .str s => cases j' with
    | num n => cases n <;> simp [Json.eraseFloats] at h
    | str s' => simpa [Json.eraseFloats] using h
    | _ => simp [Json.eraseFloats] at h
  | .num (.posInt n) => cases j' with
    | num n' => cases n' <;> simp_all [Json.eraseFloats]
    | _ => simp [Json.eraseFloats] at h
  | .num (.negInt n) => cases j' with
    | num n' => cases n' <;> simp_all [Json.eraseFloats]
    | _ => simp [Json.eraseFloats] at h
  | .num (.float m e) => cases hFloatless
  | .arr items => cases j' with
    | num n => cases n <;> simp [Json.eraseFloats] at h
    | arr items' =>
      simp only [Json.eraseFloats, Json.arr.injEq] at h
      rw [eq_of_eraseItems items hFloatless h]
    | _ => simp [Json.eraseFloats] at h
  | .obj fields => cases j' with
    | num n => cases n <;> simp [Json.eraseFloats] at h
    | obj fields' =>
      simp only [Json.eraseFloats, Json.obj.injEq] at h
      rw [eq_of_eraseFields fields hFloatless h]
    | _ => simp [Json.eraseFloats] at h

theorem eq_of_eraseItems (items : List Json) (hFloatless : floatlessItems items = true)
    {items' : List Json} (h : eraseItems items' = eraseItems items) : items' = items := by
  match items with
  | [] => cases items' with
    | nil => rfl
    | cons j' rest' => cases h
  | j :: rest => cases items' with
    | nil => cases h
    | cons j' rest' =>
      rw [floatlessItems, Bool.and_eq_true] at hFloatless
      obtain ⟨hFirst, hRest⟩ := List.cons.inj h
      rw [eq_of_eraseFloats j hFloatless.1 hFirst, eq_of_eraseItems rest hFloatless.2 hRest]

theorem eq_of_eraseFields (fields : List (String × Json)) (hFloatless : floatlessFields fields = true)
    {fields' : List (String × Json)} (h : eraseFields fields' = eraseFields fields) : fields' = fields := by
  match fields with
  | [] => cases fields' with
    | nil => rfl
    | cons p' rest' => cases h
  | (k, v) :: rest => cases fields' with
    | nil => cases h
    | cons p' rest' =>
      rw [floatlessFields, Bool.and_eq_true] at hFloatless
      obtain ⟨hFirst, hRest⟩ := List.cons.inj h
      obtain ⟨hKey, hValue⟩ := Prod.mk.inj hFirst
      rw [eq_of_eraseFields rest hFloatless.2 hRest, ← hKey, ← eq_of_eraseFloats v hFloatless.1 hValue]
end

mutual
theorem floatless_toValue (j : Json) (h : j.floatless = true) : j.toValue.floatless = true := by
  match j with
  | .null => rfl
  | .bool b => rfl
  | .num n => exact h
  | .str s => rfl
  | .arr items => exact floatless_toValues items h
  | .obj fields =>
    rw [Json.toValue, Json.floatless, floatlessFields_iff]
    intro p hp
    rcases mem_toMap hp with hNone | ⟨q, hq, rfl⟩
    · cases hNone
    · exact floatless_field fields h q hq

theorem floatless_toValues (items : List Json) (h : floatlessItems items = true) :
    floatlessItems (toValues items) = true := by
  match items with
  | [] => rfl
  | j :: rest =>
    rw [floatlessItems, Bool.and_eq_true] at h
    rw [toValues, floatlessItems, floatless_toValue j h.1, floatless_toValues rest h.2]
    rfl

theorem floatless_field (fields : List (String × Json)) (h : floatlessFields fields = true) :
    ∀ p ∈ fields, p.2.toValue.floatless = true := by
  match fields with
  | [] => simp
  | (k, v) :: rest =>
    rw [floatlessFields, Bool.and_eq_true] at h
    rw [List.forall_mem_cons]
    exact ⟨floatless_toValue v h.1, floatless_field rest h.2⟩
end

theorem lookup_map_snd {α β : Type} (f : α → β) (name : String) (fields : List (String × α)) :
    (fields.map fun p => (p.1, f p.2)).lookup name = (fields.lookup name).map f := by
  induction fields with
  | nil => rfl
  | cons p rest ih =>
    rw [List.map_cons, List.lookup_cons, List.lookup_cons]
    cases name == p.1 with
    | true => rfl
    | false => exact ih

theorem eraseItems_eq_map (items : List Json) : eraseItems items = items.map Json.eraseFloats := by
  induction items with
  | nil => rfl
  | cons j rest ih => rw [eraseItems, ih, List.map_cons]

theorem record_eraseFloats (names : List String) (j : Json) : record names j.eraseFloats =
    (record names j).map fun get n => (get n).map Json.eraseFloats := by
  cases j with
  | obj fields =>
    simp only [Json.eraseFloats, record, lookup_eraseFields]
    have hCount : ∀ n, ((eraseFields fields).filter (·.1 == n)).length = (fields.filter (·.1 == n)).length := by
      intro n
      rw [eraseFields_eq_map, List.filter_map, List.length_map]
      rfl
    simp only [hCount]
    split <;> rfl
  | arr items =>
    have hZip : names.zip (items.map Json.eraseFloats) =
        (names.zip items).map fun p => (p.1, p.2.eraseFloats) := List.zip_map_right
    simp only [Json.eraseFloats, record, eraseItems_eq_map, List.length_map, hZip, lookup_map_snd]
    split <;> rfl
  | num n => cases n <;> rfl
  | _ => rfl

/-- It reads nothing of a float. -/
def FloatBlind {α : Type} (read : Json → Option α) : Prop := ∀ j : Json, read j.eraseFloats = read j

section
variable {α : Type} {read : Json → Option α}

theorem floatBlind_asStr : FloatBlind Json.asStr := by
  intro j
  cases j with
  | num n => cases n <;> rfl
  | _ => rfl

theorem FloatBlind.required (h : FloatBlind read) (o : Option Json) :
    required read (o.map Json.eraseFloats) = required read o := by
  cases o with
  | none => rfl
  | some j => exact h j

theorem FloatBlind.list (h : FloatBlind read) : FloatBlind (list read) := by
  intro j
  cases j with
  | arr items =>
    have hRead : read ∘ Json.eraseFloats = read := funext h
    simp only [Json.eraseFloats, Serde.list, eraseItems_eq_map, List.mapM_map, hRead]
  | num n => cases n <;> rfl
  | _ => rfl

end

theorem record_agree {names : List String} {fields fields' : List (String × Json)}
    (hFilter : ∀ n ∈ names, fields.filter (·.1 == n) = fields'.filter (·.1 == n))
    (hLookup : ∀ n ∈ names, fields.lookup n = fields'.lookup n) :
    (record names (.obj fields) = none ∧ record names (.obj fields') = none) ∨
      ∃ get get', record names (.obj fields) = some get ∧ record names (.obj fields') = some get' ∧
        ∀ n ∈ names, get n = get' n := by
  have hOnce : (names.all fun n => decide ((fields.filter (·.1 == n)).length ≤ 1)) =
      names.all fun n => decide ((fields'.filter (·.1 == n)).length ≤ 1) := by
    rw [Bool.eq_iff_iff, List.all_eq_true, List.all_eq_true]
    exact forall₂_congr fun n hn => by rw [hFilter n hn]
  rw [record, record, hOnce]
  split
  · exact .inr ⟨_, _, rfl, rfl, hLookup⟩
  · exact .inl ⟨rfl, rfl⟩

mutual
/-- The tree with other floats. -/
def Json.mapFloats (f : Int → Int → Int × Int) : Json → Json
  | .num (.float mantissa exponent) =>
    .num (.float (f mantissa exponent).1 (f mantissa exponent).2)
  | .arr items => .arr (mapFloatItems f items)
  | .obj fields => .obj (mapFloatFields f fields)
  | j => j

def mapFloatItems (f : Int → Int → Int × Int) : List Json → List Json
  | [] => []
  | j :: rest => j.mapFloats f :: mapFloatItems f rest

def mapFloatFields (f : Int → Int → Int × Int) : List (String × Json) → List (String × Json)
  | [] => []
  | (k, v) :: rest => (k, v.mapFloats f) :: mapFloatFields f rest
end

section
variable (f : Int → Int → Int × Int)

theorem mapFloatItems_eq_map (items : List Json) : mapFloatItems f items = items.map (Json.mapFloats f) := by
  induction items with
  | nil => rfl
  | cons j rest ih => rw [mapFloatItems, ih, List.map_cons]

theorem mapFloatFields_eq_map (fields : List (String × Json)) :
    mapFloatFields f fields = fields.map fun p => (p.1, p.2.mapFloats f) := by
  induction fields with
  | nil => rfl
  | cons p rest ih => rw [mapFloatFields, ih, List.map_cons]

theorem mapFloatFields_append (fields fields' : List (String × Json)) :
    mapFloatFields f (fields ++ fields') = mapFloatFields f fields ++ mapFloatFields f fields' := by
  simp only [mapFloatFields_eq_map, List.map_append]

theorem eraseFloats_mapFloats (j : Json) : (j.mapFloats f).eraseFloats = j.eraseFloats := by
  match j with
  | .null => rfl
  | .bool b => rfl
  | .num n => cases n <;> rfl
  | .str s => rfl
  | .arr items => simp only [Json.mapFloats, Json.eraseFloats, eraseItems_mapFloats items]
  | .obj fields => simp only [Json.mapFloats, Json.eraseFloats, eraseFields_mapFloats fields]
where
  eraseItems_mapFloats (items : List Json) : eraseItems (mapFloatItems f items) = eraseItems items := by
    match items with
    | [] => rfl
    | j :: rest => rw [mapFloatItems, eraseItems, eraseFloats_mapFloats j, eraseItems_mapFloats rest, eraseItems]
  eraseFields_mapFloats (fields : List (String × Json)) :
      eraseFields (mapFloatFields f fields) = eraseFields fields := by
    match fields with
    | [] => rfl
    | (k, v) :: rest =>
      rw [mapFloatFields, eraseFields, eraseFloats_mapFloats v, eraseFields_mapFloats rest, eraseFields]

theorem mapFloatFields_insertField (k : String) (v : Json) (fields : List (String × Json)) :
    mapFloatFields f (insertField k v fields) = insertField k (v.mapFloats f) (mapFloatFields f fields) := by
  induction fields with
  | nil => rfl
  | cons p rest ih =>
    rw [insertField, mapFloatFields, insertField]
    split
    · rfl
    · split
      · rfl
      · rw [mapFloatFields, ih]

theorem toValue_mapFloats (j : Json) : (j.mapFloats f).toValue = j.toValue.mapFloats f := by
  match j with
  | .null => rfl
  | .bool b => rfl
  | .num n => cases n <;> rfl
  | .str s => rfl
  | .arr items => simp only [Json.mapFloats, Json.toValue, toValues_mapFloats items]
  | .obj fields =>
    have hMap := toMap_mapFloats [] fields
    simp only [Json.mapFloats, Json.toValue]
    exact congrArg Json.obj hMap
where
  toValues_mapFloats (items : List Json) : toValues (mapFloatItems f items) = mapFloatItems f (toValues items) := by
    match items with
    | [] => rfl
    | j :: rest => rw [mapFloatItems, toValues, toValue_mapFloats j, toValues_mapFloats rest, toValues, mapFloatItems]
  toMap_mapFloats (acc fields : List (String × Json)) :
      toMap (mapFloatFields f acc) (mapFloatFields f fields) = mapFloatFields f (toMap acc fields) := by
    match fields with
    | [] => rfl
    | (k, v) :: rest =>
      rw [mapFloatFields, toMap, toMap, toValue_mapFloats v, ← mapFloatFields_insertField, toMap_mapFloats _ rest]

theorem sorted_mapFloatFields {fields : List (String × Json)} (h : Sorted fields) :
    Sorted (mapFloatFields f fields) := by
  rw [mapFloatFields_eq_map]
  exact List.pairwise_map.mpr h

theorem mem_mapFloatFields {fields : List (String × Json)} {p : String × Json} :
    p ∈ mapFloatFields f fields ↔ ∃ q ∈ fields, (q.1, q.2.mapFloats f) = p := by
  rw [mapFloatFields_eq_map, List.mem_map]

end

theorem mapFloats_mk (j : Json) : j.mapFloats Prod.mk = j := by
  match j with
  | .null => rfl
  | .bool b => rfl
  | .num n => cases n <;> rfl
  | .str s => rfl
  | .arr items => rw [Json.mapFloats, items_mk items]
  | .obj fields => rw [Json.mapFloats, fields_mk fields]
where
  items_mk (items : List Json) : mapFloatItems Prod.mk items = items := by
    match items with
    | [] => rfl
    | j :: rest => rw [mapFloatItems, mapFloats_mk j, items_mk rest]
  fields_mk (fields : List (String × Json)) : mapFloatFields Prod.mk fields = fields := by
    match fields with
    | [] => rfl
    | (k, v) :: rest => rw [mapFloatFields, mapFloats_mk v, fields_mk rest]

mutual
/-- How deep arrays and objects are nested. -/
def Json.depth : Json → Nat
  | .arr items => itemsDepth items + 1
  | .obj fields => fieldsDepth fields + 1
  | _ => 0

def itemsDepth : List Json → Nat
  | [] => 0
  | j :: rest => max j.depth (itemsDepth rest)

def fieldsDepth : List (String × Json) → Nat
  | [] => 0
  | (_, v) :: rest => max v.depth (fieldsDepth rest)
end

theorem fieldsDepth_append (fields fields' : List (String × Json)) :
    fieldsDepth (fields ++ fields') = max (fieldsDepth fields) (fieldsDepth fields') := by
  induction fields with
  | nil => simp [fieldsDepth]
  | cons p rest ih => rw [List.cons_append, fieldsDepth, fieldsDepth, ih, max_assoc]

section
variable {limit : Nat}

theorem itemsDepth_le {items : List Json} : itemsDepth items ≤ limit ↔ ∀ j ∈ items, j.depth ≤ limit := by
  induction items with
  | nil => simp [itemsDepth]
  | cons j rest ih => rw [itemsDepth, max_le_iff, ih, List.forall_mem_cons]

theorem fieldsDepth_le {fields : List (String × Json)} :
    fieldsDepth fields ≤ limit ↔ ∀ p ∈ fields, p.2.depth ≤ limit := by
  induction fields with
  | nil => simp [fieldsDepth]
  | cons p rest ih => rw [fieldsDepth, max_le_iff, ih, List.forall_mem_cons]

theorem depth_arr_le {items : List Json} : (Json.arr items).depth ≤ limit + 1 ↔ ∀ j ∈ items, j.depth ≤ limit := by
  rw [Json.depth, Nat.add_le_add_iff_right, itemsDepth_le]

theorem depth_obj_le {fields : List (String × Json)} :
    (Json.obj fields).depth ≤ limit + 1 ↔ ∀ p ∈ fields, p.2.depth ≤ limit := by
  rw [Json.depth, Nat.add_le_add_iff_right, fieldsDepth_le]

end

theorem depth_toValue_le (j : Json) {limit : Nat} (h : j.depth ≤ limit) : j.toValue.depth ≤ limit := by
  match j, limit with
  | .null, _ => exact h
  | .bool b, _ => exact h
  | .num n, _ => exact h
  | .str s, _ => exact h
  | .arr items, 0 => exact absurd h (Nat.not_succ_le_zero _)
  | .arr items, limit + 1 => exact depth_arr_le.mpr (items_toValue items (depth_arr_le.mp h))
  | .obj fields, 0 => exact absurd h (Nat.not_succ_le_zero _)
  | .obj fields, limit + 1 =>
    refine depth_obj_le.mpr fun p hp => ?_
    rcases mem_toMap hp with hNone | ⟨q, hq, rfl⟩
    · cases hNone
    · exact fields_toValue fields (depth_obj_le.mp h) q hq
where
  items_toValue (items : List Json) {limit : Nat} (h : ∀ j ∈ items, j.depth ≤ limit) :
      ∀ j ∈ toValues items, j.depth ≤ limit := by
    match items with
    | [] => simp [toValues]
    | j :: rest =>
      rw [List.forall_mem_cons] at h
      rw [toValues, List.forall_mem_cons]
      exact ⟨depth_toValue_le j h.1, items_toValue rest h.2⟩
  fields_toValue (fields : List (String × Json)) {limit : Nat} (h : ∀ p ∈ fields, p.2.depth ≤ limit) :
      ∀ p ∈ fields, p.2.toValue.depth ≤ limit := by
    match fields with
    | [] => simp
    | (k, v) :: rest =>
      rw [List.forall_mem_cons] at h ⊢
      exact ⟨depth_toValue_le v h.1, fields_toValue rest h.2⟩

theorem mapFloats_of_floatless (f : Int → Int → Int × Int) {j : Json} (h : j.floatless = true) : j.mapFloats f = j :=
  eq_of_eraseFloats j h (eraseFloats_mapFloats f j)

mutual
/-- No object in the tree stands for a number. -/
def Json.literal : Json → Bool
  | .arr items => literalItems items
  | .obj fields => !startsNumber fields && literalFields fields
  | _ => true

def literalItems : List Json → Bool
  | [] => true
  | j :: rest => j.literal && literalItems rest

def literalFields : List (String × Json) → Bool
  | [] => true
  | (_, v) :: rest => v.literal && literalFields rest
end

theorem literalItems_iff {items : List Json} : literalItems items = true ↔ ∀ j ∈ items, j.literal = true := by
  induction items with
  | nil => simp [literalItems]
  | cons j rest ih => rw [literalItems, Bool.and_eq_true, ih, List.forall_mem_cons]

mutual
theorem withNumbers_of_literal (j : Json) (h : j.literal = true) : j.withNumbers = some j := by
  match j with
  | .null => rfl
  | .bool b => rfl
  | .num n => rfl
  | .str s => rfl
  | .arr items => rw [Json.withNumbers, itemsWithNumbers_of_literal items h, Option.map_some]
  | .obj fields =>
    rw [Json.literal, Bool.and_eq_true, Bool.not_eq_true'] at h
    rw [Json.withNumbers, h.1, fieldsWithNumbers_of_literal fields h.2]
    rfl

theorem itemsWithNumbers_of_literal (items : List Json) (h : literalItems items = true) :
    itemsWithNumbers items = some items := by
  match items with
  | [] => rfl
  | j :: rest =>
    rw [literalItems, Bool.and_eq_true] at h
    rw [itemsWithNumbers, withNumbers_of_literal j h.1, itemsWithNumbers_of_literal rest h.2]
    rfl

theorem fieldsWithNumbers_of_literal (fields : List (String × Json)) (h : literalFields fields = true) :
    fieldsWithNumbers fields = some fields := by
  match fields with
  | [] => rfl
  | (k, v) :: rest =>
    rw [literalFields, Bool.and_eq_true] at h
    rw [fieldsWithNumbers, withNumbers_of_literal v h.1, fieldsWithNumbers_of_literal rest h.2]
    rfl
end

theorem toValue_of_value {j j' : Json} (h : value j = some j') : j'.toValue = j' := by
  obtain ⟨read, -, rfl⟩ := Option.map_eq_some_iff.mp h
  exact toValue_toValue read

theorem value_of_literal {j : Json} (h : j.literal = true) : value j = some j.toValue := by
  rw [value, withNumbers_of_literal j h, Option.map_some]

theorem value_self {j : Json} (h : j.literal = true) (hValue : j.toValue = j) : value j = some j := by
  rw [value_of_literal h, hValue]

theorem valueMap_self {fields : List (String × Json)} (hLiteral : literalFields fields = true) (hSorted : Sorted fields)
    (hValues : ∀ p ∈ fields, p.2.toValue = p.2) : valueMap fields = some fields := by
  have hMap : toMap [] fields = fields := toMap_of_sorted hSorted hValues
  rw [valueMap, fieldsWithNumbers_of_literal fields hLiteral, Option.map_some, hMap]

theorem key_of_mem_fieldsWithNumbers {fields fields' : List (String × Json)}
    (h : fieldsWithNumbers fields = some fields')
    {p : String × Json} (hp : p ∈ fields') : ∃ q ∈ fields, q.1 = p.1 := by
  induction fields generalizing fields' with
  | nil =>
    cases h
    cases hp
  | cons first rest ih =>
    obtain ⟨v, -, h⟩ := Option.bind_eq_some_iff.mp h
    obtain ⟨rest', hRest, h⟩ := Option.bind_eq_some_iff.mp h
    cases h
    rcases List.mem_cons.mp hp with rfl | hp
    · exact ⟨first, List.mem_cons_self, rfl⟩
    · obtain ⟨q, hq, hName⟩ := ih hRest hp
      exact ⟨q, List.mem_cons_of_mem _ hq, hName⟩

theorem key_of_mem_valueMap {fields fields' : List (String × Json)} (h : valueMap fields = some fields')
    {p : String × Json} (hp : p ∈ fields') : ∃ q ∈ fields, q.1 = p.1 := by
  obtain ⟨read, hRead, rfl⟩ := Option.map_eq_some_iff.mp h
  rcases mem_toMap hp with hNone | ⟨q, hq, rfl⟩
  · cases hNone
  · exact key_of_mem_fieldsWithNumbers (p := q) hRead hq

theorem literal_mapFloats (f : Int → Int → Int × Int) (j : Json) : (j.mapFloats f).literal = j.literal := by
  match j with
  | .null => rfl
  | .bool b => rfl
  | .num n => cases n <;> rfl
  | .str s => rfl
  | .arr items => rw [Json.mapFloats, Json.literal, Json.literal, literalItems_mapFloats items]
  | .obj fields =>
    have hStarts : startsNumber (mapFloatFields f fields) = startsNumber fields := by
      cases fields <;> rfl
    rw [Json.mapFloats, Json.literal, Json.literal, hStarts, literalFields_mapFloats fields]
where
  literalItems_mapFloats (items : List Json) : literalItems (mapFloatItems f items) = literalItems items := by
    match items with
    | [] => rfl
    | j :: rest => rw [mapFloatItems, literalItems, literal_mapFloats f j, literalItems_mapFloats rest, literalItems]
  literalFields_mapFloats (fields : List (String × Json)) :
      literalFields (mapFloatFields f fields) = literalFields fields := by
    match fields with
    | [] => rfl
    | (k, v) :: rest =>
      rw [mapFloatFields, literalFields, literal_mapFloats f v, literalFields_mapFloats rest, literalFields]

mutual
/-- How many objects there are in the tree. -/
def Json.objects : Json → Nat
  | .arr items => itemsObjects items
  | .obj fields => fieldsObjects fields + 1
  | _ => 0

def itemsObjects : List Json → Nat
  | [] => 0
  | j :: rest => j.objects + itemsObjects rest

def fieldsObjects : List (String × Json) → Nat
  | [] => 0
  | (_, v) :: rest => v.objects + fieldsObjects rest
end

/-! What is read has fewer objects than the tree unless each of them is read as an object. -/

mutual
theorem objects_withNumbers (j : Json) {j' : Json} (h : j.withNumbers = some j') :
    j'.objects ≤ j.objects ∧ (j.objects ≤ j'.objects → j.literal = true) := by
  match j with
  | .null => cases h; exact ⟨le_rfl, fun _ => rfl⟩
  | .bool b => cases h; exact ⟨le_rfl, fun _ => rfl⟩
  | .num n => cases h; exact ⟨le_rfl, fun _ => rfl⟩
  | .str s => cases h; exact ⟨le_rfl, fun _ => rfl⟩
  | .arr items =>
    rw [Json.withNumbers, Option.map_eq_some_iff] at h
    obtain ⟨items', hItems, rfl⟩ := h
    exact itemsObjects_withNumbers items hItems
  | .obj fields =>
    rw [Json.withNumbers] at h
    split at h
    · obtain ⟨n, rfl⟩ : ∃ n, j' = .num n := by
        unfold numberObject at h
        split at h
        · obtain ⟨n, -, rfl⟩ := Option.map_eq_some_iff.mp h
          exact ⟨n, rfl⟩
        · cases h
      exact ⟨Nat.zero_le _, fun hObjects => absurd hObjects (Nat.not_succ_le_zero _)⟩
    · rename_i hStarts
      obtain ⟨fields', hFields, rfl⟩ := Option.map_eq_some_iff.mp h
      obtain ⟨hLe, hLiteral⟩ := fieldsObjects_withNumbers fields hFields
      refine ⟨Nat.succ_le_succ hLe, fun hObjects => ?_⟩
      rw [Json.literal, hLiteral (Nat.le_of_succ_le_succ hObjects), Bool.and_true, Bool.not_eq_true']
      exact Bool.eq_false_iff.mpr hStarts

theorem itemsObjects_withNumbers (items : List Json) {items' : List Json} (h : itemsWithNumbers items = some items') :
    itemsObjects items' ≤ itemsObjects items ∧
      (itemsObjects items ≤ itemsObjects items' → literalItems items = true) := by
  match items with
  | [] => cases h; exact ⟨le_rfl, fun _ => rfl⟩
  | j :: rest =>
    rw [itemsWithNumbers] at h
    obtain ⟨j', hFirst, h⟩ := Option.bind_eq_some_iff.mp h
    obtain ⟨rest', hRest, h⟩ := Option.bind_eq_some_iff.mp h
    cases h
    obtain ⟨hLe, hLiteral⟩ := objects_withNumbers j hFirst
    obtain ⟨hRestLe, hRestLiteral⟩ := itemsObjects_withNumbers rest hRest
    simp only [itemsObjects, literalItems, Bool.and_eq_true]
    exact ⟨by omega, fun hObjects => ⟨hLiteral (by omega), hRestLiteral (by omega)⟩⟩

theorem fieldsObjects_withNumbers (fields : List (String × Json)) {fields' : List (String × Json)}
    (h : fieldsWithNumbers fields = some fields') : fieldsObjects fields' ≤ fieldsObjects fields ∧
      (fieldsObjects fields ≤ fieldsObjects fields' → literalFields fields = true) := by
  match fields with
  | [] => cases h; exact ⟨le_rfl, fun _ => rfl⟩
  | (k, v) :: rest =>
    rw [fieldsWithNumbers] at h
    obtain ⟨v', hFirst, h⟩ := Option.bind_eq_some_iff.mp h
    obtain ⟨rest', hRest, h⟩ := Option.bind_eq_some_iff.mp h
    cases h
    obtain ⟨hLe, hLiteral⟩ := objects_withNumbers v hFirst
    obtain ⟨hRestLe, hRestLiteral⟩ := fieldsObjects_withNumbers rest hRest
    simp only [fieldsObjects, literalFields, Bool.and_eq_true]
    exact ⟨by omega, fun hObjects => ⟨hLiteral (by omega), hRestLiteral (by omega)⟩⟩
end

theorem fieldsObjects_insertField_le (k : String) (v : Json) (fields : List (String × Json)) :
    fieldsObjects (insertField k v fields) ≤ v.objects + fieldsObjects fields := by
  induction fields with
  | nil => exact le_rfl
  | cons p rest ih =>
    rw [insertField]
    split
    · simp only [fieldsObjects]
      omega
    · split
      · exact le_rfl
      · simp only [fieldsObjects]
        omega

mutual
theorem objects_toValue_le (j : Json) : j.toValue.objects ≤ j.objects := by
  match j with
  | .null => exact le_rfl
  | .bool b => exact le_rfl
  | .num n => exact le_rfl
  | .str s => exact le_rfl
  | .arr items => exact itemsObjects_toValues_le items
  | .obj fields =>
    have hMap := fieldsObjects_toMap_le [] fields
    simp only [Json.toValue, Json.objects, fieldsObjects] at hMap ⊢
    omega

theorem itemsObjects_toValues_le (items : List Json) : itemsObjects (toValues items) ≤ itemsObjects items := by
  match items with
  | [] => exact le_rfl
  | j :: rest => exact Nat.add_le_add (objects_toValue_le j) (itemsObjects_toValues_le rest)

theorem fieldsObjects_toMap_le (acc fields : List (String × Json)) :
    fieldsObjects (toMap acc fields) ≤ fieldsObjects acc + fieldsObjects fields := by
  match fields with
  | [] => exact le_rfl
  | (k, v) :: rest =>
    have hRest := fieldsObjects_toMap_le (insertField k v.toValue acc) rest
    have hInsert := fieldsObjects_insertField_le k v.toValue acc
    have hFirst := objects_toValue_le v
    simp only [toMap, fieldsObjects]
    omega
end

theorem objects_mapFloats (f : Int → Int → Int × Int) (j : Json) : (j.mapFloats f).objects = j.objects := by
  match j with
  | .null => rfl
  | .bool b => rfl
  | .num n => cases n <;> rfl
  | .str s => rfl
  | .arr items => exact itemsObjects_mapFloats items
  | .obj fields => exact congrArg Nat.succ (fieldsObjects_mapFloats fields)
where
  itemsObjects_mapFloats (items : List Json) : itemsObjects (mapFloatItems f items) = itemsObjects items := by
    match items with
    | [] => rfl
    | j :: rest => rw [mapFloatItems, itemsObjects, objects_mapFloats f j, itemsObjects_mapFloats rest, itemsObjects]
  fieldsObjects_mapFloats (fields : List (String × Json)) :
      fieldsObjects (mapFloatFields f fields) = fieldsObjects fields := by
    match fields with
    | [] => rfl
    | (k, v) :: rest =>
      rw [mapFloatFields, fieldsObjects, objects_mapFloats f v, fieldsObjects_mapFloats rest, fieldsObjects]

section
variable (f : Int → Int → Int × Int)

/-- A value is read back when none of its objects stands for a number and its floats are kept. -/
theorem value_mapFloats_iff {j : Json} (hValue : j.toValue = j) :
    value (j.mapFloats f) = some j ↔ j.literal = true ∧ j.mapFloats f = j := by
  have hMapped : (j.mapFloats f).toValue = j.mapFloats f := by rw [toValue_mapFloats, hValue]
  constructor
  · intro h
    obtain ⟨j', hRead, hSame⟩ := Option.map_eq_some_iff.mp h
    obtain ⟨-, hLiteral⟩ := objects_withNumbers _ hRead
    have hLe : j.objects ≤ j'.objects := hSame ▸ objects_toValue_le j'
    rw [objects_mapFloats, literal_mapFloats] at hLiteral
    have hPlain := hLiteral hLe
    rw [value_self ((literal_mapFloats f j).trans hPlain) hMapped] at h
    exact ⟨hPlain, Option.some.inj h⟩
  · rintro ⟨hLiteral, hFloats⟩
    rw [value_self ((literal_mapFloats f j).trans hLiteral) hMapped, hFloats]

theorem valueMap_mapFloats_iff {fields : List (String × Json)} (hSorted : Sorted fields)
    (hValues : ∀ p ∈ fields, p.2.toValue = p.2) :
    valueMap (mapFloatFields f fields) = some fields ↔
      literalFields fields = true ∧ mapFloatFields f fields = fields := by
  have hMapped : literalFields fields = true →
      valueMap (mapFloatFields f fields) = some (mapFloatFields f fields) := by
    intro hLiteral
    refine valueMap_self ((literal_mapFloats.literalFields_mapFloats f fields).trans hLiteral)
      (sorted_mapFloatFields f hSorted) fun p hp => ?_
    obtain ⟨q, hq, rfl⟩ := (mem_mapFloatFields f).mp hp
    rw [toValue_mapFloats, hValues q hq]
  constructor
  · intro h
    obtain ⟨fields', hRead, hSame⟩ := Option.map_eq_some_iff.mp h
    obtain ⟨-, hLiteral⟩ := fieldsObjects_withNumbers _ hRead
    have hLe := fieldsObjects_toMap_le [] fields'
    rw [hSame, fieldsObjects, Nat.zero_add] at hLe
    rw [objects_mapFloats.fieldsObjects_mapFloats, literal_mapFloats.literalFields_mapFloats] at hLiteral
    have hPlain := hLiteral hLe
    rw [hMapped hPlain] at h
    exact ⟨hPlain, Option.some.inj h⟩
  · rintro ⟨hLiteral, hFloats⟩
    rw [hMapped hLiteral, hFloats]

end

end AffinidiMessaging.Serde
