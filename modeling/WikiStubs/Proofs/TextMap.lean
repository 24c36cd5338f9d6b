import WikiStubs.TextMap

/-!
# Maps that are filled from lists

What a map gives after many insertions: a key that was put in gives the value it was put in with,
any other key what the map gave before. The keys are those that were put in
(`contains_insertAll`), and the map has a value for each of its keys (`mem_keys_iff`). A value was
put in with its key (`mem_of_get?_ofList`). A map can be made again from its entries in any order
(`ofList_of_perm`).
-/
namespace WikiStubs.TextMap

variable {α : Type}

theorem insertAll_cons (m : TextMap α) (kv : Text × α) (kvs : List (Text × α)) :
    m.insertAll (kv :: kvs) = (m.insert kv.1 kv.2).insertAll kvs := rfl

theorem insertAll_append (m : TextMap α) (kvs kvs' : List (Text × α)) :
    m.insertAll (kvs ++ kvs') = (m.insertAll kvs).insertAll kvs' := List.foldl_append

/-- Keys whose values are given by a function. -/
theorem get?_insertAll_map (m : TextMap α) (value : Text → α) (ks : List Text) (k : Text) :
    (m.insertAll (ks.map fun j => (j, value j))).get? k =
      if k ∈ ks then some (value k) else m.get? k := by
  induction ks generalizing m with
  | nil => rfl
  | cons j ks ih =>
    rw [List.map_cons, insertAll_cons, ih, get?_insert]
    by_cases hj : j = k
    · subst hj; simp
    · simp [hj, Ne.symm hj]

/-- A key that is not put in keeps its value. -/
theorem get?_insertAll_of_not_mem {m : TextMap α} {kvs : List (Text × α)} {k : Text}
    (h : k ∉ kvs.map (·.1)) : (m.insertAll kvs).get? k = m.get? k := by
  induction kvs generalizing m with
  | nil => rfl
  | cons kv kvs ih =>
    rw [List.map_cons, List.mem_cons, not_or] at h
    rw [insertAll_cons, ih h.2, get?_insert, if_neg (Ne.symm h.1)]

/-- A key that is put in once gives the value it was put in with, whatever was there before. -/
theorem get?_insertAll_of_mem {m : TextMap α} {kvs : List (Text × α)}
    (h : (kvs.map (·.1)).Nodup) {k : Text} {v : α} (hmem : (k, v) ∈ kvs) :
    (m.insertAll kvs).get? k = some v := by
  induction kvs generalizing m with
  | nil => cases hmem
  | cons kv kvs ih =>
    rw [List.map_cons, List.nodup_cons] at h
    rw [insertAll_cons]
    rcases List.mem_cons.1 hmem with rfl | hmem
    · rw [get?_insertAll_of_not_mem h.1, get?_insert, if_pos rfl]
    · exact ih h.2 hmem

theorem get?_ofList_map (value : Text → α) (ks : List Text) (k : Text) :
    (ofList (ks.map fun j => (j, value j))).get? k = if k ∈ ks then some (value k) else none :=
  get?_insertAll_map empty value ks k

/-! ## Keys -/

theorem mem_keys_iff {m : TextMap α} {k : Text} : k ∈ m.keys ↔ m.contains k = true := by
  unfold keys contains get?
  induction m.entries with
  | nil => simp [lookup]
  | cons e es ih =>
    by_cases he : e.1 = k
    · simp [lookup, he]
    · simp [lookup, he, Ne.symm he, ih]

theorem contains_iff {m : TextMap α} {k : Text} :
    m.contains k = true ↔ ∃ v, m.get? k = some v := by
  unfold contains
  rw [Option.isSome_iff_exists]

theorem contains_insert {m : TextMap α} {k j : Text} {v : α} :
    (m.insert k v).contains j = true ↔ j = k ∨ m.contains j = true := by
  unfold contains
  rw [get?_insert]
  by_cases h : k = j
  · simp [h]
  · simp [h, Ne.symm h]

theorem contains_insertAll {m : TextMap α} {kvs : List (Text × α)} {k : Text} :
    (m.insertAll kvs).contains k = true ↔ k ∈ kvs.map (·.1) ∨ m.contains k = true := by
  induction kvs generalizing m with
  | nil => simp [insertAll]
  | cons kv kvs ih =>
    rw [insertAll_cons, ih, contains_insert, List.map_cons, List.mem_cons]
    constructor
    · rintro (h | h | h)
      · exact Or.inl (Or.inr h)
      · exact Or.inl (Or.inl h)
      · exact Or.inr h
    · rintro ((h | h) | h)
      · exact Or.inr (Or.inl h)
      · exact Or.inl h
      · exact Or.inr (Or.inr h)

theorem contains_ofList {kvs : List (Text × α)} {k : Text} :
    (ofList kvs).contains k = true ↔ k ∈ kvs.map (·.1) := by
  unfold ofList
  rw [contains_insertAll]
  simp [contains, get?, empty, lookup]

/-! ## Values -/

theorem mem_of_get?_insertAll {m : TextMap α} {kvs : List (Text × α)} {k : Text} {v : α}
    (h : (m.insertAll kvs).get? k = some v) : (k, v) ∈ kvs ∨ m.get? k = some v := by
  induction kvs generalizing m with
  | nil => exact Or.inr h
  | cons kv kvs ih =>
    rw [insertAll_cons] at h
    rcases ih h with hmem | hget
    · exact Or.inl (List.mem_cons_of_mem _ hmem)
    · rw [get?_insert] at hget
      split at hget
      · next he =>
        cases hget
        exact Or.inl (he ▸ List.mem_cons_self ..)
      · exact Or.inr hget

theorem mem_of_get?_ofList {kvs : List (Text × α)} {k : Text} {v : α}
    (h : (ofList kvs).get? k = some v) : (k, v) ∈ kvs := by
  rcases mem_of_get?_insertAll h with hmem | hget
  · exact hmem
  · cases hget

/-! ## Entries -/

/-- Where no key is repeated, the value of a key is the one it stands with. -/
theorem lookup_eq_some_iff {es : List (Text × α)} (h : (es.map (·.1)).Nodup) {k : Text} {v : α} :
    lookup k es = some v ↔ (k, v) ∈ es := by
  induction es with
  | nil => simp [lookup]
  | cons e es ih =>
    rw [List.map_cons, List.nodup_cons] at h
    rw [lookup, List.mem_cons]
    split
    · next he =>
      have hout : (k, v) ∉ es := fun hmem => h.1 (he ▸ List.mem_map_of_mem hmem)
      constructor
      · intro hv
        cases hv
        exact Or.inl (Prod.ext he.symm rfl)
      · rintro (rfl | hmem)
        · rfl
        · exact absurd hmem hout
    · next he =>
      rw [ih h.2]
      refine ⟨Or.inr, fun hmem => hmem.resolve_left ?_⟩
      rintro rfl
      exact he rfl

theorem nodup_keys (m : TextMap α) : m.keys.Nodup := by
  refine List.pairwise_map.2 (m.ascending.imp fun {x y} hxy he => ?_)
  rw [he, Text.precedes_irrefl] at hxy
  cases hxy

theorem mem_entries_iff {m : TextMap α} {k : Text} {v : α} :
    (k, v) ∈ m.entries ↔ m.get? k = some v :=
  (lookup_eq_some_iff m.nodup_keys).symm

theorem get?_ofList_eq_some_iff {kvs : List (Text × α)} (h : (kvs.map (·.1)).Nodup) {k : Text}
    {v : α} : (ofList kvs).get? k = some v ↔ (k, v) ∈ kvs :=
  ⟨mem_of_get?_ofList, get?_insertAll_of_mem h⟩

/-- A map is made of its entries, whatever their order. -/
theorem ofList_of_perm {m : TextMap α} {kvs : List (Text × α)} (h : kvs.Perm m.entries) :
    ofList kvs = m := by
  have hkeys : (kvs.map (·.1)).Nodup := (h.map _).nodup_iff.2 m.nodup_keys
  have hnodup : ∀ n : TextMap α, n.entries.Nodup := fun n =>
    List.Pairwise.of_map (·.1) (fun _ _ hne he => hne (congrArg (·.1) he)) n.nodup_keys
  have hperm : (ofList kvs).entries.Perm m.entries := by
    refine (List.perm_ext_iff_of_nodup (hnodup _) (hnodup m)).2 fun e => ?_
    rw [mem_entries_iff, get?_ofList_eq_some_iff hkeys, h.mem_iff]
  refine ext (hperm.eq_of_pairwise (fun x y _ _ hxy hyx => ?_) (ofList kvs).ascending m.ascending)
  have hloop := Text.precedes_trans hxy hyx
  rw [Text.precedes_irrefl] at hloop
  cases hloop

end WikiStubs.TextMap
