import Mathlib.Data.Finset.Max
import Mathlib.Data.List.AList

/-! Finite maps with the operations a filtering pipeline needs: keep the entries
that pass a test, and copy one map over another. All facts are stated through
`lookup`, so no proof depends on the order of the entries. -/

abbrev GoMap (κ ν : Type*) := AList (fun _ : κ => ν)

namespace GoMap

open List AList

variable {κ ν : Type*}

def retain (p : κ → ν → Bool) (m : GoMap κ ν) : GoMap κ ν :=
  ⟨m.entries.filter (fun e => p e.1 e.2), m.nodupKeys.sublist filter_sublist⟩

def isEmpty (m : GoMap κ ν) : Bool :=
  m.entries.isEmpty

@[simp] theorem isEmpty_empty : isEmpty (∅ : GoMap κ ν) = true := rfl

variable {m : GoMap κ ν}

theorem eq_empty_of_isEmpty (he : isEmpty m = true) : m = ∅ :=
  ext (isEmpty_iff.mp he)

def retainOrAll (p : κ → ν → Bool) (m : GoMap κ ν) : GoMap κ ν :=
  if isEmpty (retain p m) then m else retain p m

def mapValues {ν' : Type*} (f : ν → ν') (m : GoMap κ ν) : GoMap κ ν' :=
  ⟨m.entries.map (fun e => ⟨e.1, f e.2⟩), by
    rw [List.NodupKeys, List.keys, List.map_map]
    exact m.nodupKeys⟩

variable [DecidableEq κ]

/-- `maps.Copy(dst, src)`: an entry of the source replaces one of the destination. -/
def copyInto (dst src : GoMap κ ν) : GoMap κ ν :=
  src ∪ dst

def modify (f : ν → ν) (k : κ) (m : GoMap κ ν) : GoMap κ ν :=
  match m.lookup k with
  | none => m
  | some v => m.insert k (f v)

/-- The map that a loop over the keys fills in, leaving out the keys with no value. -/
def build (f : κ → Option ν) (keys : List κ) : GoMap κ ν :=
  keys.foldl (fun m k => (f k).elim m (fun v => m.insert k v)) ∅

/-- The map that a loop over values fills in under their keys; the last one under a key stays. -/
def index (key : ν → κ) (vs : List ν) : GoMap κ ν :=
  vs.foldl (fun m v => m.insert (key v) v) ∅

variable {p : κ → ν → Bool} {k : κ}

variable {v : ν} {k' : κ} {w : ν} {f : ν → ν} {keys : List κ}

@[simp] theorem lookup_retain_eq_some :
    (retain p m).lookup k = some v ↔ m.lookup k = some v ∧ p k v = true := by
  rw [← Option.mem_def, ← Option.mem_def, mem_lookup_iff, mem_lookup_iff]
  simp [retain]

theorem lookup_retain : (retain p m).lookup k = (m.lookup k).filter (p k) := by
  refine Option.ext fun v => ?_
  rw [lookup_retain_eq_some, Option.filter_eq_some_iff]

theorem lookup_insert_eq : (m.insert k v).lookup k' = if k' = k then some v else m.lookup k' := by
  split_ifs with hk
  · rw [hk, lookup_insert]
  · exact lookup_insert_ne hk

theorem lookup_insert_eq_some :
    (m.insert k v).lookup k' = some w ↔ k' = k ∧ v = w ∨ k' ≠ k ∧ m.lookup k' = some w := by
  rw [lookup_insert_eq]
  split <;> simp [*]

theorem lookup_erase_eq : (m.erase k).lookup k' = if k' = k then none else m.lookup k' := by
  split_ifs with hk
  · rw [hk, lookup_erase]
  · exact lookup_erase_ne hk

theorem lookup_erase_eq_some : (m.erase k).lookup k' = some w ↔ k' ≠ k ∧ m.lookup k' = some w := by
  rw [lookup_erase_eq]
  split <;> simp [*]

theorem lookup_modify {k : κ} :
    (modify f k m).lookup k' = if k' = k then (m.lookup k').map f else m.lookup k' := by
  rw [modify]
  split
  · rename_i hnone
    split_ifs with hk
    · rw [hk, hnone, Option.map_none]
    · rfl
  · rename_i v hsome
    rw [lookup_insert_eq]
    split_ifs with hk
    · rw [hk, hsome, Option.map_some]
    · rfl

theorem mem_modify {k : κ} : k' ∈ modify f k m ↔ k' ∈ m := by
  rw [← lookup_isSome, ← lookup_isSome, lookup_modify]
  split <;> simp

theorem length_keys_insert (h : k ∉ m) : (m.insert k v).keys.length = m.keys.length + 1 := by
  rw [keys_insert, length_cons, erase_of_not_mem (mt mem_keys.mpr h)]

theorem length_keys_erase (h : k ∈ m) : (m.erase k).keys.length + 1 = m.keys.length := by
  have hmem : k ∈ m.keys := mem_keys.mp h
  have hpos : 0 < m.keys.length := length_pos_of_mem hmem
  rw [keys_erase, length_erase_of_mem hmem]
  omega

theorem length_keys_modify : (modify f k m).keys.length = m.keys.length := by
  rw [modify]
  split
  · rfl
  · rename_i v hsome
    have hmem : k ∈ m := lookup_isSome.mp (by simp [hsome])
    rw [keys_insert, length_cons, ← keys_erase, length_keys_erase hmem]

@[simp] theorem lookup_mapValues {ν' : Type*} {f : ν → ν'} :
    (mapValues f m).lookup k = (m.lookup k).map f := by
  refine Option.ext fun v => ?_
  rw [← Option.mem_def, mem_lookup_iff, mapValues, mem_map, Option.map_eq_some_iff]
  constructor
  · rintro ⟨⟨k', w⟩, he, heq⟩
    cases heq
    exact ⟨w, mem_lookup_iff.mpr he, rfl⟩
  · rintro ⟨w, hl, rfl⟩
    exact ⟨⟨k, w⟩, mem_lookup_iff.mp hl, rfl⟩

theorem isEmpty_eq_false : isEmpty m = false ↔ ∃ k v, m.lookup k = some v := by
  rw [isEmpty, isEmpty_eq_false_iff_exists_mem]
  constructor
  · rintro ⟨⟨k, v⟩, he⟩
    exact ⟨k, v, mem_lookup_iff.mpr he⟩
  · rintro ⟨k, v, hl⟩
    exact ⟨⟨k, v⟩, mem_lookup_iff.mp hl⟩

theorem isEmpty_eq_true : isEmpty m = true ↔ ∀ k v, m.lookup k ≠ some v := by
  rw [← not_iff_not, Bool.not_eq_true, isEmpty_eq_false]
  push Not
  rfl

theorem isEmpty_retain_eq_false :
    isEmpty (retain p m) = false ↔ ∃ k v, m.lookup k = some v ∧ p k v = true := by
  simp only [isEmpty_eq_false, lookup_retain_eq_some]

theorem isEmpty_retain_eq_true :
    isEmpty (retain p m) = true ↔ ∀ k v, m.lookup k = some v → p k v = false := by
  simp only [isEmpty_eq_true, ne_eq, lookup_retain_eq_some, not_and, Bool.not_eq_true]

theorem lookup_retainOrAll_eq_some : (retainOrAll p m).lookup k = some v ↔
    m.lookup k = some v ∧ (p k v = true ∨ ∀ k' v', m.lookup k' = some v' → p k' v' = false) := by
  rw [retainOrAll]
  split_ifs with h
  · have hnone := isEmpty_retain_eq_true.mp h
    exact ⟨fun hl => ⟨hl, .inr hnone⟩, fun hl => hl.1⟩
  · rw [isEmpty_retain_eq_true] at h
    simp [h]

@[simp] theorem isEmpty_retainOrAll : isEmpty (retainOrAll p m) = isEmpty m := by
  rw [retainOrAll]
  split_ifs with h
  · rfl
  · have hk := eq_false_of_ne_true h
    obtain ⟨k, v, hl, -⟩ := isEmpty_retain_eq_false.mp hk
    rw [hk, eq_comm, isEmpty_eq_false]
    exact ⟨k, v, hl⟩

@[simp] theorem lookup_copyInto {dst src : GoMap κ ν} :
    (copyInto dst src).lookup k = (src.lookup k).or (dst.lookup k) := by
  cases hs : src.lookup k with
  | none =>
    exact lookup_union_right (lookup_eq_none.mp hs)
  | some =>
    rw [Option.some_or, ← hs]
    exact lookup_union_left (lookup_isSome.mp (by simp [hs]))

theorem exists_max_image {α : Type*} [LinearOrder α] (f : κ → α) (hne : isEmpty m = false) :
    ∃ k v, m.lookup k = some v ∧ ∀ k' v', m.lookup k' = some v' → f k' ≤ f k := by
  have hmem : ∀ k, k ∈ m.keys.toFinset ↔ ∃ v, m.lookup k = some v := fun k => by
    rw [mem_toFinset, ← Option.isSome_iff_exists, lookup_isSome]
    rfl
  obtain ⟨k, v, hl⟩ := isEmpty_eq_false.mp hne
  obtain ⟨x, hx, hmax⟩ := m.keys.toFinset.exists_max_image f ⟨k, (hmem k).mpr ⟨v, hl⟩⟩
  obtain ⟨w, hw⟩ := (hmem x).mp hx
  exact ⟨x, w, hw, fun k' v' h => hmax k' ((hmem k').mpr ⟨v', h⟩)⟩

theorem lookup_foldl_insert {f : κ → Option ν} :
    (keys.foldl (fun m k => (f k).elim m (fun v => m.insert k v)) m).lookup k =
    if k ∈ keys then (f k).or (m.lookup k) else m.lookup k := by
  induction keys generalizing m with
  | nil => simp
  | cons x xs ih =>
    rw [foldl_cons, ih]
    by_cases hx : k = x
    · subst hx
      cases hf : f k <;> simp
    · cases hf : f x <;> simp [hx]

@[simp] theorem lookup_build {f : κ → Option ν} :
    (build f keys).lookup k = if k ∈ keys then f k else none := by
  rw [build, lookup_foldl_insert]
  simp

section Index

variable {key : ν → κ} {vs : List ν} {k : κ}

theorem mem_foldl_insert :
    k ∈ vs.foldl (fun m v => m.insert (key v) v) m ↔ k ∈ m ∨ k ∈ vs.map key := by
  induction vs generalizing m with
  | nil => simp
  | cons v vs ih =>
    rw [foldl_cons, ih, mem_insert, map_cons, mem_cons, or_comm (a := k = _),
      or_assoc]

theorem values_foldl_insert_perm (hnodup : (vs.map key).Nodup) (hdisjoint : ∀ v ∈ vs, key v ∉ m) :
    ((vs.foldl (fun m v => m.insert (key v) v) m).entries.map Sigma.snd).Perm
    (vs ++ m.entries.map Sigma.snd) := by
  induction vs generalizing m with
  | nil => exact .refl _
  | cons v vs ih =>
    obtain ⟨hv, hnodup⟩ := nodup_cons.mp hnodup
    have hnotin : key v ∉ m := hdisjoint v mem_cons_self
    have hrest : ∀ w ∈ vs, key w ∉ m.insert (key v) v := by
      intro w hw hmem
      rcases (mem_insert m).mp hmem with heq | hmem
      · exact hv (heq ▸ mem_map_of_mem hw)
      · exact hdisjoint w (mem_cons_of_mem _ hw) hmem
    refine (ih hnodup hrest).trans ?_
    rw [entries_insert_of_notMem hnotin]
    exact perm_middle

theorem key_of_lookup_index {v : ν} (h : (index key vs).lookup k = some v) : key v = k := by
  have hfold : ∀ m : GoMap κ ν, (∀ k v, m.lookup k = some v → key v = k) →
      ∀ k v, (vs.foldl (fun m v => m.insert (key v) v) m).lookup k = some v → key v = k := by
    clear h
    induction vs with
    | nil => exact fun m hm => hm
    | cons x xs ih =>
      refine fun m hm => ih _ fun k v hl => ?_
      rcases lookup_insert_eq_some.mp hl with ⟨rfl, rfl⟩ | ⟨-, hl⟩
      · rfl
      · exact hm k v hl
  exact hfold ∅ (fun _ _ hl => by simp at hl) k v h

theorem values_index_perm (hnodup : (vs.map key).Nodup) :
    ((index key vs).entries.map Sigma.snd).Perm vs := by
  have hempty : ∀ v ∈ vs, key v ∉ (∅ : GoMap κ ν) := fun _ _ => notMem_empty _
  simpa [index] using values_foldl_insert_perm hnodup hempty

theorem length_index_eq_iff : (index key vs).entries.length = vs.length ↔ (vs.map key).Nodup := by
  constructor
  · intro h
    have hkeys : (index key vs).keys.Perm (vs.map key).dedup := by
      refine (perm_ext_iff_of_nodup (keys_nodup _) (nodup_dedup _)).mpr ?_
      intro k
      rw [mem_dedup, ← AList.mem_keys, index, mem_foldl_insert]
      simp [notMem_empty]
    have hlength : (vs.map key).dedup.length = (vs.map key).length := by
      rw [← hkeys.length_eq, length_map, ← h]
      exact length_map _
    rw [← dedup_eq_self]
    exact (dedup_sublist _).eq_of_length hlength
  · intro h
    simpa using (values_index_perm h).length_eq

end Index

end GoMap
