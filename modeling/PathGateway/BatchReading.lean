import PathGateway.BatchResponse

/-! What reading a batch comes to. The answers that are kept and the requests that are
missing make up the requests; and which responses end up under the null key, or nowhere,
can be told from the responses alone. -/

namespace PathGateway

open List Option AList

namespace JsonRPC

section Pending

variable {ids : List ID} {key : String}

theorem lookup_foldl_countPending (m : GoMap String Nat) : ((ids.foldl (fun m id =>
    m.insert id.string ((m.lookup id.string).getD 0 + 1)) m).lookup key).getD 0 =
    (m.lookup key).getD 0 + (ids.map ID.string).count key := by
  induction ids generalizing m with
  | nil => rfl
  | cons id ids ih =>
    rw [foldl_cons, ih, map_cons, count_cons]
    by_cases hkey : id.string = key
    · subst hkey
      rw [lookup_insert]
      simp only [getD_some, beq_self_eq_true, if_true]
      omega
    · rw [lookup_insert_ne (Ne.symm hkey)]
      simp [hkey]

theorem lookup_countPending :
    ((countPending ids).lookup key).getD 0 = (ids.map ID.string).count key := by
  rw [countPending, lookup_foldl_countPending]
  simp

theorem lookup_foldl_representative (m : GoMap String ID) {id : ID}
    (h : (ids.foldl (fun m id => m.insert id.string id) m).lookup key = some id) :
    (id ∈ ids ∧ id.string = key) ∨ m.lookup key = some id := by
  induction ids generalizing m with
  | nil => exact .inr h
  | cons id' ids ih =>
    rcases ih _ h with ⟨hmem, hkey⟩ | hl
    · exact .inl ⟨mem_cons_of_mem _ hmem, hkey⟩
    · rcases GoMap.lookup_insert_eq_some.mp hl with ⟨rfl, rfl⟩ | ⟨-, hl⟩
      · exact .inl ⟨mem_cons_self, rfl⟩
      · exact .inr hl

theorem isSome_foldl_representative (m : GoMap String ID)
    (h : key ∈ ids.map ID.string ∨ (m.lookup key).isSome) :
    ((ids.foldl (fun m id => m.insert id.string id) m).lookup key).isSome := by
  induction ids generalizing m with
  | nil => simpa using h
  | cons id ids ih =>
    refine ih _ ?_
    by_cases hkey : key = id.string
    · subst hkey
      exact .inr (by simp)
    · rw [lookup_insert_ne hkey]
      simpa [hkey] using h

theorem lookup_representative (h : key ∈ ids.map ID.string) :
    ∃ id ∈ ids, id.string = key ∧ (representative ids).lookup key = some id := by
  obtain ⟨id, hid⟩ := isSome_iff_exists.mp (isSome_foldl_representative ∅ (.inl h))
  obtain ⟨hmem, hkey⟩ := (lookup_foldl_representative ∅ hid).resolve_right (by simp)
  exact ⟨id, hmem, hkey, hid⟩

theorem count_flatMap_replicate {f : String → Nat → Nat}
    {l : List (Sigma fun _ : String => Nat)} (hl : l.NodupKeys) :
    (l.flatMap (fun e => replicate (f e.1 e.2) e.1)).count key =
      ((l.dlookup key).map (f key)).getD 0 := by
  induction l with
  | nil => rfl
  | cons e l ih =>
    obtain ⟨k, n⟩ := e
    obtain ⟨hnotin, hl⟩ := nodupKeys_cons.mp hl
    rw [flatMap_cons, count_append, ih hl, count_replicate]
    by_cases hkey : k = key
    · subst hkey
      have hnone : l.dlookup k = none := dlookup_eq_none.mpr hnotin
      simp [hnone]
    · rw [dlookup_cons_ne _ _ (Ne.symm hkey)]
      simp [hkey]

end Pending

variable {β : Type} (lib : JSONLib β)

/-! ### The slots of the responses -/

def underNull (responses : List β) : List β :=
  responses.filter (fun r => (responseIDOf lib r).any (fun id => id.string == nullKey))

def hasNoID (r : β) : Bool := (responseIDOf lib r).any ID.isEmpty

def isUnreadable (r : β) : Bool := (lib.parse r).isSome && (responseIDOf lib r).isNone

def Fits (p : β × Slot) : Prop :=
  match p.2 with
  | .dropped => lib.parse p.1 = none
  | .wildcard => (lib.parse p.1).isSome ∧ (responseIDOf lib p.1).all ID.isEmpty = true
  | .answers key => (responseIDOf lib p.1).map ID.string = some key

variable {lib} {want : Nat} {rs : List β}

theorem isSome_parse_of_responseIDOf {r : β} {id : ID} (h : responseIDOf lib r = some id) :
    (lib.parse r).isSome := by
  obtain ⟨v, hv, -⟩ := bind_eq_some_iff.mp h
  simp [hv]

theorem string_eq_nullKey {id : ID} (h : id.isEmpty = true) : id.string = nullKey := by
  rw [ID.isEmpty_eq_true.mp h, nullKey]

theorem isEmpty_eq_false_of_string {id : ID} (h : id.string ≠ nullKey) : id.isEmpty = false :=
  Bool.eq_false_iff.mpr (mt string_eq_nullKey h)

inductive Reads (lib : JSONLib β) (want : Nat) : Nat → List β → List Slot → Prop
  | nil {n} : Reads lib want n [] []
  | invalid {n r rs ss} (hparse : lib.parse r = none)
      (rest : Reads lib want n rs ss) : Reads lib want n (r :: rs) (.dropped :: ss)
  | unreadable {n r rs ss} (hvalid : (lib.parse r).isSome) (hid : responseIDOf lib r = none)
      (rest : Reads lib want n rs ss) : Reads lib want n (r :: rs) (.wildcard :: ss)
  | surplus {n r rs ss} (hid : responseIDOf lib r = some .unset) (hn : want ≤ n)
      (rest : Reads lib want n rs ss) : Reads lib want n (r :: rs) (.wildcard :: ss)
  | null {n r rs ss id} (hid : responseIDOf lib r = some id) (hkey : id.string = nullKey)
      (hroom : n < want ∨ id.isEmpty = false) (rest : Reads lib want (n + 1) rs ss) :
      Reads lib want n (r :: rs) (.answers nullKey :: ss)
  | other {n r rs ss id} (hid : responseIDOf lib r = some id) (hkey : id.string ≠ nullKey)
      (rest : Reads lib want n rs ss) : Reads lib want n (r :: rs) (.answers id.string :: ss)

theorem reads_slots (n : Nat) : Reads lib want n rs (slots lib want n rs) := by
  induction rs generalizing n with
  | nil => exact .nil
  | cons r rs ih =>
    rw [slots]
    split
    case h_1 hid =>
      split
      case isTrue hvalid => exact .unreadable hvalid hid (ih n)
      case isFalse hvalid => exact .invalid (not_isSome_iff_eq_none.mp hvalid) (ih n)
    case h_2 id hid =>
      split
      case isTrue hsurplus =>
        rw [Bool.and_eq_true, ID.isEmpty_eq_true, decide_eq_true_eq] at hsurplus
        exact .surplus (hsurplus.1 ▸ hid) hsurplus.2 (ih n)
      case isFalse hroom =>
        by_cases hkey : id.string = nullKey
        · rw [if_pos hkey, hkey]
          refine .null hid hkey ?_ (ih (n + 1))
          by_contra h
          simp only [not_or, Nat.not_lt, Bool.not_eq_false] at h
          exact hroom (by simp [h])
        · rw [if_neg hkey]
          exact .other hid hkey (ih n)

section Reads

variable {n : Nat} {ss : List Slot}

theorem Reads.length_eq (h : Reads lib want n rs ss) : ss.length = rs.length := by
  induction h with
  | nil => rfl
  | invalid _ _ ih | unreadable _ _ _ ih | surplus _ _ _ ih | null _ _ _ _ ih | other _ _ _ ih =>
    rw [length_cons, length_cons, ih]

theorem Reads.fits (h : Reads lib want n rs ss) : ∀ p ∈ rs.zip ss, Fits lib p := by
  induction h with
  | nil => simp
  | invalid hparse _ ih => exact forall_mem_cons.mpr ⟨hparse, ih⟩
  | unreadable hvalid hid _ ih =>
    exact forall_mem_cons.mpr ⟨⟨hvalid, by rw [hid]; rfl⟩, ih⟩
  | surplus hid _ _ ih =>
    exact forall_mem_cons.mpr ⟨⟨isSome_parse_of_responseIDOf hid, by rw [hid]; rfl⟩, ih⟩
  | null hid hkey _ _ ih =>
    refine forall_mem_cons.mpr ⟨?_, ih⟩
    exact (congrArg (Option.map ID.string) hid).trans (congrArg some hkey)
  | other hid _ _ ih => exact forall_mem_cons.mpr ⟨congrArg (Option.map ID.string) hid, ih⟩

theorem underNull_null {r : β} {id : ID} (hid : responseIDOf lib r = some id)
    (hkey : id.string = nullKey) (hroom : n < want ∨ id.isEmpty = false) :
    (∀ rs, underNull lib (r :: rs) = r :: underNull lib rs) ∧ ((∃ m, want - n = m + 1 ∧
    want - (n + 1) = m) ∨ want - n = 0 ∧ want - (n + 1) = 0 ∧ hasNoID lib r = false) := by
  refine ⟨by simp [underNull, hid, hkey], ?_⟩
  by_cases hn : n < want
  · exact .inl ⟨want - n - 1, by omega, by omega⟩
  · exact .inr ⟨by omega, by omega, by simpa [hasNoID, hid] using hroom.resolve_left hn⟩

theorem Reads.nullAnswers (h : Reads lib want n rs ss) :
    ((rs.zip ss).filter (fun p => p.2 = .answers nullKey)).map Prod.fst = (underNull lib rs).take
    (want - n) ++ ((underNull lib rs).drop (want - n)).filter (fun r => !hasNoID lib r) := by
  induction h with
  | nil => simp [underNull]
  | invalid hparse _ ih => simpa [underNull, responseIDOf, hparse] using ih
  | unreadable _ hid _ ih => simpa [underNull, hid] using ih
  | surplus hid hn _ ih =>
    have hzero := Nat.sub_eq_zero_of_le hn
    simpa [underNull, hasNoID, hid, ID.string, ID.isEmpty, nullKey, hzero] using ih
  | null hid hkey hroom _ ih =>
    obtain ⟨hunder, ⟨m, hm, hm'⟩ | ⟨hzero, hzero', hset⟩⟩ := underNull_null hid hkey hroom
    · simpa [hunder, hm, hm'] using ih
    · -- no request is left under the null key: only the id "null" still counts there
      simpa [hunder, hset, hzero, hzero'] using ih
  | other hid hkey _ ih => simpa [underNull, hid, hkey] using ih

theorem Reads.wildcards_perm (h : Reads lib want n rs ss) :
    (((rs.zip ss).filter (fun p => p.2 = .wildcard)).map Prod.fst).Perm (rs.filter
      (isUnreadable lib) ++ ((underNull lib rs).drop (want - n)).filter (hasNoID lib)) := by
  induction h with
  | nil => simp [underNull]
  | invalid hparse _ ih => simpa [underNull, isUnreadable, responseIDOf, hparse] using ih
  | unreadable hvalid hid _ ih => simpa [underNull, isUnreadable, hid, hvalid] using ih
  | @surplus n r rs ss hid hn _ ih =>
    have hzero := Nat.sub_eq_zero_of_le hn
    rw [hzero, drop_zero] at ih
    simpa [underNull, isUnreadable, hasNoID, hid, ID.string, ID.isEmpty, nullKey, hzero] using
      (ih.cons r).trans perm_middle.symm
  | null hid hkey hroom _ ih =>
    obtain ⟨hunder, ⟨m, hm, hm'⟩ | ⟨hzero, hzero', hset⟩⟩ := underNull_null hid hkey hroom
    · simpa [hunder, isUnreadable, hid, hm, hm'] using ih
    · simpa [hunder, isUnreadable, hid, hset, hzero, hzero'] using ih
  | other hid hkey _ ih => simpa [underNull, isUnreadable, hid, hkey] using ih

def responseKeys (lib : JSONLib β) (responses : List β) : List String :=
  responses.filterMap (fun r => (responseIDOf lib r).map ID.string)

theorem Reads.count_answers (h : Reads lib want n rs ss) {key : String}
    (hne : key ≠ nullKey) : ss.count (.answers key) = (responseKeys lib rs).count key := by
  induction h with
  | nil => rfl
  | invalid hparse _ ih => simpa [responseKeys, responseIDOf, hparse] using ih
  | unreadable _ hid _ ih => simpa [responseKeys, hid] using ih
  | surplus hid _ _ ih =>
    have hunset : ID.unset.string ≠ key := hne.symm
    simpa [responseKeys, hid, hunset] using ih
  | null hid hkey _ _ ih => simpa [responseKeys, hid, hkey, count_cons, hne.symm] using ih
  | other hid _ _ ih => simpa [responseKeys, hid, count_cons] using ih

end Reads

theorem count_responseKeys_nullKey :
    (responseKeys lib rs).count nullKey = (underNull lib rs).length := by
  induction rs with
  | nil => rfl
  | cons r rs ih =>
    cases hid : responseIDOf lib r with
    | none => simpa [responseKeys, underNull, hid] using ih
    | some id =>
      by_cases hkey : id.string = nullKey
      · simpa [responseKeys, underNull, hid, hkey] using ih
      · simpa [responseKeys, underNull, hid, hkey] using ih

/-! ### Trimming -/

section Trim

variable {surplus : String → Nat} {xs : List (β × Slot)}

theorem trim_sublist : (trim surplus xs).Sublist xs := by
  induction xs generalizing surplus with
  | nil => exact Sublist.refl _
  | cons p xs ih =>
    obtain ⟨r, slot⟩ := p
    cases slot with
    | dropped => exact ih.cons _
    | wildcard => exact ih.cons_cons _
    | answers =>
      rw [trim]
      split
      · exact ih.cons _
      · exact ih.cons_cons _

theorem ne_dropped_of_mem_trim {p : β × Slot} (h : p ∈ trim surplus xs) : p.2 ≠ .dropped := by
  induction xs generalizing surplus with
  | nil => cases h
  | cons q xs ih =>
    obtain ⟨r, slot⟩ := q
    cases slot with
    | dropped => exact ih h
    | wildcard =>
      rcases mem_cons.mp h with rfl | h
      · exact Slot.noConfusion
      · exact ih h
    | answers =>
      rw [trim] at h
      split at h
      · exact ih h
      · rcases mem_cons.mp h with rfl | h
        · exact Slot.noConfusion
        · exact ih h

theorem filter_trim {q : β × Slot → Bool}
    (h : ∀ p ∈ xs, q p = true → p.2 = .wildcard ∨ ∃ key, p.2 = .answers key ∧ surplus key = 0) :
    (trim surplus xs).filter q = xs.filter q := by
  induction xs generalizing surplus with
  | nil => rfl
  | cons p xs ih =>
    obtain ⟨r, slot⟩ := p
    obtain ⟨hp, hrest⟩ := forall_mem_cons.mp h
    cases slot with
    | dropped =>
      rw [trim, ih hrest, filter_cons_of_neg fun hq => by simpa using hp hq]
    | wildcard => rw [trim, filter_cons, filter_cons, ih hrest]
    | answers other =>
      rw [trim]
      split_ifs with hpos
      · have hq : ¬q (r, .answers other) = true := fun hq => by
          obtain ⟨_, ⟨⟩, hzero⟩ := (hp hq).resolve_left Slot.noConfusion
          omega
        rw [filter_cons_of_neg hq]
        refine ih fun p hp hq => (hrest p hp hq).imp_right ?_
        rintro ⟨key, hkey, hzero⟩
        refine ⟨key, hkey, ?_⟩
        rw [Function.update_of_ne (by rintro rfl; omega), hzero]
      · rw [filter_cons, filter_cons, ih hrest]

theorem filter_wildcard_trim :
    (trim surplus xs).filter (fun p => p.2 = .wildcard) = xs.filter (fun p => p.2 = .wildcard) :=
  filter_trim fun _ _ hq => .inl (of_decide_eq_true hq)

theorem filter_answers_trim (key : String) :
    (trim surplus xs).filter (fun p => p.2 = .answers key) =
      (xs.filter (fun p => p.2 = .answers key)).drop (surplus key) := by
  induction xs generalizing surplus with
  | nil => simp [trim]
  | cons p xs ih =>
    obtain ⟨r, slot⟩ := p
    cases slot with
    | dropped | wildcard => simp [trim, ih]
    | answers other =>
      by_cases hpos : 0 < surplus other
      · by_cases hkey : other = key
        · subst hkey
          obtain ⟨n, hn⟩ : ∃ n, surplus other = n + 1 := ⟨surplus other - 1, by omega⟩
          simp [trim, hn, ih]
        · simp [trim, hpos, hkey, Ne.symm hkey, ih]
      · by_cases hkey : other = key
        · subst hkey
          have hzero : surplus other = 0 := by omega
          simp [trim, hzero, ih]
        · simp [trim, hpos, hkey, ih]

end Trim

/-! ### The reading of a batch -/

@[simp] theorem Slot.key_dropped : Slot.dropped.key = none := rfl

@[simp] theorem Slot.key_wildcard : Slot.wildcard.key = none := rfl

@[simp] theorem Slot.key_answers (key : String) : (Slot.answers key).key = some key := rfl

theorem count_filterMap_key (xs : List (β × Slot)) (key : String) :
    (xs.filterMap (fun p => p.2.key)).count key =
    (xs.filter (fun p => p.2 = .answers key)).length := by
  induction xs with
  | nil => rfl
  | cons p xs ih =>
    obtain ⟨r, slot⟩ := p
    cases slot with
    | dropped | wildcard => simpa [filterMap_cons] using ih
    | answers other => by_cases hkey : other = key <;> simp [hkey, ih]

theorem length_eq_wildcards_add_keys {xs : List (β × Slot)} (h : ∀ p ∈ xs, p.2 ≠ .dropped) :
    xs.length =
      (xs.filter (fun p => p.2 = .wildcard)).length + (xs.filterMap (fun p => p.2.key)).length := by
  induction xs with
  | nil => rfl
  | cons p xs ih =>
    obtain ⟨r, slot⟩ := p
    have ih := ih (fun q hq => h q (mem_cons_of_mem _ hq))
    cases slot with
    | dropped => exact absurd rfl (h (r, .dropped) mem_cons_self)
    | wildcard => simp [filterMap_cons, ih, Nat.add_right_comm]
    | answers => simp [ih, Nat.add_assoc]

section Read

variable {ids : List ID}

theorem pending_read (key : String) :
    (read lib ids rs).pending key = (ids.map ID.string).count key :=
  lookup_countPending

theorem reads_read : Reads lib ((ids.map ID.string).count nullKey) 0 rs (read lib ids rs).slots :=
    by
  rw [read, lookup_countPending]
  exact reads_slots 0

theorem length_filter_zip (slot : Slot) :
    ((rs.zip (read lib ids rs).slots).filter (fun p => p.2 = slot)).length =
    (read lib ids rs).slots.count slot := by
  have hsnd : (rs.zip (read lib ids rs).slots).map Prod.snd = (read lib ids rs).slots :=
    map_snd_zip reads_read.length_eq.le
  conv_rhs => rw [← hsnd]
  rw [count, countP_map, countP_eq_length_filter]
  congr 1

theorem count_missing (key : String) :
    (read lib ids rs).missing.count key =
      (ids.map ID.string).count key - (read lib ids rs).answered key := by
  rw [Reading.missing, (perm_insertionSort _ _).count_eq,
    count_flatMap_replicate (f := fun k n => n - (read lib ids rs).answered k)
      (countPending _).nodupKeys, ← lookup_countPending]
  change ((((countPending ids).lookup key).map _).getD 0) = _
  cases (countPending ids).lookup key with
  | none => simp
  | some => rfl

theorem count_sub_answered (key : String) :
    (ids.map ID.string).count key - (read lib ids rs).answered key =
      (ids.map ID.string).count key - (responseKeys lib rs).count key := by
  rw [Reading.answered]
  by_cases hkey : key = nullKey
  · have hnull : (read lib ids rs).slots.count (.answers nullKey) = _ :=
      (length_filter_zip _).symm.trans (by
        rw [← length_map Prod.fst, reads_read.nullAnswers, length_append])
    rw [hkey, hnull, count_responseKeys_nullKey, length_take, Nat.sub_zero]
    by_cases hle : (underNull lib rs).length ≤ (ids.map ID.string).count nullKey
    · rw [drop_of_length_le hle, filter_nil, length_nil]
      omega
    · omega
  · rw [reads_read.count_answers hkey]

theorem missing_append_kept_perm :
    ((read lib ids rs).missing ++ (read lib ids rs).kept.filterMap (fun p => p.2.key)).Perm
      (ids.map ID.string) := by
  refine perm_iff_count.mpr (fun key => ?_)
  have hanswered : (((read lib ids rs).responses.zip
      (read lib ids rs).slots).filter (fun p => p.2 = .answers key)).length =
      (read lib ids rs).answered key :=
    length_filter_zip _
  rw [count_append, count_missing, count_filterMap_key, Reading.kept, filter_answers_trim,
    length_drop, pending_read, hanswered]
  omega

theorem length_kept :
    (read lib ids rs).kept.length = (read lib ids rs).wildcards +
      ((read lib ids rs).kept.filterMap (fun p => p.2.key)).length := by
  have hkept : ∀ p ∈ (read lib ids rs).kept, p.2 ≠ .dropped :=
    fun _ => ne_dropped_of_mem_trim
  rw [length_eq_wildcards_add_keys hkept, Nat.add_right_cancel_iff, Reading.kept,
    filter_wildcard_trim]
  exact length_filter_zip .wildcard

theorem length_reconcileBatchResponses :
    (reconcileBatchResponses lib rs ids).length =
      ids.length + ((read lib ids rs).wildcards - (read lib ids rs).missing.length) := by
  have hperm := (@missing_append_kept_perm β lib rs ids).length_eq
  rw [length_append, length_map] at hperm
  rw [reconcileBatchResponses, length_append, length_map, length_kept, Reading.filled,
    length_map, length_drop]
  omega

end Read

end JsonRPC

end PathGateway
