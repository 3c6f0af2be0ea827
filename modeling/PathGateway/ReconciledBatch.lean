import PathGateway.BatchBalance

/-! What the reconciliation of a batch keeps of the responses, and under which ids it fills in the
rest. An id that is the string "null" is taken for a missing one. -/

namespace PathGateway

open List Bool

namespace JsonRPC

variable {β : Type}

def hasKey (lib : JSONLib β) (key : String) (r : β) : Bool :=
  (responseIDOf lib r).any (fun id => !id.isEmpty && id.string == key)

/-- The number of requests with an id that looks like the key. -/
def requested (requestIDs : List ID) (key : String) : ℕ :=
  requestIDs.countP (fun id => !id.isEmpty && id.string == key)

section Meaning

variable (lib : JSONLib β) (requestIDs : List ID) (responses : List β)

def keptResponses : List β := (read lib requestIDs responses).kept.map Prod.fst

def synthesized : List β := (read lib requestIDs responses).filled lib

structure Reconciles : Prop where
  output : reconcileBatchResponses lib responses requestIDs =
    keptResponses lib requestIDs responses ++ synthesized lib requestIDs responses
  sublist : (keptResponses lib requestIDs responses).Sublist responses
  valid : ∀ r ∈ keptResponses lib requestIDs responses, (lib.parse r).isSome
  unreadable : (keptResponses lib requestIDs responses).filter (isUnreadable lib) =
    responses.filter (isUnreadable lib)
  null : (keptResponses lib requestIDs responses).filter (hasNoID lib) =
    responses.filter (hasNoID lib)
  latest : ∀ key, (keptResponses lib requestIDs responses).filter (hasKey lib key) =
    (responses.filter (hasKey lib key)).drop
      ((responses.filter (hasKey lib key)).length - requested requestIDs key)
  filled : (synthesized lib requestIDs responses).length =
    (unanswered lib requestIDs responses).length - (responses.countP (isUnreadable lib) +
      (responses.countP (hasNoID lib) - requestIDs.countP ID.isEmpty))
  accepted : (reconcileBatchResponses lib responses requestIDs).length = requestIDs.length →
    unmatchedCount lib (reconcileBatchResponses lib responses requestIDs) requestIDs ≤
      nullIDCount lib (reconcileBatchResponses lib responses requestIDs)

end Meaning

variable {lib : JSONLib β} {ids : List ID} {rs : List β} {key : String}

section Kept

variable {surplus : String → ℕ} {xs : List (β × Slot)} {q : β → Bool} {r : β}

theorem map_fst_zip_read (ids : List ID) : (rs.zip (read lib ids rs).slots).map Prod.fst = rs :=
  map_fst_zip reads_read.length_eq.ge

theorem map_fst_filter_zip (ids : List ID) :
    ((rs.zip (read lib ids rs).slots).filter (fun p => q p.1)).map Prod.fst = rs.filter q := by
  conv_rhs => rw [← @map_fst_zip_read β lib rs ids, filter_map]
  rfl

theorem filter_keptResponses
    (h : ∀ p ∈ rs.zip (read lib ids rs).slots, q p.1 = true → p.2 = .wildcard ∨
      ∃ key, p.2 = .answers key ∧ (read lib ids rs).answered key ≤ (ids.map ID.string).count key) :
    (keptResponses lib ids rs).filter q = rs.filter q := by
  rw [keptResponses, filter_map, ← @map_fst_filter_zip β lib rs q ids]
  refine congrArg _ (filter_trim fun p hp hq => (h p hp hq).imp_right ?_)
  rintro ⟨key, hkey, hle⟩
  exact ⟨key, hkey, Nat.sub_eq_zero_of_le (pending_read key ▸ hle)⟩

variable {p : β × Slot}

theorem slot_of_id {id : ID} (hfits : Fits lib p) (hid : responseIDOf lib p.1 = some id) :
    p.2 = .answers id.string ∨ p.2 = .wildcard ∧ id.isEmpty = true := by
  obtain ⟨r, slot⟩ := p
  cases slot with
  | dropped => simp [responseIDOf, show lib.parse r = none from hfits] at hid
  | wildcard => exact .inr ⟨rfl, by simpa [hid] using hfits.2⟩
  | answers key => exact .inl (congrArg Slot.answers (string_eq_of_fits hfits hid).symm)

theorem hasKey_iff : hasKey lib key r = true ↔
    ∃ id, responseIDOf lib r = some id ∧ id.isEmpty = false ∧ id.string = key := by
  simp [hasKey, Option.any_eq_true]

theorem slot_of_hasKey (hfits : Fits lib p) (h : hasKey lib key p.1 = true) :
    p.2 = .answers key := by
  obtain ⟨id, hid, hset, rfl⟩ := hasKey_iff.mp h
  exact (slot_of_id hfits hid).resolve_right (by simp [hset])

theorem hasKey_of_slot (hfits : Fits lib p) (hslot : p.2 = .answers key) (hkey : key ≠ nullKey) :
    hasKey lib key p.1 = true := by
  obtain ⟨r, slot⟩ := p
  cases hslot
  obtain ⟨id, hid, hstring⟩ := Option.map_eq_some_iff.mp hfits
  exact hasKey_iff.mpr ⟨id, hid, isEmpty_eq_false_of_string (hstring ▸ hkey), hstring⟩

theorem slot_of_hasNoID (hfits : Fits lib p) (h : hasNoID lib p.1 = true) :
    p.2 = .wildcard ∨ p.2 = .answers nullKey := by
  obtain ⟨id, hid, hempty⟩ := (Option.any_eq_true _ _).mp h
  exact (slot_of_id hfits hid).symm.imp And.left (string_eq_nullKey hempty ▸ ·)

theorem slot_of_isUnreadable (hfits : Fits lib p) (h : isUnreadable lib p.1 = true) :
    p.2 = .wildcard := by
  obtain ⟨r, slot⟩ := p
  obtain ⟨hvalid, hid⟩ := and_eq_true_iff.mp h
  cases slot with
  | dropped => simp [show lib.parse r = none from hfits] at hvalid
  | wildcard => rfl
  | answers key => simp [Fits, Option.isNone_iff_eq_none.mp hid] at hfits

theorem mem_latestNull (h : r ∈ keptResponses lib ids rs)
    (hkey : hasKey lib nullKey r = true) : r ∈ latestNull lib ids rs := by
  obtain ⟨p, hp, rfl⟩ := mem_map.mp h
  rw [← kept_nullAnswers]
  refine mem_map_of_mem (mem_filter.mpr ⟨hp, decide_eq_true ?_⟩)
  exact slot_of_hasKey (fits_of_mem_kept hp) hkey

theorem mem_underNull_of_mem_latestNull (h : r ∈ latestNull lib ids rs) : r ∈ underNull lib rs := by
  rcases mem_append.mp (mem_of_mem_drop h) with h | h
  · exact mem_of_mem_take h
  · exact mem_of_mem_drop (mem_filter.mp h).1

theorem hasNoID_eq_not (h : r ∈ underNull lib rs) : hasNoID lib r = !hasKey lib nullKey r := by
  obtain ⟨id, hid, hstring⟩ := (Option.any_eq_true _ _).mp (mem_filter.mp h).2
  simp [hasNoID, hasKey, hid, eq_of_beq hstring]

theorem mem_underNull (hr : r ∈ rs) (h : hasKey lib nullKey r = true) : r ∈ underNull lib rs := by
  obtain ⟨id, hid, -, hstring⟩ := hasKey_iff.mp h
  exact mem_filter.mpr ⟨hr, by simp [hid, hstring]⟩

theorem filter_hasKey_keptResponses (hkey : key ≠ nullKey) :
    (keptResponses lib ids rs).filter (hasKey lib key) = (rs.filter (hasKey lib key)).drop
      ((rs.filter (hasKey lib key)).length - (ids.map ID.string).count key) := by
  have hslot {p : β × Slot} (hfits : Fits lib p) :
      hasKey lib key p.1 = decide (p.2 = .answers key) :=
    Bool.eq_iff_iff.mpr ⟨fun h => decide_eq_true (slot_of_hasKey hfits h),
      fun h => hasKey_of_slot hfits (of_decide_eq_true h) hkey⟩
  have hzip : (rs.zip (read lib ids rs).slots).filter
      (fun p => hasKey lib key p.1) = (rs.zip (read lib ids rs).slots).filter
        (fun p => p.2 = .answers key) :=
    filter_congr fun p hp => hslot (reads_read.fits _ hp)
  have hanswered : (read lib ids rs).answered key = (rs.filter (hasKey lib key)).length := by
    rw [← @map_fst_filter_zip β lib rs _ ids, length_map, hzip]
    exact (length_filter_zip _).symm
  have hkept : (read lib ids rs).kept.filter (fun p => hasKey lib key p.1) =
      ((rs.zip (read lib ids rs).slots).filter
        (fun p => hasKey lib key p.1)).drop ((read lib ids rs).answered key -
          (read lib ids rs).pending key) := by
    rw [hzip, filter_congr fun p hp => hslot (fits_of_mem_kept hp)]
    exact filter_answers_trim key
  rw [hanswered, pending_read] at hkept
  rw [keptResponses, filter_map]
  refine (congrArg (map Prod.fst) hkept).trans ?_
  rw [map_drop, map_fst_filter_zip]

end Kept

section Condition

variable (hnull : ∀ id ∈ ids, id.string = nullKey → id.isEmpty = true)

include hnull

theorem nullRequests_eq_countP : nullRequests ids = ids.countP ID.isEmpty := by
  rw [nullRequests, count, countP_map]
  refine countP_congr fun id hid => ?_
  simp only [Function.comp_apply, beq_iff_eq]
  exact ⟨hnull id hid, string_eq_nullKey⟩

theorem requested_nullKey : requested ids nullKey = 0 :=
  countP_eq_zero.mpr fun id hid h => by
    simp only [and_eq_true, beq_iff_eq, not_eq_true'] at h
    rw [hnull id hid h.2] at h
    cases h.1

omit hnull in
theorem requested_eq (hkey : key ≠ nullKey) :
    requested ids key = (ids.map ID.string).count key := by
  rw [requested, count, countP_map]
  refine countP_congr fun id _ => ?_
  simp only [Function.comp_apply, and_eq_true, beq_iff_eq, not_eq_true']
  exact and_iff_right_of_imp fun h => isEmpty_eq_false_of_string (h ▸ hkey)

omit hnull in
theorem filter_hasNoID_underNull :
    (underNull lib rs).filter (hasNoID lib) = rs.filter (hasNoID lib) := by
  rw [underNull, filter_filter]
  refine filter_congr fun r _ => ?_
  cases hid : responseIDOf lib r with
  | none => simp [hasNoID, hid]
  | some id => simpa [hasNoID, hid] using string_eq_nullKey

variable (hclear : (∀ id ∈ ids, id.isEmpty = false) ∨
  ∀ r ∈ rs, hasKey lib nullKey r = false)

include hclear

theorem nullRequests_or_hasNoID : nullRequests ids = 0 ∨
    ∀ r ∈ underNull lib rs, hasNoID lib r = true := by
  refine hclear.imp (fun hset => ?_) (fun hkey r hr => ?_)
  · rw [nullRequests_eq_countP hnull]
    exact countP_eq_zero.mpr fun id hid h => by simp [hset id hid] at h
  · rw [hasNoID_eq_not hr, hkey r (mem_filter.mp hr).1, Bool.not_false]

theorem hasNoID_of_mem_latestNull {r : β} (hr : r ∈ latestNull lib ids rs) :
    hasNoID lib r = true := by
  rcases nullRequests_or_hasNoID hnull hclear with hzero | hall
  · simp [latestNull, hzero] at hr
  · exact hall r (mem_underNull_of_mem_latestNull hr)

theorem length_wildcardResponses :
    (wildcardResponses lib ids rs).length =
      rs.countP (isUnreadable lib) + (rs.countP (hasNoID lib) - ids.countP ID.isEmpty) := by
  have hnone : rs.countP (hasNoID lib) = ((underNull lib rs).filter (hasNoID lib)).length := by
    rw [filter_hasNoID_underNull, countP_eq_length_filter]
  rw [wildcardResponses, length_append, countP_eq_length_filter, Nat.add_left_cancel_iff,
    hnone, ← nullRequests_eq_countP hnull]
  rcases nullRequests_or_hasNoID hnull hclear with hzero | hall
  · rw [hzero, drop_zero, Nat.sub_zero]
  · rw [filter_eq_self.mpr hall, filter_eq_self.mpr fun r hr =>
      hall r (mem_of_mem_drop hr), length_drop]

theorem filter_hasNoID_keptResponses :
    (keptResponses lib ids rs).filter (hasNoID lib) = rs.filter (hasNoID lib) := by
  refine filter_keptResponses fun p hp hp' => (slot_of_hasNoID (reads_read.fits _ hp) hp').imp_right
    fun hslot => ⟨nullKey, hslot, ?_⟩
  have hanswers := (@reads_read β lib rs ids).nullAnswers
  have hlength := (length_filter_zip (.answers nullKey)).symm.trans
    ((length_map Prod.fst).symm.trans (congrArg length hanswers))
  have hmem := hanswers ▸ mem_map.mpr ⟨p, mem_filter.mpr ⟨hp, decide_eq_true hslot⟩, rfl⟩
  refine hlength.trans_le ?_
  rcases nullRequests_or_hasNoID hnull hclear with hzero | hall
  · rw [nullRequests] at hzero
    simp [hzero, hp'] at hmem
  · have hnil : ((underNull lib rs).drop (nullRequests ids - 0)).filter
        (fun r => !hasNoID lib r) = [] :=
      filter_eq_nil_iff.mpr fun r hr => by simp [hall r (mem_of_mem_drop hr)]
    rw [nullRequests] at hnil
    rw [hnil, append_nil, length_take]
    exact Nat.min_le_left _ _

theorem reconciles_of_clear : Reconciles lib ids rs where
  output := rfl
  sublist := by
    have hsub : (keptResponses lib ids rs).Sublist
        ((rs.zip (read lib ids rs).slots).map Prod.fst) :=
      trim_sublist.map Prod.fst
    rwa [map_fst_zip_read] at hsub
  valid r hr := isSome_parse_of_mem (mem_append_left _ hr)
  unreadable := filter_keptResponses fun p hp hp' =>
    .inl (slot_of_isUnreadable (reads_read.fits _ hp) hp')
  null := filter_hasNoID_keptResponses hnull hclear
  latest key := by
    by_cases hkey : key = nullKey
    · subst hkey
      rw [requested_nullKey hnull, Nat.sub_zero, drop_length, filter_eq_nil_iff]
      intro r hr hnullKey
      have hlatest := mem_latestNull hr hnullKey
      have hset := hasNoID_of_mem_latestNull hnull hclear hlatest
      simp [hasNoID_eq_not (mem_underNull_of_mem_latestNull hlatest), hnullKey] at hset
    · rw [requested_eq hkey, filter_hasKey_keptResponses hkey]
  filled := by
    rw [← length_wildcardResponses hnull hclear, ← wildcards_read, ← missing_read, synthesized,
      Reading.filled, length_map, length_drop]
  accepted hlength := by
    have hroom := @length_reconcileBatchResponses β lib rs ids
    rw [wildcards_read, missing_read] at hroom
    refine (unmatched_le_nullIDCount_iff (by omega)).mpr (.inr ?_)
    have hstrays : strays lib ids rs = 0 := countP_eq_zero.mpr fun r hr => by
      simp [hasNoID_of_mem_latestNull hnull hclear hr]
    omega

end Condition

theorem exists_mem_latest {xs ys : List β} {q : β → Bool} {n : ℕ} (hpos : 0 < n)
    (hxs : xs.length ≤ n) (hys : ∀ r ∈ ys, q r = true) (h : ∃ r ∈ xs ++ ys, q r = true) :
    ∃ r ∈ (xs ++ ys).drop ((xs ++ ys).length - n), q r = true := by
  rcases eq_nil_or_concat ys with rfl | ⟨zs, z, rfl⟩
  · rwa [append_nil, Nat.sub_eq_zero_of_le hxs, drop_zero, ← append_nil xs]
  · refine ⟨z, ?_, hys z (by simp)⟩
    rw [concat_eq_append, ← append_assoc, drop_append_of_le_length]
    · exact mem_append_right _ mem_cons_self
    · simp only [length_append, length_singleton]
      omega

theorem exists_mem_latestNull {r : β} (hpos : 0 < nullRequests ids) (hr : r ∈ rs)
    (hkey : hasKey lib nullKey r = true) :
    ∃ r ∈ latestNull lib ids rs, (!hasNoID lib r) = true := by
  have hset : (!hasNoID lib r) = true := by
    rw [hasNoID_eq_not (mem_underNull hr hkey), hkey, Bool.not_true, Bool.not_false]
  refine exists_mem_latest hpos (length_take_le _ _)
    (fun r hr => (mem_filter.mp hr).2) ⟨r, ?_, hset⟩
  rw [mem_append, mem_filter, and_iff_left hset, ← mem_append, take_append_drop]
  exact mem_underNull hr hkey

/-- What is kept and what is filled in is as expected exactly if no response with the id "null"
can be taken for one to a request without an id. -/
theorem reconciles_iff (lib : JSONLib β) (requestIDs : List ID)
    (hnull : ∀ id ∈ requestIDs, id.string = nullKey → id.isEmpty = true) (responses : List β) :
    Reconciles lib requestIDs responses ↔ (∀ id ∈ requestIDs, id.isEmpty = false) ∨
      ∀ r ∈ responses, hasKey lib nullKey r = false := by
  refine ⟨fun h => ?_, reconciles_of_clear hnull⟩
  by_contra hclear
  obtain ⟨⟨id, hid, hempty⟩, r, hr, hkey⟩ : (∃ id ∈ requestIDs, id.isEmpty = true) ∧
      ∃ r ∈ responses, hasKey lib nullKey r = true := by simpa using hclear
  have hpos : 0 < nullRequests requestIDs :=
    count_pos_iff.mpr (mem_map.mpr ⟨id, hid, string_eq_nullKey hempty⟩)
  obtain ⟨r, hr, hset⟩ := exists_mem_latestNull hpos hr hkey
  have hkept : r ∈ keptResponses lib requestIDs responses :=
    (filter_sublist.map _).subset (kept_nullAnswers ▸ hr)
  rw [hasNoID_eq_not (mem_underNull_of_mem_latestNull hr), Bool.not_not] at hset
  have hnone := h.latest nullKey
  rw [requested_nullKey hnull, Nat.sub_zero, drop_length, filter_eq_nil_iff] at hnone
  exact hnone r hkept hset

theorem parseError_kept : Reconciles JSONLib.raw [.unset] [parseErrorBody] :=
  (reconciles_iff JSONLib.raw [.unset] (by simp [ID.isEmpty]) [parseErrorBody]).mpr
    (.inr (by simp; rfl))

def nullStringBody : RawText :=
  .json (.object [("jsonrpc", .string "2.0"), ("id", .string "null"), ("result", .string "0x10")])

theorem parseError_displaced :
    reconcileBatchResponses JSONLib.raw [parseErrorBody, nullStringBody] [.unset] =
        [nullStringBody] ∧
      validateAndBuildBatchResponse JSONLib.raw [nullStringBody] [.unset] =
        .error (.missingIDs 1 0) :=
  ⟨rfl, rfl⟩

/-! ### The ids of the errors -/

end JsonRPC

end PathGateway
