import PathGateway.BatchReading

/-! When a batch is answered with one response object for each of its requests. -/

namespace PathGateway

open List

namespace JsonRPC

variable {β : Type}

section Condition

variable (lib : JSONLib β) (requestIDs : List ID) (responses : List β)

def nullRequests : Nat := (requestIDs.map ID.string).count nullKey

def wildcardResponses : List β :=
  responses.filter (isUnreadable lib) ++
    ((underNull lib responses).drop (nullRequests requestIDs)).filter (hasNoID lib)

def unanswered : List String :=
  ((requestIDs.map ID.string).diff (responseKeys lib responses)).insertionSort (· ≤ ·)

def latestNull : List β :=
  let answers := (underNull lib responses).take (nullRequests requestIDs) ++
    ((underNull lib responses).drop (nullRequests requestIDs)).filter (fun r => !hasNoID lib r)
  answers.drop (answers.length - nullRequests requestIDs)

def covered : List String :=
  (unanswered lib requestIDs responses).take (wildcardResponses lib requestIDs responses).length

def spare : Nat :=
  (covered lib requestIDs responses).countP (fun key => decide (key ≠ nullKey ∧
    (covered lib requestIDs responses).count key < (requestIDs.map ID.string).count key))

def strays : Nat := (latestNull lib requestIDs responses).countP (fun r => !hasNoID lib r)

/-- The wildcards find room among the unanswered requests. A response with the id "null" is
kept for a request of that id, or some wildcard can be spared for it. Whatever is kept
without its own id having been read as that of a request is an object. -/
structure Balanced : Prop where
  room : (wildcardResponses lib requestIDs responses).length ≤
    (unanswered lib requestIDs responses).length
  spared : (∃ id ∈ requestIDs, id.isEmpty = false ∧ id.string = nullKey) ∨
    strays lib requestIDs responses ≤ spare lib requestIDs responses
  objects : ∀ r ∈ wildcardResponses lib requestIDs responses ++
    latestNull lib requestIDs responses, (lib.parse r).any Json.isObject = true

end Condition

/-- The response has the id of the request, or none that can be read. -/
def Answers (id : ID) (response : Json) : Prop :=
  ∀ respID, responseID response = some respID → respID.isEmpty = false →
    respID.string = id.string

/-- The text is a JSON array of one response object for each request. -/
def OneEach (lib : JSONLib β) (requestIDs : List ID) (payload : β) : Prop :=
  ∃ values, lib.parse payload = some (.array values) ∧ (∀ v ∈ values, v.isObject = true) ∧
    ∃ order : List ID, order.Perm requestIDs ∧ List.Forall₂ Answers order values

variable {key : String}

section Counting

variable {lib : JSONLib β} {ids : List ID} {rs : List β}

theorem missing_read : (read lib ids rs).missing = unanswered lib ids rs := by
  refine Perm.eq_of_sortedLE sortedLE_insertionSort sortedLE_insertionSort ?_
  refine perm_iff_count.mpr (fun key => ?_)
  rw [count_missing, count_sub_answered, unanswered,
    (perm_insertionSort _ _).count_eq, count_diff]

theorem kept_wildcards_perm :
    (((read lib ids rs).kept.filter (fun p => p.2 = .wildcard)).map Prod.fst).Perm
    (wildcardResponses lib ids rs) := by
  rw [Reading.kept, filter_wildcard_trim]
  exact reads_read.wildcards_perm

theorem kept_nullAnswers :
    ((read lib ids rs).kept.filter (fun p => p.2 = .answers nullKey)).map Prod.fst =
      latestNull lib ids rs := by
  have hanswers : ((rs.zip (read lib ids rs).slots).filter
      (fun p => p.2 = .answers nullKey)).map Prod.fst =
        (underNull lib rs).take (nullRequests ids) ++
          ((underNull lib rs).drop (nullRequests ids)).filter (fun r => !hasNoID lib r) := by
    rw [reads_read.nullAnswers, Nat.sub_zero, nullRequests]
  have hlength : (read lib ids rs).answered nullKey = _ :=
    (length_filter_zip _).symm.trans
      ((length_map Prod.fst).symm.trans (congrArg length hanswers))
  rw [Reading.kept, filter_answers_trim, map_drop, hlength, pending_read]
  exact congrArg (drop _) hanswers

theorem wildcards_read : (read lib ids rs).wildcards = (wildcardResponses lib ids rs).length := by
  rw [← kept_wildcards_perm.length_eq, length_map, Reading.kept, filter_wildcard_trim]
  exact (length_filter_zip _).symm

theorem fits_of_mem_kept {p : β × Slot} (h : p ∈ (read lib ids rs).kept) : Fits lib p :=
  reads_read.fits _ (trim_sublist.subset h)

def filledKeys (lib : JSONLib β) (requestIDs : List ID) (responses : List β) : List String :=
  (unanswered lib requestIDs responses).drop (wildcardResponses lib requestIDs responses).length

def keptKeys (lib : JSONLib β) (requestIDs : List ID) (responses : List β) : List String :=
  (read lib requestIDs responses).kept.filterMap (fun p => p.2.key)

theorem requestKeys_perm :
    (covered lib ids rs ++ (keptKeys lib ids rs ++ filledKeys lib ids rs)).Perm
      (ids.map ID.string) := by
  have hsplit : covered lib ids rs ++ filledKeys lib ids rs = (read lib ids rs).missing := by
    rw [missing_read, covered, filledKeys, take_append_drop]
  have hperm := @missing_append_kept_perm β lib rs ids
  rw [← hsplit, append_assoc] at hperm
  exact (perm_append_comm.append_left _).trans hperm

theorem reconcileBatchResponses_eq :
    reconcileBatchResponses lib rs ids =
      (read lib ids rs).kept.map Prod.fst ++ (filledKeys lib ids rs).map (fun key => lib.render
      (errResponseNoEndpointResponse (((representative ids).lookup key).getD .unset))) := by
  rw [filledKeys, ← missing_read, ← wildcards_read]
  rfl

theorem responseIDOf_render (id : ID) :
    responseIDOf lib (lib.render (errResponseNoEndpointResponse id)) = some id := by
  rw [responseIDOf, lib.parse_render, Option.bind_some, responseID_errResponse]

theorem mem_requestKeys_of_mem_filledKeys (h : key ∈ filledKeys lib ids rs) :
    key ∈ ids.map ID.string :=
  requestKeys_perm.subset (mem_append_right _ (mem_append_right _ h))

theorem representative_of_mem_filledKeys (h : key ∈ filledKeys lib ids rs) :
    ∃ id ∈ ids, id.string = key ∧ ((representative ids).lookup key).getD .unset = id := by
  obtain ⟨id, hid, hstring, hlookup⟩ :=
    lookup_representative (mem_requestKeys_of_mem_filledKeys h)
  exact ⟨id, hid, hstring, by rw [hlookup, Option.getD_some]⟩

variable {r : β} {id : ID}

theorem string_eq_of_fits (h : Fits lib (r, .answers key)) (hid : responseIDOf lib r = some id) :
    id.string = key := by
  simpa [Fits, hid] using h

theorem mem_reconcileBatchResponses_cases (h : r ∈ reconcileBatchResponses lib rs ids) :
    (r ∈ wildcardResponses lib ids rs ∧ Fits lib (r, .wildcard)) ∨
    (∃ id, (r, .answers id.string) ∈ (read lib ids rs).kept ∧ responseIDOf lib r = some id) ∨ ∃ id,
    id.string ∈ filledKeys lib ids rs ∧ r = lib.render (errResponseNoEndpointResponse id) := by
  rw [reconcileBatchResponses_eq, mem_append, mem_map, mem_map] at h
  rcases h with ⟨⟨r, slot⟩, hp, rfl⟩ | ⟨key, hkey, rfl⟩
  · have hfits := fits_of_mem_kept hp
    cases slot with
    | dropped => exact absurd rfl (ne_dropped_of_mem_trim hp)
    | wildcard =>
      refine .inl ⟨kept_wildcards_perm.subset (mem_map.mpr ⟨_, ?_, rfl⟩), hfits⟩
      exact mem_filter.mpr ⟨hp, decide_eq_true rfl⟩
    | answers =>
      obtain ⟨id, hid, rfl⟩ := Option.map_eq_some_iff.mp hfits
      exact .inr (.inl ⟨id, hp, hid⟩)
  · obtain ⟨id, -, rfl, hrep⟩ := representative_of_mem_filledKeys hkey
    exact .inr (.inr ⟨id, hkey, by rw [hrep]⟩)

/-! ### The check of the ids -/

theorem nullIDCount_map_fst {xs : List (β × Slot)} (hfits : ∀ p ∈ xs, Fits lib p ∧ p.2 ≠ .dropped) :
    nullIDCount lib (xs.map Prod.fst) = (xs.filter (fun p => p.2 = .wildcard)).length +
    ((xs.filter (fun p => p.2 = .answers nullKey)).map Prod.fst).countP (hasNoID lib) := by
  induction xs with
  | nil => rfl
  | cons p xs ih =>
    have ih := ih (fun q hq => hfits q (mem_cons_of_mem _ hq))
    obtain ⟨hp, hdropped⟩ := hfits p mem_cons_self
    obtain ⟨r, slot⟩ := p
    rw [nullIDCount] at ih ⊢
    cases slot with
    | dropped => exact absurd rfl hdropped
    | wildcard => simp [ih, hp.2, Nat.add_right_comm]
    | answers key =>
      obtain ⟨id, hid, hkey⟩ := Option.map_eq_some_iff.mp hp
      by_cases hnull : key = nullKey
      · simp [ih, hnull, hid, hasNoID, countP_cons, Nat.add_assoc]
      · have hset : id.isEmpty = false := isEmpty_eq_false_of_string (hkey ▸ hnull)
        simp [ih, hnull, hid, hset]

theorem nullIDCount_reconcileBatchResponses :
    nullIDCount lib (reconcileBatchResponses lib rs ids) = (wildcardResponses lib ids rs).length +
      (latestNull lib ids rs).countP (hasNoID lib) + (filledKeys lib ids rs).countP
      (fun key => (((representative ids).lookup key).getD .unset).isEmpty) := by
  have hfits : ∀ p ∈ (read lib ids rs).kept, Fits lib p ∧ p.2 ≠ .dropped :=
    fun p hp => ⟨fits_of_mem_kept hp, ne_dropped_of_mem_trim hp⟩
  have hkept := nullIDCount_map_fst hfits
  rw [kept_nullAnswers, ← length_map Prod.fst, kept_wildcards_perm.length_eq] at hkept
  rw [reconcileBatchResponses_eq, nullIDCount, countP_append, ← nullIDCount, hkept,
    countP_map]
  congr 2
  funext key
  simp [responseIDOf_render]

def Carries (lib : JSONLib β) (rs : List β) (key : String) : Prop :=
  ∃ r ∈ rs, ∃ id, responseIDOf lib r = some id ∧ id.isEmpty = false ∧ id.string = key

theorem mem_matchedRequestIDs {rs : List β} : key ∈ matchedRequestIDs lib rs ids ↔
    (∃ id ∈ ids, id.isEmpty = false ∧ id.string = key) ∧ Carries lib rs key := by
  rw [matchedRequestIDs, mem_filterMap]
  constructor
  · rintro ⟨r, hr, hkey⟩
    obtain ⟨respID, hresp, hkey⟩ := Option.bind_eq_some_iff.mp hkey
    obtain ⟨hresp, hset⟩ := Option.filter_eq_some_iff.mp hresp
    obtain ⟨id, hfind, rfl⟩ := Option.map_eq_some_iff.mp hkey
    have hset : respID.isEmpty = false := by simpa using hset
    have hequal := find?_some hfind
    have hidset : id.isEmpty = false := (ID.isEmpty_of_equal hequal).trans hset
    exact ⟨⟨id, mem_of_find?_eq_some hfind, hidset, rfl⟩, r, hr, respID, hresp, hset,
      ((ID.equal_iff hidset hset).mp hequal).symm⟩
  · rintro ⟨⟨id, hid, hidset, hidkey⟩, r, hr, respID, hresp, hset, hkey⟩
    have hequal : id.equal respID = true :=
      (ID.equal_iff hidset hset).mpr (hidkey.trans hkey.symm)
    have hsome : (ids.find? (fun reqID => reqID.equal respID)).isSome :=
      find?_isSome.mpr ⟨id, hid, hequal⟩
    obtain ⟨found, hfound⟩ := Option.isSome_iff_exists.mp hsome
    have hfequal := find?_some hfound
    have hfset : found.isEmpty = false := (ID.isEmpty_of_equal hfequal).trans hset
    have hfkey : found.string = key := ((ID.equal_iff hfset hset).mp hfequal).trans hkey
    refine ⟨r, hr, ?_⟩
    rw [hresp, Option.filter_some, hset]
    simp [hfound, hfkey]

theorem mem_keys_of_carries (h : Carries lib (reconcileBatchResponses lib rs ids) key) :
    key ∈ keptKeys lib ids rs ++ filledKeys lib ids rs := by
  obtain ⟨r, hr, id, hid, hset, rfl⟩ := h
  rcases mem_reconcileBatchResponses_cases hr with ⟨-, -, hempty⟩ | ⟨other, hp, hother⟩ |
    ⟨other, hother, rfl⟩
  · simp [hid, hset] at hempty
  · rw [hother, Option.some.injEq] at hid
    subst hid
    exact mem_append_left _ (mem_filterMap.mpr ⟨_, hp, rfl⟩)
  · rw [responseIDOf_render, Option.some.injEq] at hid
    subst hid
    exact mem_append_right _ hother

theorem carries_of_mem_kept (hp : (r, .answers key) ∈ (read lib ids rs).kept)
    (hid : responseIDOf lib r = some id) (hset : id.isEmpty = false) :
    Carries lib (reconcileBatchResponses lib rs ids) key := by
  refine ⟨r, ?_, id, hid, hset, string_eq_of_fits (fits_of_mem_kept hp) hid⟩
  rw [reconcileBatchResponses_eq]
  exact mem_append_left _ (mem_map_of_mem hp)

theorem carries_of_mem_filledKeys (hkey : key ∈ filledKeys lib ids rs)
    (hrep : ((representative ids).lookup key).getD .unset = id) (hset : id.isEmpty = false)
    (hstring : id.string = key) : Carries lib (reconcileBatchResponses lib rs ids) key := by
  refine ⟨lib.render (errResponseNoEndpointResponse id), ?_, id, responseIDOf_render id, hset,
    hstring⟩
  rw [reconcileBatchResponses_eq]
  exact mem_append_right _ (mem_map.mpr ⟨key, hkey, by rw [hrep]⟩)

theorem carries_of_mem_keys (hkey : key ≠ nullKey)
    (h : key ∈ keptKeys lib ids rs ++ filledKeys lib ids rs) :
    Carries lib (reconcileBatchResponses lib rs ids) key := by
  have hset {id : ID} (hid : id.string = key) : id.isEmpty = false :=
    isEmpty_eq_false_of_string (hid ▸ hkey)
  rcases mem_append.mp h with h | h
  · obtain ⟨⟨r, slot⟩, hp, hslot⟩ := mem_filterMap.mp h
    cases slot with
    | dropped | wildcard => cases hslot
    | answers =>
      cases hslot
      obtain ⟨id, hid, hstring⟩ := Option.map_eq_some_iff.mp (fits_of_mem_kept hp)
      exact carries_of_mem_kept hp hid (hset hstring)
  · obtain ⟨id, -, hstring, hrep⟩ := representative_of_mem_filledKeys h
    exact carries_of_mem_filledKeys h hrep (hset hstring) hstring

def exhausted (lib : JSONLib β) (requestIDs : List ID) (responses : List β) (key : String) :
    Bool :=
  decide (key ≠ nullKey ∧
    (covered lib requestIDs responses).count key = (requestIDs.map ID.string).count key)

theorem countP_eq_of_count_eq {xs ys : List String} {q : String → Bool}
    (h : ∀ key, q key = true → xs.count key = ys.count key) : xs.countP q = ys.countP q := by
  have hperm : (xs.filter q).Perm (ys.filter q) := by
    refine perm_iff_count.mpr (fun key => ?_)
    by_cases hkey : q key = true
    · rw [count_filter hkey, count_filter hkey, h key hkey]
    · rw [count_eq_zero_of_not_mem (fun hmem => hkey (mem_filter.mp hmem).2),
        count_eq_zero_of_not_mem (fun hmem => hkey (mem_filter.mp hmem).2)]
  rw [countP_eq_length_filter, countP_eq_length_filter, hperm.length_eq]

theorem count_requestKeys (key : String) : (ids.map ID.string).count key =
    (covered lib ids rs).count key + (keptKeys lib ids rs ++ filledKeys lib ids rs).count key := by
  rw [← count_append, requestKeys_perm.count_eq]

theorem matched_iff_not_exhausted (hid : id ∈ ids) (hkey : id.string ≠ nullKey) :
    id.string ∈ matchedRequestIDs lib (reconcileBatchResponses lib rs ids) ids ↔
    exhausted lib ids rs id.string = false := by
  have hset : id.isEmpty = false := isEmpty_eq_false_of_string hkey
  have hcarries : Carries lib (reconcileBatchResponses lib rs ids) id.string ↔
      0 < (keptKeys lib ids rs ++ filledKeys lib ids rs).count id.string :=
    ⟨fun h => count_pos_iff.mpr (mem_keys_of_carries h),
      fun h => carries_of_mem_keys hkey (count_pos_iff.mp h)⟩
  have hcount := @count_requestKeys β lib ids rs id.string
  rw [mem_matchedRequestIDs, hcarries, exhausted, decide_eq_false_iff_not]
  constructor
  · rintro ⟨-, hpos⟩ ⟨-, heq⟩
    omega
  · intro h
    refine ⟨⟨id, hid, hset, rfl⟩, ?_⟩
    have hne := mt (And.intro hkey) h
    omega

theorem unmatchedCount_reconcileBatchResponses : unmatchedCount lib
    (reconcileBatchResponses lib rs ids) ids = (covered lib ids rs).countP (exhausted lib ids rs) +
    (if nullKey ∈ matchedRequestIDs lib (reconcileBatchResponses lib rs ids) ids then 0 else
    nullRequests ids) := by
  set matched := matchedRequestIDs lib (reconcileBatchResponses lib rs ids) ids with hmatched
  have hnonnull : ((ids.map ID.string).filter (fun key => !(key == nullKey))).countP
      (fun key => !matched.contains key) = (covered lib ids rs).countP (exhausted lib ids rs) := by
    rw [countP_filter]
    calc (ids.map ID.string).countP (fun key => !matched.contains key && !(key == nullKey))
        = (ids.map ID.string).countP (exhausted lib ids rs) := by
          refine countP_congr (fun key hkey => ?_)
          obtain ⟨id, hid, rfl⟩ := mem_map.mp hkey
          by_cases hnull : id.string = nullKey
          · simp [hnull, exhausted]
          · have hiff := @matched_iff_not_exhausted β lib ids rs id hid hnull
            rw [← hmatched] at hiff
            simp [hnull, hiff]
      _ = (covered lib ids rs).countP (exhausted lib ids rs) :=
          countP_eq_of_count_eq (fun key hkey => (of_decide_eq_true hkey).2.symm)
  have hnull : ((ids.map ID.string).filter (· == nullKey)).countP
      (fun key => !matched.contains key) = if nullKey ∈ matched then 0 else nullRequests ids := by
    rw [filter_beq, countP_replicate, nullRequests]
    by_cases hmem : nullKey ∈ matched <;> simp [hmem]
  have hmap : unmatchedCount lib (reconcileBatchResponses lib rs ids) ids =
      (ids.map ID.string).countP (fun key => !matched.contains key) := by
    rw [countP_map]
    rfl
  rw [hmap, countP_eq_countP_filter_add _ _ (· == nullKey), hnull, hnonnull, Nat.add_comm]

theorem length_covered
    (hroom : (wildcardResponses lib ids rs).length ≤ (unanswered lib ids rs).length) :
    (covered lib ids rs).length = (wildcardResponses lib ids rs).length := by
  rw [covered, length_take, Nat.min_eq_left hroom]

theorem length_covered_eq :
    (covered lib ids rs).length = (covered lib ids rs).count nullKey + (covered lib ids rs).countP
      (exhausted lib ids rs) + spare lib ids rs := by
  have hsplit : ∀ key, (!(key == nullKey) && !exhausted lib ids rs key) =
      decide (key ≠ nullKey ∧ (covered lib ids rs).count key < (ids.map ID.string).count key) := by
    intro key
    have hcount := @count_requestKeys β lib ids rs key
    by_cases hkey : key = nullKey
    · simp [hkey]
    · have hle : (covered lib ids rs).count key ≤ (ids.map ID.string).count key := by omega
      simp [exhausted, hkey, Nat.lt_iff_le_and_ne, hle]
  have hexhausted : ∀ key, (!(key == nullKey) && exhausted lib ids rs key) =
      exhausted lib ids rs key := by
    intro key
    by_cases hkey : key = nullKey <;> simp [exhausted, hkey]
  have hnonnull : (covered lib ids rs).countP (fun key => !(key == nullKey)) =
      (covered lib ids rs).countP (exhausted lib ids rs) + spare lib ids rs := by
    rw [countP_eq_countP_filter_add _ _ (exhausted lib ids rs),
      countP_filter, countP_filter, funext hexhausted, funext hsplit, spare]
  rw [Nat.add_assoc, ← hnonnull, length_eq_countP_add_countP (· == nullKey), count]
  exact congrArg _ (countP_congr (by simp))

theorem latestNull_length : (latestNull lib ids rs).length = (keptKeys lib ids rs).count nullKey :=
    by
  rw [keptKeys, count_filterMap_key, ← kept_nullAnswers, length_map]

theorem strays_add :
    (latestNull lib ids rs).countP (hasNoID lib) + strays lib ids rs =
      (keptKeys lib ids rs).count nullKey := by
  rw [← latestNull_length, strays, length_eq_countP_add_countP (hasNoID lib)]
  simp

theorem nullRequests_eq :
    nullRequests ids = (covered lib ids rs).count nullKey +
      (keptKeys lib ids rs).count nullKey + (filledKeys lib ids rs).count nullKey := by
  rw [nullRequests, @count_requestKeys β lib ids rs, count_append, Nat.add_assoc]

theorem countP_filledKeys (h : (∀ id ∈ ids, id.string = nullKey → id.isEmpty = true) ∨
    ¬ Carries lib (reconcileBatchResponses lib rs ids) nullKey) : (filledKeys lib ids rs).countP
    (fun key => (((representative ids).lookup key).getD .unset).isEmpty) =
    (filledKeys lib ids rs).count nullKey := by
  rw [count]
  refine countP_congr (fun key hkey => ?_)
  obtain ⟨id, hid, hstring, hrep⟩ := representative_of_mem_filledKeys hkey
  rw [hrep, beq_iff_eq]
  constructor
  · intro hempty
    exact hstring ▸ string_eq_nullKey hempty
  · intro hnull
    rcases h with h | h
    · exact h id hid (hstring.trans hnull)
    · by_contra hset
      subst hnull
      exact h (carries_of_mem_filledKeys hkey hrep (Bool.eq_false_iff.mpr hset) hstring)

theorem strays_eq_zero (h : ¬ Carries lib (reconcileBatchResponses lib rs ids) nullKey) :
    strays lib ids rs = 0 := by
  refine countP_eq_zero.mpr (fun r hr hstray => h ?_)
  rw [← kept_nullAnswers] at hr
  obtain ⟨⟨r, slot⟩, hp, rfl⟩ := mem_map.mp hr
  obtain ⟨hp, hslot⟩ := mem_filter.mp hp
  have hslot : slot = .answers nullKey := of_decide_eq_true hslot
  subst hslot
  obtain ⟨id, hid, -⟩ := Option.map_eq_some_iff.mp (fits_of_mem_kept hp)
  exact carries_of_mem_kept hp hid (by simpa [hasNoID, hid] using hstray)

theorem unmatched_le_nullIDCount_iff
    (hroom : (wildcardResponses lib ids rs).length ≤ (unanswered lib ids rs).length) :
    unmatchedCount lib (reconcileBatchResponses lib rs ids) ids ≤ nullIDCount lib
    (reconcileBatchResponses lib rs ids) ↔ (∃ id ∈ ids, id.isEmpty = false ∧ id.string = nullKey) ∨
    strays lib ids rs ≤ spare lib ids rs := by
  have hlength := length_covered hroom
  have hsplit := @length_covered_eq β lib ids rs
  have hstrays := @strays_add β lib ids rs
  have hnulls := @nullRequests_eq β lib ids rs
  rw [unmatchedCount_reconcileBatchResponses, nullIDCount_reconcileBatchResponses]
  by_cases hstr : ∃ id ∈ ids, id.isEmpty = false ∧ id.string = nullKey
  · -- one response with the id "null" matches all requests under the null key at once
    by_cases hcarries : Carries lib (reconcileBatchResponses lib rs ids) nullKey
    · rw [if_pos (mem_matchedRequestIDs.mpr ⟨hstr, hcarries⟩)]
      exact iff_of_true (by omega) (.inl hstr)
    · rw [if_neg (fun h => hcarries (mem_matchedRequestIDs.mp h).2),
        countP_filledKeys (.inr hcarries)]
      have hzero := strays_eq_zero hcarries
      exact iff_of_true (by omega) (.inl hstr)
  · have hunset : ∀ id ∈ ids, id.string = nullKey → id.isEmpty = true :=
      fun id hid hstring => by_contra (fun hset =>
        hstr ⟨id, hid, Bool.eq_false_iff.mpr hset, hstring⟩)
    -- none of them is ever matched: each needs a response without an id of its own
    rw [if_neg (fun h => hstr (mem_matchedRequestIDs.mp h).1), countP_filledKeys (.inl hunset)]
    constructor
    · intro h
      exact .inr (by omega)
    · rintro (h | h)
      · exact absurd h hstr
      · omega

end Counting

/-! ### The array -/

section Array

variable {lib : JSONLib β} {ids : List ID} {rs : List β}

theorem isSome_parse_of_mem {r : β} (h : r ∈ reconcileBatchResponses lib rs ids) :
    (lib.parse r).isSome := by
  rcases mem_reconcileBatchResponses_cases h with ⟨-, hvalid, -⟩ | ⟨id, -, hid⟩ | ⟨id, -, rfl⟩
  · exact hvalid
  · exact isSome_parse_of_responseIDOf hid
  · simp [lib.parse_render]

theorem validateAndBuildBatchResponse_eq_ok {payload : β} :
    validateAndBuildBatchResponse lib rs ids = .ok payload ↔
      (wildcardResponses lib ids rs).length ≤ (unanswered lib ids rs).length ∧
      ((∃ id ∈ ids, id.isEmpty = false ∧ id.string = nullKey) ∨
      strays lib ids rs ≤ spare lib ids rs) ∧
      payload = lib.joinArray (reconcileBatchResponses lib rs ids) := by
  have hlength := @length_reconcileBatchResponses β lib rs ids
  rw [wildcards_read, missing_read] at hlength
  have hparse : (reconcileBatchResponses lib rs ids).all (fun r => (lib.parse r).isSome) = true :=
    all_eq_true.mpr (fun _ => isSome_parse_of_mem)
  rw [validateAndBuildBatchResponse]
  by_cases hroom : (wildcardResponses lib ids rs).length ≤ (unanswered lib ids rs).length
  · have heq : (reconcileBatchResponses lib rs ids).length = ids.length := by
      omega
    rw [← unmatched_le_nullIDCount_iff hroom, if_neg (not_not_intro heq)]
    by_cases hids : unmatchedCount lib (reconcileBatchResponses lib rs ids)
        ids ≤ nullIDCount lib (reconcileBatchResponses lib rs ids)
    · simp [Nat.not_lt.mpr hids, hparse, hroom, hids, eq_comm]
    · simp [Nat.not_le.mp hids]
  · have hne : (reconcileBatchResponses lib rs ids).length ≠ ids.length := by
      omega
    simp [hne, hroom]

theorem isObject_of_responseID {v : Json} {id : ID} (h : responseID v = some id)
    (hset : id.isEmpty = false) : v.isObject = true := by
  cases v with
  | object => rfl
  | null =>
    cases h
    cases hset
  | bool | int | decimal | string | array => cases h

theorem mem_reconcileBatchResponses_of_special {r : β}
    (h : r ∈ wildcardResponses lib ids rs ++ latestNull lib ids rs) :
    r ∈ reconcileBatchResponses lib rs ids := by
  rw [reconcileBatchResponses_eq]
  refine mem_append_left _ ?_
  rcases mem_append.mp h with h | h
  · exact (filter_sublist.map _).subset (kept_wildcards_perm.symm.subset h)
  · rw [← kept_nullAnswers] at h
    exact (filter_sublist.map _).subset h

theorem isObject_values_iff :
    (∀ v ∈ (reconcileBatchResponses lib rs ids).filterMap lib.parse, v.isObject = true) ↔
      ∀ r ∈ wildcardResponses lib ids rs ++ latestNull lib ids rs,
      (lib.parse r).any Json.isObject = true := by
  constructor
  · intro h r hr
    have hmem := mem_reconcileBatchResponses_of_special hr
    obtain ⟨v, hv⟩ := Option.isSome_iff_exists.mp (isSome_parse_of_mem hmem)
    rw [hv, Option.any_some]
    exact h v (mem_filterMap.mpr ⟨r, hmem, hv⟩)
  · intro h v hv
    obtain ⟨r, hr, hparse⟩ := mem_filterMap.mp hv
    have hspecial (hr : r ∈ wildcardResponses lib ids rs ++
        latestNull lib ids rs) : v.isObject = true := by
      simpa [hparse] using h r hr
    rcases mem_reconcileBatchResponses_cases hr with ⟨hwild, -⟩ | ⟨id, hp, hid⟩ | ⟨id, -, rfl⟩
    · exact hspecial (mem_append_left _ hwild)
    · by_cases hnull : id.string = nullKey
      · refine hspecial (mem_append_right _ ?_)
        rw [← kept_nullAnswers]
        exact mem_map.mpr
          ⟨_, mem_filter.mpr ⟨hp, decide_eq_true (congrArg Slot.answers hnull)⟩, rfl⟩
      · rw [responseIDOf, hparse, Option.bind_some] at hid
        exact isObject_of_responseID hid (isEmpty_eq_false_of_string hnull)
    · rw [lib.parse_render, Option.some.injEq] at hparse
      rw [← hparse, errResponseNoEndpointResponse, Json.isObject]

def AnswersKey (lib : JSONLib β) (key : String) (r : β) : Prop :=
  ∃ v, lib.parse r = some v ∧
    ∀ id, responseID v = some id → id.isEmpty = false → id.string = key

theorem answersKey_of_fits {r : β} {slot : Slot} (hfits : Fits lib (r, slot))
    (hslot : slot = .wildcard ∨ slot = .answers key) : AnswersKey lib key r := by
  have hvalid : (lib.parse r).isSome := by
    rcases hslot with rfl | rfl
    · exact hfits.1
    · obtain ⟨id, hid, -⟩ := Option.map_eq_some_iff.mp hfits
      exact isSome_parse_of_responseIDOf hid
  obtain ⟨v, hv⟩ := Option.isSome_iff_exists.mp hvalid
  refine ⟨v, hv, fun id hid hset => ?_⟩
  have hidOf : responseIDOf lib r = some id := by rw [responseIDOf, hv, Option.bind_some, hid]
  rcases hslot with rfl | rfl
  · have hempty := hfits.2
    simp [hidOf, hset] at hempty
  · exact string_eq_of_fits hfits hidOf

theorem exists_keys {xs : List (β × Slot)}
    {keys : List String} (hfits : ∀ p ∈ xs, Fits lib p ∧ p.2 ≠ .dropped)
    (hkeys : keys.length = (xs.filter (fun p => p.2 = .wildcard)).length) :
    ∃ all : List String, all.Perm (keys ++ xs.filterMap (fun p => p.2.key)) ∧
    Forall₂ (AnswersKey lib) all (xs.map Prod.fst) := by
  induction xs generalizing keys with
  | nil =>
    rw [length_eq_zero_iff.mp hkeys]
    exact ⟨[], .refl _, .nil⟩
  | cons p xs ih =>
    obtain ⟨r, slot⟩ := p
    obtain ⟨hr, hdropped⟩ := hfits (r, slot) mem_cons_self
    have hrest := fun q hq => hfits q (mem_cons_of_mem _ hq)
    cases slot with
    | dropped => exact absurd rfl hdropped
    | wildcard =>
      cases keys with
      | nil => simp at hkeys
      | cons key keys =>
        have hlength : keys.length = (xs.filter (fun p => p.2 = .wildcard)).length := by
          simpa using hkeys
        obtain ⟨all, hperm, hall⟩ := ih hrest hlength
        refine ⟨key :: all, ?_, .cons (answersKey_of_fits hr (.inl rfl)) hall⟩
        simpa [filterMap_cons] using hperm
    | answers key =>
      obtain ⟨all, hperm, hall⟩ := ih hrest (by simpa using hkeys)
      refine ⟨key :: all, ?_, .cons (answersKey_of_fits hr (.inr rfl)) hall⟩
      simpa using (hperm.cons key).trans perm_middle.symm

theorem forall₂_answers {order : List ID} {rs : List β}
    (h : Forall₂ (fun id r => AnswersKey lib id.string r) order rs) :
    Forall₂ Answers order (rs.filterMap lib.parse) := by
  induction h with
  | nil => exact .nil
  | cons hr _ ih =>
    obtain ⟨v, hv, hanswers⟩ := hr
    rw [filterMap_cons, hv]
    exact .cons hanswers ih

theorem exists_order
    (hroom : (wildcardResponses lib ids rs).length ≤ (unanswered lib ids rs).length) :
    ∃ order : List ID, order.Perm ids ∧
    Forall₂ Answers order ((reconcileBatchResponses lib rs ids).filterMap lib.parse) := by
  have hlength : (covered lib ids rs).length =
      ((read lib ids rs).kept.filter (fun p => p.2 = .wildcard)).length := by
    rw [length_covered hroom, ← kept_wildcards_perm.length_eq, length_map]
  have hfits : ∀ p ∈ (read lib ids rs).kept, Fits lib p ∧ p.2 ≠ .dropped :=
    fun p hp => ⟨fits_of_mem_kept hp, ne_dropped_of_mem_trim hp⟩
  obtain ⟨keys, hperm, hkept⟩ := exists_keys hfits hlength
  have hfilled : Forall₂ (AnswersKey lib) (filledKeys lib ids rs)
      ((filledKeys lib ids rs).map (fun key =>
        lib.render (errResponseNoEndpointResponse
          (((representative ids).lookup key).getD .unset)))) := by
    rw [forall₂_map_right_iff, forall₂_same]
    intro key hkey
    obtain ⟨id, -, hstring, hrep⟩ := representative_of_mem_filledKeys hkey
    refine ⟨_, lib.parse_render _, fun id' hid' _ => ?_⟩
    rw [hrep, responseID_errResponse, Option.some.injEq] at hid'
    rw [← hid', hstring]
  have hall : Forall₂ (AnswersKey lib) (keys ++ filledKeys lib ids rs)
      (reconcileBatchResponses lib rs ids) := by
    rw [reconcileBatchResponses_eq]
    exact rel_append hkept hfilled
  have hkeys : (keys ++ filledKeys lib ids rs).Perm (ids.map ID.string) := by
    refine (hperm.append_right _).trans ?_
    rw [append_assoc]
    exact requestKeys_perm
  -- the keys are those of the requests in some order
  obtain ⟨order, horder, hids⟩ :=
    (congrFun (congrFun (eq_map_comp_perm ID.string) _) _).mpr hkeys
  rw [horder, forall₂_map_left_iff] at hall
  exact ⟨order, hids, forall₂_answers hall⟩

end Array

theorem validateAndBuildBatchResponse_oneEach_iff {lib : JSONLib β} {ids : List ID} {rs : List β} :
    (∃ payload, validateAndBuildBatchResponse lib rs ids = .ok payload ∧ OneEach lib ids payload) ↔
    Balanced lib ids rs := by
  have hparse : lib.parse (lib.joinArray (reconcileBatchResponses lib rs ids)) =
      some (.array ((reconcileBatchResponses lib rs ids).filterMap lib.parse)) :=
    lib.parse_joinArray _ (fun _ => isSome_parse_of_mem)
  constructor
  · rintro ⟨payload, hok, values, hvalues, hobjects, -⟩
    obtain ⟨hroom, hspared, rfl⟩ := validateAndBuildBatchResponse_eq_ok.mp hok
    rw [hparse, Option.some.injEq, Json.array.injEq] at hvalues
    subst hvalues
    exact ⟨hroom, hspared, isObject_values_iff.mp hobjects⟩
  · rintro ⟨hroom, hspared, hobjects⟩
    exact ⟨_, validateAndBuildBatchResponse_eq_ok.mpr ⟨hroom, hspared, rfl⟩, _, hparse,
      isObject_values_iff.mpr hobjects, exists_order hroom⟩

theorem getBatchHTTPResponse_eq_batch {lib : JSONLib β}
    {ids : List ID} {rawResponses : List (RawEndpointResponse β)} {payload : β} :
    (∃ code, getBatchHTTPResponse lib rawResponses ids = .batch payload code) ↔
      collectResponses lib rawResponses ≠ [] ∧
      validateAndBuildBatchResponse lib (collectResponses lib rawResponses) ids = .ok payload := by
  rw [getBatchHTTPResponse]
  by_cases hempty : collectResponses lib rawResponses = []
  · simp [hempty]
  · cases hres : validateAndBuildBatchResponse lib (collectResponses lib rawResponses) ids with
    | error | ok => simp [hempty]

/-- A batch is answered, with one response object for each of its requests, exactly when the
responses recorded for it are balanced; and the client gets that answer exactly when some
body was recorded too. -/
theorem batch_answered_iff (lib : JSONLib β) (requestIDs : List ID) :
    (∀ responses, (∃ payload, validateAndBuildBatchResponse lib responses requestIDs =
        .ok payload ∧ OneEach lib requestIDs payload) ↔ Balanced lib requestIDs responses) ∧
      ∀ rawResponses, (∃ payload code, getBatchHTTPResponse lib rawResponses requestIDs =
          .batch payload code ∧ OneEach lib requestIDs payload) ↔
        collectResponses lib rawResponses ≠ [] ∧
          Balanced lib requestIDs (collectResponses lib rawResponses) := by
  refine ⟨fun responses => validateAndBuildBatchResponse_oneEach_iff, fun rawResponses => ?_⟩
  rw [← validateAndBuildBatchResponse_oneEach_iff]
  constructor
  · rintro ⟨payload, code, hbatch, hone⟩
    obtain ⟨hne, hok⟩ := getBatchHTTPResponse_eq_batch.mp ⟨code, hbatch⟩
    exact ⟨hne, payload, hok, hone⟩
  · rintro ⟨hne, payload, hok, hone⟩
    obtain ⟨code, hbatch⟩ := getBatchHTTPResponse_eq_batch.mpr ⟨hne, hok⟩
    exact ⟨payload, code, hbatch, hone⟩

def parseErrorBody : RawText :=
  .json (.object [("jsonrpc", .string "2.0"), ("id", .null), ("error", .object
    [("code", .int (-32700)), ("message", .string "parse error")])])

def blockNumberBody : RawText :=
  .json (.object [("jsonrpc", .string "2.0"), ("id", .int 1), ("result", .string "0x10")])

theorem answered_batch_rejected :
    validateAndBuildBatchResponse JSONLib.raw [parseErrorBody, blockNumberBody]
        [.int 1 (by decide)] = .error (.lengthMismatch 1 2 "[null,1]") ∧
      getBatchHTTPResponse JSONLib.raw [⟨.empty, 0⟩] [.int 1 (by decide)] = .batchEmpty ∧
      validateAndBuildBatchResponse JSONLib.raw [.json (.string "bad gateway")]
        [.int 1 (by decide)] = .ok (.json (.array [.string "bad gateway"])) := by
  refine ⟨?_, ?_, ?_⟩
  · rfl
  · rfl
  · rfl

end JsonRPC

end PathGateway
