import PathGateway.EvmSelection

/-! Which endpoints a selection for archival data can return. The validation and the fallback of
the multiple selection admit an endpoint only with archival evidence; the fallback of the single
selection ranks all endpoints by their heights alone. -/

namespace PathGateway.Evm.ServiceState

open Selector Draws List Scored

variable {cfg : Config} {ss : ServiceState} {now : Time} {available : List EndpointAddr}
  {addr : EndpointAddr} {ep : Endpoint} {requiresArchival : Bool} {numEndpoints : ℕ}

/-- The store or the cache holds an unexpired positive status, or the endpoint is unknown while
there is no cache or nothing in it. -/
inductive Evidence (cfg : Config) (ss : ServiceState) (now : Time) (addr : EndpointAddr) : Prop
  | stored (ep : Endpoint) : ss.endpoints.lookup addr = some ep →
      ep.checkArchival.isValid now = true → Evidence cfg ss now addr
  | cached : ss.cachedArchival cfg now addr = true → Evidence cfg ss now addr
  | unknown : ss.endpoints.lookup addr = none →
      (∀ cache ∈ ss.archivalCache, GoMap.isEmpty cache = true) → Evidence cfg ss now addr

theorem basicEndpointValidation_eq_ok :
    ss.basicEndpointValidation cfg now addr ep requiresArchival = .ok () ↔
      checkResponses now ep = .ok () ∧
      ss.isBlockNumberValid cfg ep.parsedBlockNumberResponse = .ok () ∧
      isChainIDValid cfg ep.chainID = .ok () ∧
      (requiresArchival = true → ss.checkArchival cfg now addr ep = .ok ()) := by
  rw [basicEndpointValidation]
  cases checkResponses now ep with
  | error => simp [bind, Except.bind]
  | ok =>
    cases ss.isBlockNumberValid cfg ep.parsedBlockNumberResponse with
    | error => simp [bind, Except.bind]
    | ok =>
      cases isChainIDValid cfg ep.chainID with
      | error => simp [bind, Except.bind]
      | ok => cases requiresArchival <;> simp [bind, Except.bind, pure, Except.pure]

theorem checkArchival_eq_ok : ss.checkArchival cfg now addr ep = .ok () ↔
    ep.checkArchival.isValid now = true ∨ ss.cachedArchival cfg now addr = true := by
  rw [checkArchival]
  split_ifs with h
  · exact iff_of_true rfl (Bool.or_eq_true_iff.mp h)
  · exact iff_of_false (by simp) (fun h' => h (Bool.or_eq_true_iff.mpr h'))

theorem evidence_of_validateEndpoint (h : (ss.validateEndpoint cfg now true addr).isOk = true) :
    Evidence cfg ss now addr := by
  rw [validateEndpoint] at h
  split at h
  · rename_i hnone
    by_cases hcached : ss.cachedArchival cfg now addr = true
    · exact .cached hcached
    · refine .unknown hnone fun cache hcache => ?_
      by_contra hne
      rw [checkFresh, if_pos] at h
      · cases h
      · simp [Option.mem_def.mp hcache, Bool.eq_false_of_not_eq_true hne,
          Bool.eq_false_of_not_eq_true hcached]
  · rename_i ep hep
    have hok : ss.basicEndpointValidation cfg now addr ep true = .ok () := by
      cases hv : ss.basicEndpointValidation cfg now addr ep true with
      | ok => rfl
      | error =>
        rw [hv] at h
        cases h
    rcases checkArchival_eq_ok.mp ((basicEndpointValidation_eq_ok.mp hok).2.2.2 rfl) with hs | hc
    · exact .stored ep hep hs
    · exact .cached hc

theorem evidence_of_mem_filterArchivalEndpointsForFallback
    (h : addr ∈ ss.filterArchivalEndpointsForFallback cfg now available) :
    Evidence cfg ss now addr := by
  obtain ⟨-, h⟩ := mem_filter.mp h
  rcases Bool.or_eq_true_iff.mp h with hs | hc
  · cases hep : ss.endpoints.lookup addr with
    | none =>
      rw [hep] at hs
      cases hs
    | some ep =>
      rw [hep] at hs
      exact .stored ep hep hs
  · exact .cached hc

section LeastStale

/-- The endpoints that the ranking can put first: all of them without heights to compare, else
those with none before them. -/
def LeastStale (cfg : Config) (ss : ServiceState) (available : List EndpointAddr)
    (addr : EndpointAddr) : Prop :=
  addr ∈ available ∧ (ss.hasChainContext cfg = true →
    ∀ other ∈ available, (ss.score other).less (ss.score addr) = false)

theorem filterStaleURLEndpoints_of_no_context (h : ss.hasChainContext cfg = false) :
    ss.filterStaleURLEndpoints cfg available = available := by
  rw [filterStaleURLEndpoints, if_pos]
  simp only [hasChainContext, ne_eq, decide_not, Bool.and_eq_false_iff, Bool.not_eq_false',
    decide_eq_true_eq, or_assoc] at h
  exact h

theorem Scored.less_trans {a b c : Scored} (hab : b.less a = false) (hbc : c.less b = false) :
    c.less a = false := by
  obtain ⟨_, x, d⟩ := a
  obtain ⟨_, y, e⟩ := b
  obtain ⟨_, z, f⟩ := c
  cases d <;> cases e <;> cases f <;> simp_all [less]
  · omega
  · omega

theorem Scored.less_total (a b : Scored) : b.less a = false ∨ a.less b = false := by
  obtain ⟨_, x, d⟩ := a
  obtain ⟨_, y, e⟩ := b
  cases d <;> cases e <;> simp [less]
  · omega
  · omega

theorem insertionSort_ranked (scored : List Scored) :
    (scored.insertionSort (fun a b => b.less a = false)).Pairwise
    (fun a b => b.less a = false) := by
  have : Std.Total (fun a b : Scored => b.less a = false) := ⟨less_total⟩
  have : IsTrans Scored (fun a b => b.less a = false) := ⟨fun _ _ _ => less_trans⟩
  exact pairwise_insertionSort _ scored

theorem insertionSort_cons_of_first {a : Scored}
    {scored : List Scored} (h : ∀ b ∈ scored, b.less a = false) :
    (a :: scored).insertionSort (fun a b => b.less a = false) =
      a :: scored.insertionSort (fun a b => b.less a = false) := by
  rw [insertionSort_cons]
  cases hsort : scored.insertionSort (fun a b => b.less a = false) with
  | nil => rfl
  | cons b =>
    have hb : b ∈ scored := by
      rw [← mem_insertionSort (fun a b : Scored => b.less a = false), hsort]
      exact mem_cons_self
    rw [orderedInsert_cons, if_pos (h b hb)]

@[simp] theorem score_addr : (ss.score addr).addr = addr := by
  rw [score]
  split <;> rfl

theorem always_selectLeastStaleEndpoints :
    Always (fun picked => (∀ addr ∈ picked, addr ∈ available) ∧
      ∀ addr ∈ picked.head?, LeastStale cfg ss available addr)
      (ss.selectLeastStaleEndpoints cfg available numEndpoints) := by
  have hpos : (if numEndpoints = 0 then 1 else numEndpoints) ≠ 0 := by split <;> omega
  obtain ⟨n, hn⟩ := Nat.exists_eq_succ_of_ne_zero hpos
  rw [selectLeastStaleEndpoints, hn]
  split
  · exact .pure ⟨by simp, by simp⟩
  split_ifs with hctx
  · have hctx : ss.hasChainContext cfg = false := by simpa using hctx
    rw [filterStaleURLEndpoints_of_no_context hctx]
    refine always_randomSelectMultiple.mono fun picked h => ⟨h.2, fun addr haddr => ⟨?_, ?_⟩⟩
    · exact h.2 addr (mem_of_mem_head? haddr)
    · rw [hctx]
      exact fun hfalse => absurd hfalse Bool.false_ne_true
  · refine (always_shuffle _).bind fun shuffled hperm => .pure ?_
    have hmem : ∀ s, s ∈ shuffled.insertionSort (fun a b => b.less a = false) ↔
        ∃ addr ∈ available, ss.score addr = s := by
      intro s
      rw [mem_insertionSort, hperm.mem_iff, mem_map]
    refine ⟨fun addr haddr => ?_, fun addr haddr => ?_⟩
    · obtain ⟨s, hs, rfl⟩ := mem_map.mp haddr
      obtain ⟨addr, haddr, rfl⟩ := (hmem s).mp (mem_of_mem_take hs)
      rwa [score_addr]
    · have hsorted := insertionSort_ranked shuffled
      cases hranked : shuffled.insertionSort (fun a b => b.less a = false) with
      | nil => simp [hranked] at haddr
      | cons s =>
        rw [hranked] at haddr hmem hsorted
        obtain ⟨first, hfirst, rfl⟩ := (hmem s).mp mem_cons_self
        rw [take_succ_cons, map_cons, head?_cons, score_addr] at haddr
        obtain rfl : first = addr := Option.some.inj haddr
        refine ⟨hfirst, fun _ other hother => ?_⟩
        rcases mem_cons.mp ((hmem _).mpr ⟨other, hother, rfl⟩) with heq | hrest
        · rw [heq]
          exact (less_total _ _).elim id id
        · exact (pairwise_cons.mp hsorted).1 _ hrest

theorem always_selectLeastStaleEndpoints_all (hle : available.length ≤ numEndpoints) :
    Always (fun picked => ∀ addr ∈ available, addr ∈ picked)
      (ss.selectLeastStaleEndpoints cfg available numEndpoints) := by
  obtain ⟨n, hn⟩ : ∃ n, (if numEndpoints = 0 then 1 else numEndpoints) = n := ⟨_, rfl⟩
  have hle : available.length ≤ n := by
    split at hn <;> omega
  rw [selectLeastStaleEndpoints, hn]
  split
  · rename_i hnil
    exact .pure (by simp [hnil])
  split_ifs with hctx
  · rw [filterStaleURLEndpoints_of_no_context (by simpa using hctx), randomSelectMultiple,
      if_pos hle]
    exact .pure fun _ h => h
  · refine (always_shuffle _).bind fun shuffled hperm => .pure fun addr haddr => ?_
    have hlength : (shuffled.insertionSort (fun a b => b.less a = false)).length ≤ n := by
      rwa [length_insertionSort, hperm.length_eq, length_map]
    rw [take_of_length_le hlength, mem_map]
    refine ⟨ss.score addr, ?_, score_addr⟩
    rw [mem_insertionSort, hperm.mem_iff]
    exact mem_map_of_mem haddr

theorem always_length_selectLeastStaleEndpoints :
    Always (fun picked => picked.length ≤ max 1 numEndpoints)
      (ss.selectLeastStaleEndpoints cfg available numEndpoints) := by
  obtain ⟨n, hn⟩ : ∃ n, (if numEndpoints = 0 then 1 else numEndpoints) = n := ⟨_, rfl⟩
  have hle : n ≤ max 1 numEndpoints := by
    split at hn <;> omega
  rw [selectLeastStaleEndpoints, hn]
  split
  · exact .pure (Nat.zero_le _)
  split
  · exact always_randomSelectMultiple.mono fun picked hpicked => hpicked.1.trans hle
  · refine (always_true _).bind fun shuffled _ => .pure ?_
    rw [length_map, length_take]
    omega

theorem canReturn_selectLeastStaleEndpoints (h : LeastStale cfg ss available addr) :
    CanReturn (ss.selectLeastStaleEndpoints cfg available 1) [addr] := by
  obtain ⟨haddr, hfirst⟩ := h
  rw [selectLeastStaleEndpoints, if_neg one_ne_zero, if_neg (ne_nil_of_mem haddr)]
  split_ifs with hctx
  · rw [filterStaleURLEndpoints_of_no_context (by simpa using hctx)]
    exact canReturn_randomSelectMultiple haddr
  · have hctx : ss.hasChainContext cfg = true := by simpa using hctx
    obtain ⟨s, t, hsplit⟩ := append_of_mem haddr
    -- a shuffle that puts the endpoint in front leaves it there
    have hperm : (ss.score addr :: (s ++ t).map ss.score).Perm (available.map ss.score) := by
      rw [hsplit, ← map_cons]
      exact perm_middle.symm.map _
    have hbefore : ∀ b ∈ (s ++ t).map ss.score, b.less (ss.score addr) = false := by
      intro b hb
      obtain ⟨other, hother, rfl⟩ := mem_map.mp hb
      refine hfirst hctx other (hsplit ▸ ?_)
      exact perm_middle.mem_iff.mpr (mem_cons_of_mem _ hother)
    refine (canReturn_shuffle hperm).bind ?_
    rw [insertionSort_cons_of_first hbefore]
    simpa using CanReturn.pure (a := [addr])

end LeastStale

section Returns

/-- Every endpoint that the two entry points can return for archival data has evidence. -/
def ReturnsArchival (cfg : Config) (ss : ServiceState) (now : Time)
    (available : List EndpointAddr) : Prop :=
  (∀ numEndpoints ds selected,
    (ss.selectMultipleWithArchival cfg now available numEndpoints true ds).1 = .ok selected →
      ∀ addr ∈ selected, Evidence cfg ss now addr) ∧
  ∀ ds result, (ss.selectWithMetadata cfg now available true ds).1 = .ok result →
    Evidence cfg ss now result.selectedEndpoint

theorem filterValidEndpointsWithDetails_eq_ok {valid : List EndpointAddr}
    {results : List ValidationResult}
    (h : ss.filterValidEndpointsWithDetails cfg now available requiresArchival =
      .ok (valid, results)) :
    ∀ addr, addr ∈ valid ↔
      addr ∈ available ∧ (ss.validateEndpoint cfg now requiresArchival addr).isOk = true := by
  intro addr
  rw [filterValidEndpointsWithDetails] at h
  split at h
  · cases h
  · cases h
    exact mem_filter

theorem always_selectMultipleWithArchival :
    Always (fun r => ∀ selected, r = .ok selected → ∀ addr ∈ selected, Evidence cfg ss now addr)
      (ss.selectMultipleWithArchival cfg now available numEndpoints true) := by
  rw [selectMultipleWithArchival]
  split
  · exact .pure (by simp)
  · rw [if_pos rfl]
    split
    · exact .pure (by simp)
    · rename_i ep eps harchival
      refine always_selectLeastStaleEndpoints.bind fun picked hpicked => .pure ?_
      rintro _ ⟨⟩ addr haddr
      have hmem : addr ∈ ss.filterArchivalEndpointsForFallback cfg now available := by
        rw [harchival]
        exact hpicked.1 addr haddr
      exact evidence_of_mem_filterArchivalEndpointsForFallback hmem
  · rename_i ep eps results hvalid
    refine always_selectDiverse.bind fun picked hpicked => .pure ?_
    rintro _ ⟨⟩ addr haddr
    have hmem := (filterValidEndpointsWithDetails_eq_ok hvalid addr).mp (hpicked.2.1 addr haddr)
    exact evidence_of_validateEndpoint hmem.2

theorem always_selectWithMetadata :
    Always (fun r => ∀ result, r = .ok result → (result.selectedEndpoint ∈ available ∧
      (ss.validateEndpoint cfg now requiresArchival result.selectedEndpoint).isOk = true) ∨
      (∀ addr ∈ available, (ss.validateEndpoint cfg now requiresArchival addr).isOk = false) ∧
      LeastStale cfg ss available result.selectedEndpoint)
      (ss.selectWithMetadata cfg now available requiresArchival) := by
  rw [selectWithMetadata]
  split
  · exact .pure (by simp)
  · rename_i results hvalid
    refine always_selectLeastStaleEndpoints.bind fun picked hpicked => ?_
    split
    · exact .pure (by simp)
    · rename_i ep eps
      refine .pure ?_
      rintro _ ⟨⟩
      refine .inr ⟨fun addr haddr => ?_, hpicked.2 ep rfl⟩
      by_contra hok
      have hmem := (filterValidEndpointsWithDetails_eq_ok hvalid addr).mpr
        ⟨haddr, by simpa using hok⟩
      exact not_mem_nil hmem
  · rename_i ep eps results hvalid
    refine (always_selectWithConcentrationCap (cons_ne_nil ep eps)).bind
      fun selected hselected => .pure ?_
    rintro _ ⟨⟩
    exact .inl ((filterValidEndpointsWithDetails_eq_ok hvalid _).mp hselected)

theorem exists_selectWithMetadata (hleast : LeastStale cfg ss available addr)
    (hnone : ∀ addr ∈ available, (ss.validateEndpoint cfg now requiresArchival addr).isOk = false) :
    ∃ ds result, (ss.selectWithMetadata cfg now available requiresArchival ds).1 = .ok result ∧
    result.selectedEndpoint = addr := by
  have hvalid : ss.filterValidEndpointsWithDetails cfg now available requiresArchival =
      .ok ([], available.map (ss.validationResult cfg now requiresArchival)) := by
    rw [filterValidEndpointsWithDetails, if_neg (ne_nil_of_mem hleast.1),
      filter_eq_nil_iff.mpr fun a ha => by simp [hnone a ha]]
  have hreturn : CanReturn (ss.selectWithMetadata cfg now available requiresArchival)
      (.ok ⟨addr, true, available.map (ss.validationResult cfg now requiresArchival)⟩) := by
    rw [selectWithMetadata, hvalid]
    exact (canReturn_selectLeastStaleEndpoints hleast).bind .pure
  obtain ⟨ds, hds⟩ := hreturn.exists_draws
  exact ⟨ds, _, hds, rfl⟩

/-- Only endpoints with archival evidence can be returned exactly if some endpoint is valid, or
if the least stale ones happen to have evidence. -/
theorem returnsArchival_iff : ReturnsArchival cfg ss now available ↔
    (∃ addr ∈ available, (ss.validateEndpoint cfg now true addr).isOk = true) ∨
      ∀ addr, LeastStale cfg ss available addr → Evidence cfg ss now addr := by
  constructor
  · intro h
    by_cases hvalid : ∃ addr ∈ available, (ss.validateEndpoint cfg now true addr).isOk = true
    · exact .inl hvalid
    · refine .inr fun addr hleast => ?_
      push Not at hvalid
      obtain ⟨ds, result, hresult, rfl⟩ := exists_selectWithMetadata hleast
        fun a ha => Bool.eq_false_of_not_eq_true (hvalid a ha)
      exact h.2 ds result hresult
  · intro h
    refine ⟨fun numEndpoints ds selected => always_selectMultipleWithArchival ds selected,
      fun ds result hresult => ?_⟩
    rcases always_selectWithMetadata ds result hresult with ⟨-, hok⟩ | ⟨hnone, hleast⟩
    · exact evidence_of_validateEndpoint hok
    · rcases h with ⟨addr, haddr, hok⟩ | hevidence
      · rw [hnone addr haddr] at hok
        cases hok
      · exact hevidence _ hleast

def soleEndpoint : ServiceState where
  endpoints := AList.insert addrA {} ∅
  perceivedBlockNumber := 0
  archivalCache := some ∅
  redisURLBlockHeights := none

theorem nonArchival_returned :
    (soleEndpoint.selectWithMetadata .plain 0 [addrA] true []).1.toOption.map
      (·.selectedEndpoint) = some addrA ∧
    ¬Evidence .plain soleEndpoint 0 addrA := by
  constructor
  · decide +kernel
  · rintro (⟨ep, hep, hvalid⟩ | hcached | ⟨hnone, -⟩)
    · cases hep
      cases hvalid
    · cases hcached
    · cases hnone

end Returns

end PathGateway.Evm.ServiceState
