import PathGateway.BlockConsensus

/-! The window of the block consensus holds reports, not endpoints. What one endpoint can do
to the perceived height is told by counting the reports that the window keeps. -/

namespace PathGateway

open List

namespace BlockHeightConsensus

open OrderStatistics

section Counting

variable {heights : List ℕ} {syncAllowance allowance bound h : ℕ}

def Within (heights : List ℕ) (allowance h : ℕ) : Prop :=
  ∃ x y, 2 * h ≤ x + y + 2 * allowance ∧
    heights.length < 2 * heights.countP (fun z => decide (x ≤ z)) ∧
    heights.length ≤ 2 * heights.countP (fun z => decide (y ≤ z))

/-- Some height above the bound is within reach of the median; or none but zeros is, and the
median is itself above the bound. -/
def Outvoted (heights : List ℕ) (allowance bound : ℕ) : Prop :=
  (∃ h ∈ heights, bound < h ∧ Within heights allowance h) ∨
    (∀ h ∈ heights, Within heights allowance h → h = 0) ∧ Within heights 0 (bound + 1)

theorem within_iff (hs : heights.Pairwise (· ≤ ·)) (hl : 0 < heights.length) :
    Within heights allowance h ↔ h ≤ median heights + allowance := by
  rw [← Nat.sub_le_iff_le_add, le_median_iff hs hl, Within]
  refine exists₂_congr fun x y => and_congr_left' ?_
  omega

theorem perceivedOf_le_iff (hs : heights.Pairwise (· ≤ ·)) (hl : 0 < heights.length) :
    perceivedOf syncAllowance heights ≤ bound ↔
      ¬Outvoted heights (syncAllowance * defaultMaxDeviationMultiplier) bound := by
  rw [← not_lt, not_iff_not, Outvoted]
  simp only [within_iff hs hl]
  rw [perceivedOf]
  set reach := median heights + syncAllowance * defaultMaxDeviationMultiplier
  by_cases hzero : maxValid reach heights = 0
  · have hnone : ∀ h ∈ heights, h ≤ reach → h = 0 := by
      intro h hmem hle
      exact Nat.eq_zero_of_le_zero (hzero ▸ le_maxValid hmem hle)
    rw [if_pos hzero]
    constructor
    · intro hlt
      exact .inr ⟨hnone, hlt⟩
    · rintro (⟨h, hmem, hlt, hle⟩ | ⟨-, hlt⟩)
      · have := hnone h hmem hle
        omega
      · exact hlt
  · obtain ⟨hmem, hle⟩ := maxValid_mem (Nat.pos_of_ne_zero hzero)
    rw [if_neg hzero]
    constructor
    · intro hlt
      exact .inl ⟨_, hmem, hlt, hle⟩
    · rintro (⟨h, hmem, hlt, hle⟩ | ⟨hnone, -⟩)
      · exact hlt.trans_le (le_maxValid hmem hle)
      · exact absurd (hnone _ hmem hle) hzero

theorem outvoted_congr {heights' : List ℕ} (hperm : heights.Perm heights') :
    Outvoted heights allowance bound ↔ Outvoted heights' allowance bound := by
  simp only [Outvoted, Within, hperm.length_eq, hperm.countP_eq, hperm.mem_iff]

theorem not_outvoted_of_majority {H : ℕ}
    (hmaj : heights.length < 2 * heights.countP (fun z => decide (z ≤ H)))
    (hbound : H + allowance ≤ bound) : ¬Outvoted heights allowance bound := by
  have hle : ∀ x, heights.length ≤ 2 * heights.countP (fun z => decide (x ≤ z)) → x ≤ H := by
    intro x hx
    by_contra hlt
    have hdisjoint : heights.countP (fun z => decide (x ≤ z)) ≤
        heights.countP (fun z => decide ¬decide (z ≤ H) = true) := by
      refine countP_mono_left fun z _ hz => ?_
      rw [decide_eq_true_iff] at hz ⊢
      rw [decide_eq_true_iff]
      omega
    have hsplit := length_eq_countP_add_countP (fun z => decide (z ≤ H)) (l := heights)
    omega
  have hwithin : ∀ a h, Within heights a h → h ≤ H + a := by
    rintro a h ⟨x, y, hxy, hx, hy⟩
    have := hle x hx.le
    have := hle y hy
    omega
  rintro (⟨h, -, hlt, hh⟩ | ⟨-, hh⟩)
  · have := hwithin _ _ hh
    omega
  · have := hwithin _ _ hh
    omega

end Counting

/-- A call of `AddObservation`: the report with the time of the call, and the clock as it is
read again. -/
structure Report where
  obs : BlockObservation
  clock : Time
  deriving DecidableEq, Repr

def addReports (order : NewestFirst) (c : BlockHeightConsensus) (reports : List Report) :
    BlockHeightConsensus :=
  reports.foldl (fun c r =>
    c.addObservation order r.obs.endpointAddr r.obs.blockHeight r.obs.observedAt r.clock) c

/-- The newest reports, up to the size of the window: one by one, each in place of the oldest
where there is no room. -/
def newest (order : NewestFirst) (observations : List BlockObservation) : List BlockObservation :=
  observations.foldl (fun kept obs =>
    if defaultMaxObservations < kept.length + 1 then
      (order.sort (kept ++ [obs])).take defaultMaxObservations
    else kept ++ [obs]) []

/-- At least three endpoints of which all but the liar report only heights in `[1, H]`, each at
least once, all reports lying within one observation window. -/
structure OneLiar (H : ℕ) (endpoints : Finset EndpointAddr) (liar : EndpointAddr)
    (reports : List Report) : Prop where
  three : 3 ≤ endpoints.card
  liar_mem : liar ∈ endpoints
  known : ∀ r ∈ reports, r.obs.endpointAddr ∈ endpoints
  honest : ∀ r ∈ reports, r.obs.endpointAddr ≠ liar →
    1 ≤ r.obs.blockHeight ∧ r.obs.blockHeight ≤ H
  reported : ∀ e ∈ endpoints, e ≠ liar → ∃ r ∈ reports, r.obs.endpointAddr = e
  inRange : ∀ r ∈ reports, r.obs.blockHeight < 2 ^ 63
  inWindow : ∀ a ∈ reports, ∀ b ∈ reports,
    b.obs.observedAt < a.obs.observedAt + defaultObservationWindow

section Window

variable {order : NewestFirst} {c : BlockHeightConsensus} {reports : List Report} {r : Report}
  {observations : List BlockObservation} {obs : BlockObservation}

theorem addReports_concat :
    addReports order c (reports ++ [r]) = (addReports order c reports).addObservation
      order r.obs.endpointAddr r.obs.blockHeight r.obs.observedAt r.clock :=
    by
  rw [addReports, foldl_append]
  rfl

theorem newest_concat :
    newest order (observations ++ [obs]) =
      if defaultMaxObservations < (newest order observations).length + 1 then
      (order.sort (newest order observations ++ [obs])).take defaultMaxObservations
      else newest order observations ++ [obs] := by
  rw [newest, foldl_append]
  rfl

theorem mem_of_mem_newest (h : obs ∈ newest order observations) : obs ∈ observations := by
  induction observations using reverseRecOn with
  | nil => exact h
  | append_singleton observations x ih =>
    have hmem : obs ∈ newest order observations ++ [x] := by
      rw [newest_concat] at h
      split at h
      · exact (order.perm _).mem_iff.mp (mem_of_mem_take h)
      · exact h
    rcases mem_append.mp hmem with hmem | hmem
    · exact mem_append_left _ (ih hmem)
    · exact mem_append_right _ hmem

theorem length_newest :
    (newest order observations).length = min observations.length defaultMaxObservations := by
  induction observations using reverseRecOn with
  | nil => rfl
  | append_singleton =>
    rw [newest_concat, length_append, length_singleton]
    split
    · rw [length_take, (order.perm _).length_eq, length_append, length_singleton]
      omega
    · rw [length_append, length_singleton]
      omega

theorem observations_addReports (order : NewestFirst) (hempty : c.observations = [])
    (hwindow : ∀ a ∈ reports, ∀ b ∈ reports,
    b.obs.observedAt < a.obs.observedAt + defaultObservationWindow) :
    (addReports order c reports).observations = newest order (reports.map (·.obs)) := by
  induction reports using reverseRecOn with
  | nil => exact hempty
  | append_singleton reports r ih =>
    have hsub : ∀ a ∈ reports, a ∈ reports ++ [r] := fun a => mem_append_left _
    have hkept := ih fun a ha b hb => hwindow a (hsub a ha) b (hsub b hb)
    have hvalid : ∀ obs ∈ newest order (reports.map (·.obs)) ++ [r.obs],
        decide (r.obs.observedAt < obs.observedAt + defaultObservationWindow) = true := by
      intro obs hobs
      obtain ⟨a, ha, rfl⟩ : ∃ a ∈ reports ++ [r], a.obs = obs := by
        rcases mem_append.mp hobs with hobs | hobs
        · obtain ⟨a, ha, rfl⟩ := mem_map.mp (mem_of_mem_newest hobs)
          exact ⟨a, hsub a ha, rfl⟩
        · exact ⟨r, by simp, (mem_singleton.mp hobs).symm⟩
      exact decide_eq_true (hwindow a ha r (by simp))
    rw [addReports_concat, map_append, map_singleton, newest_concat, ← hkept]
    rw [← hkept] at hvalid
    simp only [addObservation, pruneObservationsLocked, filter_eq_self.mpr hvalid,
      length_append, length_singleton]

theorem frame_addReports (order : NewestFirst) (c : BlockHeightConsensus) (reports : List Report) :
    (addReports order c reports).syncAllowance = c.syncAllowance ∧
    (addReports order c reports).externalBlockHeight = c.externalBlockHeight := by
  induction reports using reverseRecOn with
  | nil => exact ⟨rfl, rfl⟩
  | append_singleton reports r ih =>
    rw [addReports_concat]
    exact ih

theorem cachedPerceived_addReports (order : NewestFirst)
    (c : BlockHeightConsensus) (hne : reports ≠ []) :
    ∃ clock, (addReports order c reports).cachedPerceived =
      (addReports order c reports).calculatePerceivedLocked (m := Id) clock := by
  obtain ⟨rs, r, rfl⟩ := (eq_nil_or_concat reports).resolve_left hne
  refine ⟨r.clock, ?_⟩
  rw [concat_eq_append, addReports_concat]
  rfl

end Window

section OneLiar

variable {order : NewestFirst} {c : BlockHeightConsensus} {H : ℕ}
  {endpoints : Finset EndpointAddr} {liar : EndpointAddr} {reports : List Report}

theorem withExternalFloor_of_zero {m : Type → Type} [Monad m] [Uint64.Arith m] {clock : Time}
    {p : ℕ} (hext : c.externalBlockHeight = 0) : c.withExternalFloor clock p = (pure p : m ℕ) := by
  rw [withExternalFloor, hext]
  exact if_neg (fun h => lt_irrefl 0 h.1)

theorem OneLiar.three_le_length (h : OneLiar H endpoints liar reports)
    (hr : ∃ r ∈ reports, r.obs.endpointAddr = liar) : 3 ≤ reports.length := by
  have hsub : endpoints ⊆ (reports.map (·.obs.endpointAddr)).toFinset := by
    intro e he
    rw [mem_toFinset, mem_map]
    by_cases hne : e = liar
    · exact hne ▸ hr
    · exact h.reported e he hne
  calc 3 ≤ endpoints.card := h.three
    _ ≤ (reports.map (·.obs.endpointAddr)).toFinset.card := Finset.card_le_card hsub
    _ ≤ (reports.map (·.obs.endpointAddr)).length := toFinset_card_le _
    _ = reports.length := length_map _

theorem OneLiar.ne_nil (h : OneLiar H endpoints liar reports) : reports ≠ [] := by
  obtain ⟨e, he, hne⟩ := endpoints.exists_mem_ne (by have := h.three; omega) liar
  obtain ⟨r, hr, -⟩ := h.reported e he hne
  exact ne_nil_of_mem hr

/-- After the reports the perceived height is within the bound exactly if the reports that the
window keeps do not outvote it. -/
theorem perceived_le_iff_not_outvoted (hempty : c.observations = [])
    (hext : c.externalBlockHeight = 0) (h : OneLiar H endpoints liar reports)
    (hallow : 3 * c.syncAllowance < 2 ^ 62) :
    (addReports order c reports).cachedPerceived ≤ H + 3 * c.syncAllowance ↔
      ¬Outvoted ((newest order (reports.map (·.obs))).map (·.blockHeight))
        (3 * c.syncAllowance) (H + 3 * c.syncAllowance) := by
  obtain ⟨hallow', hext'⟩ := frame_addReports order c reports
  have hkept := observations_addReports order hempty h.inWindow
  obtain ⟨clock, hcached⟩ := cachedPerceived_addReports order c h.ne_nil
  rw [hcached, ← hkept]
  set c' := addReports order c reports
  have hfrom : ∀ obs ∈ c'.observations, ∃ r ∈ reports, r.obs = obs := by
    intro obs hobs
    exact mem_map.mp (mem_of_mem_newest (hkept ▸ hobs))
  have hlt : ∀ obs ∈ c'.observations, obs.blockHeight < 2 ^ 63 := by
    intro obs hobs
    obtain ⟨r, hr, rfl⟩ := hfrom obs hobs
    exact h.inRange r hr
  have hpos : 0 < c'.observations.length := by
    have := length_pos_iff.mpr h.ne_nil
    rw [hkept, length_newest, length_map, defaultMaxObservations]
    omega
  have hl : 0 < (extractHeightsLocked c'.observations).length := by
    rwa [length_extractHeightsLocked]
  by_cases hlen : 3 ≤ c'.observations.length
  · have hmedian : median (extractHeightsLocked c'.observations) < 2 ^ 63 := by
      refine median_lt (Nat.two_pow_pos 63) fun h hmem => ?_
      obtain ⟨obs, hobs, rfl⟩ := mem_extractHeightsLocked.mp hmem
      exact hlt obs hobs
    have hchecked := checked_calculatePerceivedLocked clock hlen hlt (by
      rw [hallow', defaultMaxDeviationMultiplier]
      omega)
    rw [withExternalFloor_of_zero (hext'.trans hext)] at hchecked
    rw [agrees_calculatePerceivedLocked _ hchecked,
      perceivedOf_le_iff sorted_extractHeightsLocked hl, hallow', mul_comm]
    exact not_congr (outvoted_congr (perm_insertionSort _ _))
  · -- too few reports for one of the liar's to be among them
    have hfew : reports.length < 3 := by
      rw [hkept, length_newest, length_map, defaultMaxObservations] at hlen
      omega
    have hhonest : ∀ obs ∈ c'.observations, obs.blockHeight ≤ H := by
      intro obs hobs
      obtain ⟨r, hr, rfl⟩ := hfrom obs hobs
      refine (h.honest r hr fun hliar => ?_).2
      have := h.three_le_length ⟨r, hr, hliar⟩
      omega
    refine iff_of_true ?_ (not_outvoted_of_majority ?_ le_rfl)
    · obtain ⟨obs, hobs, heq⟩ := calculatePerceivedLocked_of_few (m := Id) clock
        hpos (not_le.mp hlen)
      have := hhonest obs hobs
      rw [heq]
      exact this.trans (Nat.le_add_right _ _)
    · have hall : c'.observations.countP ((fun z => decide (z ≤ H)) ∘ (·.blockHeight)) =
          c'.observations.length :=
        countP_eq_length.mpr fun obs hobs => decide_eq_true (hhonest obs hobs)
      rw [countP_map, length_map, hall]
      omega

def threeReports : List Report :=
  [⟨⟨100, 1, "a"⟩, 1⟩, ⟨⟨100, 2, "b"⟩, 2⟩, ⟨⟨1000000, 3, "m"⟩, 3⟩, ⟨⟨1000000, 4, "m"⟩, 4⟩,
    ⟨⟨1000000, 5, "m"⟩, 5⟩]

theorem perceived_le_iff_not_outvoted_once :
    (addReports .stable (new 5 0) (threeReports.take 3)).cachedPerceived ≤ 100 + 3 * 5 := by
  have honce : OneLiar 100 {"a", "b", "m"} "m" (threeReports.take 3) :=
    ⟨by decide, by decide, by decide, by decide, by decide, by decide, by decide⟩
  refine (perceived_le_iff_not_outvoted rfl rfl honce (by decide)).mpr ?_
  exact not_outvoted_of_majority (by decide) le_rfl

theorem liar_outvotes : OneLiar 100 {"a", "b", "m"} "m" threeReports ∧
    (addReports .stable (new 5 0) threeReports).cachedPerceived = 1000000 :=
  ⟨⟨by decide, by decide, by decide, by decide, by decide, by decide, by decide⟩, by decide +kernel⟩

end OneLiar

end BlockHeightConsensus

end PathGateway
