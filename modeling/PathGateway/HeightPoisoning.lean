import PathGateway.CosmosQoS

/-! How far one report can raise the perceived height of a Cosmos service. Relay observations and
external heights are checked; what the observation pipeline extracts and the copy that the
replicas share are taken as they are. -/

namespace PathGateway.Cosmos

open SharedHeight Option

/-- One report has raised the height from `p` to `p'` at most by the jump, and not above the
absolute bound. -/
structure Bounded (p p' : ℕ) : Prop where
  jump : p' ≤ p + maxBlockHeightJump
  absolute : p < p' → p' ≤ maxPlausibleBlockHeight

variable {cfg : Config} {p h : ℕ}

theorem Bounded.refl (p : ℕ) : Bounded p p :=
  ⟨Nat.le_add_right _ _, fun hlt => absurd hlt (Nat.lt_irrefl p)⟩

theorem Bounded.zero (p : ℕ) : Bounded p 0 :=
  ⟨Nat.zero_le _, fun hlt => absurd hlt (Nat.not_lt_zero p)⟩

theorem bounded_max_iff (hpos : 0 < p) :
    Bounded p (max p h) ↔ (p < h → isPlausible h p = true) := by
  by_cases hlt : p < h
  · rw [max_eq_right_of_lt hlt, isPlausible_iff hlt]
    constructor
    · exact fun hbound _ => ⟨hbound.absolute hlt, fun _ => hbound.jump⟩
    · exact fun hok => ⟨(hok hlt).2 hpos, fun _ => (hok hlt).1⟩
  · rw [max_eq_left (Nat.not_lt.mp hlt)]
    exact iff_of_true (.refl p) fun hlt' => absurd hlt' hlt

theorem bounded_reportChecked {sync : SyncConfig} {s : SharedHeight} (hpos : 0 < s.perceived) :
    Bounded s.perceived (s.reportChecked sync h).perceived := by
  rw [reportChecked_eq]
  split_ifs with htaken
  · have hbound := (bounded_max_iff hpos).mpr fun _ => htaken.2
    rw [max_eq_right_of_lt htaken.1] at hbound
    exact hbound
  · exact .refl _

theorem bounded_raiseFrom (ep : Endpoint) (hpos : 0 < p) : Bounded p (raiseFrom cfg p ep) := by
  rw [raiseFrom]
  split
  · rename_i blockNumber _ _
    split
    · rename_i hlt
      split_ifs with hok
      · exact .refl p
      · have hbound := (bounded_max_iff hpos).mpr fun _ => (Bool.not_eq_false _).mp hok
        rw [max_eq_right_of_lt hlt] at hbound
        exact hbound
    · exact .refl p
  · exact .refl p

/-- No single report that the step processes raises a height out of bounds. Observations bring
the reports of several endpoints at once, which are processed one after the other. -/
def BoundedStep (cfg : Config) (q : CosmosQoS) (e : Event) : Prop :=
  match e.action with
  | .updateFromEndpoints i order => ∀ updatedEndpoints ∈ q.updated[i]?,
      ∀ before ep after, CosmosQoS.visited updatedEndpoints order = before ++ ep :: after →
        0 < updateFromEndpoints cfg q.height.perceived before →
        Bounded (updateFromEndpoints cfg q.height.perceived before)
          (updateFromEndpoints cfg q.height.perceived (before ++ [ep]))
  | _ => 0 < q.height.perceived → ∀ q', q.step cfg e = some q' →
      Bounded q.height.perceived q'.height.perceived

/-- What the pipeline has extracted, and what the sync has read of the copy, passes the check if
it is higher. -/
def Guarded (q : CosmosQoS) (e : Event) : Prop :=
  0 < q.height.perceived →
    match e.action with
    | .updateFromExtractedData _ data => q.height.perceived < data.blockHeight.toNat →
        isPlausible data.blockHeight.toNat q.height.perceived = true
    | .share .sync => ∀ v ∈ q.height.fetched, q.height.perceived < v →
        isPlausible v q.height.perceived = true
    | _ => True

namespace CosmosQoS

variable {q : CosmosQoS} {e : Event}

theorem perceived_updateFromExtractedData {addr : EndpointAddr} {data : ExtractedData} :
    (q.updateFromExtractedData cfg addr data).height.perceived =
    max q.height.perceived data.blockHeight.toNat := by
  rw [updateFromExtractedData, ExtractedData.block, extractedHeight]
  by_cases hpos : 0 < data.blockHeight
  · rw [if_pos hpos]
    exact perceived_report
  · rw [if_neg hpos, Int.toNat_of_nonpos (not_lt.mp hpos), Nat.max_zero]
    split
    · rfl
    · rename_i hblock
      split at hblock
      · cases hblock
        exact perceived_report.trans (Nat.max_zero _)
      · cases hblock

theorem bounded_share {a : ShareAction}
    {now : Time} {s' : SharedHeight} {redis' : ℕ} (hpos : 0 < q.height.perceived)
    (hne : a ≠ .sync) (hact : q.height.act cfg.sync q.redis now a = some (s', redis')) :
    Bounded q.height.perceived s'.perceived := by
  cases a with
  | external height =>
    obtain ⟨rfl, -⟩ := Prod.mk.inj (some.inj hact)
    rcases consumeExternalBlockHeight_cases cfg.sync q.height height now with
      hsame | ⟨-, -, hreport⟩
    · rw [hsame]
      exact .refl _
    · rw [hreport]
      exact bounded_reportChecked hpos
  | writeRedis =>
    obtain ⟨h, -, rfl, -⟩ := writeRedis_eq_some hact
    exact .refl _
  | fetch =>
    obtain ⟨s, hs, heq⟩ := map_eq_some_iff.mp hact
    obtain ⟨-, -, rfl⟩ := fetch_eq_some hs
    cases heq
    exact .refl _
  | sync => exact absurd rfl hne
  | reset =>
    obtain ⟨-, heq⟩ := ite_none_left_eq_some.mp hact
    cases heq
    exact .zero _
  | deleteShared =>
    obtain ⟨-, rfl, -⟩ := deletePerceivedBlockNumber_eq_some hact
    exact .refl _
  | redisExpire =>
    cases hact
    exact .refl _

theorem boundedStep_share_iff {a : ShareAction} {now : Time} :
    BoundedStep cfg q ⟨now, .share a⟩ ↔ Guarded q ⟨now, .share a⟩ := by
  refine forall_congr' fun hpos => ?_
  by_cases hsync : a = .sync
  · subst hsync
    change (∀ q', (q.height.sync.map (·, q.redis)).map _ = some q' → _) ↔ ∀ v ∈ q.height.fetched, _
    cases hf : q.height.fetched with
    | none => simp [sync, hf]
    | some => simp [sync, hf, bounded_max_iff hpos]
  · have hguard : Guarded q ⟨now, .share a⟩ := fun _ => by
      cases a with
      | sync => exact absurd rfl hsync
      | _ => trivial
    refine iff_of_true (fun q' hstep => ?_) (hguard hpos)
    obtain ⟨r, hr, rfl⟩ := map_eq_some_iff.mp hstep
    exact bounded_share hpos hsync hr

theorem boundedStep_iff (cfg : Config) (q : CosmosQoS) (e : Event) :
    BoundedStep cfg q e ↔ Guarded q e := by
  obtain ⟨now, action⟩ := e
  cases action with
  | updateFromExtractedData addr data =>
    refine forall_congr' fun hpos => ?_
    change (∀ q', some (q.updateFromExtractedData cfg addr data) = some q' → _) ↔ (_ → _)
    rw [← bounded_max_iff hpos]
    simp only [some.injEq, forall_eq', perceived_updateFromExtractedData]
  | updateFromEndpoints =>
    refine iff_of_true ?_ fun _ => trivial
    intro updatedEndpoints _ before ep after _ hpos
    rw [updateFromEndpoints, updateFromEndpoints, List.foldl_append]
    exact bounded_raiseFrom ep hpos
  | share => exact boundedStep_share_iff
  | syncEndpointBlocks | sweepStaleEndpoints =>
    refine iff_of_true (fun _ q' hstep => ?_) fun _ => trivial
    obtain ⟨-, heq⟩ := ite_none_right_eq_some.mp hstep
    cases heq
    exact .refl _
  | updateEndpointsFromObservations | filterValidEndpoints | otherReplica =>
    refine iff_of_true (fun _ q' hstep => ?_) fun _ => trivial
    cases hstep
    exact .refl _

/-- In every run no single report raises the height out of bounds exactly if, with a height
there, every higher one that is extracted from a response or read from the copy passes the
check. -/
theorem boundedSteps_iff (cfg : Config) (q : CosmosQoS) (events : List Event) :
    Machine.Meets (step cfg) (BoundedStep cfg) q events ↔
      Machine.Meets (step cfg) Guarded q events :=
  ⟨fun h => h.mono fun q e => (boundedStep_iff cfg q e).mp,
    fun h => h.mono fun q e => (boundedStep_iff cfg q e).mpr⟩

def plain : Config := ⟨"", "", 0, [], ⟨false, 0, 0⟩⟩

def extracted (h : ℤ) : Event := ⟨0, .updateFromExtractedData "m" { blockHeight := h }⟩

theorem extracted_height_poisons :
    (Machine.run (step plain) (start 0) [extracted 100]).map (·.height.perceived) = some 100 ∧
    (Machine.run (step plain) (start 0) [extracted 100, extracted (10 ^ 18)]).map
      (·.height.perceived) = some (10 ^ 18) ∧
    ¬Bounded 100 (10 ^ 18) := by
  refine ⟨by decide +kernel, by decide +kernel, fun h => ?_⟩
  exact absurd h.jump (by decide)

end CosmosQoS

end PathGateway.Cosmos
