import PathGateway.CosmosQoS
import PathGateway.SolanaQoS

/-! What a service makes of the first good news about an endpoint. An endpoint that is not in the
store passes the filter. One that is there has to pass every check, and each check wants an
observation of its own. -/

namespace PathGateway

open Cosmos Solana Machine Option List AList

section Checks

variable {α : Type}

variable {check : Except String Unit} {next : Unit → Except String α} {c : Prop}

theorem isOk_bind : (check >>= next).isOk = true ↔ check.isOk = true ∧ (next ()).isOk = true := by
  cases check with
  | error =>
    constructor
    · intro h
      cases h
    · intro h
      cases h.1
  | ok => exact ⟨fun h => ⟨rfl, h⟩, fun h => h.2⟩

theorem isOk_ite_bind [Decidable c] : (if c then check >>= next else next ()).isOk = true ↔
    (c → check.isOk = true) ∧ (next ()).isOk = true := by
  split_ifs with hc
  · rw [isOk_bind]
    exact and_congr_left fun _ => ⟨fun h _ => h, fun h => h hc⟩
  · exact ⟨fun h => ⟨fun hc' => absurd hc' hc, h⟩, fun h => h.2⟩

theorem isOk_ite_pure [Decidable c] :
    (if c then check else pure ()).isOk = true ↔ (c → check.isOk = true) := by
  split_ifs with hc
  · exact ⟨fun h _ => h, fun h => h hc⟩
  · exact ⟨fun _ h => absurd h hc, fun _ => rfl⟩

end Checks

namespace Cosmos

variable {cfg : Config} {now : Time} {perceived : ℕ} {ep : Endpoint}

@[simp] theorem isOk_within (context : String) (check : Except String Unit) :
    (within context check).isOk = check.isOk := by
  cases check <;> rfl

theorem basicEndpointValidation_isOk : (basicEndpointValidation cfg now perceived ep).isOk = true ↔
    (checkResponses now ep).isOk = true ∧ (.cometBFT ∈ cfg.supportedAPIs →
    (validateEndpointCometBFTChecks cfg perceived ep).isOk = true) ∧
    (.rest ∈ cfg.supportedAPIs → (validateEndpointCosmosSDKChecks cfg perceived ep).isOk = true) ∧
    (.jsonRPC ∈ cfg.supportedAPIs → (validateEndpointEVMChecks cfg ep).isOk = true) := by
  rw [basicEndpointValidation, isOk_bind]
  dsimp only
  rw [isOk_ite_bind, isOk_ite_bind, isOk_ite_pure, isOk_within, isOk_within, isOk_within]

/-- The first thing recorded about an endpoint: a height, taken from a response or from an answer
to a Cosmos SDK status request, or that it is healthy. -/
inductive News where
  | height (h : ℕ)
  | sdkHeight (h : ℕ)
  | healthy

namespace News

variable (cfg : Config) (q : CosmosQoS)

def Good : News → Prop
  | .height h | .sdkHeight h => 0 < h ∧ q.height.perceived ≤ h + cfg.syncAllowance
  | .healthy => True

def events (now : Time) (addr : EndpointAddr) : News → List Event
  | .height h => [⟨now, .updateFromExtractedData addr { blockHeight := h }⟩]
  | .sdkHeight h =>
    [⟨now, .updateEndpointsFromObservations [(addr, .cosmosSDKStatus h)]⟩,
      ⟨now, .updateFromEndpoints q.updated.length [addr]⟩]
  | .healthy =>
    [⟨now, .updateEndpointsFromObservations [(addr, .cometBFTHealth true)]⟩,
      ⟨now, .updateFromEndpoints q.updated.length [addr]⟩]

def entry : News → Endpoint
  | .height h => { checkCometBFTStatus := { latestBlockHeight := some h } }
  | .sdkHeight h => { checkCosmosStatus := some h }
  | .healthy => { checkCometBFTHealth := some true }

/-- No API is supported whose checks want more than the news. -/
def Suffices : News → Prop
  | .height _ | .healthy =>
    .cometBFT ∉ cfg.supportedAPIs ∧ .rest ∉ cfg.supportedAPIs ∧ .jsonRPC ∉ cfg.supportedAPIs
  | .sdkHeight _ => .cometBFT ∉ cfg.supportedAPIs ∧ .jsonRPC ∉ cfg.supportedAPIs

end News

variable {q q' : CosmosQoS} {addr : EndpointAddr} {news : News}

theorem run_observation {obs : Observation} (habsent : q.endpoints.lookup addr = none)
    (hobs : Endpoint.applyObservation {} now obs = some ep)
    (hstatus : ep.checkCometBFTStatus.chainID = none)
    (hrun : run (CosmosQoS.step cfg) q [⟨now, .updateEndpointsFromObservations [(addr, obs)]⟩, ⟨now,
      .updateFromEndpoints q.updated.length [addr]⟩] = some q') :
    q'.endpoints.lookup addr = some ep ∧ q'.height = q.height := by
  obtain ⟨q₁, hstep, hrun⟩ := run_cons.mp hrun
  obtain ⟨q₂, hstep', hrun⟩ := run_cons.mp hrun
  cases hrun
  have hobserved : q.updateEndpointsFromObservations now [(addr, obs)] = { q with
      endpoints := q.endpoints.insert addr ep
      updated := q.updated ++ [insert addr ep ∅] } := by
    simp only [CosmosQoS.updateEndpointsFromObservations, foldl_cons, foldl_nil, observe,
      habsent, getD_none, hobs]
  have hq₁ : q.updateEndpointsFromObservations now [(addr, obs)] = q₁ := some.inj hstep
  rw [hobserved] at hq₁
  subst hq₁
  obtain ⟨updated, hupdated, hstep'⟩ := bind_eq_some_iff.mp hstep'
  rw [getElem?_concat_length] at hupdated
  cases hupdated
  obtain ⟨-, heq⟩ := ite_none_right_eq_some.mp hstep'
  cases heq
  refine ⟨lookup_insert _, ?_⟩
  -- the status is not valid, so the height is not raised
  have hraise : raiseFrom cfg q.height.perceived ep = q.height.perceived := by
    rw [raiseFrom, isCometBFTStatusValid, CometBFTStatus.getChainID, hstatus]
    rfl
  rw [updateFromEndpoints, CosmosQoS.visited, filterMap_cons, lookup_insert]
  simp only [filterMap_nil, foldl_cons, foldl_nil, hraise]

theorem recorded (habsent : q.endpoints.lookup addr = none) (hgood : news.Good cfg q)
    (hrun : run (CosmosQoS.step cfg) q (news.events q now addr) = some q') :
    q'.endpoints.lookup addr = some news.entry ∧ news.Good cfg q' := by
  cases news with
  | height h =>
    cases hrun
    have hblock : ExtractedData.block { blockHeight := h } = some h :=
      extractedHeight_of_pos hgood.1
    rw [CosmosQoS.updateFromExtractedData, hblock, habsent]
    refine ⟨lookup_insert _, hgood.1, ?_⟩
    rw [SharedHeight.perceived_report]
    exact max_le hgood.2 (Nat.le_add_right h _)
  | sdkHeight =>
    obtain ⟨hep, hheight⟩ := run_observation habsent rfl rfl hrun
    exact ⟨hep, hgood.1, hheight ▸ hgood.2⟩
  | healthy => exact ⟨(run_observation habsent rfl rfl hrun).1, trivial⟩

theorem entry_fails_cometBFT (cfg : Config) (perceived : ℕ) (news : News) :
    (validateEndpointCometBFTChecks cfg perceived news.entry).isOk = false := by
  cases news <;> rfl

theorem entry_fails_evm (cfg : Config) (news : News) :
    (validateEndpointEVMChecks cfg news.entry).isOk = false := by
  cases news <;> rfl

theorem entry_passes_cosmosSDK {h : ℕ} (hpos : 0 < h)
    (hwithin : perceived ≤ h + cfg.syncAllowance) :
    (validateEndpointCosmosSDKChecks cfg perceived (News.sdkHeight h).entry).isOk = true := by
  have hallowed : validateBlockHeightSyncAllowance cfg perceived h = .ok () := by
    rw [validateBlockHeightSyncAllowance]
    split
    · rfl
    · have hmin : ¬h < Evm.minAllowedBlockNumber perceived cfg.syncAllowance := by
        rw [Evm.minAllowedBlockNumber]
        split <;> omega
      exact if_neg hmin
  obtain ⟨h, rfl⟩ := Nat.exists_eq_succ_of_ne_zero hpos.ne'
  rw [validateEndpointCosmosSDKChecks, isOk_within]
  change (within _ (validateBlockHeightSyncAllowance cfg perceived (h + 1))).isOk = true
  rw [isOk_within, hallowed]
  rfl

theorem entry_valid_iff (hgood : news.Good cfg q) :
    (basicEndpointValidation cfg now q.height.perceived news.entry).isOk = true ↔
    news.Suffices cfg := by
  have hresponses : (checkResponses now news.entry).isOk = true := by
    cases news <;> rfl
  rw [basicEndpointValidation_isOk, entry_fails_cometBFT, entry_fails_evm]
  simp only [hresponses, true_and, Bool.false_eq_true, imp_false]
  cases news with
  | height h =>
    have hsdk : (validateEndpointCosmosSDKChecks cfg q.height.perceived
      (News.height h).entry).isOk = false := rfl
    simp only [hsdk, Bool.false_eq_true, imp_false]
    rfl
  | sdkHeight =>
    simp only [entry_passes_cosmosSDK hgood.1 hgood.2, implies_true, true_and]
    rfl
  | healthy =>
    have hsdk : (validateEndpointCosmosSDKChecks cfg q.height.perceived
      News.healthy.entry).isOk = false := rfl
    simp only [hsdk, Bool.false_eq_true, imp_false]
    rfl

theorem passes_iff_suffices {t : Time}
    (habsent : q.endpoints.lookup addr = none) (hgood : news.Good cfg q)
    (hrun : run (CosmosQoS.step cfg) q (news.events q now addr) = some q') :
    q'.passes cfg t addr = true ↔ news.Suffices cfg := by
  obtain ⟨hentry, hgood'⟩ := recorded habsent hgood hrun
  rw [CosmosQoS.passes, hentry]
  exact entry_valid_iff hgood'

end Cosmos

namespace Solana

variable {cfg : Config} {now t : Time} {q q' : SolanaQoS} {addr : EndpointAddr}

/-- The first thing recorded about an endpoint: a height taken from a response, or that it is
healthy, found out by a health check or by a relay. -/
inductive News where
  | height (h : ℕ)
  | checkedHealthy
  | relayedHealthy
  deriving DecidableEq

namespace News

variable (cfg : Config) (q : SolanaQoS)

def Good : News → Prop
  | .height h => 0 < h ∧ q.height.perceived ≤ h + cfg.getSyncAllowance
  | _ => True

def events (now : Time) (addr : EndpointAddr) : News → List Event
  | .height h => [⟨now, .updateFromExtractedData addr { blockHeight := h }⟩]
  | .checkedHealthy => [⟨now, .updateFromExtractedData addr { syncCheckPerformed := true }⟩]
  | .relayedHealthy =>
    [⟨now, .updateEndpointsFromObservations [(addr, .getHealth resultGetHealthOK)]⟩,
      ⟨now, .updateFromEndpoints q.updated.length [addr]⟩]

def entry : News → Endpoint
  | .height h => { epochInfo := some { blockHeight := h } }
  | .checkedHealthy | .relayedHealthy => { health := some resultGetHealthOK }

/-- Only a height is enough for the checks. -/
def isHeight : News → Bool
  | .height _ => true
  | _ => false

end News

variable {news : News}

theorem recorded (habsent : q.endpoints.lookup addr = none) (hgood : news.Good cfg q)
    (hrun : run (SolanaQoS.step cfg) q (news.events q now addr) = some q') :
    q'.endpoints.lookup addr = some news.entry ∧ news.Good cfg q' := by
  cases news with
  | height h =>
    cases hrun
    have hblock : ExtractedData.block { blockHeight := h } = some h :=
      extractedHeight_of_pos hgood.1
    have hentry : Endpoint.updateFromExtractedData {} { blockHeight := h } =
        { epochInfo := some { blockHeight := h } } := by
      rw [Endpoint.updateFromExtractedData, hblock]
      rfl
    rw [SolanaQoS.updateFromExtractedData, hblock, habsent, if_neg (by simp)]
    refine ⟨(lookup_insert _).trans (congrArg some hentry), hgood.1, ?_⟩
    simp only [getD_some, SharedHeight.reportChecked_eq]
    split
    · exact Nat.le_add_right h _
    · exact hgood.2
  | checkedHealthy =>
    cases hrun
    rw [SolanaQoS.updateFromExtractedData, habsent, if_neg (by decide)]
    exact ⟨lookup_insert _, trivial⟩
  | relayedHealthy =>
    obtain ⟨q₁, hstep, hrun⟩ := run_cons.mp hrun
    obtain ⟨q₂, hstep', hrun⟩ := run_cons.mp hrun
    cases hrun
    cases hstep
    obtain ⟨-, -, -, rfl⟩ := SolanaQoS.updateFromEndpoints_eq_some hstep'
    refine ⟨?_, trivial⟩
    change (insert addr { ((q.endpoints.lookup addr).getD {}) with
      health := some resultGetHealthOK } q.endpoints).lookup addr = _
    rw [lookup_insert, habsent]
    rfl

theorem not_valid_without_epochInfo {ep : Endpoint}
    {perceived : Perceived} (hep : ep.epochInfo = none) :
    ¬∃ info, ep.validateBasic t = .ok info ∧ EpochPasses info.epoch perceived.epoch ∧
    perceived.blockHeight ≤ info.blockHeight + cfg.getSyncAllowance := by
  rintro ⟨info, hbasic, -⟩
  have hinfo := (Endpoint.validateBasic_eq_ok.mp hbasic).2.1
  rw [hep] at hinfo
  cases hinfo

theorem passes_iff_isHeight (habsent : q.endpoints.lookup addr = none) (hgood : news.Good cfg q)
    (hrun : run (SolanaQoS.step cfg) q (news.events q now addr) = some q') :
    q'.passes cfg t addr = true ↔ news.isHeight = true := by
  obtain ⟨hentry, hgood'⟩ := recorded habsent hgood hrun
  rw [SolanaQoS.passes, hentry]
  refine validateEndpoint_isOk.trans ?_
  cases news with
  | height h =>
    refine iff_of_true ⟨{ blockHeight := h }, ?_, .inl rfl, hgood'.2⟩ rfl
    exact Endpoint.validateBasic_eq_ok.mpr ⟨rfl, rfl, hgood.1⟩
  | checkedHealthy | relayedHealthy =>
    exact iff_of_false (not_valid_without_epochInfo rfl) Bool.false_ne_true

end Solana

/-- The first good news about an endpoint leaves it accepted exactly if it suffices: for Cosmos no
API is supported whose checks want more, for Solana it is a height. -/
theorem good_news_accepted_iff (addr : EndpointAddr) (now t : Time)
    (available : List EndpointAddr) (haddr : addr ∈ available) :
    (∀ (cfg : Cosmos.Config) (q q' : Cosmos.CosmosQoS) (news : Cosmos.News),
      q.endpoints.lookup addr = none → news.Good cfg q →
      run (Cosmos.CosmosQoS.step cfg) q (news.events q now addr) = some q' →
      ∃ accepted, q'.filterValidEndpoints cfg t available = .ok accepted ∧
        (addr ∈ accepted ↔ news.Suffices cfg)) ∧
    (∀ (cfg : Solana.Config) (q q' : Solana.SolanaQoS) (news : Solana.News),
      q.endpoints.lookup addr = none → news.Good cfg q →
      run (Solana.SolanaQoS.step cfg) q (news.events q now addr) = some q' →
      ∃ accepted, q'.filterValidEndpoints cfg t available = .ok accepted ∧
        (addr ∈ accepted ↔ news.isHeight = true)) := by
  refine ⟨fun cfg q q' news habsent hgood hrun => ?_, fun cfg q q' news habsent hgood hrun => ?_⟩
  · refine ⟨_, if_neg (ne_nil_of_mem haddr), ?_⟩
    rw [mem_filter, and_iff_right haddr]
    exact passes_iff_suffices habsent hgood hrun
  · refine ⟨_, if_neg (ne_nil_of_mem haddr), ?_⟩
    rw [mem_filter, and_iff_right haddr]
    exact passes_iff_isHeight habsent hgood hrun

def Cosmos.supporting (supportedAPIs : List RPCType) : Cosmos.Config :=
  ⟨"", "", 5, supportedAPIs, ⟨false, 0, 0⟩⟩

def Cosmos.atHundred : Cosmos.CosmosQoS := ⟨∅, { perceived := 100 }, 0, []⟩

def Solana.atHundred : Solana.SolanaQoS := ⟨∅, 0, { perceived := 100 }, 0, []⟩

theorem good_news_accepted_height :
    (∃ q' accepted, run (Cosmos.CosmosQoS.step (Cosmos.supporting [.websocket]))
        Cosmos.atHundred ((Cosmos.News.height 98).events Cosmos.atHundred 1 "a") = some q' ∧
      q'.filterValidEndpoints (Cosmos.supporting [.websocket]) 1 ["a"] = .ok accepted ∧
      "a" ∈ accepted) ∧
    ∃ q' accepted, run (Solana.SolanaQoS.step Solana.withDefaults)
        Solana.atHundred ((Solana.News.height 98).events Solana.atHundred 1 "a") = some q' ∧
      q'.filterValidEndpoints Solana.withDefaults 1 ["a"] = .ok accepted ∧
      "a" ∈ accepted := by
  constructor
  · obtain ⟨accepted, haccepted, hiff⟩ := (good_news_accepted_iff "a" 1 1 ["a"] (by decide)).1
      (supporting [.websocket]) atHundred _ (.height 98) rfl ⟨by decide, by decide⟩ rfl
    exact ⟨_, accepted, rfl, haccepted, hiff.mpr ⟨by decide, by decide, by decide⟩⟩
  · obtain ⟨accepted, haccepted, hiff⟩ := (good_news_accepted_iff "a" 1 1 ["a"] (by decide)).2
      withDefaults atHundred _ (.height 98) rfl ⟨by decide, by decide⟩ rfl
    exact ⟨_, accepted, rfl, haccepted, hiff.mpr rfl⟩

theorem good_news_rejects :
    Cosmos.atHundred.filterValidEndpoints (Cosmos.supporting [.rest, .cometBFT]) 1 ["a"] =
      .ok ["a"] ∧
    (run (Cosmos.CosmosQoS.step (Cosmos.supporting [.rest, .cometBFT])) Cosmos.atHundred
      ((Cosmos.News.height 98).events Cosmos.atHundred 1 "a")).map
        (·.filterValidEndpoints (Cosmos.supporting [.rest, .cometBFT]) 1 ["a"]) = some (.ok []) ∧
    Solana.atHundred.filterValidEndpoints Solana.withDefaults 1 ["a"] = .ok ["a"] ∧
    (run (Solana.SolanaQoS.step Solana.withDefaults) Solana.atHundred
      (Solana.News.checkedHealthy.events Solana.atHundred 1 "a")).map
        (·.filterValidEndpoints Solana.withDefaults 1 ["a"]) = some (.ok []) := by
  decide +kernel

end PathGateway
