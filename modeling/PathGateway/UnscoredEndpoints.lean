import PathGateway.ReputationFilter

/-! Endpoints without a stored score. The ranking and the signal recorder start them at
the initial score of their service; the two selection filters use a constant. -/

namespace PathGateway

open ReputationService Option Protocol AList GoMap

namespace ReputationService

variable (svc : ReputationService)

def rankedScore (key : EndpointKey) : ℚ :=
  (svc.cache.lookup key).elim (svc.getInitialScoreForService key.serviceID) Score.value

def rankEndpointsByScore (keys : List EndpointKey) : List EndpointKey :=
  keys.mergeSort (fun a b => decide (svc.rankedScore b ≤ svc.rankedScore a))

def storeInitial (key : EndpointKey) : ReputationService :=
  { svc with cache := svc.cache.insert key ⟨svc.getInitialScoreForService key.serviceID, none⟩ }

variable {svc} {key : EndpointKey}

@[simp] theorem buildKey_storeInitial : (svc.storeInitial key).buildKey = svc.buildKey := rfl

@[simp] theorem benchDrained_storeInitial :
    (svc.storeInitial key).benchDrained = svc.benchDrained := rfl

theorem storedScore_storeInitial (henabled : svc.enabled = true) (k : EndpointKey) :
    (svc.storeInitial key).storedScore k =
      if k = key then some ⟨svc.getInitialScoreForService key.serviceID, none⟩
      else svc.storedScore k := by
  by_cases hk : k = key
  · subst hk
    simp [storedScore, storeInitial, henabled]
  · simp [storedScore, storeInitial, henabled, hk]

theorem scoreOf_storeInitial (henabled : svc.enabled = true) (k : EndpointKey) :
    (svc.storeInitial key).scoreOf k =
      if k = key then svc.getInitialScoreForService key.serviceID else svc.scoreOf k := by
  rw [scoreOf, storedScore_storeInitial henabled]
  split_ifs <;> rfl

theorem scoreOf_of_new (henabled : svc.enabled = true) (hnew : svc.cache.lookup key = none) :
    svc.scoreOf key = PathGateway.initialScore := by
  simp [scoreOf, storedScore, henabled, hnew]

end ReputationService

variable {a : EndpointAddr}

namespace Protocol

variable (p : Protocol)

def storeInitial (key : EndpointKey) : Protocol :=
  { p with
    reputationService := p.reputationService.map (fun svc => svc.storeInitial key)
    selectors_scored := fun h => p.selectors_scored (map_eq_none_iff.mp h)
    reputation_enabled := by
      intro svc h
      obtain ⟨svc, hs, rfl⟩ := map_eq_some_iff.mp h
      exact p.reputation_enabled svc hs }

def PoolCollapses (env : Env) (serviceID : ServiceID) (svc : ReputationService)
    (endpoints : EndpointMap) (t : RPCType) (requested : EndpointAddr) : Prop :=
  ∀ a e, (svc.benchDrained env serviceID t endpoints).lookup a = some e →
    ¬p.Admits env serviceID svc t requested a

/-- The tier filter returns the same endpoints once an unscored one of the pool is stored
at its initial score. -/
def TiersUnscoredAlike (serviceID : ServiceID) : Prop :=
  ∀ svc env endpoints t requested addr ep, p.reputationService = some svc →
    endpoints.lookup addr = some ep →
    svc.cache.lookup (svc.buildKey env.net serviceID addr t) = none → ∀ a,
    ((p.storeInitial (svc.buildKey env.net serviceID addr t)).filterToHighestTier
        env serviceID endpoints t requested).lookup a =
      (p.filterToHighestTier env serviceID endpoints t requested).lookup a

def GuardTreatsUnscoredAlike (serviceID : ServiceID) : Prop :=
  ∀ svc env endpoints t requested addr ep, p.reputationService = some svc →
    endpoints.lookup addr = some ep →
    svc.cache.lookup (svc.buildKey env.net serviceID addr t) = none →
    p.PoolCollapses env serviceID svc endpoints t requested → ∀ a,
    ((p.storeInitial (svc.buildKey env.net serviceID addr t)).filterByReputation
        env serviceID endpoints t requested).lookup a =
      (p.filterByReputation env serviceID endpoints t requested).lookup a

variable {p} {env : Env} {serviceID : ServiceID} {svc : ReputationService}
  {endpoints : EndpointMap} {t : RPCType} {requested addr : EndpointAddr} {key : EndpointKey}

@[simp] theorem getMinThresholdForService_storeInitial :
    (p.storeInitial key).getMinThresholdForService serviceID =
    p.getMinThresholdForService serviceID := rfl

@[simp] theorem getTieredSelectorForService_storeInitial :
    (p.storeInitial key).getTieredSelectorForService serviceID =
    p.getTieredSelectorForService serviceID := rfl

theorem storeInitial_reputationService (hs : p.reputationService = some svc) :
    (p.storeInitial key).reputationService = some (svc.storeInitial key) := by
  simp [storeInitial, hs]

theorem scoreOf_storeInitial_eq (henabled : svc.enabled = true) (hnew : svc.cache.lookup key = none)
    (hinit : svc.getInitialScoreForService key.serviceID = initialScore) (k : EndpointKey) :
    (svc.storeInitial key).scoreOf k = svc.scoreOf k := by
  rw [scoreOf_storeInitial henabled]
  split_ifs with hk
  · rw [hinit, hk, scoreOf_of_new henabled hnew]
  · rfl

theorem Admits.of_storeInitial (henabled : svc.enabled = true)
    (hnew : svc.cache.lookup (svc.buildKey env.net serviceID addr t) = none)
    (h : (p.storeInitial (svc.buildKey env.net serviceID addr t)).Admits env serviceID
    (svc.storeInitial (svc.buildKey env.net serviceID addr t)) t requested a) :
    p.Admits env serviceID svc t requested a := by
  obtain rfl | ⟨hfloor, hown⟩ := h
  · exact .inl rfl
  simp only [buildKey_storeInitial, getMinThresholdForService_storeInitial,
    storedScore_storeInitial henabled] at hfloor hown
  refine .inr ⟨fun hws hon => ?_, ?_⟩
  · -- the floor reads json_rpc keys, the stored key is a websocket one
    have hne : svc.buildKey env.net serviceID a .jsonRPC ≠
        svc.buildKey env.net serviceID addr t := by
      simp [hws, buildKey, KeyBuilder.buildKey]
    have hfloor := hfloor hws hon
    rwa [if_neg hne] at hfloor
  · by_cases hk : svc.buildKey env.net serviceID a t = svc.buildKey env.net serviceID addr t
    · rw [storedScore, if_pos henabled, hk, hnew]
      rfl
    · rwa [if_neg hk] at hown

theorem tiersUnscoredAlike (hinit : ∀ svc, p.reputationService = some svc →
    svc.getInitialScoreForService serviceID = initialScore) : p.TiersUnscoredAlike serviceID := by
  intro svc env endpoints t requested addr ep hs hl hnew a
  have hscore := scoreOf_storeInitial_eq (p.reputation_enabled svc hs) hnew (hinit svc hs)
  cases hsel : p.getTieredSelectorForService serviceID with
  | none =>
    rw [filterToHighestTier_eq_self hsel,
      filterToHighestTier_eq_self (getTieredSelectorForService_storeInitial.trans hsel)]
  | some =>
    refine ext fun ep' => ?_
    rw [lookup_filterToHighestTier hsel hs,
      lookup_filterToHighestTier (getTieredSelectorForService_storeInitial.trans hsel)
        (storeInitial_reputationService hs)]
    simp only [InBestTier, tierOf, scoreAt, buildKey_storeInitial, hscore]

theorem guardTreatsUnscoredAlike (hinit : ∀ svc, p.reputationService = some svc →
    svc.getInitialScoreForService serviceID = initialScore) :
    p.GuardTreatsUnscoredAlike serviceID := by
  intro svc env endpoints t requested addr ep hs hl hnew hcollapse a
  have henabled := p.reputation_enabled svc hs
  have hscore := scoreOf_storeInitial_eq henabled hnew (hinit svc hs)
  have hcollapse' : (p.storeInitial (svc.buildKey env.net serviceID addr t)).PoolCollapses env
      serviceID (svc.storeInitial (svc.buildKey env.net serviceID addr t)) endpoints t
      requested := fun a e ha hadm => hcollapse a e ha (hadm.of_storeInitial henabled hnew)
  refine ext fun ep' => ?_
  rw [lookup_filterByReputation hs, lookup_filterByReputation (storeInitial_reputationService hs)]
  simp only [benchDrained_storeInitial, scoreAt, buildKey_storeInitial, hscore]
  -- in a collapsed pool both sides keep the endpoints of maximal score
  refine and_congr_right fun ha => ?_
  rw [or_iff_right (hcollapse a ep' ha), or_iff_right (hcollapse' a ep' ha)]
  exact and_congr_left fun _ => ⟨fun _ => hcollapse, fun _ => hcollapse'⟩

end Protocol

variable (initial : ℚ) (serviceID : ServiceID) (cache : GoMap EndpointKey Score)

def startingService : ReputationService := ⟨true, initial, ∅, .endpoint, ∅, cache, ∅⟩

theorem storedScore_startingService {initial : ℚ} {cache : GoMap EndpointKey Score}
    {key : EndpointKey} : (startingService initial cache).storedScore key = cache.lookup key := rfl

def startingAt : TieredSelector → Protocol := scoredProtocol (startingService initial cache) rfl

def cutAt (c : ℚ) : TieredSelector := ⟨⟨true, c, c, ⟨false, 0, 0⟩⟩, c⟩

theorem tierForScore_cutAt {c v : ℚ} : (cutAt c).tierForScore v ≠ 0 ↔ c ≤ v := by
  by_cases h : c ≤ v <;> simp [TieredSelector.tierForScore, cutAt, h]

def lonePool : EndpointMap :=
  (∅ : EndpointMap).insert rmAddr
    (soleEndpoint "pokt1a" "https://rm.example.com")

theorem lookup_lonePool {e : Endpoint} : lonePool.lookup a = some e ↔
    a = rmAddr ∧ soleEndpoint "pokt1a" "https://rm.example.com" = e := by
  rw [lonePool, lookup_insert_eq_some]
  simp

def loneKey : EndpointKey := ⟨serviceID, rmAddr, .jsonRPC⟩

theorem lookup_lonePool_cutAt {p : Protocol}
    {svc : ReputationService} {c : ℚ} (serviceID : ServiceID) (hs : p.reputationService = some svc)
    (hb : svc.defaultKeyBuilder = .endpoint) (hkb : svc.serviceKeyBuilders = ∅)
    (ht : p.tieredSelector = some (cutAt c)) (hst : p.serviceTieredSelectors = ∅) :
    ((p.filterToHighestTier sampleEnv serviceID lonePool .jsonRPC "").lookup rmAddr).isSome ↔
      c ≤ svc.scoreOf (loneKey serviceID) := by
  have hsel : p.getTieredSelectorForService serviceID = some (cutAt c) := by
    simp [getTieredSelectorForService, ht, hst]
  have hkey : svc.buildKey sampleEnv.net serviceID rmAddr .jsonRPC =
      loneKey serviceID := by
    simp [buildKey, keyBuilderForService, hb, hkb,
      KeyBuilder.buildKey, KeyBuilder.scoredAddr, loneKey]
  simp [isSome_iff_exists, lookup_filterToHighestTier hsel hs, lookup_lonePool,
    InBestTier, tierOf, scoreAt, hkey, tierForScore_cutAt]
  exact fun _ _ h => h

def floorA : EndpointAddr := "pokt1a-https://a.example.com"

def floorB : EndpointAddr := "pokt1b-https://b.example.com"

def floorPool : EndpointMap :=
  ((∅ : EndpointMap).insert floorA (soleEndpoint "pokt1a" "https://a.example.com")).insert floorB
    (soleEndpoint "pokt1b" "https://b.example.com")

def floorScores (w : ℚ) : GoMap EndpointKey Score :=
  (((∅ : GoMap EndpointKey Score).insert ⟨serviceID, floorA, .jsonRPC⟩ ⟨0, none⟩).insert
    ⟨serviceID, floorB, .jsonRPC⟩ ⟨0, none⟩).insert ⟨serviceID, floorB, .websocket⟩ ⟨w, none⟩

theorem lookup_floorPool {e : Endpoint} :
    floorPool.lookup a = some e ↔ a = floorA ∧ soleEndpoint "pokt1a" "https://a.example.com" = e ∨
    a = floorB ∧ soleEndpoint "pokt1b" "https://b.example.com" = e := by
  have hAB : floorA ≠ floorB := by decide
  rw [floorPool, lookup_insert_eq_some, lookup_insert_eq_some]
  by_cases ha : a = floorA
  · simp [ha, hAB]
  · simp [ha]

section Floor

variable {p : Protocol} {svc : ReputationService} {serviceID : ServiceID}

theorem lookup_benchDrained_floorPool (hd : svc.drainedDomains = ∅) {e : Endpoint} :
    (svc.benchDrained sampleEnv serviceID .websocket floorPool).lookup a = some e ↔
    floorPool.lookup a = some e := by
  have hnone : ∀ url, svc.isEndpointDrained sampleEnv serviceID .websocket url = false := by
    simp [isEndpointDrained, isDomainDrained, hd]
  simp [benchDrained, lookup_retainOrAll_eq_some, hnone]

/-- The floor keeps every endpoint of the pool out. -/
structure Floored (p : Protocol) (svc : ReputationService) (serviceID : ServiceID) : Prop where
  service : p.reputationService = some svc
  drained : svc.drainedDomains = ∅
  floor : p.applyWebsocketHTTPScoreFloor serviceID = true
  threshold : p.getMinThresholdForService serviceID = 30
  low : ∀ a, a = floorA ∨ a = floorB →
    svc.storedScore (svc.buildKey sampleEnv.net serviceID a .jsonRPC) = some ⟨0, none⟩

theorem Floored.collapses (h : Floored p svc serviceID) :
    p.PoolCollapses sampleEnv serviceID svc floorPool .websocket "" := by
  intro a e ha hadm
  have hmem : a = floorA ∨ a = floorB :=
    (lookup_floorPool.mp ((lookup_benchDrained_floorPool h.drained).mp ha)).imp And.left And.left
  rcases hadm with rfl | ⟨hhttp, -⟩
  · exact absurd hmem (by decide)
  · have := hhttp rfl h.floor
    rw [h.low a hmem, h.threshold] at this
    exact absurd this (by decide +kernel)

theorem Floored.lookup_floorPool (h : Floored p svc serviceID) {x y : ℚ}
    (hA : svc.scoreOf (svc.buildKey sampleEnv.net serviceID floorA .websocket) = x)
    (hB : svc.scoreOf (svc.buildKey sampleEnv.net serviceID floorB .websocket) = y) :
    ((p.filterByReputation sampleEnv serviceID floorPool .websocket "").lookup floorB).isSome ↔
    x - scoreTolerance ≤ y := by
  subst hA hB
  have hd := h.drained
  have hcollapse := h.collapses
  have htol : (0 : ℚ) ≤ scoreTolerance := by norm_num [scoreTolerance]
  simp only [isSome_iff_exists, lookup_filterByReputation h.service,
    lookup_benchDrained_floorPool hd, Rounding.round_exact]
  constructor
  · rintro ⟨e, he, hadm | ⟨-, hmax⟩⟩
    · exact absurd hadm (hcollapse floorB e ((lookup_benchDrained_floorPool hd).mpr he))
    · exact hmax floorA _ (PathGateway.lookup_floorPool.mpr (.inl ⟨rfl, rfl⟩))
  · intro hle
    refine ⟨_, PathGateway.lookup_floorPool.mpr (.inr ⟨rfl, rfl⟩), .inr ⟨fun a e ha =>
      hcollapse a e ((lookup_benchDrained_floorPool hd).mpr ha), fun a e ha => ?_⟩⟩
    rcases PathGateway.lookup_floorPool.mp ha with ⟨rfl, -⟩ | ⟨rfl, -⟩
    · exact hle
    · linarith

end Floor

variable {serviceID : ServiceID}

theorem eq_initialScore_of_tiers {v : ℚ}
    (h : ∀ c, (startingAt v ∅ (cutAt c)).TiersUnscoredAlike serviceID) : v = initialScore := by
  -- one endpoint, one threshold: it is kept with a score that reaches the threshold
  have hcut : ∀ c, c ≤ v ↔ c ≤ initialScore := by
    intro c
    have halike := h c _ sampleEnv lonePool .jsonRPC "" rmAddr _ rfl
      (lookup_insert _) rfl rmAddr
    have hafter := lookup_lonePool_cutAt (p := (startingAt v ∅ (cutAt c)).storeInitial
      (loneKey serviceID)) (c := c) serviceID rfl rfl rfl rfl rfl
    have hbefore := lookup_lonePool_cutAt (p := startingAt v ∅ (cutAt c)) (c := c)
      serviceID rfl rfl rfl rfl rfl
    rw [scoreOf_storeInitial rfl, if_pos rfl] at hafter
    rw [scoreOf_of_new rfl rfl] at hbefore
    exact hafter.symm.trans (halike ▸ hbefore)
  exact le_antisymm ((hcut v).mp le_rfl) ((hcut initialScore).mpr le_rfl)

def floorService (serviceID : ServiceID) (v w : ℚ) : ReputationService :=
  startingService v (floorScores serviceID w)

section FloorService

variable {v w : ℚ}

theorem storedScore_floorService (ha : a = floorA ∨ a = floorB) :
    (floorService serviceID v w).storedScore ⟨serviceID, a, .jsonRPC⟩ = some ⟨0, none⟩ := by
  rw [floorService, storedScore_startingService, floorScores, lookup_insert_ne (by simp)]
  rcases ha with rfl | rfl
  · rw [lookup_insert_ne (by simp [floorA, floorB]), lookup_insert]
  · rw [lookup_insert]

theorem lookup_floorScores_floorA (serviceID : ServiceID) (w : ℚ) :
    (floorScores serviceID w).lookup ⟨serviceID, floorA, .websocket⟩ = none := by
  rw [floorScores, lookup_insert_ne (by simp [floorA, floorB]),
    lookup_insert_ne (by simp), lookup_insert_ne (by simp), lookup_empty]

theorem scoreOf_floorService_floorB :
    (floorService serviceID v w).scoreOf ⟨serviceID, floorB, .websocket⟩ = w := by
  rw [scoreOf, floorService, storedScore_startingService, floorScores, lookup_insert]
  rfl

theorem eq_initialScore_of_guard (h : ∀ w,
    (startingAt v (floorScores serviceID w) sampleSelector).GuardTreatsUnscoredAlike serviceID) :
    v = initialScore := by
  -- the first endpoint counts with the constant before it is stored and with `v` after
  have hcut : ∀ w, v - scoreTolerance ≤ w ↔ initialScore - scoreTolerance ≤ w := by
    intro w
    have hnew := lookup_floorScores_floorA serviceID w
    have hbefore : Floored (startingAt v (floorScores serviceID w) sampleSelector)
        (floorService serviceID v w) serviceID :=
      ⟨rfl, rfl, rfl, rfl, fun a => storedScore_floorService⟩
    have hafter : Floored ((startingAt v (floorScores serviceID w) sampleSelector).storeInitial
          ⟨serviceID, floorA, .websocket⟩)
        ((floorService serviceID v w).storeInitial ⟨serviceID, floorA, .websocket⟩) serviceID := by
      refine ⟨rfl, rfl, rfl, rfl, fun a ha => ?_⟩
      rw [storedScore_storeInitial rfl]
      exact (if_neg (by simp [buildKey, KeyBuilder.buildKey])).trans (storedScore_floorService ha)
    have hA' : ((floorService serviceID v w).storeInitial
        ⟨serviceID, floorA, .websocket⟩).scoreOf ⟨serviceID, floorA, .websocket⟩ = v :=
      (scoreOf_storeInitial rfl _).trans (if_pos rfl)
    have hB' : ((floorService serviceID v w).storeInitial
        ⟨serviceID, floorA, .websocket⟩).scoreOf ⟨serviceID, floorB, .websocket⟩ = w := by
      rw [scoreOf_storeInitial rfl, if_neg (by simp [floorA, floorB]), scoreOf_floorService_floorB]
    have halike := h w _ sampleEnv floorPool .websocket "" floorA _ rfl
      (lookup_floorPool.mpr (.inl ⟨rfl, rfl⟩)) hnew hbefore.collapses floorB
    exact (hafter.lookup_floorPool hA' hB').symm.trans (halike ▸
      hbefore.lookup_floorPool (scoreOf_of_new rfl hnew) scoreOf_floorService_floorB)
  have hle := (hcut (v - scoreTolerance)).mp le_rfl
  have hge := (hcut (initialScore - scoreTolerance)).mpr le_rfl
  linarith

end FloorService

/-- Storing an unscored endpoint at its initial score changes nothing for the tier filter,
whatever pool, scores and thresholds there are, exactly when that score is the constant;
and the same for the guard. -/
theorem unscored_alike_iff (serviceID : ServiceID) (v : ℚ) :
    ((∀ (p : Protocol) (svc : ReputationService), p.reputationService = some svc →
        svc.getInitialScoreForService serviceID = v → p.TiersUnscoredAlike serviceID) ↔
      v = initialScore) ∧
    ((∀ (p : Protocol) (svc : ReputationService), p.reputationService = some svc →
        svc.getInitialScoreForService serviceID = v → p.GuardTreatsUnscoredAlike serviceID) ↔
      v = initialScore) := by
  refine ⟨⟨fun h => ?_, ?_⟩, ⟨fun h => ?_, ?_⟩⟩
  · exact eq_initialScore_of_tiers fun c => h (startingAt v ∅ (cutAt c)) _ rfl rfl
  · rintro rfl p svc hs hinit
    refine tiersUnscoredAlike fun svc' hs' => ?_
    rwa [some.inj (hs'.symm.trans hs)]
  · exact eq_initialScore_of_guard fun w =>
      h (startingAt v (floorScores serviceID w) sampleSelector) _ rfl rfl
  · rintro rfl p svc hs hinit
    refine guardTreatsUnscoredAlike fun svc' hs' => ?_
    rwa [some.inj (hs'.symm.trans hs)]

def lowStart (cache : GoMap EndpointKey Score) : Protocol :=
  scoredProtocol ⟨true, 80, (∅ : GoMap ServiceID ℚ).insert "eth" 40, .endpoint, ∅, cache, ∅⟩ rfl
    sampleSelector

theorem unscored_outranks_its_initial_score :
    ¬∀ (p : Protocol) (serviceID : ServiceID),
      p.TiersUnscoredAlike serviceID ∧ p.GuardTreatsUnscoredAlike serviceID := by
  intro h
  have halike := (h (lowStart ((∅ : GoMap EndpointKey Score).insert
    ⟨"eth", floorB, .jsonRPC⟩ ⟨60, none⟩)) "eth").1 _ sampleEnv floorPool .jsonRPC "" floorA
    _ rfl (lookup_floorPool.mpr (.inl ⟨rfl, rfl⟩)) (by decide) floorA
  have hkept := congrArg isSome halike
  revert hkept
  decide +kernel

end PathGateway
