import Mathlib.Algebra.Order.Field.Rat
import PathGateway.EndpointFilters

/-! Reputation scores, the keys they are stored under, and the tiers a selector
sorts them into. Scores are rationals: the code only compares them and takes one
small tolerance off a maximum. -/

namespace PathGateway

open List AList

structure EndpointKey where
  serviceID : ServiceID
  endpointAddr : EndpointAddr
  rpcType : RPCType
  deriving DecidableEq, Repr

inductive KeyBuilder where
  | endpoint
  | url
  | domain
  | supplier
  deriving DecidableEq, Repr

namespace KeyBuilder

def scoredAddr (net : NetLib) (addr : EndpointAddr) : KeyBuilder → EndpointAddr
  | endpoint => addr
  | url => (GoStrings.after '-' addr).getD addr
  | domain => ((GoStrings.after '-' addr).bind (extractDomainOrHost net)).getD addr
  | supplier => if (GoStrings.after '-' addr).isSome then GoStrings.before '-' addr else addr

def buildKey (b : KeyBuilder) (net : NetLib) (serviceID : ServiceID) (addr : EndpointAddr)
    (t : RPCType) : EndpointKey :=
  ⟨serviceID, b.scoredAddr net addr, t⟩

theorem buildKey_eq_iff {b : KeyBuilder} {net : NetLib} {serviceID : ServiceID}
    {addr : EndpointAddr} {t t' : RPCType} :
    b.buildKey net serviceID addr t = b.buildKey net serviceID addr t' ↔ t = t' := by
  simp [buildKey]

end KeyBuilder

structure Score where
  value : ℚ
  cooldownUntil : Option Time
  deriving DecidableEq

def Score.isInCooldown (s : Score) (now : Time) : Bool :=
  s.cooldownUntil.any (fun t => decide (now < t))

def initialScore : ℚ := 80

def defaultMinThreshold : ℚ := 30

/-- A drain with an empty RPC type covers every type of the service. -/
structure DrainKey where
  serviceID : ServiceID
  domain : String
  rpcType : String
  deriving DecidableEq, Repr

structure ReputationService where
  enabled : Bool
  initialScore : ℚ
  serviceInitialScores : GoMap ServiceID ℚ
  defaultKeyBuilder : KeyBuilder
  serviceKeyBuilders : GoMap ServiceID KeyBuilder
  cache : GoMap EndpointKey Score
  drainedDomains : GoMap DrainKey Time

variable {key : EndpointKey}

namespace ReputationService

variable (svc : ReputationService) (serviceID : ServiceID)

def keyBuilderForService : KeyBuilder :=
  (svc.serviceKeyBuilders.lookup serviceID).getD svc.defaultKeyBuilder

def buildKey (svc : ReputationService) (net : NetLib) (serviceID : ServiceID)
    (addr : EndpointAddr) (t : RPCType) : EndpointKey :=
  (svc.keyBuilderForService serviceID).buildKey net serviceID addr t

def getInitialScoreForService : ℚ :=
  match svc.serviceInitialScores.lookup serviceID with
  | some s => if 0 < s then s else svc.initialScore
  | none => svc.initialScore

def storedScore (key : EndpointKey) : Option Score :=
  if svc.enabled then svc.cache.lookup key
  else some ⟨svc.getInitialScoreForService key.serviceID, none⟩

def getScores (keys : List EndpointKey) : GoMap EndpointKey Score :=
  GoMap.build svc.storedScore keys

theorem lookup_getScores {svc : ReputationService} {keys : List EndpointKey}
    (hk : key ∈ keys) : (svc.getScores keys).lookup key = svc.storedScore key := by
  simp [getScores, hk]

def isDomainDrained
    (net : NetLib) (now : Time) (serviceID : ServiceID) (domain rpcType : String) : Bool :=
  if domain = "" then false
  else
    [DrainKey.mk serviceID (net.toLower domain) (net.toLower rpcType),
      DrainKey.mk serviceID (net.toLower domain) ""].any
      (fun k => (svc.drainedDomains.lookup k).any (fun t => decide (now < t)))

/-- The score a tier decision uses: a new endpoint counts with the initial score. -/
def scoreOf (key : EndpointKey) : ℚ :=
  (svc.storedScore key).elim PathGateway.initialScore Score.value

def endpointScoresForKeys (keys : List EndpointKey) : GoMap EndpointKey ℚ :=
  GoMap.build (fun k =>
    some (((svc.getScores keys).lookup k).elim PathGateway.initialScore Score.value)) keys

theorem lookup_endpointScoresForKeys {svc : ReputationService} {keys : List EndpointKey} :
    (svc.endpointScoresForKeys keys).lookup key = if key ∈ keys then some (svc.scoreOf key)
      else none := by
  by_cases hk : key ∈ keys
  · simp [endpointScoresForKeys, scoreOf, hk, lookup_getScores]
  · simp [endpointScoresForKeys, hk]

end ReputationService

structure ProbationConfig where
  enabled : Bool
  threshold : ℚ
  trafficPercent : ℚ

structure TieredSelectionConfig where
  enabled : Bool
  tier1Threshold : ℚ
  tier2Threshold : ℚ
  probation : ProbationConfig

structure TieredSelector where
  config : TieredSelectionConfig
  minThreshold : ℚ

namespace TieredSelector

variable (s : TieredSelector) (scores : GoMap EndpointKey ℚ)

def tierForScore (score : ℚ) : Nat :=
  if s.config.tier1Threshold ≤ score then 1
  else if s.config.tier2Threshold ≤ score then 2
  else if s.minThreshold ≤ score then 3
  else 0

def groupByTier (tier : Nat) : List EndpointKey :=
  (scores.entries.filter (fun e => s.tierForScore e.2 == tier)).map Sigma.fst

def highestTier : List EndpointKey :=
  if s.groupByTier scores 1 ≠ [] then s.groupByTier scores 1
  else if s.groupByTier scores 2 ≠ [] then s.groupByTier scores 2
  else s.groupByTier scores 3

def updateProbationStatus : List EndpointKey :=
  if s.config.probation.enabled then
    (scores.entries.filter (fun e =>
      decide (e.2 < s.config.probation.threshold) && decide (s.minThreshold ≤ e.2))).map Sigma.fst
  else []

def shouldRouteToProbation (draw : Fin 100) : Bool :=
  s.config.probation.enabled && decide (((draw : Nat) : ℚ) < s.config.probation.trafficPercent)

variable {s : TieredSelector} {scores : GoMap EndpointKey ℚ}

theorem mem_groupByTier {tier : Nat} : key ∈ s.groupByTier scores tier ↔
    ∃ v, scores.lookup key = some v ∧ s.tierForScore v = tier := by
  simp only [groupByTier, mem_map, mem_filter, beq_iff_eq]
  constructor
  · rintro ⟨⟨k, v⟩, ⟨he, ht⟩, rfl⟩
    exact ⟨v, mem_lookup_iff.mpr he, ht⟩
  · rintro ⟨v, hl, ht⟩
    exact ⟨⟨key, v⟩, ⟨mem_lookup_iff.mp hl, ht⟩, rfl⟩

theorem tierForScore_eq_zero {v : ℚ} : s.tierForScore v = 0 ↔ v < s.config.tier1Threshold ∧
    v < s.config.tier2Threshold ∧ v < s.minThreshold := by
  simp only [tierForScore]
  split_ifs <;> simp_all

theorem tierForScore_ne_zero_of_min_le {v : ℚ} (h : s.minThreshold ≤ v) : s.tierForScore v ≠ 0 :=
  fun h0 => absurd h (not_le.mpr (tierForScore_eq_zero.mp h0).2.2)

theorem tierForScore_ne_zero_mono {v w : ℚ} (hvw : v ≤ w)
    (h : s.tierForScore v ≠ 0) : s.tierForScore w ≠ 0 := by
  intro h0
  obtain ⟨h1, h2, h3⟩ := tierForScore_eq_zero.mp h0
  exact h (tierForScore_eq_zero.mpr ⟨hvw.trans_lt h1, hvw.trans_lt h2, hvw.trans_lt h3⟩)

theorem tierForScore_le (s : TieredSelector) (v : ℚ) : s.tierForScore v ≤ 3 := by
  simp only [tierForScore]
  split_ifs <;> omega

theorem groupByTier_eq_nil {tier : Nat} :
    s.groupByTier scores tier = [] ↔ ∀ k v, scores.lookup k = some v → s.tierForScore v ≠ tier := by
  simp [eq_nil_iff_forall_not_mem, mem_groupByTier]

theorem mem_highestTier : key ∈ s.highestTier scores ↔ ∃ v, scores.lookup key = some v ∧
    s.tierForScore v ≠ 0 ∧ ∀ k w, scores.lookup k = some w → s.tierForScore w ≠ 0 →
    s.tierForScore v ≤ s.tierForScore w := by
  have hle : ∀ v, s.tierForScore v ≤ 3 := s.tierForScore_le
  rw [highestTier]
  split_ifs with h1 h2
  · obtain ⟨k, hk⟩ := exists_mem_of_ne_nil _ h1
    obtain ⟨w, hw, ht⟩ := mem_groupByTier.mp hk
    rw [mem_groupByTier]
    refine exists_congr fun v => and_congr_right fun _ => ⟨fun hv => ?_, fun ⟨h0, hmin⟩ => ?_⟩
    · exact ⟨by omega, fun _ w' _ h0 => by omega⟩
    · have := hmin k w hw (by omega)
      omega
  · rw [not_not, groupByTier_eq_nil] at h1
    obtain ⟨k, hk⟩ := exists_mem_of_ne_nil _ h2
    obtain ⟨w, hw, ht⟩ := mem_groupByTier.mp hk
    rw [mem_groupByTier]
    refine exists_congr fun v => and_congr_right fun hl => ⟨fun hv => ?_, fun ⟨h0, hmin⟩ => ?_⟩
    · refine ⟨by omega, fun k' w' hw' h0 => ?_⟩
      have := h1 k' w' hw'
      omega
    · have := hmin k w hw (by omega)
      have := h1 key v hl
      omega
  · rw [not_not, groupByTier_eq_nil] at h1 h2
    rw [mem_groupByTier]
    refine exists_congr fun v => and_congr_right fun hl => ⟨fun hv => ?_, fun ⟨h0, _⟩ => ?_⟩
    · refine ⟨by omega, fun k' w' hw' h0 => ?_⟩
      have := h1 k' w' hw'
      have := h2 k' w' hw'
      omega
    · have := h1 key v hl
      have := h2 key v hl
      have := hle v
      omega

theorem highestTier_ne_nil :
    s.highestTier scores ≠ [] ↔ ∃ k v, scores.lookup k = some v ∧ s.tierForScore v ≠ 0 := by
  constructor
  · intro h
    obtain ⟨k, hk⟩ := exists_mem_of_ne_nil _ h
    obtain ⟨v, hl, h0, -⟩ := mem_highestTier.mp hk
    exact ⟨k, v, hl, h0⟩
  · rintro ⟨k, v, hl, h0⟩ hnil
    rw [highestTier] at hnil
    split_ifs at hnil with h1 h2
    · exact h1 hnil
    · exact h2 hnil
    · rw [not_not, groupByTier_eq_nil] at h1 h2
      rw [groupByTier_eq_nil] at hnil
      have := h1 k v hl
      have := h2 k v hl
      have := hnil k v hl
      have := s.tierForScore_le v
      omega

theorem mem_updateProbationStatus :
    key ∈ s.updateProbationStatus scores ↔ s.config.probation.enabled = true ∧
    ∃ v, scores.lookup key = some v ∧ v < s.config.probation.threshold ∧ s.minThreshold ≤ v := by
  by_cases hp : s.config.probation.enabled = true
  · simp only [updateProbationStatus, hp, if_true, mem_map, mem_filter,
      Bool.and_eq_true, decide_eq_true_eq, true_and]
    constructor
    · rintro ⟨⟨k, v⟩, ⟨he, hv⟩, rfl⟩
      exact ⟨v, mem_lookup_iff.mpr he, hv⟩
    · rintro ⟨v, hl, hv⟩
      exact ⟨⟨key, v⟩, ⟨mem_lookup_iff.mp hl, hv⟩, rfl⟩
  · simp [updateProbationStatus, hp]

end TieredSelector

end PathGateway
