import Mathlib.Data.Rat.Floor
import Mathlib.Tactic.Linarith
import Mathlib.Tactic.NormNum
import PathGateway.Protocol

/-! The two reputation filters of an endpoint lookup: the per-session filter on
drains, cooldowns and the minimum score, and the tier filter on the merged pool. Scores are
finite numbers. The one difference that the per-session filter computes is rounded. -/

namespace PathGateway

open TieredSelector GoMap ReputationService List AList

def maxScore : List ℚ → ℚ
  | [] => 0
  | v :: vs => vs.foldl max v

theorem foldl_max_le {vs : List ℚ} {v c : ℚ} : vs.foldl max v ≤ c ↔ v ≤ c ∧ ∀ w ∈ vs, w ≤ c := by
  induction vs generalizing v with
  | nil => simp
  | cons x xs ih => rw [foldl_cons, ih]; simp [and_assoc]

theorem maxScore_le {vs : List ℚ} (hne : vs ≠ []) {c : ℚ} : maxScore vs ≤ c ↔ ∀ w ∈ vs, w ≤ c := by
  cases vs with
  | nil => exact absurd rfl hne
  | cons => rw [maxScore, foldl_max_le]; simp

theorem maxScore_mem {vs : List ℚ} (hne : vs ≠ []) : maxScore vs ∈ vs := by
  cases vs with
  | nil => exact absurd rfl hne
  | cons v vs => exact max?_mem max?_cons'

def scoreTolerance : ℚ := 1 / 1000000000

/-- How the platform rounds the result of an operation. -/
structure Rounding where
  round : ℚ → ℚ
  mono : Monotone round

def Rounding.exact : Rounding := ⟨id, monotone_id⟩

@[simp] theorem Rounding.round_exact {q : ℚ} : Rounding.exact.round q = q := rfl

def leastBad (fl : Rounding) (score : EndpointAddr → ℚ) (endpoints : EndpointMap) : EndpointMap :=
  endpoints.retain (fun addr _ =>
    decide (fl.round (maxScore (endpoints.keys.map score) - scoreTolerance) ≤ score addr))

theorem lookup_leastBad {fl : Rounding} {score : EndpointAddr → ℚ} {endpoints : EndpointMap}
    {addr : EndpointAddr} {ep : Endpoint} :
    (leastBad fl score endpoints).lookup addr = some ep ↔
      endpoints.lookup addr = some ep ∧ ∀ a e, endpoints.lookup a = some e →
        fl.round (score a - scoreTolerance) ≤ score addr := by
  rw [leastBad, lookup_retain_eq_some, decide_eq_true_eq]
  refine and_congr_right fun hl => ?_
  have hmem : addr ∈ endpoints.keys := lookup_isSome.mp (by simp [hl])
  have hne : endpoints.keys.map score ≠ [] := by simpa using ne_nil_of_mem hmem
  constructor
  · intro h a e ha
    have hle := (maxScore_le hne).mp le_rfl (score a)
      (mem_map_of_mem (lookup_isSome.mp (by simp [ha])))
    exact (fl.mono (sub_le_sub_right hle _)).trans h
  · intro h
    obtain ⟨a, ha, hmax⟩ := mem_map.mp (maxScore_mem hne)
    obtain ⟨e, he⟩ := Option.isSome_iff_exists.mp (lookup_isSome.mpr ha)
    exact hmax ▸ h a e he

variable (svc : ReputationService) (env : Env) (serviceID : ServiceID) (t : RPCType)

/-- Whether the endpoint's URL for the RPC type lies at a benched domain. An endpoint
without such a URL is never benched. -/
def ReputationService.isEndpointDrained (url : String) : Bool :=
  (extractDomainOrHost env.net url).any (fun domain =>
    svc.isDomainDrained env.net env.now serviceID domain t.label)

def ReputationService.benchDrained (endpoints : EndpointMap) : EndpointMap :=
  endpoints.retainOrAll (fun _ ep => !svc.isEndpointDrained env serviceID t (ep.getURL t))

/-- The score that the filters read for the endpoint. -/
abbrev ReputationService.scoreAt (addr : EndpointAddr) : ℚ :=
  svc.scoreOf (svc.buildKey env.net serviceID addr t)

def ReputationService.tierOf (sel : TieredSelector)
    (env : Env) (serviceID : ServiceID) (t : RPCType) (addr : EndpointAddr) : Nat :=
  sel.tierForScore (svc.scoreAt env serviceID t addr)

/-- The endpoint is in a tier, and none of the others is in a better one. -/
def ReputationService.InBestTier (sel : TieredSelector) (env : Env) (serviceID : ServiceID)
    (t : RPCType) (endpoints : EndpointMap) (addr : EndpointAddr) : Prop :=
  svc.tierOf sel env serviceID t addr ≠ 0 ∧
    ∀ a e, endpoints.lookup a = some e → svc.tierOf sel env serviceID t a ≠ 0 →
      svc.tierOf sel env serviceID t addr ≤ svc.tierOf sel env serviceID t a

def Score.disqualifies (now : Time) (minThreshold : ℚ) (s : Score) : Bool :=
  s.isInCooldown now || decide (s.value < minThreshold)

def passesReputation (now : Time) (minThreshold : ℚ) (isRequested : Bool)
    (httpScore score : Option Score) : Bool :=
  if !isRequested && httpScore.any (Score.disqualifies now minThreshold) then false
  else
    match score with
    | none => true
    | some s =>
      if s.isInCooldown now then isRequested
      else decide (minThreshold ≤ s.value) || isRequested

theorem passesReputation_eq_true {now : Time} {minThreshold : ℚ} {isRequested : Bool}
    {httpScore score : Option Score} :
    passesReputation now minThreshold isRequested httpScore score = true ↔
      isRequested = true ∨
      httpScore.any (Score.disqualifies now minThreshold) = false ∧
      score.any (Score.disqualifies now minThreshold) = false := by
  cases isRequested with
  | true => cases score <;> simp [passesReputation]
  | false =>
    cases score with
    | none => simp [passesReputation]
    | some s =>
      cases hc : s.isInCooldown now <;> simp [passesReputation, Score.disqualifies, hc]

namespace Protocol

variable (p : Protocol) (env : Env) (serviceID : ServiceID)

def filterByReputation (endpoints : EndpointMap) (t : RPCType)
    (requestedEndpointAddr : EndpointAddr) (fl : Rounding := .exact) : EndpointMap :=
  match p.reputationService with
  | none => endpoints
  | some svc =>
    let keyOf := fun addr => svc.buildKey env.net serviceID addr t
    let httpKeyOf := fun addr => svc.buildKey env.net serviceID addr .jsonRPC
    let scores := svc.getScores (endpoints.keys.map keyOf)
    -- the json_rpc floor is read for WebSocket only
    let httpScores :=
      if t = .websocket ∧ p.applyWebsocketHTTPScoreFloor serviceID = true then
        svc.getScores (endpoints.keys.map httpKeyOf)
      else ∅
    let cached := svc.benchDrained env serviceID t endpoints
    let minThreshold := p.getMinThresholdForService serviceID
    let filtered := cached.retain (fun addr _ =>
      passesReputation env.now minThreshold (addr == requestedEndpointAddr)
        (httpScores.lookup (httpKeyOf addr)) (scores.lookup (keyOf addr)))
    if filtered.isEmpty then
      leastBad fl (fun addr => (scores.lookup (keyOf addr)).elim initialScore Score.value) cached
    else filtered

def pickedKeys (sel : TieredSelector) (draw : Fin 100) (scores : GoMap EndpointKey ℚ) :
    List EndpointKey :=
  if sel.shouldRouteToProbation draw ∧ sel.updateProbationStatus scores ≠ [] then
    sel.updateProbationStatus scores ++ sel.highestTier scores
  else sel.highestTier scores

def filterToHighestTier (endpoints : EndpointMap) (t : RPCType)
    (requestedEndpointAddr : EndpointAddr) : EndpointMap :=
  match p.getTieredSelectorForService serviceID, p.reputationService with
  | some sel, some svc =>
    let keyOf := fun addr => svc.buildKey env.net serviceID addr t
    let scores := svc.endpointScoresForKeys (endpoints.keys.map keyOf)
    let picked := pickedKeys sel env.draw scores
    if picked = [] then ∅
    else
      endpoints.retain (fun addr _ =>
        picked.any (fun k => k.endpointAddr == (keyOf addr).endpointAddr) ||
          (decide (requestedEndpointAddr ≠ "") && addr == requestedEndpointAddr &&
            (scores.lookup (keyOf addr)).any (fun v => decide (sel.minThreshold ≤ v))))
  | _, _ => endpoints

def Admits (svc : ReputationService) (t : RPCType) (requested addr : EndpointAddr) : Prop :=
  addr = requested ∨
    ((t = .websocket → p.applyWebsocketHTTPScoreFloor serviceID = true →
        (svc.storedScore (svc.buildKey env.net serviceID addr .jsonRPC)).any
          (Score.disqualifies env.now (p.getMinThresholdForService serviceID)) = false) ∧
      (svc.storedScore (svc.buildKey env.net serviceID addr t)).any
        (Score.disqualifies env.now (p.getMinThresholdForService serviceID)) = false)

variable {p env serviceID} {svc : ReputationService} {endpoints : EndpointMap} {t : RPCType}
  {requested addr : EndpointAddr} {ep : Endpoint} {fl : Rounding}

theorem mem_keys_of_lookup (h : endpoints.lookup addr = some ep) : addr ∈ endpoints.keys :=
  lookup_isSome.mp (by simp [h])

theorem lookup_of_benchDrained
    (h : (svc.benchDrained env serviceID t endpoints).lookup addr = some ep) :
    endpoints.lookup addr = some ep :=
  (lookup_retainOrAll_eq_some.mp h).1

theorem lookup_scores (h : endpoints.lookup addr = some ep) (t : RPCType) :
    (svc.getScores (endpoints.keys.map (fun a => svc.buildKey env.net serviceID a t))).lookup
        (svc.buildKey env.net serviceID addr t) =
      svc.storedScore (svc.buildKey env.net serviceID addr t) :=
  lookup_getScores (mem_map_of_mem (mem_keys_of_lookup h))

theorem lookup_filterByReputation (hs : p.reputationService = some svc) :
    (p.filterByReputation env serviceID endpoints t requested fl).lookup addr = some ep ↔
      (svc.benchDrained env serviceID t endpoints).lookup addr = some ep ∧
        (p.Admits env serviceID svc t requested addr ∨
          (∀ a e, (svc.benchDrained env serviceID t endpoints).lookup a = some e →
            ¬p.Admits env serviceID svc t requested a) ∧
          ∀ a e, (svc.benchDrained env serviceID t endpoints).lookup a = some e →
            fl.round (svc.scoreAt env serviceID t a - scoreTolerance) ≤
              svc.scoreAt env serviceID t addr) := by
  simp only [filterByReputation, hs]
  generalize hc : svc.benchDrained env serviceID t endpoints = cached
  have hsub : ∀ a e, cached.lookup a = some e → endpoints.lookup a = some e :=
    fun a e h => lookup_of_benchDrained (hc ▸ h)
  generalize hf : retain _ cached = filtered
  have hadm : ∀ a e, filtered.lookup a = some e ↔
      cached.lookup a = some e ∧ p.Admits env serviceID svc t requested a := by
    intro a e
    rw [← hf, lookup_retain_eq_some]
    refine and_congr_right fun hl => ?_
    rw [passesReputation_eq_true, lookup_scores (hsub a e hl), beq_iff_eq, Admits]
    split_ifs with hfloor
    · rw [lookup_scores (hsub a e hl)]
      simp [hfloor]
    · simp only [not_and, Bool.not_eq_true] at hfloor
      simp +contextual [hfloor]
  split_ifs with he
  · have hnone : ∀ a e, cached.lookup a = some e → ¬p.Admits env serviceID svc t requested a :=
      fun a e hl ha => isEmpty_eq_true.mp he a e ((hadm a e).mpr ⟨hl, ha⟩)
    rw [lookup_leastBad]
    refine and_congr_right fun hl => ?_
    have hscore : ∀ a e, cached.lookup a = some e →
        ((svc.getScores (endpoints.keys.map (fun a => svc.buildKey env.net serviceID a t))).lookup
          (svc.buildKey env.net serviceID a t)).elim initialScore Score.value =
          svc.scoreAt env serviceID t a :=
      fun a e ha => by rw [lookup_scores (hsub a e ha)]; rfl
    rw [hscore addr ep hl]
    constructor
    · intro h
      refine .inr ⟨hnone, fun a e ha => ?_⟩
      rw [← hscore a e ha]
      exact h a e ha
    · rintro (h | ⟨-, h⟩) a e ha
      · exact absurd h (hnone addr ep hl)
      · rw [hscore a e ha]
        exact h a e ha
  · rw [hadm]
    obtain ⟨a, e, hl⟩ := isEmpty_eq_false.mp (eq_false_of_ne_true he)
    have ha := (hadm a e).mp hl
    exact and_congr_right fun _ => ⟨.inl, fun h => h.elim id fun h => absurd ha.2 (h.1 a e ha.1)⟩

/-- The scores by key that the tier filter reads. -/
abbrev poolScores (svc : ReputationService) (env : Env) (serviceID : ServiceID) (t : RPCType)
    (endpoints : EndpointMap) : GoMap EndpointKey ℚ :=
  svc.endpointScoresForKeys (endpoints.keys.map (fun a => svc.buildKey env.net serviceID a t))

theorem lookup_endpointScores {k : EndpointKey} {v : ℚ} :
    (poolScores svc env serviceID t endpoints).lookup k = some v ↔
      (∃ a e, endpoints.lookup a = some e ∧ svc.buildKey env.net serviceID a t = k) ∧
        svc.scoreOf k = v := by
  rw [lookup_endpointScoresForKeys, Option.ite_none_right_eq_some, mem_map, Option.some_inj]
  refine and_congr_left fun _ => ⟨fun ⟨a, ha, hk⟩ => ?_, fun ⟨a, e, ha, hk⟩ => ?_⟩
  · obtain ⟨e, he⟩ := Option.isSome_iff_exists.mp (lookup_isSome.mpr ha)
    exact ⟨a, e, he, hk⟩
  · exact ⟨a, mem_keys_of_lookup ha, hk⟩

variable {sel : TieredSelector}

theorem mem_pickedKeys {draw : Fin 100} {scores : GoMap EndpointKey ℚ} {k : EndpointKey} :
    k ∈ pickedKeys sel draw scores ↔ k ∈ sel.highestTier scores ∨
    sel.shouldRouteToProbation draw = true ∧ k ∈ sel.updateProbationStatus scores := by
  rw [pickedKeys]
  split_ifs with h
  · simp [h.1, or_comm]
  · rw [not_and_or, not_not] at h
    constructor
    · exact .inl
    · rintro (hk | ⟨hr, hk⟩)
      · exact hk
      · rcases h with h | h
        · exact absurd hr h
        · simp [h] at hk

theorem buildKey_eq_of_endpointAddr {a a' : EndpointAddr}
    (h : (svc.buildKey env.net serviceID a t).endpointAddr =
    (svc.buildKey env.net serviceID a' t).endpointAddr) :
    svc.buildKey env.net serviceID a t = svc.buildKey env.net serviceID a' t := by
  simp only [buildKey, KeyBuilder.buildKey] at h ⊢
  rw [h]

theorem keys_of_pickedKeys {draw : Fin 100} {k : EndpointKey}
    (h : k ∈ pickedKeys sel draw (poolScores svc env serviceID t endpoints)) :
    ∃ a e, endpoints.lookup a = some e ∧ svc.buildKey env.net serviceID a t = k := by
  rcases mem_pickedKeys.mp h with h | ⟨-, h⟩
  · obtain ⟨v, hl, -⟩ := mem_highestTier.mp h
    exact (lookup_endpointScores.mp hl).1
  · obtain ⟨-, v, hl, -⟩ := mem_updateProbationStatus.mp h
    exact (lookup_endpointScores.mp hl).1

theorem buildKey_mem_pickedKeys {draw : Fin 100} (hl : endpoints.lookup addr = some ep) :
    svc.buildKey env.net serviceID addr t ∈
        pickedKeys sel draw (poolScores svc env serviceID t endpoints) ↔
      svc.InBestTier sel env serviceID t endpoints addr ∨
      sel.shouldRouteToProbation draw = true ∧
        svc.scoreAt env serviceID t addr < sel.config.probation.threshold ∧
        sel.minThreshold ≤ svc.scoreAt env serviceID t addr := by
  have hk : ∃ a e, endpoints.lookup a = some e ∧
      svc.buildKey env.net serviceID a t = svc.buildKey env.net serviceID addr t :=
    ⟨addr, ep, hl, rfl⟩
  rw [mem_pickedKeys, mem_highestTier, mem_updateProbationStatus]
  simp only [lookup_endpointScores, and_imp, forall_exists_index]
  refine or_congr ?_ (and_congr_right fun hr => ?_)
  · constructor
    · rintro ⟨v, ⟨-, rfl⟩, h0, hmin⟩
      exact ⟨h0, fun a e ha => hmin _ _ a e ha rfl rfl⟩
    · rintro ⟨h0, hmin⟩
      refine ⟨_, ⟨hk, rfl⟩, h0, ?_⟩
      rintro k w a e ha rfl rfl hw
      exact hmin a e ha hw
  · have hp : sel.config.probation.enabled = true := by
      simp only [shouldRouteToProbation, Bool.and_eq_true] at hr
      exact hr.1
    constructor
    · rintro ⟨-, v, ⟨-, rfl⟩, h⟩
      exact h
    · intro h
      exact ⟨hp, _, ⟨hk, rfl⟩, h⟩

theorem lookup_filterToHighestTier (hsel : p.getTieredSelectorForService serviceID = some sel)
    (hs : p.reputationService = some svc) :
    (p.filterToHighestTier env serviceID endpoints t requested).lookup addr = some ep ↔
      endpoints.lookup addr = some ep ∧
      (svc.InBestTier sel env serviceID t endpoints addr ∨
      sel.shouldRouteToProbation env.draw = true ∧
        svc.scoreAt env serviceID t addr < sel.config.probation.threshold ∧
        sel.minThreshold ≤ svc.scoreAt env serviceID t addr ∨
      requested ≠ "" ∧ addr = requested ∧
        sel.minThreshold ≤ svc.scoreAt env serviceID t addr) := by
  simp only [filterToHighestTier, hsel, hs]
  split_ifs with hnil
  · simp only [lookup_empty, reduceCtorEq, false_iff, not_and]
    intro hl hkept
    -- every way of being kept puts the endpoint in some tier
    have htier : svc.tierOf sel env serviceID t addr ≠ 0 := by
      rcases hkept with h | h | h
      · exact h.1
      · exact tierForScore_ne_zero_of_min_le h.2.2
      · exact tierForScore_ne_zero_of_min_le h.2.2
    have hne := highestTier_ne_nil.mpr
      ⟨_, _, lookup_endpointScores.mpr ⟨⟨addr, ep, hl, rfl⟩, rfl⟩, htier⟩
    obtain ⟨k, hk⟩ := exists_mem_of_ne_nil _ hne
    exact ne_nil_of_mem (mem_pickedKeys.mpr (.inl hk)) hnil
  · rw [lookup_retain_eq_some]
    refine and_congr_right fun hl => ?_
    rw [lookup_endpointScores.mpr ⟨⟨addr, ep, hl, rfl⟩, rfl⟩, Bool.or_eq_true, ← or_assoc,
      ← buildKey_mem_pickedKeys hl]
    refine or_congr ?_ (by simp [and_assoc])
    simp only [any_eq_true, beq_iff_eq]
    constructor
    · rintro ⟨k, hk, he⟩
      obtain ⟨a, e, ha, rfl⟩ := keys_of_pickedKeys hk
      exact buildKey_eq_of_endpointAddr he ▸ hk
    · intro hk
      exact ⟨_, hk, rfl⟩

theorem lookup_of_filterByReputation
    (h : (p.filterByReputation env serviceID endpoints t requested fl).lookup addr = some ep) :
    endpoints.lookup addr = some ep := by
  cases hs : p.reputationService with
  | none => simpa [filterByReputation, hs] using h
  | some => exact lookup_of_benchDrained ((lookup_filterByReputation hs).mp h).1

theorem lookup_filterByReputation_of_max (hs : p.reputationService = some svc)
    (hfinite : fl.round (svc.scoreAt env serviceID t addr) = svc.scoreAt env serviceID t addr)
    (hnone : ∀ a e, (svc.benchDrained env serviceID t endpoints).lookup a = some e →
      ¬p.Admits env serviceID svc t requested a)
    (hl : (svc.benchDrained env serviceID t endpoints).lookup addr = some ep)
    (hmax : ∀ a e, (svc.benchDrained env serviceID t endpoints).lookup a = some e →
      svc.scoreAt env serviceID t a ≤ svc.scoreAt env serviceID t addr) :
    (p.filterByReputation env serviceID endpoints t requested fl).lookup addr = some ep := by
  refine (lookup_filterByReputation hs).mpr ⟨hl, .inr ⟨hnone, fun a e ha => ?_⟩⟩
  have htol : (0 : ℚ) ≤ scoreTolerance := by norm_num [scoreTolerance]
  have hle := (sub_le_self _ htol).trans (hmax a e ha)
  exact (fl.mono hle).trans_eq hfinite

theorem filterToHighestTier_eq_self (h : p.getTieredSelectorForService serviceID = none) :
    p.filterToHighestTier env serviceID endpoints t requested = endpoints := by
  simp [filterToHighestTier, h]

theorem lookup_of_filterToHighestTier
    (h : (p.filterToHighestTier env serviceID endpoints t requested).lookup addr = some ep) :
    endpoints.lookup addr = some ep := by
  cases hsel : p.getTieredSelectorForService serviceID with
  | none => rwa [filterToHighestTier_eq_self hsel] at h
  | some =>
    cases hs : p.reputationService with
    | none => simp [getTieredSelectorForService_eq_none hs] at hsel
    | some => exact ((lookup_filterToHighestTier hsel hs).mp h).1

/-- The scores that the filter reads are numbers of the platform, and none is a NaN. -/
def FiniteScores (fl : Rounding) (env : Env) (serviceID : ServiceID) (svc : ReputationService)
    (endpoints : EndpointMap) (t : RPCType) : Prop :=
  ∀ a e, endpoints.lookup a = some e →
    fl.round (svc.scoreAt env serviceID t a) = svc.scoreAt env serviceID t a

theorem isEmpty_filterByReputation_rounded (hfinite : ∀ svc, p.reputationService = some svc →
      FiniteScores fl env serviceID svc endpoints t) :
    isEmpty (p.filterByReputation env serviceID endpoints t requested fl) = isEmpty endpoints := by
  cases hs : p.reputationService with
  | none => simp [filterByReputation, hs]
  | some svc =>
    have hbench : isEmpty (svc.benchDrained env serviceID t endpoints) =
        isEmpty endpoints := isEmpty_retainOrAll
    cases he : isEmpty endpoints with
    | true =>
      rw [isEmpty_eq_true] at he ⊢
      intro a e hl
      exact he a e (lookup_of_filterByReputation hl)
    | false =>
      rw [isEmpty_eq_false]
      by_cases hadm : ∃ a e, (svc.benchDrained env serviceID t endpoints).lookup a = some e ∧
          p.Admits env serviceID svc t requested a
      · obtain ⟨a, e, hl, ha⟩ := hadm
        exact ⟨a, e, (lookup_filterByReputation hs).mpr ⟨hl, .inl ha⟩⟩
      · push Not at hadm
        obtain ⟨a, e, hl, hmax⟩ := exists_max_image
          (fun a => svc.scoreAt env serviceID t a) (hbench.trans he)
        exact ⟨a, e, lookup_filterByReputation_of_max hs
          (hfinite svc hs a e (lookup_of_benchDrained hl)) hadm hl hmax⟩

theorem isEmpty_filterByReputation :
    isEmpty (p.filterByReputation env serviceID endpoints t requested) = isEmpty endpoints :=
  isEmpty_filterByReputation_rounded fun _ _ _ _ _ => rfl

section Meaning

variable (p env serviceID svc endpoints t requested)

/-- The endpoint is not benched by a drain, unless all are. -/
def Undrained (addr : EndpointAddr) (ep : Endpoint) : Prop :=
  endpoints.lookup addr = some ep ∧
    (svc.isEndpointDrained env serviceID t (ep.getURL t) = false ∨
      ∀ a e, endpoints.lookup a = some e →
        svc.isEndpointDrained env serviceID t (e.getURL t) = true)

def Passing (key : EndpointKey) : Prop :=
  ∀ s ∈ svc.storedScore key,
    s.isInCooldown env.now = false ∧ p.getMinThresholdForService serviceID ≤ s.value

def Qualifies (addr : EndpointAddr) : Prop :=
  (t = .websocket ∧ p.applyWebsocketHTTPScoreFloor serviceID = true →
    addr = requested ∨ p.Passing env serviceID svc (svc.buildKey env.net serviceID addr .jsonRPC)) ∧
  (addr = requested ∨ p.Passing env serviceID svc (svc.buildKey env.net serviceID addr t))

variable {p env serviceID svc endpoints t requested}

theorem benchDrained_undrained :
    (svc.benchDrained env serviceID t endpoints).lookup addr = some ep ↔
      Undrained env serviceID svc endpoints t addr ep := by
  simp [benchDrained, lookup_retainOrAll_eq_some, Undrained]

theorem admits_iff_qualifies : p.Admits env serviceID svc t requested addr ↔
    p.Qualifies env serviceID svc t requested addr := by
  have hpassing (key : EndpointKey) : (svc.storedScore key).any
      (Score.disqualifies env.now (p.getMinThresholdForService serviceID)) = false ↔
        p.Passing env serviceID svc key := by
    simp [Passing, Option.any_eq_false, Score.disqualifies]
  rw [Admits, Qualifies, hpassing, hpassing, and_imp]
  by_cases hrequested : addr = requested <;> simp [hrequested]

/-- Those that qualify among the undrained ones are left, or if none does, those whose score is
at least the highest less the tolerance, as the platform computes the difference: that is every
one that is within the tolerance, and nothing else where the difference is exact. -/
theorem filterByReputation_spec (p : Protocol) (env : Env) (serviceID : ServiceID)
    (endpoints : EndpointMap) (t : RPCType) (requested : EndpointAddr) (svc : ReputationService)
    (fl : Rounding) (hs : p.reputationService = some svc)
    (hfinite : FiniteScores fl env serviceID svc endpoints t) :
    ((∃ a e, Undrained env serviceID svc endpoints t a e ∧
        p.Qualifies env serviceID svc t requested a) → ∀ addr ep,
      ((p.filterByReputation env serviceID endpoints t requested fl).lookup addr = some ep ↔
        Undrained env serviceID svc endpoints t addr ep ∧
          p.Qualifies env serviceID svc t requested addr)) ∧
    ((∀ a e, Undrained env serviceID svc endpoints t a e →
        ¬p.Qualifies env serviceID svc t requested a) → ∀ addr ep,
      ((p.filterByReputation env serviceID endpoints t requested fl).lookup addr = some ep ↔
        Undrained env serviceID svc endpoints t addr ep ∧
          ∀ a e, Undrained env serviceID svc endpoints t a e →
            fl.round (svc.scoreAt env serviceID t a - scoreTolerance) ≤
              svc.scoreAt env serviceID t addr) ∧
      (Undrained env serviceID svc endpoints t addr ep →
        (∀ a e, Undrained env serviceID svc endpoints t a e →
          svc.scoreAt env serviceID t a - scoreTolerance ≤ svc.scoreAt env serviceID t addr) →
        (p.filterByReputation env serviceID endpoints t requested fl).lookup addr = some ep)) ∧
    (∀ addr ep,
      (p.filterByReputation env serviceID endpoints t requested fl).lookup addr = some ep →
        endpoints.lookup addr = some ep) ∧
    (isEmpty (p.filterByReputation env serviceID endpoints t requested fl) = true →
      isEmpty endpoints = true) := by
  refine ⟨?_, fun hnone addr ep => ?_, fun _ _ => lookup_of_filterByReputation, fun hempty => ?_⟩
  · rintro ⟨a, e, hundrained, hqualifies⟩ addr ep
    simp only [lookup_filterByReputation hs, benchDrained_undrained, admits_iff_qualifies]
    refine and_congr_right fun _ => or_iff_left ?_
    rintro ⟨hnone, -⟩
    exact hnone a e hundrained hqualifies
  · have hkept : (p.filterByReputation env serviceID endpoints t requested fl).lookup addr =
        some ep ↔ Undrained env serviceID svc endpoints t addr ep ∧
          ∀ a e, Undrained env serviceID svc endpoints t a e →
            fl.round (svc.scoreAt env serviceID t a - scoreTolerance) ≤
              svc.scoreAt env serviceID t addr := by
      simp only [lookup_filterByReputation hs, benchDrained_undrained, admits_iff_qualifies]
      refine and_congr_right fun hundrained => ?_
      rw [or_iff_right (hnone addr ep hundrained), and_iff_right hnone]
    refine ⟨hkept, fun hundrained hwithin => hkept.mpr ⟨hundrained, fun a e ha => ?_⟩⟩
    exact (fl.mono (hwithin a e ha)).trans_eq (hfinite addr ep hundrained.1)
  · rw [isEmpty_filterByReputation_rounded fun svc' hs' => ?_] at hempty
    · exact hempty
    · cases hs.symm.trans hs'
      exact hfinite

end Meaning

theorem isEmpty_filterToHighestTier_eq_false
    (hsel : p.getTieredSelectorForService serviceID = some sel)
    (hs : p.reputationService = some svc) :
    isEmpty (p.filterToHighestTier env serviceID endpoints t requested) = false ↔
      ∃ a e, endpoints.lookup a = some e ∧ svc.tierOf sel env serviceID t a ≠ 0 := by
  simp only [isEmpty_eq_false, lookup_filterToHighestTier hsel hs]
  constructor
  · rintro ⟨a, e, hl, h | h | h⟩
    · exact ⟨a, e, hl, h.1⟩
    · exact ⟨a, e, hl, tierForScore_ne_zero_of_min_le h.2.2⟩
    · exact ⟨a, e, hl, tierForScore_ne_zero_of_min_le h.2.2⟩
  · rintro ⟨a, e, hl, h0⟩
    -- an endpoint of the smallest tier that occurs
    classical
    have hex : ∃ n, n ≠ 0 ∧ ∃ a e, endpoints.lookup a = some e ∧
        svc.tierOf sel env serviceID t a = n := ⟨_, h0, a, e, hl, rfl⟩
    obtain ⟨hn, b, eb, hb, htb⟩ := Nat.find_spec hex
    refine ⟨b, eb, hb, .inl ⟨htb ▸ hn, fun a e ha h => ?_⟩⟩
    rw [htb]
    exact Nat.find_min' hex ⟨h, a, e, ha, rfl⟩

theorem exists_filterByReputation_tier (hs : p.reputationService = some svc) :
    (∃ a e, (p.filterByReputation env serviceID endpoints t requested).lookup a = some e ∧
        svc.tierOf sel env serviceID t a ≠ 0) ↔
      ∃ a e, (svc.benchDrained env serviceID t endpoints).lookup a = some e ∧
        svc.tierOf sel env serviceID t a ≠ 0 ∧
        (p.Admits env serviceID svc t requested a ∨
          ∀ a' e', (svc.benchDrained env serviceID t endpoints).lookup a' = some e' →
            ¬p.Admits env serviceID svc t requested a') := by
  constructor
  · rintro ⟨a, e, hl, h0⟩
    obtain ⟨hb, h⟩ := (lookup_filterByReputation hs).mp hl
    exact ⟨a, e, hb, h0, h.imp_right And.left⟩
  · rintro ⟨a, e, hb, h0, ha | hnone⟩
    · exact ⟨a, e, (lookup_filterByReputation hs).mpr ⟨hb, .inl ha⟩, h0⟩
    · obtain ⟨b, eb, hl, hmax⟩ := exists_max_image
        (fun a => svc.scoreAt env serviceID t a)
        (isEmpty_eq_false.mpr ⟨a, e, hb⟩)
      exact ⟨b, eb, lookup_filterByReputation_of_max hs rfl hnone hl hmax,
        tierForScore_ne_zero_mono (hmax a e hb) h0⟩

/-- A requested endpoint that is not benched always passes the per-session filter. The
tier filter after it drops it exactly when its score is below the minimum threshold and
its tier is not the best one of the pool. -/
theorem requestedEndpoint_kept_iff (hne : requested ≠ "")
    (hl : endpoints.lookup requested = some ep)
    (hdrain : ∀ svc, p.reputationService = some svc →
      svc.isEndpointDrained env serviceID t (ep.getURL t) = false) :
    (p.filterByReputation env serviceID endpoints t requested).lookup requested = some ep ∧
      ((p.filterToHighestTier env serviceID
          (p.filterByReputation env serviceID endpoints t requested) t requested).lookup
            requested = some ep ↔
        ∀ svc sel, p.reputationService = some svc →
          p.getTieredSelectorForService serviceID = some sel →
            sel.minThreshold ≤ svc.scoreAt env serviceID t requested ∨
            svc.InBestTier sel env serviceID t
              (p.filterByReputation env serviceID endpoints t requested) requested) := by
  cases hs : p.reputationService with
  | none =>
    have hkept : (p.filterByReputation env serviceID endpoints t requested).lookup requested =
        some ep := by simpa [filterByReputation, hs] using hl
    refine ⟨hkept, ?_⟩
    rw [filterToHighestTier_eq_self (getTieredSelectorForService_eq_none hs serviceID)]
    simp [hkept]
  | some svc =>
    have hbench : (svc.benchDrained env serviceID t endpoints).lookup requested = some ep :=
      lookup_retainOrAll_eq_some.mpr ⟨hl, .inl (by simp [hdrain svc hs])⟩
    have hkept : (p.filterByReputation env serviceID endpoints t requested).lookup requested =
        some ep := (lookup_filterByReputation hs).mpr ⟨hbench, .inl (.inl rfl)⟩
    refine ⟨hkept, ?_⟩
    cases hsel : p.getTieredSelectorForService serviceID with
    | none => simp [filterToHighestTier_eq_self hsel, hkept]
    | some sel =>
      rw [lookup_filterToHighestTier hsel hs]
      simp only [hkept, true_and, ne_eq, hne, not_false_eq_true, Option.some.injEq]
      constructor
      · rintro h svc' sel' rfl rfl
        rcases h with h | h | h
        · exact .inr h
        · exact .inl h.2.2
        · exact .inl h
      · intro h
        rcases h svc sel rfl rfl with h | h
        · exact .inr (.inr h)
        · exact .inl h

end Protocol

def soleEndpoint (supplier url : String) : Endpoint :=
  .protocol ⟨supplier, (∅ : GoMap RPCType String).insert .jsonRPC url, url, ⟨"s1", 1, none⟩⟩

def sampleSelector : TieredSelector := ⟨⟨true, 70, 50, ⟨false, 0, 0⟩⟩, 30⟩

def scoredProtocol (svc : ReputationService) (h : svc.enabled = true) (sel : TieredSelector) :
    Protocol where
  unifiedServicesConfig := none
  loadTestingConfig := none
  blockedDomains := none
  endpointPolicy := ⟨false, false⟩
  supplierBlacklist := some ⟨∅⟩
  sessionExhaustion := some ⟨∅⟩
  reputationService := some svc
  tieredSelector := some sel
  serviceTieredSelectors := ∅
  sessionEndpointsCache := ∅
  selectors_scored := nofun
  reputation_enabled := by rintro _ ⟨⟩; exact h

def sampleProtocol (cache : GoMap EndpointKey Score) (drained : GoMap DrainKey Time) : Protocol :=
  scoredProtocol ⟨true, 80, ∅, .endpoint, ∅, cache, drained⟩ rfl sampleSelector

def sampleEnv : Env := ⟨NetLib.ascii, 100, 0⟩

def lowScore (addr : EndpointAddr) : GoMap EndpointKey Score :=
  (∅ : GoMap EndpointKey Score).insert ⟨"eth", addr, .jsonRPC⟩ ⟨5, none⟩

theorem requestedEndpoint_lost_below_threshold :
    ¬∀ (p : Protocol) (env : Env) (serviceID : ServiceID) (endpoints : EndpointMap)
      (t : RPCType) (requested : EndpointAddr) (ep : Endpoint), requested ≠ "" →
      endpoints.lookup requested = some ep →
      (∀ svc, p.reputationService = some svc →
        svc.isEndpointDrained env serviceID t (ep.getURL t) = false) →
      (p.filterToHighestTier env serviceID
        (p.filterByReputation env serviceID endpoints t requested) t requested).lookup
          requested = some ep := by
  intro h
  have hlost := h (sampleProtocol (lowScore rmAddr) ∅) sampleEnv "eth"
    ((∅ : EndpointMap).insert rmAddr
      (soleEndpoint "pokt1a" "https://rm.example.com"))
    .jsonRPC rmAddr (soleEndpoint "pokt1a" "https://rm.example.com")
    (by decide) (lookup_insert _) (by rintro svc ⟨⟩; decide)
  revert hlost
  decide +kernel

theorem requestedEndpoint_kept_iff_sole :
    ((sampleProtocol ∅ ∅).filterToHighestTier sampleEnv "eth"
      ((sampleProtocol ∅ ∅).filterByReputation sampleEnv "eth"
        ((∅ : EndpointMap).insert rmAddr
          (soleEndpoint "pokt1a" "https://rm.example.com"))
        .jsonRPC rmAddr)
      .jsonRPC rmAddr).lookup rmAddr =
      some (soleEndpoint "pokt1a" "https://rm.example.com") :=
  (Protocol.requestedEndpoint_kept_iff (by decide) (lookup_insert _)
    (by rintro svc ⟨⟩; decide)).2.mpr (by rintro svc sel ⟨⟩ ⟨⟩; exact .inl (by decide +kernel))

/-- The rounding of float64 between 16 and 32, where its numbers are the multiples of 2⁻⁴⁸. -/
def binary64 : Rounding where
  round q := ⌊q * 2 ^ 48 + 1 / 2⌋ / 2 ^ 48
  mono a b h := by
    have hmul : a * 2 ^ 48 + 1 / 2 ≤ b * 2 ^ 48 + 1 / 2 := by linarith
    have hfloor : (⌊a * 2 ^ 48 + 1 / 2⌋ : ℚ) ≤ ⌊b * 2 ^ 48 + 1 / 2⌋ := by
      exact_mod_cast Int.floor_le_floor hmul
    exact div_le_div_of_nonneg_right hfloor (by positivity)

def twoScored (first second : ℚ) : GoMap EndpointKey Score :=
  ((∅ : GoMap EndpointKey Score).insert ⟨"eth", rmAddr, .jsonRPC⟩
    ⟨first, none⟩).insert ⟨"eth", "pokt1b-https://rm.sample.com", .jsonRPC⟩ ⟨second, none⟩

def twoEndpoints : EndpointMap :=
  ((∅ : EndpointMap).insert rmAddr
    (soleEndpoint "pokt1a" "https://rm.example.com")).insert "pokt1b-https://rm.sample.com"
    (soleEndpoint "pokt1b" "https://rm.sample.com")

theorem finiteScores_twoEndpoints {svc : ReputationService} {fl : Rounding}
    (hfirst : fl.round (svc.scoreAt sampleEnv "eth" .jsonRPC rmAddr) =
      svc.scoreAt sampleEnv "eth" .jsonRPC rmAddr)
    (hsecond : fl.round (svc.scoreAt sampleEnv "eth" .jsonRPC "pokt1b-https://rm.sample.com") =
      svc.scoreAt sampleEnv "eth" .jsonRPC "pokt1b-https://rm.sample.com") :
    Protocol.FiniteScores fl sampleEnv "eth" svc twoEndpoints .jsonRPC := by
  intro a e hl
  rcases lookup_insert_eq_some.mp hl with ⟨rfl, -⟩ | ⟨-, hl⟩
  · exact hsecond
  · rcases lookup_insert_eq_some.mp hl with ⟨rfl, -⟩ | ⟨-, hl⟩
    · exact hfirst
    · cases hl

/-- Both are below the threshold, and the result is not empty. -/
theorem least_bad_kept :
    Protocol.FiniteScores binary64 sampleEnv "eth" ⟨true, 80, ∅, .endpoint, ∅, twoScored 20 25, ∅⟩
      twoEndpoints .jsonRPC ∧
    ((sampleProtocol (twoScored 20 25) ∅).filterByReputation sampleEnv "eth" twoEndpoints .jsonRPC
      "" binary64).isEmpty = false := by
  have hfinite : Protocol.FiniteScores binary64 sampleEnv "eth"
      ⟨true, 80, ∅, .endpoint, ∅, twoScored 20 25, ∅⟩ twoEndpoints .jsonRPC :=
    finiteScores_twoEndpoints (by decide +kernel) (by decide +kernel)
  refine ⟨hfinite, Bool.eq_false_of_not_eq_true fun h => ?_⟩
  have hempty := (Protocol.filterByReputation_spec (sampleProtocol (twoScored 20 25) ∅) sampleEnv
    "eth" twoEndpoints .jsonRPC "" _ binary64 rfl hfinite).2.2.2 h
  revert hempty
  decide +kernel

/-- A score of 28.999999999 as float64. -/
def justBelow : ℚ := binary64.round (28999999999 / 1000000000)

/-- The second score is further from the first than the tolerance, and both are left. -/
theorem second_score_kept :
    justBelow < 29 - scoreTolerance ∧
    ((sampleProtocol (twoScored 29 justBelow) ∅).filterByReputation sampleEnv "eth" twoEndpoints
      .jsonRPC "" binary64).keys = twoEndpoints.keys := by
  constructor
  · decide +kernel
  · decide +kernel

end PathGateway
