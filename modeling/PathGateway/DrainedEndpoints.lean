import PathGateway.RelayTarget

/-! Admin drains over a whole lookup. The drain step runs inside each session, on the
URL for the requested type; the pool is the union over the sessions, and a relay may go
to another URL. -/

namespace PathGateway

open ReputationService Option List GoMap

namespace Protocol

variable (p : Protocol) (env : Env) (req : LookupRequest) (pool : EndpointMap) (ep : Endpoint)

def withScores (cache : GoMap EndpointKey Score) : Protocol :=
  { p with
    reputationService := p.reputationService.map (fun svc => { svc with cache := cache })
    selectors_scored := fun h => p.selectors_scored (map_eq_none_iff.mp h)
    reputation_enabled := fun svc h => by
      obtain ⟨svc', hs, rfl⟩ := map_eq_some_iff.mp h
      exact p.reputation_enabled svc' hs }

def relayURL : String :=
  (((p.requestContext req ep req.filterByRPCType).sendProtocolRelay true).1).getD ""

def relayDrained : Bool :=
  p.reputationService.any (fun svc =>
    svc.isEndpointDrained env req.serviceID req.filterByRPCType (p.relayURL req ep))

/-- The pool of the session that follows `pre`, before the drain step. -/
abbrev poolAfter (pre : List SessionEndpoints) (s : SessionEndpoints) : EndpointMap :=
  p.sessionPool env req (p.typeAfter env req pre) s.endpoints

/-- Every endpoint of every session pool is drained. -/
def AllDrained (ss : List SessionEndpoints) : Prop :=
  ∀ pre s post, ss = pre ++ s :: post → ∀ a e,
    (p.poolAfter env req pre s).lookup a = some e → p.relayDrained env req e = true

def DrainIsLastResort (sessions : List Session) : Prop :=
  ∀ m t, p.getSessionsUniqueEndpoints env req sessions = .ok (m, t) → ∀ addr ep,
    m.lookup addr = some ep → p.relayDrained env req ep = true →
      p.AllDrained env req (p.resolved sessions)

/-- The endpoint is drained and its pool has one that is not. -/
def Benched : Prop :=
  p.reputationApplies req = true ∧ ∃ svc, p.reputationService = some svc ∧
    svc.isEndpointDrained env req.serviceID req.filterByRPCType
      (ep.getURL req.filterByRPCType) = true ∧
    ∃ a e, pool.lookup a = some e ∧
      svc.isEndpointDrained env req.serviceID req.filterByRPCType
        (e.getURL req.filterByRPCType) = false

def Kept (addr : EndpointAddr) (ep : Endpoint) : Prop :=
  pool.lookup addr = some ep ∧ ¬p.Benched env req pool ep

/-- Scores can reject every endpoint that `pool` keeps, but not every one of `pool'`. -/
def CanGiveUp (pool' : EndpointMap) : Prop :=
  p.reputationApplies req = true ∧
    (∀ a e, p.Kept env req pool a e → a ≠ req.requestedEndpointAddr) ∧
    ∃ a' e', p.Kept env req pool' a' e' ∧
      (a' = req.requestedEndpointAddr ∨
        ∀ svc, p.reputationService = some svc → ∀ a e, p.Kept env req pool a e →
          svc.buildKey env.net req.serviceID a req.filterByRPCType ≠
            svc.buildKey env.net req.serviceID a' req.filterByRPCType)

/-- Every endpoint with a drained relay URL is benched in its session, or a later session
replaces it whatever the scores. -/
def DrainsHold (ss : List SessionEndpoints) : Prop :=
  ∀ pre s post, ss = pre ++ s :: post → ∀ a e,
    p.Kept env req (p.poolAfter env req pre s) a e → p.relayDrained env req e = true →
      ∃ mid s' rest e', post = mid ++ s' :: rest ∧
        p.Kept env req (p.poolAfter env req (pre ++ s :: mid) s') a e' ∧
        ¬p.CanGiveUp env req (p.poolAfter env req pre s)
          (p.poolAfter env req (pre ++ s :: mid) s')

variable {p : Protocol} {env : Env} {req : LookupRequest} {ss : List SessionEndpoints}
  {pool : EndpointMap} {addr : EndpointAddr} {ep : Endpoint} {svc : ReputationService}

theorem lookup_benchDrained (hs : p.reputationService = some svc)
    (happly : p.reputationApplies req = true) :
    (svc.benchDrained env req.serviceID req.filterByRPCType pool).lookup addr = some ep ↔
    p.Kept env req pool addr ep := by
  rw [benchDrained, lookup_retainOrAll_eq_some]
  refine and_congr_right fun _ => ?_
  simp only [Benched, happly, hs, true_and, some.injEq, exists_eq_left', not_and,
    not_exists, Bool.not_eq_eq_eq_not, Bool.not_true, Bool.not_false, Bool.not_eq_false]
  cases svc.isEndpointDrained env req.serviceID req.filterByRPCType
    (ep.getURL req.filterByRPCType) <;> simp

theorem service_of_reputationApplies (h : p.reputationApplies req = true) :
    ∃ svc, p.reputationService = some svc := by
  simp only [reputationApplies, Bool.and_eq_true] at h
  exact isSome_iff_exists.mp h.1.2

section Contribution

variable {actual : RPCType} {endpoints : EndpointMap}

theorem contribution_of_not_reputationApplies (h : p.reputationApplies req = false) :
    p.contribution env req actual endpoints = p.sessionPool env req actual endpoints := by
  rw [contribution_eq, h]
  rfl

theorem lookup_contribution (hs : p.reputationService = some svc)
    (happly : p.reputationApplies req = true) :
    (p.contribution env req actual endpoints).lookup addr = some ep ↔
      p.Kept env req (p.sessionPool env req actual endpoints) addr ep ∧
      (p.Admits env req.serviceID svc req.filterByRPCType req.requestedEndpointAddr addr ∨
      (∀ a e, p.Kept env req (p.sessionPool env req actual endpoints) a e →
        ¬p.Admits env req.serviceID svc req.filterByRPCType req.requestedEndpointAddr a) ∧
      ∀ a e, p.Kept env req (p.sessionPool env req actual endpoints) a e →
        svc.scoreAt env req.serviceID req.filterByRPCType a - scoreTolerance ≤
          svc.scoreAt env req.serviceID req.filterByRPCType addr) := by
  rw [contribution_eq, if_pos happly, lookup_filterByReputation hs]
  simp only [lookup_benchDrained hs happly, Rounding.round_exact]

theorem kept_of_contribution (h : (p.contribution env req actual endpoints).lookup addr = some ep) :
    p.Kept env req (p.sessionPool env req actual endpoints) addr ep := by
  cases happly : p.reputationApplies req with
  | false =>
    rw [contribution_of_not_reputationApplies happly] at h
    exact ⟨h, fun hb => Bool.false_ne_true (happly.symm.trans hb.1)⟩
  | true =>
    obtain ⟨svc, hs⟩ := service_of_reputationApplies happly
    exact ((lookup_contribution hs happly).mp h).1

end Contribution

theorem admits_of_buildKey_eq {t : RPCType} {a a' requested : EndpointAddr}
    (hkey : svc.buildKey env.net req.serviceID a t = svc.buildKey env.net req.serviceID a' t)
    (hne : a' ≠ requested) (h : p.Admits env req.serviceID svc t requested a') :
    p.Admits env req.serviceID svc t requested a := by
  have hkeys : ∀ t', svc.buildKey env.net req.serviceID a t' =
      svc.buildKey env.net req.serviceID a' t' := fun t' => by
    simp only [buildKey, KeyBuilder.buildKey, EndpointKey.mk.injEq, true_and, and_true] at hkey ⊢
    exact hkey
  rw [Admits, hkeys, hkeys]
  exact .inr (h.resolve_left hne)

theorem canGiveUp_of_contribution {actual actual' : RPCType} {endpoints endpoints' : EndpointMap}
    {ep' : Endpoint} (hadded : (p.contribution env req actual endpoints).lookup addr = some ep)
    (hkept : p.Kept env req (p.sessionPool env req actual' endpoints') addr ep')
    (hlost : (p.contribution env req actual' endpoints').lookup addr = none) :
    p.CanGiveUp env req (p.sessionPool env req actual endpoints)
      (p.sessionPool env req actual' endpoints') := by
  cases happly : p.reputationApplies req with
  | false =>
    rw [contribution_of_not_reputationApplies happly] at hlost
    exact absurd (hlost.symm.trans hkept.1) (by simp)
  | true =>
    obtain ⟨svc, hs⟩ := service_of_reputationApplies happly
    have hnot := fun h => eq_none_iff_forall_ne_some.mp hlost ep'
      ((lookup_contribution hs happly).mpr ⟨hkept, h⟩)
    have hna := fun h => hnot (.inl h)
    obtain ⟨hnone, hbest⟩ := ((lookup_contribution hs happly).mp hadded).2.resolve_left hna
    refine ⟨happly, fun a e ha hreq => hnone a e ha (.inl hreq), ?_⟩
    -- the later session has an endpoint that is admitted, or one with a better score
    by_cases hadm : ∃ a' e', p.Kept env req (p.sessionPool env req actual' endpoints') a' e' ∧
        p.Admits env req.serviceID svc req.filterByRPCType req.requestedEndpointAddr a'
    · obtain ⟨a', e', ha', hadm⟩ := hadm
      refine ⟨a', e', ha', or_iff_not_imp_left.mpr fun hne svc' hs' a e ha hkey => ?_⟩
      cases hs.symm.trans hs'
      exact hnone a e ha (admits_of_buildKey_eq hkey hne hadm)
    · have hbetter : ∃ a' e', p.Kept env req (p.sessionPool env req actual' endpoints') a' e' ∧
          svc.scoreAt env req.serviceID req.filterByRPCType addr <
            svc.scoreAt env req.serviceID req.filterByRPCType a' - scoreTolerance := by
        by_contra hb
        push Not at hb hadm
        exact hnot (.inr ⟨hadm, hb⟩)
      obtain ⟨a', e', ha', hlt⟩ := hbetter
      refine ⟨a', e', ha', .inr fun svc' hs' a e ha hkey => ?_⟩
      cases hs.symm.trans hs'
      exact absurd (hbest a e ha) (by rw [scoreAt, hkey]; exact not_le.mpr hlt)

theorem drainIsLastResort_of_drainsHold {sessions : List Session}
    (h : p.DrainsHold env req (p.resolved sessions)) :
    p.DrainIsLastResort env req sessions := by
  intro m t hok addr ep hl hdrained
  obtain ⟨-, rfl, -⟩ := getSessionsUniqueEndpoints_eq_ok.mp hok
  obtain ⟨pre, s, post, hss, hc⟩ := exists_comesFrom (lookup_of_finalPool hl)
  obtain ⟨mid, s', rest, e', hpost, hkept, hnot⟩ :=
    h pre s post hss addr ep (kept_of_contribution hc.added) hdrained
  exact absurd (canGiveUp_of_contribution hc.added hkept (hc.last mid s' rest hpost)) hnot

section Scores

variable {cache : GoMap EndpointKey Score}

theorem relayDrained_withScores :
    (p.withScores cache).relayDrained env req ep = p.relayDrained env req ep := by
  cases hs : p.reputationService with
  | none => simp [relayDrained, withScores, hs]
  | some =>
    simp only [relayDrained, withScores, hs, map_some, any_some]
    rfl

theorem reputationApplies_withScores :
    (p.withScores cache).reputationApplies req = p.reputationApplies req := by
  simp only [reputationApplies, withScores, isSome_map]
  rfl

theorem sessionPool_withScores {actual : RPCType} {endpoints : EndpointMap} :
    (p.withScores cache).sessionPool env req actual endpoints =
    p.sessionPool env req actual endpoints := rfl

theorem typeAfter_withScores :
    (p.withScores cache).typeAfter env req ss = p.typeAfter env req ss := rfl

theorem exists_service_withScores {P : ReputationService → Prop}
    (hP : ∀ svc, P { svc with cache := cache } ↔ P svc) :
    (∃ svc, (p.withScores cache).reputationService = some svc ∧ P svc) ↔
    ∃ svc, p.reputationService = some svc ∧ P svc := by
  constructor
  · rintro ⟨svc, hs, h⟩
    obtain ⟨svc', hs', rfl⟩ := map_eq_some_iff.mp hs
    exact ⟨svc', hs', (hP svc').mp h⟩
  · rintro ⟨svc, hs, h⟩
    exact ⟨_, map_eq_some_iff.mpr ⟨svc, hs, rfl⟩, (hP svc).mpr h⟩

theorem kept_withScores :
    (p.withScores cache).Kept env req pool addr ep ↔ p.Kept env req pool addr ep := by
  rw [Kept, Kept, Benched, Benched, reputationApplies_withScores,
    exists_service_withScores fun _ => Iff.rfl]

theorem allDrained_withScores :
    (p.withScores cache).AllDrained env req ss ↔ p.AllDrained env req ss := by
  simp only [AllDrained, relayDrained_withScores, sessionPool_withScores, typeAfter_withScores]

theorem canGiveUp_withScores {pool' : EndpointMap} :
    (p.withScores cache).CanGiveUp env req pool pool' ↔ p.CanGiveUp env req pool pool' := by
  simp only [CanGiveUp, reputationApplies_withScores, kept_withScores]
  refine and_congr_right fun _ => and_congr_right fun _ => exists_congr fun a' =>
    exists_congr fun e' => and_congr_right fun _ => or_congr_right ⟨fun h svc hs => ?_,
      fun h svc hs => ?_⟩
  · exact h { svc with cache := cache } (map_eq_some_iff.mpr ⟨svc, hs, rfl⟩)
  · obtain ⟨svc', hs', rfl⟩ := map_eq_some_iff.mp hs
    exact h svc' hs'

theorem drainsHold_withScores :
    (p.withScores cache).DrainsHold env req ss ↔ p.DrainsHold env req ss := by
  simp only [DrainsHold, relayDrained_withScores, kept_withScores, canGiveUp_withScores,
    sessionPool_withScores, typeAfter_withScores]

end Scores

theorem lookup_finalPool_of_level {endpoints : EndpointMap}
    (hscore : ∀ svc, p.reputationService = some svc → ∀ a e, endpoints.lookup a = some e →
      svc.scoreAt env req.serviceID req.filterByRPCType a =
        p.getMinThresholdForService req.serviceID)
    (hl : endpoints.lookup addr = some ep) :
    (p.finalPool env req endpoints).lookup addr = some ep := by
  unfold finalPool
  split
  · cases hsel : p.getTieredSelectorForService req.serviceID with
    | none => rwa [filterToHighestTier_eq_self hsel]
    | some sel =>
      cases hs : p.reputationService with
      | none => simp [getTieredSelectorForService_eq_none hs] at hsel
      | some svc =>
        have htier : ∀ a e, endpoints.lookup a = some e →
            svc.tierOf sel env req.serviceID req.filterByRPCType a =
              sel.tierForScore sel.minThreshold := fun a e ha => by
          rw [tierOf, hscore svc hs a e ha, getMinThresholdForService_eq hsel]
        refine (lookup_filterToHighestTier hsel hs).mpr ⟨hl, .inl ⟨?_, fun a e ha _ => ?_⟩⟩
        · rw [htier addr ep hl]
          exact TieredSelector.tierForScore_ne_zero_of_min_le le_rfl
        · rw [htier addr ep hl, htier a e ha]
  · exact hl

def scoredKeys (p : Protocol) (env : Env) (req : LookupRequest) (pool : EndpointMap) :
    List EndpointKey :=
  p.reputationService.elim [] (fun svc =>
    pool.keys.map (fun a => svc.buildKey env.net req.serviceID a req.filterByRPCType))

def levelScores (p : Protocol) (env : Env) (req : LookupRequest) (cooling : List EndpointKey)
    (ss : List SessionEndpoints) : GoMap EndpointKey Score :=
  build
    (fun k => some ⟨p.getMinThresholdForService req.serviceID,
      if k ∈ cooling then some (env.now + 1) else none⟩)
    (ss.flatMap (fun s => p.scoredKeys env req s.endpoints))

/-- The protocol with every score at the minimum and the given keys in cooldown. -/
abbrev levelled (p : Protocol) (env : Env) (req : LookupRequest) (cooling : List EndpointKey)
    (ss : List SessionEndpoints) : Protocol :=
  p.withScores (p.levelScores env req cooling ss)

section Level

variable {cooling : List EndpointKey} {s : SessionEndpoints}

theorem buildKey_mem_scoredKeys {cache : GoMap EndpointKey Score}
    (hs : (p.withScores cache).reputationService = some svc) (hl : pool.lookup addr = some ep) :
    svc.buildKey env.net req.serviceID addr req.filterByRPCType ∈ p.scoredKeys env req pool := by
  obtain ⟨svc', hs', rfl⟩ := map_eq_some_iff.mp hs
  rw [scoredKeys, hs']
  exact mem_map_of_mem (mem_keys_of_lookup hl)

section

variable (hs : (p.levelled env req cooling ss).reputationService = some svc)

include hs

theorem storedScore_levelScores (key : EndpointKey) :
    svc.storedScore key = if key ∈ ss.flatMap (fun s => p.scoredKeys env req s.endpoints) then
        some ⟨p.getMinThresholdForService req.serviceID,
          if key ∈ cooling then some (env.now + 1) else none⟩
      else none := by
  obtain ⟨svc', hs', rfl⟩ := map_eq_some_iff.mp hs
  have hen : svc'.enabled = true := p.reputation_enabled svc' hs'
  simp only [storedScore, hen, if_true, levelScores, lookup_build]

theorem scoreOf_levelScores (hmem : s ∈ ss) (hl : s.endpoints.lookup addr = some ep) :
    svc.scoreAt env req.serviceID req.filterByRPCType addr =
      p.getMinThresholdForService req.serviceID := by
  rw [scoreAt, scoreOf, storedScore_levelScores hs,
    if_pos (mem_flatMap.mpr ⟨s, hmem, buildKey_mem_scoredKeys hs hl⟩)]
  rfl

theorem disqualified_levelScores (key : EndpointKey) :
    (svc.storedScore key).any
        (Score.disqualifies env.now (p.getMinThresholdForService req.serviceID)) = true ↔
      key ∈ ss.flatMap (fun s => p.scoredKeys env req s.endpoints) ∧ key ∈ cooling := by
  rw [storedScore_levelScores hs]
  by_cases hk : key ∈ ss.flatMap (fun s => p.scoredKeys env req s.endpoints) <;>
    by_cases hc : key ∈ cooling <;> simp [hk, hc, Score.disqualifies, Score.isInCooldown]

theorem admits_levelScores (htype : ∀ k ∈ cooling, k.rpcType = req.filterByRPCType)
    (h : svc.buildKey env.net req.serviceID addr req.filterByRPCType ∉ cooling) :
    (p.levelled env req cooling ss).Admits env req.serviceID svc req.filterByRPCType
      req.requestedEndpointAddr addr := by
  refine .inr ⟨fun hws _ => ?_, ?_⟩ <;> refine eq_false_of_ne_true fun hd => ?_
  · -- the json_rpc key of the floor is not one of the cooling keys
    have hk := htype _ ((disqualified_levelScores hs _).mp hd).2
    rw [hws] at hk
    cases hk
  · exact h ((disqualified_levelScores hs _).mp hd).2

theorem not_admits_levelScores (hmem : s ∈ ss) (hl : s.endpoints.lookup addr = some ep)
    (hne : addr ≠ req.requestedEndpointAddr)
    (h : svc.buildKey env.net req.serviceID addr req.filterByRPCType ∈ cooling) :
    ¬(p.levelled env req cooling ss).Admits env req.serviceID svc req.filterByRPCType
      req.requestedEndpointAddr addr := by
  rintro (ha | ⟨-, ha⟩)
  · exact hne ha
  · have hd := (disqualified_levelScores hs _).mpr
      ⟨mem_flatMap.mpr ⟨s, hmem, buildKey_mem_scoredKeys hs hl⟩, h⟩
    exact Bool.false_ne_true (ha.symm.trans hd)

end

variable {pre post : List SessionEndpoints}

theorem returned_of_levelScores {sessions : List Session}
    (hss : p.resolved sessions = pre ++ s :: post)
    (hfrom : (p.levelled env req cooling (pre ++ s :: post)).ComesFrom env req pre s post addr ep) :
    ∃ m t, (p.levelled env req cooling (pre ++ s :: post)).getSessionsUniqueEndpoints env req
        sessions = .ok (m, t) ∧ m.lookup addr = some ep := by
  have hresolve : (p.levelled env req cooling (pre ++ s :: post)).resolved sessions =
      pre ++ s :: post := hss
  have hcollect := lookup_collect_of_comesFrom hfrom
  refine ⟨_, _, getSessionsUniqueEndpoints_eq_ok.mpr
    ⟨by rw [hresolve]; exact isEmpty_eq_false.mpr ⟨addr, ep, hcollect⟩, rfl, rfl⟩, ?_⟩
  rw [hresolve]
  refine lookup_finalPool_of_level (fun svc hs a e ha => ?_) hcollect
  obtain ⟨pre', s', post', hss', hc⟩ := exists_comesFrom ha
  have hmem : s' ∈ pre ++ s :: post := by rw [hss']; simp
  exact scoreOf_levelScores (p := p) hs hmem (lookup_served.mp hc.vetted.1).1

theorem comesFrom_of_level (hkept : p.Kept env req (p.poolAfter env req pre s) addr ep)
    (hlast : ∀ mid s' rest e', post = mid ++ s' :: rest →
      ¬p.Kept env req (p.poolAfter env req (pre ++ s :: mid) s') addr e') :
    (p.levelled env req [] ss).ComesFrom env req pre s post addr ep := by
  refine ⟨?_, fun mid s' rest hpost => eq_none_iff_forall_ne_some.mpr fun e he => ?_⟩
  · cases happly : p.reputationApplies req with
    | false =>
      rw [contribution_of_not_reputationApplies (by rwa [reputationApplies_withScores])]
      exact hkept.1
    | true =>
      rw [← reputationApplies_withScores] at happly
      obtain ⟨svc, hs⟩ := service_of_reputationApplies happly
      exact (lookup_contribution hs happly).mpr ⟨kept_withScores.mpr hkept,
        .inl (admits_levelScores hs (by simp) (by simp))⟩
  · exact hlast mid s' rest e hpost (kept_withScores.mp (kept_of_contribution he))

theorem lookup_of_kept {actual : RPCType} {endpoints : EndpointMap}
    (h : p.Kept env req (p.sessionPool env req actual endpoints) addr ep) :
    endpoints.lookup addr = some ep :=
  (lookup_served.mp (lookup_vetted.mp (vetted_of_sessionPool h.1)).1).1

theorem mem_scoredKeys_benchDrained (hs : p.reputationService = some svc)
    (happly : p.reputationApplies req = true) (key : EndpointKey) :
    key ∈ p.scoredKeys env req
        (svc.benchDrained env req.serviceID req.filterByRPCType pool) ↔
      ∃ a e, p.Kept env req pool a e ∧
        svc.buildKey env.net req.serviceID a req.filterByRPCType = key := by
  simp only [scoredKeys, hs, elim_some, List.mem_map, ← lookup_benchDrained hs happly]
  refine exists_congr fun a => ⟨fun ⟨ha, hk⟩ => ?_, fun ⟨e, ha, hk⟩ => ⟨mem_keys_of_lookup ha, hk⟩⟩
  obtain ⟨e, he⟩ := isSome_iff_exists.mp (AList.lookup_isSome.mpr ha)
  exact ⟨e, he, hk⟩

theorem comesFrom_of_cooling (hs : p.reputationService = some svc)
    (happly : p.reputationApplies req = true)
    (hpool : p.poolAfter env req pre s = pool)
    (hcool : ∀ k, k ∈ cooling ↔ ∃ a e, p.Kept env req pool a e ∧
      svc.buildKey env.net req.serviceID a req.filterByRPCType = k)
    (hkept : p.Kept env req pool addr ep)
    (hreq : ∀ a e, p.Kept env req pool a e → a ≠ req.requestedEndpointAddr)
    (hgive : ∀ mid s' rest e', post = mid ++ s' :: rest →
      p.Kept env req (p.poolAfter env req (pre ++ s :: mid) s') addr e' →
        p.CanGiveUp env req pool (p.poolAfter env req (pre ++ s :: mid) s')) :
    (p.levelled env req cooling (pre ++ s :: post)).ComesFrom env req pre s post addr ep := by
  subst hpool
  have happly' : (p.levelled env req cooling (pre ++ s :: post)).reputationApplies req = true := by
    rwa [reputationApplies_withScores]
  have hs' : (p.levelled env req cooling (pre ++ s :: post)).reputationService =
      some { svc with cache := p.levelScores env req cooling (pre ++ s :: post) } :=
    map_eq_some_iff.mpr ⟨svc, hs, rfl⟩
  have hnone : ∀ a e, p.Kept env req (p.poolAfter env req pre s) a e → ¬(p.levelled env req cooling
      (pre ++ s :: post)).Admits env req.serviceID _ req.filterByRPCType
        req.requestedEndpointAddr a := fun a e ha =>
    not_admits_levelScores hs' mem_append_cons_self (lookup_of_kept ha) (hreq a e ha)
      ((hcool _).mpr ⟨a, e, ha, rfl⟩)
  refine ⟨?_, fun mid s' rest hpost => eq_none_iff_forall_ne_some.mpr fun e he => ?_⟩
  · rw [lookup_contribution hs' happly', typeAfter_withScores, sessionPool_withScores]
    simp only [kept_withScores]
    refine ⟨hkept, .inr ⟨hnone, fun a e ha => ?_⟩⟩
    rw [scoreOf_levelScores hs' mem_append_cons_self (lookup_of_kept ha),
      scoreOf_levelScores hs' mem_append_cons_self (lookup_of_kept hkept)]
    exact sub_le_self _ (by norm_num [scoreTolerance])
  · rw [lookup_contribution hs' happly', typeAfter_withScores, sessionPool_withScores] at he
    simp only [kept_withScores] at he
    obtain ⟨hkept', hadm⟩ := he
    obtain ⟨-, -, a', e', ha', hbetter⟩ := hgive mid s' rest e hpost hkept'
    refine (hadm.resolve_left (hnone addr ep hkept)).1 a' e' ha' ?_
    rcases hbetter with hreq' | hkey
    · exact .inl hreq'
    · refine admits_levelScores hs' (fun k hk => ?_) fun hk => ?_
      · obtain ⟨a, e, -, rfl⟩ := (hcool k).mp hk
        rfl
      · obtain ⟨a, e, ha, hk⟩ := (hcool _).mp hk
        exact hkey svc hs a e ha hk

theorem exists_comesFrom_levelScores
    (hkept : p.Kept env req (p.poolAfter env req pre s) addr ep)
    (hgive : ∀ mid s' rest e', post = mid ++ s' :: rest →
      p.Kept env req (p.poolAfter env req (pre ++ s :: mid) s') addr e' →
        p.CanGiveUp env req (p.poolAfter env req pre s)
          (p.poolAfter env req (pre ++ s :: mid) s')) :
    ∃ cooling, (p.levelled env req cooling (pre ++ s :: post)).ComesFrom env req pre s post
      addr ep := by
  by_cases hlater : ∃ mid s' rest e', post = mid ++ s' :: rest ∧
      p.Kept env req (p.poolAfter env req (pre ++ s :: mid) s') addr e'
  · obtain ⟨mid, s', rest, e', hpost, hkept'⟩ := hlater
    obtain ⟨happly, hreq, -⟩ := hgive mid s' rest e' hpost hkept'
    obtain ⟨svc, hs⟩ := service_of_reputationApplies happly
    exact ⟨_, comesFrom_of_cooling hs happly rfl (mem_scoredKeys_benchDrained hs happly) hkept
      hreq hgive⟩
  · exact ⟨[], comesFrom_of_level hkept fun mid s' rest e' hpost hkept' =>
      hlater ⟨mid, s', rest, e', hpost, hkept'⟩⟩

end Level

/-- Whatever the scores, a drained endpoint is a last resort exactly when all endpoints are
drained or the drains hold in every session. -/
theorem drainIsLastResort_iff (p : Protocol) (env : Env) (req : LookupRequest)
    (sessions : List Session) :
    (∀ cache, (p.withScores cache).DrainIsLastResort env req sessions) ↔
      p.AllDrained env req (p.resolved sessions) ∨
        p.DrainsHold env req (p.resolved sessions) := by
  constructor
  · intro h
    by_contra hno
    rw [not_or] at hno
    obtain ⟨hall, hhold⟩ := hno
    simp only [DrainsHold, not_forall, not_exists, not_and, not_not] at hhold
    obtain ⟨pre, s, post, hss, a, e, hkept, hdrained, hgive⟩ := hhold
    obtain ⟨cooling, hfrom⟩ := exists_comesFrom_levelScores hkept hgive
    obtain ⟨m, t, hok, hl⟩ := returned_of_levelScores hss hfrom
    exact hall (allDrained_withScores.mp
      (h _ m t hok a e hl (relayDrained_withScores.trans hdrained)))
  · rintro (hall | hhold) cache
    · intro m t _ addr ep _ _
      exact allDrained_withScores.mpr hall
    · exact drainIsLastResort_of_drainsHold (drainsHold_withScores.mpr hhold)

end Protocol

def drainedProtocol : Protocol :=
  sampleProtocol ∅ ((∅ : GoMap DrainKey Time).insert ⟨"eth", "drained.com", ""⟩ 200)

def drainedSessions : List Session :=
  [soleSession "pokt1a" .jsonRPC "https://rm.drained.com",
    soleSession "pokt1b" .jsonRPC "https://rm.example.com"]

theorem drained_returned_beside_other :
    ¬∀ (p : Protocol) (env : Env) (req : LookupRequest) (sessions : List Session),
      p.DrainIsLastResort env req sessions := by
  intro h
  have hall := h drainedProtocol sampleEnv jsonRPCRequest drainedSessions _ _
    (Protocol.getSessionsUniqueEndpoints_eq_ok.mpr ⟨by decide +kernel, rfl, rfl⟩)
    "pokt1a-https://rm.drained.com" _ (eq_some_of_isSome (by decide +kernel))
    (by decide +kernel) [_] _ [] rfl "pokt1b-https://rm.example.com" _
    (eq_some_of_isSome (by decide +kernel))
  exact absurd hall (by decide +kernel)

end PathGateway
