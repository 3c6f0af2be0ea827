import PathGateway.SessionPool

/-! The lookup over all active sessions. The RPC type in use is one variable of the
loop, so a session is filtered under a type that the sessions before it may have set. -/

namespace PathGateway

open List Option GoMap

inductive LookupError where
  | contextSetupNoEndpoints (serviceID : ServiceID)
  deriving DecidableEq, Repr

namespace Protocol

variable (p : Protocol) (env : Env) (req : LookupRequest)

def sessionStep (st : EndpointMap × RPCType) (s : SessionEndpoints) : EndpointMap × RPCType :=
  match p.processSession env req st.2 s.endpoints with
  | (none, actual) => (st.1, actual)
  | (some pool, actual) => (st.1.copyInto pool, actual)

def collect (ss : List SessionEndpoints) : EndpointMap × RPCType :=
  ss.foldl (p.sessionStep env req) (∅, req.filterByRPCType)

def finalPool (endpoints : EndpointMap) : EndpointMap :=
  if p.shouldApplyTieredSelection req.filterByReputation
      (p.effectiveAllowedSuppliers req.allowedSuppliers) req.filterByRPCType then
    p.filterToHighestTier env req.serviceID endpoints req.filterByRPCType
      req.requestedEndpointAddr
  else endpoints

def getSessionsUniqueEndpoints (activeSessions : List Session) :
    Except LookupError (EndpointMap × RPCType) :=
  let (endpoints, actual) :=
    p.collect env req (resolveSessions p.sessionEndpointsCache activeSessions)
  if !endpoints.isEmpty then .ok (p.finalPool env req endpoints, actual)
  else .error (.contextSetupNoEndpoints req.serviceID)

/-- The sessions' endpoints, as the lookup reads them. -/
abbrev resolved (sessions : List Session) : List SessionEndpoints :=
  resolveSessions p.sessionEndpointsCache sessions

abbrev anyFallsBack (ss : List SessionEndpoints) : Bool :=
  ss.any fun s => p.fallsBack env req s.endpoints

def typeAfter (ss : List SessionEndpoints) : RPCType :=
  if p.anyFallsBack env req ss then p.fallbackType env req
  else req.filterByRPCType

theorem typeAfterSession_typeAfter (ss : List SessionEndpoints) (s : SessionEndpoints) :
    p.typeAfterSession env req (p.typeAfter env req ss) s.endpoints =
      p.typeAfter env req (ss ++ [s]) := by
  cases hs : p.fallsBack env req s.endpoints <;> simp [typeAfterSession, typeAfter, hs]

theorem sessionStep_eq (st : EndpointMap × RPCType) (s : SessionEndpoints) :
    (∀ addr, (p.sessionStep env req st s).1.lookup addr =
    ((p.contribution env req st.2 s.endpoints).lookup addr).or (st.1.lookup addr)) ∧
    (p.sessionStep env req st s).2 = p.typeAfterSession env req st.2 s.endpoints := by
  rw [← processSession_snd, contribution, sessionStep]
  cases h : p.processSession env req st.2 s.endpoints with
  | mk pool => cases pool <;> simp

theorem collect_snd (ss : List SessionEndpoints) :
    (p.collect env req ss).2 = p.typeAfter env req ss := by
  induction ss using reverseRecOn with
  | nil => simp [collect, typeAfter]
  | append_singleton ss s ih =>
    rw [collect, foldl_append, ← typeAfterSession_typeAfter, ← ih]
    exact (p.sessionStep_eq env req _ s).2

theorem collect_append_singleton (ss : List SessionEndpoints)
    (s : SessionEndpoints) (addr : EndpointAddr) :
    (p.collect env req (ss ++ [s])).1.lookup addr =
      ((p.contribution env req (p.typeAfter env req ss) s.endpoints).lookup addr).or
      ((p.collect env req ss).1.lookup addr) :=
    by
  rw [← collect_snd, collect, foldl_append]
  exact (p.sessionStep_eq env req _ s).1 addr

variable {p env req} {ss : List SessionEndpoints} {addr : EndpointAddr} {ep : Endpoint}

/-- Session `s`, looked at after `pre`, adds the entry, and no session of `post` replaces it. -/
structure ComesFrom (p : Protocol) (env : Env) (req : LookupRequest)
    (pre : List SessionEndpoints) (s : SessionEndpoints) (post : List SessionEndpoints)
    (addr : EndpointAddr) (ep : Endpoint) : Prop where
  added : (p.contribution env req (p.typeAfter env req pre) s.endpoints).lookup addr = some ep
  last : ∀ mid s' rest, post = mid ++ s' :: rest →
    (p.contribution env req (p.typeAfter env req (pre ++ s :: mid)) s'.endpoints).lookup addr = none

theorem lookup_collect_of_comesFrom {pre post : List SessionEndpoints} {s : SessionEndpoints}
    (h : p.ComesFrom env req pre s post addr ep) :
    (p.collect env req (pre ++ s :: post)).1.lookup addr = some ep := by
  obtain ⟨hadded, hlast⟩ := h
  induction post using reverseRecOn with
  | nil => rw [collect_append_singleton, hadded, some_or]
  | append_singleton post s' ih =>
    rw [← cons_append, ← append_assoc, collect_append_singleton,
      hlast post s' [] rfl, none_or]
    exact ih fun mid s'' rest h => hlast mid s'' (rest ++ [s']) (by simp [h])

theorem exists_comesFrom (h : (p.collect env req ss).1.lookup addr = some ep) :
    ∃ pre s post, ss = pre ++ s :: post ∧ p.ComesFrom env req pre s post addr ep := by
  induction ss using reverseRecOn with
  | nil => simp [collect] at h
  | append_singleton ss s ih =>
    rw [collect_append_singleton, or_eq_some_iff] at h
    rcases h with h | ⟨hnone, h⟩
    · exact ⟨ss, s, [], rfl, h, by simp⟩
    · obtain ⟨pre, s', post, hss, hadded, hlast⟩ := ih h
      refine ⟨pre, s', post ++ [s], by simp [hss], hadded, fun mid s'' rest hpost => ?_⟩
      rcases eq_nil_or_concat rest with rfl | ⟨rest, x, rfl⟩
      · obtain ⟨rfl, rfl⟩ := append_singleton_inj.mp hpost
        rwa [← hss]
      · have hpost : post ++ [s] = (mid ++ s'' :: rest) ++ [x] := by simp [hpost]
        exact hlast mid s'' rest (append_singleton_inj.mp hpost).1

theorem exists_lookup_collect (P : EndpointAddr → Prop) :
    (∃ a e, (p.collect env req ss).1.lookup a = some e ∧ P a) ↔
      ∃ pre s post, ss = pre ++ s :: post ∧ ∃ a e,
      (p.contribution env req (p.typeAfter env req pre) s.endpoints).lookup a = some e ∧ P a := by
  constructor
  · rintro ⟨a, e, h, ha⟩
    obtain ⟨pre, s, post, hss, h⟩ := exists_comesFrom h
    exact ⟨pre, s, post, hss, a, e, h.added, ha⟩
  · rintro ⟨pre, s, post, rfl, a, e, h, ha⟩
    have hmem : ∀ post, ∃ e, (p.collect env req (pre ++ s :: post)).1.lookup a = some e := by
      intro post
      induction post using reverseRecOn with
      | nil => exact ⟨e, by rw [collect_append_singleton, h, some_or]⟩
      | append_singleton post s' ih =>
        obtain ⟨e', he'⟩ := ih
        rw [← cons_append, ← append_assoc, collect_append_singleton, he']
        cases (p.contribution env req (p.typeAfter env req (pre ++ s :: post))
          s'.endpoints).lookup a with
        | none => exact ⟨e', rfl⟩
        | some e'' => exact ⟨e'', rfl⟩
    obtain ⟨e', he'⟩ := hmem post
    exact ⟨a, e', he', ha⟩

def HasSurvivor (p : Protocol) (env : Env) (req : LookupRequest) (ss : List SessionEndpoints) :
    Prop :=
  ∃ pre s post, ss = pre ++ s :: post ∧
    isEmpty (p.survivors env req (p.typeAfter env req pre) s.endpoints) = false

/-- Some session has an endpoint for the final pool: one that reaches a tier and that the
session's reputation filter keeps, because it is admissible or nothing there is. With a
load-testing supplier in place of the reputation filters, one of that supplier. -/
def HasSelectable (p : Protocol) (env : Env) (req : LookupRequest) (ss : List SessionEndpoints) :
    Prop :=
  ∃ pre s post, ss = pre ++ s :: post ∧
    if p.effectiveAllowedSuppliers req.allowedSuppliers = [] then
      ∃ svc sel, p.reputationService = some svc ∧
        p.getTieredSelectorForService req.serviceID = some sel ∧
        ∃ a e, (svc.benchDrained env req.serviceID req.filterByRPCType
            (p.sessionPool env req (p.typeAfter env req pre) s.endpoints)).lookup a = some e ∧
          svc.tierOf sel env req.serviceID req.filterByRPCType a ≠ 0 ∧
          (p.Admits env req.serviceID svc req.filterByRPCType req.requestedEndpointAddr a ∨
            ∀ a' e', (svc.benchDrained env req.serviceID req.filterByRPCType
                (p.sessionPool env req (p.typeAfter env req pre) s.endpoints)).lookup a' =
                  some e' →
              ¬p.Admits env req.serviceID svc req.filterByRPCType req.requestedEndpointAddr a')
    else
      ∃ a e, (p.survivors env req (p.typeAfter env req pre) s.endpoints).lookup a = some e ∧
        (supplierOfAddr a ∈ p.effectiveAllowedSuppliers req.allowedSuppliers ∨
          a = req.requestedEndpointAddr)

theorem lookup_of_finalPool {endpoints : EndpointMap}
    (h : (p.finalPool env req endpoints).lookup addr = some ep) :
    endpoints.lookup addr = some ep := by
  unfold finalPool at h
  split at h
  · exact lookup_of_filterToHighestTier h
  · exact h

variable {sessions : List Session} {g : TieredSelector}

theorem getSessionsUniqueEndpoints_eq_ok {m : EndpointMap} {t : RPCType} :
    p.getSessionsUniqueEndpoints env req sessions = .ok (m, t) ↔
    isEmpty (p.collect env req (p.resolved sessions)).1 = false ∧ m =
    p.finalPool env req (p.collect env req (p.resolved sessions)).1 ∧
    t = p.typeAfter env req (p.resolved sessions) := by
  rw [← collect_snd, getSessionsUniqueEndpoints]
  cases p.collect env req (p.resolved sessions) with
  | mk endpoints =>
    cases he : isEmpty endpoints <;> simp [he, eq_comm]

theorem ok_nonempty_iff :
    (∃ m t, p.getSessionsUniqueEndpoints env req sessions = .ok (m, t) ∧ isEmpty m = false) ↔
      isEmpty (p.finalPool env req
      (p.collect env req (p.resolved sessions)).1) = false := by
  simp only [getSessionsUniqueEndpoints_eq_ok]
  constructor
  · rintro ⟨m, t, ⟨-, rfl, -⟩, hm⟩
    exact hm
  · intro hm
    refine ⟨_, _, ⟨?_, rfl, rfl⟩, hm⟩
    obtain ⟨a, e, hl⟩ := isEmpty_eq_false.mp hm
    exact isEmpty_eq_false.mpr ⟨a, e, lookup_of_finalPool hl⟩

theorem isEmpty_collect_eq_false :
    isEmpty (p.collect env req ss).1 = false ↔ ∃ pre s post, ss = pre ++ s :: post ∧
      isEmpty (p.contribution env req (p.typeAfter env req pre) s.endpoints) = false := by
  simpa only [isEmpty_eq_false, and_true] using exists_lookup_collect (fun _ => True)

theorem isEmpty_finalPool_eq_false (hrep : req.filterByReputation = true)
    (hg : p.tieredSelector = some g)
    (hen : g.config.enabled = true) (hws : req.filterByRPCType ≠ .websocket) :
    isEmpty (p.finalPool env req (p.collect env req ss).1) = false ↔
    p.HasSelectable env req ss := by
  by_cases ha : p.effectiveAllowedSuppliers req.allowedSuppliers = []
  · obtain ⟨svc, hs⟩ : ∃ svc, p.reputationService = some svc := by
      cases hs : p.reputationService with
      | none => simp [(p.selectors_scored hs).1] at hg
      | some svc => exact ⟨svc, rfl⟩
    obtain ⟨sel, hsel⟩ : ∃ sel, p.getTieredSelectorForService req.serviceID = some sel := by
      cases hl : p.serviceTieredSelectors.lookup req.serviceID <;>
        simp [getTieredSelectorForService, hg, hl]
    have happly : p.reputationApplies req = true := by simp [reputationApplies, hrep, hs, ha]
    simp only [finalPool, shouldApplyTieredSelection, hrep, ha, hg, hen, hws, ne_eq,
      not_false_eq_true, decide_true, isEmpty_nil, any_some, Bool.and_self, if_true]
    rw [isEmpty_filterToHighestTier_eq_false hsel hs, exists_lookup_collect]
    simp only [HasSelectable, ha, if_true, contribution_eq, happly,
      exists_filterByReputation_tier hs, hs, hsel, some.injEq, exists_eq_left',
      exists_and_left]
  · have happly : p.shouldApplyTieredSelection req.filterByReputation
        (p.effectiveAllowedSuppliers req.allowedSuppliers) req.filterByRPCType = false := by
      simp [shouldApplyTieredSelection, ha]
    have hskip : p.reputationApplies req = false := by simp [reputationApplies, ha]
    simp only [finalPool, happly, Bool.false_eq_true, if_false, HasSelectable, ha,
      isEmpty_collect_eq_false, contribution_eq, hskip, isEmpty_sessionPool_eq_false, false_or]

/-- A lookup that has a survivor returns a non-empty map exactly when it also has a
selectable endpoint: the tier filter applies the threshold again to the endpoints that
the per-session filter kept as the last ones standing. -/
theorem survivor_returned_iff (hrep : req.filterByReputation = true)
    (hg : p.tieredSelector = some g) (hen : g.config.enabled = true)
    (hws : req.filterByRPCType ≠ .websocket) (sessions : List Session) :
    (p.HasSurvivor env req (p.resolved sessions) →
      ∃ m t, p.getSessionsUniqueEndpoints env req sessions = .ok (m, t) ∧ isEmpty m = false) ↔
    (p.HasSurvivor env req (p.resolved sessions) →
      p.HasSelectable env req (p.resolved sessions)) := by
  rw [ok_nonempty_iff, isEmpty_finalPool_eq_false hrep hg hen hws]

end Protocol

def soleSession (supplier : String) (t : RPCType) (url : String) : Session :=
  ⟨"session-" ++ supplier, 1, some [⟨⟨supplier, t, url⟩, []⟩]⟩

def jsonRPCRequest : LookupRequest := ⟨"eth", true, .jsonRPC, [], ""⟩

theorem hasSurvivor_of_head {p : Protocol} {env : Env} {req : LookupRequest}
    {s : SessionEndpoints} {ss : List SessionEndpoints}
    (h : isEmpty (p.survivors env req req.filterByRPCType s.endpoints) = false) :
    p.HasSurvivor env req (s :: ss) :=
  ⟨[], s, ss, rfl, h⟩

theorem survivor_lost_below_tiers :
    ¬∀ (p : Protocol) (env : Env) (req : LookupRequest) (g : TieredSelector)
      (sessions : List Session), req.filterByReputation = true →
      p.tieredSelector = some g → g.config.enabled = true → req.allowedSuppliers = [] →
      req.filterByRPCType ≠ .websocket →
      p.HasSurvivor env req (p.resolved sessions) →
      ∃ m t, p.getSessionsUniqueEndpoints env req sessions = .ok (m, t) ∧
        isEmpty m = false := by
  intro h
  have hok := h (sampleProtocol (lowScore rmAddr) ∅) sampleEnv
    jsonRPCRequest sampleSelector [soleSession "pokt1a" .jsonRPC "https://rm.example.com"]
    rfl rfl rfl rfl (by decide) (hasSurvivor_of_head (by decide +kernel))
  rw [Protocol.ok_nonempty_iff] at hok
  revert hok
  decide +kernel

theorem survivor_returned_iff_sole :
    ∃ m t, (sampleProtocol ∅ ∅).getSessionsUniqueEndpoints sampleEnv jsonRPCRequest
        [soleSession "pokt1a" .jsonRPC "https://rm.example.com"] = .ok (m, t) ∧
      isEmpty m = false :=
  (Protocol.survivor_returned_iff (g := sampleSelector) rfl rfl rfl (by decide)
      [soleSession "pokt1a" .jsonRPC "https://rm.example.com"]).mpr
    (fun _ => (Protocol.isEmpty_finalPool_eq_false (g := sampleSelector) rfl rfl rfl
      (by decide)).mp (by decide +kernel)) (hasSurvivor_of_head (by decide +kernel))

theorem soleLookup_found :
    ∃ m t ep, (sampleProtocol ∅ ∅).getSessionsUniqueEndpoints sampleEnv
      jsonRPCRequest [soleSession "pokt1a" .jsonRPC "https://a.example.com"] = .ok (m, t) ∧
    m.lookup addrA = some ep := by
  have hfound : (((sampleProtocol ∅ ∅).finalPool sampleEnv jsonRPCRequest
      ((sampleProtocol ∅ ∅).collect sampleEnv jsonRPCRequest (resolveSessions ∅
        [soleSession "pokt1a" .jsonRPC "https://a.example.com"])).1).lookup
      addrA).isSome = true := by decide +kernel
  obtain ⟨ep, hl⟩ := isSome_iff_exists.mp hfound
  exact ⟨_, _, ep, Protocol.getSessionsUniqueEndpoints_eq_ok.mpr ⟨by decide +kernel, rfl, rfl⟩, hl⟩

end PathGateway
