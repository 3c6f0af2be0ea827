import PathGateway.SolanaQoS

/-! What a reset of a Solana service leaves behind. It clears the perceived height but not the
perceived epoch, and the endpoints that were observed before it stay in the store: a run after
the reset is compared with one in which nothing was observed before it. -/

namespace PathGateway

open Machine Option List GoMap

namespace ShareAction

def readsCopy : ShareAction → Bool
  | .fetch ok => ok
  | _ => false

def clearsCopy : ShareAction → Bool
  | .deleteShared ok => ok
  | .redisExpire => true
  | _ => false

end ShareAction

theorem SharedHeight.act_copy {cfg : SyncConfig} {s s' : SharedHeight} {redis redis' redis₀ : ℕ}
    {now : Time} {a : ShareAction} (hreads : a.readsCopy = true → redis = redis₀)
    (hact : s.act cfg redis now a = some (s', redis')) :
    ∃ redis₀', s.act cfg redis₀ now a = some (s', redis₀') ∧
    (redis = redis₀ ∨ a.clearsCopy = true → redis' = redis₀') := by
  cases a with
  | external =>
    cases hact
    exact ⟨redis₀, rfl, fun h => h.resolve_right Bool.false_ne_true⟩
  | writeRedis i ok =>
    obtain ⟨h, hi, rfl, rfl⟩ := writeRedis_eq_some hact
    refine ⟨if ok then max redis₀ h else redis₀, map_eq_some_iff.mpr ⟨h, hi, rfl⟩, ?_⟩
    rintro (rfl | hclears)
    · rfl
    · cases hclears
  | fetch ok =>
    obtain ⟨s'', hs, heq⟩ := map_eq_some_iff.mp hact
    cases heq
    obtain ⟨hsvc, hnone, rfl⟩ := fetch_eq_some hs
    refine ⟨redis₀, ?_, fun h => h.resolve_right Bool.false_ne_true⟩
    rw [act, fetch, if_pos ⟨hsvc, hnone⟩]
    cases ok with
    | false => rfl
    | true =>
      rw [hreads rfl]
      rfl
  | sync =>
    obtain ⟨s'', hs, heq⟩ := map_eq_some_iff.mp hact
    cases heq
    exact ⟨redis₀, map_eq_some_iff.mpr ⟨_, hs, rfl⟩,
      fun h => h.resolve_right Bool.false_ne_true⟩
  | reset =>
    obtain ⟨hdel, heq⟩ := ite_none_left_eq_some.mp hact
    cases heq
    exact ⟨redis₀, if_neg hdel, fun h => h.resolve_right Bool.false_ne_true⟩
  | deleteShared ok =>
    obtain ⟨hdel, rfl, rfl⟩ := deletePerceivedBlockNumber_eq_some hact
    refine ⟨if ok then 0 else redis₀, if_pos hdel, ?_⟩
    rintro (rfl | hclears)
    · rfl
    · cases hclears
      rfl
  | redisExpire =>
    cases hact
    exact ⟨0, rfl, fun _ => rfl⟩

namespace Solana

namespace Action

def observes (addr : EndpointAddr) : Action → Bool
  | .updateFromExtractedData a _ => a = addr
  | .updateEndpointsFromObservations observations => observations.any (·.1 = addr)
  | _ => false

def readsCopy : Action → Bool
  | .share a => a.readsCopy
  | _ => false

def clearsCopy : Action → Bool
  | .share a => a.clearsCopy
  | _ => false

end Action

/-- As long as the copy may hold what was shared before the reset, no read of it succeeds. -/
def ReadsCleared : Bool → List Event → Prop
  | _, [] => True
  | stale, e :: es => (e.action.readsCopy = true → stale = false) ∧
      ReadsCleared (stale && !e.action.clearsCopy) es

namespace SolanaQoS

variable {cfg : Config} {s s' s₀ : SolanaQoS} {e : Event} {old : GoMap EndpointAddr Endpoint}
  {p : ℕ} {stale : Bool} {now : Time}

/-- A relay after the reset is to an endpoint that was not in the store at the reset. If its
epoch and height are known then, the epoch is not behind the one that the reset has kept. -/
def Untainted (old : GoMap EndpointAddr Endpoint) (p : ℕ) (s : SolanaQoS) (e : Event) : Prop :=
  match e.action with
  | .updateEndpointsFromObservations observations =>
    (∀ o ∈ observations, o.2 = .unset ∨ old.lookup o.1 = none) ∧
    ∀ addr ep info, (s.observed observations).2.lookup addr = some ep →
      ep.epochInfo = some info → p ≤ info.epoch ∧ p ≤ nextEpoch info.epoch
  | _ => True

def EpochKnown (p : ℕ) (ep : Endpoint) : Prop :=
  ∀ info, ep.epochInfo = some info → EpochPasses info.epoch p

def SameButEpoch (p : ℕ) (perceived perceived₀ : Perceived) : Prop :=
  perceived.blockHeight = perceived₀.blockHeight ∧
    (perceived.epoch = perceived₀.epoch ∨ perceived.epoch = p ∧ perceived₀.epoch = 0)

structure Sim (old : GoMap EndpointAddr Endpoint) (p : ℕ) (stale : Bool) (s s₀ : SolanaQoS) :
    Prop where
  endpoints : ∀ addr, old.lookup addr = none →
    AgreeAt (EpochKnown p) s.endpoints s₀.endpoints addr
  epoch : s.perceivedEpoch = s₀.perceivedEpoch ∨ s.perceivedEpoch = p ∧ s₀.perceivedEpoch = 0
  height : s.height = s₀.height
  redis : stale = false → s.redis = s₀.redis
  updated : s.updated = s₀.updated
  upToDate : ∀ updatedEndpoints ∈ s.updated, ∀ addr ep info,
    updatedEndpoints.lookup addr = some ep → ep.epochInfo = some info → p ≤ info.epoch

variable {ep : Endpoint} {observations : List (EndpointAddr × Observation)}
  {perceived perceived₀ : Perceived} {t : SolanaQoS} {post : List Event} {addr : EndpointAddr}
  {redis : ℕ} {pre : List Event} {r : Time}

theorem epochKnown_setHeight (h : EpochKnown p ep) (height : ℕ) :
    EpochKnown p (ep.setHeight height) := by
  intro info hinfo
  cases hinfo
  cases hep : ep.epochInfo with
  | none => exact .inl rfl
  | some info => exact h info hep

theorem epochKnown_updateFromExtractedData (h : EpochKnown p ep) (data : ExtractedData) :
    EpochKnown p (ep.updateFromExtractedData data) := by
  have hchecked : EpochKnown p (if data.syncCheckPerformed then
      { ep with health := some (if data.isSyncing then resultGetHealthSyncing
          else resultGetHealthOK) } else ep) := by
    split <;> exact h
  rw [Endpoint.updateFromExtractedData]
  cases data.block with
  | none => exact hchecked
  | some height => exact epochKnown_setHeight hchecked height

theorem agree_observed (hnew : ∀ o ∈ observations, o.2 = .unset ∨ old.lookup o.1 = none)
    (r r₀ : GoMap EndpointAddr Endpoint × GoMap EndpointAddr Endpoint)
    (hstore : ∀ addr, old.lookup addr = none → r.1.lookup addr = r₀.1.lookup addr)
    (hupdated : r.2 = r₀.2) :
    (∀ addr, old.lookup addr = none →
      (observations.foldl (observe Endpoint.applyObservation {}) r).1.lookup addr =
      (observations.foldl (observe Endpoint.applyObservation {}) r₀).1.lookup addr) ∧
    (observations.foldl (observe Endpoint.applyObservation {}) r).2 =
      (observations.foldl (observe Endpoint.applyObservation {}) r₀).2 := by
  induction observations generalizing r r₀ with
  | nil => exact ⟨hstore, hupdated⟩
  | cons o observations ih =>
    obtain ⟨ho, hos⟩ := forall_mem_cons.mp hnew
    rw [foldl_cons, foldl_cons]
    rcases ho with hunset | ho
    · obtain ⟨addr, obs⟩ := o
      subst hunset
      exact ih hos r r₀ hstore hupdated
    · have hsame := hstore o.1 ho
      refine ih hos _ _ (fun addr haddr => ?_) ?_
      · rw [observe, observe, hsame]
        cases Endpoint.applyObservation ((r₀.1.lookup o.1).getD {}) o.2 with
        | none => exact hstore addr haddr
        | some =>
          rw [lookup_insert_eq, lookup_insert_eq, hstore addr haddr]
      · rw [observe, observe, hsame, hupdated]
        cases Endpoint.applyObservation ((r₀.1.lookup o.1).getD {}) o.2 with
        | none => exact hupdated
        | some => rfl

theorem sameButEpoch_adoptFrom (hep : ∀ info, ep.epochInfo = some info → p ≤ info.epoch)
    (h : SameButEpoch p perceived perceived₀) :
    SameButEpoch p (adoptFrom now perceived ep) (adoptFrom now perceived₀ ep) := by
  rw [adoptFrom, adoptFrom]
  cases hbasic : ep.validateBasic now with
  | error => exact h
  | ok info =>
    have hinfo := hep info (Endpoint.validateBasic_eq_ok.mp hbasic).2.1
    have hcheck : info.epoch < perceived.epoch ↔ info.epoch < perceived₀.epoch := by
      rcases h.2 with heq | ⟨hp, hzero⟩
      · rw [heq]
      · rw [hp, hzero]
        omega
    simp only [hcheck, h.1]
    split
    · exact h
    · split
      · exact h
      · split
        · exact h
        · exact ⟨rfl, .inl rfl⟩

theorem sameButEpoch_foldl {eps : List Endpoint}
    (heps : ∀ ep ∈ eps, ∀ info, ep.epochInfo = some info → p ≤ info.epoch)
    (h : SameButEpoch p perceived perceived₀) :
    SameButEpoch p
      (eps.foldl (adoptFrom now) perceived) (eps.foldl (adoptFrom now) perceived₀) := by
  induction eps generalizing perceived perceived₀ with
  | nil => exact h
  | cons ep eps ih =>
    obtain ⟨hep, heps⟩ := forall_mem_cons.mp heps
    exact ih heps (sameButEpoch_adoptFrom hep h)

theorem sim_updateEndpointsFromObservations
    (huntainted : Untainted old p s ⟨now, .updateEndpointsFromObservations observations⟩)
    (hsim : Sim old p stale s s₀) :
    Sim old p stale (s.updateEndpointsFromObservations observations)
      (s₀.updateEndpointsFromObservations observations) := by
  obtain ⟨hnew, hepochs⟩ := huntainted
  obtain ⟨hstore, hupdated⟩ : _ ∧ (s.observed observations).2 = (s₀.observed observations).2 :=
    agree_observed hnew (s.endpoints, ∅) (s₀.endpoints, ∅)
      (fun addr haddr => (hsim.endpoints addr haddr).1) rfl
  refine ⟨fun addr haddr => ⟨hstore addr haddr, fun ep hep info hinfo => ?_⟩, hsim.epoch,
    hsim.height, hsim.redis, ?_, ?_⟩
  · change (s.observed observations).1.lookup addr = some ep at hep
    rw [observed, lookup_observe, or_eq_some_iff] at hep
    rcases hep with hnew | ⟨-, hold⟩
    · exact .inr (.inr (hepochs addr ep info hnew hinfo).2)
    · exact (hsim.endpoints addr haddr).2 ep hold info hinfo
  · simp only [updateEndpointsFromObservations, hsim.updated, hupdated]
  · intro updatedEndpoints hmem addr ep info hep hinfo
    rcases mem_append.mp hmem with hmem | hmem
    · exact hsim.upToDate updatedEndpoints hmem addr ep info hep hinfo
    · rw [mem_singleton.mp hmem] at hep
      exact (hepochs addr ep info hep hinfo).1

theorem sim_updateFromEndpoints {i : ℕ} {order : List EndpointAddr} (hsim : Sim old p stale s s₀)
    (hact : s.updateFromEndpoints now i order = some s') :
    ∃ s₀', s₀.updateFromEndpoints now i order = some s₀' ∧ Sim old p stale s' s₀' := by
  obtain ⟨updatedEndpoints, hi, horder, rfl⟩ := updateFromEndpoints_eq_some hact
  have hadopted : SameButEpoch p (s.adopted now updatedEndpoints order)
      (s₀.adopted now updatedEndpoints order) := by
    have hperceived : SameButEpoch p s.perceived s₀.perceived :=
      ⟨congrArg SharedHeight.perceived hsim.height, hsim.epoch⟩
    refine sameButEpoch_foldl (fun ep hep info hinfo => ?_) hperceived
    obtain ⟨addr, -, haddr⟩ := mem_filterMap.mp hep
    exact hsim.upToDate updatedEndpoints (mem_of_getElem? hi) addr ep info haddr hinfo
  refine ⟨_, bind_eq_some_iff.mpr ⟨updatedEndpoints, hsim.updated ▸ hi, if_pos horder⟩,
    hsim.endpoints, hadopted.2, ?_, hsim.redis, ?_, ?_⟩
  · simp only [hsim.height, hadopted.1]
  · simp only [hsim.updated]
  · exact fun u hu => hsim.upToDate u (mem_of_mem_eraseIdx hu)

theorem sim_updateFromExtractedData (addr : EndpointAddr)
    (data : ExtractedData) (hsim : Sim old p stale s s₀) :
    Sim old p stale
      (s.updateFromExtractedData cfg addr data) (s₀.updateFromExtractedData cfg addr data) := by
  rw [updateFromExtractedData, updateFromExtractedData]
  split
  · exact hsim
  · refine ⟨fun a ha => ?_, hsim.epoch, by rw [hsim.height], hsim.redis, hsim.updated,
      hsim.upToDate⟩
    have hagree := hsim.endpoints a ha
    by_cases haddr : a = addr
    · subst haddr
      rw [← hagree.1]
      refine .insert_self (epochKnown_updateFromExtractedData ?_ data)
      cases hlookup : s.endpoints.lookup a with
      | none =>
        intro info hinfo
        cases hinfo
      | some ep => exact hagree.2 ep hlookup
    · exact hagree.insert_of_ne haddr

theorem agreeAt_syncEndpointBlocks {good : Endpoint → Prop}
    (hgood : ∀ ep h, good ep → good (ep.setHeight h))
    (heights : GoMap EndpointAddr ℕ) {endpoints endpoints₀ : GoMap EndpointAddr Endpoint}
    {a : EndpointAddr} (h : AgreeAt good endpoints endpoints₀ a) :
    AgreeAt good (syncEndpointBlocksFromRedis heights endpoints)
      (syncEndpointBlocksFromRedis heights endpoints₀) a := by
  refine .foldl heights.entries (fun entry _ m m₀ hm => hm.modify _ (fun ep hep => ?_) _) h
  split
  · exact hep
  · exact hgood ep _ hep

theorem sim_share {a : ShareAction} (hreads : a.readsCopy = true → stale = false)
    (hsim : Sim old p stale s s₀) (hact : s.act cfg now (.share a) = some s') :
    ∃ s₀', s₀.act cfg now (.share a) = some s₀' ∧ Sim old p (stale && !a.clearsCopy) s' s₀' := by
  obtain ⟨⟨h, redis⟩, hh, rfl⟩ := map_eq_some_iff.mp hact
  obtain ⟨redis₀, hh₀, hredis⟩ := SharedHeight.act_copy (fun hr => hsim.redis (hreads hr)) hh
  refine ⟨{ s₀ with height := h, redis := redis₀ }, ?_, hsim.endpoints, hsim.epoch, rfl, ?_,
    hsim.updated, hsim.upToDate⟩
  · exact map_eq_some_iff.mpr ⟨(h, redis₀), hsim.height ▸ hh₀, rfl⟩
  · intro hstale
    rw [Bool.and_eq_false_iff, Bool.not_eq_false'] at hstale
    exact hredis (hstale.imp_left hsim.redis)

theorem sim_act {action : Action}
    (huntainted : Untainted old p s ⟨now, action⟩) (hshare : ∀ a, action ≠ .share a)
    (hsim : Sim old p stale s s₀) (hact : s.act cfg now action = some s') :
    ∃ s₀', s₀.act cfg now action = some s₀' ∧ Sim old p stale s' s₀' := by
  cases action with
  | share a => exact absurd rfl (hshare a)
  | updateFromExtractedData addr data =>
    cases hact
    exact ⟨_, rfl, sim_updateFromExtractedData addr data hsim⟩
  | updateEndpointsFromObservations =>
    cases hact
    exact ⟨_, rfl, sim_updateEndpointsFromObservations huntainted hsim⟩
  | updateFromEndpoints => exact sim_updateFromEndpoints hsim hact
  | filterValidEndpoints =>
    cases hact
    refine ⟨_, rfl, { hsim with endpoints := fun addr haddr => ?_ }⟩
    exact SeenView.agreeAt_touchEndpoints (fun _ h => h) _ (hsim.endpoints addr haddr)
  | syncEndpointBlocks heights =>
    obtain ⟨hsvc, heq⟩ := ite_none_right_eq_some.mp hact
    cases heq
    refine ⟨_, if_pos hsvc, { hsim with endpoints := fun addr haddr => ?_ }⟩
    refine agreeAt_syncEndpointBlocks (fun ep h hep => ?_) heights (hsim.endpoints addr haddr)
    exact epochKnown_setHeight hep h
  | sweepStaleEndpoints =>
    obtain ⟨hsvc, heq⟩ := ite_none_right_eq_some.mp hact
    cases heq
    refine ⟨_, if_pos hsvc, { hsim with endpoints := fun addr haddr => ?_ }⟩
    exact (hsim.endpoints addr haddr).retain _
  | otherReplica blockNumber =>
    cases hact
    refine ⟨_, rfl, { hsim with redis := fun hstale => ?_ }⟩
    exact congrArg (max · blockNumber) (hsim.redis hstale)

theorem sim_step (huntainted : Untainted old p s e)
    (hreads : e.action.readsCopy = true → stale = false)
    (hsim : Sim old p stale s s₀) (hstep : s.step cfg e = some s') :
    ∃ s₀', s₀.step cfg e = some s₀' ∧ Sim old p (stale && !e.action.clearsCopy) s' s₀' := by
  obtain ⟨now, action⟩ := e
  by_cases hshare : ∃ a, action = .share a
  · obtain ⟨a, rfl⟩ := hshare
    exact sim_share hreads hsim hstep
  · rw [not_exists] at hshare
    -- no other action clears the copy
    have hclears : action.clearsCopy = false := by
      cases action with
      | share a => exact absurd rfl (hshare a)
      | _ => rfl
    rw [hclears, Bool.not_false, Bool.and_true]
    exact sim_act huntainted hshare hsim hstep

theorem sim_run (huntainted : Meets (step cfg) (Untainted old p) s post)
    (hreads : ReadsCleared stale post)
    (hsim : Sim old p stale s s₀) (hrun : run (step cfg) s post = some t) :
    ∃ t₀ stale', run (step cfg) s₀ post = some t₀ ∧ Sim old p stale' t t₀ := by
  induction post generalizing s s₀ stale with
  | nil => exact ⟨s₀, stale, rfl, some.inj hrun ▸ hsim⟩
  | cons e post ih =>
    obtain ⟨s', hstep, hrun⟩ := run_cons.mp hrun
    obtain ⟨s₀', hstep₀, hsim'⟩ := sim_step huntainted.1 hreads.1 hsim hstep
    obtain ⟨t₀, stale', hrun₀, ht⟩ := ih (huntainted.2 s' hstep) hreads.2 hsim' hrun
    exact ⟨t₀, stale', run_cons.mpr ⟨s₀', hstep₀, hrun₀⟩, ht⟩

theorem lookup_eq_none_step (hnone : s.endpoints.lookup addr = none)
    (he : e.action.observes addr = false) (hstep : s.step cfg e = some s') :
    s'.endpoints.lookup addr = none := by
  obtain ⟨now, action⟩ := e
  cases action with
  | updateFromExtractedData a =>
    cases hstep
    rw [updateFromExtractedData]
    split
    · exact hnone
    · have hne : addr ≠ a := fun h => by simp [Action.observes, h] at he
      exact (AList.lookup_insert_ne hne).trans hnone
  | updateFromEndpoints =>
    obtain ⟨-, -, -, rfl⟩ := updateFromEndpoints_eq_some hstep
    exact hnone
  | updateEndpointsFromObservations =>
    cases hstep
    refine (lookup_observe_of_not_mem (fun o ho => ?_) (s.endpoints, ∅)).trans hnone
    have hany := any_eq_false.mp he o ho
    simpa using hany
  | filterValidEndpoints =>
    cases hstep
    rw [← AgreeAt.self_false_iff] at hnone ⊢
    exact SeenView.agreeAt_touchEndpoints (fun _ h => h) _ hnone
  | syncEndpointBlocks heights =>
    obtain ⟨hsvc, heq⟩ := ite_none_right_eq_some.mp hstep
    cases heq
    rw [← AgreeAt.self_false_iff] at hnone ⊢
    exact agreeAt_syncEndpointBlocks (fun _ _ h => h) heights hnone
  | sweepStaleEndpoints =>
    obtain ⟨hsvc, heq⟩ := ite_none_right_eq_some.mp hstep
    cases heq
    exact lookup_retain.trans (by rw [hnone, filter_none])
  | share =>
    obtain ⟨r, hr, rfl⟩ := map_eq_some_iff.mp hstep
    exact hnone
  | otherReplica =>
    cases hstep
    exact hnone

theorem lookup_eq_none_run (hpre : ∀ e ∈ pre, e.action.observes addr = false)
    (hrun : run (step cfg) (start redis) pre = some s) : s.endpoints.lookup addr = none :=
  invariant (C := fun _ e => e.action.observes addr = false)
    (I := fun s => s.endpoints.lookup addr = none)
    (fun _ _ _ hnone he hstep => lookup_eq_none_step hnone he hstep) rfl (Meets.of_forall hpre) hrun

/-- No epoch is perceived, and none is waiting to be. -/
structure NoEpoch (s : SolanaQoS) : Prop where
  perceivedEpoch : s.perceivedEpoch = 0
  updated : ∀ updatedEndpoints ∈ s.updated, updatedEndpoints.keys = []

theorem noEpoch_step (h : s.NoEpoch) (he : ∀ addr, e.action.observes addr = false)
    (hstep : s.step cfg e = some s') : s'.NoEpoch := by
  obtain ⟨now, action⟩ := e
  cases action with
  | updateFromExtractedData a =>
    have ha := he a
    simp [Action.observes] at ha
  | updateEndpointsFromObservations observations =>
    cases hstep
    cases observations with
    | nil =>
      refine ⟨h.perceivedEpoch, fun u hu => ?_⟩
      rcases mem_append.mp hu with hu | hu
      · exact h.updated u hu
      · rw [mem_singleton.mp hu]
        rfl
    | cons o =>
      have ho := he o.1
      simp [Action.observes] at ho
  | updateFromEndpoints i order =>
    obtain ⟨u, hi, horder, rfl⟩ := updateFromEndpoints_eq_some hstep
    rw [h.updated u (mem_of_getElem? hi), perm_nil] at horder
    subst horder
    exact ⟨h.perceivedEpoch, fun u hu => h.updated u (mem_of_mem_eraseIdx hu)⟩
  | filterValidEndpoints | otherReplica =>
    cases hstep
    exact { h with }
  | syncEndpointBlocks | sweepStaleEndpoints =>
    obtain ⟨hsvc, heq⟩ := ite_none_right_eq_some.mp hstep
    cases heq
    exact { h with }
  | share =>
    obtain ⟨r, hr, rfl⟩ := map_eq_some_iff.mp hstep
    exact { h with }

theorem noEpoch_run (hpre : ∀ e ∈ pre, ∀ addr, e.action.observes addr = false)
    (hrun : run (step cfg) (start redis) pre = some s) : s.NoEpoch :=
  invariant (C := fun _ e => ∀ addr, e.action.observes addr = false)
    (fun _ _ _ h he hstep => noEpoch_step h he hstep) ⟨rfl, by simp [start]⟩
    (Meets.of_forall hpre) hrun

def verdict (cfg : Config) (q : SolanaQoS) (now : Time) (addr : EndpointAddr) : Option Bool :=
  (q.endpoints.lookup addr).map (fun ep => (validateEndpoint cfg q.perceived now ep).isOk)

theorem Sim.verdict_eq (hsim : Sim old p stale s s₀) (haddr : old.lookup addr = none) :
    s.verdict cfg now addr = s₀.verdict cfg now addr := by
  obtain ⟨heq, hknown⟩ := hsim.endpoints addr haddr
  rw [verdict, verdict, ← heq]
  refine map_congr fun ep hep => Bool.eq_iff_iff.mpr ?_
  rw [validateEndpoint_isOk, validateEndpoint_isOk]
  refine exists_congr fun info => and_congr_right fun hbasic => and_congr ?_ ?_
  · have hpasses := hknown ep hep info (Endpoint.validateBasic_eq_ok.mp hbasic).2.1
    rcases hsim.epoch with hepoch | ⟨hp, hzero⟩
    · rw [perceived, perceived, hepoch]
    · rw [perceived, perceived, hp, hzero]
      exact ⟨fun _ => .inr (.inl rfl), fun _ => hpasses⟩
  · rw [perceived, perceived, hsim.height]

/-- Nothing that began before is still to be applied. -/
structure Idle (s : SolanaQoS) : Prop where
  redisWrites : s.height.redisWrites = []
  fetched : s.height.fetched = none
  deleting : s.height.deleting = false
  updated : s.updated = []

theorem reset_eq_some (hidle : s.Idle) :
    s.step cfg ⟨r, .share .reset⟩ =
      some { s with height := ⟨0, [], none, cfg.sync.reputationSvc⟩ } := by
  obtain ⟨endpoints, perceivedEpoch, ⟨height, redisWrites, fetched, deleting⟩, redis⟩ := s
  obtain ⟨hwrites, hfetched, hdeleting, -⟩ := hidle
  cases hwrites
  cases hfetched
  cases hdeleting
  rfl

/-- After a reset with nothing under way, an endpoint that was not observed before it is judged
as in a run in which no endpoint was observed before it: as long as no read of the copy finds
what was shared before, no endpoint of that time is relayed to, and no relay brings an epoch
behind the one that the reset has kept. -/
theorem verdict_after_reset {redis₀ : ℕ} {pre₀ : List Event}
    (hpre : run (step cfg) (start redis) pre = some s) (hidle : s.Idle)
    (hpre₀ : run (step cfg) (start redis₀) pre₀ = some s₀) (hidle₀ : s₀.Idle)
    (hsilent : ∀ e ∈ pre₀, ∀ addr, e.action.observes addr = false)
    (hreads : ReadsCleared true post)
    (huntainted : Machine.Meets (step cfg) (Untainted s.endpoints s.perceivedEpoch) s
      (⟨r, .share .reset⟩ :: post))
    (hrun : run (step cfg) s (⟨r, .share .reset⟩ :: post) = some t) :
    ∃ t₀, run (step cfg) s₀ (⟨r, .share .reset⟩ :: post) = some t₀ ∧
      ∀ addr, (∀ e ∈ pre, e.action.observes addr = false) →
        ∀ now, t.verdict cfg now addr = t₀.verdict cfg now addr := by
  obtain ⟨s', hstep, hrun⟩ := run_cons.mp hrun
  have huntainted' := huntainted.2 s' hstep
  rw [reset_eq_some hidle, some.injEq] at hstep
  subst hstep
  have hsim : Sim s.endpoints s.perceivedEpoch true
      { s with height := ⟨0, [], none, cfg.sync.reputationSvc⟩ }
      { s₀ with height := ⟨0, [], none, cfg.sync.reputationSvc⟩ } := by
    refine ⟨fun addr haddr => ⟨?_, fun ep hep => ?_⟩, ?_, rfl, fun h => ?_, ?_, ?_⟩
    · exact haddr.trans (lookup_eq_none_run (fun e he => hsilent e he addr) hpre₀).symm
    · exact absurd (haddr.symm.trans hep) (some_ne_none ep).symm
    · exact .inr ⟨rfl, (noEpoch_run hsilent hpre₀).perceivedEpoch⟩
    · cases h
    · exact hidle.updated.trans hidle₀.updated.symm
    · simp [hidle.updated]
  obtain ⟨t₀, stale, hrun₀, ht⟩ := sim_run huntainted' hreads hsim hrun
  refine ⟨t₀, run_cons.mpr ⟨_, reset_eq_some hidle₀, hrun₀⟩, fun addr haddr now => ?_⟩
  exact ht.verdict_eq (lookup_eq_none_run haddr hpre)

/-- One relay whose observation is applied with nothing in between. -/
def relayed (m : EndpointAddr) (info : EpochInfo) : List Event :=
  [⟨1, .updateEndpointsFromObservations [(m, .getEpochInfo info)]⟩,
    ⟨1, .updateFromEndpoints 0 [m]⟩]

theorem untainted_relayed {m : EndpointAddr} {info : EpochInfo} (hnew : old.lookup m = none)
    (hepoch : p ≤ info.epoch ∧ p ≤ nextEpoch info.epoch) (s : SolanaQoS) :
    Meets (step cfg) (Untainted old p) s (relayed m info) := by
  refine ⟨⟨fun o ho => .inr (mem_singleton.mp ho ▸ hnew), fun addr ep info' hep hinfo => ?_⟩,
    fun _ _ => ⟨trivial, fun _ _ => trivial⟩⟩
  have hlookup : (AList.insert m { ((s.endpoints.lookup m).getD {}) with epochInfo := some info }
      (∅ : GoMap EndpointAddr Endpoint)).lookup addr = some ep := hep
  rcases lookup_insert_eq_some.mp hlookup with ⟨-, rfl⟩ | ⟨-, hlookup⟩
  · cases hinfo
    exact hepoch
  · cases hlookup

theorem verdict_after_reset_same_epoch : ∃ t t₀,
    run (step withDefaults) (start 0)
      (relayed "m" ⟨100, 10⟩ ++ ⟨2, .share .reset⟩ :: relayed "a" ⟨90, 10⟩) = some t ∧
    run (step withDefaults) (start 0) (⟨2, .share .reset⟩ :: relayed "a" ⟨90, 10⟩) =
      some t₀ ∧
    t.verdict withDefaults 3 "a" = t₀.verdict withDefaults 3 "a" := by
  have hpre : run (step withDefaults) (start 0) (relayed "m" ⟨100, 10⟩) = some _ := rfl
  have hpre₀ : run (step withDefaults) (start 0) [] = some _ := rfl
  have hreads : ReadsCleared true (relayed "a" ⟨90, 10⟩) := ⟨by decide, by decide, trivial⟩
  obtain ⟨t₀, hrun₀, hsame⟩ := verdict_after_reset (r := 2) hpre
    ⟨by decide, by decide, by decide, rfl⟩ hpre₀ ⟨rfl, rfl, rfl, rfl⟩ (by simp) hreads
    ⟨trivial, fun s' _ => untainted_relayed (by decide +kernel) (by decide +kernel) s'⟩ rfl
  exact ⟨_, t₀, rfl, hrun₀, hsame "a" (by decide) 3⟩

theorem epoch_survives_reset :
    (run (step withDefaults) (start 0)
      (relayed "m" ⟨100, 12⟩ ++ ⟨2, .share .reset⟩ :: relayed "a" ⟨90, 10⟩)).map
        (·.verdict withDefaults 3 "a") = some (some false) ∧
    (run (step withDefaults) (start 0)
      (⟨2, .share .reset⟩ :: relayed "a" ⟨90, 10⟩)).map (·.verdict withDefaults 3 "a") =
        some (some true) := by
  constructor
  · decide +kernel
  · decide +kernel

end SolanaQoS

end Solana

end PathGateway
