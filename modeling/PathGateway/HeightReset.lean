import PathGateway.PublishedHeight

/-! What a reset of the perceived height leaves behind. It clears what is published and what
is shared, one write after the other, but not the window of the consensus: a run after the reset
is compared with one in which nothing was recorded before it. -/

namespace PathGateway

open Machine Option List

namespace HeightEvent

def records : HeightEvent → Bool
  | .observe .. | .store _ | .writeRedis .. | .fetch _ | .sync .. | .external .. => true
  | .reset | .clearExternal | .deleteShared _ | .otherReplica _ | .redisExpire => false

def addsAt : HeightEvent → Option Time
  | .observe _ _ _ now _ => some now
  | .sync now _ => some now
  | _ => none

def readsCopy : HeightEvent → Bool
  | .fetch ok => ok
  | _ => false

/-- Whether the external height of before the reset may still be set after the event. -/
def floorAfter (floor : Bool) : HeightEvent → Bool
  | .external height _ => floor && decide (height ≤ 0)
  | .clearExternal => false
  | _ => floor

/-- Whether what was shared before the reset may still be there after the event. -/
def copyAfter (copy : Bool) : HeightEvent → Bool
  | .deleteShared ok => copy && !ok
  | .redisExpire => false
  | _ => copy

end HeightEvent

namespace BlockHeightConsensus

variable {order : NewestFirst} {c c₀ : BlockHeightConsensus} {old : List BlockObservation}
  {endpointAddr : EndpointAddr} {blockHeight : ℕ} {now clock : Time}

/-- The first consensus has observations of `old` before those of the other. -/
structure SameButOld (old : List BlockObservation) (c c₀ : BlockHeightConsensus) : Prop where
  observations : ∃ stale, (∀ obs ∈ stale, obs ∈ old) ∧ c.observations = stale ++ c₀.observations
  syncAllowance : c.syncAllowance = c₀.syncAllowance
  createdAt : c.createdAt = c₀.createdAt
  externalBlockGracePeriod : c.externalBlockGracePeriod = c₀.externalBlockGracePeriod

theorem prune_stale (order : NewestFirst) {stale : List BlockObservation}
    (observations : List BlockObservation)
    (hexpired : ∀ obs ∈ stale, obs.observedAt + defaultObservationWindow ≤ now) :
    pruneObservationsLocked order (stale ++ observations) now =
      pruneObservationsLocked order observations now := by
  have hnone : stale.filter
      (fun obs => decide (now < obs.observedAt + defaultObservationWindow)) = [] := by
    refine filter_eq_nil_iff.mpr fun obs hobs => ?_
    rw [decide_eq_true_iff, not_lt]
    exact hexpired obs hobs
  rw [pruneObservationsLocked, filter_append, hnone, nil_append]
  rfl

theorem addObservation_eq_of_expired (order : NewestFirst) (endpointAddr : EndpointAddr)
    (blockHeight : ℕ) (clock : Time) (hsame : SameButOld old c c₀)
    (hext : c.externalBlockHeight = c₀.externalBlockHeight)
    (hexpired : ∀ obs ∈ old, obs.observedAt + defaultObservationWindow ≤ now) :
    c.addObservation order endpointAddr blockHeight now clock =
      c₀.addObservation order endpointAddr blockHeight now clock := by
  obtain ⟨observations, syncAllowance, cachedPerceived, external, createdAt, grace⟩ := c
  obtain ⟨observations₀, syncAllowance₀, cachedPerceived₀, external₀, createdAt₀, grace₀⟩ := c₀
  obtain ⟨⟨stale, hstale, hobs⟩, hallow, hcreated, hgrace⟩ := hsame
  dsimp only at hobs hallow hext hcreated hgrace
  subst hobs hallow hext hcreated hgrace
  have hprune := prune_stale order (observations₀ ++ [⟨blockHeight, now, endpointAddr⟩])
    fun obs h => hexpired obs (hstale obs h)
  rw [← append_assoc] at hprune
  simp only [addObservation, hprune]
  rfl

end BlockHeightConsensus

namespace PublishedHeight

open BlockHeightConsensus

variable {cfg : HeightConfig} {s s' s₀ : PublishedHeight} {e : HeightEvent}
  {old : List BlockObservation}

/-- As long as the external height of before the reset may be set nothing is added, and as long
as the copy may hold what was shared before it no read of it succeeds. -/
def ReadsCleared : Bool → Bool → List HeightEvent → Prop
  | _, _, [] => True
  | floor, copy, e :: es => (e.addsAt.isSome = true → floor = false) ∧
      (e.readsCopy = true → copy = false) ∧ ReadsCleared (e.floorAfter floor) (e.copyAfter copy) es

instance ReadsCleared.decidable : ∀ floor copy es, Decidable (ReadsCleared floor copy es)
  | _, _, [] => .isTrue trivial
  | _, _, _ :: es => @instDecidableAnd _ _ _ (@instDecidableAnd _ _ _ (decidable _ _ es))

/-- The two runs differ in observations of before the reset, and, as long as they are not
cleared, in the external height and in what is shared. -/
structure Sim (old : List BlockObservation) (floor copy : Bool) (s s₀ : PublishedHeight) :
    Prop where
  consensus : SameButOld old s.consensus s₀.consensus
  external : floor = false → s.consensus.externalBlockHeight = s₀.consensus.externalBlockHeight
  perceivedBlockNumber : s.perceivedBlockNumber = s₀.perceivedBlockNumber
  stores : s.stores = s₀.stores
  redis : copy = false → s.redis = s₀.redis
  redisWrites : s.redisWrites = s₀.redisWrites
  fetched : s.fetched = s₀.fetched
  clearing : s.clearing = s₀.clearing
  deleting : s.deleting = s₀.deleting

variable {floor copy : Bool}

theorem sim_observe (cfg : HeightConfig) (shares : Bool) (endpointAddr : EndpointAddr)
    (blockHeight : ℕ) {now : Time} (clock : Time) (hsim : Sim old floor copy s s₀)
    (hfloor : floor = false)
    (hexpired : ∀ obs ∈ old, obs.observedAt + defaultObservationWindow ≤ now) :
    Sim old floor copy (s.observe cfg shares endpointAddr blockHeight now clock)
      (s₀.observe cfg shares endpointAddr blockHeight now clock) := by
  rw [observe, observe]
  split
  · have hadd := addObservation_eq_of_expired cfg.order endpointAddr blockHeight clock
      hsim.consensus (hsim.external hfloor) hexpired
    rw [addObservation, addObservation, hadd]
    exact { hsim with
      consensus := ⟨⟨[], by simp, rfl⟩, rfl, rfl, rfl⟩
      external := fun _ => rfl
      stores := by simp only [hsim.stores, hsim.perceivedBlockNumber] }
  · exact hsim

theorem sim_external {height : ℤ} {now : Time} (hsim : Sim old floor copy s s₀) :
    Sim old (floor && decide (height ≤ 0)) copy (s.consumeExternalBlockHeight cfg height now)
      (s₀.consumeExternalBlockHeight cfg height now) := by
  rw [consumeExternalBlockHeight, consumeExternalBlockHeight, hsim.perceivedBlockNumber,
    hsim.redisWrites]
  split
  · rename_i hle
    rw [decide_eq_true hle, Bool.and_true]
    exact hsim
  · exact { hsim with
      consensus := ⟨hsim.consensus.observations, hsim.consensus.syncAllowance,
        hsim.consensus.createdAt, hsim.consensus.externalBlockGracePeriod⟩
      external := fun _ => rfl
      perceivedBlockNumber := rfl
      redisWrites := rfl }

theorem sim_step (hsim : Sim old floor copy s s₀) (hadds : e.addsAt.isSome = true → floor = false)
    (hreads : e.readsCopy = true → copy = false)
    (hexpired : ∀ obs ∈ old, ∀ now ∈ e.addsAt, obs.observedAt + defaultObservationWindow ≤ now)
    (hstep : s.step cfg e = some s') :
    ∃ s₀', s₀.step cfg e = some s₀' ∧ Sim old (e.floorAfter floor) (e.copyAfter copy) s' s₀' := by
  cases e with
  | observe shares endpointAddr blockHeight now =>
    cases hstep
    exact ⟨_, rfl, sim_observe cfg _ _ _ _ hsim (hadds rfl) fun obs h => hexpired obs h now rfl⟩
  | external =>
    cases hstep
    exact ⟨_, rfl, sim_external hsim⟩
  | store =>
    obtain ⟨p, hp, rfl⟩ := map_eq_some_iff.mp hstep
    exact ⟨_, map_eq_some_iff.mpr ⟨p, hsim.stores ▸ hp, rfl⟩, { hsim with
      perceivedBlockNumber := rfl
      stores := by simp only [hsim.stores]
      redisWrites := by simp only [hsim.redisWrites] }⟩
  | writeRedis =>
    obtain ⟨blockNumber, hp, rfl⟩ := map_eq_some_iff.mp hstep
    exact ⟨_, map_eq_some_iff.mpr ⟨blockNumber, hsim.redisWrites ▸ hp, rfl⟩, { hsim with
      redis := fun hcopy => by simp only [hsim.redis hcopy]
      redisWrites := by simp only [hsim.redisWrites] }⟩
  | fetch ok =>
    simp only [step, fetch, ite_none_right_eq_some] at hstep
    obtain ⟨⟨hsvc, hnone⟩, hs⟩ := hstep
    cases hs
    refine ⟨_, if_pos ⟨hsvc, hsim.fetched ▸ hnone⟩, { hsim with fetched := ?_ }⟩
    cases ok with
    | false => rfl
    | true => simp only [hsim.redis (hreads rfl)]
  | sync now clock =>
    obtain ⟨v, hv, rfl⟩ := map_eq_some_iff.mp hstep
    have hobs := sim_observe cfg false "redis-sync" v clock hsim (hadds rfl)
      fun obs h => hexpired obs h now rfl
    exact ⟨_, map_eq_some_iff.mpr ⟨v, hsim.fetched ▸ hv, rfl⟩, { hobs with fetched := rfl }⟩
  | reset =>
    cases hstep
    exact ⟨_, rfl, { hsim with
      perceivedBlockNumber := rfl
      clearing := congrArg (· + 1) hsim.clearing }⟩
  | clearExternal =>
    obtain ⟨hsome, heq⟩ := ite_none_left_eq_some.mp hstep
    cases heq
    exact ⟨_, if_neg (hsim.clearing ▸ hsome), { hsim with
      consensus := ⟨hsim.consensus.observations, hsim.consensus.syncAllowance,
        hsim.consensus.createdAt, hsim.consensus.externalBlockGracePeriod⟩
      external := fun _ => rfl
      clearing := by simp only [hsim.clearing]
      deleting := by simp only [hsim.deleting] }⟩
  | deleteShared ok =>
    obtain ⟨hsome, heq⟩ := ite_none_left_eq_some.mp hstep
    cases heq
    refine ⟨_, if_neg (hsim.deleting ▸ hsome), { hsim with
      redis := fun hcopy => ?_
      deleting := by simp only [hsim.deleting] }⟩
    cases ok with
    | false => exact hsim.redis ((Bool.and_true copy).symm.trans hcopy)
    | true => rfl
  | otherReplica =>
    cases hstep
    exact ⟨_, rfl, { hsim with redis := fun hcopy => by simp only [hsim.redis hcopy] }⟩
  | redisExpire =>
    cases hstep
    exact ⟨_, rfl, { hsim with redis := fun _ => rfl }⟩

theorem sim_run {t : PublishedHeight} {post : List HeightEvent}
    (hsim : Sim old floor copy s s₀) (hcleared : ReadsCleared floor copy post)
    (hexpired : ∀ obs ∈ old,
      ∀ e ∈ post, ∀ now ∈ e.addsAt, obs.observedAt + defaultObservationWindow ≤ now)
    (hrun : run (step cfg) s post = some t) :
    ∃ t₀, run (step cfg) s₀ post = some t₀ ∧ t.perceivedBlockNumber = t₀.perceivedBlockNumber := by
  induction post generalizing s s₀ floor copy with
  | nil => exact ⟨s₀, rfl, some.inj hrun ▸ hsim.perceivedBlockNumber⟩
  | cons e post ih =>
    obtain ⟨s', hstep, hrun⟩ := run_cons.mp hrun
    obtain ⟨hadds, hreads, hcleared⟩ := hcleared
    obtain ⟨s₀', hstep₀, hsim'⟩ :=
      sim_step hsim hadds hreads (fun obs h => hexpired obs h e mem_cons_self) hstep
    obtain ⟨t₀, hrun₀, ht⟩ :=
      ih hsim' hcleared (fun obs h e' he' => hexpired obs h e' (mem_cons_of_mem e he')) hrun
    exact ⟨t₀, run_cons.mpr ⟨s₀', hstep₀, hrun₀⟩, ht⟩

variable {c : BlockHeightConsensus}

variable {pre : List HeightEvent} {t : PublishedHeight}

def sharing : HeightConfig := ⟨.stable, true, 0, 0⟩

end PublishedHeight

end PathGateway
