import PathGateway.BlockConsensus
import PathGateway.Machine

/-! The perceived height that an EVM service publishes beside its consensus, and the copy that
replicas share. An observation is two atomic steps, adding it and storing what came out of it, a
reset is three, and everything between two steps may interleave. -/

namespace PathGateway

open Option List Machine

structure HeightConfig where
  order : NewestFirst
  reputationSvc : Bool
  startedAt : Time
  effectiveGrace : ℕ

/-- An observer that has added its observation and not yet stored the result. -/
structure PendingStore where
  oldBlock : ℕ
  newPerceived : ℕ
  shares : Bool
  deriving DecidableEq, Repr

structure PublishedHeight where
  consensus : BlockHeightConsensus
  perceivedBlockNumber : ℕ
  stores : List PendingStore
  redis : ℕ
  redisWrites : List ℕ
  fetched : Option ℕ
  /-- How many resets are still to clear the external height. -/
  clearing : ℕ
  /-- How many resets are still to delete the shared height. -/
  deleting : ℕ
  deriving DecidableEq, Repr

inductive HeightEvent where
  | observe (shares : Bool) (endpointAddr : EndpointAddr) (blockHeight : ℕ) (now clock : Time)
  | store (i : ℕ)
  | writeRedis (i : ℕ) (ok : Bool)
  | fetch (ok : Bool)
  | sync (now clock : Time)
  | external (height : ℤ) (now : Time)
  | reset
  | clearExternal
  | deleteShared (ok : Bool)
  | otherReplica (blockNumber : ℕ)
  | redisExpire
  deriving DecidableEq, Repr

namespace PublishedHeight

variable (cfg : HeightConfig) (s : PublishedHeight)

def start (consensus : BlockHeightConsensus) (redis : ℕ) : PublishedHeight :=
  ⟨consensus, 0, [], redis, [], none, 0, 0⟩

def addObservation (shares : Bool) (endpointAddr : EndpointAddr) (blockHeight : ℕ)
    (now clock : Time) : PublishedHeight :=
  let consensus := s.consensus.addObservation cfg.order endpointAddr blockHeight now clock
  { s with
    consensus := consensus
    stores := s.stores ++ [⟨s.perceivedBlockNumber, consensus.cachedPerceived, shares⟩] }

def observe (shares : Bool) (endpointAddr : EndpointAddr) (blockHeight : ℕ) (now clock : Time) :
    PublishedHeight :=
  if 0 < blockHeight then s.addObservation cfg shares endpointAddr blockHeight now clock else s

def store (i : ℕ) : Option PublishedHeight :=
  s.stores[i]?.map (fun p =>
    { s with
      perceivedBlockNumber := p.newPerceived
      stores := s.stores.eraseIdx i
      redisWrites :=
        if p.newPerceived ≠ p.oldBlock ∧ p.shares = true ∧ cfg.reputationSvc = true then
          s.redisWrites ++ [p.newPerceived]
        else s.redisWrites })

def writeRedis (i : ℕ) (ok : Bool) : Option PublishedHeight :=
  s.redisWrites[i]?.map (fun blockNumber =>
    { s with
      redis := if ok then max s.redis blockNumber else s.redis
      redisWrites := s.redisWrites.eraseIdx i })

def fetch (ok : Bool) : Option PublishedHeight :=
  if cfg.reputationSvc = true ∧ s.fetched = none then
    some { s with fetched := some (if ok then s.redis else 0) }
  else none

def sync (now clock : Time) : Option PublishedHeight :=
  s.fetched.map (fun redisBlockNumber =>
    { s.observe cfg false "redis-sync" redisBlockNumber now clock with fetched := none })

def consumeExternalBlockHeight (height : ℤ) (now : Time) : PublishedHeight :=
  if height ≤ 0 then s
  else
    let h := height.toNat
    let current := s.perceivedBlockNumber
    { s with
      consensus := { s.consensus with externalBlockHeight := h }
      redisWrites :=
        if cfg.startedAt + cfg.effectiveGrace ≤ now ∧ cfg.reputationSvc = true ∧ 0 < current ∧
            current < h ∧ Id.run (isPlausibleBlockHeight h current) = true then
          s.redisWrites ++ [h]
        else s.redisWrites }

/-- The first of the three writes of a reset. -/
def resetPerceivedBlockHeight : PublishedHeight :=
  { s with perceivedBlockNumber := 0, clearing := s.clearing + 1 }

def clearExternalBlockHeight : Option PublishedHeight :=
  if s.clearing = 0 then none
  else
    some { s with
      consensus := { s.consensus with externalBlockHeight := 0 }
      clearing := s.clearing - 1
      deleting := if cfg.reputationSvc then s.deleting + 1 else s.deleting }

def deletePerceivedBlockNumber (ok : Bool) : Option PublishedHeight :=
  if s.deleting = 0 then none
  else some { s with redis := if ok then 0 else s.redis, deleting := s.deleting - 1 }

def step : HeightEvent → Option PublishedHeight
  | .observe shares endpointAddr blockHeight now clock =>
    some (s.observe cfg shares endpointAddr blockHeight now clock)
  | .store i => s.store cfg i
  | .writeRedis i ok => s.writeRedis i ok
  | .fetch ok => s.fetch cfg ok
  | .sync now clock => s.sync cfg now clock
  | .external height now => some (s.consumeExternalBlockHeight cfg height now)
  | .reset => some s.resetPerceivedBlockHeight
  | .clearExternal => s.clearExternalBlockHeight cfg
  | .deleteShared ok => s.deletePerceivedBlockNumber ok
  | .otherReplica blockNumber => some { s with redis := max s.redis blockNumber }
  | .redisExpire => some { s with redis := 0 }

section Published

variable {cfg s} {s' : PublishedHeight} {e : HeightEvent}

def Follows (s : PublishedHeight) : Prop :=
  s.stores = [] → s.perceivedBlockNumber = s.consensus.cachedPerceived

/-- The last outstanding store writes what the consensus holds by then. A reset, which
publishes 0, needs a store that is still to come or a consensus that holds 0. -/
def Fresh (s : PublishedHeight) : HeightEvent → Prop
  | .store i => s.stores.length = 1 →
    ∀ p ∈ s.stores[i]?, p.newPerceived = s.consensus.cachedPerceived
  | .reset => s.stores = [] → s.consensus.cachedPerceived = 0
  | _ => True

instance Fresh.decidable : ∀ s e, Decidable (Fresh s e)
  | s, .store i => inferInstanceAs (Decidable (s.stores.length = 1 →
      ∀ p ∈ s.stores[i]?, p.newPerceived = s.consensus.cachedPerceived))
  | s, .reset => inferInstanceAs (Decidable (s.stores = [] → s.consensus.cachedPerceived = 0))
  | _, .observe .. | _, .writeRedis .. | _, .fetch _ | _, .sync .. => .isTrue trivial
  | _, .external .. | _, .clearExternal | _, .deleteShared _ => .isTrue trivial
  | _, .otherReplica _ | _, .redisExpire => .isTrue trivial

theorem follows_observe {shares : Bool} {endpointAddr : EndpointAddr} {blockHeight : ℕ}
    {now clock : Time} (h : Follows s) :
    Follows (s.observe cfg shares endpointAddr blockHeight now clock) := by
  rw [observe]
  split
  · intro hnone
    exact absurd hnone (append_ne_nil_of_right_ne_nil _ (cons_ne_nil _ _))
  · exact h

theorem follows_store {i : ℕ} (hstep : s.store cfg i = some s') :
    Follows s' ↔ Fresh s (.store i) := by
  obtain ⟨p, hp, rfl⟩ := map_eq_some_iff.mp hstep
  have hi : i < s.stores.length := (List.getElem?_eq_some_iff.mp hp).1
  have hlast : s.stores.eraseIdx i = [] ↔ s.stores.length = 1 := by
    rw [← length_eq_zero_iff, length_eraseIdx_of_lt hi]
    omega
  simp only [Follows, Fresh, hlast, hp, mem_def, some.injEq, forall_eq']

theorem follows_step (h : Follows s) (hstep : s.step cfg e = some s') : Follows s' ↔ Fresh s e := by
  cases e with
  | store => exact follows_store hstep
  | reset =>
    cases hstep
    exact ⟨fun hf hnone => (hf hnone).symm, fun hf hnone => (hf hnone).symm⟩
  | observe =>
    cases hstep
    exact iff_true_intro (follows_observe h)
  | sync =>
    obtain ⟨v, -, rfl⟩ := map_eq_some_iff.mp hstep
    exact iff_true_intro (follows_observe h)
  | writeRedis =>
    obtain ⟨v, -, rfl⟩ := map_eq_some_iff.mp hstep
    exact iff_true_intro h
  | fetch =>
    simp only [step, fetch, ite_none_right_eq_some] at hstep
    obtain ⟨-, hs⟩ := hstep
    cases hs
    exact iff_true_intro h
  | external =>
    cases hstep
    rw [consumeExternalBlockHeight]
    split
    · exact iff_true_intro h
    · exact iff_true_intro h
  | clearExternal | deleteShared =>
    obtain ⟨-, heq⟩ := ite_none_left_eq_some.mp hstep
    cases heq
    exact iff_true_intro h
  | otherReplica | redisExpire =>
    cases hstep
    exact iff_true_intro h

/-- In every run from a state where nothing is outstanding and the published height is the one
of the consensus, the two agree whenever nothing is outstanding exactly if the last outstanding
store is each time a fresh one. -/
theorem published_follows_iff {t : PublishedHeight} {events : List HeightEvent}
    (hstart : s.perceivedBlockNumber = s.consensus.cachedPerceived)
    (hrun : run (step cfg) s events = some t) :
    (∀ pre post u, events = pre ++ post → run (step cfg) s pre = some u →
      u.stores = [] → u.perceivedBlockNumber = u.consensus.cachedPerceived) ↔
    Machine.Meets (step cfg) Fresh s events :=
  always_iff_meets (I := Follows) (fun _ _ _ => follows_step) (fun _ => hstart) hrun

def twoObservers : List HeightEvent :=
  [.observe true "a" 100 1 1, .observe true "b" 200 2 2]

def alone : HeightConfig := ⟨.stable, false, 0, 0⟩

theorem published_follows_iff_inOrder :
    ∃ t, run (step alone) (start (.new 5 0) 0) (twoObservers ++ [.store 0, .store 0]) =
        some t ∧
      ∀ pre post u, twoObservers ++ [.store 0, .store 0] = pre ++ post →
        run (step alone) (start (.new 5 0) 0) pre = some u →
        u.stores = [] → u.perceivedBlockNumber = u.consensus.cachedPerceived := by
  refine exists_of_any (fun _ => True) (by decide +kernel) fun t hrun _ => ?_
  exact (published_follows_iff rfl hrun).mpr (by decide +kernel)

theorem stale_store_published :
    (run (step alone) (start (.new 5 0) 0)
      (twoObservers ++ [.store 1, .store 0])).map
        (fun u => (u.stores, u.perceivedBlockNumber, u.consensus.cachedPerceived)) =
      some ([], 100, 200) := by
  decide +kernel

end Published

end PublishedHeight

end PathGateway
