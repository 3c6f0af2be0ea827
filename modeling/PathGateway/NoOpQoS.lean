import PathGateway.EndpointStores
import PathGateway.SharedHeight

/-! The pass-through service: it keeps the height of each endpoint, filters the ones that are
too far behind, and shares its perceived height with the other replicas. -/

namespace PathGateway.NoOp

def defaultEndpointTTL : ℕ := 120 * Duration.minute

structure EndpointState where
  blockHeight : ℕ := 0
  lastSeen : Option Time := none
  deriving DecidableEq, Repr

def view : HeightView EndpointState where
  lastSeen := EndpointState.lastSeen
  touch now ep := { ep with lastSeen := some now }
  hasHeight ep := ep.blockHeight ≠ 0
  setHeight h ep := { ep with blockHeight := h }
  create now h := ⟨h, some now⟩
  lastSeen_touch _ _ := rfl
  lastSeen_setHeight _ _ := rfl
  lastSeen_create _ _ := rfl

structure NoOpQoS where
  endpoints : GoMap EndpointAddr EndpointState
  syncAllowance : ℕ
  height : SharedHeight

def NoOpQoS.start : NoOpQoS := ⟨∅, 0, {}⟩

inductive Action where
  | updateFromExtractedData (addr : EndpointAddr) (blockHeight : ℤ)
  | filterValidEndpoints (endpoints : List EndpointAddr)
  | setSyncAllowance (syncAllowance : ℕ)
  | syncEndpointBlocks (heights : GoMap EndpointAddr ℕ)
  | sweepStaleEndpoints
  | share (a : ShareAction)

structure Event where
  now : Time
  action : Action

def Action.reports : Action → ℕ
  | .updateFromExtractedData _ blockHeight => blockHeight.toNat
  | .share a => a.reports
  | _ => 0

namespace NoOpQoS

variable (cfg : SyncConfig) (q : NoOpQoS) (redis : ℕ) (now : Time)

/-- The mark of the endpoint stays as it is, and is missing in a new entry. -/
def updateFromExtractedData (addr : EndpointAddr) (blockHeight : ℤ) : NoOpQoS :=
  if blockHeight ≤ 0 then q
  else
    { q with
      endpoints := q.endpoints.insert addr
        { (q.endpoints.lookup addr).getD {} with blockHeight := blockHeight.toNat }
      height := q.height.reportChecked cfg blockHeight.toNat }

def afterFilter (endpoints : List EndpointAddr) : NoOpQoS :=
  if q.syncAllowance = 0 ∨ q.height.perceived = 0 then q
  else { q with endpoints := view.touchEndpoints now endpoints q.endpoints }

def act : Action → Option (NoOpQoS × ℕ)
  | .updateFromExtractedData addr blockHeight =>
    some (q.updateFromExtractedData cfg addr blockHeight, redis)
  | .filterValidEndpoints endpoints => some (q.afterFilter now endpoints, redis)
  | .setSyncAllowance syncAllowance => some ({ q with syncAllowance := syncAllowance }, redis)
  -- the background loop needs a reputation service
  | .syncEndpointBlocks heights =>
    if cfg.reputationSvc then
      some ({ q with endpoints := view.syncEndpointBlocksFromRedis now heights q.endpoints },
        redis)
    else none
  | .sweepStaleEndpoints =>
    if cfg.reputationSvc then
      some ({ q with endpoints := view.sweepStaleEndpoints now defaultEndpointTTL q.endpoints },
        redis)
    else none
  | .share a => (q.height.act cfg redis now a).map (fun r => ({ q with height := r.1 }, r.2))

def step (cfg : SyncConfig) (s : NoOpQoS × ℕ) (e : Event) : Option (NoOpQoS × ℕ) :=
  s.1.act cfg s.2 e.now e.action

variable {cfg q redis now} {q' : NoOpQoS} {redis' : ℕ} {a : Action}

theorem height_act (hact : q.act cfg redis now a = some (q', redis')) : (q'.height = q.height ∧
    redis' = redis) ∨ (∃ addr blockHeight, a = .updateFromExtractedData addr blockHeight ∧
    0 < blockHeight ∧ q'.height = q.height.reportChecked cfg blockHeight.toNat ∧ redis' = redis) ∨
    ∃ b, a = .share b ∧ q.height.act cfg redis now b = some (q'.height, redis') := by
  cases a with
  | updateFromExtractedData addr blockHeight =>
    cases hact
    rw [updateFromExtractedData]
    split
    · exact .inl ⟨rfl, rfl⟩
    · exact .inr (.inl ⟨addr, blockHeight, rfl, not_le.mp ‹_›, rfl, rfl⟩)
  | filterValidEndpoints =>
    cases hact
    rw [afterFilter]
    split <;> exact .inl ⟨rfl, rfl⟩
  | setSyncAllowance =>
    cases hact
    exact .inl ⟨rfl, rfl⟩
  | syncEndpointBlocks | sweepStaleEndpoints =>
    obtain ⟨-, heq⟩ := Option.ite_none_right_eq_some.mp hact
    cases heq
    exact .inl ⟨rfl, rfl⟩
  | share b =>
    obtain ⟨r, hr, heq⟩ := Option.map_eq_some_iff.mp hact
    cases heq
    exact .inr (.inr ⟨b, rfl, hr⟩)

end NoOpQoS

end PathGateway.NoOp
