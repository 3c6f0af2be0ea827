import PathGateway.EndpointStores
import PathGateway.SharedHeight

/-! The Solana service of one replica: the checks on an endpoint, the store of observations, and
the perceived epoch and height with every path that changes them. Applying observations takes
two locks one after the other, so it is two steps: what the first has stored is adopted by the
second. -/

namespace PathGateway.Solana

open Option

def defaultEndpointTTL : ℕ := 120 * Duration.minute

def validationErrorResponseWindow : ℕ := 30 * Duration.minute

def defaultSolanaBlockNumberSyncAllowance : ℕ := 1500

def resultGetHealthOK : String := "ok"

def resultGetHealthSyncing : String := "syncing"

structure EpochInfo where
  blockHeight : ℕ := 0
  epoch : ℕ := 0
  deriving DecidableEq, Repr

/-- What the store holds about an endpoint; `none` where nothing was observed. -/
structure Endpoint where
  health : Option String := none
  epochInfo : Option EpochInfo := none
  latestJSONRPCValidationError : Option Time := none
  lastSeen : Option Time := none
  deriving DecidableEq, Repr

structure Config where
  syncAllowance : ℕ
  sync : SyncConfig

/-- A service with the default allowance on a single replica. -/
def withDefaults : Config := ⟨0, ⟨false, 0, 0⟩⟩

def Config.getSyncAllowance (cfg : Config) : ℕ :=
  if 0 < cfg.syncAllowance then cfg.syncAllowance else defaultSolanaBlockNumberSyncAllowance

section Validation

def errInvalidGetHealthObs : String :=
  "endpoint responded incorrectly to a \"getHealth\" request, expected: \"ok\""

def errNoGetEpochInfoObs : String :=
  "endpoint has not had an observation of its response to a \"getEpochInfo\" request"

def errInvalidGetEpochInfoHeightZeroObs : String :=
  "endpoint responded with blockHeight of 0 to a \"getEpochInfo\" request, " ++
    "expected a blockHeight of > 0"

def errRecentJSONRPCValidationError : String := "endpoint has recent JSON-RPC validation errors"

def errEmptyEndpointList : String := "received empty list of endpoints to select from"

namespace Endpoint

variable (ep : Endpoint) (now : Time)

def hasRecentValidationErrors : Bool :=
  ep.latestJSONRPCValidationError.elim false
    (fun timestamp => now < timestamp + validationErrorResponseWindow)

def validateBasic : Except String EpochInfo :=
  if ep.hasRecentValidationErrors now then .error errRecentJSONRPCValidationError
  else if ep.health.elim false (fun result => result ≠ resultGetHealthOK) then
    .error ("❌Invalid solana health response: " ++ ep.health.getD "" ++ " :" ++
      errInvalidGetHealthObs)
  else
    match ep.epochInfo with
    | none => .error errNoGetEpochInfoObs
    | some info =>
      if info.blockHeight = 0 then .error errInvalidGetEpochInfoHeightZeroObs else .ok info

variable {ep now}

def unblemished (ep : Endpoint) (now : Time) : Bool :=
  !ep.hasRecentValidationErrors now &&
    ep.health.elim true (fun result => result = resultGetHealthOK)

theorem validateBasic_eq_ok {info : EpochInfo} : ep.validateBasic now = .ok info ↔
    ep.unblemished now = true ∧ ep.epochInfo = some info ∧ 0 < info.blockHeight := by
  rw [validateBasic, unblemished]
  cases hrecent : ep.hasRecentValidationErrors now with
  | true => simp
  | false =>
    cases hhealth : ep.health.elim true (fun result => decide (result = resultGetHealthOK)) with
    | false =>
      have hbad :
          ep.health.elim false (fun result => decide (result ≠ resultGetHealthOK)) = true := by
        cases hh : ep.health with
        | none => simp [hh] at hhealth
        | some => simpa [hh] using hhealth
      rw [if_neg Bool.false_ne_true, if_pos hbad]
      simp
    | true =>
      have hgood : ep.health.elim false (fun result => decide (result ≠ resultGetHealthOK)) =
          false := by
        cases hh : ep.health with
        | none => rfl
        | some => simpa [hh] using hhealth
      rw [hgood]
      cases hinfo : ep.epochInfo with
      | none => simp
      | some info' =>
        by_cases hzero : info'.blockHeight = 0
        · simp only [hzero, if_true]
          constructor
          · intro h
            cases h
          · rintro ⟨-, heq, hpos⟩
            cases heq
            omega
        · simp only [hzero, if_false]
          constructor
          · intro h
            cases h
            exact ⟨rfl, rfl, Nat.pos_of_ne_zero hzero⟩
          · rintro ⟨-, heq, -⟩
            cases heq
            rfl

end Endpoint

structure Perceived where
  epoch : ℕ
  blockHeight : ℕ
  deriving DecidableEq, Repr

def nextEpoch (epoch : ℕ) : ℕ := Id.run (Uint64.add epoch 1)

def validateEndpoint (cfg : Config) (perceived : Perceived) (now : Time) (ep : Endpoint) :
    Except String Unit := do
  let info ← ep.validateBasic now
  if 0 < info.epoch ∧ 0 < perceived.epoch ∧ nextEpoch info.epoch < perceived.epoch then
    .error ("solana endpoint epoch is more than one epoch behind chain perceived epoch: " ++
      toString info.epoch ++ " < " ++ toString perceived.epoch)
  let minAllowedBlockHeight :=
    Evm.minAllowedBlockNumber perceived.blockHeight cfg.getSyncAllowance
  if info.blockHeight < minAllowedBlockHeight then
    .error ("solana endpoint block height is outside the sync allowance: " ++
      toString info.blockHeight ++ " < " ++ toString minAllowedBlockHeight ++ " (perceived " ++
      toString perceived.blockHeight ++ ", allowance " ++ toString cfg.getSyncAllowance ++ ")")

end Validation

def EpochPasses (epoch perceivedEpoch : ℕ) : Prop :=
  epoch = 0 ∨ perceivedEpoch = 0 ∨ perceivedEpoch ≤ nextEpoch epoch

theorem validateEndpoint_isOk {cfg : Config} {perceived : Perceived} {now : Time} {ep : Endpoint} :
    (validateEndpoint cfg perceived now ep).isOk = true ↔ ∃ info, ep.validateBasic now = .ok info ∧
    EpochPasses info.epoch perceived.epoch ∧
    perceived.blockHeight ≤ info.blockHeight + cfg.getSyncAllowance := by
  rw [validateEndpoint]
  cases hbasic : ep.validateBasic now with
  | error =>
    constructor
    · intro h
      cases h
    · rintro ⟨info, h, -⟩
      cases h
  | ok info =>
    have hmin : info.blockHeight < Evm.minAllowedBlockNumber perceived.blockHeight
        cfg.getSyncAllowance ↔ info.blockHeight + cfg.getSyncAllowance < perceived.blockHeight := by
      rw [Evm.minAllowedBlockNumber]
      split <;> omega
    have hepoch : EpochPasses info.epoch perceived.epoch ↔ ¬(0 < info.epoch ∧
        0 < perceived.epoch ∧ nextEpoch info.epoch < perceived.epoch) := by
      rw [EpochPasses]
      omega
    simp only [Except.ok.injEq, exists_eq_left', bind, Except.bind]
    rw [hepoch, ← not_lt, ← hmin]
    split
    · rename_i hbehind
      exact ⟨fun h => (by cases h), fun h => absurd hbehind h.1⟩
    · rename_i hpass
      split
      · rename_i hlow
        exact ⟨fun h => (by cases h), fun h => absurd hlow h.2⟩
      · rename_i hheight
        exact ⟨fun _ => ⟨hpass, hheight⟩, fun _ => rfl⟩

/-- What the observation pipeline and the health checks have found out about a response. -/
structure ExtractedData where
  blockHeight : ℤ := 0
  invalidBlockHeight : Bool := false
  isSyncing : Bool := false
  syncCheckPerformed : Bool := false
  deriving DecidableEq, Repr

def ExtractedData.block (data : ExtractedData) : Option ℕ :=
  extractedHeight data.blockHeight data.invalidBlockHeight

/-- An observation of a relay; `unset` is one of no known kind. -/
inductive Observation where
  | getEpochInfo (info : EpochInfo)
  | getHealth (result : String)
  | unrecognizedResponse (validationError : Option Time)
  | unset
  deriving DecidableEq, Repr

namespace Endpoint

variable (ep : Endpoint)

def applyObservation : Observation → Option Endpoint
  | .getEpochInfo info => some { ep with epochInfo := some info }
  | .getHealth result => some { ep with health := some result }
  | .unrecognizedResponse none => some ep
  | .unrecognizedResponse (some timestamp) =>
    if ep.latestJSONRPCValidationError.elim true (fun latest => latest < timestamp) then
      some { ep with latestJSONRPCValidationError := some timestamp }
    else some ep
  | .unset => none

def setHeight (h : ℕ) : Endpoint :=
  { ep with epochInfo := some { (ep.epochInfo.getD {}) with blockHeight := h } }

def updateFromExtractedData (data : ExtractedData) : Endpoint :=
  let result := if data.isSyncing then resultGetHealthSyncing else resultGetHealthOK
  let checked := if data.syncCheckPerformed then { ep with health := some result } else ep
  data.block.elim checked checked.setHeight

end Endpoint

def view : SeenView Endpoint where
  lastSeen := Endpoint.lastSeen
  touch now ep := { ep with lastSeen := some now }
  lastSeen_touch _ _ := rfl

def syncEndpointBlocksFromRedis (heights : GoMap EndpointAddr ℕ)
    (endpoints : GoMap EndpointAddr Endpoint) : GoMap EndpointAddr Endpoint :=
  heights.entries.foldl (fun endpoints entry =>
    GoMap.modify (fun ep => if ep.epochInfo.isNone then ep else ep.setHeight entry.2) entry.1
      endpoints) endpoints

def adoptFrom (now : Time) (perceived : Perceived) (ep : Endpoint) : Perceived :=
  match ep.validateBasic now with
  | .error _ => perceived
  | .ok info =>
    if info.epoch < perceived.epoch then perceived
    else if info.blockHeight ≤ perceived.blockHeight then perceived
    else if isPlausible info.blockHeight perceived.blockHeight = false then perceived
    else ⟨info.epoch, info.blockHeight⟩

structure SolanaQoS where
  endpoints : GoMap EndpointAddr Endpoint
  perceivedEpoch : ℕ
  height : SharedHeight
  redis : ℕ
  updated : List (GoMap EndpointAddr Endpoint)

def SolanaQoS.start (redis : ℕ) : SolanaQoS := ⟨∅, 0, {}, redis, []⟩

inductive Action where
  | updateFromExtractedData (addr : EndpointAddr) (data : ExtractedData)
  | updateEndpointsFromObservations (observations : List (EndpointAddr × Observation))
  | updateFromEndpoints (i : ℕ) (order : List EndpointAddr)
  | filterValidEndpoints (availableEndpoints : List EndpointAddr)
  | syncEndpointBlocks (heights : GoMap EndpointAddr ℕ)
  | sweepStaleEndpoints
  | share (a : ShareAction)
  | otherReplica (blockNumber : ℕ)

structure Event where
  now : Time
  action : Action

namespace SolanaQoS

variable (cfg : Config) (q : SolanaQoS) (now : Time)

def perceived : Perceived := ⟨q.perceivedEpoch, q.height.perceived⟩

/-- A health check without a height leaves the perceived height as it is. -/
def updateFromExtractedData (addr : EndpointAddr) (data : ExtractedData) : SolanaQoS :=
  if data.block = none ∧ data.syncCheckPerformed = false then q
  else
    { q with
      endpoints := q.endpoints.insert addr
        (((q.endpoints.lookup addr).getD {}).updateFromExtractedData data)
      height := q.height.reportChecked cfg.sync (data.block.getD 0) }

variable (observations : List (EndpointAddr × Observation)) (order : List EndpointAddr)

def observed : GoMap EndpointAddr Endpoint × GoMap EndpointAddr Endpoint :=
  observations.foldl (observe Endpoint.applyObservation {}) (q.endpoints, ∅)

def adopted (updatedEndpoints : GoMap EndpointAddr Endpoint) (order : List EndpointAddr) :
    Perceived :=
  (order.filterMap (fun addr => updatedEndpoints.lookup addr)).foldl (adoptFrom now) q.perceived

def updateEndpointsFromObservations : SolanaQoS :=
  let r := q.observed observations
  { q with endpoints := r.1, updated := q.updated ++ [r.2] }

def updateFromEndpoints (i : ℕ) (order : List EndpointAddr) : Option SolanaQoS :=
  q.updated[i]?.bind (fun updatedEndpoints =>
    if order.Perm updatedEndpoints.keys then
      let perceived := q.adopted now updatedEndpoints order
      some { q with
        perceivedEpoch := perceived.epoch
        height := { q.height with perceived := perceived.blockHeight }
        updated := q.updated.eraseIdx i }
    else none)

/-- The two steps of one call with nothing in between. -/
def applyObservations : Option SolanaQoS :=
  (q.updateEndpointsFromObservations observations).updateFromEndpoints now q.updated.length order

def passes (addr : EndpointAddr) : Bool :=
  (q.endpoints.lookup addr).elim true
    (fun ep => (validateEndpoint cfg q.perceived now ep).isOk)

def filterValidEndpoints (availableEndpoints : List EndpointAddr) :
    Except String (List EndpointAddr) :=
  if availableEndpoints = [] then .error errEmptyEndpointList
  else .ok (availableEndpoints.filter (q.passes cfg now))

def act : Action → Option SolanaQoS
  | .updateFromExtractedData addr data => some (q.updateFromExtractedData cfg addr data)
  | .updateEndpointsFromObservations observations =>
    some (q.updateEndpointsFromObservations observations)
  | .updateFromEndpoints i order => q.updateFromEndpoints now i order
  | .filterValidEndpoints availableEndpoints =>
    some { q with endpoints := view.touchEndpoints now availableEndpoints q.endpoints }
  -- the background loop needs a reputation service
  | .syncEndpointBlocks heights =>
    if cfg.sync.reputationSvc then
      some { q with endpoints := syncEndpointBlocksFromRedis heights q.endpoints }
    else none
  | .sweepStaleEndpoints =>
    if cfg.sync.reputationSvc then
      some { q with endpoints := view.sweepStaleEndpoints now defaultEndpointTTL q.endpoints }
    else none
  | .share a =>
    (q.height.act cfg.sync q.redis now a).map (fun r => { q with height := r.1, redis := r.2 })
  | .otherReplica blockNumber => some { q with redis := max q.redis blockNumber }

def step (e : Event) : Option SolanaQoS := q.act cfg e.now e.action

variable {q now} {q' : SolanaQoS} {observations : List (EndpointAddr × Observation)} {i : ℕ}
  {order : List EndpointAddr}

theorem updateFromEndpoints_eq_some (h : q.updateFromEndpoints now i order = some q') :
    ∃ updatedEndpoints, q.updated[i]? = some updatedEndpoints ∧
      order.Perm updatedEndpoints.keys ∧
      q' = { q with
        perceivedEpoch := (q.adopted now updatedEndpoints order).epoch
        height := { q.height with
          perceived := (q.adopted now updatedEndpoints order).blockHeight }
        updated := q.updated.eraseIdx i } := by
  obtain ⟨updatedEndpoints, hi, h⟩ := bind_eq_some_iff.mp h
  obtain ⟨horder, heq⟩ := ite_none_right_eq_some.mp h
  exact ⟨updatedEndpoints, hi, horder, (some.inj heq).symm⟩

theorem applyObservations_eq_some (h : q.applyObservations now observations order = some q') :
    q'.endpoints = (q.observed observations).1 ∧
      q'.perceived = q.adopted now (q.observed observations).2 order := by
  obtain ⟨updatedEndpoints, hi, -, rfl⟩ := updateFromEndpoints_eq_some h
  rw [updateEndpointsFromObservations, List.getElem?_concat_length] at hi
  cases hi
  exact ⟨rfl, rfl⟩

end SolanaQoS

end PathGateway.Solana
