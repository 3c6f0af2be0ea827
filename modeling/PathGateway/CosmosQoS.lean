import PathGateway.EndpointStores
import PathGateway.SharedHeight

/-! The Cosmos service of one replica: the checks on an endpoint, the store of observations, and
the perceived height with every path that changes it. A section under a lock is one step. Applying
observations takes two locks one after the other, so it is two steps. -/

namespace PathGateway.Cosmos

def defaultEndpointTTL : ℕ := 120 * Duration.minute

def invalidResponseTimeout : ℕ := 30 * Duration.minute

structure CometBFTStatus where
  chainID : Option String := none
  catchingUp : Option Bool := none
  latestBlockHeight : Option ℕ := none
  deriving DecidableEq, Repr

structure Endpoint where
  hasReturnedEmptyResponse : Bool := false
  hasReturnedInvalidResponse : Bool := false
  hasReturnedUnmarshalingError : Bool := false
  invalidResponseLastObserved : Option Time := none
  checkCometBFTStatus : CometBFTStatus := {}
  checkCometBFTHealth : Option Bool := none
  checkCosmosStatus : Option ℕ := none
  checkEVMChainID : Option String := none
  lastSeen : Option Time := none
  deriving DecidableEq, Repr

structure Config where
  cosmosSDKChainID : String
  evmChainID : String
  syncAllowance : ℕ
  supportedAPIs : List RPCType
  sync : SyncConfig

section Errors

def errEmptyResponseObs : String := "endpoint is invalid: history of empty responses"

def errRecentInvalidResponseObs : String := "endpoint is invalid: recent invalid response"

def errOutsideSyncAllowanceBlockNumberObs : String :=
  "endpoint block number is outside sync allowance"

def errNoObs (kind request : String) : String :=
  "endpoint has not had an observation of its response to a " ++ kind ++ "'\"" ++ request ++
    "\"' request"

def errInvalidObs (kind request : String) : String :=
  "endpoint returned an invalid response to a " ++ kind ++ "'\"" ++ request ++ "\"' request"

def errNoHealthObs : String := errNoObs "CometBFT " "health"

def errInvalidHealthObs : String := errInvalidObs "CometBFT " "health"

def errNoCometBFTStatusObs : String := errNoObs "CometBFT " "status"

def errInvalidCometBFTStatusObs : String := errInvalidObs "CometBFT " "status"

def errInvalidCometBFTChainIDObs : String :=
  "endpoint returned an invalid chain ID in its response to a CometBFT '\"status\"' request"

def errCatchingUpCometBFTObs : String :=
  "endpoint is catching up to the network in its response to a CometBFT '\"status\"' request"

def errNoCosmosStatusObs : String := errNoObs "Cosmos SDK " "/cosmos/base/node/v1beta1/status"

def errInvalidCosmosStatusObs : String :=
  errInvalidObs "Cosmos SDK " "/cosmos/base/node/v1beta1/status"

def errNoEVMChainIDObs : String :=
  "endpoint has not had an observation of its response to a \"eth_chainId\" request"

def errInvalidEVMChainIDObs : String :=
  "endpoint returned an invalid response to a \"eth_chainId\" request"

def errEmptyEndpointListObs : String := "received empty list of endpoints to select from"

end Errors

def within (context : String) (check : Except String Unit) : Except String Unit :=
  check.mapError (fun err => context ++ ": " ++ err)

section Validation

variable (cfg : Config) (now : Time) (perceived : ℕ)

def observedHeight (noObs invalidObs : String) : Option ℕ → Except String ℕ
  | none => .error noObs
  | some 0 => .error invalidObs
  | some (h + 1) => .ok (h + 1)

variable (check : CometBFTStatus) (ep : Endpoint)

def CometBFTStatus.getLatestBlockHeight : Except String ℕ :=
  observedHeight errNoCometBFTStatusObs errInvalidCometBFTStatusObs check.latestBlockHeight

def CometBFTStatus.getChainID : Except String String :=
  match check.chainID with
  | none => .error errNoCometBFTStatusObs
  | some chainID => if chainID = "" then .error errInvalidCometBFTStatusObs else .ok chainID

def CometBFTStatus.getCatchingUp : Except String Bool :=
  match check.catchingUp with
  | none => .error errNoCometBFTStatusObs
  | some catchingUp => .ok catchingUp

def isCometBFTHealthValid : Option Bool → Except String Unit
  | none => .error (errNoHealthObs ++ ": " ++ errNoHealthObs)
  | some false => .error (errInvalidHealthObs ++ ": endpoint reported unhealthy status")
  | some true => .ok ()

def isCometBFTStatusValid : Except String Unit := do
  let chainID ← check.getChainID.mapError (fun err => errNoCometBFTStatusObs ++ ": " ++ err)
  if chainID ≠ cfg.cosmosSDKChainID then
    .error (errInvalidCometBFTChainIDObs ++ ": chain ID " ++ chainID ++
      " does not match expected chain ID " ++ cfg.cosmosSDKChainID)
  let catchingUp ← check.getCatchingUp.mapError (fun err => errNoCometBFTStatusObs ++ ": " ++ err)
  if catchingUp then
    .error (errCatchingUpCometBFTObs ++ ": endpoint is catching up to the network")

def validateBlockHeightSyncAllowance (latestBlockHeight : ℕ) : Except String Unit :=
  if cfg.syncAllowance = 0 ∨ perceived = 0 ∨ latestBlockHeight = 0 then .ok ()
  else
    let minAllowedBlockNumber := Evm.minAllowedBlockNumber perceived cfg.syncAllowance
    if latestBlockHeight < minAllowedBlockNumber then
      .error (errOutsideSyncAllowanceBlockNumberObs ++ ": block number " ++
        toString latestBlockHeight ++
        " is outside the sync allowance relative to min allowed block number " ++
        toString minAllowedBlockNumber ++ " and sync allowance " ++ toString cfg.syncAllowance)
    else .ok ()

def isCometBFTBlockHeightValid : Except String Unit := do
  let latestBlockHeight ←
    check.getLatestBlockHeight.mapError (fun err => errNoCometBFTStatusObs ++ ": " ++ err)
  within "cometBFT block height sync allowance validation failed"
    (validateBlockHeightSyncAllowance cfg perceived latestBlockHeight)

def validateEndpointCometBFTChecks : Except String Unit := do
  within "cometBFT health validation failed" (isCometBFTHealthValid ep.checkCometBFTHealth)
  within "cometBFT status validation failed" (isCometBFTStatusValid cfg ep.checkCometBFTStatus)
  within "cometBFT block height validation failed"
    (isCometBFTBlockHeightValid cfg perceived ep.checkCometBFTStatus)

def isCosmosStatusValid (latestBlockHeight : Option ℕ) : Except String Unit := do
  let latestBlockHeight ←
    (observedHeight errNoCosmosStatusObs errInvalidCosmosStatusObs latestBlockHeight).mapError
      (fun err => errNoCosmosStatusObs ++ ": " ++ err)
  within "cosmos SDK block height sync allowance validation failed"
    (validateBlockHeightSyncAllowance cfg perceived latestBlockHeight)

def validateEndpointCosmosSDKChecks : Except String Unit :=
  within "cosmos SDK status validation failed"
    (isCosmosStatusValid cfg perceived ep.checkCosmosStatus)

def isEVMChainIDValid : Option String → Except String Unit
  | none => .error errNoEVMChainIDObs
  | some evmChainID =>
    if evmChainID ≠ cfg.evmChainID then
      .error (errInvalidEVMChainIDObs ++ ": chain ID " ++ evmChainID ++
        " does not match expected chain ID " ++ cfg.evmChainID)
    else .ok ()

def validateEndpointEVMChecks : Except String Unit :=
  within "EVM chain ID validation failed" (isEVMChainIDValid cfg ep.checkEVMChainID)

def checkRecent (what : String) (marked : Bool) (lastObserved : Option Time) :
    Except String Unit :=
  match marked, lastObserved with
  | true, some seen =>
    if now < seen + invalidResponseTimeout then
      .error ("recent " ++ what ++ " validation failed (" ++
        toString (Evm.roundedMinutes (now - seen)) ++ " minutes ago): " ++
        errRecentInvalidResponseObs)
    else .ok ()
  | _, _ => .ok ()

def checkResponses : Except String Unit := do
  if ep.hasReturnedEmptyResponse then
    .error ("empty response validation failed: " ++ errEmptyResponseObs)
  checkRecent now "unmarshaling error" ep.hasReturnedUnmarshalingError
    ep.invalidResponseLastObserved
  checkRecent now "response" ep.hasReturnedInvalidResponse ep.invalidResponseLastObserved

def basicEndpointValidation : Except String Unit := do
  checkResponses now ep
  if .cometBFT ∈ cfg.supportedAPIs then
    within "cometBFT validation failed" (validateEndpointCometBFTChecks cfg perceived ep)
  if .rest ∈ cfg.supportedAPIs then
    within "cosmos SDK validation failed" (validateEndpointCosmosSDKChecks cfg perceived ep)
  if .jsonRPC ∈ cfg.supportedAPIs then
    within "EVM validation failed" (validateEndpointEVMChecks cfg ep)

end Validation

/-- What the observation pipeline has found out about a response. -/
structure ExtractedData where
  blockHeight : ℤ := 0
  invalidBlockHeight : Bool := false
  deriving DecidableEq, Repr

def ExtractedData.block (data : ExtractedData) : Option ℕ :=
  extractedHeight data.blockHeight data.invalidBlockHeight

inductive ResponseError where
  | empty
  | unmarshal
  | other
  deriving DecidableEq, Repr

/-- An observation of a relay; `unset` is one without a result or of no known kind. -/
inductive Observation where
  | validationError (err : ResponseError)
  | cometBFTHealth (healthStatus : Bool)
  | cometBFTStatus (chainID : String) (catchingUp : Bool) (latestBlockHeight : String)
  | cosmosSDKStatus (latestBlockHeight : ℕ)
  | evmChainID (chainID : String)
  | unset
  deriving DecidableEq, Repr

def parseBlockHeightResponse (response : String) : ℕ :=
  let digits := response.toList
  let n := digits.foldl (fun n c => 10 * n + (c.toNat - '0'.toNat)) 0
  if digits.all Char.isDigit && n < 2 ^ 64 then n else 0

def Endpoint.applyObservation (ep : Endpoint) (now : Time) : Observation → Option Endpoint
  | .validationError err =>
    some { ep with
      hasReturnedInvalidResponse := true
      invalidResponseLastObserved := some now
      hasReturnedEmptyResponse := ep.hasReturnedEmptyResponse || err = .empty
      hasReturnedUnmarshalingError := ep.hasReturnedUnmarshalingError || err = .unmarshal }
  | .cometBFTHealth healthStatus => some { ep with checkCometBFTHealth := some healthStatus }
  | .cometBFTStatus chainID catchingUp latestBlockHeight =>
    some { ep with
      checkCometBFTStatus := ⟨some chainID, some catchingUp,
        some (parseBlockHeightResponse latestBlockHeight)⟩ }
  | .cosmosSDKStatus latestBlockHeight =>
    some { ep with checkCosmosStatus := some latestBlockHeight }
  | .evmChainID chainID => some { ep with checkEVMChainID := some chainID }
  | .unset => none

def Observation.reports : Observation → ℕ
  | .cometBFTStatus _ _ latestBlockHeight => parseBlockHeightResponse latestBlockHeight
  | _ => 0

def view : HeightView Endpoint where
  lastSeen := Endpoint.lastSeen
  touch now ep := { ep with lastSeen := some now }
  hasHeight ep := ep.checkCometBFTStatus.latestBlockHeight.isSome
  setHeight h ep :=
    { ep with checkCometBFTStatus := { ep.checkCometBFTStatus with latestBlockHeight := some h } }
  create now h := { checkCometBFTStatus := { latestBlockHeight := some h }, lastSeen := some now }
  lastSeen_touch _ _ := rfl
  lastSeen_setHeight _ _ := rfl
  lastSeen_create _ _ := rfl

structure CosmosQoS where
  endpoints : GoMap EndpointAddr Endpoint
  height : SharedHeight
  redis : ℕ
  updated : List (GoMap EndpointAddr Endpoint)

def CosmosQoS.start (redis : ℕ) : CosmosQoS := ⟨∅, {}, redis, []⟩

inductive Action where
  | updateFromExtractedData (addr : EndpointAddr) (data : ExtractedData)
  | updateEndpointsFromObservations (observations : List (EndpointAddr × Observation))
  | updateFromEndpoints (i : ℕ) (order : List EndpointAddr)
  | filterValidEndpoints (availableEndpoints : List EndpointAddr)
  | syncEndpointBlocks (heights : GoMap EndpointAddr ℕ)
  | sweepStaleEndpoints
  | share (a : ShareAction)
  | otherReplica (blockNumber : ℕ)

structure Event where
  now : Time
  action : Action

def Action.reports : Action → ℕ
  | .updateFromExtractedData _ data => data.blockHeight.toNat
  | .updateEndpointsFromObservations observations =>
    (observations.map (fun observation => observation.2.reports)).foldl max 0
  | .share a => a.reports
  | _ => 0

section Updates

variable (cfg : Config)

def raiseFrom (perceived : ℕ) (ep : Endpoint) : ℕ :=
  match isCometBFTStatusValid cfg ep.checkCometBFTStatus,
    ep.checkCometBFTStatus.getLatestBlockHeight with
  | .ok _, .ok blockNumber =>
    if perceived < blockNumber then
      if isPlausible blockNumber perceived = false then perceived else blockNumber
    else perceived
  | _, _ => perceived

def updateFromEndpoints (perceived : ℕ) (updatedEndpoints : List Endpoint) : ℕ :=
  updatedEndpoints.foldl (raiseFrom cfg) perceived

end Updates

namespace CosmosQoS

variable (cfg : Config) (q : CosmosQoS) (now : Time)

def updateFromExtractedData (addr : EndpointAddr) (data : ExtractedData) : CosmosQoS :=
  match data.block with
  | none => q
  | some blockNumber =>
    { q with
      endpoints := q.endpoints.insert addr
        (view.setHeight blockNumber ((q.endpoints.lookup addr).getD {}))
      height := q.height.report cfg.sync blockNumber }

def updateEndpointsFromObservations (observations : List (EndpointAddr × Observation)) :
    CosmosQoS :=
  let r := observations.foldl (observe (fun ep obs => ep.applyObservation now obs) {})
    (q.endpoints, ∅)
  { q with endpoints := r.1, updated := q.updated ++ [r.2] }

def visited (updatedEndpoints : GoMap EndpointAddr Endpoint) (order : List EndpointAddr) :
    List Endpoint :=
  order.filterMap (fun addr => updatedEndpoints.lookup addr)

def applyUpdate (i : ℕ) (order : List EndpointAddr) : Option CosmosQoS :=
  q.updated[i]?.bind (fun updatedEndpoints =>
    if order.Perm updatedEndpoints.keys then
      some { q with
        height := { q.height with
          perceived := updateFromEndpoints cfg q.height.perceived (visited updatedEndpoints order) }
        updated := q.updated.eraseIdx i }
    else none)

def passes (addr : EndpointAddr) : Bool :=
  (q.endpoints.lookup addr).elim true
    (fun ep => (basicEndpointValidation cfg now q.height.perceived ep).isOk)

def filterValidEndpoints (availableEndpoints : List EndpointAddr) :
    Except String (List EndpointAddr) :=
  if availableEndpoints = [] then .error errEmptyEndpointListObs
  else .ok (availableEndpoints.filter (q.passes cfg now))

def act : Action → Option CosmosQoS
  | .updateFromExtractedData addr data => some (q.updateFromExtractedData cfg addr data)
  | .updateEndpointsFromObservations observations =>
    some (q.updateEndpointsFromObservations now observations)
  | .updateFromEndpoints i order => q.applyUpdate cfg i order
  | .filterValidEndpoints availableEndpoints =>
    some { q with endpoints := view.touchEndpoints now availableEndpoints q.endpoints }
  -- the background loop needs a reputation service
  | .syncEndpointBlocks heights =>
    if cfg.sync.reputationSvc then
      some { q with endpoints := view.syncEndpointBlocksFromRedis now heights q.endpoints }
    else none
  | .sweepStaleEndpoints =>
    if cfg.sync.reputationSvc then
      some { q with endpoints := view.sweepStaleEndpoints now defaultEndpointTTL q.endpoints }
    else none
  | .share a =>
    (q.height.act cfg.sync q.redis now a).map (fun r => { q with height := r.1, redis := r.2 })
  | .otherReplica blockNumber => some { q with redis := max q.redis blockNumber }

def step (e : Event) : Option CosmosQoS := q.act cfg e.now e.action

end CosmosQoS

end PathGateway.Cosmos
