import PathGateway.BlockConsensus
import PathGateway.ScoreStore
import PathGateway.Selector

/-! Endpoint selection of the EVM service: what is known about an endpoint, the checks on it,
and the two entry points with their fallbacks. One selection reads the clock once. -/

namespace PathGateway.Evm

open Selector GoMap

structure EndpointCheckArchival where
  isArchival : Bool
  expiresAt : Option Time
  deriving DecidableEq, Repr

def EndpointCheckArchival.isValid (check : EndpointCheckArchival) (now : Time) : Bool :=
  check.isArchival && check.expiresAt.elim false (fun expiresAt => now < expiresAt)

/-- What the store holds about an endpoint; `none` is a nil pointer or the zero time. -/
structure Endpoint where
  invalidResponseLastObserved : Option Time := none
  hasReturnedEmptyResponse : Bool := false
  hasReturnedInvalidResponse : Bool := false
  invalidResponseError : String := "EVM_RESPONSE_VALIDATION_ERROR_UNSPECIFIED"
  parsedBlockNumberResponse : Option ℕ := none
  chainID : Option String := none
  checkArchival : EndpointCheckArchival := ⟨false, none⟩
  lastSeen : Option Time := none
  deriving DecidableEq, Repr

structure ArchivalCacheEntry where
  isArchival : Bool
  expiresAt : Time
  deriving DecidableEq, Repr

abbrev ArchivalCache := GoMap String ArchivalCacheEntry

namespace ArchivalCache

variable (cache : ArchivalCache) (key : String) (now : Time)

def get : Option Bool :=
  (cache.lookup key).bind (fun entry =>
    if entry.expiresAt < now then none else some entry.isArchival)

def set (isArchival : Bool) (ttl : ℕ) (now : Time) : ArchivalCache :=
  cache.insert key ⟨isArchival, now + ttl⟩

def cleanup : ArchivalCache := retain (fun _ entry => !decide (entry.expiresAt < now)) cache

end ArchivalCache

structure Config where
  net : NetLib
  settings : SelectionSettings
  serviceID : ServiceID
  evmChainID : String
  syncAllowance : ℕ
  maxOperatorShare : ℚ

def Config.plain : Config where
  net := .ascii
  settings := {}
  serviceID := "eth"
  evmChainID := ""
  syncAllowance := 0
  maxOperatorShare := 0

structure ServiceState where
  endpoints : GoMap EndpointAddr Endpoint
  perceivedBlockNumber : ℕ
  archivalCache : Option ArchivalCache
  redisURLBlockHeights : Option (GoMap String ℕ)

inductive FailureReason where
  | emptyResponseHistory
  | recentInvalidResponse
  | blockNumberBehind
  | chainIDMismatch
  | noBlockNumberObservation
  | noChainIDObservation
  | archivalCheckFailed
  | unknown
  deriving DecidableEq, Repr

inductive ValidationError where
  | emptyResponse (ago : Option ℕ)
  | recentInvalidResponse (ago : ℕ) (empty : Bool) (responseError : String)
  | noBlockNumber (perceivedBlock : ℕ)
  | outsideSyncAllowance
  | noChainID
  | invalidChainID
  | notArchival (addr : EndpointAddr)
  deriving DecidableEq, Repr

def roundedMinutes (d : ℕ) : ℕ :=
  let q := d / Duration.minute
  let r := d % Duration.minute
  if 2 * r < Duration.minute ∨ 2 * r = Duration.minute ∧ q % 2 = 0 then q else q + 1

namespace ValidationError

def errEmptyResponseObs : String := "endpoint is invalid: history of empty responses"

def errRecentInvalidResponseObs : String := "endpoint is invalid: recent invalid response"

def errNoBlockNumberObs : String :=
  "endpoint has not had an observation of its response to a \"eth_blockNumber\" request"

def errOutsideSyncAllowanceBlockNumberObs : String :=
  "endpoint's block height is outside the sync allowance in response to a " ++
    "\"eth_blockNumber\" request"

def errNoChainIDObs : String :=
  "endpoint has not had an observation of its response to a \"eth_chainId\" request"

def errInvalidChainIDObs : String :=
  "endpoint returned an invalid response to a \"eth_chainId\" request"

def errEndpointNotArchival : String :=
  "endpoint has not been marked as archival-capable by health checks"

def filterError (layer addr reason cause : String) : String :=
  "[" ++ layer ++ "] endpoint " ++ addr ++ " filtered: " ++ reason ++ " (" ++ cause ++ ")"

def text : ValidationError → String
  | emptyResponse (some ago) => "recent empty response validation failed (" ++
      toString (roundedMinutes ago) ++ " minutes ago): " ++ errEmptyResponseObs
  | emptyResponse none => "empty response validation failed: " ++ errEmptyResponseObs
  | recentInvalidResponse ago empty responseError =>
      "recent invalid response validation failed (" ++ toString (roundedMinutes ago) ++
      " minutes ago): " ++ errRecentInvalidResponseObs ++ ". Empty response: " ++
      toString empty ++ ". Response validation error: " ++ responseError
  | noBlockNumber perceivedBlock =>
      "block number validation failed: no block number observation with perceived block " ++
      toString perceivedBlock ++ ": " ++ errNoBlockNumberObs
  | outsideSyncAllowance => "block number validation failed: " ++
      filterError "reputation" "" "block_behind_threshold" errOutsideSyncAllowanceBlockNumberObs
  | noChainID => "chain ID validation failed: " ++ errNoChainIDObs
  | invalidChainID => "chain ID validation failed: " ++
      filterError "local_store" "" "chain_id_mismatch" errInvalidChainIDObs
  | notArchival addr => filterError "archival" addr "archival_check_failed" errEndpointNotArchival

def categorize (err : ValidationError) : FailureReason :=
  match err with
  | emptyResponse _ => .emptyResponseHistory
  | recentInvalidResponse .. => .recentInvalidResponse
  | outsideSyncAllowance => .blockNumberBehind
  | invalidChainID => .chainIDMismatch
  | noBlockNumber _ => .noBlockNumberObservation
  | noChainID => .noChainIDObservation
  | notArchival _ =>
    if GoStrings.contains err.text "archival" then .archivalCheckFailed else .unknown

end ValidationError

structure ValidationResult where
  endpointAddr : EndpointAddr
  success : Bool
  failureReason : Option FailureReason
  failureDetails : Option String
  deriving DecidableEq, Repr

inductive SelectionError where
  | emptyEndpointList
  | noArchivalEndpoints
  | noFallbackEndpoints
  deriving DecidableEq, Repr

def SelectionError.text : SelectionError → String
  | emptyEndpointList => "received empty list of endpoints to select from"
  | noArchivalEndpoints => "no archival-capable endpoints available for archival request"
  | noFallbackEndpoints => "no endpoints available for fallback selection"

def invalidResponseTimeout : ℕ := 5 * Duration.minute

def minAllowedBlockNumber (perceivedBlock syncAllowance : ℕ) : ℕ :=
  if perceivedBlock ≤ syncAllowance then 0 else perceivedBlock - syncAllowance

def getURL (addr : EndpointAddr) : Option String :=
  GoStrings.after '-' addr

def archivalKey (cfg : Config) (addr : EndpointAddr) : String :=
  (EndpointKey.mk cfg.serviceID addr .jsonRPC).string

namespace ServiceState

variable (cfg : Config) (ss : ServiceState) (now : Time)

def keepLower (heights : GoMap String ℕ) (url : String) (h : ℕ) : GoMap String ℕ :=
  match heights.lookup url with
  | some existing => if h < existing then heights.insert url h else heights
  | none => heights.insert url h

def buildURLBlockHeightMap : GoMap String ℕ :=
  let stored := ss.endpoints.entries.foldl (fun heights entry =>
    match entry.2.parsedBlockNumberResponse, getURL entry.1 with
    | some h, some url => keepLower heights url h
    | _, _ => heights) ∅
  match ss.redisURLBlockHeights with
  | none => stored
  | some cached =>
    cached.entries.foldl (fun heights entry => keepLower heights entry.1 entry.2) stored

variable (availableEndpoints : List EndpointAddr) (requiresArchival : Bool) (addr : EndpointAddr)

def urlBlock : Option ℕ := (getURL addr).bind (fun url => ss.buildURLBlockHeightMap.lookup url)

def isBlockNumberValid (parsedBlockNumberResponse : Option ℕ) : Except ValidationError Unit :=
  if cfg.syncAllowance = 0 ∨ ss.perceivedBlockNumber = 0 then .ok ()
  else
    match parsedBlockNumberResponse with
    | none => .error (.noBlockNumber ss.perceivedBlockNumber)
    | some parsed =>
      if parsed < minAllowedBlockNumber ss.perceivedBlockNumber cfg.syncAllowance then
        .error .outsideSyncAllowance
      else .ok ()

def isChainIDValid (chainID : Option String) : Except ValidationError Unit :=
  if cfg.evmChainID = "" then .ok ()
  else
    match chainID with
    | none => .error .noChainID
    | some id => if id ≠ cfg.evmChainID then .error .invalidChainID else .ok ()

def cachedArchival : Bool :=
  ss.archivalCache.elim false (fun cache => cache.get (archivalKey cfg addr) now = some true)

def checkResponses (ep : Endpoint) : Except ValidationError Unit := do
  match ep.hasReturnedEmptyResponse, ep.invalidResponseLastObserved with
  | true, some seen =>
    if now < seen + invalidResponseTimeout then .error (.emptyResponse (some (now - seen)))
  | true, none => .error (.emptyResponse none)
  | false, _ => pure ()
  match ep.hasReturnedInvalidResponse, ep.invalidResponseLastObserved with
  | true, some seen =>
    if now < seen + invalidResponseTimeout then
      .error (.recentInvalidResponse (now - seen) ep.hasReturnedEmptyResponse
        ep.invalidResponseError)
  | _, _ => pure ()

def checkArchival (addr : EndpointAddr) (ep : Endpoint) : Except ValidationError Unit :=
  if ep.checkArchival.isValid now || ss.cachedArchival cfg now addr then .ok ()
  else .error (.notArchival addr)

def basicEndpointValidation
    (ep : Endpoint) (requiresArchival : Bool) : Except ValidationError Unit := do
  checkResponses now ep
  ss.isBlockNumberValid cfg ep.parsedBlockNumberResponse
  isChainIDValid cfg ep.chainID
  if requiresArchival then ss.checkArchival cfg now addr ep

def checkFresh (requiresArchival : Bool) : Except (FailureReason × String) Unit :=
  if requiresArchival && ss.archivalCache.elim false (fun cache => !isEmpty cache) &&
      !ss.cachedArchival cfg now addr then
    .error (.archivalCheckFailed, "fresh endpoint not confirmed archival in cache")
  else if cfg.syncAllowance = 0 ∨ ss.perceivedBlockNumber = 0 then .ok ()
  else
    match ss.urlBlock addr with
    | none => .ok ()
    | some urlBlock =>
      if urlBlock < minAllowedBlockNumber ss.perceivedBlockNumber cfg.syncAllowance then
        .error (.blockNumberBehind, "fresh endpoint URL block height " ++ toString urlBlock ++
          " is " ++ toString (ss.perceivedBlockNumber - urlBlock) ++ " blocks behind perceived " ++
          toString ss.perceivedBlockNumber)
      else .ok ()

def validateEndpoint : Except (FailureReason × String) Unit :=
  match ss.endpoints.lookup addr with
  | none => ss.checkFresh cfg now addr requiresArchival
  | some ep =>
    (ss.basicEndpointValidation cfg now addr ep requiresArchival).mapError
      (fun err => (err.categorize, err.text))

def validationResult : ValidationResult :=
  match ss.validateEndpoint cfg now requiresArchival addr with
  | .ok _ => ⟨addr, true, none, none⟩
  | .error (reason, details) => ⟨addr, false, some reason, some details⟩

def filterValidEndpointsWithDetails :
    Except SelectionError (List EndpointAddr × List ValidationResult) :=
  if availableEndpoints = [] then .error .emptyEndpointList
  else .ok (availableEndpoints.filter
      (fun addr => (ss.validateEndpoint cfg now requiresArchival addr).isOk),
    availableEndpoints.map (ss.validationResult cfg now requiresArchival))

def touchEndpoints (addrs : List EndpointAddr) : ServiceState :=
  { ss with endpoints := addrs.foldl (fun endpoints addr =>
      match endpoints.lookup addr with
      | some ep => endpoints.insert addr { ep with lastSeen := some now }
      | none => endpoints) ss.endpoints }

def filterStaleURLEndpoints (endpoints : List EndpointAddr) : List EndpointAddr :=
  if cfg.syncAllowance = 0 ∨ ss.perceivedBlockNumber = 0 ∨
      isEmpty ss.buildURLBlockHeightMap then endpoints
  else
    let minAllowed := minAllowedBlockNumber ss.perceivedBlockNumber cfg.syncAllowance
    let filtered := endpoints.filter
      (fun ep => !(ss.urlBlock ep).elim false (fun urlBlock => urlBlock < minAllowed))
    if filtered = [] then endpoints else filtered

structure Scored where
  addr : EndpointAddr
  blocksBehind : ℕ
  hasData : Bool
  deriving DecidableEq, Repr

def maxUint64 : ℕ := 2 ^ 64 - 1

def score : Scored :=
  match ss.urlBlock addr with
  | none => ⟨addr, maxUint64, false⟩
  | some h =>
    ⟨addr, if ss.perceivedBlockNumber ≤ h then 0 else ss.perceivedBlockNumber - h, true⟩

def Scored.less (a b : Scored) : Bool :=
  if a.hasData ≠ b.hasData then a.hasData else a.blocksBehind < b.blocksBehind

def hasChainContext : Bool :=
  cfg.syncAllowance ≠ 0 && ss.perceivedBlockNumber ≠ 0 && !isEmpty ss.buildURLBlockHeightMap

def selectLeastStaleEndpoints (numEndpoints : ℕ) : Draws (List EndpointAddr) :=
  let n := if numEndpoints = 0 then 1 else numEndpoints
  if availableEndpoints = [] then pure []
  else if !ss.hasChainContext cfg then
    randomSelectMultiple (ss.filterStaleURLEndpoints cfg availableEndpoints) n
  else do
    let shuffled ← Draws.shuffle (availableEndpoints.map ss.score)
    let ranked := shuffled.insertionSort (fun a b => b.less a = false)
    pure ((ranked.take n).map Scored.addr)

def filterArchivalEndpointsForFallback : List EndpointAddr :=
  availableEndpoints.filter (fun addr =>
    (ss.endpoints.lookup addr).elim false (fun ep => ep.checkArchival.isValid now) ||
      ss.cachedArchival cfg now addr)

def selectMultipleWithArchival (numEndpoints : ℕ)
    (requiresArchival : Bool) : Draws (Except SelectionError (List EndpointAddr)) :=
  match ss.filterValidEndpointsWithDetails cfg now availableEndpoints requiresArchival with
  | .error err => pure (.error err)
  | .ok ([], _) =>
    if requiresArchival then
      match ss.filterArchivalEndpointsForFallback cfg now availableEndpoints with
      | [] => pure (.error .noArchivalEndpoints)
      | ep :: eps => do
        let picked ← ss.selectLeastStaleEndpoints cfg (ep :: eps) numEndpoints
        pure (.ok picked)
    else do
      let picked ← ss.selectLeastStaleEndpoints cfg availableEndpoints numEndpoints
      pure (.ok picked)
  | .ok (ep :: eps, _) => do
    let selected ← selectDiverse cfg.net cfg.settings cfg.serviceID (ep :: eps)
      numEndpoints
    pure (.ok selected)

structure EndpointSelectionResult where
  selectedEndpoint : EndpointAddr
  randomEndpointFallback : Bool
  validationResults : List ValidationResult
  deriving DecidableEq, Repr

def selectWithMetadata : Draws (Except SelectionError EndpointSelectionResult) :=
  match ss.filterValidEndpointsWithDetails cfg now availableEndpoints requiresArchival with
  | .error err => pure (.error err)
  | .ok ([], validationResults) => do
    let picked ← ss.selectLeastStaleEndpoints cfg availableEndpoints 1
    match picked with
    | [] => pure (.error .noFallbackEndpoints)
    | ep :: _ => pure (.ok ⟨ep, true, validationResults⟩)
  | .ok (ep :: eps, validationResults) => do
    let selected ← selectWithConcentrationCap cfg.net cfg.settings cfg.serviceID (ep :: eps)
      cfg.maxOperatorShare
    pure (.ok ⟨selected, false, validationResults⟩)

end ServiceState

end PathGateway.Evm
