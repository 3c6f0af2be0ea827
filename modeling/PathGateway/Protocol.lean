import PathGateway.Reputation

/-! The protocol instance an endpoint lookup reads: the operator's configuration,
the exclusion lists, and the reputation service with its tiered selectors. -/

namespace PathGateway

/-- What one lookup reads from outside: the library functions, the clock and the
draw that routes a share of the traffic to probation. -/
structure Env where
  net : NetLib
  now : Time
  draw : Fin 100

structure ServiceConfig where
  id : ServiceID
  rpcTypeFallbacks : Option (GoMap String String)
  blockedSuppliers : List String
  websocketHTTPScoreFloor : Option Bool

structure UnifiedServicesConfig where
  services : List ServiceConfig
  defaultWebsocketHTTPScoreFloor : Option Bool

def UnifiedServicesConfig.getServiceConfig (c : UnifiedServicesConfig) (serviceID : ServiceID) :
    Option ServiceConfig :=
  c.services.find? (fun s => s.id == serviceID)

structure RelayMinerConfig where
  url : String
  supplierAddr : String

inductive LoadTestingConfig where
  | backendService (url : String)
  | relayMiner (config : RelayMinerConfig)

/-- Without a reputation service there are no selectors either, and a service that is
there is an enabled one: both are set up together. -/
structure Protocol where
  unifiedServicesConfig : Option UnifiedServicesConfig
  loadTestingConfig : Option LoadTestingConfig
  blockedDomains : Option DomainBlocklist
  endpointPolicy : EndpointPolicy
  supplierBlacklist : Option SupplierBlacklist
  sessionExhaustion : Option SessionExhaustionTracker
  reputationService : Option ReputationService
  tieredSelector : Option TieredSelector
  serviceTieredSelectors : GoMap ServiceID TieredSelector
  sessionEndpointsCache : SessionEndpointsCache
  selectors_scored : reputationService = none →
    tieredSelector = none ∧ serviceTieredSelectors = ∅
  reputation_enabled : ∀ svc, reputationService = some svc → svc.enabled = true

namespace Protocol

variable (p : Protocol)

def getServiceConfig (serviceID : ServiceID) : Option ServiceConfig :=
  p.unifiedServicesConfig.bind (fun c => c.getServiceConfig serviceID)

def getRPCTypeFallback (net : NetLib) (serviceID : ServiceID) (requested : RPCType) :
    Option RPCType :=
  match (p.getServiceConfig serviceID).bind ServiceConfig.rpcTypeFallbacks with
  | none => none
  | some fallbacks =>
    match (fallbacks.lookup requested.name).or (fallbacks.lookup requested.label) with
    | none => none
    | some s =>
      let t := RPCType.ofName (net.toUpper s)
      if t = .unknownRPC then none else some t

variable (serviceID : ServiceID)

def getBlockedSuppliers : List String :=
  ((p.getServiceConfig serviceID).map ServiceConfig.blockedSuppliers).getD []

def defaultWebsocketHTTPScoreFloor : Bool := true

def applyWebsocketHTTPScoreFloor : Bool :=
  (((p.getServiceConfig serviceID).bind ServiceConfig.websocketHTTPScoreFloor).or
    (p.unifiedServicesConfig.bind UnifiedServicesConfig.defaultWebsocketHTTPScoreFloor)).getD
    defaultWebsocketHTTPScoreFloor

def getTieredSelectorForService : Option TieredSelector :=
  (p.serviceTieredSelectors.lookup serviceID).or p.tieredSelector

def getMinThresholdForService : ℚ :=
  ((p.getTieredSelectorForService serviceID).map TieredSelector.minThreshold).getD
    defaultMinThreshold

def shouldApplyTieredSelection (filterByReputation : Bool) (allowedSuppliers : List String)
    (t : RPCType) : Bool :=
  filterByReputation && allowedSuppliers.isEmpty && decide (t ≠ .websocket) &&
    p.tieredSelector.any (fun s => s.config.enabled)

def effectiveAllowedSuppliers (allowedSuppliers : List String) : List String :=
  if allowedSuppliers = [] then
    match p.loadTestingConfig with
    | some (.relayMiner c) => if c.supplierAddr = "" then [] else [c.supplierAddr]
    | _ => []
  else allowedSuppliers

theorem getTieredSelectorForService_eq_none {p : Protocol} (h : p.reputationService = none)
    (serviceID : ServiceID) : p.getTieredSelectorForService serviceID = none := by
  obtain ⟨ht, hs⟩ := p.selectors_scored h
  simp [getTieredSelectorForService, ht, hs]

theorem getMinThresholdForService_eq {p : Protocol} {serviceID : ServiceID} {s : TieredSelector}
    (h : p.getTieredSelectorForService serviceID = some s) :
    p.getMinThresholdForService serviceID = s.minThreshold := by
  simp [getMinThresholdForService, h]

end Protocol

end PathGateway
