import PathGateway.Endpoint

/-! The operator's bans on endpoints, by domain, scheme, supplier and session
budget, and the filters that apply them to one session's endpoints. -/

namespace PathGateway

open GoMap

abbrev Time := Nat

variable (net : NetLib) (host : String)

def isLocalhost : Bool :=
  let lowercase := net.toLower host
  lowercase == "localhost" || lowercase == "localhost.localdomain" ||
    GoStrings.hasPrefix lowercase "localhost."

def isPrivateOrInternalDomain : Bool :=
  [".local", ".internal", ".corp", ".home", ".lan"].any
      (fun tld => GoStrings.hasSuffix (net.toLower host) tld) ||
    !GoStrings.contains host "."

def fallbackDomainExtraction : String :=
  let parts := GoStrings.split '.' host
  if parts.length = 1 then host
  else ".".intercalate (parts.drop (parts.length - 2))

def extractDomainOrHost (rawURL : String) : Option String :=
  if rawURL = "" then none
  else
    let urlToParse :=
      if GoStrings.contains rawURL "://" then rawURL else "https://" ++ rawURL
    match net.hostname urlToParse with
    | none => none
    | some host =>
      if host = "" then none
      else if net.isIP host || isLocalhost net host || isPrivateOrInternalDomain net host then
        some host
      else
        match net.effectiveTLDPlusOne host with
        | some etld => some etld
        | none => some (fallbackDomainExtraction host)

/-- Blocked domains with their banned RPC types; `none` bans every type. -/
structure DomainBlocklist where
  blocked : GoMap String (Option (List RPCType))

namespace DomainBlocklist

def computeMatchKey (b : DomainBlocklist) (net : NetLib) (rawURL : String) : String :=
  let host := (net.hostname rawURL).elim "" net.toLower
  if host ≠ "" ∧ (b.blocked.lookup host).isSome then host
  else
    match extractDomainOrHost net rawURL with
    | none => ""
    | some domain =>
      if (b.blocked.lookup (net.toLower domain)).isSome then net.toLower domain else ""

def isBlocked (b : Option DomainBlocklist) (net : NetLib) (rawURL : String) (t : RPCType) : Bool :=
  match b with
  | none => false
  | some b =>
    if rawURL = "" then false
    else
      let key := b.computeMatchKey net rawURL
      if key = "" then false
      else
        match b.blocked.lookup key with
        | some (some types) => types.contains t
        | _ => true

end DomainBlocklist

structure EndpointPolicy where
  requireHTTPS : Bool
  requireDomain : Bool
  deriving DecidableEq, Repr

def isSecureURL (rawURL : String) : Bool :=
  GoStrings.hasPrefix rawURL "https://" || GoStrings.hasPrefix rawURL "wss://"

variable (endpoints : EndpointMap) (net : NetLib) (requestedEndpointAddr : EndpointAddr)

def isRawIP (rawURL : String) : Bool :=
  match net.hostname rawURL with
  | none => false
  | some host => host ≠ "" && net.isIP host

def EndpointPolicy.allows (policy : EndpointPolicy) (net : NetLib) (url : String) : Bool :=
  (!policy.requireHTTPS || isSecureURL url) && (!policy.requireDomain || !isRawIP net url)

structure SupplierBlacklist where
  entries : GoMap (ServiceID × String) Time

def SupplierBlacklist.isBlacklisted (b : SupplierBlacklist) (now : Time)
    (serviceID : ServiceID) (supplier : String) : Bool :=
  match b.entries.lookup (serviceID, supplier) with
  | none => false
  | some expiresAt => !decide (expiresAt < now)

structure SessionExhaustionKey where
  serviceID : ServiceID
  sessionID : String
  supplier : String
  deriving DecidableEq, Repr

structure SessionExhaustionTracker where
  entries : GoMap SessionExhaustionKey Time

def sessionExhaustionTTL : Time := 30 * 60

def SessionExhaustionTracker.isExhausted (t : SessionExhaustionTracker) (now : Time)
    (serviceID : ServiceID) (sessionID supplier : String) : Bool :=
  if serviceID = "" || sessionID = "" || supplier = "" then false
  else
    match t.entries.lookup ⟨serviceID, sessionID, supplier⟩ with
    | none => false
    | some markedAt => decide (now - markedAt ≤ sessionExhaustionTTL)

def removeBlockedSuppliers (blockedSuppliers : List String) : EndpointMap :=
  endpoints.retain (fun _ ep => !blockedSuppliers.contains ep.supplier)

def removeBlockedDomains
    (blocklist : Option DomainBlocklist) (net : NetLib) (t : RPCType) : EndpointMap :=
  endpoints.retain (fun _ ep => !DomainBlocklist.isBlocked blocklist net (ep.judgedURL t) t)

def filterByEndpointPolicy (policy : EndpointPolicy) (net : NetLib) (endpoints : EndpointMap)
    (t : RPCType) : EndpointMap :=
  if !policy.requireHTTPS && !policy.requireDomain then endpoints
  else endpoints.retain (fun _ ep => policy.allows net (ep.judgedURL t))

def retainAllowedSuppliers
    (allowedSuppliers : List String) (requestedEndpointAddr : EndpointAddr) : EndpointMap :=
  endpoints.retain (fun addr _ =>
    allowedSuppliers.contains (supplierOfAddr addr) || addr == requestedEndpointAddr)

def removeBlacklistedSuppliers (isBlacklisted : String → Bool) : EndpointMap :=
  endpoints.retain (fun addr ep => !isBlacklisted ep.supplier || addr == requestedEndpointAddr)

def filterExhaustedSuppliers (isExhausted : Endpoint → Bool) : EndpointMap :=
  endpoints.retainOrAll (fun addr ep => addr == requestedEndpointAddr || !isExhausted ep)

variable {endpoints : EndpointMap} {ep : Endpoint}

variable {addr : EndpointAddr} {t : RPCType} {policy : EndpointPolicy}

@[simp] theorem lookup_removeBlockedSuppliers {blocked : List String} :
    (removeBlockedSuppliers endpoints blocked).lookup addr = some ep ↔
    endpoints.lookup addr = some ep ∧ ep.supplier ∉ blocked := by
  simp [removeBlockedSuppliers]

@[simp] theorem lookup_removeBlockedDomains {blocklist : Option DomainBlocklist} {net : NetLib} :
    (removeBlockedDomains endpoints blocklist net t).lookup addr = some ep ↔
    endpoints.lookup addr = some ep ∧
    DomainBlocklist.isBlocked blocklist net (ep.judgedURL t) t = false := by
  simp [removeBlockedDomains]

theorem EndpointPolicy.allows_of_off (h : (!policy.requireHTTPS && !policy.requireDomain) = true)
    (net : NetLib) (url : String) : policy.allows net url = true := by
  simp only [Bool.and_eq_true] at h
  simp [EndpointPolicy.allows, h.1, h.2]

@[simp] theorem lookup_filterByEndpointPolicy {net : NetLib} :
    (filterByEndpointPolicy policy net endpoints t).lookup addr = some ep ↔
    endpoints.lookup addr = some ep ∧ policy.allows net (ep.judgedURL t) = true := by
  rw [filterByEndpointPolicy]
  split_ifs with h
  · simp [EndpointPolicy.allows_of_off h]
  · simp

variable {requested addr : EndpointAddr}

@[simp] theorem lookup_retainAllowedSuppliers {allowed : List String} :
    (retainAllowedSuppliers endpoints allowed requested).lookup addr = some ep ↔
    endpoints.lookup addr = some ep ∧ (supplierOfAddr addr ∈ allowed ∨ addr = requested) := by
  simp [retainAllowedSuppliers]

@[simp] theorem lookup_removeBlacklistedSuppliers {isBlacklisted : String → Bool} :
    (removeBlacklistedSuppliers endpoints requested isBlacklisted).lookup addr = some ep ↔
    endpoints.lookup addr = some ep ∧ (isBlacklisted ep.supplier = false ∨ addr = requested) := by
  simp [removeBlacklistedSuppliers]

theorem lookup_of_filterExhaustedSuppliers {isExhausted : Endpoint → Bool}
    (h : (filterExhaustedSuppliers endpoints requested isExhausted).lookup addr = some ep) :
    endpoints.lookup addr = some ep :=
  (lookup_retainOrAll_eq_some.mp h).1

@[simp] theorem isEmpty_filterExhaustedSuppliers {requested : EndpointAddr}
    {isExhausted : Endpoint → Bool} :
    isEmpty (filterExhaustedSuppliers endpoints requested isExhausted) = isEmpty endpoints :=
  isEmpty_retainOrAll

end PathGateway
