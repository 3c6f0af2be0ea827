import PathGateway.ReputationFilter

/-! One session's share of an endpoint lookup: the RPC-type filter with its
configured fallback, the operator's bans, and the reputation filter. -/

namespace PathGateway

open GoMap

structure LookupRequest where
  serviceID : ServiceID
  filterByReputation : Bool
  filterByRPCType : RPCType
  allowedSuppliers : List String
  requestedEndpointAddr : EndpointAddr

namespace Protocol

variable (p : Protocol) (env : Env) (req : LookupRequest)

variable (actual : RPCType) (endpoints : EndpointMap)

def servingRequested : EndpointMap :=
  endpoints.retain (fun addr ep =>
    decide (ep.getURL req.filterByRPCType ≠ "") || addr == req.requestedEndpointAddr)

def servingFallback (fallback : RPCType) (endpoints : EndpointMap) : EndpointMap :=
  endpoints.retain (fun _ ep => decide (ep.getURL fallback ≠ ""))

def filterSessionByRPCType : Option (EndpointMap × RPCType) :=
  if req.filterByRPCType = .unknownRPC then some (endpoints, actual)
  else if (servingRequested req endpoints).isEmpty then
    match p.getRPCTypeFallback env.net req.serviceID req.filterByRPCType with
    | none => none
    | some fallback =>
      if (servingFallback fallback endpoints).isEmpty then none
      else some (servingFallback fallback endpoints, fallback)
  else some (servingRequested req endpoints, actual)

def applyBans : EndpointMap :=
  filterByEndpointPolicy p.endpointPolicy env.net
    (removeBlockedDomains
      (removeBlockedSuppliers endpoints (p.getBlockedSuppliers req.serviceID))
      p.blockedDomains env.net actual)
    req.filterByRPCType

def dropBlacklisted : EndpointMap :=
  match p.supplierBlacklist with
  | some b =>
    if req.filterByReputation then
      removeBlacklistedSuppliers endpoints req.requestedEndpointAddr
        (b.isBlacklisted env.now req.serviceID)
    else endpoints
  | none => endpoints

def dropExhausted : EndpointMap :=
  match p.sessionExhaustion with
  | some tracker =>
    if req.filterByReputation then
      filterExhaustedSuppliers endpoints req.requestedEndpointAddr
        (fun ep => tracker.isExhausted env.now req.serviceID ep.session.sessionId ep.supplier)
    else endpoints
  | none => endpoints

def reputationApplies : Bool :=
  req.filterByReputation && p.reputationService.isSome &&
    (p.effectiveAllowedSuppliers req.allowedSuppliers).isEmpty

def applyReputation (pool : EndpointMap) : Option EndpointMap :=
  if p.reputationApplies req then
    let filtered := p.filterByReputation env req.serviceID pool req.filterByRPCType
      req.requestedEndpointAddr
    if !filtered.isEmpty then some filtered
    else if req.filterByRPCType = .websocket then some pool
    else none
  else some pool

def retainNamedSuppliers : EndpointMap :=
  if (p.effectiveAllowedSuppliers req.allowedSuppliers).isEmpty then endpoints
  else
    retainAllowedSuppliers endpoints (p.effectiveAllowedSuppliers req.allowedSuppliers)
      req.requestedEndpointAddr

def selectFromVetted (vetted : EndpointMap) : Option EndpointMap :=
  let pool := p.retainNamedSuppliers req vetted
  if !(p.effectiveAllowedSuppliers req.allowedSuppliers).isEmpty && pool.isEmpty then none
  else p.applyReputation env req (p.dropExhausted env req (p.dropBlacklisted env req pool))

def processSession : Option EndpointMap × RPCType :=
  match p.filterSessionByRPCType env req actual endpoints with
  | none => (none, actual)
  | some (qualified, actual) =>
    (p.selectFromVetted env req (p.applyBans env req actual qualified), actual)

def fallsBack : Bool :=
  decide (req.filterByRPCType ≠ .unknownRPC) && (servingRequested req endpoints).isEmpty &&
    (p.getRPCTypeFallback env.net req.serviceID req.filterByRPCType).any
      (fun fallback => !(servingFallback fallback endpoints).isEmpty)

def fallbackType : RPCType :=
  (p.getRPCTypeFallback env.net req.serviceID req.filterByRPCType).getD req.filterByRPCType

def typeAfterSession : RPCType :=
  if p.fallsBack env req endpoints then p.fallbackType env req else actual

def served : EndpointMap :=
  if req.filterByRPCType = .unknownRPC then endpoints
  else if p.fallsBack env req endpoints then servingFallback (p.fallbackType env req) endpoints
  else servingRequested req endpoints

def vetted : EndpointMap :=
  p.applyBans env req (p.typeAfterSession env req actual endpoints) (p.served env req endpoints)

def survivors : EndpointMap := p.dropBlacklisted env req (p.vetted env req actual endpoints)

def sessionPool : EndpointMap :=
  p.dropExhausted env req (p.dropBlacklisted env req
    (p.retainNamedSuppliers req (p.vetted env req actual endpoints)))

def contribution : EndpointMap := ((p.processSession env req actual endpoints).1).getD ∅

theorem filterSessionByRPCType_eq (actual : RPCType) (endpoints : EndpointMap) :
    p.filterSessionByRPCType env req actual endpoints =
      some (p.served env req endpoints, p.typeAfterSession env req actual endpoints) ∨
      p.filterSessionByRPCType env req actual endpoints = none ∧
    p.served env req endpoints = ∅ ∧ p.fallsBack env req endpoints = false := by
  by_cases hu : req.filterByRPCType = .unknownRPC
  · exact .inl (by simp [filterSessionByRPCType, served, typeAfterSession, fallsBack, hu])
  cases he : (servingRequested req endpoints).isEmpty with
  | false =>
    exact .inl (by simp [filterSessionByRPCType, served, typeAfterSession, fallsBack, hu, he])
  | true =>
    have hempty := eq_empty_of_isEmpty he
    cases hf : p.getRPCTypeFallback env.net req.serviceID req.filterByRPCType with
    | none =>
      exact .inr (by simp [filterSessionByRPCType, served, fallsBack, hu, hf, hempty])
    | some fallback =>
      cases hfe : (servingFallback fallback endpoints).isEmpty with
      | true =>
        exact .inr (by simp [filterSessionByRPCType, served, fallsBack, hu, hf, hempty, hfe])
      | false =>
        exact .inl (by simp [filterSessionByRPCType, served, typeAfterSession, fallsBack,
          fallbackType, hu, hf, hempty, hfe])

variable {p env req} {actual : RPCType} {endpoints : EndpointMap} {addr : EndpointAddr}
  {ep : Endpoint}

@[simp] theorem applyBans_empty : p.applyBans env req actual ∅ = ∅ := by
  simp only [applyBans, filterByEndpointPolicy]
  split <;> rfl

@[simp] theorem dropBlacklisted_empty : p.dropBlacklisted env req ∅ = ∅ := by
  unfold dropBlacklisted
  split
  · split <;> rfl
  · rfl

@[simp] theorem dropExhausted_empty : p.dropExhausted env req ∅ = ∅ := by
  unfold dropExhausted
  split
  · split <;> rfl
  · rfl

@[simp] theorem isEmpty_dropExhausted :
    isEmpty (p.dropExhausted env req endpoints) = isEmpty endpoints := by
  unfold dropExhausted
  split
  · split
    · exact isEmpty_filterExhaustedSuppliers
    · rfl
  · rfl

theorem lookup_of_dropExhausted (h : (p.dropExhausted env req endpoints).lookup addr = some ep) :
    endpoints.lookup addr = some ep := by
  unfold dropExhausted at h
  split at h
  · split at h
    · exact lookup_of_filterExhaustedSuppliers h
    · exact h
  · exact h

theorem processSession_snd :
    (p.processSession env req actual endpoints).2 =
      p.typeAfterSession env req actual endpoints := by
  rcases p.filterSessionByRPCType_eq env req actual endpoints with h | ⟨h, -, hf⟩
  · simp [processSession, h]
  · simp [processSession, h, typeAfterSession, hf]

@[simp] theorem filterByReputation_empty {t : RPCType} {serviceID : ServiceID} :
    p.filterByReputation env serviceID ∅ t addr = ∅ :=
  eq_empty_of_isEmpty (by rw [isEmpty_filterByReputation, isEmpty_empty])

theorem applyReputation_getD :
    (p.applyReputation env req endpoints).getD ∅ = if p.reputationApplies req then
      p.filterByReputation env req.serviceID endpoints req.filterByRPCType req.requestedEndpointAddr
      else endpoints := by
  unfold applyReputation
  split
  · cases he : isEmpty (p.filterByReputation env req.serviceID endpoints
      req.filterByRPCType req.requestedEndpointAddr) with
    | false => simp [he]
    | true =>
      have hempty := eq_empty_of_isEmpty (isEmpty_filterByReputation ▸ he)
      subst hempty
      simp only [filterByReputation_empty, isEmpty_empty, Bool.not_true,
        Bool.false_eq_true, if_false]
      split <;> rfl
  · rfl

@[simp] theorem retainNamedSuppliers_empty : p.retainNamedSuppliers req ∅ = ∅ := by
  unfold retainNamedSuppliers
  split <;> rfl

theorem contribution_eq :
    p.contribution env req actual endpoints =
      if p.reputationApplies req then p.filterByReputation env req.serviceID
      (p.sessionPool env req actual endpoints) req.filterByRPCType req.requestedEndpointAddr
      else p.sessionPool env req actual endpoints := by
  rcases p.filterSessionByRPCType_eq env req actual endpoints with h | ⟨h, hs, -⟩
  · simp only [contribution, processSession, h, selectFromVetted]
    split
    · rename_i he
      rw [Bool.and_eq_true] at he
      rw [sessionPool, vetted, eq_empty_of_isEmpty he.2]
      simp
    · exact applyReputation_getD
  · simp [contribution, processSession, h, sessionPool, vetted, hs]

theorem lookup_served :
    (p.served env req endpoints).lookup addr = some ep ↔
      endpoints.lookup addr = some ep ∧ (req.filterByRPCType = .unknownRPC ∨
      (if p.fallsBack env req endpoints then ep.getURL (p.fallbackType env req) ≠ ""
      else ep.getURL req.filterByRPCType ≠ "" ∨ addr = req.requestedEndpointAddr)) := by
  by_cases hu : req.filterByRPCType = .unknownRPC
  · simp [served, hu]
  · cases hf : p.fallsBack env req endpoints with
    | true => simp [served, servingFallback, hu, hf]
    | false => simp [served, servingRequested, hu, hf]

theorem lookup_vetted :
    (p.vetted env req actual endpoints).lookup addr = some ep ↔
      (p.served env req endpoints).lookup addr = some ep ∧
      ep.supplier ∉ p.getBlockedSuppliers req.serviceID ∧
      DomainBlocklist.isBlocked p.blockedDomains env.net
      (ep.judgedURL (p.typeAfterSession env req actual endpoints))
      (p.typeAfterSession env req actual endpoints) = false ∧
      p.endpointPolicy.allows env.net (ep.judgedURL req.filterByRPCType) = true := by
  simp [vetted, applyBans, and_assoc]

theorem lookup_dropBlacklisted : (p.dropBlacklisted env req endpoints).lookup addr = some ep ↔
    endpoints.lookup addr = some ep ∧ ∀ b, p.supplierBlacklist = some b →
    req.filterByReputation = true → b.isBlacklisted env.now req.serviceID ep.supplier = false ∨
    addr = req.requestedEndpointAddr := by
  unfold dropBlacklisted
  split
  · rename_i b hb
    cases hr : req.filterByReputation <;> simp [hb]
  · rename_i hb
    simp [hb]

theorem lookup_retainNamedSuppliers : (p.retainNamedSuppliers req endpoints).lookup addr = some ep ↔
    endpoints.lookup addr = some ep ∧ (p.effectiveAllowedSuppliers req.allowedSuppliers = [] ∨
    supplierOfAddr addr ∈ p.effectiveAllowedSuppliers req.allowedSuppliers ∨
    addr = req.requestedEndpointAddr) := by
  by_cases ha : p.effectiveAllowedSuppliers req.allowedSuppliers = []
  · simp [retainNamedSuppliers, ha]
  · simp [retainNamedSuppliers, ha]

theorem vetted_of_sessionPool (h : (p.sessionPool env req actual endpoints).lookup addr = some ep) :
    (p.vetted env req actual endpoints).lookup addr = some ep :=
  (lookup_retainNamedSuppliers.mp (lookup_dropBlacklisted.mp (lookup_of_dropExhausted h)).1).1

theorem vetted_of_contribution
    (h : (p.contribution env req actual endpoints).lookup addr = some ep) :
    (p.vetted env req actual endpoints).lookup addr = some ep := by
  refine vetted_of_sessionPool ?_
  rw [contribution_eq] at h
  split at h
  · exact lookup_of_filterByReputation h
  · exact h

theorem isEmpty_sessionPool_eq_false :
    isEmpty (p.sessionPool env req actual endpoints) = false ↔
      ∃ a e, (p.survivors env req actual endpoints).lookup a = some e ∧
      (p.effectiveAllowedSuppliers req.allowedSuppliers = [] ∨ supplierOfAddr a ∈
      p.effectiveAllowedSuppliers req.allowedSuppliers ∨ a = req.requestedEndpointAddr) := by
  rw [sessionPool, isEmpty_dropExhausted, isEmpty_eq_false]
  simp only [survivors, lookup_dropBlacklisted, lookup_retainNamedSuppliers]
  exact exists_congr fun a => exists_congr fun e => and_right_comm

end Protocol

end PathGateway
