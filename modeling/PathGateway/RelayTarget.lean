import PathGateway.AdmittedEndpoints

/-! Where a relay is sent, and the reputation key its outcome is recorded under. Both
depend on the RPC type the request context holds, which starts from the type of the
lookup, is overridden by the payload, and changes once more when the endpoint has no
URL for it. -/

namespace PathGateway

def relayFallbackTypes : List RPCType := [.jsonRPC, .rest, .cometBFT, .grpc]

def Endpoint.firstServed (ep : Endpoint) : Option RPCType :=
  relayFallbackTypes.find? (fun t => decide (ep.getURL t ≠ ""))

structure RequestContext where
  serviceID : ServiceID
  selectedEndpoint : Endpoint
  currentRPCType : RPCType
  loadTestingConfig : Option LoadTestingConfig

namespace RequestContext

variable (rc : RequestContext)

def setPayloadRPCType (payload : RPCType) : RequestContext :=
  { rc with currentRPCType := if payload ≠ .unknownRPC then payload else rc.currentRPCType }

def sendProtocolRelay (prepared : Bool) : Option String × RequestContext :=
  if !prepared then (none, rc)
  else
    match rc.loadTestingConfig with
    | some (.backendService url) => (some url, rc)
    | some (.relayMiner c) => (some c.url, rc)
    | none =>
      if rc.selectedEndpoint.getURL rc.currentRPCType = "" then
        match rc.selectedEndpoint.firstServed with
        | some t => (some (rc.selectedEndpoint.getURL t), { rc with currentRPCType := t })
        | none => (some "", rc)
      else (some (rc.selectedEndpoint.getURL rc.currentRPCType), rc)

def handleServiceRequest (payload : RPCType) (prepared : Bool) : Option String × RequestContext :=
  (rc.setPayloadRPCType payload).sendProtocolRelay prepared

def recordedKey (svc : ReputationService) (net : NetLib) : EndpointKey :=
  svc.buildKey net rc.serviceID rc.selectedEndpoint.addr rc.currentRPCType

end RequestContext

namespace Protocol

variable (p : Protocol) (env : Env) (req : LookupRequest) (pre : List SessionEndpoints)
  (s : SessionEndpoints) (post : List SessionEndpoints) (ep : Endpoint)

def requestContext (t : RPCType) : RequestContext := ⟨req.serviceID, ep, t, p.loadTestingConfig⟩

def relayType (ss : List SessionEndpoints) (payload : RPCType) : RPCType :=
  if payload ≠ .unknownRPC then payload else p.typeAfter env req ss

/-- The relay of an endpoint of session `s` goes to the URL for the returned type, and each
filter that is configured has looked at that URL. -/
structure RelaysVettedURL (p : Protocol) (env : Env) (req : LookupRequest)
    (pre : List SessionEndpoints) (s : SessionEndpoints) (ep : Endpoint) (t payload : RPCType) :
    Prop where
  relayed : ((p.requestContext req ep t).handleServiceRequest payload true).1 =
    some (ep.getURL t)
  blocklist : p.blockedDomains.isSome = true →
    ep.judgedURL (p.typeAfter env req (pre ++ [s])) = ep.getURL t
  policy : (p.endpointPolicy.requireHTTPS || p.endpointPolicy.requireDomain) = true →
    ep.judgedURL req.filterByRPCType = ep.getURL t

/-- The target of a relay has the URL for the type left by the sessions: the load-testing
URL where there is one; else the endpoint's URL for the relay's type, or, where it has
none, for the first type it serves. -/
def TargetsServedURL (ss : List SessionEndpoints) (ep : Endpoint) (payload : RPCType) : Prop :=
  match p.loadTestingConfig with
  | some (.backendService url) => url = ep.getURL (p.typeAfter env req ss)
  | some (.relayMiner c) => c.url = ep.getURL (p.typeAfter env req ss)
  | none =>
    if ep.getURL (p.relayType env req ss payload) = "" then
      ep.firstServed.elim "" ep.getURL = ep.getURL (p.typeAfter env req ss)
    else ep.getURL (p.relayType env req ss payload) = ep.getURL (p.typeAfter env req ss)

/-- The blocklist, which judges by the type left after session `s`, looked at the URL for the
type left after all sessions. -/
def BlocklistJudgesServed : Prop :=
  if p.anyFallsBack env req (pre ++ s :: post) then
    if p.anyFallsBack env req (pre ++ [s]) then
      ep.getURL (p.fallbackType env req) = "" → ep.publicURL = ""
    else ep.judgedURL req.filterByRPCType = ep.getURL (p.fallbackType env req)
  else ep.getURL req.filterByRPCType = "" → ep.publicURL = ""

/-- The policy, which always judges by the requested type, looked at the URL for the type left
after all sessions. -/
def PolicyJudgesServed : Prop :=
  if p.anyFallsBack env req (pre ++ s :: post) then
    if p.fallsBack env req s.endpoints then ep.publicURL = ep.getURL (p.fallbackType env req)
    else ep.judgedURL req.filterByRPCType = ep.getURL (p.fallbackType env req)
  else ep.getURL req.filterByRPCType = "" → ep.publicURL = ""

/-- What the configured filters looked at is the URL for the type left by the sessions. Without
a fallback this only fails for a requested endpoint that does not serve the type. -/
def JudgesServedURL : Prop :=
  (p.blockedDomains.isSome = true → p.BlocklistJudgesServed env req pre s post ep) ∧
    ((p.endpointPolicy.requireHTTPS || p.endpointPolicy.requireDomain) = true →
      p.PolicyJudgesServed env req pre s post ep)

variable {p : Protocol} {env : Env} {req : LookupRequest} {pre post : List SessionEndpoints}
  {s : SessionEndpoints} {addr : EndpointAddr} {ep : Endpoint} {payload : RPCType}

variable {ss : List SessionEndpoints} {t : RPCType} {sessions : List Session} {m : EndpointMap}

theorem setPayloadRPCType_requestContext :
    (p.requestContext req ep (p.typeAfter env req ss)).setPayloadRPCType payload =
    p.requestContext req ep (p.relayType env req ss payload) := rfl

theorem relayed_iff_targetsServedURL :
    ((p.requestContext req ep (p.typeAfter env req ss)).handleServiceRequest payload true).1 =
    some (ep.getURL (p.typeAfter env req ss)) ↔ p.TargetsServedURL env req ss ep payload := by
  rw [RequestContext.handleServiceRequest, setPayloadRPCType_requestContext, TargetsServedURL]
  generalize p.relayType env req ss payload = current
  cases hlt : p.loadTestingConfig with
  | some c => cases c <;> simp [RequestContext.sendProtocolRelay, requestContext, hlt]
  | none =>
    by_cases hurl : ep.getURL current = ""
    · cases hf : ep.firstServed <;>
        simp [RequestContext.sendProtocolRelay, requestContext, hlt, hurl, hf]
    · simp [RequestContext.sendProtocolRelay, requestContext, hlt, hurl]

theorem judgedURL_eq_getURL :
    ep.judgedURL t = ep.getURL t ↔ (ep.getURL t = "" → ep.publicURL = "") := by
  by_cases h : ep.getURL t = ""
  · simp [Endpoint.judgedURL_of_eq h, h]
  · simp [Endpoint.judgedURL_of_ne h, h]

theorem getURL_of_fallsBack (hs : p.fallsBack env req s.endpoints = true)
    (hl : s.endpoints.lookup addr = some ep) : ep.getURL req.filterByRPCType = "" := by
  simp only [fallsBack, Bool.and_eq_true] at hs
  have h := GoMap.isEmpty_retain_eq_true.mp hs.1.2 addr ep hl
  simp only [Bool.or_eq_false_iff, decide_eq_false_iff_not, not_not] at h
  exact h.1

theorem blocklistJudgesServed_iff :
    ep.judgedURL (p.typeAfter env req (pre ++ [s])) =
        ep.getURL (p.typeAfter env req (pre ++ s :: post)) ↔
      p.BlocklistJudgesServed env req pre s post ep := by
  rw [BlocklistJudgesServed]
  cases hany : p.anyFallsBack env req (pre ++ s :: post) with
  | false =>
    have hsome : p.anyFallsBack env req (pre ++ [s]) = false := by
      rw [List.append_cons, anyFallsBack, List.any_append, Bool.or_eq_false_iff] at hany
      exact hany.1
    rw [typeAfter_of_not_any hany, typeAfter_of_not_any hsome, judgedURL_eq_getURL]
    rfl
  | true =>
    rw [typeAfter_of_any hany, if_pos rfl]
    cases hsome : p.anyFallsBack env req (pre ++ [s]) with
    | true => rw [typeAfter_of_any hsome, judgedURL_eq_getURL, if_pos rfl]
    | false =>
      rw [typeAfter_of_not_any hsome]
      rfl

theorem policyJudgesServed_iff (h : p.ComesFrom env req pre s post addr ep) :
    ep.judgedURL req.filterByRPCType = ep.getURL (p.typeAfter env req (pre ++ s :: post)) ↔
      p.PolicyJudgesServed env req pre s post ep := by
  rw [PolicyJudgesServed]
  cases hany : p.anyFallsBack env req (pre ++ s :: post) with
  | false =>
    rw [typeAfter_of_not_any hany, judgedURL_eq_getURL]
    rfl
  | true =>
    rw [typeAfter_of_any hany, if_pos rfl]
    cases hs : p.fallsBack env req s.endpoints with
    | true =>
      -- a session that falls back serves nothing of the requested type
      rw [Endpoint.judgedURL_of_eq (getURL_of_fallsBack hs (lookup_served.mp h.vetted.1).1)]
      rfl
    | false => rfl

/-- An endpoint of a lookup comes from one session, and its relay goes to the URL that the
configured filters looked at exactly when the target and the judged URLs are all its URL for
the type left by the sessions. -/
theorem relaysVettedURL_iff (hok : p.getSessionsUniqueEndpoints env req sessions = .ok (m, t))
    (hl : m.lookup addr = some ep) (payload : RPCType) :
    ∃ pre s post, p.resolved sessions = pre ++ s :: post ∧
    p.ComesFrom env req pre s post addr ep ∧ (p.RelaysVettedURL env req pre s ep t payload ↔
      p.TargetsServedURL env req (pre ++ s :: post) ep payload ∧
      p.JudgesServedURL env req pre s post ep) := by
  obtain ⟨-, rfl, rfl⟩ := getSessionsUniqueEndpoints_eq_ok.mp hok
  obtain ⟨pre, s, post, hss, h⟩ := exists_comesFrom (lookup_of_finalPool hl)
  refine ⟨pre, s, post, hss, h, ?_⟩
  rw [hss, ← relayed_iff_targetsServedURL, JudgesServedURL, ← blocklistJudgesServed_iff,
    ← policyJudgesServed_iff h]
  constructor
  · intro hr
    exact ⟨hr.relayed, hr.blocklist, hr.policy⟩
  · rintro ⟨hrelayed, hblocklist, hpolicy⟩
    exact ⟨hrelayed, hblocklist, hpolicy⟩

/-- The recorded type is the requested one: the relay's type is, unless the endpoint has no
URL for that and serves another type first. -/
def RecordsRequestedType (p : Protocol) (env : Env) (req : LookupRequest)
    (ss : List SessionEndpoints) (ep : Endpoint) (payload : RPCType) (prepared : Bool) : Prop :=
  if prepared && p.loadTestingConfig.isNone &&
      decide (ep.getURL (p.relayType env req ss payload) = "") then
    ep.firstServed.getD (p.relayType env req ss payload) = req.filterByRPCType
  else p.relayType env req ss payload = req.filterByRPCType

theorem addr_of_lookup_collect (h : (p.collect env req ss).1.lookup addr = some ep) :
    ep.addr = addr := by
  obtain ⟨pre, s, post, -, hc⟩ := exists_comesFrom h
  exact (s.addressed addr ep (lookup_served.mp hc.vetted.1).1).1

theorem sendProtocolRelay_snd {current : RPCType} {prepared : Bool} :
    ((p.requestContext req ep current).sendProtocolRelay prepared).2 = p.requestContext req ep
      (if prepared && p.loadTestingConfig.isNone && decide (ep.getURL current = "") then
      ep.firstServed.getD current else current) := by
  cases prepared with
  | false => rfl
  | true =>
    cases hlt : p.loadTestingConfig with
    | some c => cases c <;> simp [RequestContext.sendProtocolRelay, requestContext, hlt]
    | none =>
      by_cases hurl : ep.getURL current = ""
      · cases hf : ep.firstServed <;>
          simp [RequestContext.sendProtocolRelay, requestContext, hlt, hurl, hf]
      · simp [RequestContext.sendProtocolRelay, requestContext, hlt, hurl]

/-- The outcome of a relay is recorded under the key its endpoint was admitted under exactly
when the recorded type is the requested one. -/
theorem recordedKey_eq_consultedKey_iff
    (hok : p.getSessionsUniqueEndpoints env req sessions = .ok (m, t))
    (hl : m.lookup addr = some ep) (svc : ReputationService) (payload : RPCType) (prepared : Bool) :
    ((p.requestContext req ep t).handleServiceRequest payload prepared).2.recordedKey svc env.net =
        svc.buildKey env.net req.serviceID addr req.filterByRPCType ↔
      p.RecordsRequestedType env req (p.resolved sessions) ep payload
        prepared := by
  obtain ⟨-, rfl, rfl⟩ := getSessionsUniqueEndpoints_eq_ok.mp hok
  have haddr := addr_of_lookup_collect (lookup_of_finalPool hl)
  rw [RequestContext.handleServiceRequest, setPayloadRPCType_requestContext,
    sendProtocolRelay_snd, RecordsRequestedType]
  simp only [RequestContext.recordedKey, requestContext, haddr, ReputationService.buildKey,
    KeyBuilder.buildKey_eq_iff]
  split <;> rfl

end Protocol

def twoTypeSession : Session :=
  ⟨"session-c", 1, some [⟨⟨"pokt1c", .jsonRPC, "https://json.example.com"⟩,
    [⟨"pokt1c", .cometBFT, "https://comet.example.com"⟩]⟩]⟩

theorem relayed_to_unvetted_url :
    ¬∀ (p : Protocol) (env : Env) (req : LookupRequest) (sessions : List Session)
      (m : EndpointMap) (t : RPCType) (addr : EndpointAddr) (ep : Endpoint) (payload : RPCType)
      (pre : List SessionEndpoints) (s : SessionEndpoints) (post : List SessionEndpoints),
      p.getSessionsUniqueEndpoints env req sessions = .ok (m, t) → m.lookup addr = some ep →
      p.resolved sessions = pre ++ s :: post →
      p.ComesFrom env req pre s post addr ep →
      p.RelaysVettedURL env req pre s ep t payload := by
  intro h
  have hl : ((fallbackProtocol "comet_bft").finalPool sampleEnv restRequest
      ((fallbackProtocol "comet_bft").collect sampleEnv restRequest
        (resolveSessions ∅ [twoTypeSession])).1).lookup "pokt1c-https://json.example.com" =
        some _ := Option.eq_some_of_isSome (by decide +kernel)
  have hok : (fallbackProtocol "comet_bft").getSessionsUniqueEndpoints sampleEnv restRequest
      [twoTypeSession] = .ok (_, .cometBFT) :=
    Protocol.getSessionsUniqueEndpoints_eq_ok.mpr ⟨by decide +kernel, rfl, by decide +kernel⟩
  obtain ⟨pre, s, post, hss, hc⟩ := Protocol.exists_comesFrom (Protocol.lookup_of_finalPool hl)
  exact absurd (h _ _ _ _ _ _ _ _ .rest pre s post hok hl hss hc).relayed (by decide +kernel)

theorem relaysVettedURL_iff_sole :
    ∃ m t ep, (sampleProtocol ∅ ∅).getSessionsUniqueEndpoints sampleEnv jsonRPCRequest
        [soleSession "pokt1a" .jsonRPC "https://a.example.com"] = .ok (m, t) ∧
      m.lookup addrA = some ep ∧
      ∃ pre s post, (sampleProtocol ∅ ∅).RelaysVettedURL sampleEnv jsonRPCRequest pre s ep t
          .jsonRPC ↔
        (sampleProtocol ∅ ∅).TargetsServedURL sampleEnv jsonRPCRequest (pre ++ s :: post) ep
            .jsonRPC ∧
          (sampleProtocol ∅ ∅).JudgesServedURL sampleEnv jsonRPCRequest pre s post ep := by
  obtain ⟨m, t, ep, hok, hl⟩ := soleLookup_found
  obtain ⟨pre, s, post, -, -, hiff⟩ := Protocol.relaysVettedURL_iff hok hl .jsonRPC
  exact ⟨m, t, ep, hok, hl, pre, s, post, hiff⟩

theorem recorded_under_other_type :
    ¬∀ (p : Protocol) (env : Env) (req : LookupRequest) (sessions : List Session)
      (m : EndpointMap) (t : RPCType) (addr : EndpointAddr) (ep : Endpoint)
      (svc : ReputationService) (payload : RPCType) (prepared : Bool),
      p.getSessionsUniqueEndpoints env req sessions = .ok (m, t) → m.lookup addr = some ep →
      ((p.requestContext req ep t).handleServiceRequest payload prepared).2.recordedKey svc
          env.net =
        svc.buildKey env.net req.serviceID addr req.filterByRPCType := by
  intro h
  have hok : (fallbackProtocol "comet_bft").getSessionsUniqueEndpoints sampleEnv restRequest
      [twoTypeSession] = .ok (_, .cometBFT) :=
    Protocol.getSessionsUniqueEndpoints_eq_ok.mpr ⟨by decide +kernel, rfl, by decide +kernel⟩
  have hkey := congrArg EndpointKey.rpcType (h _ _ _ _ _ _ "pokt1c-https://json.example.com" _
    ⟨true, 80, ∅, .endpoint, ∅, ∅, ∅⟩ .rest true hok (Option.eq_some_of_isSome (by decide +kernel)))
  exact absurd hkey (by decide +kernel)

theorem recordedKey_eq_consultedKey_iff_sole :
    ∃ m t ep, (sampleProtocol ∅ ∅).getSessionsUniqueEndpoints sampleEnv jsonRPCRequest
        [soleSession "pokt1a" .jsonRPC "https://a.example.com"] = .ok (m, t) ∧
      m.lookup addrA = some ep ∧
      (((((sampleProtocol ∅ ∅).requestContext jsonRPCRequest ep t).handleServiceRequest .jsonRPC
          true).2.recordedKey ⟨true, 80, ∅, .url, ∅, ∅, ∅⟩ sampleEnv.net =
        ReputationService.buildKey ⟨true, 80, ∅, .url, ∅, ∅, ∅⟩ sampleEnv.net "eth"
          addrA .jsonRPC) ↔
      (sampleProtocol ∅ ∅).RecordsRequestedType sampleEnv jsonRPCRequest
        (resolveSessions ∅ [soleSession "pokt1a" .jsonRPC "https://a.example.com"]) ep .jsonRPC
        true) := by
  obtain ⟨m, t, ep, hok, hl⟩ := soleLookup_found
  exact ⟨m, t, ep, hok, hl, Protocol.recordedKey_eq_consultedKey_iff hok hl _ .jsonRPC true⟩

end PathGateway
