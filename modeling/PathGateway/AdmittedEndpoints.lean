import PathGateway.EndpointLookup

/-! The operator's bans, read at the RPC type a lookup returns. An endpoint is judged
while its session is filtered; the type in use can still change after that. -/

namespace PathGateway

open List

namespace Protocol

/-- The endpoint serves the type at a URL that is neither blocked nor against the policy. -/
structure MeetsBans (p : Protocol) (env : Env) (ep : Endpoint) (t : RPCType) : Prop where
  serves : ep.getURL t ≠ ""
  unblocked : DomainBlocklist.isBlocked p.blockedDomains env.net (ep.getURL t) t = false
  allowed : p.endpointPolicy.allows env.net (ep.getURL t) = true

/-- What is left to ask of an endpoint that passed the filters of its session. Without a
fallback it is a display URL, and that only of a request without a type. After a fallback
it is the policy on the fallback URL, which was checked on another one; the URL itself, for a
session that did not fall back; and the blocklist, for a session before the first fallback. -/
def UncheckedBans (p : Protocol) (env : Env) (req : LookupRequest)
    (pre : List SessionEndpoints) (s : SessionEndpoints) (post : List SessionEndpoints)
    (ep : Endpoint) : Prop :=
  if p.anyFallsBack env req (pre ++ s :: post) then
    p.endpointPolicy.allows env.net (ep.getURL (p.fallbackType env req)) = true ∧
      (p.fallsBack env req s.endpoints = false → ep.getURL (p.fallbackType env req) ≠ "") ∧
      (p.anyFallsBack env req (pre ++ [s]) = false →
        DomainBlocklist.isBlocked p.blockedDomains env.net (ep.getURL (p.fallbackType env req))
          (p.fallbackType env req) = false)
  else req.filterByRPCType = .unknownRPC → ep.getURL .unknownRPC ≠ ""

variable {p : Protocol} {env : Env} {req : LookupRequest} {pre post : List SessionEndpoints}
  {s : SessionEndpoints} {addr : EndpointAddr} {ep : Endpoint}

theorem ComesFrom.vetted (h : p.ComesFrom env req pre s post addr ep) :
    (p.served env req s.endpoints).lookup addr = some ep ∧
    DomainBlocklist.isBlocked p.blockedDomains env.net
    (ep.judgedURL (p.typeAfter env req (pre ++ [s]))) (p.typeAfter env req (pre ++ [s])) = false ∧
    p.endpointPolicy.allows env.net (ep.judgedURL req.filterByRPCType) = true := by
  obtain ⟨hserved, -, hblocked, hallowed⟩ := lookup_vetted.mp (vetted_of_contribution h.added)
  rw [typeAfterSession_typeAfter] at hblocked
  exact ⟨hserved, hblocked, hallowed⟩

theorem fallsBack_known (h : p.fallsBack env req s.endpoints = true) :
    req.filterByRPCType ≠ .unknownRPC := by
  simp only [fallsBack, Bool.and_eq_true, decide_eq_true_eq] at h
  exact h.1.1

theorem typeAfter_of_any {ss : List SessionEndpoints}
    (h : p.anyFallsBack env req ss = true) :
    p.typeAfter env req ss = p.fallbackType env req := by
  simp [typeAfter, h]

theorem typeAfter_of_not_any {ss : List SessionEndpoints}
    (h : p.anyFallsBack env req ss = false) :
    p.typeAfter env req ss = req.filterByRPCType := by
  simp [typeAfter, h]

theorem meetsBans_iff_of_not_any (h : p.ComesFrom env req pre s post addr ep)
    (hne : addr ≠ req.requestedEndpointAddr)
    (hany : p.anyFallsBack env req (pre ++ s :: post) = false) :
    p.MeetsBans env ep req.filterByRPCType ↔
    (req.filterByRPCType = .unknownRPC → ep.getURL .unknownRPC ≠ "") := by
  obtain ⟨hserved, hblocked, hallowed⟩ := h.vetted
  have hs : p.fallsBack env req s.endpoints = false := by
    simp only [any_append, any_cons, Bool.or_eq_false_iff] at hany
    exact hany.2.1
  have hpre : p.anyFallsBack env req (pre ++ [s]) = false := by
    simp only [any_append, any_cons, any_nil, Bool.or_eq_false_iff] at hany ⊢
    exact ⟨hany.1, hs, trivial⟩
  rw [typeAfter_of_not_any hpre] at hblocked
  obtain ⟨-, hserves⟩ := lookup_served.mp hserved
  simp only [hs, Bool.false_eq_true, if_false, hne, or_false] at hserves
  by_cases hurl : ep.getURL req.filterByRPCType = ""
  · have hu := hserves.resolve_right (not_not.mpr hurl)
    rw [hu] at hurl
    exact ⟨fun hm => absurd (hu ▸ hm.serves) (not_not.mpr hurl), fun hm => absurd hurl (hm hu)⟩
  · rw [Endpoint.judgedURL_of_ne hurl] at hblocked hallowed
    exact ⟨fun _ hu => hu ▸ hurl, fun _ => ⟨hurl, hblocked, hallowed⟩⟩

theorem meetsBans_iff_uncheckedBans (h : p.ComesFrom env req pre s post addr ep)
    (hne : addr ≠ req.requestedEndpointAddr) :
    p.MeetsBans env ep (p.typeAfter env req (pre ++ s :: post)) ↔
      p.UncheckedBans env req pre s post ep := by
  cases hany : p.anyFallsBack env req (pre ++ s :: post) with
  | false =>
    rw [typeAfter_of_not_any hany, meetsBans_iff_of_not_any h hne hany, UncheckedBans, hany]
    rfl
  | true =>
    obtain ⟨hserved, hblocked, -⟩ := h.vetted
    obtain ⟨t, ht, hknown⟩ := any_eq_true.mp hany
    obtain ⟨-, hserves⟩ := lookup_served.mp hserved
    simp only [fallsBack_known hknown, false_or] at hserves
    rw [typeAfter_of_any hany, UncheckedBans, hany, if_pos rfl]
    -- the fallback URL exists where the session fell back, and is judged from then on
    have hurl : p.fallsBack env req s.endpoints = true → ep.getURL (p.fallbackType env req) ≠ "" :=
      fun hs => by simpa [hs] using hserves
    have hjudged : ep.getURL (p.fallbackType env req) ≠ "" →
        p.anyFallsBack env req (pre ++ [s]) = true →
        DomainBlocklist.isBlocked p.blockedDomains env.net (ep.getURL (p.fallbackType env req))
          (p.fallbackType env req) = false := fun hne hpre => by
      rwa [typeAfter_of_any hpre, Endpoint.judgedURL_of_ne hne] at hblocked
    constructor
    · intro hm
      exact ⟨hm.allowed, fun _ => hm.serves, fun _ => hm.unblocked⟩
    · rintro ⟨hallowed, hserve, hunblocked⟩
      have hne : ep.getURL (p.fallbackType env req) ≠ "" := by
        cases hs : p.fallsBack env req s.endpoints with
        | true => exact hurl hs
        | false => exact hserve hs
      refine ⟨hne, ?_, hallowed⟩
      cases hpre : p.anyFallsBack env req (pre ++ [s]) with
      | true => exact hjudged hne hpre
      | false => exact hunblocked hpre

/-- Every returned entry comes from one session, and it meets the bans at the returned type
exactly when it meets those that were not checked for that type. -/
theorem admitted_meetsBans_iff {sessions : List Session} {m : EndpointMap} {t : RPCType}
    (hok : p.getSessionsUniqueEndpoints env req sessions = .ok (m, t))
    (hl : m.lookup addr = some ep) (hne : addr ≠ req.requestedEndpointAddr) :
    ∃ pre s post, p.resolved sessions = pre ++ s :: post ∧
      p.ComesFrom env req pre s post addr ep ∧
      (p.MeetsBans env ep t ↔ p.UncheckedBans env req pre s post ep) := by
  obtain ⟨-, rfl, rfl⟩ := getSessionsUniqueEndpoints_eq_ok.mp hok
  obtain ⟨pre, s, post, hss, h⟩ := exists_comesFrom (lookup_of_finalPool hl)
  exact ⟨pre, s, post, hss, h, hss ▸ meetsBans_iff_uncheckedBans h hne⟩

end Protocol

def fallbackProtocol (fallback : String) : Protocol :=
  { sampleProtocol ∅ ∅ with
    unifiedServicesConfig := some
      ⟨[⟨"eth", some ((∅ : GoMap String String).insert "rest" fallback), [], none⟩], none⟩ }

def restRequest : LookupRequest := ⟨"eth", true, .rest, [], ""⟩

def mixedSessions : List Session :=
  [soleSession "pokt1a" .rest "https://a.example.com",
    soleSession "pokt1b" .jsonRPC "https://b.example.com"]

theorem admitted_without_url :
    ¬∀ (p : Protocol) (env : Env) (req : LookupRequest) (sessions : List Session)
      (m : EndpointMap) (t : RPCType) (addr : EndpointAddr) (ep : Endpoint),
      p.getSessionsUniqueEndpoints env req sessions = .ok (m, t) → m.lookup addr = some ep →
      addr ≠ req.requestedEndpointAddr → p.MeetsBans env ep t := by
  intro h
  have hm := h (fallbackProtocol "json_rpc") sampleEnv restRequest mixedSessions _ _
    addrA _ (Protocol.getSessionsUniqueEndpoints_eq_ok.mpr
      ⟨by decide +kernel, rfl, rfl⟩) (Option.eq_some_of_isSome (by decide +kernel)) (by decide)
  exact hm.serves (by decide +kernel)

theorem admitted_meetsBans_iff_sole :
    ∃ m t ep, (sampleProtocol ∅ ∅).getSessionsUniqueEndpoints sampleEnv jsonRPCRequest
        [soleSession "pokt1a" .jsonRPC "https://a.example.com"] = .ok (m, t) ∧
      m.lookup addrA = some ep ∧
      ∃ pre s post, (sampleProtocol ∅ ∅).MeetsBans sampleEnv ep t ↔
        (sampleProtocol ∅ ∅).UncheckedBans sampleEnv jsonRPCRequest pre s post ep := by
  obtain ⟨m, t, ep, hok, hl⟩ := soleLookup_found
  obtain ⟨pre, s, post, -, -, hiff⟩ := Protocol.admitted_meetsBans_iff hok hl (by decide)
  exact ⟨m, t, ep, hok, hl, pre, s, post, hiff⟩

end PathGateway
