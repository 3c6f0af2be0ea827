import PathGateway.EndpointFilters

/-! The domains of an endpoint address and the filters on them: retries rotate over
registrable domains, the circuit breaker breaks single hosts. -/

namespace PathGateway

def fromSeparator (sep endpoint : String) : Option String :=
  (endpoint.toList.tails.find? (fun t => sep.toList.isPrefixOf t)).map
    (fun t => String.ofList (t.drop 1))

variable (net : NetLib) (triedDomains : List String) (endpoint : EndpointAddr)

def rawURLFromEndpoint : Option String :=
  (fromSeparator "-http" endpoint).or
    ((fromSeparator "-wss" endpoint).or (fromSeparator "-ws" endpoint))

def extractDomainFromEndpoint : String :=
  match rawURLFromEndpoint endpoint with
  | none => ""
  | some rawURL => (net.hostname rawURL).getD ""

def extractEffectiveTLDPlusOne (rawURL : String) : Option String :=
  match net.hostname rawURL with
  | none => none
  | some host => if host = "" then none else net.effectiveTLDPlusOne host

def extractRegistrableDomain : String :=
  match rawURLFromEndpoint endpoint with
  | none => ""
  | some rawURL =>
    match extractEffectiveTLDPlusOne net rawURL with
    | some etld1 => if etld1 ≠ "" then etld1 else extractDomainFromEndpoint net endpoint
    | none => extractDomainFromEndpoint net endpoint

def domainTried : Bool :=
  triedDomains.contains (extractDomainFromEndpoint net endpoint) ||
    triedDomains.contains (extractRegistrableDomain net endpoint)

def filterEndpoints
    (available tried : List EndpointAddr) (triedDomains : List String) : List EndpointAddr :=
  available.filter (fun ep => !tried.contains ep &&
    !(!triedDomains.isEmpty && domainTried net triedDomains ep))

def markDomainTried : List String :=
  let domain := extractRegistrableDomain net endpoint
  if domain ≠ "" then domain :: triedDomains else triedDomains

theorem mem_markDomainTried {net : NetLib} {domains : List String} {ep : EndpointAddr}
    {domain : String} (h : domain ∈ domains) : domain ∈ markDomainTried net domains ep := by
  rw [markDomainTried]
  split
  · exact List.mem_cons_of_mem _ h
  · exact h

def filterEndpointsByBrokenDomains
    (endpoints : List EndpointAddr) (brokenDomains : List String) : List EndpointAddr :=
  endpoints.filter (fun ep => !(extractDomainFromEndpoint net ep ≠ "" &&
    brokenDomains.contains (extractDomainFromEndpoint net ep)))

variable {net : NetLib} {available tried : List EndpointAddr} {triedDomains : List String}
  {ep : EndpointAddr}

theorem mem_filterEndpoints : ep ∈ filterEndpoints net available tried triedDomains ↔
    ep ∈ available ∧ ep ∉ tried ∧ domainTried net triedDomains ep = false := by
  cases triedDomains with
  | nil => simp [filterEndpoints, domainTried]
  | cons => simp [filterEndpoints]

section Address

open GoStrings List

variable {supplier url : String} {p sep : String}

theorem find_tails_of_not_mem {s p : List Char} (u : List Char) (h : '-' ∉ s) :
    (s ++ '-' :: u).tails.find? (fun t => ('-' :: p).isPrefixOf t) =
      if p.isPrefixOf u then some ('-' :: u)
      else u.tails.find? (fun t => ('-' :: p).isPrefixOf t) := by
  induction s with
  | nil => cases hp : p.isPrefixOf u <;> simp [tails, isPrefixOf, hp]
  | cons c s ih =>
    obtain ⟨hc, hs⟩ := not_or.mp (mt mem_cons.mpr h)
    simpa [tails, isPrefixOf, hc] using ih hs

theorem fromSeparator_ne (hsep : sep.toList = '-' :: p.toList) :
    fromSeparator sep url ≠ some url := by
  intro h
  obtain ⟨t, ht, heq⟩ := Option.map_eq_some_iff.mp h
  have hlength := ((mem_tails _ _).mp (mem_of_find?_eq_some ht)).length_le
  have hprefix := find?_some ht
  rw [← heq, String.toList_ofList] at hlength
  cases t with
  | nil => simp [hsep] at hprefix
  | cons _ t => exact Nat.not_succ_le_self t.length hlength

/-- The search begins at the dash of the address and goes on in the URL. -/
theorem fromSeparator_or_iff (h : '-' ∉ supplier.toList) (hsep : sep.toList = '-' :: p.toList)
    (rest : Option String) :
    (fromSeparator sep (supplier ++ String.singleton '-' ++ url)).or rest = some url ↔
      hasPrefix url p = true ∨ GoStrings.contains url sep = false ∧ rest = some url := by
  have hne : fromSeparator sep url ≠ some url := fromSeparator_ne hsep
  have hnone : fromSeparator sep url = none ↔ GoStrings.contains url sep = false := by
    simp [fromSeparator, GoStrings.contains]
  have hstep : fromSeparator sep (supplier ++ String.singleton '-' ++ url) =
      if hasPrefix url p then some url else fromSeparator sep url := by
    rw [fromSeparator, fromSeparator, toList_append_sep, hsep, find_tails_of_not_mem _ h, hasPrefix]
    split <;> simp
  rw [hstep, ← hnone]
  split_ifs with hp
  · simp [hp]
  · cases hfrom : fromSeparator sep url with
    | none => simp [hp]
    | some u =>
      rw [hfrom] at hne
      simpa [hp] using hne

/-- The URL begins with `http`, or it has no `-http` in it and begins with `wss`, or it has
neither `-http` nor `-wss` in it and begins with `ws`. -/
def Located (url : String) : Prop :=
  hasPrefix url "http" = true ∨ GoStrings.contains url "-http" = false ∧
    (hasPrefix url "wss" = true ∨ GoStrings.contains url "-wss" = false ∧ hasPrefix url "ws" = true)

/-- The URL is what follows the first hyphen exactly when it is `Located`. -/
theorem rawURLFromEndpoint_iff (supplier url : String) (h : '-' ∉ supplier.toList) :
    let endpoint := supplier ++ String.singleton '-' ++ url
    (rawURLFromEndpoint endpoint = some url ∧
        rawURLFromEndpoint endpoint = GoStrings.after '-' endpoint ↔ Located url) ∧
      (Located url → ∀ net,
        extractDomainFromEndpoint net endpoint = (net.hostname url).getD "") := by
  have hws : (fromSeparator "-ws" (supplier ++ String.singleton '-' ++ url)).or none =
      some url ↔ _ := fromSeparator_or_iff h rfl none (p := "ws")
  rw [Option.or_none] at hws
  have hiff : rawURLFromEndpoint (supplier ++ String.singleton '-' ++ url) = some url ↔
      Located url := by
    rw [rawURLFromEndpoint, fromSeparator_or_iff h rfl (p := "http"),
      fromSeparator_or_iff h rfl (p := "wss"), hws]
    simp [Located]
  refine ⟨?_, fun hlocated net => ?_⟩
  · rw [after_append h, and_self, hiff]
  · rw [extractDomainFromEndpoint, hiff.mpr hlocated]

theorem plain_url_located :
    rawURLFromEndpoint ("pokt1abc" ++ String.singleton '-' ++ "wss://a-b.io/v1") =
      some "wss://a-b.io/v1" :=
  ((rawURLFromEndpoint_iff "pokt1abc" "wss://a-b.io/v1" (by decide)).1.mpr
    (.inr ⟨by decide, .inl (by decide)⟩)).1

/-- A path with `-http` in it is taken for the URL. -/
theorem path_taken_for_url :
    rawURLFromEndpoint ("pokt1abc" ++ String.singleton '-' ++ "wss://a.io/eth-http/v1") =
      some "http/v1" := by
  decide +kernel

end Address

end PathGateway
