import PathGateway.BreakEpisodes
import PathGateway.SharedBreaks

/-! An operator's clear against refreshes. The clear forgets the local entry first and deletes the
hash last, and a refresh that has read the hash before puts its domains into the cache again. -/

namespace PathGateway

open Duration DomainCircuitBreaker Machine Option

namespace Pod

variable {cfg : BreakerConfig} {clock : Time} {p : Pod} {redis : Option RedisStore}
  {serviceID domain : String} {event : PodEvent} {move : PodMove} {k : ℕ}

def Clearing (p : Pod) (serviceID : String) (k : ℕ) : Prop :=
  ∃ call, p.clears[k]? = some call ∧ call.serviceID = serviceID ∧ call.phase ≠ .returned

theorem clearing_setClear {i : ℕ} {call : ClearCall} {phase : ClearPhase}
    (hcall : p.clears[i]? = some call) (h : p.Clearing serviceID k)
    (hphase : k = i → phase ≠ .returned) : (p.setClear i call phase).Clearing serviceID k := by
  obtain ⟨c, hc, hkey, hopen⟩ := h
  by_cases hk : k = i
  · subst hk
    rw [hcall] at hc
    cases hc
    have hlt : k < p.clears.length := (List.getElem?_eq_some_iff.mp hcall).1
    exact ⟨_, List.getElem?_set_self hlt, hkey, hphase rfl⟩
  · exact ⟨c, (List.getElem?_set_ne (Ne.symm hk)).trans hc, hkey, hopen⟩

theorem clearing_of_moves (h : Moves cfg clock redis p event move) (hk : p.Clearing serviceID k) :
    move.pod.Clearing serviceID k ∨ move.redis = none ∨ ∃ ok, event = .del k ok := by
  cases h with
  | cleared =>
    obtain ⟨c, hc, hrest⟩ := hk
    have hlt : k < p.clears.length := (List.getElem?_eq_some_iff.mp hc).1
    exact .inl ⟨c, (List.getElem?_append_left hlt).trans hc, hrest⟩
  | forgot hcall hp hphase =>
    rcases hphase with ⟨-, hredis⟩ | rfl
    · exact .inr (.inl hredis)
    · exact .inl (clearing_setClear hcall hk fun _ heq => by cases heq)
  | @del i ok call store hcall hp hredis =>
    by_cases hi : k = i
    · exact .inr (.inr ⟨ok, by rw [hi]⟩)
    · exact .inl (clearing_setClear hcall hk fun heq => absurd heq hi)
  | _ => exact .inl hk

/-- No break of the domain is written, to the cache or to Redis. -/
def NotBroken (serviceID domain : String) (p : Pod) : PodEvent → Prop
  | .write i => ∀ call ∈ p.marks[i]?, call.serviceID = serviceID → call.domain ≠ domain
  | .hSet i ok => ok = true → ∀ call ∈ p.marks[i]?, call.serviceID = serviceID →
    call.domain ≠ domain
  | _ => True

/-- When a refresh merges a state of the domain that it has read from Redis, no clear of the
service is under way and the field is still there; and the clear's own command takes effect. -/
def ClearsAlone (redis : Option RedisStore) (serviceID domain : String) (p : Pod) :
    PodEvent → Prop
  | .merge i => ∀ call ∈ p.gets[i]?, call.serviceID = serviceID →
    (call.read domain).isSome = true →
      (∀ c ∈ p.clears, c.serviceID = serviceID → c.phase = .returned) ∧
        (redisField redis serviceID domain).isSome = true
  | .del i ok => ∀ call ∈ p.clears[i]?, call.serviceID = serviceID → ok = true
  | _ => True

instance : DecidablePred (p.NotBroken serviceID domain)
  | .write i => inferInstanceAs (Decidable (∀ call ∈ p.marks[i]?, _ → _))
  | .hSet i _ => inferInstanceAs (Decidable (_ → ∀ call ∈ p.marks[i]?, _ → _))
  | .recordSuccess _ _ | .markBroken _ _ _ | .check _ | .gate _ | .getBrokenDomains _ _
  | .refreshLocal _ | .hGetAll _ _ | .judge _ | .hDel _ _ | .merge _ | .clearService _
  | .clearStats _ | .del _ _ => .isTrue trivial

instance : DecidablePred (p.ClearsAlone redis serviceID domain)
  | .merge i => inferInstanceAs (Decidable (∀ call ∈ p.gets[i]?, _ → _ → _))
  | .del i _ => inferInstanceAs (Decidable (∀ call ∈ p.clears[i]?, _ → _))
  | .recordSuccess _ _ | .markBroken _ _ _ | .check _ | .gate _ | .write _ | .hSet _ _
  | .getBrokenDomains _ _ | .refreshLocal _ | .hGetAll _ _ | .judge _ | .hDel _ _
  | .clearService _ | .clearStats _ => .isTrue trivial

structure Forgotten (redis : Option RedisStore) (serviceID domain : String) (k : ℕ) (p : Pod) :
    Prop where
  local_none : p.breaker.stateOf serviceID domain = none
  shared : p.Clearing serviceID k ∨ redisField redis serviceID domain = none

theorem Forgotten.not_merges {i : ℕ} {call : GetCall} {now : Time} {state : BrokenDomainState}
    {domains : GoMap String BrokenDomainState} (h : p.Forgotten redis serviceID domain k)
    (halone : p.ClearsAlone redis serviceID domain (.merge i)) (hcall : p.gets[i]? = some call)
    (hp : call.phase = .merging now domains) (hkey : call.serviceID = serviceID) :
    domains.lookup domain ≠ some state := by
  intro hread
  have hsome : (call.read domain).isSome = true := by
    rw [GetCall.read, hp]
    exact isSome_iff_exists.mpr ⟨state, hread⟩
  obtain ⟨hreturned, hfield⟩ := halone call hcall hkey hsome
  rcases h.shared with ⟨c, hc, hservice, hopen⟩ | hnone
  · exact hopen (hreturned c (List.mem_of_getElem? hc) hservice)
  · rw [hnone] at hfield
    cases hfield

theorem Forgotten.local_step (h : p.Forgotten redis serviceID domain k)
    (hbroken : p.NotBroken serviceID domain event)
    (halone : p.ClearsAlone redis serviceID domain event)
    (hmove : Moves cfg clock redis p event move) :
    move.pod.breaker.stateOf serviceID domain = none := by
  cases effect_of_moves serviceID domain hmove with
  | quiet hmarks hstate =>
    refine eq_none_iff_forall_ne_some.mpr fun state hs => ?_
    have hold := hstate state hs
    rw [h.local_none] at hold
    cases hold
  | decides hcall hkey hbreaks hmarks hstate => rw [hstate, h.local_none]
  | writes hdecides =>
    obtain ⟨call, hcall, hkey⟩ := hdecides
    simp only [MarkCall.decides, Bool.and_eq_true, decide_eq_true_iff] at hkey
    exact absurd hkey.1.2 (hbroken call hcall hkey.1.1)
  | merges hcall hp hkey hread =>
    exact absurd hread (h.not_merges halone hcall hp hkey)

theorem field_none_step (hnone : redisField redis serviceID domain = none)
    (hbroken : p.NotBroken serviceID domain event) (hmove : Moves cfg clock redis p event move) :
    redisField move.redis serviceID domain = none := by
  cases fieldEffect_of_moves serviceID domain hmove with
  | keeps hfield => rw [hfield, hnone]
  | sets hcall hkey => exact absurd hkey.2 (hbroken rfl _ hcall hkey.1)
  | deletes hcall hkey hmem hfield | clears hcall hkey hfield => exact hfield

theorem Forgotten.step (h : p.Forgotten redis serviceID domain k)
    (hbroken : p.NotBroken serviceID domain event)
    (halone : p.ClearsAlone redis serviceID domain event)
    (hmove : Moves cfg clock redis p event move) :
    move.pod.Forgotten move.redis serviceID domain k := by
  refine ⟨h.local_step hbroken halone hmove, ?_⟩
  rcases h.shared with hclearing | hnone
  · rcases clearing_of_moves hmove hclearing with hgoes | hredis | ⟨ok, rfl⟩
    · exact .inl hgoes
    · rw [hredis]
      exact .inr rfl
    · obtain ⟨c, hc, hservice, -⟩ := hclearing
      cases hmove with
      | del hcall =>
        rw [hc] at hcall
        cases hcall
        rw [halone c hc hservice]
        exact .inr (redisField_del.trans (if_pos hservice.symm))
  · exact .inr (field_none_step hnone hbroken hmove)

theorem Forgotten.not_mem_report {domains : List String} (h : p.Forgotten redis serviceID domain k)
    (halone : p.ClearsAlone redis serviceID domain event)
    (hmove : Moves cfg clock redis p event move)
    (hreport : move.report = some (serviceID, domains)) : domain ∉ domains := by
  intro hmem
  cases hmove with
  | fresh hentry =>
    cases hreport
    obtain ⟨state, hstate, -⟩ := mem_filterExpiredDomains.mp hmem
    have hlocal := h.local_none
    rw [stateOf, hentry, bind_some, hstate] at hlocal
    cases hlocal
  | refreshed =>
    cases hreport
    obtain ⟨state, hstate, -⟩ := stateOf_of_mem_refreshLocal hmem
    rw [h.local_none] at hstate
    cases hstate
  | merged hcall hp =>
    cases hreport
    obtain ⟨state, hstate⟩ := mem_keys.mp hmem
    rcases lookup_merged hstate with hread | ⟨hlocal, -⟩
    · exact h.not_merges halone hcall hp rfl hread
    · rw [h.local_none] at hlocal
      cases hlocal
  | _ => cases hreport

end Pod

namespace Fleet

section Conditions

variable (i : ℕ) (serviceID domain : String) (s : Fleet)

abbrev NotBroken : FleetEvent → Prop :=
  s.OnPod fun _ p event => p.NotBroken serviceID domain event

abbrev ClearsAlone : FleetEvent → Prop :=
  s.OnPod fun j p event => j = i → p.ClearsAlone s.redis serviceID domain event

def Forgotten (k : ℕ) : Prop :=
  ∃ p, s.pods[i]? = some p ∧ p.Forgotten s.redis serviceID domain k

end Conditions

variable {cfg : BreakerConfig} {i k : ℕ} {serviceID domain : String} {s s' : Fleet}
  {event : FleetEvent}

theorem Forgotten.step (h : s.Forgotten i serviceID domain k)
    (hbroken : s.NotBroken serviceID domain event) (halone : s.ClearsAlone i serviceID domain event)
    (hstep : s.step cfg event = some s') : s'.Forgotten i serviceID domain k := by
  obtain ⟨p, hp, hforgotten⟩ := h
  rcases moves_of_step hstep with ⟨elapsed, rfl, rfl⟩ | ⟨j, e, q, move, rfl, hq, hmove, rfl⟩
  · exact ⟨p, hp, hforgotten⟩
  · by_cases hj : j = i
    · subst hj
      rw [hp] at hq
      cases hq
      have hlt : j < s.pods.length := (List.getElem?_eq_some_iff.mp hp).1
      exact ⟨move.pod, List.getElem?_set_self hlt,
        hforgotten.step (hbroken p hp) (halone p hp rfl) hmove⟩
    · refine ⟨p, (List.getElem?_set_ne hj).trans hp, hforgotten.local_none, ?_⟩
      rcases hforgotten.shared with hclearing | hnone
      · exact .inl hclearing
      · exact .inr (Pod.field_none_step hnone (hbroken q hq) hmove)

/-- Once a pod has begun to clear a service, it never again reports a domain that is not broken
anew, in the runs in which no refresh merges what the clear is deleting or has deleted. -/
theorem clear_final (cfg : BreakerConfig) (i : ℕ) (serviceID domain : String) (u u' t : Fleet)
    (post : List FleetEvent) (event : PodEvent) (domains : List String)
    (hclear : u.step cfg (.pod i (.clearService serviceID)) = some u')
    (hpost : run (step cfg) u' post = some t)
    (hbroken : Machine.Meets (step cfg) (NotBroken serviceID domain) u' post)
    (halone : Machine.Meets (step cfg) (ClearsAlone i serviceID domain) u'
      (post ++ [.pod i event]))
    (hreport : t.report cfg i event = some (serviceID, domains)) : domain ∉ domains := by
  obtain ⟨hmeets, hlast⟩ := halone.last hpost
  obtain ⟨move, hmove, hdomains⟩ := bind_eq_some_iff.mp hreport
  obtain ⟨p, hp, hstep⟩ := bind_eq_some_iff.mp hmove
  have hstart : ∃ k, u'.Forgotten i serviceID domain k := by
    rcases moves_of_step hclear with ⟨_, heq, -⟩ | ⟨j, e, q, move', heq, hq, hmove', rfl⟩ <;>
      cases heq
    cases hmove' with
    | cleared =>
      have hlt : i < u.pods.length := (List.getElem?_eq_some_iff.mp hq).1
      refine ⟨q.clears.length, _, List.getElem?_set_self hlt, ?_,
        .inl ⟨⟨serviceID, _, .cleared⟩, List.getElem?_concat_length, rfl, ?_⟩⟩
      · exact stateOf_clearCache.trans (if_pos rfl)
      · intro heq
        cases heq
  obtain ⟨k, hk⟩ := hstart
  obtain ⟨q, hq, hforgotten⟩ := invariant
    (fun s e s' h hC hs => Forgotten.step h hC.1 hC.2 hs) hk (hbroken.both hmeets) hpost
  rw [hp] at hq
  cases hq
  exact hforgotten.not_mem_report (hlast p hp rfl) (Pod.moves_of_step hstep) hdomains

end Fleet

section Sample

def sharedAndStale : List FleetEvent :=
  breaking ++ [.pod 0 (.hSet 4 true), .tick (6 * second), .pod 0 (.getBrokenDomains "eth" 0)]

def readsAfter : List FleetEvent :=
  [.pod 0 (.clearStats 0), .pod 0 (.del 0 true), .pod 0 (.hGetAll 0 true), .pod 0 (.judge 0)]

theorem refresh_after_clear : ∃ u u' t,
    run (Fleet.step newDomainCircuitBreaker) (Fleet.start 0 1 (some ∅)) sharedAndStale =
        some u ∧
      u.step newDomainCircuitBreaker (.pod 0 (.clearService "eth")) = some u' ∧
      run (Fleet.step newDomainCircuitBreaker) u' readsAfter = some t ∧
      ∃ domains, t.report newDomainCircuitBreaker 0 (.merge 0) = some ("eth", domains) ∧
        "a.example.com" ∉ domains := by
  obtain ⟨u, hrun, u', hclear, t, hpost, hreport, hbroken, halone⟩ : ∃ u,
      run (Fleet.step newDomainCircuitBreaker) (Fleet.start 0 1 (some ∅)) sharedAndStale = some u ∧
      ∃ u', u.step newDomainCircuitBreaker (.pod 0 (.clearService "eth")) = some u' ∧
      ∃ t, run (Fleet.step newDomainCircuitBreaker) u' readsAfter = some t ∧
      t.report newDomainCircuitBreaker 0 (.merge 0) = some ("eth", []) ∧
      Meets (Fleet.step newDomainCircuitBreaker) (Fleet.NotBroken "eth" "a.example.com") u'
        readsAfter ∧ Meets (Fleet.step newDomainCircuitBreaker)
        (Fleet.ClearsAlone 0 "eth" "a.example.com") u' (readsAfter ++ [.pod 0 (.merge 0)]) := by
    decide +kernel
  exact ⟨u, u', t, hrun, hclear, hpost, [], hreport, Fleet.clear_final newDomainCircuitBreaker 0
    "eth" "a.example.com" u u' t readsAfter (.merge 0) [] hclear hpost hbroken halone hreport⟩

def GetPhase.isReturned : GetPhase → Bool
  | .returned => true
  | _ => false

def mergesAfter : List FleetEvent :=
  [.pod 0 (.clearStats 0), .pod 0 (.del 0 true), .pod 0 (.merge 0)]

theorem cleared_domain_reported : ∃ u u' t p,
    run (Fleet.step newDomainCircuitBreaker) (Fleet.start 0 1 (some ∅))
        (sharedAndStale ++ [.pod 0 (.hGetAll 0 true), .pod 0 (.judge 0)]) = some u ∧
      u.step newDomainCircuitBreaker (.pod 0 (.clearService "eth")) = some u' ∧
      run (Fleet.step newDomainCircuitBreaker) u' mergesAfter = some t ∧
      Machine.Meets (Fleet.step newDomainCircuitBreaker) (Fleet.NotBroken "eth" "a.example.com") u'
        mergesAfter ∧
      t.pods[0]? = some p ∧ (p.gets.all fun call => call.phase.isReturned) = true ∧
      (p.clears.all fun call => call.phase = .returned) = true ∧
      redisField t.redis "eth" "a.example.com" = none ∧
      t.report newDomainCircuitBreaker 0 (.getBrokenDomains "eth" 0) =
        some ("eth", ["a.example.com"]) := by
  set_option synthInstance.maxSize 256 in
  decide +kernel

end Sample

end PathGateway
