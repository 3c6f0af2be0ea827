import PathGateway.CircuitBreaker

/-! Escalation within one episode. The check for a break in effect, the gate and the write to the
cache are three critical sections, and calls that have passed the first one may find the gate open
twice before the cache shows the break. -/

namespace PathGateway

open Duration DomainCircuitBreaker Fleet Machine List Option

def MarkPhase.isDecided : MarkPhase → Bool
  | .decided _ => true
  | _ => false

def MarkCall.decides (call : MarkCall) (serviceID domain : String) : Bool :=
  call.serviceID = serviceID && call.domain = domain && call.phase.isDecided

def raisesHitCount : Option BrokenDomainState → Option BrokenDomainState → Bool
  | _, none => false
  | none, some _ => true
  | some state, some state' => state.hitCount < state'.hitCount

def GetCall.read (call : GetCall) (domain : String) : Option BrokenDomainState :=
  match call.phase with
  | .merging _ domains => domains.lookup domain
  | _ => none

namespace Pod

section Effect

variable (cfg : BreakerConfig) (p : Pod) (serviceID domain : String)

def Deciding (k : ℕ) : Prop :=
  ∃ call, p.marks[k]? = some call ∧ call.decides serviceID domain = true

inductive Effect : PodEvent → Pod → Prop where
  | quiet {event p'} (hmarks : ∀ k, p'.Deciding serviceID domain k → p.Deciding serviceID domain k)
      (hstate : ∀ state, p'.breaker.stateOf serviceID domain = some state →
        p.breaker.stateOf serviceID domain = some state) : Effect event p'
  | decides {i call p'} (hcall : p.marks[i]? = some call)
      (hkey : call.serviceID = serviceID ∧ call.domain = domain)
      (hbreaks : (p.breaker.shouldBreak cfg serviceID domain call.now).2.isSome = true)
      (hmarks : ∀ k, p'.Deciding serviceID domain k → k = i ∨ p.Deciding serviceID domain k)
      (hstate : p'.breaker.stateOf = p.breaker.stateOf) : Effect (.gate i) p'
  | writes {i p'} (hdecides : p.Deciding serviceID domain i)
      (hmarks : ∀ k, p'.Deciding serviceID domain k → k ≠ i ∧ p.Deciding serviceID domain k) :
      Effect (.write i) p'
  | merges {i call now domains state p'} (hcall : p.gets[i]? = some call)
      (hp : call.phase = .merging now domains) (hkey : call.serviceID = serviceID)
      (hread : domains.lookup domain = some state) (hmarks : p'.marks = p.marks)
      (hstate : p'.breaker.stateOf serviceID domain = some state) : Effect (.merge i) p'

end Effect

variable {cfg : BreakerConfig} {p p' : Pod} {serviceID domain : String} {clock : Time}
  {redis : Option RedisStore} {event : PodEvent} {move : PodMove}

variable {i k : ℕ} {call : MarkCall} {phase : MarkPhase} {later : Time}

theorem marks_setMark {c : MarkCall} (h : (p.setMark i call phase).marks[k]? = some c) :
    (k = i ∧ c = { call with phase := phase }) ∨ (k ≠ i ∧ p.marks[k]? = some c) := by
  rw [setMark, getElem?_set] at h
  split at h
  · rename_i heq
    split at h
    · exact .inl ⟨heq.symm, (some.inj h).symm⟩
    · cases h
  · rename_i hne
    exact .inr ⟨Ne.symm hne, h⟩

theorem deciding_setMark (hphase : phase.isDecided = false)
    (h : (p.setMark i call phase).Deciding serviceID domain k) :
    k ≠ i ∧ p.Deciding serviceID domain k := by
  obtain ⟨c, hc, hdecides⟩ := h
  rcases marks_setMark hc with ⟨-, rfl⟩ | ⟨hne, hold⟩
  · simp [MarkCall.decides, hphase] at hdecides
  · exact ⟨hne, c, hold, hdecides⟩

theorem effect_of_moves (serviceID domain : String) (h : Moves cfg clock redis p event move) :
    Effect cfg p serviceID domain event move.pod := by
  cases h with
  | nameless | success | fresh | stale | hGetAll | judged | hDel | forgot | del =>
    exact .quiet (fun _ hd => hd) fun _ hs => hs
  | marked =>
    refine .quiet (fun k hd => ?_) fun _ hs => hs
    obtain ⟨call, hc, hdecides⟩ := hd
    rw [markBroken, getElem?_append] at hc
    split at hc
    · exact ⟨call, hc, hdecides⟩
    · have hnew := mem_of_getElem? hc
      rw [mem_singleton.mp hnew] at hdecides
      simp [MarkCall.decides, MarkPhase.isDecided] at hdecides
  | duplicate | checked | hSet =>
    exact .quiet (fun _ hd => (deciding_setMark rfl hd).2) fun _ hs => hs
  | @gated i call breaker hitCount hcall hp hgate =>
    have hstate : breaker.stateOf = p.breaker.stateOf := by
      unfold shouldBreak at hgate
      dsimp only at hgate
      split at hgate <;> cases hgate <;> rfl
    cases hitCount with
    | none =>
      refine .quiet (fun _ hd => (deciding_setMark rfl hd).2) fun _ hs => ?_
      rwa [hstate] at hs
    | some =>
      by_cases hkey : call.serviceID = serviceID ∧ call.domain = domain
      · refine .decides hcall hkey ?_ (fun k hd => ?_) hstate
        · rw [← hkey.1, ← hkey.2, hgate]
          rfl
        · obtain ⟨c, hc, hdecides⟩ := hd
          rcases marks_setMark hc with ⟨hk, -⟩ | ⟨-, hold⟩
          · exact .inl hk
          · exact .inr ⟨c, hold, hdecides⟩
      · refine .quiet (fun k hd => ?_) fun _ hs => ?_
        · obtain ⟨c, hc, hdecides⟩ := hd
          rcases marks_setMark hc with ⟨-, rfl⟩ | ⟨-, hold⟩
          · simp only [MarkCall.decides, Bool.and_eq_true, decide_eq_true_iff] at hdecides
            exact absurd hdecides.1 hkey
          · exact ⟨c, hold, hdecides⟩
        · rwa [hstate] at hs
  | @wrote i call hitCount phase hcall hp hphase =>
    have hnot : phase.isDecided = false := by rcases hphase with rfl | rfl <;> rfl
    by_cases hkey : call.serviceID = serviceID ∧ call.domain = domain
    · refine .writes ⟨call, hcall, ?_⟩ fun _ hd => deciding_setMark hnot hd
      simp [MarkCall.decides, hkey, hp, MarkPhase.isDecided]
    · refine .quiet (fun _ hd => (deciding_setMark hnot hd).2) fun state hs => ?_
      rw [stateOf_storeState, if_neg fun heq => hkey ⟨heq.1.symm, heq.2.symm⟩] at hs
      exact hs
  | refreshed =>
    exact .quiet (fun _ hd => hd) fun _ hs => stateOf_refreshLocal hs
  | @merged i call now domains hcall hp =>
    by_cases hkey : serviceID = call.serviceID
    · cases hmerged : (p.breaker.merged call.serviceID now domains).lookup domain with
      | none =>
        refine .quiet (fun _ hd => hd) fun state hs => ?_
        rw [stateOf_storeEntry, if_pos hkey, hmerged] at hs
        cases hs
      | some state =>
        have hstate : (p.breaker.storeEntry cfg call.serviceID now
            (p.breaker.merged call.serviceID now domains)).stateOf serviceID domain =
              some state := by
          rw [stateOf_storeEntry, if_pos hkey, hmerged]
        rcases lookup_merged hmerged with hread | ⟨hlocal, -⟩
        · exact .merges hcall hp hkey.symm hread rfl hstate
        · refine .quiet (fun _ hd => hd) fun state' hs => ?_
          rw [hstate] at hs
          cases hs
          rwa [hkey]
    · refine .quiet (fun _ hd => hd) fun state hs => ?_
      rw [stateOf_storeEntry, if_neg hkey] at hs
      exact hs
  | cleared =>
    refine .quiet (fun _ hd => hd) fun state hs => ?_
    rw [clearService, stateOf_clearCache] at hs
    split at hs
    · cases hs
    · exact hs

structure Alone (p : Pod) (clock : Time) (serviceID domain : String) : Prop where
  unbroken : ∀ k, p.Deciding serviceID domain k →
    p.breaker.alreadyBroken serviceID domain clock = false
  unique : ∀ k l, p.Deciding serviceID domain k → p.Deciding serviceID domain l → k = l

theorem alreadyBroken_mono {cb cb' : DomainCircuitBreaker} (hle : clock ≤ later) (hstate : ∀ state,
      cb'.stateOf serviceID domain = some state → cb.stateOf serviceID domain = some state)
    (h : cb.alreadyBroken serviceID domain clock = false) :
    cb'.alreadyBroken serviceID domain later = false := by
  rw [alreadyBroken, Option.any_eq_false] at h ⊢
  intro state hs
  have hexpired := h state (hstate state hs)
  rw [decide_eq_false_iff_not, not_lt] at hexpired ⊢
  exact hexpired.trans hle

theorem raisesHitCount_of_shrinks {a b : Option BrokenDomainState}
    (h : ∀ state, b = some state → a = some state) : raisesHitCount a b = false := by
  cases b with
  | none => rfl
  | some state =>
    rw [h state rfl]
    exact decide_eq_false (lt_irrefl _)

/-- When a call comes to the gate and finds it open, no break of the domain is in effect or on its
way to the cache; and a refresh brings no state of it from Redis that would be a higher hit
count or meet a break on its way. -/
def BreaksAlone (cfg : BreakerConfig) (clock : Time) (serviceID domain : String) (p : Pod) :
    PodEvent → Prop
  | .gate i => ∀ call ∈ p.marks[i]?, call.serviceID = serviceID → call.domain = domain →
    (p.breaker.shouldBreak cfg serviceID domain call.now).2.isSome = true →
      p.breaker.alreadyBroken serviceID domain clock = false ∧
        ∀ c ∈ p.marks, c.decides serviceID domain = false
  | .merge i => ∀ call ∈ p.gets[i]?, call.serviceID = serviceID → ∀ state ∈ call.read domain,
    (∀ c ∈ p.marks, c.decides serviceID domain = false) ∧
      ∀ current ∈ p.breaker.stateOf serviceID domain, clock < current.expiry →
        state.hitCount ≤ current.hitCount
  | _ => True

instance (cfg : BreakerConfig) (clock : Time) (serviceID domain : String) (p : Pod) :
    DecidablePred (p.BreaksAlone cfg clock serviceID domain)
  | .gate i => inferInstanceAs (Decidable (∀ call ∈ p.marks[i]?, _ → _ → _ → _))
  | .merge i => inferInstanceAs (Decidable (∀ call ∈ p.gets[i]?, _ → ∀ state ∈ call.read domain, _))
  | .recordSuccess _ _ | .markBroken _ _ _ | .check _ | .write _ | .hSet _ _
  | .getBrokenDomains _ _ | .refreshLocal _ | .hGetAll _ _ | .judge _ | .hDel _ _
  | .clearService _ | .clearStats _ | .del _ _ => .isTrue trivial

theorem not_deciding (h : ∀ c ∈ p.marks, c.decides serviceID domain = false) :
    ¬p.Deciding serviceID domain k := by
  rintro ⟨c, hc, hdecides⟩
  rw [h c (mem_of_getElem? hc)] at hdecides
  cases hdecides

theorem Alone.step (h : p.Alone clock serviceID domain)
    (hle : clock ≤ later) (halone : p.BreaksAlone cfg clock serviceID domain event)
    (heffect : Effect cfg p serviceID domain event p') :
    p'.Alone later serviceID domain ∧ (p.breaker.alreadyBroken serviceID domain clock = true →
      raisesHitCount (p.breaker.stateOf serviceID domain) (p'.breaker.stateOf serviceID domain) =
      false) := by
  cases heffect with
  | quiet hmarks hstate =>
    refine ⟨⟨fun k hk => ?_, fun k l hk hl => h.unique k l (hmarks k hk) (hmarks l hl)⟩,
      fun _ => raisesHitCount_of_shrinks hstate⟩
    exact alreadyBroken_mono hle hstate (h.unbroken k (hmarks k hk))
  | @decides i call _ hcall hkey hbreaks hmarks hstate =>
    obtain ⟨hunbroken, hnone⟩ := halone call hcall hkey.1 hkey.2 hbreaks
    have honly : ∀ k, p'.Deciding serviceID domain k → k = i := fun k hk =>
      (hmarks k hk).resolve_right (not_deciding hnone)
    refine ⟨⟨fun k _ => ?_, fun k l hk hl => (honly k hk).trans (honly l hl).symm⟩, fun _ => ?_⟩
    · exact alreadyBroken_mono hle (fun _ hs => hstate ▸ hs) hunbroken
    · exact raisesHitCount_of_shrinks fun _ hs => hstate ▸ hs
  | @writes i _ hdecides hmarks =>
    have hnone : ∀ k, ¬p'.Deciding serviceID domain k := fun k hk =>
      (hmarks k hk).1 (h.unique k i (hmarks k hk).2 hdecides)
    refine ⟨⟨fun k hk => absurd hk (hnone k), fun k _ hk => absurd hk (hnone k)⟩, fun hbroken => ?_⟩
    rw [h.unbroken i hdecides] at hbroken
    cases hbroken
  | @merges i call now domains state _ hcall hp hkey hread hmarks hstate =>
    have hmem : state ∈ call.read domain := by rw [GetCall.read, hp]; exact hread
    obtain ⟨hnone, hhits⟩ := halone call hcall hkey state hmem
    have hnone' : ∀ k, ¬p'.Deciding serviceID domain k := by
      rintro k ⟨c, hc, hdecides⟩
      rw [hmarks] at hc
      exact not_deciding hnone ⟨c, hc, hdecides⟩
    refine ⟨⟨fun k hk => absurd hk (hnone' k), fun k _ hk => absurd hk (hnone' k)⟩,
      fun hbroken => ?_⟩
    rw [alreadyBroken, Option.any_eq_true] at hbroken
    obtain ⟨current, hcurrent, hlive⟩ := hbroken
    rw [hcurrent, hstate]
    exact decide_eq_false (not_lt.mpr (hhits current hcurrent (decide_eq_true_iff.mp hlive)))

end Pod

namespace Fleet

section Domain

variable (cfg : BreakerConfig) (i : ℕ) (serviceID domain : String) (s : Fleet)

def stateOf : Option BrokenDomainState :=
  s.pods[i]?.bind fun p => p.breaker.stateOf serviceID domain

def broken : Bool := s.pods[i]?.any fun p => p.breaker.alreadyBroken serviceID domain s.clock

def raises (s' : Fleet) : Bool :=
  raisesHitCount (s.stateOf i serviceID domain) (s'.stateOf i serviceID domain)

abbrev BreaksAlone : FleetEvent → Prop :=
  s.OnPod fun j p event => j = i → p.BreaksAlone cfg s.clock serviceID domain event

def Alone : Prop := ∀ p, s.pods[i]? = some p → p.Alone s.clock serviceID domain

end Domain

variable {cfg : BreakerConfig} {i : ℕ} {serviceID domain : String} {s s' : Fleet}
  {event : FleetEvent}

theorem Alone.step (h : s.Alone i serviceID domain)
    (halone : s.BreaksAlone cfg i serviceID domain event) (hstep : s.step cfg event = some s') :
    s'.Alone i serviceID domain ∧
    (s.broken i serviceID domain = true → s.raises i serviceID domain s' = false) := by
  have hsame (hpods : s'.pods[i]? = s.pods[i]?) (hle : s.clock ≤ s'.clock) :
      s'.Alone i serviceID domain ∧
        (s.broken i serviceID domain = true → s.raises i serviceID domain s' = false) := by
    refine ⟨fun p hp => ?_, fun _ => ?_⟩
    · obtain ⟨hunbroken, hunique⟩ := h p (hpods ▸ hp)
      exact ⟨fun k hk => Pod.alreadyBroken_mono hle (fun _ hs => hs) (hunbroken k hk), hunique⟩
    · rw [raises, stateOf, stateOf, hpods]
      exact Pod.raisesHitCount_of_shrinks fun _ hs => hs
  have hle := clock_le_of_step hstep
  rcases moves_of_step hstep with ⟨elapsed, rfl, rfl⟩ | ⟨j, e, p, move, rfl, hp, hmove, rfl⟩
  · exact hsame rfl hle
  · by_cases hj : j = i
    · subst hj
      have hlt : j < s.pods.length := (List.getElem?_eq_some_iff.mp hp).1
      have hset : (s.pods.set j move.pod)[j]? = some move.pod := by
        rw [getElem?_set_self hlt]
      obtain ⟨halone', hraises⟩ :=
        (h p hp).step hle (halone p hp rfl) (Pod.effect_of_moves serviceID domain hmove)
      refine ⟨fun q hq => ?_, fun hbroken => ?_⟩
      · rw [hset] at hq
        cases hq
        exact halone'
      · rw [broken, hp] at hbroken
        simp only [raises, stateOf, hset, hp, bind_some]
        exact hraises hbroken
    · exact hsame (getElem?_set_ne hj) hle

/-- Between two instants, with the domain broken at all that lie between, the hit count goes up at
most once, in the runs in which each break is decided on alone. -/
theorem raises_at_most_once (cfg : BreakerConfig) (clock : Time) (pods : ℕ)
    (redis : Option RedisStore) (i : ℕ) (serviceID domain : String) (pre mid : List FleetEvent)
    (u : Fleet) (hrun : run (step cfg) (start clock pods redis) pre = some u)
    (hbroken : ∀ front rest w, mid = front ++ rest → front ≠ [] → rest ≠ [] →
      run (step cfg) u front = some w → w.broken i serviceID domain = true)
    (halone : Machine.Meets (step cfg) (BreaksAlone cfg i serviceID domain)
      (start clock pods redis) (pre ++ mid)) :
    countSteps (step cfg) (raises i serviceID domain) u mid ≤ 1 := by
  obtain ⟨hpre, hmeets⟩ := halone.of_append hrun
  have hstart : (start clock pods redis).Alone i serviceID domain := by
    intro p hp
    rw [eq_of_mem_replicate (mem_of_getElem? hp)]
    have hnone : ∀ k, ¬Pod.start.Deciding serviceID domain k := by
      rintro k ⟨c, hc, -⟩
      cases hc
    exact ⟨fun k hk => absurd hk (hnone k), fun k _ hk => absurd hk (hnone k)⟩
  have hu := invariant (fun s event s' h hC hs => (Alone.step h hC hs).1) hstart hpre hrun
  exact countSteps_le_one (fun s event s' h hC hs => Alone.step h hC hs) hu hmeets hbroken

end Fleet

section Sample

def oneEpisode : List FleetEvent :=
  [.pod 0 (.write 4), .pod 0 (.markBroken "eth" "a.example.com" []), .pod 0 (.check 5),
    .tick (61 * second)]

theorem late_call_raises_nothing : ∃ u,
    run (Fleet.step newDomainCircuitBreaker) (Fleet.start 0 1 none) (failing 0 0 5) =
        some u ∧
      u.broken 0 "eth" "a.example.com" = false ∧
      countSteps (Fleet.step newDomainCircuitBreaker)
        (Fleet.raises 0 "eth" "a.example.com") u oneEpisode = 1 ∧
      countSteps (Fleet.step newDomainCircuitBreaker)
        (Fleet.raises 0 "eth" "a.example.com") u oneEpisode ≤ 1 := by
  refine exists_of_any (fun u => u.broken 0 "eth" "a.example.com" = false ∧
    countSteps (step newDomainCircuitBreaker) (raises 0 "eth" "a.example.com") u oneEpisode = 1 ∧
    ([1, 2, 3].all fun k => (run (step newDomainCircuitBreaker) u
      (oneEpisode.take k)).all (broken 0 "eth" "a.example.com")) = true)
    (by decide +kernel) fun u hrun hu => ?_
  obtain ⟨hunbroken, hone, hinner⟩ := hu
  refine ⟨hunbroken, hone, ?_⟩
  refine raises_at_most_once newDomainCircuitBreaker 0 1 none 0 "eth" "a.example.com" _
    oneEpisode u hrun (fun front rest w heq hfront hrest hw => ?_) (by decide +kernel)
  have htake : oneEpisode.take front.length = front := by rw [heq, take_left]
  have hlength : front.length + rest.length = 4 := by
    rw [← length_append, ← heq]
    rfl
  have hpos := length_pos_iff.mpr hfront
  have hpos' := length_pos_iff.mpr hrest
  have hmem : front.length ∈ [1, 2, 3] := by
    simp only [mem_cons, not_mem_nil]
    omega
  have hall := all_eq_true.mp hinner front.length hmem
  rwa [htake, hw] at hall

def atOnce : List FleetEvent :=
  replicate 10 (.pod 0 (.markBroken "eth" "a.example.com" [])) ++
    (range 10).map (fun k => .pod 0 (.check k)) ++
    (range 10).map (fun k => .pod 0 (.gate k))

theorem escalated_twice : ∃ u,
    run (Fleet.step newDomainCircuitBreaker) (Fleet.start 0 1 none) atOnce = some u ∧
      [[], [.pod 0 (.write 4)], [.pod 0 (.write 4), .pod 0 (.write 9)],
          [.pod 0 (.write 4), .pod 0 (.write 9), .tick (121 * second)]].map (fun events =>
        (run (Fleet.step newDomainCircuitBreaker) u events).map fun w =>
          (w.broken 0 "eth" "a.example.com", w.stateOf 0 "eth" "a.example.com")) =
        [some (false, none), some (true, some ⟨60 * second, 1, []⟩),
          some (true, some ⟨120 * second, 2, []⟩), some (false, some ⟨120 * second, 2, []⟩)] ∧
      countSteps (Fleet.step newDomainCircuitBreaker)
        (Fleet.raises 0 "eth" "a.example.com") u
        [.pod 0 (.write 4), .pod 0 (.write 9), .tick (121 * second)] = 2 := by
  decide +kernel

end Sample

end PathGateway
