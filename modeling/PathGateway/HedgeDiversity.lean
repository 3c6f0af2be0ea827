import PathGateway.HedgeContexts
import PathGateway.SingleRelay

/-! The hedge of a single request. The racer keeps its hedge away from the operator of the endpoint
that it is told is the primary one, the first of the validated endpoints; the relay goes to the
endpoint of the context that was built with the request. -/

namespace PathGateway

open Single Machine Racer List

theorem exists_rank_select {net : NetLib} {endpoints : List EndpointAddr}
    {primary ep : EndpointAddr} (hmem : ep ∈ hedgeCandidates net endpoints primary) :
    ∃ rank, Picks rank ∧ selectHedgeEndpoint net endpoints primary rank = ep := by
  refine ⟨fun eps => if ep ∈ eps then ep else eps.headD "", fun eps hne => ?_, ?_⟩
  · dsimp only
    split_ifs with h
    · exact h
    · obtain ⟨e, es, rfl⟩ := exists_cons_of_ne_nil hne
      exact mem_cons_self
  · rw [selectHedgeEndpoint_eq, if_neg (ne_nil_of_mem hmem), if_pos hmem]

namespace Racer

variable {net : NetLib} {heur : Heuristics} {payload : Payload} {callerErr : Option GoError}
  {r r' : Racer} {event : RaceEvent}

theorem step_primaryEndpoint (h : r.step net heur payload callerErr event = some r') :
    r'.primaryEndpoint = r.primaryEndpoint := by
  cases moves_of_step h with
  | drain hd hc =>
    rename_i n _ _
    cases n <;> rfl
  | _ => rfl

end Racer

namespace Single

variable {cfg : SingleConfig} {s s' : Single} {target : EndpointAddr} {event : SingleEvent}

structure Opening (target : EndpointAddr) (s : Single) : Prop where
  attempt : 1 ≤ s.attempt
  fresh : s.phase = .attempting → s.attempt = 1 →
    s.starts = [] ∧ s.racer = none ∧ s.target = target ∧ s.capabilityFailures = 0
  paced : Racer.Paced (s.phase = .racing) s.racer
  awaiting : ∀ r, s.racer = some r → r.phase = .awaitDelay → s.starts = [⟨target, false⟩] ∧
    s.target = target ∧ r.primaryEndpoint = r.availableEndpoints.headD ""

theorem opening_of_paced (hattempt : 1 ≤ s.attempt) (hpaced : Racer.Paced False s.racer)
    (hp : s.phase ≠ .racing) (hfresh : s.phase = .attempting → s.attempt ≠ 1) : Opening target s :=
  ⟨hattempt, fun ha hone => absurd hone (hfresh ha), hpaced.rests not_false hp,
    fun _ hr hdelay => (hpaced.awaits hr hdelay).elim⟩

theorem opening_start : Opening target (start cfg target) := by
  rw [start]
  split
  · exact ⟨le_rfl, fun _ _ => ⟨rfl, rfl, rfl, rfl⟩, paced_none, by simp⟩
  · exact opening_of_paced le_rfl paced_none (by simp [exhaust]) (by simp [exhaust])

variable {r : Racer}

theorem Begins.opening {answers : AttemptAnswers} (hbegins : Begins cfg s answers s')
    (h : Opening target s) (hp : s.phase = .attempting) : Opening target s' := by
  have hpaced : Racer.Paced False s.racer := h.paced.rests (by simp [hp]) not_false
  cases hbegins with
  | clientGone => exact opening_of_paced h.attempt hpaced (by simp) (by simp)
  | exhaust =>
    exact opening_of_paced h.attempt hpaced (by simp [Single.exhaust]) (by simp [Single.exhaust])
  | relay | retry =>
    exact opening_of_paced h.attempt hpaced (by simp [startRelay]) (by simp [startRelay])
  | race hclient hfirst =>
    obtain ⟨hstarts, -, htarget, -⟩ := h.fresh hp hfirst
    refine ⟨h.attempt, by simp [startRace], paced_start rfl, ?_⟩
    rintro _ ⟨⟩ -
    exact ⟨by simp [startRace, hstarts, htarget], htarget, rfl⟩

theorem Races.opening {r' : Racer} {raceEvent : RaceEvent} (hraces : Races cfg s r' raceEvent s')
    (h : Opening target s) (hracer : s.racer = some r)
    (hstep : r.step cfg.net cfg.heur cfg.payload s.clientErr raceEvent = some r') :
    Opening target s' := by
  cases hraces with
  | running hadds hlive =>
    refine ⟨h.attempt, fun hp hone => ?_, h.paced.running hracer hstep hlive, ?_⟩
    · cases hracer.symm.trans (h.fresh hp hone).2.1
    · rintro _ ⟨⟩ hdelay
      obtain ⟨hbefore, hother⟩ := awaitDelay_of_step hstep hdelay
      rw [step_primaryEndpoint hstep, step_availableEndpoints hstep]
      rcases hadds with rfl | ⟨⟨rank, buildErr, heq⟩, -⟩
      · exact h.awaiting r hracer hbefore
      · exact absurd heq (hother rank buildErr)
  | ended hadds hp hover hends =>
    have hattempt := h.attempt
    have hpaced := h.paced.ends hracer hstep hover
    cases hends with
    | returned => exact opening_of_paced hattempt hpaced (by simp) (by simp)
    | again =>
      refine opening_of_paced (Nat.le_succ_of_le hattempt) hpaced (by simp) fun _ => ?_
      dsimp only
      omega

theorem Opening.step (h : Opening target s) (hstep : s.step cfg event = some s') :
    Opening target s' := by
  have hattempt := h.attempt
  cases moves_of_step hstep with
  | clientDone => exact ⟨hattempt, h.fresh, h.paced, h.awaiting⟩
  | attempt hp hbegins => exact hbegins.opening h hp
  | race hracer hmove hraces => exact hraces.opening h hracer hmove
  | relayDone hp hends =>
    have hpaced : Racer.Paced False s.racer := h.paced.rests (by simp [hp]) not_false
    cases hends <;> exact opening_of_paced hattempt hpaced (by simp) (by simp)
  | delayOver hp =>
    refine opening_of_paced (Nat.le_succ_of_le hattempt) ?_ (by simp) fun _ => ?_
    · exact h.paced.rests (by simp [hp]) not_false
    · dsimp only
      omega
  | delayCut hp =>
    refine opening_of_paced hattempt ?_ (by simp) (by simp)
    exact h.paced.rests (by simp [hp]) not_false

theorem opening_of_run {events : List SingleEvent}
    (hrun : run (Single.step cfg) (start cfg target) events = some s) : Opening target s :=
  invariant_of_step (fun _ _ _ => Opening.step) opening_start hrun

/-- The hedge goes to another operator than the relay that it races, where that one's operator is
known. -/
def HedgesElsewhere (net : NetLib) (s : Single) : Prop :=
  ∀ primary hedge, s.starts = [primary, hedge] →
    extractRegistrableDomain net primary.endpointAddr ≠ "" →
    extractRegistrableDomain net hedge.endpointAddr ≠
      extractRegistrableDomain net primary.endpointAddr

/-- The first of the endpoints is of the operator that is relayed to, or none of them is. -/
def FirstStandsFor (net : NetLib) (target : EndpointAddr) (endpoints : List EndpointAddr) : Prop :=
  extractRegistrableDomain net target = "" ∨
    extractRegistrableDomain net (endpoints.headD "") = extractRegistrableDomain net target ∨
    ∀ ep ∈ endpoints, extractRegistrableDomain net ep ≠ extractRegistrableDomain net target

theorem starts_of_delayElapsed {rank : List EndpointAddr → EndpointAddr} {buildErr : Option GoError}
    (hracer : s.racer = some r)
    (hstep : s.step cfg (.race (.delayElapsed rank buildErr)) = some s') :
    s'.starts =
      if selectHedgeEndpoint cfg.net r.availableEndpoints r.primaryEndpoint rank ≠ "" ∧
          buildErr = none then
        s.starts ++ [⟨selectHedgeEndpoint cfg.net r.availableEndpoints r.primaryEndpoint rank,
          r.cancelled⟩]
      else s.starts := by
  simp only [step, hracer] at hstep
  obtain ⟨r', hr', rfl⟩ := Option.map_eq_some_iff.mp hstep
  cases Racer.moves_of_step hr'
  rw [afterRaceStep]
  simp only [noteRace, Racer.startHedge]
  by_cases hstarts : selectHedgeEndpoint cfg.net r.availableEndpoints r.primaryEndpoint rank ≠ "" ∧
      buildErr = none
  · simp [hstarts]
  · simp [hstarts]

theorem extractRegistrableDomain_empty {net : NetLib} : extractRegistrableDomain net "" = "" := by
  simp [extractRegistrableDomain, rawURLFromEndpoint, fromSeparator]

/-- Whatever the ranking, the hedge goes elsewhere: exactly if the first of the validated
endpoints stands for the endpoint that is relayed to. -/
theorem hedgesElsewhere_iff (cfg : SingleConfig) (target : EndpointAddr) (events : List SingleEvent)
    (s : Single) (r : Racer)
    (hrun : run (Single.step cfg) (start cfg target) events = some s)
    (hracer : s.racer = some r) (hdelay : r.phase = .awaitDelay) :
    (∀ rank buildErr s', Picks rank →
      s.step cfg (.race (.delayElapsed rank buildErr)) = some s' → HedgesElsewhere cfg.net s') ↔
      FirstStandsFor cfg.net target r.availableEndpoints := by
  obtain ⟨hstarts, htarget, hprimary⟩ := (opening_of_run hrun).awaiting r hracer hdelay
  constructor
  · intro helsewhere
    by_contra hnot
    simp only [FirstStandsFor, not_or, not_forall, not_not] at hnot
    obtain ⟨hknown, hhead, ep, hmem, hsame⟩ := hnot
    have hcandidate : ep ∈ hedgeCandidates cfg.net r.availableEndpoints r.primaryEndpoint := by
      rw [mem_hedgeCandidates, hprimary]
      refine ⟨hmem, fun heq => hhead (heq ▸ hsame), fun _ heq => hhead (heq.trans hsame)⟩
    obtain ⟨rank, hpicks, hselect⟩ := exists_rank_select hcandidate
    have hne : ep ≠ "" := by
      rintro rfl
      exact hknown (hsame.symm.trans extractRegistrableDomain_empty)
    have hstep : s.step cfg (.race (.delayElapsed rank none)) =
        some (s.afterRaceStep cfg (r.startHedge cfg.net rank none) (.delayElapsed rank none)) := by
      obtain ⟨first, rest, hlist⟩ := exists_cons_of_ne_nil (ne_nil_of_mem hmem)
      simp [step, hracer, Racer.step, hdelay, hlist]
    have hafter := starts_of_delayElapsed hracer hstep
    rw [hselect, if_pos ⟨hne, rfl⟩, hstarts] at hafter
    exact helsewhere rank none _ hpicks hstep _ _ hafter hknown hsame
  · rintro hfirst rank buildErr s' hpicks hstep primary hedge hboth hknown
    have hafter := starts_of_delayElapsed hracer hstep
    rw [hboth, hstarts] at hafter
    split_ifs at hafter with hstarted
    · obtain ⟨rfl, rfl⟩ : primary = ⟨target, false⟩ ∧ hedge = ⟨selectHedgeEndpoint cfg.net
          r.availableEndpoints r.primaryEndpoint rank, r.cancelled⟩ := by simpa using hafter
      obtain ⟨hmem, -, hdomain⟩ := mem_hedgeCandidates.mp
        (mem_candidates_of_select hpicks hstarted.1)
      rcases hfirst with hunknown | hhead | hnone
      · exact absurd hunknown hknown
      · rw [hprimary] at hdomain hmem ⊢
        rw [hhead] at hdomain
        exact (hdomain hknown).symm
      · exact hnone _ hmem
    · cases hafter

end Single

def sampleRequest (hedgeDelay : Option Int) : SingleConfig where
  net := NetLib.ascii
  heur := calmHeuristics
  payload := ⟨"", "", .jsonRPC, .unknownRPC, "eth_blockNumber"⟩
  retryConfig := some ⟨some true, some 2, some true, some true, some true, none, hedgeDelay, none⟩
  circuitBreaker := none

def opensRace : List SingleEvent :=
  [.attempt (offer [addrA, addrB])]

theorem hedgesElsewhere_iff_first : ∃ s r,
    run (Single.step (sampleRequest (some 100)))
        (Single.start (sampleRequest (some 100)) addrA) opensRace =
        some s ∧
      s.racer = some r ∧ r.phase = .awaitDelay ∧
      ∀ rank buildErr s', Picks rank →
        s.step (sampleRequest (some 100)) (.race (.delayElapsed rank buildErr)) = some s' →
        s'.HedgesElsewhere .ascii := by
  obtain ⟨s, hrun, hs⟩ : ∃ s, run (step (sampleRequest (some 100)))
      (start (sampleRequest (some 100)) addrA) opensRace = some s ∧
      s.racer = some (start addrA
        [addrA, addrB]) := ⟨_, rfl, rfl⟩
  refine ⟨s, _, hrun, hs, rfl, ?_⟩
  exact (hedgesElsewhere_iff _ _ _ s _ hrun hs rfl).mpr (.inr (.inl rfl))

theorem hedge_races_itself : ∃ s,
    run (Single.step (sampleRequest (some 100)))
        (Single.start (sampleRequest (some 100)) addrB)
        (opensRace ++ [.race (.delayElapsed (fun eps => eps.headD "") none)]) = some s ∧
      s.starts = [⟨addrB, false⟩, ⟨addrB, false⟩] ∧
      ¬s.HedgesElsewhere .ascii := by
  refine exists_of_any (fun s => s.starts = [⟨addrB, false⟩,
    ⟨addrB, false⟩]) (by decide +kernel) fun s hrun hstarts => ?_
  exact ⟨hstarts, fun h => h _ _ hstarts (by decide +kernel) rfl⟩

end PathGateway
