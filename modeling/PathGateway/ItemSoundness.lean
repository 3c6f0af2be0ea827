import PathGateway.BatchItem

/-! A batch item that reports no error returns a checked response of one of its relays,
unless it never sent one. -/

namespace PathGateway

open Machine Option List

namespace Item

variable {cfg : ItemConfig} {s s' : Item}

/-- Without an error, the response is one that a relay produced and that passes the check. -/
def SoundReturn (cfg : ItemConfig) (s : Item) : Prop :=
  ∀ resp, s.phase = .returned resp none → ∃ got ∈ s.produced,
    resp = { got with requestID := cfg.requestID } ∧ (cfg.check got).success = true

structure Carries (s : Item) : Prop where
  attempt_pos : 1 ≤ s.attempt
  raced : ∀ r, s.racer = some r → ∀ result ∈ r.results, ∀ resp ∈ result.responses,
    resp ∈ s.produced

theorem Carries.of_eq {t : Item} (h : Carries s) (ha : t.attempt = s.attempt)
    (hr : t.racer = s.racer) (hp : t.produced = s.produced) : Carries t := by
  refine ⟨by rw [ha]; exact h.attempt_pos, ?_⟩
  rw [hr, hp]
  exact h.raced

structure Backed (cfg : ItemConfig) (s : Item) : Prop extends Carries s where
  failed : s.phase = .attempting → s.attempt ≠ 1 → s.lastErr ≠ none
  fresh : s.phase = .attempting → s.attempt = 1 → s.triedEndpoints = [] ∧
    s.triedDomains = cfg.brokenDomains ∧ s.lastErr = none ∧ s.racer = none ∧ s.produced = []
  sound : SoundReturn cfg s

theorem Carries.backed (h : Carries s) (ha : s.phase ≠ .attempting)
    (hr : ∀ resp, s.phase ≠ .returned resp none) : Backed cfg s :=
  ⟨h, fun hp => absurd hp ha, fun hp => absurd hp ha, fun resp hp => absurd hp (hr resp)⟩

theorem Leaves.backed {limited : Bool} (h : Leaves s limited s') (hc : Carries s)
    (he : s.lastErr ≠ none) : Backed cfg s' := by
  have hpos := hc.attempt_pos
  cases h with
  | again =>
    refine ⟨⟨Nat.le_succ_of_le hpos, hc.raced⟩, fun _ _ => he, fun _ hone => ?_, fun resp hp => ?_⟩
    · dsimp only at hone
      omega
    · cases hp
  | givenUp =>
    refine Carries.backed (hc.of_eq rfl rfl rfl) (by simp) fun resp hp => he ?_
    exact (ItemPhase.returned.inj hp).2

theorem Carries.backed_startRelay (h : Carries s) (afterRace : Bool) :
    Backed cfg (s.startRelay afterRace) :=
 Carries.backed (h.of_eq rfl rfl rfl) (by simp [startRelay]) (by simp [startRelay])

/-- The endpoints of an attempt are used up by the breaker alone. -/
def Starved (cfg : ItemConfig) (s : Item) (event : ItemEvent) : Prop :=
  ∃ answers ep eps, event = .attempt answers ∧ s.phase = .attempting ∧ s.attempt = 1 ∧
    s.clientErr = none ∧ answers.available = .ok (ep :: eps) ∧
    ∀ e ∈ answers.validated (ep :: eps), domainTried cfg.net cfg.brokenDomains e = true

theorem filterEndpoints_eq_nil {net : NetLib}
    {available : List EndpointAddr} {triedDomains : List String} :
    filterEndpoints net available [] triedDomains = [] ↔
      ∀ e ∈ available, domainTried net triedDomains e = true := by
  rw [eq_nil_iff_forall_not_mem]
  simp [mem_filterEndpoints]

theorem Begins.backed {answers : AttemptAnswers} (hbegins : Begins cfg s answers s')
    (h : Backed cfg s) (hp : s.phase = .attempting) (hs : ¬Starved cfg s (.attempt answers)) :
    Backed cfg s' := by
  cases hbegins with
  | clientGone => exact Carries.backed (h.of_eq rfl rfl rfl) (by simp) (by simp)
  | unavailable hleaves => exact hleaves.backed (h.of_eq rfl rfl rfl) (by simp)
  | @starved ep eps _ hclient havailable hnone hleaves =>
    refine hleaves.backed h.toCarries ?_
    by_cases hone : s.attempt = 1
    · -- a first attempt has tried nothing but the broken domains
      obtain ⟨htried, hdomains, -⟩ := h.fresh hp hone
      rw [htried, hdomains, filterEndpoints_eq_nil] at hnone
      exact absurd ⟨answers, ep, eps, rfl, hp, hone, hclient, havailable, hnone⟩ hs
    · exact h.failed hp hone
  | uses hclient havailable hfiltered hselected huses =>
    cases huses with
    | unbuilt hleaves => exact hleaves.backed (h.of_eq rfl rfl rfl) (by simp)
    | race =>
      refine Carries.backed ⟨h.attempt_pos, fun r hr result hres => ?_⟩ (by simp [startRace])
        (by simp [startRace])
      cases hr
      simp [Racer.results, Racer.held, Racer.start] at hres
    | relay =>
      refine Carries.backed_startRelay ?_ false
      exact h.of_eq rfl rfl rfl

theorem Carries.note {responses : List Response} (h : Carries s) :
    Carries { s with produced := s.produced ++ responses } :=
  ⟨h.attempt_pos, fun r hr result hres resp hresp =>
    mem_append_left _ (h.raced r hr result hres resp hresp)⟩

theorem backed_returned (h : Carries s) {got : Response} (hgot : got ∈ s.produced)
    (hcheck : (cfg.check got).success = true) :
    Backed cfg { s with phase := .returned { got with requestID := cfg.requestID } none } := by
  refine ⟨h.of_eq rfl rfl rfl, by simp, by simp, fun resp hp => ⟨got, hgot, ?_, hcheck⟩⟩
  simpa using hp.symm

variable {result : RelayResult} {event : ItemEvent}

theorem RaceEnds.backed {hedgeEndpoint : EndpointAddr}
    (hends : RaceEnds cfg s hedgeEndpoint result s')
    (h : Carries s) (hres : ∀ resp ∈ result.responses, resp ∈ s.produced) : Backed cfg s' := by
  cases hends with
  | passed hresp hpass => exact backed_returned h (hres _ hresp) hpass
  | failed _ _ _ _ hleaves => exact hleaves.backed (h.of_eq rfl rfl rfl) (by simp)
  | unanswered => exact h.backed_startRelay true

theorem RelayEnds.backed {cut : Bool} (hends : RelayEnds cfg s cut result s') (h : Carries s) :
    Backed cfg s' := by
  have hn : Carries { s with produced := s.produced ++ result.responses } := h.note
  cases hends with
  | passed hresp hpass => exact backed_returned hn (mem_append_right _ hresp) hpass
  | failed _ hleaves => exact hleaves.backed (hn.of_eq rfl rfl rfl) (by simp)

theorem Races.backed {r r' : Racer} {event : RaceEvent} (hraces : Races cfg s r' event s')
    (h : Backed cfg s) (hr : s.racer = some r)
    (hstep : r.step cfg.net cfg.heur cfg.payload s.clientErr event = some r') : Backed cfg s' := by
  have hraced : ∀ result ∈ r'.results, ∀ resp ∈ result.responses,
      resp ∈ s.produced ++ event.responses := by
    intro result hres resp hresp
    rcases Racer.responses_of_step hstep hres hresp with hnew | ⟨old, hold, hresp⟩
    · exact mem_append_right _ hnew
    · exact mem_append_left _ (h.raced r hr old hold resp hresp)
  have hcar {starts selfInflicted} : Carries (s.noted r' event starts selfInflicted) :=
    ⟨h.attempt_pos, fun q hq => some.inj hq ▸ hraced⟩
  cases hraces with
  | ended _ _ hover hends =>
    exact hends.backed hcar (hraced _ (by simp [Racer.results, Racer.held, hover]))
  | running =>
    refine ⟨hcar, h.failed, fun hp hone => ?_, fun resp hp => ?_⟩
    · have hnone := (h.fresh hp hone).2.2.2.1
      rw [hr] at hnone
      cases hnone
    · obtain ⟨got, hgot, hresp⟩ := h.sound resp hp
      exact ⟨got, mem_append_left _ hgot, hresp⟩

theorem Backed.step (h : Backed cfg s)
    (hs : ¬Starved cfg s event) (hstep : s.step cfg event = some s') : Backed cfg s' := by
  cases moves_of_step hstep with
  | clientDone => exact ⟨h.of_eq rfl rfl rfl, h.failed, h.fresh, h.sound⟩
  | attempt hp hbegins => exact hbegins.backed h hp hs
  | race hracer hmove hraces => exact hraces.backed h hracer hmove
  | relayDone _ hends => exact hends.backed h.toCarries
  | relayCut _ _ hends => exact hends.backed (h.of_eq rfl rfl rfl)

theorem backed_start (h : 1 ≤ cfg.maxAttempts) : Backed cfg (start cfg) := by
  rw [start, if_pos h]
  exact ⟨⟨le_rfl, by simp⟩, by simp, by simp, by simp [SoundReturn]⟩

structure Lost (s : Item) : Prop where
  returned : ∃ resp, s.phase = .returned resp none
  racer : s.racer = none
  produced : s.produced = []

theorem Lost.step (h : Lost s) (hstep : s.step cfg event = some s') : Lost s' := by
  obtain ⟨⟨resp, hp⟩, hr, hprod⟩ := h
  cases event <;> simp only [Item.step, hp, hr, reduceCtorEq, some.injEq] at hstep
  subst hstep
  exact ⟨⟨resp, rfl⟩, rfl, hprod⟩

theorem Lost.not_sound (h : Lost s) : ¬SoundReturn cfg s := by
  intro hs
  obtain ⟨resp, hp⟩ := h.returned
  obtain ⟨got, hgot, -⟩ := hs resp hp
  rw [h.produced] at hgot
  cases hgot

theorem Backed.lost_of_starved (h : Backed cfg s)
    (hs : Starved cfg s event) (hstep : s.step cfg event = some s') : Lost s' := by
  obtain ⟨answers, ep, eps, rfl, hp, h1, hc, ha, hbroken⟩ := hs
  obtain ⟨htried, hdomains, hlast, hr, hprod⟩ := h.fresh hp h1
  have hnil : filterEndpoints cfg.net (answers.validated (ep :: eps)) s.triedEndpoints
      s.triedDomains = [] := by
    rw [htried, hdomains]
    exact filterEndpoints_eq_nil.mpr hbroken
  simp only [Item.step, hp, some.injEq, Item.beginAttempt, hc, ha, hnil] at hstep
  subst hstep
  exact ⟨⟨_, by rw [giveUp, hlast]⟩, hr, hprod⟩

theorem lost_start (h : ¬1 ≤ cfg.maxAttempts) : Lost (start cfg) := by
  rw [start, if_neg h]
  exact ⟨⟨_, rfl⟩, rfl, rfl⟩

/-- In every run an item that reports no error returns a checked response of one of its
relays, exactly when the first attempt is made and is not starved by the breaker. -/
theorem soundReturn_iff {events : List ItemEvent}
    (hrun : run (step cfg) (start cfg) events = some s) :
    SoundReturn cfg s ↔ 1 ≤ cfg.maxAttempts ∧
      Machine.Meets (step cfg) (fun s event => ¬Starved cfg s event) (start cfg) events := by
  constructor
  · intro hsound
    have hmax : 1 ≤ cfg.maxAttempts := by
      by_contra hmax
      exact (invariant_of_step (fun _ _ _ => Lost.step) (lost_start hmax) hrun).not_sound hsound
    refine ⟨hmax, ?_⟩
    by_contra hmeets
    obtain ⟨u, event, u', rest, hu, hC, hstep, hrest⟩ :=
      exists_break (fun _ _ _ => Backed.step) (backed_start hmax) hrun hmeets
    have hlost := hu.lost_of_starved (not_not.mp hC) hstep
    exact (invariant_of_step (fun _ _ _ => Lost.step) hlost hrest).not_sound hsound
  · rintro ⟨hmax, hmeets⟩
    exact (invariant (fun _ _ _ => Backed.step) (backed_start hmax) hmeets hrun).sound

end Item

def sampleItem (broken : List String) (hedgeDelay : Option Int) : ItemConfig where
  net := NetLib.ascii
  heur := calmHeuristics
  payload := ⟨"", "", .jsonRPC, .unknownRPC, "eth_blockNumber"⟩
  index := 0
  batchSize := 1
  retryConfig := some ⟨none, none, none, none, none, none, hedgeDelay, none⟩
  circuitBreaker := some broken
  scored _ := true

def offer (endpoints : List EndpointAddr) : AttemptAnswers :=
  ⟨.ok endpoints, .ok, fun eps => eps.headD "", none⟩

theorem empty_return_without_error :
    ¬∀ (cfg : ItemConfig) (events : List ItemEvent) (s : Item),
      run (Item.step cfg) (Item.start cfg) events = some s → Item.SoundReturn cfg s := by
  intro h
  have hstep : (Item.start (sampleItem ["rm.example.com"] none)).step
      (sampleItem ["rm.example.com"] none) (.attempt (offer [rmAddr])) =
      some _ := rfl
  have hlost := (Item.backed_start (by decide)).lost_of_starved
    ⟨_, _, _, rfl, rfl, rfl, rfl, rfl, by decide⟩ hstep
  exact hlost.not_sound (h _ [_] _ (run_cons.mpr ⟨_, hstep, rfl⟩))

theorem soundReturn_iff_answered :
    ∃ s, run (Item.step (sampleItem [] none)) (Item.start (sampleItem [] none))
        [.attempt (offer [rmAddr]),
          .relayDone ⟨[⟨"ok", 200, rmAddr, ""⟩], none⟩] = some s ∧
      Item.SoundReturn (sampleItem [] none) s := by
  refine exists_of_any (fun _ => True) (by decide +kernel) fun s hrun _ => ?_
  refine (Item.soundReturn_iff hrun).mpr ⟨by decide, ?_, fun _ _ => ⟨?_, fun _ _ => trivial⟩⟩
  · rintro ⟨answers, ep, eps, ⟨⟩, -, -, -, ⟨⟩, hbroken⟩
    exact absurd (hbroken _ (mem_singleton_self _)) (by decide)
  · rintro ⟨answers, ep, eps, ⟨⟩, -⟩

end PathGateway
