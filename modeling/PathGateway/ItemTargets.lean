import PathGateway.ItemSoundness

/-! Where a batch item relays to: every relay of an attempt, the hedge included, goes to one
of the endpoints that the attempt was left with. -/

namespace PathGateway

open List

/-- A ranking that chooses among what it is given. -/
def Picks (rank : List EndpointAddr → EndpointAddr) : Prop :=
  ∀ endpoints, endpoints ≠ [] → rank endpoints ∈ endpoints

def Diverse (net : NetLib) (a b : EndpointAddr) : Prop :=
  a ≠ b ∧ (extractRegistrableDomain net a ≠ "" →
    extractRegistrableDomain net a ≠ extractRegistrableDomain net b)

section Selection

variable {net : NetLib} {endpoints : List EndpointAddr} {primary ep : EndpointAddr}
  {rank : List EndpointAddr → EndpointAddr}

def hedgeCandidates (net : NetLib) (endpoints : List EndpointAddr) (primary : EndpointAddr) :
    List EndpointAddr :=
  endpoints.filter (fun ep => ep ≠ primary && !(extractRegistrableDomain net primary ≠ "" &&
    extractRegistrableDomain net ep = extractRegistrableDomain net primary))

theorem selectHedgeEndpoint_eq :
    selectHedgeEndpoint net endpoints primary rank =
      if hedgeCandidates net endpoints primary = [] then ""
      else rank (hedgeCandidates net endpoints primary) := rfl

theorem mem_hedgeCandidates : ep ∈ hedgeCandidates net endpoints primary ↔
    ep ∈ endpoints ∧ Diverse net primary ep := by
  rw [hedgeCandidates, mem_filter, Diverse]
  refine and_congr_right fun _ => ?_
  simp only [ne_eq, Bool.and_eq_true, decide_eq_true_eq, Bool.not_eq_true', Bool.and_eq_false_iff,
    decide_eq_false_iff_not, not_not, eq_comm (a := ep), imp_iff_not_or]
  exact and_congr_right fun _ => or_congr_right (not_congr eq_comm)

theorem mem_candidates_of_select (hrank : Picks rank)
    (hne : selectHedgeEndpoint net endpoints primary rank ≠ "") :
    selectHedgeEndpoint net endpoints primary rank ∈ hedgeCandidates net endpoints primary := by
  rw [selectHedgeEndpoint_eq] at hne ⊢
  split_ifs at hne with hfiltered
  · exact absurd rfl hne
  · rw [if_neg hfiltered]
    exact hrank _ hfiltered

end Selection

namespace Racer

variable {net : NetLib} {heur : Heuristics} {payload : Payload} {callerErr : Option GoError}
  {r r' : Racer} {event : RaceEvent}

theorem step_availableEndpoints (h : r.step net heur payload callerErr event = some r') :
    r'.availableEndpoints = r.availableEndpoints := by
  cases moves_of_step h with
  | drain hd hc =>
    rename_i n _ _
    cases n <;> rfl
  | _ => rfl

theorem adds_of_step {starts starts' : List RelayStart}
    (hstep : r.step net heur payload callerErr event = some r')
    (hrank : ∀ rank buildErr, event = .delayElapsed rank buildErr → Picks rank)
    (hadds : event.Adds r' starts starts') : starts' = starts ∨ r.phase = .awaitDelay ∧
    (∃ rank, event = .delayElapsed rank none) ∧ r'.hedgeEndpoint ≠ "" ∧
    r'.hedgeEndpoint ∈ hedgeCandidates net r.availableEndpoints r.primaryEndpoint ∧
    starts' = starts ++ [⟨r'.hedgeEndpoint, r'.cancelled⟩] := by
  rcases hadds with rfl | ⟨⟨rank, buildErr, rfl⟩, hflying, rfl⟩
  · exact .inl rfl
  · cases moves_of_step hstep with
    | delayElapsed hdelay =>
      rw [startHedge] at hflying
      dsimp only at hflying
      split at hflying
      · rename_i hstarted
        obtain ⟨hne, rfl⟩ := hstarted
        refine .inr ⟨hdelay, ⟨rank, rfl⟩, hne, ?_, rfl⟩
        exact mem_candidates_of_select (hrank _ _ rfl) hne
      · cases hflying

end Racer

namespace Item

variable {cfg : ItemConfig} {s s' : Item} {P : EndpointAddr → Prop}

def RaceOver (s : Item) : Prop :=
  ∀ r, s.racer = some r → ∃ result, r.phase = .returned result

structure Aims (P : EndpointAddr → Prop) (s : Item) : Prop where
  selected : s.phase = .racing → P s.selected
  offered : ∀ r, s.racer = some r → ∀ ep ∈ r.availableEndpoints, s.phase = .racing → P ep
  raceOver : s.phase ≠ .racing → s.RaceOver

theorem RaceOver.aims (h : s.RaceOver) (hp : s.phase ≠ .racing) : s.Aims P :=
  ⟨fun hr => absurd hr hp, fun _ _ _ _ hr => absurd hr hp, fun _ => h⟩

structure Sends (P : EndpointAddr → Prop) (s s' : Item) : Prop where
  starts : ∃ new, s'.starts = s.starts ++ new ∧ ∀ start ∈ new, P start.endpointAddr
  aims : s'.Aims P

variable {t : Item}

theorem Sends.after {new : List RelayStart} (h : Sends P t s')
    (hstarts : t.starts = s.starts ++ new) (hP : ∀ start ∈ new, P start.endpointAddr) :
    Sends P s s' := by
  obtain ⟨⟨more, hmore, hPmore⟩, haims⟩ := h
  refine ⟨⟨new ++ more, by rw [hmore, hstarts, append_assoc], fun start hstart => ?_⟩, haims⟩
  exact (mem_append.mp hstart).elim (hP start) (hPmore start)

theorem Sends.of_starts (h : Sends P t s') (hstarts : t.starts = s.starts) : Sends P s s' :=
  h.after (hstarts.trans (append_nil _).symm) (by simp)

theorem sends_nothing (haims : s.Aims P) : Sends P s s :=
  ⟨⟨[], (append_nil _).symm, by simp⟩, haims⟩

theorem Leaves.sends {limited : Bool} (h : Leaves s limited s') (hover : s.RaceOver) :
    Sends P s s' := by
  cases h <;> exact .of_starts (sends_nothing (RaceOver.aims hover (by simp))) rfl

theorem sends_startRelay {afterRace : Bool} (hselected : P s.selected) (hover : s.RaceOver) :
    Sends P s (s.startRelay afterRace) := by
  refine ⟨⟨_, rfl, fun _ hstart => mem_singleton.mp hstart ▸ hselected⟩, ?_⟩
  exact RaceOver.aims (s := s.startRelay afterRace) hover (by simp [startRelay])

theorem sends_startRace {endpoints : List EndpointAddr} (hselected : P s.selected)
    (hoffered : ∀ ep ∈ endpoints, P ep) : Sends P s (s.startRace endpoints) := by
  refine ⟨⟨_, rfl, fun _ hstart => mem_singleton.mp hstart ▸ hselected⟩, ?_⟩
  refine ⟨fun _ => hselected, fun r hr ep hep _ => ?_, fun hp => absurd rfl hp⟩
  cases hr
  exact hoffered ep hep

variable {answers : AttemptAnswers}

theorem Begins.sends (hbegins : Begins cfg s answers s') (hrank : Picks answers.rank)
    (hover : s.RaceOver) (hP : s.clientErr = none → ∀ available, answers.available = .ok available →
    ∀ ep ∈ filterEndpoints cfg.net (answers.validated available) s.triedEndpoints s.triedDomains,
    P ep) : Sends P s s' := by
  cases hbegins with
  | clientGone => exact .of_starts (sends_nothing (RaceOver.aims hover (by simp))) rfl
  | unavailable hleaves => exact (hleaves.sends hover).of_starts rfl
  | starved hclient havailable hnone hleaves => exact hleaves.sends hover
  | uses hclient havailable hfiltered hselected huses =>
    subst hfiltered
    have hP := hP hclient _ havailable
    have hselected := hP _ (hselected (hrank _))
    cases huses with
    | unbuilt hleaves => exact (hleaves.sends hover).of_starts rfl
    | race =>
      refine .of_starts (sends_startRace ?_ hP) rfl
      exact hselected
    | relay =>
      refine .of_starts (sends_startRelay ?_ ?_) rfl
      · exact hselected
      · exact hover

theorem RelayEnds.sends {cut : Bool} {result : RelayResult}
    (hends : RelayEnds cfg s cut result s') (hover : s.RaceOver) : Sends P s s' := by
  cases hends with
  | passed => exact .of_starts (sends_nothing (RaceOver.aims hover (by simp))) rfl
  | failed _ hleaves => exact (hleaves.sends hover).of_starts rfl

theorem RaceEnds.sends {hedgeEndpoint : EndpointAddr} {result : RelayResult}
    (hends : RaceEnds cfg s hedgeEndpoint result s') (hselected : P s.selected)
    (hover : s.RaceOver) : Sends P s s' := by
  cases hends with
  | passed => exact .of_starts (sends_nothing (RaceOver.aims hover (by simp))) rfl
  | failed _ _ _ _ hleaves => exact (hleaves.sends hover).of_starts rfl
  | unanswered => exact sends_startRelay hselected hover

theorem Races.sends {r r' : Racer} {event : RaceEvent} (hraces : Races cfg s r' event s')
    (hr : s.racer = some r) (h : s.Aims P)
    (hrank : ∀ rank buildErr, event = .delayElapsed rank buildErr → Picks rank)
    (hstep : r.step cfg.net cfg.heur cfg.payload s.clientErr event = some r') : Sends P s s' := by
  have hnew {starts selfInflicted} (hnotes : s.Notes r' event starts selfInflicted) :
      ∃ new, starts = s.starts ++ new ∧ ∀ start ∈ new, P start.endpointAddr := by
    rcases Racer.adds_of_step hstep hrank hnotes.starts with rfl | ⟨hdelay, -, -, hmem, rfl⟩
    · exact ⟨[], (append_nil _).symm, by simp⟩
    · refine ⟨_, rfl, fun start hstart => ?_⟩
      rw [mem_singleton.mp hstart]
      refine h.offered r hr _ (mem_hedgeCandidates.mp hmem).1 ?_
      by_contra hnot
      obtain ⟨result, hret⟩ := h.raceOver hnot r hr
      rw [hdelay] at hret
      cases hret
  cases hraces with
  | ended hnotes hp hover hends =>
    obtain ⟨new, hstarts, hP⟩ := hnew hnotes
    refine (hends.sends (h.selected hp) fun q hq => ?_).after hstarts hP
    exact ⟨_, Option.some.inj hq ▸ hover⟩
  | running hnotes =>
    obtain ⟨new, hstarts, hP⟩ := hnew hnotes
    refine ⟨⟨new, hstarts, hP⟩, h.selected, fun q hq ep hep hp => ?_, fun hp q hq => ?_⟩
    · cases hq
      rw [Racer.step_availableEndpoints hstep] at hep
      exact h.offered r hr ep hep hp
    · cases hq
      obtain ⟨result, hret⟩ := h.raceOver hp r hr
      exact ⟨result, Racer.step_returned hstep hret⟩

theorem Aims.sends_step {event : ItemEvent} (h : s.Aims P)
    (hattempt : ∀ answers, event ≠ .attempt answers)
    (hrank : ∀ rank buildErr, event = .race (.delayElapsed rank buildErr) → Picks rank)
    (hstep : s.step cfg event = some s') : Sends P s s' := by
  cases moves_of_step hstep with
  | clientDone => exact .of_starts (sends_nothing ⟨h.selected, h.offered, h.raceOver⟩) rfl
  | attempt => exact absurd rfl (hattempt _)
  | race hracer hmove hraces =>
    refine hraces.sends hracer h (fun rank buildErr heq => ?_) hmove
    exact hrank rank buildErr (heq ▸ rfl)
  | relayDone hp hends => exact hends.sends (h.raceOver (by simp [hp]))
  | relayCut hp _ hends => exact (hends.sends (h.raceOver (by simp [hp]))).of_starts rfl

end Item

end PathGateway
