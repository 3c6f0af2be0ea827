import PathGateway.HedgeDiversity

/-! Which endpoints the relays of one request go to. The single request and the batch item note
the endpoints and the operators they have tried at different places: the item when it selects, the
single request at its next attempt, for the endpoint that the last response named and for the two
that the race was told of. -/

namespace PathGateway

open Racer Single Machine List Option

section Tried

variable {net : NetLib} {tried available : List EndpointAddr} {domains : List String}
  {ep old : EndpointAddr} {starts : List RelayStart}

def Marked (net : NetLib) (tried : List EndpointAddr) (domains : List String) (ep : EndpointAddr) :
    Prop :=
  ep ∈ tried ∧ (extractRegistrableDomain net ep ≠ "" → extractRegistrableDomain net ep ∈ domains)

/-- No two relays go to one endpoint, nor to one operator where that one is known. -/
def Rotates (net : NetLib) (starts : List RelayStart) : Prop :=
  starts.Pairwise (fun a b => Diverse net a.endpointAddr b.endpointAddr)

theorem marked_self : Marked net (ep :: tried) (markDomainTried net domains ep) ep := by
  refine ⟨mem_cons_self, fun hknown => ?_⟩
  rw [markDomainTried, if_pos hknown]
  exact mem_cons_self

theorem Marked.mark (h : Marked net tried domains old) (ep : EndpointAddr) :
    Marked net (ep :: tried) (markDomainTried net domains ep) old :=
  ⟨mem_cons_of_mem _ h.1, fun hknown => mem_markDomainTried (h.2 hknown)⟩

theorem marked_of_mem {eps : List EndpointAddr} (hmem : ep ∈ eps) :
    Marked net (eps ++ tried) (eps.foldr (fun ep ds => markDomainTried net ds ep) domains) ep := by
  induction eps with
  | nil => cases hmem
  | cons e es ih =>
    rcases mem_cons.mp hmem with rfl | hmem
    · exact marked_self
    · exact (ih hmem).mark e

theorem diverse_of_mem_filterEndpoints (hold : Marked net tried domains old)
    (hmem : ep ∈ filterEndpoints net available tried domains) : Diverse net old ep := by
  obtain ⟨-, hfresh, hdomain⟩ := mem_filterEndpoints.mp hmem
  refine ⟨fun heq => hfresh (heq ▸ hold.1), fun hknown hsame => ?_⟩
  have hnot : extractRegistrableDomain net ep ∉ domains := by
    intro hin
    simp [domainTried, hin] at hdomain
  exact hnot (hsame ▸ hold.2 hknown)

theorem Rotates.append {cancelled : Bool}
    (h : Rotates net starts) (hnew : ∀ start ∈ starts, Diverse net start.endpointAddr ep) :
    Rotates net (starts ++ [⟨ep, cancelled⟩]) := by
  refine pairwise_append.mpr ⟨h, pairwise_singleton _ _, fun a ha b hb => ?_⟩
  rw [mem_singleton.mp hb]
  exact hnew a ha

theorem rotates_singleton {start : RelayStart} : Rotates net [start] := pairwise_singleton _ _

instance Rotates.decidable : Decidable (Rotates net starts) :=
  have (a b : EndpointAddr) : Decidable (Diverse net a b) := inferInstanceAs (Decidable (_ ∧ _))
  inferInstanceAs (Decidable (starts.Pairwise _))

end Tried

variable {rank : List EndpointAddr → EndpointAddr}

variable {buildErr : Option GoError}

namespace Racer

variable {net : NetLib} {heur : Heuristics} {payload : Payload} {callerErr : Option GoError}
  {r r' : Racer} {event : RaceEvent}

theorem step_hedgeEndpoint (h : r.step net heur payload callerErr event = some r')
    (hother : ∀ rank buildErr, event ≠ .delayElapsed rank buildErr) :
    r'.hedgeEndpoint = r.hedgeEndpoint := by
  cases moves_of_step h with
  | drain hd hc =>
    rename_i n _ _
    cases n <;> rfl
  | delayElapsed => exact absurd rfl (hother _ _)
  | _ => rfl

theorem step_raced (h : r.step net heur payload callerErr event = some r')
    (hother : ∀ rank buildErr, event ≠ .delayElapsed rank buildErr) : r'.raced = r.raced := by
  rw [raced, raced, step_primaryEndpoint h, step_hedgeEndpoint h hother]

theorem primaryEndpoint_mem_raced : r.primaryEndpoint ∈ r.raced := by
  rw [raced]
  split <;> simp

theorem rotates_of_adds {starts starts' : List RelayStart}
    (hstep : r.step net heur payload callerErr event = some r')
    (hrank : ∀ rank buildErr, event = .delayElapsed rank buildErr → Picks rank)
    (hadds : event.Adds r' starts starts') (hrotates : Rotates net starts)
    (hraced : ∀ start ∈ starts, start.endpointAddr ∈ r.raced)
    (hawaiting : r.phase = .awaitDelay → starts = [⟨r.primaryEndpoint, false⟩]) :
    Rotates net starts' ∧ ∀ start ∈ starts', start.endpointAddr ∈ r'.raced := by
  have hprimary := step_primaryEndpoint hstep
  rcases adds_of_step hstep hrank hadds with rfl | ⟨hdelay, -, hne, hmem, rfl⟩
  · refine ⟨hrotates, ?_⟩
    by_cases helapsed : ∃ rank buildErr, event = .delayElapsed rank buildErr
    · obtain ⟨rank, buildErr, rfl⟩ := helapsed
      cases moves_of_step hstep with
      | delayElapsed hdelay =>
        rw [hawaiting hdelay, forall_mem_singleton, ← hprimary]
        exact primaryEndpoint_mem_raced
    · exact step_raced hstep (fun rank buildErr heq => helapsed ⟨rank, buildErr, heq⟩) ▸ hraced
  · rw [hawaiting hdelay]
    constructor
    · refine rotates_singleton.append ?_
      rw [forall_mem_singleton]
      exact (mem_hedgeCandidates.mp hmem).2
    · rw [raced, if_pos hne, hprimary]
      simp

end Racer

def AttemptAnswers.racePrimary (answers : AttemptAnswers) : Option EndpointAddr :=
  match answers.available with
  | .ok (ep :: eps) => some ((answers.validated (ep :: eps)).headD "")
  | _ => none

variable {answers : AttemptAnswers} {raceEvent : RaceEvent} {r r' : Racer}

namespace Single

variable {cfg : SingleConfig} {s s' : Single} {target : EndpointAddr} {event : SingleEvent}

/-- The request knows where its first relay went: a race is told the endpoint of the context, and
without a race a first answer that is retried names that endpoint. -/
def KeepsTrack (cfg : SingleConfig) (s : Single) : SingleEvent → Prop
  | .attempt answers => s.attempt = 1 → cfg.hedging = true →
    answers.racePrimary = none ∨ answers.racePrimary = some s.target
  | .relayDone a => s.attempt = 1 → (cfg.check a.err a.first).success = false →
    s.retries cfg a (cfg.check a.err a.first).heuristicResult = true →
    a.responses ≠ [] ∧ a.first.endpointAddr = s.target
  | _ => True

instance KeepsTrack.decidable (cfg : SingleConfig) (s : Single) :
    ∀ event, Decidable (KeepsTrack cfg s event)
  | .attempt _ => inferInstanceAs (Decidable (_ → _ → _))
  | .relayDone _ => inferInstanceAs (Decidable (_ → _ → _ → _))
  | .clientDone _ | .race _ | .delayOver | .delayCut => .isTrue trivial

def Noted (cfg : SingleConfig) (s : Single) : Prop :=
  ∀ start ∈ s.starts, Marked cfg.net (s.current :: s.triedEndpoints)
    (markDomainTried cfg.net s.triedDomains s.current) start.endpointAddr

structure Rotating (cfg : SingleConfig) (s : Single) : Prop where
  rotates : Rotates cfg.net s.starts
  delaying : s.phase = .delaying → Noted cfg s
  retrying : s.phase = .attempting → s.attempt ≠ 1 → Noted cfg s
  first : s.phase = .relaying → s.attempt = 1 → ∀ start ∈ s.starts, start.endpointAddr = s.target
  relaying : s.phase = .relaying → s.attempt ≠ 1 → Noted cfg s
  racing : s.phase = .racing → ∀ r, s.racer = some r → r.primaryEndpoint = s.target ∧
    ∀ start ∈ s.starts, start.endpointAddr ∈ r.raced

theorem rotating_of_returned {err : Option GoError} (h : Rotates cfg.net s.starts)
    (hp : s.phase = .returned err) : Rotating cfg s := by
  constructor <;> simp [h, hp]

theorem rotating_start : Rotating cfg (start cfg target) := by
  rw [start]
  split
  · constructor <;> simp [Rotates]
  · exact rotating_of_returned Pairwise.nil rfl

theorem Begins.rotating (hbegins : Begins cfg s answers s') (h : Rotating cfg s)
    (hopening : Opening target s) (hp : s.phase = .attempting) (hrank : Picks answers.rank)
    (htrack : KeepsTrack cfg s (.attempt answers)) : Rotating cfg s' := by
  cases hbegins with
  | clientGone | exhaust => exact rotating_of_returned h.rotates rfl
  | relay hclient hfirst =>
    have hstarts := (hopening.fresh hp hfirst).1
    constructor <;> simp [startRelay, hstarts, hfirst, rotates_singleton]
  | @race ep eps hclient hfirst hhedging havailable =>
    have hstarts := (hopening.fresh hp hfirst).1
    have hprimary : (answers.validated (ep :: eps)).headD "" = s.target := by
      simpa [AttemptAnswers.racePrimary, havailable] using htrack hfirst hhedging
    refine ⟨?_, by simp [startRace], by simp [startRace], by simp [startRace],
      by simp [startRace], ?_⟩
    · rw [startRace, hstarts]
      exact rotates_singleton
    · rintro - _ ⟨⟩
      rw [startRace, hstarts, nil_append, hprimary, forall_mem_singleton]
      exact ⟨rfl, by simp [Racer.raced, Racer.start]⟩
  | @retry available filtered new hclient hretry havailable hfiltered hne hnew =>
    have hnoted := h.retrying hp hretry
    have hmem : new ∈ filtered := hnew ▸ hrank _ hne
    subst hfiltered
    refine ⟨?_, by simp [startRelay], by simp [startRelay], fun _ hone => absurd hone hretry,
      fun _ _ start hstart => ?_, by simp [startRelay]⟩
    · exact h.rotates.append fun start hstart =>
        diverse_of_mem_filterEndpoints (hnoted start hstart) hmem
    · rcases mem_append.mp hstart with hold | hlast
      · exact (hnoted start hold).mark new
      · rw [mem_singleton.mp hlast]
        exact marked_self

theorem Races.rotating (hraces : Races cfg s r' raceEvent s') (h : Rotating cfg s)
    (hopening : Opening target s) (hracer : s.racer = some r) (hrank : Ranked (.race raceEvent))
    (hstep : r.step cfg.net cfg.heur cfg.payload s.clientErr raceEvent = some r') :
    Rotating cfg s' := by
  have hsent {starts} (hadds : raceEvent.Adds r' s.starts starts) (hp : s.phase = .racing) :
      Rotates cfg.net starts ∧ r'.primaryEndpoint = s.target ∧
      ∀ start ∈ starts, start.endpointAddr ∈ r'.raced := by
    obtain ⟨hprimary, hraced⟩ := h.racing hp r hracer
    have hawaiting : r.phase = .awaitDelay → s.starts = [⟨r.primaryEndpoint, false⟩] := by
      intro hdelay
      obtain ⟨hstarts, htarget, -⟩ := hopening.awaiting r hracer hdelay
      rw [hstarts, hprimary, htarget]
    obtain ⟨hrotates, hmem⟩ := rotates_of_adds hstep hrank.delay hadds h.rotates hraced hawaiting
    exact ⟨hrotates, (step_primaryEndpoint hstep).trans hprimary, hmem⟩
  cases hraces with
  | running hadds hlive =>
    by_cases hp : s.phase = .racing
    · refine ⟨(hsent hadds hp).1, by simp [hp], by simp [hp], by simp [hp], by simp [hp], ?_⟩
      rintro - _ ⟨⟩
      exact (hsent hadds hp).2
    · rcases adds_of_step hstep hrank.delay hadds with rfl | ⟨hdelay, -⟩
      · exact ⟨h.rotates, h.delaying, h.retrying, h.first, h.relaying, fun hp' => absurd hp' hp⟩
      · exact absurd (hopening.paced.awaits hracer hdelay) hp
  | ended hadds hp hover hends =>
    obtain ⟨hrotates, -, hmem⟩ := hsent hadds hp
    cases hends with
    | returned => exact rotating_of_returned hrotates rfl
    | again =>
      refine ⟨hrotates, by simp, fun _ _ start hstart => ?_, by simp, by simp, by simp⟩
      exact (marked_of_mem (hmem start hstart)).mark _

theorem RelayEnds.rotating {a : RelayAnswer} (hends : RelayEnds cfg s a s') (h : Rotating cfg s)
    (hp : s.phase = .relaying) (htrack : KeepsTrack cfg s (.relayDone a)) : Rotating cfg s' := by
  cases hends with
  | returned => exact rotating_of_returned h.rotates rfl
  | again hfails hgoes =>
    refine ⟨h.rotates, fun _ start hstart => ?_, by simp, by simp, by simp, by simp⟩
    by_cases hone : s.attempt = 1
    · obtain ⟨hne, hnamed⟩ := htrack hone hfails hgoes
      dsimp only
      rw [if_pos ⟨hone, hne⟩, hnamed, h.first hp hone start hstart]
      exact marked_self
    · dsimp only
      rw [if_neg fun hboth => hone hboth.1]
      exact h.relaying hp hone start hstart

theorem Rotating.step (h : Rotating cfg s) (hopening : Opening target s) (hrank : Ranked event)
    (htrack : KeepsTrack cfg s event) (hstep : s.step cfg event = some s') : Rotating cfg s' := by
  cases moves_of_step hstep with
  | clientDone => exact ⟨h.rotates, h.delaying, h.retrying, h.first, h.relaying, h.racing⟩
  | attempt hp hbegins => exact hbegins.rotating h hopening hp hrank htrack
  | race hracer hmove hraces => exact hraces.rotating h hopening hracer hrank hmove
  | relayDone hp hends => exact hends.rotating h hp htrack
  | delayOver hp =>
    exact ⟨h.rotates, by simp, fun _ _ => h.delaying hp, by simp, by simp, by simp⟩
  | delayCut => exact rotating_of_returned h.rotates rfl

theorem rotates_of_run {events : List SingleEvent}
    (hrun : run (Single.step cfg) (start cfg target) events = some s)
    (hrank : ∀ event ∈ events, Ranked event)
    (htrack : Meets (Single.step cfg) (KeepsTrack cfg) (start cfg target) events) :
    Rotates cfg.net s.starts := by
  let I (s : Single) : Prop := Opening target s ∧ Rotating cfg s
  have hstep : ∀ s event s', I s → (KeepsTrack cfg s event ∧ Ranked event) →
      s.step cfg event = some s' → I s' := fun _ _ _ h hevent hs =>
    ⟨h.1.step hs, h.2.step h.1 hevent.2 hevent.1 hs⟩
  exact (invariant hstep ⟨opening_start, rotating_start⟩ (htrack.and hrank) hrun).2.rotates

end Single

namespace Item

variable {cfg : ItemConfig} {s s' t : Item} {event : ItemEvent}

/-- The rankings that the event brings choose among what they are given. -/
def Ranked : ItemEvent → Prop
  | .attempt answers => Picks answers.rank
  | .race (.delayElapsed rank _) => Picks rank
  | _ => True

theorem Ranked.delay (h : Ranked (.race raceEvent)) :
    ∀ rank buildErr, raceEvent = .delayElapsed rank buildErr → Picks rank := by
  rintro rank buildErr rfl
  exact h

/-- A race that ends has an answer. -/
def RaceAnswered (cfg : ItemConfig) (s : Item) : ItemEvent → Prop
  | .race event => s.phase = .racing →
    ∀ r ∈ s.racer, r.endsAnswered cfg.heur cfg.payload event = true
  | _ => True

instance RaceAnswered.decidable (cfg : ItemConfig) (s : Item) :
    ∀ event, Decidable (RaceAnswered cfg s event)
  | .race _ => inferInstanceAs (Decidable (_ → ∀ r ∈ s.racer, _))
  | .clientDone _ | .attempt _ | .relayDone _ | .relayCut _ _ => .isTrue trivial

def Noted (cfg : ItemConfig) (s : Item) : Prop :=
  ∀ start ∈ s.starts, Marked cfg.net s.triedEndpoints s.triedDomains start.endpointAddr

structure Rotating (cfg : ItemConfig) (s : Item) : Prop where
  rotates : Rotates cfg.net s.starts
  marked : s.phase ≠ .racing → (∀ resp err, s.phase ≠ .returned resp err) → Noted cfg s
  racing : s.phase = .racing → ∀ r, s.racer = some r → r.primaryEndpoint = s.selected ∧
    Marked cfg.net s.triedEndpoints s.triedDomains s.selected ∧
    ∀ start ∈ s.starts, start.endpointAddr ∈ r.raced

theorem rotating_of_noted (hrotates : Rotates cfg.net s.starts) (hnoted : Noted cfg s)
    (hp : s.phase ≠ .racing) : Rotating cfg s :=
  ⟨hrotates, fun _ _ => hnoted, fun hr => absurd hr hp⟩

theorem rotating_of_returned {resp : Response} {err : Option GoError}
    (hrotates : Rotates cfg.net s.starts) (hp : s.phase = .returned resp err) : Rotating cfg s :=
  ⟨hrotates, fun _ hlive => absurd hp (hlive resp err), by simp [hp]⟩

theorem Leaves.rotating {limited : Bool} (h : Leaves s limited s')
    (hrotates : Rotates cfg.net s.starts) (hnoted : Noted cfg s) : Rotating cfg s' := by
  cases h <;> exact rotating_of_noted hrotates hnoted (by simp)

theorem rotating_start : Rotating cfg (start cfg) := by
  obtain ⟨phase, heq, hphase⟩ := start_eq cfg
  rw [heq]
  refine rotating_of_noted Pairwise.nil (by simp [Noted]) ?_
  rcases hphase with rfl | ⟨resp, rfl⟩ <;> simp

theorem Begins.rotating (hbegins : Begins cfg s answers s') (h : Rotating cfg s)
    (hopening : Opening s) (hp : s.phase = .attempting) (hrank : Picks answers.rank) :
    Rotating cfg s' := by
  have hnoted := h.marked (by simp [hp]) (by simp [hp])
  cases hbegins with
  | clientGone => exact rotating_of_returned h.rotates rfl
  | unavailable hleaves | starved _ _ _ hleaves => exact hleaves.rotating h.rotates hnoted
  | @uses available filtered selected _ hclient havailable hfiltered hselected huses =>
    subst hfiltered
    have hmem := hselected (hrank _)
    have hmarked : ∀ start ∈ s.starts, Marked cfg.net (selected :: s.triedEndpoints)
        (markDomainTried cfg.net s.triedDomains selected) start.endpointAddr :=
      fun start hstart => (hnoted start hstart).mark selected
    cases huses with
    | unbuilt hleaves => exact hleaves.rotating h.rotates hmarked
    | race hfirst =>
      obtain ⟨-, hnone, -⟩ := hopening.fresh hp hfirst
      refine ⟨?_, fun hp => absurd rfl hp, ?_⟩
      · rw [startRace, markTried, hnone]
        exact rotates_singleton
      · rintro - _ ⟨⟩
        rw [startRace, markTried, hnone, nil_append, forall_mem_singleton]
        exact ⟨rfl, marked_self, by simp [Racer.raced, Racer.start]⟩
    | relay =>
      have hdiverse : ∀ start ∈ s.starts, Diverse cfg.net start.endpointAddr selected :=
        fun start hstart => diverse_of_mem_filterEndpoints (hnoted start hstart) hmem
      refine rotating_of_noted (h.rotates.append hdiverse) (fun start hstart => ?_)
        (by simp [startRelay])
      rcases mem_append.mp hstart with hold | hlast
      · exact hmarked start hold
      · rw [mem_singleton.mp hlast]
        exact marked_self

variable {result : RelayResult}

theorem RelayEnds.rotating {cut : Bool} (hends : RelayEnds cfg s cut result s')
    (hrotates : Rotates cfg.net s.starts) (hnoted : Noted cfg s) : Rotating cfg s' := by
  cases hends with
  | passed => exact rotating_of_returned hrotates rfl
  | failed _ hleaves => exact hleaves.rotating hrotates hnoted

theorem RaceEnds.rotating {r : Racer} (hends : RaceEnds cfg s r.hedgeEndpoint result s')
    (hrotates : Rotates cfg.net s.starts)
    (hprimary : Marked cfg.net s.triedEndpoints s.triedDomains r.primaryEndpoint)
    (hraced : ∀ start ∈ s.starts, start.endpointAddr ∈ r.raced)
    (hanswered : result.answered = true) : Rotating cfg s' := by
  cases hends with
  | passed => exact rotating_of_returned hrotates rfl
  | failed _ _ htried hsame hleaves =>
    refine hleaves.rotating hrotates fun start hstart => ?_
    by_cases hhedge : r.hedgeEndpoint = ""
    · obtain ⟨rfl, rfl⟩ := hsame hhedge
      have hmem : start.endpointAddr = r.primaryEndpoint := by
        simpa [raced, hhedge] using hraced start hstart
      exact hmem ▸ hprimary
    · obtain ⟨rfl, rfl⟩ := htried hhedge
      have hmem : start.endpointAddr = r.hedgeEndpoint ∨
          start.endpointAddr = r.primaryEndpoint := by
        simpa [raced, hhedge] using hraced start hstart
      rcases hmem with heq | heq <;> rw [heq]
      · exact marked_self
      · exact hprimary.mark _
  | unanswered hnot =>
    rw [hnot] at hanswered
    cases hanswered

theorem Races.rotating (hraces : Races cfg s r' raceEvent s') (h : Rotating cfg s)
    (hopening : Opening s) (hracer : s.racer = some r) (hrank : Ranked (.race raceEvent))
    (hanswered : s.phase = .racing → r.endsAnswered cfg.heur cfg.payload raceEvent = true)
    (hstep : r.step cfg.net cfg.heur cfg.payload s.clientErr raceEvent = some r') :
    Rotating cfg s' := by
  have hsent {starts selfInflicted} (hnotes : s.Notes r' raceEvent starts selfInflicted)
      (hp : s.phase = .racing) : (Rotates cfg.net starts ∧
      ∀ start ∈ starts, start.endpointAddr ∈ r'.raced) ∧ r'.primaryEndpoint = s.selected ∧
      Marked cfg.net s.triedEndpoints s.triedDomains s.selected := by
    obtain ⟨hprimary, hmarked, hmem⟩ := h.racing hp r hracer
    exact ⟨rotates_of_adds hstep hrank.delay hnotes.starts h.rotates hmem
      (hprimary ▸ hopening.awaiting r hracer), (step_primaryEndpoint hstep).trans hprimary, hmarked⟩
  cases hraces with
  | ended hnotes hp hover hends =>
    obtain ⟨⟨hrotates, hraced⟩, hprimary, hmarked⟩ := hsent hnotes hp
    refine hends.rotating hrotates (hprimary ▸ hmarked) hraced ?_
    exact answered_of_endsAnswered (hopening.paced.tidy r hracer) (hopening.paced.live hp r hracer)
      hstep hover (hanswered hp)
  | running hnotes hon =>
    by_cases hp : s.phase = .racing
    · obtain ⟨⟨hrotates, hraced⟩, hprimary, hmarked⟩ := hsent hnotes hp
      refine ⟨hrotates, fun hnot => absurd hp hnot, ?_⟩
      rintro - _ ⟨⟩
      exact ⟨hprimary, hmarked, hraced⟩
    · -- a race that is over sends nothing more
      rcases adds_of_step hstep hrank.delay hnotes.starts with rfl | ⟨hdelay, -⟩
      · exact ⟨h.rotates, h.marked, fun hr => absurd hr hp⟩
      · exact absurd (hopening.paced.awaits hracer hdelay) hp

theorem Rotating.step (h : Rotating cfg s) (hopening : Opening s) (hrank : Ranked event)
    (hanswered : RaceAnswered cfg s event) (hstep : s.step cfg event = some s') :
    Rotating cfg s' := by
  cases moves_of_step hstep with
  | clientDone => exact ⟨h.rotates, h.marked, h.racing⟩
  | attempt hp hbegins => exact hbegins.rotating h hopening hp hrank
  | race hracer hmove hraces =>
    exact hraces.rotating h hopening hracer hrank (fun hp => hanswered hp _ hracer) hmove
  | relayDone hp hends | relayCut hp _ hends =>
    exact hends.rotating h.rotates (h.marked (by simp [hp]) (by simp [hp]))

theorem rotates_of_run {events : List ItemEvent}
    (hrun : run (Item.step cfg) (start cfg) events = some s)
    (hrank : ∀ event ∈ events, Ranked event)
    (hanswered : Meets (Item.step cfg) (RaceAnswered cfg) (start cfg) events) :
    Rotates cfg.net s.starts := by
  let I (s : Item) : Prop := Opening s ∧ Rotating cfg s
  have hstep : ∀ s event s', I s → (RaceAnswered cfg s event ∧ Ranked event) →
      s.step cfg event = some s' → I s' := fun _ _ _ h hevent hs =>
    ⟨h.1.step hs, h.2.step h.1 hevent.2 hevent.1 hs⟩
  exact (invariant hstep ⟨opening_start, rotating_start⟩ (hanswered.and hrank) hrun).2.rotates

end Item

/-- A single request that keeps track of its first relay, and a batch item whose race ends with an
answer, never relay to an endpoint twice, nor to an operator twice. -/
theorem rotates_of_tracked (cfg : SingleConfig) (target : EndpointAddr) (events : List SingleEvent)
    (s : Single) (itemCfg : ItemConfig) (itemEvents : List ItemEvent) (item : Item)
    (hrun : run (Single.step cfg) (Single.start cfg target) events = some s)
    (hrank : ∀ event ∈ events, Single.Ranked event)
    (htrack : Machine.Meets (Single.step cfg) (Single.KeepsTrack cfg) (Single.start cfg target)
      events)
    (hitem : run (Item.step itemCfg) (Item.start itemCfg) itemEvents = some item)
    (hitemRank : ∀ event ∈ itemEvents, Item.Ranked event)
    (hanswered : Machine.Meets (Item.step itemCfg) (Item.RaceAnswered itemCfg)
      (Item.start itemCfg) itemEvents) :
    Rotates cfg.net s.starts ∧ Rotates itemCfg.net item.starts :=
  ⟨rotates_of_run hrun hrank htrack, Item.rotates_of_run hitem hitemRank hanswered⟩

def unhappy (endpointAddr : EndpointAddr) : Response := ⟨"oops", 500, endpointAddr, ""⟩

def threeOperators : AttemptAnswers :=
  offer [addrA, addrB, addrC]

theorem picks_headD : Picks (fun eps => eps.headD "") := by
  intro eps hne
  obtain ⟨ep, rest, rfl⟩ := exists_cons_of_ne_nil hne
  exact mem_cons_self

def retriedItem : ItemConfig :=
  { sampleItem [] (some 100) with
    retryConfig := some ⟨some true, some 2, some true, some true, some true, none, some 100, none⟩ }

def failsTwice : List SingleEvent :=
  [.attempt threeOperators, .relayDone ⟨[unhappy addrA], none, false, 10⟩,
    .delayOver, .attempt threeOperators]

def racesInVain : List ItemEvent :=
  [.attempt threeOperators, .race (.delayElapsed (fun eps => eps.headD "") none),
    .race (.branchDone false ⟨[unhappy addrA], none⟩), .race .receive,
    .race (.branchDone true ⟨[unhappy addrB], none⟩), .race .receive,
    .attempt threeOperators]

theorem three_operators_in_turn : ∃ s item,
    run (Single.step (sampleRequest none))
        (Single.start (sampleRequest none) addrA) failsTwice = some s ∧
      s.starts.map RelayStart.endpointAddr =
        [addrA, addrB] ∧
      run (Item.step retriedItem) (Item.start retriedItem) racesInVain = some item ∧
      item.starts.map RelayStart.endpointAddr = [addrA,
        addrB, addrC] ∧
      Rotates .ascii s.starts ∧ Rotates .ascii item.starts := by
  refine ⟨_, _, eq_some_of_isSome (by decide +kernel), by decide +kernel,
    eq_some_of_isSome (by decide +kernel), by decide +kernel, ?_⟩
  refine rotates_of_tracked (sampleRequest none) _ failsTwice _ retriedItem racesInVain _
    (eq_some_of_isSome _) ?_ (by decide +kernel) (eq_some_of_isSome _) ?_
    (by decide +kernel)
  · simp only [failsTwice, forall_mem_cons, Single.Ranked]
    exact ⟨picks_headD, trivial, trivial, picks_headD, by simp⟩
  · simp only [racesInVain, forall_mem_cons, Item.Ranked]
    exact ⟨picks_headD, picks_headD, trivial, trivial, trivial, trivial, picks_headD, by simp⟩

theorem relayed_to_twice : ∃ s item,
    run (Single.step (sampleRequest (some 100)))
        (Single.start (sampleRequest (some 100)) addrB)
        [.attempt threeOperators, .race (.delayElapsed (fun eps => eps.headD "") none)] = some s ∧
      s.starts.map RelayStart.endpointAddr =
        [addrB, addrB] ∧
      ¬Rotates .ascii s.starts ∧
      run (Item.step retriedItem) (Item.start retriedItem)
        [.attempt threeOperators,
          .race (.branchDone false ⟨[unhappy addrA], some "EOF"⟩),
          .race .receive] = some item ∧
      item.starts.map RelayStart.endpointAddr =
        [addrA, addrA] ∧
      ¬Rotates .ascii item.starts := by
  decide +kernel

end PathGateway
