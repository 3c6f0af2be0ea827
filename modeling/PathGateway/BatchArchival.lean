import PathGateway.ArchivalLookup

/-! The relays of a batch item, each with the lookup of the attempt it belongs to. Every attempt
selects its endpoints by the one answer of the validator for the whole HTTP request. -/

namespace PathGateway.Evm

open Option

inductive RouteEvent (ε : Type) where
  | attempt (a : Attempt)
  | hedgeDelay (ranking : Ranking) (draws : List ℕ) (buildErr : Option GoError)
  | other (event : ε)

/-- The event of the retry loop, with what the gateway chooses; an event that carries a choice of
its own is none of these. -/
def RouteEvent.choose {ε : Type} (gw : BatchGateway) (requiresArchival : Bool)
    (attempt : AttemptAnswers → ε) (race : RaceEvent → ε) (carriesChoice : ε → Bool) :
    RouteEvent ε → Option ε
  | .attempt a => some (attempt (gw.answers requiresArchival a))
  | hedgeDelay ranking draws buildErr =>
    some (race (.delayElapsed (gw.rank ranking draws) buildErr))
  | other event => if carriesChoice event then none else some event

def RouteEvent.asItemEvent (gw : BatchGateway) (requiresArchival : Bool) :
    RouteEvent ItemEvent → Option ItemEvent :=
  choose gw requiresArchival .attempt .race fun
    | .attempt _ | .race (.delayElapsed _ _) => true
    | _ => false

def RouteEvent.lookupAfter (current : Option Lookup) : RouteEvent ItemEvent → Option Lookup
  | attempt a => some a.toLookup
  | _ => current

structure Route where
  item : Item
  current : Option Lookup
  sent : RelayLog

namespace Route

section Step

variable (gw : BatchGateway) (cfg : ItemConfig) (requiresArchival : Bool)

def start : Route := ⟨Item.start cfg, none, []⟩

def note (s : Route) (item : Item) (current : Option Lookup) : Route :=
  ⟨item, current, s.sent ++ newRelays s.item.starts item.starts current⟩

def step (s : Route) (event : RouteEvent ItemEvent) : Option Route := do
  let itemEvent ← event.asItemEvent gw requiresArchival
  let item ← s.item.step cfg itemEvent
  return s.note item (event.lookupAfter s.current)

end Step

variable {gw : BatchGateway} {cfg : ItemConfig} {s s' : Route} {event : RouteEvent ItemEvent}

variable {requiresArchival : Bool} {item : Item}

theorem step_eq_some : s.step gw cfg requiresArchival event = some s' ↔
    ∃ itemEvent, event.asItemEvent gw requiresArchival = some itemEvent ∧ ∃ item,
    s.item.step cfg itemEvent = some item ∧ s.note item (event.lookupAfter s.current) = s' := by
  simp only [step, bind, bind_eq_some_iff, pure, some.injEq]

theorem step_attempt (hphase : s.item.phase = .attempting) (a : Attempt) :
    s.step gw cfg requiresArchival (.attempt a) =
    some (s.note (s.item.beginAttempt cfg (gw.answers requiresArchival a)) (some a.toLookup)) :=
  step_eq_some.mpr ⟨_, rfl, _, by rw [Item.step, hphase], rfl⟩

theorem asItemEvent_other {event itemEvent : ItemEvent}
    (h : (RouteEvent.other event).asItemEvent gw requiresArchival = some itemEvent) :
    (∀ answers, itemEvent ≠ .attempt answers) ∧
    ∀ rank buildErr, itemEvent ≠ .race (.delayElapsed rank buildErr) := by
  obtain ⟨hplain, heq⟩ := ite_none_left_eq_some.mp h
  cases heq
  refine ⟨?_, ?_⟩
  · rintro answers rfl
    exact hplain rfl
  · rintro rank buildErr rfl
    exact hplain rfl

/-- Each endpoint that the attempt has left to choose from, with the archival check not made, is
one that the check would have left as well. -/
def Archival (gw : BatchGateway) (cfg : ItemConfig) (s : Route) : RouteEvent ItemEvent → Prop
  | .attempt a => s.item.clientErr = none →
    ∀ addr ∈ filterEndpoints cfg.net (a.pool gw.evm false) s.item.triedEndpoints
      s.item.triedDomains, addr ∈ a.pool gw.evm true
  | _ => True

structure OnCourse (gw : BatchGateway) (s : Route) : Prop where
  routed : Routed gw.evm s.sent
  aims : s.item.Aims (Target gw.evm s.current)

theorem OnCourse.note {current : Option Lookup}
    (h : Routed gw.evm s.sent) (hsends : Item.Sends (Target gw.evm current) s.item item) :
    OnCourse gw (s.note item current) := by
  obtain ⟨⟨new, hnew, htarget⟩, haims⟩ := hsends
  refine ⟨?_, haims⟩
  rw [Route.note, hnew]
  exact h.append htarget

theorem OnCourse.step (h : OnCourse gw s) (harchival : Archival gw cfg s event)
    (hstep : s.step gw cfg false event = some s') : OnCourse gw s' := by
  obtain ⟨itemEvent, hevent, item, hitem, rfl⟩ := step_eq_some.mp hstep
  refine OnCourse.note h.routed ?_
  cases event with
  | attempt a =>
    cases hevent
    cases Item.moves_of_step hitem with
    | attempt hp hbegins =>
      refine hbegins.sends (BatchGateway.picks_rank _ _) (h.aims.raceOver (by simp [hp])) ?_
      intro hclient available havailable ep hep
      refine ⟨a.toLookup, rfl, Lookup.admits_iff.mpr (harchival hclient ep ?_)⟩
      rw [mem_filterEndpoints] at hep ⊢
      exact ⟨(BatchGateway.mem_validated havailable).mp hep.1, hep.2⟩
  | hedgeDelay ranking draws =>
    cases hevent
    refine h.aims.sends_step (by simp) (fun rank _ heq => ?_) hitem
    cases heq
    exact BatchGateway.picks_rank ranking draws
  | other =>
    obtain ⟨hattempt, hdelay⟩ := asItemEvent_other hevent
    exact h.aims.sends_step hattempt (fun rank buildErr heq => absurd heq (hdelay rank buildErr))
      hitem

theorem onCourse_start : OnCourse gw (start cfg) := by
  obtain ⟨phase, heq, hphase⟩ := Item.start_eq cfg
  refine ⟨by simp [Routed, start], ?_⟩
  simp only [start, heq]
  refine Item.RaceOver.aims (by simp [Item.RaceOver]) ?_
  rcases hphase with rfl | ⟨resp, rfl⟩ <;> simp

theorem not_routed_note {l : Lookup}
    (start : RelayStart) (hstarts : item.starts = s.item.starts ++ [start])
    (hnot : start.endpointAddr ∉ l.pool gw.evm true) :
    ¬Routed gw.evm (s.note item (some l)).sent := by
  intro hrouted
  have hsent : (start.endpointAddr, some l) ∈ (s.note item (some l)).sent := by
    rw [note, hstarts, newRelays_append]
    exact List.mem_append_right _ List.mem_cons_self
  obtain ⟨_, heq, hadmits⟩ := hrouted _ hsent
  cases heq
  exact hnot (Lookup.admits_iff.mp hadmits)

end Route

end PathGateway.Evm
