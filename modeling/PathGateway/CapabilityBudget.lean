import PathGateway.RetryRotation

/-! The budget for capability limitations: two relays that fail with one end the request. The loop
counts the failure that an attempt returns; a race has two relays, and of these it returns one
result. -/

namespace PathGateway

open Racer RelayResult Machine Option List Nat

def RaceEvent.delivered : RaceEvent → Option RelayResult
  | .branchDone _ result => some result
  | .branchCut _ responses err => some ⟨responses, some err⟩
  | _ => none

variable {result : RelayResult}

namespace Racer

section Ends

variable (heur : Heuristics) (payload : Payload) (callerErr : Option GoError)

/-- What the race returns, if the event ends it, and the results that it leaves behind. -/
def ends (r : Racer) : RaceEvent → Option (RelayResult × List RelayResult)
  | .receive =>
    match r.phase, r.resultChan with
    | .awaitDelay, got :: rest => some (got.result, rest.map HedgeResult.result)
    | .awaitSecond first, got :: rest =>
      if got.result.wins heur payload then
        some (got.result, first.result :: rest.map HedgeResult.result)
      else some (first.result, got.result :: rest.map HedgeResult.result)
    | .collectLoser winner, got :: rest =>
      some (winner.result, got.result :: rest.map HedgeResult.result)
    | _, _ => none
  | .loserTimeout =>
    match r.phase with
    | .collectLoser winner => some (winner.result, r.resultChan.map HedgeResult.result)
    | _ => none
  | .secondTimeout =>
    match r.phase with
    | .awaitSecond first => some (first.result, r.resultChan.map HedgeResult.result)
    | _ => none
  | .callerDone =>
    match callerErr, r.phase with
    | none, _ | some _, .collectLoser _ | some _, .returned _ => none
    | some err, _ => some (⟨[], some err⟩, r.results)
  | _ => none

end Ends

variable {net : NetLib} {heur : Heuristics} {payload : Payload} {callerErr : Option GoError}
  {r r' : Racer} {event : RaceEvent} (p : RelayResult → Bool)

def pending (r : Racer) : ℕ := r.results.countP p

theorem pending_settle {isHedge : Bool} :
    (r.settle isHedge result).pending p = r.pending p + if p result then 1 else 0 := by
  have hresults : (r.settle isHedge result).results = r.results ++ [result] := by
    simp [results, settle, held]
  rw [pending, hresults, countP_append, countP_singleton]
  rfl

theorem Tidy.cleanup_eq_none (h : r.Tidy) (hlive : ∀ result, r.phase ≠ .returned result) :
    r.cleanup = none := by
  by_contra hcleanup
  obtain ⟨result, hover⟩ := h.over_of_cleanup hcleanup
  exact hlive result hover

theorem pending_of_live (htidy : r.Tidy) (hlive : ∀ result, r.phase ≠ .returned result)
    (hstep : r.step net heur payload callerErr event = some r')
    (hlive' : ∀ result, r'.phase ≠ .returned result) :
    r'.pending p = r.pending p + if event.delivered.any p then 1 else 0 := by
  have hclean := htidy.cleanup_eq_none hlive
  cases moves_of_step hstep with
  | branchDone | branchCut => exact pending_settle p
  | delayElapsed hp => simp [pending, results, held, startHedge, hp, RaceEvent.delivered]
  | firstWins hp hc | firstFails hp hc => simp [pending, results, held, hp, hc, RaceEvent.delivered]
  | primaryOnly | second | loser | loserTimeout | secondTimeout | callerDone =>
    exact absurd rfl (hlive' _)
  | drain hd | graceExpired hd =>
    rw [hclean] at hd
    cases hd

theorem ends_of_step (htidy : r.Tidy) (hlive : ∀ result, r.phase ≠ .returned result)
    (hstep : r.step net heur payload callerErr event = some r')
    (hover : r'.phase = .returned result) :
    event.delivered = none ∧ ∃ left, r.ends heur payload callerErr event = some (result, left) ∧
    r.pending p ≤ (if p result then 1 else 0) + left.countP p := by
  have hclean := htidy.cleanup_eq_none hlive
  have hsplit {left : List RelayResult} (hends : r.ends heur payload callerErr event =
      some (result, left)) (hperm : r.results.Perm (result :: left)) :
      ∃ left, r.ends heur payload callerErr event = some (result, left) ∧
        r.pending p ≤ (if p result then 1 else 0) + left.countP p := by
    refine ⟨left, hends, ?_⟩
    rw [pending, hperm.countP_eq, countP_cons, add_comm]
  cases moves_of_step hstep with
  | branchDone | branchCut => exact absurd hover (hlive result)
  | delayElapsed | firstWins | firstFails => cases hover
  | @primaryOnly got rest hp hc | loser hp hc =>
    cases hover
    exact ⟨rfl, hsplit (by simp only [ends, hp, hc]; rfl)
      (.of_eq (by simp [results, held, hp, hc]))⟩
  | @second first got rest hp hc =>
    have hresults : r.results = first.result :: got.result :: rest.map HedgeResult.result := by
      simp [results, held, hp, hc]
    cases hw : got.result.wins heur payload with
    | true =>
      simp only [hw, if_true] at hover
      cases hover
      exact ⟨rfl, hsplit (by simp only [ends, hp, hc, hw, if_true])
        (hresults ▸ List.Perm.swap _ _ _)⟩
    | false =>
      simp only [hw, Bool.false_eq_true, if_false] at hover
      cases hover
      exact ⟨rfl, hsplit (by simp only [ends, hp, hc, hw, Bool.false_eq_true, if_false])
        (.of_eq hresults)⟩
  | loserTimeout hp | secondTimeout hp =>
    cases hover
    exact ⟨rfl, hsplit (by simp only [ends, hp]; rfl) (.of_eq (by simp [results, held, hp]))⟩
  | @callerDone err hcaller hp =>
    cases hover
    refine ⟨rfl, r.results, ?_, le_add_left _ _⟩
    rcases hp with hp | hp | ⟨first, hp⟩ <;> simp [ends, hcaller, hp]
  | drain hd | graceExpired hd =>
    rw [hclean] at hd
    cases hd

theorem pending_le_one (htidy : r.Tidy) (hp : r.phase = .awaitDelay) : r.pending p ≤ 1 := by
  have hread := htidy.read_le
  have hidle := htidy.hedge_idle hp
  have hsettled : r.settledCount ≤ 1 := by
    simp only [settledCount, hidle]
    split <;> simp
  have hlength : r.results.length = r.resultChan.length := by simp [results, held, hp]
  have hcount : r.pending p ≤ r.results.length := countP_le_length
  omega

/-- Every one of `n` capability limitations is counted or, while the race is on, held by it. -/
structure Counted (fresh racing retrying : Prop) (racer : Option Racer) (failures n : ℕ) :
    Prop where
  fresh : fresh → n = 0
  racing : racing → failures = 0 ∧ ∀ r, racer = some r → n ≤ r.pending p
  retrying : retrying → n ≤ failures ∧ failures < capabilityAttemptBudget

section Counted

variable {p} {fresh racing retrying : Prop} {racer : Option Racer} {failures n : ℕ}

theorem counted_of_not (hfresh : ¬fresh) (hracing : ¬racing) (hretrying : ¬retrying) :
    Counted p fresh racing retrying racer failures n :=
  ⟨fun h => absurd h hfresh, fun h => absurd h hracing, fun h => absurd h hretrying⟩

theorem Counted.running (h : Counted p fresh racing retrying racer failures n)
    (hpaced : Paced racing racer) (hracer : racer = some r)
    (hfresh : ¬fresh) (hstep : r.step net heur payload callerErr event = some r')
    (hlive : racing → ∀ result, r'.phase ≠ .returned result)
    (hquiet : retrying → ∀ result ∈ event.delivered, p result = false) :
    Counted p fresh racing retrying (some r') failures (n + if event.delivered.any p then 1
      else 0) := by
  refine ⟨fun hf => absurd hf hfresh, fun hr => ⟨(h.racing hr).1, ?_⟩, fun hr => ?_⟩
  · rintro _ ⟨⟩
    have hle := (h.racing hr).2 r hracer
    rw [pending_of_live p (hpaced.tidy r hracer) (hpaced.live hr r hracer) hstep (hlive hr)]
    omega
  · rw [(any_eq_false _ _).mpr (hquiet hr)]
    exact h.retrying hr

theorem Counted.lt_of_awaitDelay (h : Counted p fresh racing retrying racer failures n)
    (hpaced : Paced racing racer) (hracer : racer = some r) (hp : r.phase = .awaitDelay) :
    n < capabilityAttemptBudget := by
  have hle := (h.racing (hpaced.awaits hracer hp)).2 r hracer
  have hone := pending_le_one p (hpaced.tidy r hracer) hp
  exact (hle.trans hone).trans_lt one_lt_two

end Counted

end Racer

def SingleConfig.limited (cfg : SingleConfig) : RelayResult → Bool :=
  RelayResult.limited cfg.heur (cfg.check none)

def SingleConfig.passes (cfg : SingleConfig) : RelayResult → Bool :=
  RelayResult.passes (cfg.check none)

def SingleEvent.limited (cfg : SingleConfig) : SingleEvent → Bool
  | .relayDone a => cfg.limited ⟨a.responses, a.err⟩
  | .race event => event.delivered.any cfg.limited
  | _ => false

def SinglePhase.retrying : SinglePhase → Bool
  | .attempting | .relaying | .delaying => true
  | .racing | .returned _ => false

variable {answers : AttemptAnswers}

namespace Single

variable {cfg : SingleConfig} {s s' : Single} {n : ℕ} {target : EndpointAddr} {event : SingleEvent}

/-- A race that the request outlives leaves no capability limitation uncounted, neither when it
ends nor when a relay comes back later. -/
def CountsRace (cfg : SingleConfig) (s : Single) : SingleEvent → Prop
  | .race event => s.clientErr = none → ∀ r ∈ s.racer,
    (s.phase = .racing → ∀ ended ∈ r.ends cfg.heur cfg.payload none event,
      cfg.passes ended.1 = true ∨ ∀ result ∈ ended.2, cfg.limited result = false) ∧
    (s.phase.retrying = true → ∀ result ∈ event.delivered, cfg.limited result = false)
  | _ => True

instance CountsRace.decidable (cfg : SingleConfig) (s : Single) :
    ∀ event, Decidable (CountsRace cfg s event)
  | .race _ => inferInstanceAs (Decidable (_ → ∀ r ∈ s.racer, _))
  | .clientDone _ | .attempt _ | .relayDone _ | .delayOver | .delayCut => .isTrue trivial

abbrev Counted (cfg : SingleConfig) (s : Single) (n : ℕ) : Prop :=
  Racer.Counted cfg.limited (s.phase = .attempting ∧ s.attempt = 1) (s.phase = .racing)
    (s.phase.retrying = true ∧ s.clientErr = none) s.racer s.capabilityFailures n

theorem counted_of_returned {err : Option GoError} (hp : s.phase = .returned err) :
    Counted cfg s n := by
  apply counted_of_not <;> simp [hp, SinglePhase.retrying]

theorem counted_start : Counted cfg (start cfg target) 0 := by
  unfold start
  dsimp only
  split
  · exact ⟨fun _ => rfl, by simp, fun _ => ⟨le_rfl, zero_lt_two⟩⟩
  · exact counted_of_returned rfl

theorem Begins.counted (hbegins : Begins cfg s answers s') (h : Counted cfg s n)
    (hopening : Opening target s) (hp : s.phase = .attempting) : Counted cfg s' n := by
  have hretrying (hclient : s.clientErr = none) := h.retrying ⟨by rw [hp]; rfl, hclient⟩
  cases hbegins with
  | clientGone | exhaust => exact counted_of_returned rfl
  | relay hclient | retry hclient =>
    exact ⟨by simp [startRelay], by simp [startRelay], fun _ => hretrying hclient⟩
  | race hclient hfirst =>
    obtain rfl := h.fresh ⟨hp, hfirst⟩
    obtain ⟨-, -, -, hzero⟩ := hopening.fresh hp hfirst
    exact ⟨by simp, fun _ => ⟨hzero, fun _ _ => zero_le _⟩,
      by simp [startRace, SinglePhase.retrying]⟩

theorem Races.counted {r r' : Racer} {event : RaceEvent} (hraces : Races cfg s r' event s')
    (h : Counted cfg s n) (hopening : Opening target s) (hracer : s.racer = some r)
    (hcounts : CountsRace cfg s (.race event))
    (hmove : r.step cfg.net cfg.heur cfg.payload s.clientErr event = some r') :
    Counted cfg s' (n + if event.delivered.any cfg.limited then 1 else 0) := by
  have hpaced := hopening.paced
  cases hraces with
  | running hadds hlive =>
    refine h.running hpaced hracer (fun hfresh => ?_) hmove hlive fun hretrying => ?_
    · cases hracer.symm.trans (hopening.fresh hfresh.1 hfresh.2).2.1
    · exact (hcounts hretrying.2 r hracer).2 hretrying.1
  | ended hadds hp hreturned hends =>
    obtain ⟨hzero, hpending⟩ := h.racing hp
    have hpending := hpending r hracer
    obtain ⟨hnone, left, hleft, hsplit⟩ := ends_of_step cfg.limited (hpaced.tidy r hracer)
      (hpaced.live hp r hracer) hmove hreturned
    rw [hnone, any_none, if_neg Bool.false_ne_true, add_zero]
    cases hends with
    | returned => exact counted_of_returned rfl
    | again hfails hcount =>
      have hbegun := hopening.attempt
      obtain ⟨hwithin, hcounted⟩ := hcount (hzero ▸ zero_lt_two)
      refine ⟨fun hone => ?_, by simp, fun hretrying => ⟨?_, hwithin⟩⟩
      · have hone := hone.2
        dsimp only at hone
        omega
      · have hgone : s.clientErr = none := hretrying.2
        rw [hgone] at hleft
        rcases (hcounts hgone r hracer).1 hp _ hleft with hpass | hrest
        · exact absurd (hpass.symm.trans hfails) (by simp)
        · have hnothing : left.countP cfg.limited = 0 :=
            countP_eq_zero.mpr fun x hx => by simp [hrest x hx]
          change _ + (if cfg.limited _ then 1 else 0) ≤ _ at hcounted
          dsimp only at hcounted ⊢
          omega

theorem Counted.step (h : Counted cfg s n) (hopening : Opening target s)
    (hcounts : CountsRace cfg s event) (hstep : s.step cfg event = some s') :
    Counted cfg s' (n + if event.limited cfg then 1 else 0) := by
  cases moves_of_step hstep with
  | clientDone => exact ⟨h.fresh, h.racing, by simp⟩
  | attempt hp hbegins => exact hbegins.counted h hopening hp
  | race hracer hmove hraces => exact hraces.counted h hopening hracer hcounts hmove
  | relayDone hp hends =>
    cases hends with
    | returned => exact counted_of_returned rfl
    | again hfails hgoes hcount =>
      refine ⟨by simp, by simp, fun hretrying => ?_⟩
      obtain ⟨hle, hless⟩ := h.retrying ⟨by rw [hp]; rfl, hretrying.2⟩
      obtain ⟨hwithin, hcounted⟩ := hcount hless
      exact ⟨(Nat.add_le_add_right hle _).trans hcounted, hwithin⟩
  | delayOver hp =>
    have hbegun := hopening.attempt
    refine ⟨fun hone => ?_, by simp, fun hretrying => h.retrying ⟨by rw [hp]; rfl, hretrying.2⟩⟩
    have hone := hone.2
    dsimp only at hone
    omega
  | delayCut => exact counted_of_returned rfl

theorem lt_of_starts (h : Counted cfg s n) (hopening : Opening target s)
    (hstep : s.step cfg event = some s') (hstarts : s'.starts ≠ s.starts) :
    n < capabilityAttemptBudget := by
  by_cases hattempt : ∃ answers, event = .attempt answers
  · obtain ⟨answers, rfl⟩ := hattempt
    cases moves_of_step hstep with
    | attempt hp hbegins =>
      cases hbegins with
      | clientGone | exhaust => exact absurd rfl hstarts
      | relay hclient | race hclient | retry hclient =>
        obtain ⟨hle, hless⟩ := h.retrying ⟨by rw [hp]; rfl, hclient⟩
        exact hle.trans_lt hless
  · obtain ⟨-, -, -, hsent⟩ := step_frame (fun answers heq => hattempt ⟨answers, heq⟩) hstep
    rcases hsent with ⟨-, hnone⟩ | ⟨raceEvent, r, r', rfl, hracer, hmove, -, hadds⟩
    · exact absurd hnone hstarts
    · obtain ⟨⟨rank, buildErr, rfl⟩, -⟩ := hadds.resolve_left hstarts
      cases Racer.moves_of_step hmove with
      | delayElapsed hdelay => exact h.lt_of_awaitDelay hopening.paced hracer hdelay

end Single

def ItemConfig.limited (cfg : ItemConfig) : RelayResult → Bool :=
  RelayResult.limited cfg.heur cfg.check

def ItemConfig.passes (cfg : ItemConfig) : RelayResult → Bool :=
  RelayResult.passes cfg.check

def ItemEvent.limited (cfg : ItemConfig) : ItemEvent → Bool
  | .relayDone result => cfg.limited result
  | .relayCut responses err => cfg.limited ⟨responses, some err⟩
  | .race event => event.delivered.any cfg.limited
  | _ => false

def ItemPhase.retrying : ItemPhase → Bool
  | .attempting | .relaying _ => true
  | .racing | .returned _ _ => false

namespace Item

variable {cfg : ItemConfig} {s s' : Item} {n : ℕ} {event : ItemEvent}

/-- As for a single request; a race that ends without an answer has none of its results counted. -/
def CountsRace (cfg : ItemConfig) (s : Item) : ItemEvent → Prop
  | .race event => ∀ r ∈ s.racer,
    (s.phase = .racing → ∀ ended ∈ r.ends cfg.heur cfg.payload s.clientErr event,
      cfg.passes ended.1 = true ∨
        ∀ result ∈ if ended.1.answered then ended.2 else r.results, cfg.limited result = false) ∧
    (s.phase.retrying = true → ∀ result ∈ event.delivered, cfg.limited result = false)
  | _ => True

instance CountsRace.decidable (cfg : ItemConfig) (s : Item) :
    ∀ event, Decidable (CountsRace cfg s event)
  | .race _ => inferInstanceAs (Decidable (∀ r ∈ s.racer, _))
  | .clientDone _ | .attempt _ | .relayDone _ | .relayCut _ _ => .isTrue trivial

abbrev Counted (cfg : ItemConfig) (s : Item) (n : ℕ) : Prop :=
  Racer.Counted cfg.limited (s.phase = .attempting ∧ s.attempt = 1) (s.phase = .racing)
    (s.phase.retrying = true) s.racer s.capabilityFailures n

theorem counted_of_returned {resp : Response} {err : Option GoError}
    (hp : s.phase = .returned resp err) : Counted cfg s n := by
  apply counted_of_not <;> simp [hp, ItemPhase.retrying]

theorem counted_start : Counted cfg (start cfg) 0 := by
  obtain ⟨phase, heq, hphase⟩ := start_eq cfg
  rw [heq]
  rcases hphase with rfl | ⟨resp, rfl⟩
  · exact ⟨fun _ => rfl, by simp, fun _ => ⟨le_rfl, zero_lt_two⟩⟩
  · exact counted_of_returned rfl

theorem Leaves.counted {limited : Bool} (h : Leaves s limited s') (hattempt : 1 ≤ s.attempt)
    (hless : s.capabilityFailures < capabilityAttemptBudget)
    (hle : n ≤ s.capabilityFailures + if limited then 1 else 0) : Counted cfg s' n := by
  cases h with
  | again hcount =>
    obtain ⟨hwithin, hcount⟩ := hcount hless
    refine ⟨fun hone => ?_, by simp, fun _ => ⟨hle.trans hcount, hwithin⟩⟩
    have hone := hone.2
    dsimp only at hone
    omega
  | givenUp => exact counted_of_returned rfl

theorem counted_startRelay {afterRace : Bool}
    (hcount : n ≤ s.capabilityFailures ∧ s.capabilityFailures < capabilityAttemptBudget) :
    Counted cfg (s.startRelay afterRace) n :=
  ⟨by simp [startRelay], by simp [startRelay], fun _ => hcount⟩

theorem Begins.counted (hbegins : Begins cfg s answers s') (h : Counted cfg s n)
    (hopening : Opening s) (hp : s.phase = .attempting) : Counted cfg s' n := by
  have hattempt := hopening.attempt
  obtain ⟨hle, hless⟩ := h.retrying (by rw [hp]; rfl)
  cases hbegins with
  | clientGone => exact counted_of_returned rfl
  | unavailable hleaves | starved _ _ _ hleaves => exact hleaves.counted hattempt hless hle
  | uses _ _ _ _ huses =>
    cases huses with
    | unbuilt hleaves => exact hleaves.counted hattempt hless hle
    | race hfirst =>
      obtain rfl := h.fresh ⟨hp, hfirst⟩
      obtain ⟨-, -, hzero⟩ := hopening.fresh hp hfirst
      exact ⟨by simp, fun _ => ⟨hzero, fun _ _ => zero_le _⟩,
        by simp [startRace, ItemPhase.retrying]⟩
    | relay => exact counted_startRelay ⟨hle, hless⟩

theorem Races.counted {r r' : Racer} {event : RaceEvent} (hraces : Races cfg s r' event s')
    (h : Counted cfg s n) (hopening : Opening s) (hracer : s.racer = some r)
    (hcounts : CountsRace cfg s (.race event))
    (hmove : r.step cfg.net cfg.heur cfg.payload s.clientErr event = some r') :
    Counted cfg s' (n + if event.delivered.any cfg.limited then 1 else 0) := by
  have hpaced := hopening.paced
  cases hraces with
  | @ended _ _ result _ _ hp hover hends =>
    obtain ⟨hzero, hpending⟩ := h.racing hp
    have hpending := hpending r hracer
    have hless : s.capabilityFailures < capabilityAttemptBudget := hzero ▸ zero_lt_two
    obtain ⟨hnone, left, hleft, hsplit⟩ := ends_of_step cfg.limited (hpaced.tidy r hracer)
      (hpaced.live hp r hracer) hmove hover
    rw [hnone, any_none, if_neg Bool.false_ne_true, add_zero]
    have huncounted (hfails : cfg.passes result = false) := ((hcounts r hracer).1 hp _ hleft)
      |>.resolve_left (by simp [hfails])
    cases hends with
    | passed => exact counted_of_returned rfl
    | failed hanswered hfails _ _ hleaves =>
      refine hleaves.counted hopening.attempt hless ?_
      have hall := huncounted hfails
      rw [if_pos hanswered] at hall
      have hnothing : left.countP cfg.limited = 0 :=
        countP_eq_zero.mpr fun x hx => by simp [hall x hx]
      change n ≤ s.capabilityFailures + if cfg.limited result then 1 else 0
      omega
    | unanswered hunanswered hfails =>
      refine counted_startRelay ⟨?_, hless⟩
      have hall := huncounted hfails
      rw [if_neg (by simp [hunanswered])] at hall
      have hnothing : r.pending cfg.limited = 0 :=
        countP_eq_zero.mpr fun x hx => by simp [hall x hx]
      change n ≤ s.capabilityFailures
      omega
  | running hnotes hon =>
    refine h.running hpaced hracer (fun hfresh => ?_) hmove hon (hcounts r hracer).2
    cases hracer.symm.trans (hopening.fresh hfresh.1 hfresh.2).1

theorem Counted.step (h : Counted cfg s n) (hopening : Opening s) (hcounts : CountsRace cfg s event)
    (hstep : s.step cfg event = some s') :
    Counted cfg s' (n + if event.limited cfg then 1 else 0) := by
  cases moves_of_step hstep with
  | clientDone => exact ⟨h.fresh, h.racing, h.retrying⟩
  | attempt hp hbegins => exact hbegins.counted h hopening hp
  | race hracer hmove hraces => exact hraces.counted h hopening hracer hcounts hmove
  | relayDone hp hends | relayCut hp _ hends =>
    have hcount := h.retrying (by rw [hp]; rfl)
    cases hends with
    | passed => exact counted_of_returned rfl
    | failed _ hleaves =>
      exact hleaves.counted hopening.attempt hcount.2 (Nat.add_le_add_right hcount.1 _)

theorem lt_of_starts (h : Counted cfg s n) (hopening : Opening s) (hcounts : CountsRace cfg s event)
    (hstep : s.step cfg event = some s') (hstarts : s'.starts ≠ s.starts) :
    n < capabilityAttemptBudget := by
  have hwithin (hretrying : s.phase.retrying = true) : n < capabilityAttemptBudget :=
    (h.retrying hretrying).1.trans_lt (h.retrying hretrying).2
  have hcounted := Counted.step h hopening hcounts hstep
  cases moves_of_step hstep with
  | clientDone => exact absurd rfl hstarts
  | attempt hp | relayDone hp | relayCut hp => exact hwithin (by rw [hp]; rfl)
  | @race event r r' _ hracer hmove hraces =>
    have hhedge (hdelay : ∃ rank buildErr, event = .delayElapsed rank buildErr) :
        n < capabilityAttemptBudget := by
      obtain ⟨rank, buildErr, rfl⟩ := hdelay
      cases Racer.moves_of_step hmove with
      | delayElapsed hdelay => exact h.lt_of_awaitDelay hopening.paced hracer hdelay
    cases hraces with
    | running hnotes =>
      rcases hnotes.starts with heq | ⟨hdelay, -⟩
      · exact absurd heq hstarts
      · exact hhedge hdelay
    | ended hnotes hp hover hends =>
      rcases hnotes.starts with rfl | ⟨hdelay, -⟩
      · -- the race itself sends nothing: a relay comes after it, if it ended without an answer
        cases hends with
        | passed => exact absurd rfl hstarts
        | failed _ _ _ _ hleaves => cases hleaves <;> exact absurd rfl hstarts
        | unanswered =>
          obtain ⟨hle, hless⟩ := hcounted.retrying rfl
          omega
      · exact hhedge hdelay

end Item

/-- For a single request as for a batch item: where the races leave nothing uncounted, a relay is
sent only while fewer than two have failed with a capability limitation. -/
theorem lt_capabilityAttemptBudget_of_countsRace (cfg : SingleConfig) (target : EndpointAddr)
    (events : List SingleEvent) (event : SingleEvent) (s s' : Single) (itemCfg : ItemConfig)
    (itemEvents : List ItemEvent) (itemEvent : ItemEvent) (item item' : Item)
    (hrun : run (Single.step cfg) (Single.start cfg target) events = some s)
    (hcounts : Machine.Meets (Single.step cfg) (Single.CountsRace cfg) (Single.start cfg target)
      (events ++ [event]))
    (hstep : s.step cfg event = some s')
    (hitem : run (Item.step itemCfg) (Item.start itemCfg) itemEvents = some item)
    (hitemCounts : Machine.Meets (Item.step itemCfg) (Item.CountsRace itemCfg) (Item.start itemCfg)
      (itemEvents ++ [itemEvent]))
    (hitemStep : item.step itemCfg itemEvent = some item') :
    (s'.starts ≠ s.starts → events.countP (SingleEvent.limited cfg) < capabilityAttemptBudget) ∧
      (item'.starts ≠ item.starts →
        itemEvents.countP (ItemEvent.limited itemCfg) < capabilityAttemptBudget) := by
  refine ⟨fun hsent => ?_, fun hsent => ?_⟩
  · obtain ⟨hmeets, -⟩ := hcounts.last hrun
    obtain ⟨hopening, hcounted⟩ := invariant_count (p := SingleEvent.limited cfg)
      (I := fun s n => Single.Opening target s ∧ Single.Counted cfg s n)
      (fun s n e s' h hc he => ⟨h.1.step he, Single.Counted.step h.2 h.1 hc he⟩)
      ⟨Single.opening_start, Single.counted_start⟩ hmeets hrun
    rw [zero_add] at hcounted
    exact Single.lt_of_starts hcounted hopening hstep hsent
  · obtain ⟨hmeets, hlast⟩ := hitemCounts.last hitem
    obtain ⟨hopening, hcounted⟩ := invariant_count (p := ItemEvent.limited itemCfg)
      (I := fun s n => Item.Opening s ∧ Item.Counted itemCfg s n)
      (fun s n e s' h hc he => ⟨h.1.step he, Item.Counted.step h.2 h.1 hc he⟩)
      ⟨Item.opening_start, Item.counted_start⟩ hmeets hitem
    rw [zero_add] at hcounted
    exact Item.lt_of_starts hcounted hopening hlast hitemStep hsent

def prunedHeuristics : Heuristics :=
  { calmHeuristics with errorContainsArchivalPattern := fun err => err = "missing trie node" }

def prunedRequest : SingleConfig := { sampleRequest (some 100) with heur := prunedHeuristics }

def prunedItem : ItemConfig := { retriedItem with heur := prunedHeuristics }

def pruned : RelayResult := ⟨[], some "missing trie node"⟩

def prunedRace (hedged : RelayResult) : List SingleEvent :=
  [.attempt threeOperators, .race (.delayElapsed (fun eps => eps.headD "") none),
    .race (.branchDone false pruned), .race .receive, .race (.branchDone true hedged),
    .race .receive]

def prunedAfterRace : List ItemEvent :=
  [.attempt threeOperators,
    .race (.branchDone false ⟨[unhappy addrA], none⟩), .race .receive,
    .attempt threeOperators, .relayDone pruned]

theorem third_relay_within_budget : ∃ s s' item item',
    run (Single.step prunedRequest)
        (Single.start prunedRequest addrA)
        (prunedRace ⟨[], some "EOF"⟩) = some s ∧
      s.step prunedRequest (.attempt threeOperators) = some s' ∧ s'.starts ≠ s.starts ∧
      run (Item.step prunedItem) (Item.start prunedItem) prunedAfterRace = some item ∧
      item.step prunedItem (.attempt threeOperators) = some item' ∧ item'.starts ≠ item.starts ∧
      (prunedRace ⟨[], some "EOF"⟩).countP (SingleEvent.limited prunedRequest) <
        capabilityAttemptBudget ∧
      prunedAfterRace.countP (ItemEvent.limited prunedItem) < capabilityAttemptBudget := by
  refine ⟨_, _, _, _, eq_some_of_isSome (by decide +kernel), eq_some_of_isSome (by decide +kernel),
    by decide +kernel, eq_some_of_isSome (by decide +kernel),
    eq_some_of_isSome (by decide +kernel), by decide +kernel, ?_⟩
  refine (lt_capabilityAttemptBudget_of_countsRace prunedRequest addrA _
    (.attempt threeOperators) _ _ prunedItem prunedAfterRace (.attempt threeOperators) _ _
    (eq_some_of_isSome ?_) (by decide +kernel) (eq_some_of_isSome ?_) (eq_some_of_isSome ?_)
    (by decide +kernel) (eq_some_of_isSome ?_)).imp (fun h => h ?_) fun h => h ?_
  all_goals decide +kernel

theorem third_relay_past_budget : ∃ s s' item item',
    run (Single.step prunedRequest)
        (Single.start prunedRequest addrA) (prunedRace pruned) = some s ∧
      s.step prunedRequest (.attempt threeOperators) = some s' ∧
      s'.starts.length = s.starts.length + 1 ∧
      (prunedRace pruned).countP (SingleEvent.limited prunedRequest) = capabilityAttemptBudget ∧
      run (Item.step prunedItem) (Item.start prunedItem)
        [.attempt threeOperators, .race (.branchDone false pruned), .race .receive,
          .relayDone pruned] = some item ∧
      item.step prunedItem (.attempt threeOperators) = some item' ∧
      item'.starts.length = item.starts.length + 1 ∧
      [ItemEvent.attempt threeOperators, .race (.branchDone false pruned), .race .receive,
        .relayDone pruned].countP (ItemEvent.limited prunedItem) = capabilityAttemptBudget := by
  decide +kernel

end PathGateway
