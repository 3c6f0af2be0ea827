import PathGateway.ItemSoundness

/-! Who cancels the contexts of a hedge race, and when. The racer cancels both branch
contexts together, on its own exits and from the background drain; a plain relay after
the race runs on the primary's context. -/

namespace PathGateway

open Item Racer Machine List

variable {result : RelayResult}

namespace Racer

variable {net : NetLib} {heur : Heuristics} {payload : Payload} {callerErr : Option GoError}
  {r r' : Racer} {event : RaceEvent}

def settledCount (r : Racer) : Nat :=
  (if r.primary = .settled then 1 else 0) + (if r.hedge = .settled then 1 else 0)

def read (r : Racer) : Nat :=
  match r.phase with
  | .awaitSecond _ | .collectLoser _ => 1
  | _ => 0

/-- Neither branch is in flight. -/
def Quiet (r : Racer) : Prop := r.primary ≠ .inFlight ∧ r.hedge ≠ .inFlight

structure Tidy (r : Racer) : Prop where
  read_le : r.read + r.resultChan.length ≤ r.settledCount
  drain_le : ∀ n, r.cleanup = some n → 2 + r.resultChan.length ≤ n + r.settledCount
  hedge_idle : r.phase = .awaitDelay → r.hedge = .idle
  over_of_cancelled : r.cancelled = true → ∃ result, r.phase = .returned result
  over_of_cleanup : r.cleanup ≠ none → ∃ result, r.phase = .returned result
  winner_answered : ∀ winner, r.phase = .collectLoser winner → winner.result.answered = true

theorem tidy_start (primaryEndpoint : EndpointAddr) (availableEndpoints : List EndpointAddr) :
    (start primaryEndpoint availableEndpoints).Tidy := by
  constructor <;> simp [start, read, settledCount]

theorem quiet_of_settledCount (h : 2 ≤ r.settledCount) : r.Quiet := by
  unfold settledCount at h
  have hp : r.primary = .settled := by
    by_contra hp
    rw [if_neg hp] at h
    split at h <;> omega
  have hh : r.hedge = .settled := by
    by_contra hh
    rw [if_neg hh] at h
    split at h <;> omega
  exact ⟨by rw [hp]; decide, by rw [hh]; decide⟩

variable {got : HedgeResult} {rest : List HedgeResult}

theorem Tidy.quiet (h : r.Tidy)
    (hc : r.resultChan = got :: rest) (hp : r.phase = .awaitDelay ∨ r.read = 1) : r.Quiet := by
  have hread := h.read_le
  rw [hc, length_cons] at hread
  rcases hp with hp | hp
  · have hidle := h.hedge_idle hp
    have hsettled : r.primary = .settled := by
      by_contra hne
      simp only [settledCount, if_neg hne, hidle] at hread
      simp at hread
    exact ⟨by rw [hsettled]; decide, by rw [hidle]; decide⟩
  · exact quiet_of_settledCount (by omega)

variable {isHedge : Bool} {rank : List EndpointAddr → EndpointAddr} {buildErr : Option GoError}
  {relaying : Bool}

theorem settledCount_settle (hb : r.branch isHedge = .inFlight) :
    (r.settle isHedge result).settledCount = r.settledCount + 1 := by
  cases isHedge with
  | false =>
    have hp : r.primary = .inFlight := hb
    simp [settledCount, settle, hp]
    omega
  | true =>
    have hh : r.hedge = .inFlight := hb
    simp [settledCount, settle, hh]

theorem Tidy.settle (h : r.Tidy) (hb : r.branch isHedge = .inFlight) :
    (r.settle isHedge result).Tidy := by
  have hcount : (r.settle isHedge result).settledCount = r.settledCount + 1 :=
    settledCount_settle hb
  have hlen : (r.settle isHedge result).resultChan.length = r.resultChan.length + 1 := by
    simp [Racer.settle]
  refine ⟨?_, fun n hn => ?_, fun hp => ?_, h.over_of_cancelled, h.over_of_cleanup,
    h.winner_answered⟩
  · have hread : (r.settle isHedge result).read = r.read := rfl
    have hle := h.read_le
    omega
  · have hle := h.drain_le n hn
    omega
  · have hidle := h.hedge_idle hp
    cases isHedge with
    | false => exact hidle
    | true =>
      have hh : r.hedge = .inFlight := hb
      rw [hidle] at hh
      cases hh

theorem settledCount_startHedge (hidle : r.hedge = .idle) :
    (r.startHedge net rank buildErr).settledCount = r.settledCount := by
  have hne : (r.startHedge net rank buildErr).hedge ≠ .settled := by
    unfold startHedge
    dsimp only
    split <;> decide
  rw [settledCount, settledCount, if_neg hne, hidle]
  rfl

theorem Tidy.startHedge (h : r.Tidy) (hp : r.phase = .awaitDelay) :
    (r.startHedge net rank buildErr).Tidy := by
  have hidle := h.hedge_idle hp
  have hcount : (r.startHedge net rank buildErr).settledCount = r.settledCount :=
    settledCount_startHedge hidle
  have hread : r.read = 0 := by simp [read, hp]
  have hnot : ¬∃ result, r.phase = .returned result := by simp [hp]
  refine ⟨?_, fun n hn => ?_, by simp [Racer.startHedge], fun hc => ?_, fun hc => ?_,
    by simp [Racer.startHedge]⟩
  · have hle := h.read_le
    rw [hcount]
    simp only [read, Racer.startHedge] at hle ⊢
    omega
  · exact absurd (h.over_of_cleanup (by rw [show r.cleanup = some n from hn]; simp)) hnot
  · exact absurd (h.over_of_cancelled hc) hnot
  · exact absurd (h.over_of_cleanup hc) hnot

theorem Tidy.returns {t : Racer} (h : r.Tidy) (hover : ∃ result, t.phase = .returned result)
    (hcount : t.settledCount = r.settledCount) (hlen : t.resultChan.length ≤ r.resultChan.length)
    (hcl : t.cleanup = r.cleanup ∨ t.cleanup = some 2) : t.Tidy := by
  obtain ⟨result, hover⟩ := hover
  have hle := h.read_le
  refine ⟨?_, fun n hn => ?_, by simp [hover], fun _ => ⟨result, hover⟩, fun _ => ⟨result, hover⟩,
    by simp [hover]⟩
  · have hread : t.read = 0 := by simp [read, hover]
    omega
  · rcases hcl with hcl | hcl
    · have := h.drain_le n (hcl ▸ hn)
      omega
    · rw [hn, Option.some.injEq] at hcl
      omega

theorem Tidy.reads {phase : RacePhase} (h : r.Tidy) (hp : r.phase = .awaitFirst)
    (hc : r.resultChan = got :: rest) (hne : phase ≠ .awaitDelay)
    (hw : ∀ winner, phase = .collectLoser winner → winner.result.answered = true) :
    { r with resultChan := rest, phase := phase }.Tidy := by
  have hle := h.read_le
  have hone : { r with resultChan := rest, phase := phase }.read ≤ 1 := by
    cases phase <;> simp [read]
  have hnot : ¬∃ result, r.phase = .returned result := by simp [hp]
  have hcl : r.cleanup = none := by
    by_contra hcl
    exact hnot (h.over_of_cleanup hcl)
  refine ⟨?_, fun n hn => ?_, fun hd => absurd hd hne, fun hcan => ?_, fun hcl' => ?_, hw⟩
  · have hcount : { r with resultChan := rest, phase := phase }.settledCount = r.settledCount := rfl
    rw [hc, length_cons] at hle
    dsimp only
    omega
  · exact absurd (hcl.symm.trans hn) (by simp)
  · exact absurd (h.over_of_cancelled hcan) hnot
  · exact absurd hcl hcl'

theorem Tidy.drain {n : Nat} (h : r.Tidy)
    (hd : r.cleanup = some (n + 1)) (hc : r.resultChan = got :: rest) : (r.drain rest n).Tidy := by
  obtain ⟨result, hover⟩ := h.over_of_cleanup (by rw [hd]; simp)
  have hread := h.read_le
  have hle := h.drain_le _ hd
  rw [hc, length_cons] at hread hle
  have hphase : (r.drain rest n).phase = .returned result := by cases n <;> exact hover
  have hchan : (r.drain rest n).resultChan = rest := by cases n <;> rfl
  have hcount : (r.drain rest n).settledCount = r.settledCount := by cases n <;> rfl
  refine ⟨?_, fun m hm => ?_, by simp [hphase], fun _ => ⟨result, hphase⟩,
    fun _ => ⟨result, hphase⟩, by simp [hphase]⟩
  · have hzero : (r.drain rest n).read = 0 := by simp [read, hphase]
    rw [hzero, hchan, hcount]
    omega
  · rw [hchan, hcount]
    cases n with
    | zero => cases hm
    | succ =>
      cases hm
      omega

theorem tidy_of_step (h : r.Tidy) (hstep : r.step net heur payload callerErr event = some r') :
    r'.Tidy := by
  cases moves_of_step hstep with
  | branchDone hb | branchCut hb => exact h.settle hb
  | delayElapsed hp => exact h.startHedge hp
  | primaryOnly hp hc | second hp hc | loser hp hc =>
    exact h.returns ⟨_, rfl⟩ rfl (by simp [hc, returnWith, cancelBranches]) (.inl rfl)
  | firstWins hp hc hw =>
    refine h.reads hp hc (by simp) fun winner heq => ?_
    cases heq
    exact RelayResult.answered_of_wins hw
  | firstFails hp hc => exact h.reads hp hc (by simp) (by simp)
  | loserTimeout | secondTimeout | callerDone => exact h.returns ⟨_, rfl⟩ rfl le_rfl (.inr rfl)
  | drain hd hc => exact h.drain hd hc
  | graceExpired hd =>
    have hover := h.over_of_cleanup (by rw [hd]; simp)
    exact ⟨h.read_le, by simp, h.hedge_idle, fun _ => hover, by simp, h.winner_answered⟩

/-- What the gateway must not do to its own relays: end the race without an answer as it
cancels the contexts, or cancel them from the drain while a relay runs on one of them. -/
def Undisturbed (heur : Heuristics) (payload : Payload) (r : Racer) (relaying : Bool) :
    RaceEvent → Prop
  | .receive =>
    match r.phase, r.resultChan with
    | .awaitDelay, got :: _ => got.result.answered = true
    | .awaitSecond first, got :: _ =>
      got.result.wins heur payload = true ∨ first.result.answered = true
    | _, _ => True
  | .cleanupReceive => r.cleanup = some 1 → relaying = false
  | .graceExpired => r.Quiet ∧ relaying = false
  | _ => True

theorem Quiet.branch_ne (h : r.Quiet) (isHedge : Bool) : r.branch isHedge ≠ .inFlight := by
  cases isHedge with
  | false => exact h.1
  | true => exact h.2

theorem Tidy.uncancelled (h : r.Tidy) (hp : ∀ result, r.phase ≠ .returned result) :
    r.cancelled ≠ true := by
  intro hc
  obtain ⟨result, hover⟩ := h.over_of_cancelled hc
  exact hp result hover

theorem quiet_of_step (h : r.Tidy) (hund : r.Undisturbed heur payload relaying event)
    (hq : r.cancelled = true → r.Quiet) (hstep : r.step net heur payload callerErr event = some r')
    (hc' : r'.cancelled = true) : r'.Quiet := by
  cases moves_of_step hstep with
  | branchDone hb | branchCut hb => exact absurd hb ((hq hc').branch_ne _)
  | delayElapsed hp | firstWins hp | firstFails hp | loserTimeout hp | secondTimeout hp =>
    exact absurd hc' (h.uncancelled (by simp [hp]))
  | primaryOnly hp hc => exact h.quiet hc (.inl hp)
  | second hp hc | loser hp hc => exact h.quiet hc (.inr (by simp [read, hp]))
  | callerDone _ hp =>
    refine absurd hc' (h.uncancelled fun result hres => ?_)
    rcases hp with hp | hp | ⟨first, hp⟩ <;> rw [hp] at hres <;> cases hres
  | @drain n got rest hd hc =>
    have hle := h.drain_le _ hd
    rw [hc, length_cons] at hle
    cases n with
    | zero => exact quiet_of_settledCount (r := r) (by omega)
    | succ => exact hq hc'
  | graceExpired => exact hund.1

def endsAnswered (heur : Heuristics) (payload : Payload) (r : Racer) : RaceEvent → Bool
  | .receive =>
    match r.phase, r.resultChan with
    | .awaitDelay, got :: _ => got.result.answered
    | .awaitSecond first, got :: _ => got.result.wins heur payload || first.result.answered
    | _, _ => true
  | .secondTimeout =>
    match r.phase with
    | .awaitSecond first => first.result.answered
    | _ => true
  -- a caller that goes before there is a winner gets the error of its context
  | .callerDone =>
    match r.phase with
    | .awaitDelay | .awaitFirst | .awaitSecond _ => false
    | _ => true
  | _ => true

theorem answered_of_endsAnswered (h : r.Tidy) (hon : ∀ result, r.phase ≠ .returned result)
    (hstep : r.step net heur payload callerErr event = some r')
    (hover : r'.phase = .returned result) (hends : r.endsAnswered heur payload event = true) :
    result.answered = true := by
  cases moves_of_step hstep with
  | branchDone | branchCut => exact absurd hover (hon result)
  | delayElapsed | firstWins | firstFails => cases hover
  | primaryOnly hp hc =>
    cases hover
    simpa only [endsAnswered, hp, hc] using hends
  | second hp hc =>
    cases hover
    simp only [endsAnswered, hp, hc, Bool.or_eq_true] at hends
    split_ifs with hw
    · exact RelayResult.answered_of_wins hw
    · exact hends.resolve_left hw
  | loser hp | loserTimeout hp =>
    cases hover
    exact h.winner_answered _ hp
  | secondTimeout hp =>
    cases hover
    simpa only [endsAnswered, hp] using hends
  | callerDone _ hp =>
    rcases hp with hp | hp | ⟨first, hp⟩ <;> simp [endsAnswered, hp] at hends
  | drain hd | graceExpired hd =>
    obtain ⟨res, hres⟩ := h.over_of_cleanup (by rw [hd]; simp)
    exact absurd hres (hon res)

theorem answered_of_step (h : r.Tidy)
    (hund : r.Undisturbed heur payload relaying event) (hon : ∀ result, r.phase ≠ .returned result)
    (hstep : r.step net heur payload callerErr event = some r')
    (hover : r'.phase = .returned result) (hc' : r'.cancelled = true) : result.answered = true := by
  refine answered_of_endsAnswered h hon hstep hover ?_
  cases moves_of_step hstep with
  | primaryOnly hp hc | second hp hc => simpa [Undisturbed, endsAnswered, hp, hc] using hund
  | firstWins hp | firstFails hp | loser hp => simp [endsAnswered, hp]
  | secondTimeout | callerDone => exact absurd hc' (h.uncancelled hon)
  | _ => rfl

theorem awaitDelay_of_step (h : r.step net heur payload callerErr event = some r')
    (hp : r'.phase = .awaitDelay) :
    r.phase = .awaitDelay ∧ ∀ rank buildErr, event ≠ .delayElapsed rank buildErr := by
  cases moves_of_step h with
  | branchDone | branchCut | graceExpired => exact ⟨hp, by simp⟩
  | drain hd hc =>
    rename_i n _ _
    cases n <;> exact ⟨hp, by simp⟩
  | delayElapsed | primaryOnly | firstWins | firstFails | second | loser | loserTimeout
  | secondTimeout | callerDone => cases hp

theorem cases_of_over (hover : r.phase = .returned result)
    (hstep : r.step net heur payload callerErr event = some r') :
    (∃ isHedge res, r' = r.settle isHedge res) ∨
    (event = .cleanupReceive ∧ ∃ n rest, r.cleanup = some (n + 1) ∧ r' = r.drain rest n) ∨
    (event = .graceExpired ∧ r' = { r.cancelBranches with cleanup := none }) := by
  cases moves_of_step hstep with
  | branchDone => exact .inl ⟨_, _, rfl⟩
  | branchCut => exact .inl ⟨_, _, rfl⟩
  | drain hd => exact .inr (.inl ⟨rfl, _, _, hd, rfl⟩)
  | graceExpired => exact .inr (.inr ⟨rfl, rfl⟩)
  | callerDone _ hp => rcases hp with hp | hp | ⟨first, hp⟩ <;> rw [hp] at hover <;> cases hover
  | delayElapsed hp | primaryOnly hp | firstWins hp | firstFails hp | second hp | loser hp
  | loserTimeout hp | secondTimeout hp =>
    rw [hp] at hover
    cases hover

theorem uncancelled_of_step (hund : r.Undisturbed heur payload true event)
    (hover : r.phase = .returned result) (hc : r.cancelled ≠ true)
    (hstep : r.step net heur payload callerErr event = some r') : r'.cancelled ≠ true := by
  rcases cases_of_over hover hstep with ⟨_, _, rfl⟩ | ⟨rfl, n, _, hd, rfl⟩ | ⟨rfl, rfl⟩
  · exact hc
  · cases n with
    | zero => exact absurd (hund hd) (by simp)
    | succ => exact hc
  · exact absurd hund.2 (by simp)

/-- The race of a request that waits exactly while its race is on. -/
structure Paced (racing : Prop) (racer : Option Racer) : Prop where
  tidy : ∀ r, racer = some r → r.Tidy
  live : racing → ∀ r, racer = some r → ∀ result, r.phase ≠ .returned result
  ended : ¬racing → ∀ r, racer = some r → ∃ result, r.phase = .returned result

variable {racing racing' : Prop} {racer : Option Racer}

theorem paced_none : Paced racing none := by
  constructor <;> simp

theorem paced_start {primary : EndpointAddr} {endpoints : List EndpointAddr} (h : racing) :
    Paced racing (some (start primary endpoints)) := by
  refine ⟨?_, ?_, fun hnot => absurd h hnot⟩
  · rintro _ ⟨⟩
    exact tidy_start _ _
  · rintro - _ ⟨⟩
    simp [start]

theorem Paced.rests (h : Paced racing racer) (hnot : ¬racing) (hnot' : ¬racing') :
    Paced racing' racer :=
  ⟨h.tidy, fun hr => absurd hr hnot', fun _ => h.ended hnot⟩

theorem Paced.awaits (h : Paced racing racer) (hr : racer = some r) (hp : r.phase = .awaitDelay) :
    racing := by
  by_contra hnot
  obtain ⟨result, hover⟩ := h.ended hnot r hr
  cases hp.symm.trans hover

theorem Paced.running (h : Paced racing racer) (hr : racer = some r)
    (hstep : r.step net heur payload callerErr event = some r')
    (hlive : racing → ∀ result, r'.phase ≠ .returned result) : Paced racing (some r') := by
  refine ⟨?_, fun hon => ?_, fun hnot => ?_⟩ <;> rintro _ ⟨⟩
  · exact tidy_of_step (h.tidy r hr) hstep
  · exact hlive hon
  · obtain ⟨result, hover⟩ := h.ended hnot r hr
    exact ⟨result, step_returned hstep hover⟩

theorem Paced.ends (h : Paced racing racer) (hr : racer = some r)
    (hstep : r.step net heur payload callerErr event = some r')
    (hover : r'.phase = .returned result) : Paced False (some r') := by
  refine ⟨?_, False.elim, fun _ => ?_⟩ <;> rintro _ ⟨⟩
  · exact tidy_of_step (h.tidy r hr) hstep
  · exact ⟨result, hover⟩

end Racer

namespace Item

variable {cfg : ItemConfig} {s s' : Item}

structure Opening (s : Item) : Prop where
  attempt : 1 ≤ s.attempt
  fresh : s.phase = .attempting → s.attempt = 1 →
    s.racer = none ∧ s.starts = [] ∧ s.capabilityFailures = 0
  paced : Paced (s.phase = .racing) s.racer
  awaiting : ∀ r, s.racer = some r → r.phase = .awaitDelay → s.starts = [⟨s.selected, false⟩]

theorem opening_of_paced (hattempt : 1 ≤ s.attempt) (hpaced : Paced False s.racer)
    (hp : s.phase ≠ .racing) (hfresh : s.phase = .attempting → s.attempt ≠ 1) : Opening s :=
  ⟨hattempt, fun ha hone => absurd hone (hfresh ha), hpaced.rests not_false hp,
    fun _ hr hdelay => (hpaced.awaits hr hdelay).elim⟩

theorem opening_start : Opening (start cfg) := by
  obtain ⟨phase, heq, -⟩ := start_eq cfg
  rw [heq]
  exact ⟨le_rfl, fun _ _ => ⟨rfl, rfl, rfl⟩, paced_none, by simp⟩

variable {limited : Bool} {event : ItemEvent}

theorem Leaves.opening (h : Leaves s limited s')
    (hattempt : 1 ≤ s.attempt) (hpaced : Paced False s.racer) : Opening s' := by
  cases h with
  | again =>
    refine opening_of_paced (Nat.le_succ_of_le hattempt) hpaced (by simp) fun _ => ?_
    dsimp only
    omega
  | givenUp => exact opening_of_paced hattempt hpaced (by simp) (by simp)

theorem RelayEnds.opening {cut : Bool} (hends : RelayEnds cfg s cut result s')
    (hattempt : 1 ≤ s.attempt) (hpaced : Paced False s.racer) : Opening s' := by
  cases hends with
  | passed => exact opening_of_paced hattempt hpaced (by simp) (by simp)
  | failed _ hleaves => exact hleaves.opening hattempt hpaced

theorem Opening.step (h : Opening s) (hstep : s.step cfg event = some s') : Opening s' := by
  have hattempt := h.attempt
  cases moves_of_step hstep with
  | clientDone => exact ⟨h.attempt, h.fresh, h.paced, h.awaiting⟩
  | attempt hp hbegins =>
    have hpaced : Paced False s.racer := h.paced.rests (by simp [hp]) not_false
    cases hbegins with
    | clientGone => exact opening_of_paced hattempt hpaced (by simp) (by simp)
    | unavailable hleaves | starved _ _ _ hleaves => exact hleaves.opening hattempt hpaced
    | uses _ _ _ _ huses =>
      cases huses with
      | unbuilt hleaves => exact hleaves.opening hattempt hpaced
      | race hfirst =>
        obtain ⟨-, hstarts, -⟩ := h.fresh hp hfirst
        refine ⟨hattempt, by simp [startRace], paced_start rfl, fun _ _ _ => ?_⟩
        simp [startRace, markTried, hstarts]
      | relay =>
        exact opening_of_paced hattempt hpaced (by simp [startRelay]) (by simp [startRelay])
  | @race event r r' _ hracer hmove hraces =>
    cases hraces with
    | running hnotes hlive =>
      refine ⟨hattempt, fun hp hone => ?_, h.paced.running hracer hmove hlive, ?_⟩
      · cases hracer.symm.trans (h.fresh hp hone).1
      · rintro _ ⟨⟩ hdelay
        obtain ⟨hbefore, hother⟩ := awaitDelay_of_step hmove hdelay
        rcases hnotes.starts with heq | ⟨⟨rank, buildErr, heq⟩, -⟩
        · exact heq.trans (h.awaiting r hracer hbefore)
        · exact absurd heq (hother rank buildErr)
    | ended hnotes hp hover hends =>
      have hpaced := h.paced.ends hracer hmove hover
      cases hends with
      | passed => exact opening_of_paced hattempt hpaced (by simp) (by simp)
      | failed _ _ _ _ hleaves => exact hleaves.opening hattempt hpaced
      | unanswered =>
        exact opening_of_paced hattempt hpaced (by simp [startRelay]) (by simp [startRelay])
  | relayDone hp hends | relayCut hp _ hends =>
    exact hends.opening hattempt (h.paced.rests (by simp [hp]) not_false)

structure Calm (starts : List RelayStart) (selfInflicted : List Fault) (racer : Option Racer) :
    Prop where
  starts_uncancelled : ∀ start ∈ starts, start.cancelled = false
  no_fault : selfInflicted = []
  quiet : ∀ r, racer = some r → r.cancelled = true → r.Quiet

/-- The invariant of a run whose race is undisturbed. -/
structure Clean (s : Item) : Prop where
  calm : Calm s.starts s.selfInflicted s.racer
  alone : s.phase = .relaying true → ∀ r, s.racer = some r → r.cancelled ≠ true

theorem Leaves.clean (h : Leaves s limited s') (hcalm : Calm s.starts s.selfInflicted s.racer) :
    Clean s' := by
  cases h <;> exact ⟨hcalm, by simp⟩

theorem clean_startRelay (h : Calm s.starts s.selfInflicted s.racer) {afterRace : Bool}
    (hc : afterRace = true → ∀ r, s.racer = some r → r.cancelled ≠ true) :
    Clean (s.startRelay afterRace) := by
  refine ⟨⟨fun start hstart => ?_, h.no_fault, h.quiet⟩, fun hp => hc (ItemPhase.relaying.inj hp)⟩
  rcases mem_append.mp hstart with hstart | hstart
  · exact h.starts_uncancelled start hstart
  · rw [mem_singleton.mp hstart]
    cases afterRace with
    | false => rfl
    | true =>
      cases hr : s.racer with
      | none => rfl
      | some r => simpa using hc rfl r hr

theorem Begins.clean {answers : AttemptAnswers} (hbegins : Begins cfg s answers s')
    (h : Calm s.starts s.selfInflicted s.racer) : Clean s' := by
  cases hbegins with
  | clientGone => exact ⟨h, by simp⟩
  | unavailable hleaves | starved _ _ _ hleaves => exact hleaves.clean h
  | uses _ _ _ _ huses =>
    cases huses with
    | unbuilt hleaves => exact hleaves.clean h
    | race =>
      refine ⟨⟨forall_mem_append.mpr ⟨h.starts_uncancelled, by simp⟩, h.no_fault, ?_⟩,
        by simp [startRace]⟩
      rintro _ ⟨⟩ hcan
      cases hcan
    | relay =>
      refine clean_startRelay ?_ (by simp)
      exact h

theorem RaceEnds.clean {hedgeEndpoint : EndpointAddr}
    (hends : RaceEnds cfg s hedgeEndpoint result s') (h : Calm s.starts s.selfInflicted s.racer)
    (hanswered : ∀ r, s.racer = some r → r.cancelled = true → result.answered = true) :
    Clean s' := by
  cases hends with
  | passed => exact ⟨h, by simp⟩
  | failed _ _ _ _ hleaves => exact hleaves.clean h
  | unanswered hnot =>
    refine clean_startRelay h fun _ r hr hcan => ?_
    exact Bool.false_ne_true (hnot.symm.trans (hanswered r hr hcan))

/-- The gateway does not disturb its own relays in this step. -/
def Undisturbed (cfg : ItemConfig) (s : Item) : ItemEvent → Prop
  | .race event => ∀ r, s.racer = some r →
      r.Undisturbed cfg.heur cfg.payload (s.phase == .relaying true) event
  | _ => True

theorem Races.clean {r r' : Racer} {event : RaceEvent} (hraces : Races cfg s r' event s')
    (h : Clean s) (hpaced : Paced (s.phase = .racing) s.racer) (hr : s.racer = some r)
    (hund : r.Undisturbed cfg.heur cfg.payload (s.phase == .relaying true) event)
    (hstep : r.step cfg.net cfg.heur cfg.payload s.clientErr event = some r') : Clean s' := by
  have htidy := hpaced.tidy r hr
  obtain ⟨⟨huncancelled, hfault, hquiet⟩, halone⟩ := h
  have hcalm {starts selfInflicted} (hnotes : s.Notes r' event starts selfInflicted) :
      Calm starts selfInflicted (some r') := by
    refine ⟨?_, ?_, ?_⟩
    · rcases hnotes.starts with rfl | ⟨⟨rank, buildErr, rfl⟩, -, rfl⟩
      · exact huncancelled
      · refine forall_mem_append.mpr ⟨huncancelled, forall_mem_singleton.mpr ?_⟩
        cases Racer.moves_of_step hstep with
        | delayElapsed hp => exact eq_false_of_ne_true (htidy.uncancelled (by simp [hp]))
    · refine (hnotes.selfInflicted fun isHedge responses err heq => ?_).trans hfault
      subst heq
      cases Racer.moves_of_step hstep with
      | branchCut hb hcut => exact (hquiet r hr hcut).branch_ne _ hb
    · rintro _ ⟨⟩
      exact quiet_of_step htidy hund (hquiet r hr) hstep
  cases hraces with
  | ended hnotes hp hover hends =>
    refine hends.clean (hcalm hnotes) ?_
    rintro _ ⟨⟩
    exact answered_of_step htidy hund (hpaced.live hp r hr) hstep hover
  | running hnotes =>
    refine ⟨hcalm hnotes, fun hp => ?_⟩
    change s.phase = .relaying true at hp
    obtain ⟨result, hover⟩ := hpaced.ended (by simp [hp]) r hr
    rw [hp] at hund
    rintro _ ⟨⟩
    exact uncancelled_of_step hund hover (halone hp r hr) hstep

theorem Clean.step (h : Clean s) (hopening : Opening s)
    (hund : Undisturbed cfg s event) (hstep : s.step cfg event = some s') : Clean s' := by
  cases moves_of_step hstep with
  | clientDone => exact ⟨h.calm, h.alone⟩
  | attempt hp hbegins => exact hbegins.clean h.calm
  | race hracer hmove hraces => exact hraces.clean h hopening.paced hracer (hund _ hracer) hmove
  | relayDone hp hends =>
    cases hends with
    | passed => exact ⟨h.calm, by simp⟩
    | failed hcut hleaves =>
      refine hleaves.clean ⟨h.calm.starts_uncancelled, ?_, h.calm.quiet⟩
      exact (hcut rfl).trans h.calm.no_fault
  | relayCut hp hcut =>
    obtain ⟨r, hracer, hcancelled⟩ := (Option.any_eq_true _ _).mp hcut
    exact absurd hcancelled (h.alone hp r hracer)

theorem clean_start : Clean (start cfg) := by
  obtain ⟨phase, heq, -⟩ := start_eq cfg
  rw [heq]
  exact ⟨⟨by simp, rfl, by simp⟩, by simp⟩

/-- No relay starts on a context that the gateway has cancelled, and while the client is
there nobody is charged for a relay that the gateway cut off. -/
def NoSelfInflicted (s : Item) : Prop :=
  (∀ start ∈ s.starts, start.cancelled = false) ∧ (s.clientErr = none → s.selfInflicted = [])

/-- In every run that leaves its own relays undisturbed no failure is self-inflicted. -/
theorem noSelfInflicted_of_undisturbed {events : List ItemEvent}
    (hrun : run (step cfg) (start cfg) events = some s)
    (hund : Machine.Meets (step cfg) (Undisturbed cfg) (start cfg) events) :
    NoSelfInflicted s := by
  obtain ⟨-, hcalm, -⟩ := invariant (I := fun s => Opening s ∧ Clean s)
    (fun _ _ _ h hu hstep => ⟨h.1.step hstep, h.2.step h.1 hu hstep⟩)
    ⟨opening_start, clean_start⟩ hund hrun
  exact ⟨hcalm.starts_uncancelled, fun _ => hcalm.no_fault⟩

end Item

def twoOperators : AttemptAnswers :=
  offer [addrA, addrB]

theorem selfInflicted_by_own_cancel :
    (¬∀ (cfg : ItemConfig) (events : List ItemEvent) (s : Item),
      run (Item.step cfg) (Item.start cfg) events = some s →
        ∀ start ∈ s.starts, start.cancelled = false) ∧
    ¬∀ (cfg : ItemConfig) (events : List ItemEvent) (s : Item),
      run (Item.step cfg) (Item.start cfg) events = some s →
        s.clientErr = none → s.selfInflicted = [] := by
  constructor
  · exact fun h => not_forall_of_any (by decide +kernel) (h (sampleItem [] (some 100))
      [.attempt twoOperators, .race (.branchDone false ⟨[], some "EOF"⟩), .race .receive])
  · exact fun h => not_forall_of_any (by decide +kernel) (h (sampleItem [] (some 100))
      [.attempt twoOperators, .race (.delayElapsed (fun eps => eps.headD "") none),
        .race (.branchDone true ⟨[⟨"ok", 200, addrB, ""⟩], none⟩),
        .race .receive, .race .loserTimeout, .race .graceExpired,
        .race (.branchCut false [] "context canceled")])

def answeredPrimary : List ItemEvent :=
  [.attempt twoOperators,
    .race (.branchDone false ⟨[⟨"ok", 200, addrA, ""⟩], none⟩),
    .race .receive]

theorem noSelfInflicted_of_undisturbed_answered :
    ∃ s, run (Item.step (sampleItem [] (some 100)))
        (Item.start (sampleItem [] (some 100))) answeredPrimary = some s ∧
      s.NoSelfInflicted := by
  refine exists_of_any (fun _ => True) (by decide +kernel) fun s hrun _ =>
    noSelfInflicted_of_undisturbed hrun ?_
  refine ⟨trivial, fun s₁ h₁ => ⟨fun r hr => trivial, fun s₂ h₂ => ⟨fun r hr => ?_, ?_⟩⟩⟩
  · cases h₁
    cases h₂
    cases hr
    rfl
  · exact fun _ _ => trivial

end PathGateway
