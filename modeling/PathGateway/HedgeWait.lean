import PathGateway.HedgeContexts

/-! Whom the racer waits for. After the delay it reads a first result, and then waits again: for
the second result when the first failed, or for the loser when it won. Both waits are entered
whether or not a hedge was started. -/

namespace PathGateway.Racer

open List Machine

variable {net : NetLib} {heur : Heuristics} {payload : Payload} {callerErr : Option GoError}
  {r r' : Racer} {event : RaceEvent}

def Blocks (r : Racer) : Prop :=
  r.resultChan = [] ∧ (r.phase = .awaitFirst ∨ (∃ first, r.phase = .awaitSecond first) ∨
    ∃ winner, r.phase = .collectLoser winner)

def AwaitsBranch (r : Racer) : Prop := r.Blocks → r.primary = .inFlight ∨ r.hedge = .inFlight

/-- After the delay, a result is read first only if the hedge was started. -/
def ReadsHedged (r : Racer) : RaceEvent → Prop
  | .receive => r.phase = .awaitFirst → r.hedge ≠ .idle
  | _ => True

instance (r : Racer) : DecidablePred r.ReadsHedged
  | .receive => inferInstanceAs (Decidable (_ → _))
  | .branchDone _ _ | .branchCut _ _ _ | .delayElapsed _ _ | .loserTimeout | .secondTimeout
  | .callerDone | .cleanupReceive | .graceExpired => .isTrue trivial

structure Accounted (r : Racer) : Prop extends r.Tidy where
  started : r.primary ≠ .idle
  delivered : (∀ result, r.phase ≠ .returned result) → r.settledCount = r.read + r.resultChan.length

variable {result : RelayResult}

theorem awaitsBranch_of_returned (h : r.phase = .returned result) : r.AwaitsBranch := by
  rintro ⟨-, hp | ⟨first, hp⟩ | ⟨winner, hp⟩⟩ <;> rw [h] at hp <;> cases hp

theorem accounted_start (primaryEndpoint : EndpointAddr) (availableEndpoints : List EndpointAddr) :
    (start primaryEndpoint availableEndpoints).Accounted :=
  ⟨tidy_start _ _, by simp [start], fun _ => by simp [start, settledCount, read]⟩

theorem started_settle {isHedge : Bool} (h : r.primary ≠ .idle) :
    (r.settle isHedge result).primary ≠ .idle := by
  cases isHedge with
  | false => simp [settle]
  | true => exact h

theorem Accounted.settle {isHedge : Bool} (h : r.Accounted)
    (hb : r.branch isHedge = .inFlight) : (r.settle isHedge result).Accounted := by
  refine ⟨h.toTidy.settle hb, started_settle h.started, fun hp => ?_⟩
  have hdelivered := h.delivered hp
  have hread : (r.settle isHedge result).read = r.read := rfl
  have hlength : (r.settle isHedge result).resultChan.length = r.resultChan.length + 1 := by
    simp [Racer.settle]
  rw [settledCount_settle hb, hread, hlength]
  omega

theorem Accounted.returned (h : r.Accounted) (htidy : r'.Tidy)
    (hprimary : r'.primary = r.primary) (hp : r'.phase = .returned result) : r'.Accounted :=
  ⟨htidy, hprimary ▸ h.started, fun hnot => absurd hp (hnot result)⟩

theorem Accounted.reads {got : HedgeResult} {rest : List HedgeResult} {phase : RacePhase}
    (h : r.Accounted) (htidy : { r with resultChan := rest, phase := phase }.Tidy)
    (hp : r.phase = .awaitFirst) (hc : r.resultChan = got :: rest)
    (hread : { r with resultChan := rest, phase := phase }.read = 1) :
    { r with resultChan := rest, phase := phase }.Accounted := by
  refine ⟨htidy, h.started, fun _ => ?_⟩
  have hdelivered := h.delivered (by simp [hp])
  have hzero : r.read = 0 := by simp [read, hp]
  have hcount : { r with resultChan := rest, phase := phase }.settledCount = r.settledCount := rfl
  rw [hc, length_cons] at hdelivered
  rw [hread, hcount]
  dsimp only
  omega

theorem accounted_of_step (h : r.Accounted)
    (hstep : r.step net heur payload callerErr event = some r') : r'.Accounted := by
  have htidy := tidy_of_step h.toTidy hstep
  cases moves_of_step hstep with
  | branchDone hb | branchCut hb => exact h.settle hb
  | @delayElapsed rank buildErr hp =>
    refine ⟨htidy, h.started, fun _ => ?_⟩
    have hdelivered := h.delivered (by simp [hp])
    have hread : r.read = 0 := by simp [read, hp]
    rw [settledCount_startHedge (h.hedge_idle hp), hdelivered, hread]
    rfl
  | firstWins hp hc | firstFails hp hc => exact h.reads htidy hp hc rfl
  | primaryOnly | second | loser | loserTimeout | secondTimeout | callerDone =>
    exact h.returned htidy rfl rfl
  | @drain n got rest hd hc =>
    obtain ⟨result, hover⟩ := h.over_of_cleanup (by simp [hd])
    cases n <;> exact h.returned htidy rfl hover
  | graceExpired hd =>
    obtain ⟨result, hover⟩ := h.over_of_cleanup (by simp [hd])
    exact h.returned htidy rfl hover

theorem Accounted.awaitsBranch_first (h : r.Accounted) (hp : r.phase = .awaitFirst) :
    r.AwaitsBranch := by
  rintro ⟨hempty, -⟩
  have hdelivered := h.delivered (by simp [hp])
  have hprimary : r.primary ≠ .settled := by
    intro hsettled
    simp [settledCount, hsettled, read, hp, hempty] at hdelivered
  have hstarted := h.started
  cases hbranch : r.primary with
  | idle => exact absurd hbranch hstarted
  | inFlight => exact .inl rfl
  | settled => exact absurd hbranch hprimary

theorem Accounted.awaitsBranch_iff (h : r.Accounted) (hread : r.read = 1) :
    r.AwaitsBranch ↔ r.hedge ≠ .idle := by
  have hon : (∀ result, r.phase ≠ .returned result) := by
    intro result hp
    simp [Racer.read, hp] at hread
  have hdelivered := h.delivered hon
  have hstarted := h.started
  rw [hread] at hdelivered
  constructor
  · intro hawaits hidle
    have hprimary : r.primary = .settled := by
      by_contra hne
      have hzero : r.settledCount = 0 := by simp [settledCount, hne, hidle]
      omega
    have hempty : r.resultChan = [] := by
      simp only [settledCount, hprimary, hidle] at hdelivered
      exact length_eq_zero_iff.mp (by simpa using hdelivered)
    have hphase : (∃ first, r.phase = .awaitSecond first) ∨
        ∃ winner, r.phase = .collectLoser winner := by
      cases hp : r.phase <;> simp [Racer.read, hp] at hread ⊢
    have hbranch := hawaits ⟨hempty, .inr hphase⟩
    rw [hprimary, hidle] at hbranch
    exact absurd hbranch (by decide)
  · rintro hhedge ⟨hempty, -⟩
    rw [hempty, length_nil] at hdelivered
    cases hprimary : r.primary with
    | idle => exact absurd hprimary hstarted
    | inFlight => exact .inl rfl
    | settled =>
      cases hb : r.hedge with
      | idle => exact absurd hb hhedge
      | inFlight => exact .inr rfl
      | settled => simp [settledCount, hprimary, hb] at hdelivered

theorem awaitsBranch_step (h : r.Accounted)
    (hstep : r.step net heur payload callerErr event = some r') :
    r'.AwaitsBranch ↔ r.ReadsHedged event := by
  have haccounted := accounted_of_step h hstep
  have hover {result : RelayResult} (hp : r'.phase = .returned result)
      (hreads : r.ReadsHedged event) : r'.AwaitsBranch ↔ r.ReadsHedged event :=
    iff_of_true (awaitsBranch_of_returned hp) hreads
  have hother {P : Prop} (hp : r.phase ≠ .awaitFirst) : r.phase = .awaitFirst → P :=
    fun hfirst => absurd hfirst hp
  cases moves_of_step hstep with
  | branchDone | branchCut =>
    refine iff_of_true ?_ trivial
    rintro ⟨hempty, -⟩
    simp [Racer.settle] at hempty
  | delayElapsed => exact iff_of_true (haccounted.awaitsBranch_first rfl) trivial
  | firstWins hp | firstFails hp =>
    exact (haccounted.awaitsBranch_iff rfl).trans ⟨fun hhedge _ => hhedge, fun hreads => hreads hp⟩
  | primaryOnly hp | second hp | loser hp => exact hover rfl (hother (by simp [hp]))
  | loserTimeout | secondTimeout | callerDone => exact hover rfl trivial
  | @drain n got rest hd hc =>
    obtain ⟨result, hp⟩ := h.over_of_cleanup (by simp [hd])
    cases n <;> exact hover hp trivial
  | graceExpired hd =>
    obtain ⟨result, hp⟩ := h.over_of_cleanup (by simp [hd])
    exact hover hp trivial

/-- The racer always waits for a branch in flight, in the runs that read a first result after the
delay only with a hedge started, and in no others. -/
theorem awaitsBranch_iff_readsHedged (net : NetLib) (heur : Heuristics) (payload : Payload)
    (callerErr : Option GoError) (primaryEndpoint : EndpointAddr)
    (availableEndpoints : List EndpointAddr) (events : List RaceEvent) (r : Racer)
    (hrun : run (step net heur payload callerErr)
      (start primaryEndpoint availableEndpoints) events = some r) :
    (∀ pre post u, events = pre ++ post →
      run (step net heur payload callerErr)
        (start primaryEndpoint availableEndpoints) pre = some u → u.AwaitsBranch) ↔
      Machine.Meets (step net heur payload callerErr) ReadsHedged
        (start primaryEndpoint availableEndpoints) events := by
  refine always_iff_meets_under (J := Accounted) (fun s e s' h he => accounted_of_step h he)
    (fun s e s' h _ he => awaitsBranch_step h he) (accounted_start _ _) ?_ hrun
  rintro ⟨-, hp | ⟨first, hp⟩ | ⟨winner, hp⟩⟩ <;> cases hp

def blockNumber : Payload := ⟨"", "", .jsonRPC, .unknownRPC, "eth_blockNumber"⟩

def twoSuppliers : List EndpointAddr :=
  [addrA, addrB]

def refusal : RelayResult := ⟨[], some "connection refused"⟩

theorem primary_fails_hedge_answers : ∃ events r,
    run (step .ascii calmHeuristics blockNumber none)
        (start addrA twoSuppliers) events = some r ∧
      r.phase = .returned ⟨[⟨"0x1", 200, "", ""⟩], none⟩ ∧
      ∀ pre post u, events = pre ++ post →
        run (step .ascii calmHeuristics blockNumber none)
          (start addrA twoSuppliers) pre = some u →
        u.AwaitsBranch := by
  refine ⟨[.delayElapsed (fun eps => eps.headD "") none, .branchDone false refusal, .receive,
    .branchDone true ⟨[⟨"0x1", 200, "", ""⟩], none⟩, .receive], _, rfl, by decide +kernel, ?_⟩
  exact (awaitsBranch_iff_readsHedged _ _ _ _ _ _ _ _ rfl).mpr (by decide +kernel)

theorem waits_for_nobody : ∃ events r,
    run (step .ascii calmHeuristics blockNumber none)
        (start addrA [addrA]) events = some r ∧
      r.Blocks ∧ r.primary = .settled ∧ r.hedge = .idle ∧ ¬r.AwaitsBranch := by
  refine ⟨[.delayElapsed (fun eps => eps.headD "") none, .branchDone false refusal, .receive],
    _, rfl, ⟨rfl, .inr (.inl ⟨_, rfl⟩)⟩, rfl, rfl, fun h => ?_⟩
  exact absurd (h ⟨rfl, .inr (.inl ⟨_, rfl⟩)⟩) (by decide +kernel)

/-- A branch that ends finds room in the channel, and only the end of the grace window cancels the
contexts of the branches while one of them runs. -/
theorem branches_run_to_end (net : NetLib) (heur : Heuristics) (payload : Payload)
    (callerErr : Option GoError) (primaryEndpoint : EndpointAddr)
    (availableEndpoints : List EndpointAddr) (events : List RaceEvent) (r : Racer)
    (hrun : run (step net heur payload callerErr)
      (start primaryEndpoint availableEndpoints) events = some r) :
    (∀ isHedge, r.branch isHedge = .inFlight → r.resultChan.length < 2) ∧
      ∀ event r', r.step net heur payload callerErr event = some r' → event ≠ .graceExpired →
        r'.cancelled = true → r.cancelled = true ∨ r.Quiet := by
  have h : r.Tidy := invariant_of_step (fun _ _ _ => tidy_of_step) (tidy_start _ _) hrun
  refine ⟨fun isHedge hb => ?_, fun event r' hstep hgrace hcut => ?_⟩
  · by_contra hfull
    have hread := h.read_le
    exact (quiet_of_settledCount (r := r) (by omega)).branch_ne isHedge hb
  · cases moves_of_step hstep with
    | graceExpired => exact absurd rfl hgrace
    | primaryOnly hp hc => exact .inr (h.quiet hc (.inl hp))
    | second hp hc | loser hp hc => exact .inr (h.quiet hc (.inr (by simp [read, hp])))
    | @drain n got rest hd hc =>
      cases n with
      | zero =>
        -- the last result that the drain waits for
        have hdrain := h.drain_le 1 hd
        rw [hc, length_cons] at hdrain
        exact .inr (quiet_of_settledCount (by omega))
      | succ => exact .inl hcut
    | _ => exact .inl hcut

theorem hedge_finds_room : ∃ r, run (step .ascii calmHeuristics blockNumber none)
    (start addrA twoSuppliers)
    [.delayElapsed (fun eps => eps.headD "") none, .branchDone false refusal] = some r ∧
      r.hedge = .inFlight ∧ r.resultChan.length < 2 := by
  refine ⟨_, rfl, by decide +kernel, ?_⟩
  exact (branches_run_to_end .ascii calmHeuristics blockNumber none _ twoSuppliers
    [.delayElapsed (fun eps => eps.headD "") none, .branchDone false refusal] _ rfl).1 true
    (by decide +kernel)

end PathGateway.Racer
