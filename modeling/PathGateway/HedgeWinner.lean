import PathGateway.HedgeWait

/-! The winner of a hedge race, recorded under a guard that lets only the first record through. -/

namespace PathGateway

open Racer Machine

/-- A race with the results that the racer has received, in their order, and its recorded winner. -/
structure WatchedRace where
  racer : Racer
  received : List HedgeResult
  winner : Option HedgeResult

namespace WatchedRace

variable (net : NetLib) (heur : Heuristics) (payload : Payload) (callerErr : Option GoError)

def recordWinner (w : WatchedRace) (result : HedgeResult) : WatchedRace :=
  { w with winner := some (w.winner.getD result) }

def receive (w : WatchedRace) (got : HedgeResult) : WatchedRace :=
  let w := { w with received := w.received ++ [got] }
  match w.racer.phase with
  | .awaitDelay => w.recordWinner got
  | .awaitFirst => if got.result.wins heur payload then w.recordWinner got else w
  | .awaitSecond first => w.recordWinner (if got.result.wins heur payload then got else first)
  | _ => w

def record (w : WatchedRace) : RaceEvent → WatchedRace
  | .receive =>
    match w.racer.resultChan with
    | [] => w
    | got :: _ => w.receive heur payload got
  | .secondTimeout =>
    match w.racer.phase with
    | .awaitSecond first => w.recordWinner first
    | _ => w
  | _ => w

def step (w : WatchedRace) (event : RaceEvent) : Option WatchedRace :=
  (w.racer.step net heur payload callerErr event).map fun r' =>
    { w.record heur payload event with racer := r' }

def better (a b : HedgeResult) : HedgeResult :=
  if a.result.wins heur payload = false ∧ b.result.wins heur payload = true then b else a

variable {net heur payload callerErr} {w w' : WatchedRace} {event : RaceEvent}

/-- The winner is recorded with the decision, on the results received until then. -/
def Follows (heur : Heuristics) (payload : Payload) (w : WatchedRace) : Prop :=
  match w.racer.phase with
  | .awaitDelay => False
  | .awaitFirst => w.received = [] ∧ w.winner = none
  | .awaitSecond a => w.received = [a] ∧ w.winner = none ∧ a.result.wins heur payload = false
  | .collectLoser a => w.received = [a] ∧ w.winner = some a ∧ a.result.wins heur payload = true
  | .returned result => ∃ x, w.winner = some x ∧ x.result = result ∧
    (w.received = [x] ∧ x.result.wins heur payload = true ∨
      ∃ a b, w.received = [a, b] ∧ x = better heur payload a b)

theorem Follows.step (h : w.Follows heur payload) (hcaller : event ≠ .callerDone)
    (htimeout : event ≠ .secondTimeout)
    (hstep : w.step net heur payload callerErr event = some w') : w'.Follows heur payload := by
  obtain ⟨r', hmove, rfl⟩ := Option.map_eq_some_iff.mp hstep
  cases moves_of_step hmove with
  | branchDone | branchCut | graceExpired => exact h
  | @drain n => cases n <;> exact h
  | secondTimeout => exact absurd rfl htimeout
  | callerDone => exact absurd rfl hcaller
  | delayElapsed hp | primaryOnly hp => simp only [Follows, hp] at h
  | firstWins hp hc hwins =>
    simp only [Follows, hp] at h
    simp [Follows, record, receive, recordWinner, hp, hc, hwins, h]
  | firstFails hp hc hfails =>
    simp only [Follows, hp] at h
    simp [Follows, record, receive, hp, hc, hfails, h]
  | @second a b rest hp hc =>
    simp only [Follows, hp] at h
    refine ⟨better heur payload a b, ?_, ?_, .inr ⟨a, b, ?_, rfl⟩⟩ <;>
      cases hwins : b.result.wins heur payload <;>
      simp [record, receive, recordWinner, better, hp, hc, h, hwins]
  | @loser a b rest hp hc =>
    simp only [Follows, hp] at h
    refine ⟨a, ?_, rfl, .inr ⟨a, b, ?_, ?_⟩⟩ <;> simp [record, receive, better, hp, hc, h]
  | loserTimeout hp =>
    simp only [Follows, hp] at h
    exact ⟨_, h.2.1, rfl, .inl ⟨h.1, h.2.2⟩⟩

theorem Follows.returned {a b : HedgeResult} (h : w.Follows heur payload)
    (hboth : w.received = [a, b] ∨ w.received = [a] ∧ ∃ result, w.racer.phase = .returned result) :
    w.racer.phase = .returned (better heur payload a b).result ∧
    w.winner = some (better heur payload a b) := by
  unfold Follows at h
  cases hp : w.racer.phase with
  | returned result =>
    rw [hp] at h
    obtain ⟨x, hw, rfl, ⟨hone, hwins⟩ | ⟨c, d, htwo, rfl⟩⟩ := h
    · obtain rfl : x = a := by simpa [hone, hp] using hboth
      have hbetter : better heur payload x b = x := by simp [better, hwins]
      rw [hbetter]
      exact ⟨rfl, hw⟩
    · obtain ⟨rfl, rfl⟩ : c = a ∧ d = b := by simpa [htwo] using hboth
      exact ⟨rfl, hw⟩
  | _ => simp_all

/-- With the results of both branches the race returns the first that is good, or the first of all
if none is, and the recorded winner is the one that is returned. A good first result is returned
whether or not the second one comes in time. -/
theorem winner_of_both (net : NetLib) (heur : Heuristics) (payload : Payload)
    (callerErr : Option GoError) (r : Racer) (events : List RaceEvent) (w : WatchedRace)
    (a b : HedgeResult) (hp : r.phase = .awaitFirst)
    (hevents : ∀ event ∈ events, event ≠ .callerDone ∧ event ≠ .secondTimeout)
    (hrun : run (step net heur payload callerErr) ⟨r, [], none⟩ events = some w)
    (hboth : w.received = [a, b] ∨
      w.received = [a] ∧ ∃ result, w.racer.phase = .returned result) :
    ∃ x ∈ [a, b], w.racer.phase = .returned x.result ∧ w.winner = some x ∧
      (x.result.wins heur payload = true ↔
        a.result.wins heur payload = true ∨ b.result.wins heur payload = true) ∧
      (a.result.wins heur payload = true → x = a) := by
  have h : w.Follows heur payload :=
    invariant (fun _ _ _ h hevent hstep => h.step hevent.1 hevent.2 hstep)
      (by simp [Follows, hp]) (Meets.of_forall hevents) hrun
  obtain ⟨hreturned, hw⟩ := h.returned hboth
  refine ⟨better heur payload a b, ?_, hreturned, hw, ?_⟩ <;>
    cases ha : a.result.wins heur payload <;> cases hb : b.result.wins heur payload <;>
    simp [better, ha, hb]

theorem answer_wins_after_refusal :
    ∃ x ∈ [(⟨false, "a", refusal⟩ : HedgeResult), ⟨true, "b", ⟨[⟨"0x1", 200, "", ""⟩], none⟩⟩],
      x.result.wins calmHeuristics blockNumber = true := by
  obtain ⟨x, hx, -, -, hwins, -⟩ := winner_of_both .ascii calmHeuristics blockNumber none
    ⟨"a", "b", [], .awaitFirst, [], .inFlight, .inFlight, false, none⟩
    [.branchDone false refusal, .receive, .branchDone true ⟨[⟨"0x1", 200, "", ""⟩], none⟩,
      .receive] _ _ _ rfl (by simp) rfl (.inl rfl)
  exact ⟨x, hx, hwins.mpr (.inr (by decide +kernel))⟩

end WatchedRace

end PathGateway
