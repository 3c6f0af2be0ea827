import PathGateway.ResponseCheck
import PathGateway.RetryDomains

/-! The race between a primary relay and its hedge. Both relays run on contexts of their
own and send their results to one channel; the racer reads the channel until it has a
winner, and what it does not read is drained in the background. -/

namespace PathGateway

open List

structure HedgeResult where
  isHedge : Bool
  endpointAddr : EndpointAddr
  result : RelayResult
  deriving DecidableEq, Repr

inductive Branch where
  | idle
  | inFlight
  | settled
  deriving DecidableEq, Repr

inductive RacePhase where
  | awaitDelay
  | awaitFirst
  | awaitSecond (first : HedgeResult)
  | collectLoser (winner : HedgeResult)
  | returned (result : RelayResult)
  deriving DecidableEq, Repr

structure Racer where
  primaryEndpoint : EndpointAddr
  hedgeEndpoint : EndpointAddr
  availableEndpoints : List EndpointAddr
  phase : RacePhase
  resultChan : List HedgeResult
  primary : Branch
  hedge : Branch
  cancelled : Bool
  cleanup : Option Nat
  deriving DecidableEq, Repr

inductive RaceEvent where
  | branchDone (isHedge : Bool) (result : RelayResult)
  | branchCut (isHedge : Bool) (responses : List Response) (err : GoError)
  | delayElapsed (rank : List EndpointAddr → EndpointAddr) (buildErr : Option GoError)
  | receive
  | loserTimeout
  | secondTimeout
  | callerDone
  | cleanupReceive
  | graceExpired

def RaceEvent.responses : RaceEvent → List Response
  | .branchDone _ result => result.responses
  | .branchCut _ responses _ => responses
  | _ => []

def RelayResult.answered (result : RelayResult) : Bool :=
  result.err.isNone && !result.responses.isEmpty

def isResponseHeuristicallyValid (heur : Heuristics) (payload : Payload)
    (result : RelayResult) : Bool :=
  match result.responses with
  | [] => false
  | resp :: _ =>
    resp.bytes ≠ "" && !(heur.analyze resp.bytes resp.httpStatusCode payload.effectiveRPCType
      payload.methodOrPath).shouldRetry

def RelayResult.wins (heur : Heuristics) (payload : Payload) (result : RelayResult) : Bool :=
  result.answered && isResponseHeuristicallyValid heur payload result

theorem RelayResult.answered_of_wins {heur : Heuristics} {payload : Payload} {result : RelayResult}
    (h : result.wins heur payload = true) : result.answered = true := by
  rw [RelayResult.wins, Bool.and_eq_true] at h
  exact h.1

/-- The endpoint of the hedge, for a list that has an endpoint: `step` has no move for the empty
one. -/
def selectHedgeEndpoint (net : NetLib) (endpoints : List EndpointAddr)
    (excludePrimary : EndpointAddr) (rank : List EndpointAddr → EndpointAddr) : EndpointAddr :=
  let primaryDomain := extractRegistrableDomain net excludePrimary
  let filtered := endpoints.filter (fun ep => ep ≠ excludePrimary &&
    !(primaryDomain ≠ "" && extractRegistrableDomain net ep = primaryDomain))
  if filtered = [] then "" else rank filtered

namespace Racer

def start (primaryEndpoint : EndpointAddr) (availableEndpoints : List EndpointAddr) : Racer :=
  ⟨primaryEndpoint, "", availableEndpoints, .awaitDelay, [], .inFlight, .idle, false, none⟩

variable (r : Racer) (isHedge : Bool)

def branch : Branch := if isHedge then r.hedge else r.primary

def endpointOf : EndpointAddr := if isHedge then r.hedgeEndpoint else r.primaryEndpoint

def settle (result : RelayResult) : Racer :=
  { r with
    primary := if isHedge then r.primary else .settled
    hedge := if isHedge then .settled else r.hedge
    resultChan := r.resultChan ++ [⟨isHedge, r.endpointOf isHedge, result⟩] }

def cancelBranches : Racer := { r with cancelled := true }

def cleanupRunningBranches : Racer := { r with cleanup := some 2 }

def returnWith (result : RelayResult) : Racer := { r with phase := .returned result }

def startHedge (net : NetLib) (r : Racer) (rank : List EndpointAddr → EndpointAddr)
    (buildErr : Option GoError) : Racer :=
  let hedgeEndpoint := selectHedgeEndpoint net r.availableEndpoints r.primaryEndpoint rank
  { r with
    hedgeEndpoint := hedgeEndpoint
    hedge := if hedgeEndpoint ≠ "" ∧ buildErr = none then .inFlight else .idle
    phase := .awaitFirst }

def consume (heur : Heuristics) (payload : Payload) (r : Racer) (got : HedgeResult) :
    Option Racer :=
  match r.phase with
  | .awaitDelay => some (r.cancelBranches.returnWith got.result)
  | .awaitFirst =>
    if got.result.wins heur payload then some { r with phase := .collectLoser got }
    else some { r with phase := .awaitSecond got }
  | .awaitSecond first =>
    some (r.cancelBranches.returnWith
      (if got.result.wins heur payload then got.result else first.result))
  | .collectLoser winner => some (r.cancelBranches.returnWith winner.result)
  | .returned _ => none

def drain (rest : List HedgeResult) : Nat → Racer
  | 0 => { r.cancelBranches with resultChan := rest, cleanup := none }
  | n + 1 => { r with resultChan := rest, cleanup := some (n + 1) }

variable (net : NetLib) (heur : Heuristics) (payload : Payload)

def step (callerErr : Option GoError) (r : Racer) : RaceEvent → Option Racer
  | .branchDone isHedge result =>
    if r.branch isHedge = .inFlight then some (r.settle isHedge result) else none
  | .branchCut isHedge responses err =>
    if r.branch isHedge = .inFlight ∧ r.cancelled = true then
      some (r.settle isHedge ⟨responses, some err⟩)
    else none
  | .delayElapsed rank buildErr =>
    match r.phase, r.availableEndpoints with
    -- an empty list makes the capacity of `filtered` negative, and the request panics
    | .awaitDelay, _ :: _ => some (r.startHedge net rank buildErr)
    | _, _ => none
  | .receive =>
    match r.resultChan with
    | [] => none
    | got :: rest => consume heur payload { r with resultChan := rest } got
  | .loserTimeout =>
    match r.phase with
    | .collectLoser winner => some (r.cleanupRunningBranches.returnWith winner.result)
    | _ => none
  | .secondTimeout =>
    match r.phase with
    | .awaitSecond first => some (r.cleanupRunningBranches.returnWith first.result)
    | _ => none
  | .callerDone =>
    match callerErr, r.phase with
    | none, _ => none
    -- a winner in hand is returned whatever the caller does
    | some _, .collectLoser _ => none
    | some _, .returned _ => none
    | some err, _ => some (r.cleanupRunningBranches.returnWith ⟨[], some err⟩)
  | .cleanupReceive =>
    match r.cleanup, r.resultChan with
    | some (n + 1), _ :: rest => some (r.drain rest n)
    | _, _ => none
  | .graceExpired =>
    match r.cleanup with
    | some _ => some { r.cancelBranches with cleanup := none }
    | none => none

inductive Moves (callerErr : Option GoError) (r : Racer) : RaceEvent → Racer → Prop where
  | branchDone {isHedge result} (hb : r.branch isHedge = .inFlight) :
    Moves callerErr r (.branchDone isHedge result) (r.settle isHedge result)
  | branchCut {isHedge responses err} (hb : r.branch isHedge = .inFlight)
    (hcut : r.cancelled = true) :
    Moves callerErr r (.branchCut isHedge responses err)
      (r.settle isHedge ⟨responses, some err⟩)
  | delayElapsed {rank buildErr} (hp : r.phase = .awaitDelay) (hne : r.availableEndpoints ≠ []) :
    Moves callerErr r (.delayElapsed rank buildErr) (r.startHedge net rank buildErr)
  | primaryOnly {got rest} (hp : r.phase = .awaitDelay) (hc : r.resultChan = got :: rest) :
    Moves callerErr r .receive
      ({ r with resultChan := rest }.cancelBranches.returnWith got.result)
  | firstWins {got rest} (hp : r.phase = .awaitFirst) (hc : r.resultChan = got :: rest)
    (hw : got.result.wins heur payload = true) :
    Moves callerErr r .receive { r with resultChan := rest, phase := .collectLoser got }
  | firstFails {got rest} (hp : r.phase = .awaitFirst) (hc : r.resultChan = got :: rest)
    (hw : got.result.wins heur payload = false) :
    Moves callerErr r .receive { r with resultChan := rest, phase := .awaitSecond got }
  | second {first got rest} (hp : r.phase = .awaitSecond first)
    (hc : r.resultChan = got :: rest) :
    Moves callerErr r .receive ({ r with resultChan := rest }.cancelBranches.returnWith
      (if got.result.wins heur payload then got.result else first.result))
  | loser {winner got rest} (hp : r.phase = .collectLoser winner)
    (hc : r.resultChan = got :: rest) :
    Moves callerErr r .receive
      ({ r with resultChan := rest }.cancelBranches.returnWith winner.result)
  | loserTimeout {winner} (hp : r.phase = .collectLoser winner) :
    Moves callerErr r .loserTimeout (r.cleanupRunningBranches.returnWith winner.result)
  | secondTimeout {first} (hp : r.phase = .awaitSecond first) :
    Moves callerErr r .secondTimeout (r.cleanupRunningBranches.returnWith first.result)
  | callerDone {err} (hcaller : callerErr = some err)
    (hp : r.phase = .awaitDelay ∨ r.phase = .awaitFirst ∨ ∃ first, r.phase = .awaitSecond first) :
    Moves callerErr r .callerDone (r.cleanupRunningBranches.returnWith ⟨[], some err⟩)
  | drain {n got rest} (hd : r.cleanup = some (n + 1)) (hc : r.resultChan = got :: rest) :
    Moves callerErr r .cleanupReceive (r.drain rest n)
  | graceExpired {n} (hd : r.cleanup = some n) :
    Moves callerErr r .graceExpired { r.cancelBranches with cleanup := none }

variable {net heur payload} {callerErr : Option GoError} {r r' : Racer} {event : RaceEvent}

theorem moves_of_receive {got : HedgeResult}
    {rest : List HedgeResult} (hc : r.resultChan = got :: rest)
    (h : consume heur payload { r with resultChan := rest } got = some r') :
    Moves net heur payload callerErr r .receive r' := by
  unfold consume at h
  dsimp only at h
  cases hp : r.phase with
  | awaitDelay =>
    rw [hp] at h
    cases h
    exact .primaryOnly hp hc
  | awaitFirst =>
    rw [hp] at h
    cases hw : got.result.wins heur payload with
    | true =>
      simp only [hw, if_true, Option.some.injEq] at h
      exact h ▸ .firstWins hp hc hw
    | false =>
      simp only [hw, Bool.false_eq_true, if_false, Option.some.injEq] at h
      exact h ▸ .firstFails hp hc hw
  | awaitSecond =>
    rw [hp] at h
    cases h
    exact .second hp hc
  | collectLoser =>
    rw [hp] at h
    cases h
    exact .loser hp hc
  | returned =>
    rw [hp] at h
    cases h

theorem moves_of_step (h : r.step net heur payload callerErr event = some r') :
    Moves net heur payload callerErr r event r' := by
  cases event with
  | branchDone =>
    simp only [step, Option.ite_none_right_eq_some, Option.some.injEq] at h
    exact h.2 ▸ .branchDone h.1
  | branchCut =>
    simp only [step, Option.ite_none_right_eq_some, Option.some.injEq] at h
    exact h.2 ▸ .branchCut h.1.1 h.1.2
  | delayElapsed =>
    simp only [step] at h
    split at h
    · rename_i hp hne
      cases h
      exact .delayElapsed hp (by simp [hne])
    · cases h
  | loserTimeout | secondTimeout =>
    cases hp : r.phase <;> simp only [step, hp, reduceCtorEq, Option.some.injEq] at h
    subst h
    constructor
    exact hp
  | receive =>
    cases hc : r.resultChan with
    | nil => simp [step, hc] at h
    | cons =>
      simp only [step, hc] at h
      exact moves_of_receive hc h
  | callerDone =>
    cases hcaller : callerErr with
    | none => simp [step, hcaller] at h
    | some =>
      cases hp : r.phase <;> simp only [step, hcaller, hp, reduceCtorEq, Option.some.injEq] at h
      · exact h ▸ .callerDone rfl (.inl hp)
      · exact h ▸ .callerDone rfl (.inr (.inl hp))
      · exact h ▸ .callerDone rfl (.inr (.inr ⟨_, hp⟩))
  | cleanupReceive =>
    simp only [step] at h
    split at h
    · rename_i hd hc
      cases h
      exact .drain hd hc
    · cases h
  | graceExpired =>
    cases hd : r.cleanup <;> simp only [step, hd, reduceCtorEq, Option.some.injEq] at h
    exact h ▸ .graceExpired hd

theorem step_returned {result : RelayResult} (h : r.step net heur payload callerErr event = some r')
    (hp : r.phase = .returned result) : r'.phase = .returned result := by
  cases moves_of_step h with
  | branchDone | branchCut | graceExpired => exact hp
  | drain hd hc =>
    rename_i n _ _
    cases n <;> exact hp
  | callerDone hcaller hother =>
    obtain hother | hother | ⟨first, hother⟩ := hother <;> rw [hp] at hother <;> cases hother
  | delayElapsed hother | primaryOnly hother | firstWins hother | firstFails hother | second hother
  | loser hother | loserTimeout hother | secondTimeout hother => rw [hp] at hother; cases hother

def held (r : Racer) : List RelayResult :=
  match r.phase with
  | .awaitDelay | .awaitFirst => []
  | .awaitSecond first => [first.result]
  | .collectLoser winner => [winner.result]
  | .returned result => [result]

def results (r : Racer) : List RelayResult :=
  r.held ++ r.resultChan.map HedgeResult.result

theorem mem_results_settle {isHedge : Bool} {result result' : RelayResult}
    (h : result ∈ (r.settle isHedge result').results) : result ∈ r.results ∨ result = result' := by
  simpa [results, held, settle, or_assoc] using h

theorem responses_of_step (h : r.step net heur payload callerErr event = some r')
    {result : RelayResult}
    (hr : result ∈ r'.results) {resp : Response} (hresp : resp ∈ result.responses) :
    resp ∈ event.responses ∨ ∃ result ∈ r.results, resp ∈ result.responses := by
  cases moves_of_step h with
  | branchDone | branchCut =>
    rcases mem_results_settle hr with hr | rfl
    · exact .inr ⟨result, hr, hresp⟩
    · exact .inl hresp
  | delayElapsed hp =>
    exact .inr ⟨result, by simpa [results, held, hp, startHedge] using hr, hresp⟩
  | primaryOnly hp hc =>
    refine .inr ⟨result, ?_, hresp⟩
    simpa [results, held, hp, hc, cancelBranches, returnWith] using hr
  | firstWins hp hc | firstFails hp hc =>
    exact .inr ⟨result, by simpa [results, held, hp, hc] using hr, hresp⟩
  | second hp hc =>
    refine .inr ⟨result, ?_, hresp⟩
    rcases mem_append.mp hr with hr | hr
    · have heq := mem_singleton.mp hr
      split at heq <;> simp [results, held, hp, hc, heq]
    · rw [results, hc, map_cons]
      exact mem_append_right _ (mem_cons_of_mem _ hr)
  | loser hp hc =>
    refine .inr ⟨result, ?_, hresp⟩
    rcases mem_append.mp hr with hr | hr
    · simp [results, held, hp, mem_singleton.mp hr]
    · rw [results, hc, map_cons]
      exact mem_append_right _ (mem_cons_of_mem _ hr)
  | loserTimeout hp | secondTimeout hp =>
    exact .inr ⟨result, by simpa [results, held, hp, cleanupRunningBranches, returnWith] using hr,
      hresp⟩
  | callerDone =>
    rcases mem_append.mp hr with hr | hr
    · rw [mem_singleton.mp hr] at hresp
      cases hresp
    · exact .inr ⟨result, mem_append_right _ hr, hresp⟩
  | @drain n got rest hd hc =>
    refine .inr ⟨result, ?_, hresp⟩
    have hsub : result ∈ r.held ++ rest.map HedgeResult.result := by
      cases n <;> simpa [results, held, drain, cancelBranches] using hr
    rw [results, hc, map_cons]
    rcases mem_append.mp hsub with hr | hr
    · exact mem_append_left _ hr
    · exact mem_append_right _ (mem_cons_of_mem _ hr)
  | graceExpired => exact .inr ⟨result, hr, hresp⟩

end Racer

end PathGateway
