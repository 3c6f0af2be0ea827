import PathGateway.ItemTargets
import PathGateway.ParallelRelay

/-! A request with one payload and one protocol context. The first attempt uses the context that
was built with the request, in a hedge race where hedging is on; the retries rotate over
endpoints of fresh domains. -/

namespace PathGateway

structure SingleConfig where
  net : NetLib
  heur : Heuristics
  payload : Payload
  retryConfig : Option RetryConfig
  circuitBreaker : Option (List String)

namespace SingleConfig

variable (cfg : SingleConfig)

def maxAttempts : Int := RetryConfig.maxAttempts cfg.retryConfig

def hedging : Bool :=
  (cfg.retryConfig.bind RetryConfig.hedgeDelay).any (fun d => decide (0 < d))

def check (err : Option GoError) (first : Response) : ResponseCheckResult :=
  checkResponseSuccess cfg.heur err first.httpStatusCode first.bytes cfg.payload.effectiveRPCType
    cfg.payload.methodOrPath first.requestID

end SingleConfig

inductive SinglePhase where
  | attempting
  | racing
  | relaying
  | delaying
  | returned (err : Option GoError)
  deriving DecidableEq, Repr

/-- The variables of the retry loop, and what its relays did so far. -/
structure Single where
  attempt : Nat
  phase : SinglePhase
  target : EndpointAddr
  current : EndpointAddr
  lastErr : Option GoError
  lastStatusCode : Int
  lastHeuristicResult : Option AnalysisResult
  triedEndpoints : List EndpointAddr
  triedDomains : List String
  capabilityFailures : Nat
  racer : Option Racer
  clientErr : Option GoError
  starts : List RelayStart
  updates : List Response
  faults : List Fault

inductive SingleEvent where
  | clientDone (err : GoError)
  | attempt (answers : AttemptAnswers)
  | race (event : RaceEvent)
  | relayDone (answer : RelayAnswer)
  | delayOver
  | delayCut

namespace Racer

def raced (r : Racer) : List EndpointAddr :=
  if r.hedgeEndpoint ≠ "" then [r.hedgeEndpoint, r.primaryEndpoint] else [r.primaryEndpoint]

def racedDomains (net : NetLib) (r : Racer) (domains : List String) : List String :=
  r.raced.foldr (fun ep ds => markDomainTried net ds ep) domains

theorem mem_racedDomains {net : NetLib} {r : Racer} {domains : List String} {d : String}
    (h : d ∈ domains) : d ∈ r.racedDomains net domains := by
  rw [racedDomains, raced]
  split
  · exact mem_markDomainTried (mem_markDomainTried h)
  · exact mem_markDomainTried h

end Racer

namespace Single

variable (cfg : SingleConfig)

variable (s : Single) (answers : AttemptAnswers)

def exhaust : Single :=
  { s with phase := .returned (some (s.lastErr.getD ("relay request failed with status code " ++
      toString s.lastStatusCode ++ " after " ++ toString cfg.maxAttempts ++ " attempts"))) }

def nextAttempt : Single :=
  if (s.attempt : Int) + 1 ≤ cfg.maxAttempts then
    { s with attempt := s.attempt + 1, phase := .attempting }
  else s.exhaust cfg

def start (target : EndpointAddr) : Single :=
  let s : Single := ⟨1, .attempting, target, "", none, 0, none, [], cfg.circuitBreaker.getD [], 0,
    none, none, [], [], []⟩
  if 1 ≤ cfg.maxAttempts then s else s.exhaust cfg

def markTried (endpoint : EndpointAddr) : Single :=
  { s with
    triedEndpoints := endpoint :: s.triedEndpoints
    triedDomains := markDomainTried cfg.net s.triedDomains endpoint }

def startRelay : Single := { s with phase := .relaying, starts := s.starts ++ [⟨s.target, false⟩] }

def startRace (endpoints : List EndpointAddr) : Single :=
  { s with
    phase := .racing
    racer := some (Racer.start (endpoints.headD "") endpoints)
    starts := s.starts ++ [⟨s.target, false⟩] }

def firstAttempt : Single :=
  if cfg.hedging then
    match answers.available with
    | .ok (ep :: eps) => s.startRace (answers.validated (ep :: eps))
    | _ => s.startRelay
  else s.startRelay

def breakFaults : List Fault :=
  if cfg.circuitBreaker.isSome ∧
      shouldCircuitBreak cfg.heur s.lastHeuristicResult s.lastStatusCode s.lastErr = true then
    Fault.ofBreak cfg.net s.current
  else []

def rotate : Single :=
  match answers.available with
  | .error err => { s with lastErr := some err }.exhaust cfg
  | .ok [] => { s with lastErr := some "no endpoints available for retry" }.exhaust cfg
  | .ok (ep :: eps) =>
    match filterEndpoints cfg.net (answers.validated (ep :: eps)) s.triedEndpoints
        s.triedDomains with
    | [] => s.exhaust cfg
    | filtered =>
      let new := answers.rank filtered
      if new = "" then
        { s with lastErr := some "no endpoints available for retry" }.exhaust cfg
      else
        match answers.buildErr with
        | some err => { s with current := new, lastErr := some err }.exhaust cfg
        | none => { s with current := new, target := new }.startRelay

def retryAttempt : Single :=
  ({ s with faults := s.faults ++ s.breakFaults cfg }.markTried cfg s.current).rotate cfg answers

def beginAttempt : Single :=
  match s.clientErr with
  | some err => { s with phase := .returned (some err) }
  | none =>
    if s.attempt = 1 then s.firstAttempt cfg answers else s.retryAttempt cfg answers

def heuristicFaults (endpointAddr : EndpointAddr) (result : ResponseCheckResult) : List Fault :=
  if endpointAddr = "" then []
  else Fault.ofHeuristics cfg.heur endpointAddr result.heuristicResult

def raceFailed (r : Racer) (responses : List Response) : Single :=
  let s := s.markTried cfg r.primaryEndpoint
  let s := if r.hedgeEndpoint ≠ "" then s.markTried cfg r.hedgeEndpoint else s
  let (failures, spent) :=
    noteCapabilityFailure cfg.heur s.capabilityFailures s.lastHeuristicResult s.lastErr
  let s := { s with
    capabilityFailures := failures
    updates := s.updates ++
      if isCapabilityLimitationFailure cfg.heur s.lastHeuristicResult s.lastErr then
        (responses.take 1).filter (fun resp : Response => resp.bytes ≠ "")
      else [] }
  if spent then s.exhaust cfg else s.nextAttempt cfg

def raceEnded (r : Racer) (result : RelayResult) : Single :=
  match result.err, result.responses with
  | none, resp :: rest =>
    let checkResult := cfg.check none resp
    if checkResult.success then
      { s with updates := s.updates ++ resp :: rest, phase := .returned none }
    else
      { s with
        faults := s.faults ++ heuristicFaults cfg resp.endpointAddr checkResult
        lastErr := some "hedge race response failed heuristic check"
        lastStatusCode := resp.httpStatusCode
        current := resp.endpointAddr
        lastHeuristicResult := checkResult.heuristicResult }.raceFailed cfg r (resp :: rest)
  | err, [] => { s with lastErr := err }.raceFailed cfg r []
  | err, resp :: rest =>
    { s with
      lastErr := err
      lastStatusCode := resp.httpStatusCode
      current := resp.endpointAddr }.raceFailed cfg r (resp :: rest)

def retries (a : RelayAnswer) (heuristicResult : Option AnalysisResult) : Bool :=
  decide ((s.attempt : Int) < cfg.maxAttempts) &&
    if isCapabilityLimitationFailure cfg.heur heuristicResult a.err then
      !(noteCapabilityFailure cfg.heur s.capabilityFailures heuristicResult a.err).2
    else shouldRetry cfg.net a cfg.retryConfig heuristicResult

def relayEnded (a : RelayAnswer) : Single :=
  let checkResult := cfg.check a.err a.first
  let goesOn := s.retries cfg a checkResult.heuristicResult
  let s := { s with
    current := if s.attempt = 1 ∧ a.responses ≠ [] then a.first.endpointAddr else s.current
    updates := s.updates ++ a.responses }
  if checkResult.success then { s with phase := .returned none }
  else
    let s := { s with
      faults := s.faults ++ heuristicFaults cfg a.first.endpointAddr checkResult
      lastErr := a.err
      lastStatusCode := a.first.httpStatusCode
      lastHeuristicResult := checkResult.heuristicResult
      capabilityFailures := (noteCapabilityFailure cfg.heur s.capabilityFailures
        checkResult.heuristicResult a.err).1 }
    if goesOn then { s with phase := .delaying } else s.exhaust cfg

def noteRace (r' : Racer) : RaceEvent → Single
  | .delayElapsed _ _ =>
    if r'.hedge = .inFlight then
      { s with starts := s.starts ++ [⟨r'.hedgeEndpoint, r'.cancelled⟩] }
    else s
  | _ => s

def afterRaceStep (r' : Racer) (event : RaceEvent) : Single :=
  let s := { s.noteRace r' event with racer := some r' }
  match s.phase, r'.phase with
  | .racing, .returned result => s.raceEnded cfg r' result
  | _, _ => s

def step (s : Single) : SingleEvent → Option Single
  | .clientDone err => some { s with clientErr := some (s.clientErr.getD err) }
  | .attempt answers =>
    match s.phase with
    | .attempting => some (s.beginAttempt cfg answers)
    | _ => none
  | .race event =>
    match s.racer with
    | none => none
    | some r =>
      (r.step cfg.net cfg.heur cfg.payload s.clientErr event).map
        (fun r' => s.afterRaceStep cfg r' event)
  | .relayDone answer =>
    match s.phase with
    | .relaying => some (s.relayEnded cfg answer)
    | _ => none
  | .delayOver =>
    match s.phase with
    | .delaying => some { s with attempt := s.attempt + 1, phase := .attempting }
    | _ => none
  | .delayCut =>
    match s.phase, s.clientErr with
    | .delaying, some err => some { s with phase := .returned (some err) }
    | _, _ => none

variable {cfg : SingleConfig} {s s' : Single} {event : SingleEvent}

/-- Every way an attempt begins. -/
inductive Begins (cfg : SingleConfig) (s : Single) (answers : AttemptAnswers) : Single → Prop where
  | clientGone {err} (hclient : s.clientErr = some err) :
    Begins cfg s answers { s with phase := .returned (some err) }
  | relay (hclient : s.clientErr = none) (hfirst : s.attempt = 1) :
    Begins cfg s answers s.startRelay
  | race {ep eps} (hclient : s.clientErr = none) (hfirst : s.attempt = 1)
    (hhedging : cfg.hedging = true) (havailable : answers.available = .ok (ep :: eps)) :
    Begins cfg s answers (s.startRace (answers.validated (ep :: eps)))
  | exhaust {current lastErr} (hclient : s.clientErr = none) (hretry : s.attempt ≠ 1) :
    Begins cfg s answers (exhaust cfg
      { s.markTried cfg s.current with
        faults := s.faults ++ s.breakFaults cfg, current := current, lastErr := lastErr })
  | retry {available filtered new} (hclient : s.clientErr = none) (hretry : s.attempt ≠ 1)
    (havailable : answers.available = .ok available)
    (hfiltered : filterEndpoints cfg.net (answers.validated available)
      (s.current :: s.triedEndpoints) (markDomainTried cfg.net s.triedDomains s.current) = filtered)
    (hne : filtered ≠ []) (hnew : answers.rank filtered = new) :
    Begins cfg s answers (startRelay
      { s.markTried cfg s.current with
        faults := s.faults ++ s.breakFaults cfg, current := new, target := new })

/-- Every way the end of a race is taken up. The next attempt has both of its endpoints as tried. -/
inductive RaceEnds (cfg : SingleConfig) (s : Single) (r : Racer) (result : RelayResult) :
    Single → Prop where
  | returned {current lastErr code heuristicResult endpoints domains failures updates faults err}
    (hdomains : ∀ d ∈ s.triedDomains, d ∈ domains) :
    RaceEnds cfg s r result ⟨s.attempt, .returned err, s.target, current, lastErr, code,
      heuristicResult, endpoints, domains, failures, s.racer, s.clientErr, s.starts, updates,
      faults⟩
  | again {current lastErr code heuristicResult failures updates faults}
    (hfails : result.passes (cfg.check none) = false)
    (hcount : s.capabilityFailures < capabilityAttemptBudget →
      failures < capabilityAttemptBudget ∧ s.capabilityFailures +
        (if result.limited cfg.heur (cfg.check none) then 1 else 0) ≤ failures) :
    RaceEnds cfg s r result ⟨s.attempt + 1, .attempting, s.target, current, lastErr, code,
      heuristicResult, r.raced ++ s.triedEndpoints, r.racedDomains cfg.net s.triedDomains, failures,
      s.racer, s.clientErr, s.starts, updates, faults⟩

inductive RelayEnds (cfg : SingleConfig) (s : Single) (a : RelayAnswer) : Single → Prop where
  | returned {current lastErr code heuristicResult failures updates faults err} :
    RelayEnds cfg s a ⟨s.attempt, .returned err, s.target, current, lastErr, code, heuristicResult,
      s.triedEndpoints, s.triedDomains, failures, s.racer, s.clientErr, s.starts, updates, faults⟩
  | again {lastErr code heuristicResult failures updates faults}
    (hfails : (cfg.check a.err a.first).success = false)
    (hgoes : s.retries cfg a (cfg.check a.err a.first).heuristicResult = true)
    (hcount : s.capabilityFailures < capabilityAttemptBudget →
      failures < capabilityAttemptBudget ∧ s.capabilityFailures +
        (if RelayResult.limited cfg.heur (cfg.check none) ⟨a.responses, a.err⟩ then 1 else 0) ≤
        failures) :
    RelayEnds cfg s a ⟨s.attempt, .delaying, s.target,
      if s.attempt = 1 ∧ a.responses ≠ [] then a.first.endpointAddr else s.current, lastErr, code,
      heuristicResult, s.triedEndpoints, s.triedDomains, failures, s.racer, s.clientErr, s.starts,
      updates, faults⟩

inductive Races (cfg : SingleConfig) (s : Single) (r' : Racer) (event : RaceEvent) :
    Single → Prop where
  | running {starts} (hadds : event.Adds r' s.starts starts)
    (hlive : s.phase = .racing → ∀ result, r'.phase ≠ .returned result) :
    Races cfg s r' event { s with racer := some r', starts := starts }
  | ended {starts result s'} (hadds : event.Adds r' s.starts starts) (hp : s.phase = .racing)
    (hover : r'.phase = .returned result)
    (hends : RaceEnds cfg { s with racer := some r', starts := starts } r' result s') :
    Races cfg s r' event s'

/-- What an event does, in the state that it needs. -/
inductive Moves (cfg : SingleConfig) (s : Single) : SingleEvent → Single → Prop where
  | clientDone {err} :
    Moves cfg s (.clientDone err) { s with clientErr := some (s.clientErr.getD err) }
  | attempt {answers : AttemptAnswers} {s'} (hp : s.phase = .attempting)
    (hbegins : Begins cfg s answers s') :
    Moves cfg s (.attempt answers) s'
  | race {event r r' s'} (hracer : s.racer = some r)
    (hmove : r.step cfg.net cfg.heur cfg.payload s.clientErr event = some r')
    (hraces : Races cfg s r' event s') : Moves cfg s (.race event) s'
  | relayDone {answer s'} (hp : s.phase = .relaying) (hends : RelayEnds cfg s answer s') :
    Moves cfg s (.relayDone answer) s'
  | delayOver (hp : s.phase = .delaying) :
    Moves cfg s .delayOver { s with attempt := s.attempt + 1, phase := .attempting }
  | delayCut {err} (hp : s.phase = .delaying) (hclient : s.clientErr = some err) :
    Moves cfg s .delayCut { s with phase := .returned (some err) }

theorem begins_of_eq {answers : AttemptAnswers} (h : s.beginAttempt cfg answers = s') :
    Begins cfg s answers s' := by
  subst h
  unfold beginAttempt
  split
  · exact .clientGone ‹_›
  · rename_i hclient
    split_ifs with hone
    · unfold firstAttempt
      split_ifs with hhedging
      · split
        · exact .race hclient hone hhedging ‹_›
        · exact .relay hclient hone
      · exact .relay hclient hone
    · unfold retryAttempt rotate
      split
      · exact .exhaust hclient hone
      · exact .exhaust hclient hone
      · rename_i havailable
        split
        · exact .exhaust hclient hone
        · rename_i hne
          dsimp only
          split
          · exact .exhaust hclient hone
          · split
            · exact .exhaust hclient hone
            · exact .retry hclient hone havailable rfl hne rfl

theorem isCapabilityLimitationFailure_of_limited {a : RelayAnswer}
    (h : RelayResult.limited cfg.heur (cfg.check none) ⟨a.responses, a.err⟩ = true) :
    isCapabilityLimitationFailure cfg.heur (cfg.check a.err a.first).heuristicResult a.err =
      true := by
  rcases a with ⟨_ | ⟨resp, rest⟩, _ | err, deadlineExceeded, duration⟩
  · cases h
  · exact isCapabilityLimitationFailure_of_none (.inr h)
  · simp only [RelayResult.limited, Bool.and_eq_true] at h
    exact h.2
  · exact isCapabilityLimitationFailure_of_none (.inr h)

theorem not_spent_of_retries {a : RelayAnswer} {heuristicResult : Option AnalysisResult}
    (h : s.retries cfg a heuristicResult = true) :
    (noteCapabilityFailure cfg.heur s.capabilityFailures heuristicResult a.err).2 = false := by
  rw [retries, Bool.and_eq_true] at h
  cases hcap : isCapabilityLimitationFailure cfg.heur heuristicResult a.err with
  | true =>
    have hleft := h.2
    rw [if_pos hcap] at hleft
    simpa using hleft
  | false => simp [noteCapabilityFailure, hcap]

section Ends

variable {r r' : Racer} {result : RelayResult} {current : EndpointAddr} {lastErr : Option GoError}
  {code : Int} {heuristicResult : Option AnalysisResult} {faults : List Fault}
  {responses : List Response}

theorem raceEnds_raceFailed (hfails : result.passes (cfg.check none) = false)
    (himp : result.limited cfg.heur (cfg.check none) = true →
      isCapabilityLimitationFailure cfg.heur heuristicResult lastErr = true) :
    RaceEnds cfg s r result ({ s with
      current := current, lastErr := lastErr, lastStatusCode := code,
      lastHeuristicResult := heuristicResult, faults := faults }.raceFailed cfg r responses) := by
  have hmarks (t : Single) : (if r.hedgeEndpoint ≠ "" then
      (t.markTried cfg r.primaryEndpoint).markTried cfg r.hedgeEndpoint
      else t.markTried cfg r.primaryEndpoint) = { t with
        triedEndpoints := r.raced ++ t.triedEndpoints
        triedDomains := r.racedDomains cfg.net t.triedDomains } := by
    rw [Racer.racedDomains, Racer.raced]
    split <;> rfl
  rw [raceFailed, hmarks]
  dsimp only
  generalize s.updates ++ _ = updates
  split
  · exact .returned fun _ => Racer.mem_racedDomains
  · rename_i hleft
    rw [nextAttempt]
    split
    · refine .again hfails fun hless => ?_
      obtain ⟨hwithin, hcount⟩ := noteCapabilityFailure_spec hless (Bool.eq_false_iff.mpr hleft)
      refine ⟨hwithin, hcount ▸ Nat.add_le_add_left ?_ _⟩
      split
      · rename_i hlimited
        rw [if_pos (himp hlimited)]
      · exact Nat.zero_le _
    · exact .returned fun _ => Racer.mem_racedDomains

theorem raceEnds_raceEnded : RaceEnds cfg s r result (s.raceEnded cfg r result) := by
  rcases result with ⟨_ | ⟨resp, rest⟩, _ | err⟩ <;> unfold raceEnded <;> dsimp only
  · exact raceEnds_raceFailed rfl (by intro hl; cases hl)
  · exact raceEnds_raceFailed rfl fun hl => isCapabilityLimitationFailure_of_none (.inr hl)
  · split_ifs with hpass
    · exact .returned fun _ hd => hd
    · refine raceEnds_raceFailed (Bool.eq_false_iff.mpr hpass) fun hl => ?_
      simp only [RelayResult.limited, Bool.and_eq_true] at hl
      exact isCapabilityLimitationFailure_of_none (.inl hl.2)
  · exact raceEnds_raceFailed rfl fun hl => isCapabilityLimitationFailure_of_none (.inr hl)

theorem relayEnds_relayEnded {a : RelayAnswer} : RelayEnds cfg s a (s.relayEnded cfg a) := by
  unfold relayEnded
  dsimp only
  split
  · exact .returned
  · rename_i hfails
    split
    · rename_i hgoes
      refine .again (Bool.eq_false_iff.mpr hfails) hgoes fun hless => ?_
      obtain ⟨hwithin, hcount⟩ := noteCapabilityFailure_spec hless (not_spent_of_retries hgoes)
      refine ⟨hwithin, hcount ▸ Nat.add_le_add_left ?_ _⟩
      split
      · rename_i hlimited
        rw [if_pos (isCapabilityLimitationFailure_of_limited hlimited)]
      · exact Nat.zero_le _
    · exact .returned

theorem races_afterRaceStep {event : RaceEvent} :
    Races cfg s r' event (s.afterRaceStep cfg r' event) := by
  obtain ⟨starts, hadds, hnoted⟩ : ∃ starts, event.Adds r' s.starts starts ∧
      s.noteRace r' event = { s with starts := starts } := by
    cases event with
    | delayElapsed rank buildErr =>
      rw [noteRace]
      split_ifs with hflying
      · exact ⟨_, .inr ⟨⟨rank, buildErr, rfl⟩, hflying, rfl⟩, rfl⟩
      · exact ⟨_, .inl rfl, rfl⟩
    | _ => exact ⟨_, .inl rfl, rfl⟩
  rw [afterRaceStep, hnoted]
  dsimp only
  split
  · exact .ended hadds ‹_› ‹_› raceEnds_raceEnded
  · rename_i hnot
    exact .running hadds fun hp result hover => hnot result hp hover

end Ends

theorem moves_of_step (hstep : s.step cfg event = some s') : Moves cfg s event s' := by
  cases event <;> simp only [step] at hstep
  case clientDone err =>
    cases hstep
    exact .clientDone
  case race event =>
    split at hstep
    · cases hstep
    · rename_i r hracer
      obtain ⟨r', hmove, rfl⟩ := Option.map_eq_some_iff.mp hstep
      exact .race hracer hmove races_afterRaceStep
  all_goals
    split at hstep
    · cases hstep
      constructor <;> first | assumption | exact begins_of_eq rfl | exact relayEnds_relayEnded
    · cases hstep

def Ranked : SingleEvent → Prop
  | .attempt answers => Picks answers.rank
  | .race (.delayElapsed rank _) => Picks rank
  | _ => True

theorem Ranked.delay {event : RaceEvent} (h : Ranked (.race event)) :
    ∀ rank buildErr, event = .delayElapsed rank buildErr → Picks rank := by
  rintro rank buildErr rfl
  exact h

/-- Between attempts only a race sends something. -/
theorem step_frame (hattempt : ∀ answers, event ≠ .attempt answers)
    (hstep : s.step cfg event = some s') :
    s.attempt ≤ s'.attempt ∧ s'.target = s.target ∧ (∀ d ∈ s.triedDomains, d ∈ s'.triedDomains) ∧
    (s'.racer = s.racer ∧ s'.starts = s.starts ∨ ∃ raceEvent r r', event = .race raceEvent ∧
      s.racer = some r ∧ r.step cfg.net cfg.heur cfg.payload s.clientErr raceEvent = some r' ∧
      s'.racer = some r' ∧ raceEvent.Adds r' s.starts s'.starts) := by
  cases moves_of_step hstep with
  | attempt => exact absurd rfl (hattempt _)
  | race hracer hmove hraces =>
    cases hraces with
    | running hadds =>
      exact ⟨le_rfl, rfl, fun _ hd => hd, .inr ⟨_, _, _, rfl, hracer, hmove, rfl, hadds⟩⟩
    | ended hadds hp hover hends =>
      cases hends with
      | returned hdomains =>
        exact ⟨le_rfl, rfl, hdomains, .inr ⟨_, _, _, rfl, hracer, hmove, rfl, hadds⟩⟩
      | again hfails hcount =>
        exact ⟨Nat.le_succ _, rfl, fun _ => Racer.mem_racedDomains,
          .inr ⟨_, _, _, rfl, hracer, hmove, rfl, hadds⟩⟩
  | relayDone hp hends => cases hends <;> exact ⟨le_rfl, rfl, fun _ hd => hd, .inl ⟨rfl, rfl⟩⟩
  | delayOver => exact ⟨Nat.le_succ _, rfl, fun _ hd => hd, .inl ⟨rfl, rfl⟩⟩
  | clientDone | delayCut => exact ⟨le_rfl, rfl, fun _ hd => hd, .inl ⟨rfl, rfl⟩⟩

end Single

end PathGateway
