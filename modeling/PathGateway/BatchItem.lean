import PathGateway.HedgeRace
import PathGateway.Machine

/-! One item of a batch: attempts over endpoints of fresh domains, the first one with a
hedge race where hedging is on. The item is a machine driven by what its environment
answers; the racer's branches and its background drain run beside it. -/

namespace PathGateway

open RelayResult

structure RetryConfig where
  enabled : Option Bool
  maxRetries : Option Int
  retryOn5xx : Option Bool
  retryOnTimeout : Option Bool
  retryOnConnection : Option Bool
  maxRetryLatency : Option Int
  hedgeDelay : Option Int
  hedgeMaxBatchSize : Option Int
  deriving DecidableEq, Repr

def addInt (a b : Int) : Int := (a + b).bmod (2 ^ 64)

def RetryConfig.maxAttempts : Option RetryConfig → Int
  | some ⟨some true, some maxRetries, _, _, _, _, _, _⟩ =>
    if 0 < maxRetries then addInt maxRetries 1 else 1
  | _ => 1

def shouldSuppressHedgeForBatch (retryConfig : Option RetryConfig) (batchSize : Int) : Bool :=
  (retryConfig.bind RetryConfig.hedgeMaxBatchSize).any (fun maxBatch =>
    decide (0 < maxBatch) && decide (maxBatch < batchSize))

structure ItemConfig where
  net : NetLib
  heur : Heuristics
  payload : Payload
  index : Nat
  batchSize : Int
  retryConfig : Option RetryConfig
  circuitBreaker : Option (List String)
  scored : EndpointAddr → Bool

namespace ItemConfig

def maxAttempts (cfg : ItemConfig) : Int := RetryConfig.maxAttempts cfg.retryConfig

variable (cfg : ItemConfig)

def hedging : Bool :=
  (cfg.retryConfig.bind RetryConfig.hedgeDelay).any (fun d => decide (0 < d)) &&
    !shouldSuppressHedgeForBatch cfg.retryConfig cfg.batchSize

def brokenDomains : List String := cfg.circuitBreaker.getD []

def requestID : String := extractRequestIDFromPayload cfg.heur cfg.payload

def check (resp : Response) : ResponseCheckResult := checkResponse cfg.heur cfg.payload resp

end ItemConfig

structure AttemptAnswers where
  available : Except GoError (List EndpointAddr)
  select : List EndpointAddr → Except GoError (List EndpointAddr)
  rank : List EndpointAddr → EndpointAddr
  buildErr : Option GoError

def AttemptAnswers.validated (a : AttemptAnswers) (endpoints : List EndpointAddr) :
    List EndpointAddr :=
  match a.select endpoints with
  | .ok (ep :: eps) => ep :: eps
  | _ => endpoints

structure RelayStart where
  endpointAddr : EndpointAddr
  cancelled : Bool
  deriving DecidableEq, Repr

inductive Fault where
  | markBroken (domain : String)
  | signal (endpointAddr : EndpointAddr) (severity : Severity)
  deriving DecidableEq, Repr

def Fault.ofHeuristics (heur : Heuristics) (endpointAddr : EndpointAddr)
    (heuristicResult : Option AnalysisResult) : List Fault :=
  ((heuristicResult.bind (heuristicSignal heur)).map (Fault.signal endpointAddr)).toList

def Fault.ofBreak (net : NetLib) (endpointAddr : EndpointAddr) : List Fault :=
  let domain := extractDomainFromEndpoint net endpointAddr
  if domain ≠ "" then [.markBroken domain] else []

inductive ItemPhase where
  | attempting
  | racing
  | relaying (afterRace : Bool)
  | returned (resp : Response) (err : Option GoError)
  deriving DecidableEq, Repr

structure Item where
  attempt : Nat
  phase : ItemPhase
  lastErr : Option GoError
  lastResponse : Response
  triedEndpoints : List EndpointAddr
  triedDomains : List String
  capabilityFailures : Nat
  selected : EndpointAddr
  racer : Option Racer
  clientErr : Option GoError
  starts : List RelayStart
  produced : List Response
  faults : List Fault
  selfInflicted : List Fault

/-- A step of a race adds its hedge to the relays that were sent, or nothing. -/
def RaceEvent.Adds (event : RaceEvent) (r' : Racer) (starts starts' : List RelayStart) : Prop :=
  starts' = starts ∨ (∃ rank buildErr, event = .delayElapsed rank buildErr) ∧
    r'.hedge = .inFlight ∧ starts' = starts ++ [⟨r'.hedgeEndpoint, r'.cancelled⟩]

inductive ItemEvent where
  | clientDone (err : GoError)
  | attempt (answers : AttemptAnswers)
  | race (event : RaceEvent)
  | relayDone (result : RelayResult)
  | relayCut (responses : List Response) (err : GoError)

namespace Item

variable (cfg : ItemConfig)

variable (s : Item) (endpointAddr : EndpointAddr) (r' : Racer)

def giveUp : Item :=
  let resp := if s.lastResponse.requestID = "" then
    { s.lastResponse with requestID := cfg.requestID } else s.lastResponse
  { s with phase := .returned resp s.lastErr }

def nextAttempt : Item :=
  if (s.attempt : Int) + 1 ≤ cfg.maxAttempts then
    { s with attempt := s.attempt + 1, phase := .attempting }
  else s.giveUp cfg

def start : Item :=
  let s : Item := ⟨1, .attempting, none, .zero, [], cfg.brokenDomains, 0, "", none, none,
    [], [], [], []⟩
  if 1 ≤ cfg.maxAttempts then s else s.giveUp cfg

def failAttempt (heuristicResult : Option AnalysisResult) : Item :=
  let (failures, spent) :=
    noteCapabilityFailure cfg.heur s.capabilityFailures heuristicResult s.lastErr
  let s := { s with capabilityFailures := failures }
  if spent then s.giveUp cfg else s.nextAttempt cfg

def charge (cut : Bool) (faults : List Fault) : Item :=
  if cut then { s with selfInflicted := s.selfInflicted ++ faults }
  else { s with faults := s.faults ++ faults }

def heuristicFaults (heuristicResult : Option AnalysisResult) : List Fault :=
  Fault.ofHeuristics cfg.heur endpointAddr heuristicResult

def breakFaults (breaks : Bool) : List Fault :=
  if cfg.circuitBreaker.isSome ∧ breaks = true then Fault.ofBreak cfg.net endpointAddr else []

def startRelay (afterRace : Bool) : Item :=
  { s with
    phase := .relaying afterRace
    starts := s.starts ++
      [⟨s.selected, afterRace && s.racer.any (fun r => r.cancelled)⟩] }

def startRace (endpoints : List EndpointAddr) : Item :=
  { s with
    phase := .racing
    racer := some (Racer.start s.selected endpoints)
    starts := s.starts ++ [⟨s.selected, false⟩] }

def markTried (endpoint : EndpointAddr) : Item :=
  { s with
    triedEndpoints := endpoint :: s.triedEndpoints
    triedDomains := markDomainTried cfg.net s.triedDomains endpoint }

def useEndpoint
    (answers : AttemptAnswers) (first : EndpointAddr) (filtered : List EndpointAddr) : Item :=
  let ranked := answers.rank filtered
  let selected := if ranked = "" then first else ranked
  let s := { s with selected := selected }.markTried cfg selected
  match answers.buildErr with
  | some err => { s with lastErr := some err }.nextAttempt cfg
  | none =>
    if s.attempt = 1 ∧ cfg.hedging = true ∧ 1 < filtered.length then s.startRace filtered
    else s.startRelay false

def beginAttempt (answers : AttemptAnswers) : Item :=
  match s.clientErr with
  | some err =>
    let lastErr := s.lastErr.getD err
    { s with lastErr := some lastErr, phase := .returned s.lastResponse (some lastErr) }
  | none =>
    match answers.available with
    | .ok (ep :: eps) =>
      match filterEndpoints cfg.net (answers.validated (ep :: eps)) s.triedEndpoints
          s.triedDomains with
      -- every endpoint is tried or at a tried domain: the loop is left as it stands
      | [] => s.giveUp cfg
      | first :: rest => s.useEndpoint cfg answers first (first :: rest)
    | _ =>
      { s with lastErr := some ("no endpoints available for batch item " ++
        toString cfg.index) }.nextAttempt cfg

def raceEnded (hedgeEndpoint : EndpointAddr) (result : RelayResult) : Item :=
  match result.err, result.responses with
  | none, resp :: _ =>
    if (cfg.check resp).success then
      { s with phase := .returned { resp with requestID := cfg.requestID } none }
    else
      let s := { s with
        lastResponse := resp
        lastErr := some "hedge response failed heuristic check" }
      let s := s.charge false
        (heuristicFaults cfg resp.endpointAddr (cfg.check resp).heuristicResult)
      let s := if hedgeEndpoint ≠ "" then s.markTried cfg hedgeEndpoint else s
      s.failAttempt cfg (cfg.check resp).heuristicResult
  | _, _ => s.startRelay true

def relayEnded (cut : Bool) (result : RelayResult) : Item :=
  let s := { s with produced := s.produced ++ result.responses }
  match result.err, result.responses with
  | none, resp :: _ =>
    let resp := { resp with requestID := cfg.requestID }
    if (cfg.check resp).success then { s with phase := .returned resp none }
    else
      let s := { s with lastResponse := resp, lastErr := some "response failed heuristic check" }
      (s.charge cut (heuristicFaults cfg resp.endpointAddr (cfg.check resp).heuristicResult ++
          breakFaults cfg s.selected (shouldCircuitBreak cfg.heur (cfg.check resp).heuristicResult
            resp.httpStatusCode none))).failAttempt cfg (cfg.check resp).heuristicResult
  | err, responses =>
    let lastErr := err.getD ("empty response for batch item " ++ toString cfg.index)
    let s := { s with
      lastErr := some lastErr
      lastResponse := match responses with
        | [] => s.lastResponse
        | resp :: _ => { resp with requestID := cfg.requestID } }
    -- a request that is gone says nothing about the domain
    (s.charge cut (breakFaults cfg s.selected (s.clientErr.isNone &&
      shouldCircuitBreak cfg.heur none 0 (some lastErr)))).failAttempt cfg none

def cutFaults : List Fault := if cfg.scored endpointAddr then [.signal endpointAddr .minor] else []

def noteRace (r r' : Racer) : RaceEvent → Item
  | .branchDone _ result => { s with produced := s.produced ++ result.responses }
  | .branchCut isHedge responses _ =>
    { s with produced := s.produced ++ responses }.charge true
      (cutFaults cfg (r.endpointOf isHedge))
  | .delayElapsed _ _ =>
    if r'.hedge = .inFlight then
      { s with starts := s.starts ++ [⟨r'.hedgeEndpoint, r'.cancelled⟩] }
    else s
  | _ => s

def afterRaceStep (r r' : Racer) (event : RaceEvent) : Item :=
  let s := { s.noteRace cfg r r' event with racer := some r' }
  match s.phase, r'.phase with
  | .racing, .returned result => s.raceEnded cfg r'.hedgeEndpoint result
  | _, _ => s

def step (s : Item) : ItemEvent → Option Item
  | .clientDone err => some { s with clientErr := some (s.clientErr.getD err) }
  | .attempt answers =>
    match s.phase with
    | .attempting => some (s.beginAttempt cfg answers)
    | _ => none
  | .race event =>
    match s.racer with
    | none => none
    | some r =>
      (r.step cfg.net cfg.heur cfg.payload s.clientErr event).map
        (fun r' => s.afterRaceStep cfg r r' event)
  | .relayDone result =>
    match s.phase with
    | .relaying _ => some (s.relayEnded cfg false result)
    | _ => none
  | .relayCut responses err =>
    match s.phase with
    | .relaying true =>
      if s.racer.any (fun r => r.cancelled) then
        some ((s.charge true (cutFaults cfg s.selected)).relayEnded cfg true ⟨responses, some err⟩)
      else none
    | _ => none

/-- How an attempt is left: for the next one, or with the error that it has. -/
inductive Leaves (s : Item) (limited : Bool) : Item → Prop where
  | again {failures} (hcount : s.capabilityFailures < capabilityAttemptBudget →
      failures < capabilityAttemptBudget ∧
        s.capabilityFailures + (if limited then 1 else 0) ≤ failures) :
    Leaves s limited
      { s with capabilityFailures := failures, attempt := s.attempt + 1, phase := .attempting }
  | givenUp {failures resp} :
    Leaves s limited { s with capabilityFailures := failures, phase := .returned resp s.lastErr }

/-- What comes of the endpoint that an attempt selects. -/
inductive Uses (s : Item) (filtered : List EndpointAddr) : Item → Prop where
  | unbuilt {err s'} (hleaves : Leaves { s with lastErr := some err } false s') : Uses s filtered s'
  | race (hfirst : s.attempt = 1) : Uses s filtered (s.startRace filtered)
  | relay : Uses s filtered (s.startRelay false)

/-- Every way an attempt begins. -/
inductive Begins (s : Item) (answers : AttemptAnswers) : Item → Prop where
  | clientGone {err} :
    Begins s answers { s with lastErr := some err, phase := .returned s.lastResponse (some err) }
  | unavailable {err s'} (hleaves : Leaves { s with lastErr := some err } false s') :
    Begins s answers s'
  | starved {ep eps s'} (hclient : s.clientErr = none)
    (havailable : answers.available = .ok (ep :: eps))
    (hnone : filterEndpoints cfg.net (answers.validated (ep :: eps)) s.triedEndpoints
      s.triedDomains = []) (hleaves : Leaves s false s') : Begins s answers s'
  | uses {available filtered selected s'} (hclient : s.clientErr = none)
    (havailable : answers.available = .ok available)
    (hfiltered : filterEndpoints cfg.net (answers.validated available) s.triedEndpoints
      s.triedDomains = filtered)
    (hselected : (filtered ≠ [] → answers.rank filtered ∈ filtered) → selected ∈ filtered)
    (huses : Uses (markTried cfg { s with selected := selected } selected) filtered s') :
    Begins s answers s'

/-- Every way the end of a race is taken up. -/
inductive RaceEnds (s : Item) (hedgeEndpoint : EndpointAddr) (result : RelayResult) :
    Item → Prop where
  | passed {resp} (hresp : resp ∈ result.responses) (hpass : (cfg.check resp).success = true) :
    RaceEnds s hedgeEndpoint result
      { s with phase := .returned { resp with requestID := cfg.requestID } none }
  | failed {resp err faults endpoints domains s'} (hanswered : result.answered = true)
    (hfails : result.passes cfg.check = false)
    (htried : hedgeEndpoint ≠ "" → endpoints = hedgeEndpoint :: s.triedEndpoints ∧
      domains = markDomainTried cfg.net s.triedDomains hedgeEndpoint)
    (hsame : hedgeEndpoint = "" → endpoints = s.triedEndpoints ∧ domains = s.triedDomains)
    (hleaves : Leaves { s with
      lastResponse := resp, lastErr := some err, faults := faults, triedEndpoints := endpoints,
      triedDomains := domains } (result.limited cfg.heur cfg.check) s') :
    RaceEnds s hedgeEndpoint result s'
  | unanswered (hunanswered : result.answered = false) (hfails : result.passes cfg.check = false) :
    RaceEnds s hedgeEndpoint result (s.startRelay true)

inductive RelayEnds (s : Item) (cut : Bool) (result : RelayResult) : Item → Prop where
  | passed {resp} (hresp : resp ∈ result.responses) (hpass : (cfg.check resp).success = true) :
    RelayEnds s cut result { s with
      produced := s.produced ++ result.responses
      phase := .returned { resp with requestID := cfg.requestID } none }
  | failed {resp err faults selfInflicted s'} (hcut : cut = false → selfInflicted = s.selfInflicted)
    (hleaves : Leaves { s with
      produced := s.produced ++ result.responses, lastResponse := resp, lastErr := some err,
      faults := faults, selfInflicted := selfInflicted } (result.limited cfg.heur cfg.check) s') :
    RelayEnds s cut result s'

structure Notes (s : Item) (r' : Racer) (event : RaceEvent) (starts : List RelayStart)
    (selfInflicted : List Fault) : Prop where
  starts : event.Adds r' s.starts starts
  selfInflicted : (∀ isHedge responses err, event ≠ .branchCut isHedge responses err) →
    selfInflicted = s.selfInflicted

def noted (event : RaceEvent) (starts : List RelayStart) (selfInflicted : List Fault) : Item :=
  { s with
    racer := some r', starts := starts, produced := s.produced ++ event.responses,
    selfInflicted := selfInflicted }

inductive Races (s : Item) (r' : Racer) (event : RaceEvent) : Item → Prop where
  | running {starts selfInflicted} (hnotes : s.Notes r' event starts selfInflicted)
    (hlive : s.phase = .racing → ∀ result, r'.phase ≠ .returned result) :
    Races s r' event (s.noted r' event starts selfInflicted)
  | ended {starts selfInflicted result s'} (hnotes : s.Notes r' event starts selfInflicted)
    (hp : s.phase = .racing) (hover : r'.phase = .returned result)
    (hends : RaceEnds cfg (s.noted r' event starts selfInflicted) r'.hedgeEndpoint result s') :
    Races s r' event s'

/-- What an event does, in the state that it needs. -/
inductive Moves (s : Item) : ItemEvent → Item → Prop where
  | clientDone {err} :
    Moves s (.clientDone err) { s with clientErr := some (s.clientErr.getD err) }
  | attempt {answers s'} (hp : s.phase = .attempting) (hbegins : Begins cfg s answers s') :
    Moves s (.attempt answers) s'
  | race {event r r' s'} (hracer : s.racer = some r)
    (hmove : r.step cfg.net cfg.heur cfg.payload s.clientErr event = some r')
    (hraces : Races cfg s r' event s') : Moves s (.race event) s'
  | relayDone {result afterRace s'} (hp : s.phase = .relaying afterRace)
    (hends : RelayEnds cfg s false result s') : Moves s (.relayDone result) s'
  | relayCut {responses err selfInflicted s'} (hp : s.phase = .relaying true)
    (hcut : s.racer.any (fun r => r.cancelled) = true)
    (hends : RelayEnds cfg { s with selfInflicted := selfInflicted } true ⟨responses, some err⟩
      s') : Moves s (.relayCut responses err) s'

variable {cfg} {s s' : Item}

theorem start_eq (cfg : ItemConfig) : ∃ phase,
    start cfg = ⟨1, phase, none, .zero, [], cfg.brokenDomains, 0, "", none, none, [], [], [], []⟩ ∧
    (phase = .attempting ∨ ∃ resp, phase = .returned resp none) := by
  rw [start]
  split
  · exact ⟨_, rfl, .inl rfl⟩
  · exact ⟨_, rfl, .inr ⟨_, rfl⟩⟩

theorem leaves_nextAttempt : Leaves s false (s.nextAttempt cfg) := by
  rw [nextAttempt]
  split
  · exact .again fun hless => ⟨hless, le_rfl⟩
  · exact .givenUp

theorem leaves_failAttempt {heuristicResult : Option AnalysisResult} :
    Leaves s (isCapabilityLimitationFailure cfg.heur heuristicResult s.lastErr)
      (s.failAttempt cfg heuristicResult) := by
  unfold failAttempt
  dsimp only
  split
  · exact .givenUp
  · rename_i hleft
    rw [nextAttempt]
    split
    · refine .again fun hless => ?_
      exact (noteCapabilityFailure_spec hless (Bool.eq_false_iff.mpr hleft)).imp_right le_of_eq
    · exact .givenUp

theorem begins_of_eq {answers : AttemptAnswers} (h : s.beginAttempt cfg answers = s') :
    Begins cfg s answers s' := by
  subst h
  unfold beginAttempt
  split
  · exact .clientGone
  · rename_i hclient
    split
    · rename_i havailable
      split
      · exact .starved hclient havailable ‹_› .givenUp
      · rename_i first rest hfiltered
        unfold useEndpoint
        dsimp only
        generalize hselected : (if answers.rank (first :: rest) = "" then first else _) = selected
        have hmem (hrank : first :: rest ≠ [] → answers.rank (first :: rest) ∈ first :: rest) :
            selected ∈ first :: rest := by
          rw [← hselected]
          split
          · exact List.mem_cons_self
          · exact hrank (by simp)
        refine .uses hclient havailable hfiltered hmem ?_
        split
        · exact .unbuilt leaves_nextAttempt
        · split
          · exact .race (And.left ‹_›)
          · exact .relay
    · exact .unavailable leaves_nextAttempt

theorem Leaves.of_limited {limited limited' : Bool} (h : Leaves s limited' s')
    (himp : limited = true → limited' = true) : Leaves s limited s' := by
  cases h with
  | again hcount =>
    refine .again fun hless => ⟨(hcount hless).1, le_trans ?_ (hcount hless).2⟩
    cases limited with
    | true => rw [himp rfl]
    | false => simp
  | givenUp => exact .givenUp

theorem raceEnds_raceEnded {hedgeEndpoint : EndpointAddr} {result : RelayResult} :
    RaceEnds cfg s hedgeEndpoint result (s.raceEnded cfg hedgeEndpoint result) := by
  rcases result with ⟨_ | ⟨resp, rest⟩, _ | err⟩ <;> unfold raceEnded <;> dsimp only
  · exact .unanswered rfl rfl
  · exact .unanswered rfl rfl
  · split
    · exact .passed List.mem_cons_self ‹_›
    · rename_i hfails
      have hlimited (hl : limited cfg.heur cfg.check ⟨resp :: rest, none⟩ = true)
          (err : GoError) : isCapabilityLimitationFailure cfg.heur
          (cfg.check resp).heuristicResult (some err) = true := by
        simp only [limited, Bool.and_eq_true] at hl
        exact isCapabilityLimitationFailure_of_none (.inl hl.2)
      split
      · refine .failed rfl (Bool.eq_false_iff.mpr hfails) (fun _ => ⟨rfl, rfl⟩)
          (fun heq => absurd heq ‹_›) (leaves_failAttempt.of_limited fun hl => hlimited hl _)
      · refine .failed rfl (Bool.eq_false_iff.mpr hfails) (fun hne => absurd hne ‹_›)
          (fun _ => ⟨rfl, rfl⟩) (leaves_failAttempt.of_limited fun hl => hlimited hl _)
  · exact .unanswered rfl rfl

theorem relayEnds_relayEnded {cut : Bool} {result : RelayResult} :
    RelayEnds cfg s cut result (s.relayEnded cfg cut result) := by
  have hfailed {resp : Response} {err : GoError} {faults : List Fault}
      {heuristicResult : Option AnalysisResult}
      (hlimited : result.limited cfg.heur cfg.check = true →
        isCapabilityLimitationFailure cfg.heur heuristicResult (some err) = true) :
      RelayEnds cfg s cut result (({ s with
        produced := s.produced ++ result.responses
        lastResponse := resp
        lastErr := some err }.charge cut faults).failAttempt cfg heuristicResult) := by
    cases cut <;> exact .failed (by simp) (leaves_failAttempt.of_limited hlimited)
  rcases result with ⟨_ | ⟨resp, rest⟩, _ | err⟩ <;> unfold relayEnded <;> dsimp only
  · exact hfailed (by simp [limited])
  · exact hfailed fun hl => hl
  · split
    · exact .passed List.mem_cons_self ‹_›
    · refine hfailed fun hl => ?_
      simp only [limited, Bool.and_eq_true] at hl
      exact isCapabilityLimitationFailure_of_none (.inl hl.2)
  · exact hfailed fun hl => isCapabilityLimitationFailure_of_none (.inr hl)

theorem races_afterRaceStep {r r' : Racer} {event : RaceEvent} :
    Races cfg s r' event (s.afterRaceStep cfg r r' event) := by
  obtain ⟨starts, selfInflicted, hnotes, heq⟩ : ∃ starts selfInflicted,
      s.Notes r' event starts selfInflicted ∧ { s.noteRace cfg r r' event with racer := some r' } =
        s.noted r' event starts selfInflicted := by
    cases event with
    | delayElapsed rank buildErr =>
      rw [noteRace]
      split
      · exact ⟨_, _, ⟨.inr ⟨⟨rank, buildErr, rfl⟩, ‹_›, rfl⟩, fun _ => rfl⟩,
          by simp [noted, RaceEvent.responses]⟩
      · exact ⟨_, _, ⟨.inl rfl, fun _ => rfl⟩, by simp [noted, RaceEvent.responses]⟩
    | branchCut => exact ⟨_, _, ⟨.inl rfl, by simp⟩, rfl⟩
    | branchDone => exact ⟨_, _, ⟨.inl rfl, fun _ => rfl⟩, rfl⟩
    | _ => exact ⟨_, _, ⟨.inl rfl, fun _ => rfl⟩, by simp [noted, noteRace, RaceEvent.responses]⟩
  rw [afterRaceStep, heq]
  split
  · exact .ended hnotes ‹_› ‹_› raceEnds_raceEnded
  · rename_i hnot
    exact .running hnotes fun hp result hover => hnot result hp hover

theorem moves_of_step {event : ItemEvent} (hstep : s.step cfg event = some s') :
    Moves cfg s event s' := by
  cases event <;> simp only [step] at hstep
  case clientDone err =>
    cases hstep
    exact .clientDone
  case race event =>
    split at hstep
    · cases hstep
    · rename_i r hracer
      obtain ⟨r', hmove, rfl⟩ := Option.map_eq_some_iff.mp hstep
      exact .race hracer hmove races_afterRaceStep
  case relayCut responses err =>
    split at hstep
    · rename_i hp
      obtain ⟨hcut, heq⟩ := Option.ite_none_right_eq_some.mp hstep
      cases heq
      exact .relayCut hp hcut relayEnds_relayEnded
    · cases hstep
  case attempt answers =>
    split at hstep
    · cases hstep
      exact .attempt ‹_› (begins_of_eq rfl)
    · cases hstep
  case relayDone result =>
    split at hstep
    · cases hstep
      exact .relayDone ‹_› relayEnds_relayEnded
    · cases hstep

end Item

end PathGateway
