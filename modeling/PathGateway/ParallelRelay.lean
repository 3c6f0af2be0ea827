import PathGateway.BatchItem

/-! Parallel relays: one worker for each protocol context, with its own retries, and a
collector that returns at the first result without an error. The answers each branch gets
are data; the machine interleaves the workers, the collector and the end of the context. -/

namespace PathGateway

structure RelayAnswer where
  responses : List Response
  err : Option GoError
  deadlineExceeded : Bool
  duration : Int

namespace RelayAnswer

def first (a : RelayAnswer) : Response := a.responses.headD .zero

end RelayAnswer

structure RotationAnswers where
  available : Except GoError (List EndpointAddr)
  requiresArchival : Bool
  selectMultipleWithArchival : List EndpointAddr → Except GoError (List EndpointAddr)
  rank : List EndpointAddr → EndpointAddr
  buildErr : Option GoError

def RotationAnswers.archival (a : RotationAnswers) (endpoints : List EndpointAddr) :
    List EndpointAddr :=
  if a.requiresArchival then
    match a.selectMultipleWithArchival endpoints with
    | .ok (ep :: eps) => ep :: eps
    | _ => endpoints
  else endpoints

/-- All that the environment answers to one branch, by attempt. -/
structure BranchAnswers where
  brokenDomains : List String
  relay : Nat → RelayAnswer
  rotation : Nat → RotationAnswers

structure ParallelConfig where
  net : NetLib
  heur : Heuristics
  payload : Payload
  retryConfig : Option RetryConfig
  circuitBreaker : Bool
  branches : List BranchAnswers

def shouldRetry (net : NetLib) (a : RelayAnswer) (retryConfig : Option RetryConfig)
    (heuristicResult : Option AnalysisResult) : Bool :=
  match retryConfig with
  | none => false
  | some rc =>
    if rc.enabled ≠ some true then false
    else if rc.maxRetryLatency.any (fun d => decide (0 < d) && decide (d < a.duration)) then false
    else if rc.retryOn5xx = some true ∧
        500 ≤ a.first.httpStatusCode ∧ a.first.httpStatusCode < 600 then true
    else if heuristicResult.any (fun r => r.shouldRetry) then true
    else
      match a.err with
      | none => false
      | some err =>
        let errMsg := net.toLower err
        (rc.retryOnTimeout == some true &&
          (a.deadlineExceeded || GoStrings.contains errMsg "timeout")) ||
        (rc.retryOnConnection == some true &&
          (["connection", "dial", "network", "no response", "empty response",
            "failed to receive", "no endpoints"].any (GoStrings.contains errMsg) ||
          a.first.httpStatusCode == 0))

structure Rotation where
  current : EndpointAddr
  triedEndpoints : List EndpointAddr
  triedDomains : List String
  deriving DecidableEq, Repr

namespace ParallelConfig

variable (cfg : ParallelConfig) (b : BranchAnswers)

def maxAttempts : Int := RetryConfig.maxAttempts cfg.retryConfig

def check (a : RelayAnswer) : ResponseCheckResult :=
  checkResponseSuccess cfg.heur a.err a.first.httpStatusCode a.first.bytes
    cfg.payload.effectiveRPCType cfg.payload.methodOrPath a.first.requestID

def retries (attempt : Nat) : Bool :=
  decide ((attempt : Int) < cfg.maxAttempts) && (b.relay attempt).first.endpointAddr ≠ "" &&
    shouldRetry cfg.net (b.relay attempt) cfg.retryConfig
      (cfg.check (b.relay attempt)).heuristicResult

def firstRotation : Rotation := ⟨"", [], if cfg.circuitBreaker then b.brokenDomains else []⟩

end ParallelConfig

namespace Rotation

def learn (t : Rotation) (attempt : Nat) (a : RelayAnswer) : Rotation :=
  if attempt = 1 ∧ a.responses ≠ [] then { t with current := a.first.endpointAddr } else t

def next (cfg : ParallelConfig) (answers : RotationAnswers) (t : Rotation) : Option Rotation :=
  let triedEndpoints := t.current :: t.triedEndpoints
  let triedDomains := markDomainTried cfg.net t.triedDomains t.current
  match answers.available with
  | .ok (ep :: eps) =>
    match filterEndpoints cfg.net (answers.archival (ep :: eps)) triedEndpoints triedDomains with
    | [] => none
    | filtered =>
      if answers.rank filtered = "" ∨ answers.buildErr.isSome then none
      else some ⟨answers.rank filtered, triedEndpoints, triedDomains⟩
  | _ => none

end Rotation

structure ParallelRelayResult where
  responses : List Response
  err : Option GoError
  index : Nat
  checked : Bool
  deriving DecidableEq, Repr

inductive WorkerPhase where
  | looping
  | relaying
  | delaying
  | closing
  | sending (result : ParallelRelayResult)
  | finished
  deriving DecidableEq, Repr

structure Worker where
  attempt : Nat
  phase : WorkerPhase
  rotation : Rotation
  lastErr : Option GoError
  lastResponses : List Response
  lastHeuristicResult : Option AnalysisResult
  lastStatusCode : Int
  faults : List Fault

structure WorkerMove where
  worker : Worker
  updates : List Response
  sent : Option ParallelRelayResult

namespace Worker

variable (cfg : ParallelConfig) (b : BranchAnswers)

def start : Worker :=
  ⟨1, if 1 ≤ cfg.maxAttempts then .looping else .closing, cfg.firstRotation b, none, [], none, 0,
    []⟩

variable (index : Nat) (w : Worker)

def breakFaults : List Fault :=
  if cfg.circuitBreaker ∧
      shouldCircuitBreak cfg.heur w.lastHeuristicResult w.lastStatusCode w.lastErr = true then
    Fault.ofBreak cfg.net w.rotation.current
  else []

def beginAttempt : Worker :=
  if w.attempt = 1 then { w with phase := .relaying }
  else
    let w := { w with faults := w.faults ++ w.breakFaults cfg }
    match w.rotation.next cfg (b.rotation w.attempt) with
    -- no result is sent from here
    | none => { w with phase := .finished }
    | some t => { w with rotation := t, phase := .relaying }

def noteFailure (a : RelayAnswer) : Worker :=
  { w with
    faults := w.faults ++ if a.first.endpointAddr = "" then [] else
      Fault.ofHeuristics cfg.heur a.first.endpointAddr (cfg.check a).heuristicResult
    lastErr := a.err
    lastResponses := a.responses
    lastHeuristicResult := (cfg.check a).heuristicResult
    lastStatusCode := a.first.httpStatusCode }

def relayEnded : WorkerMove :=
  let a := b.relay w.attempt
  let w := { w with rotation := w.rotation.learn w.attempt a }
  if (cfg.check a).success then
    ⟨{ w with phase := .sending ⟨a.responses, none, index, true⟩ }, [], none⟩
  else if cfg.retries b w.attempt then
    ⟨{ w.noteFailure cfg a with phase := .delaying }, a.responses, none⟩
  else ⟨{ w.noteFailure cfg a with phase := .closing }, a.responses, none⟩

def advance : Option WorkerMove :=
  match w.phase with
  | .looping => some ⟨w.beginAttempt cfg b, [], none⟩
  | .relaying => some (w.relayEnded cfg b index)
  | .delaying => some ⟨{ w with attempt := w.attempt + 1, phase := .looping }, [], none⟩
  | .closing =>
    some ⟨{ w with phase := .sending ⟨w.lastResponses, w.lastErr, index, false⟩ },
      if w.lastErr.isSome then w.lastResponses else [], none⟩
  | .sending result => some ⟨{ w with phase := .finished }, [], some result⟩
  | .finished => none

def cut : Option Worker :=
  match w.phase with
  | .looping | .delaying | .sending _ => some { w with phase := .finished }
  | _ => none

end Worker

inductive ContextErr where
  | deadlineExceeded
  | canceled
  | unknown
  deriving DecidableEq, Repr

def errText (err : Option GoError) : String := err.getD "%!w(<nil>)"

def handleAllRequestsFailed (lastErr : Option GoError) : GoError :=
  "all parallel relay requests failed, last error: " ++ errText lastErr

def handleContextDone (ctxErr : ContextErr) (totalDuration : Nat) (numCompleted : Nat)
    (lastErr : Option GoError) : GoError :=
  let reason := match ctxErr with
    | .deadlineExceeded => "timed out"
    | .canceled => "canceled by client"
    | .unknown => "canceled (unknown)"
  "parallel relay requests " ++ reason ++ " after " ++ toString totalDuration ++ "ms and " ++
    toString numCompleted ++ " completed requests, last error: " ++ errText lastErr

inductive CollectorPhase where
  | waiting
  | returned (err : Option GoError)
  deriving DecidableEq, Repr

structure Parallel where
  workers : List Worker
  resultChan : List ParallelRelayResult
  ctxErr : Option ContextErr
  collector : CollectorPhase
  lastErr : Option GoError
  numCompletedSuccessfully : Nat
  numFailedOrErrored : Nat
  received : List ParallelRelayResult
  updates : List Response

inductive ParallelEvent where
  | work (index : Nat)
  | cut (index : Nat)
  | contextDone (err : ContextErr)
  | receive
  | giveUp (totalDuration : Nat)

namespace Parallel

variable (cfg : ParallelConfig)

variable (s : Parallel) (result : ParallelRelayResult)

def collect : Parallel :=
  { s with collector :=
      if s.numCompletedSuccessfully < cfg.branches.length then .waiting
      else .returned (some (handleAllRequestsFailed s.lastErr)) }

def start : Parallel :=
  collect cfg ⟨cfg.branches.map (Worker.start cfg), [], none, .waiting, none, 0, 0, [], []⟩

def handleSuccessfulResponse : Parallel :=
  { s with
    numCompletedSuccessfully := s.numCompletedSuccessfully + 1
    updates := s.updates ++ result.responses
    collector := .returned none }

def handleFailedResponse : Parallel :=
  { s with numFailedOrErrored := s.numFailedOrErrored + 1, lastErr := result.err }

def receiveResult : Parallel :=
  match result.err with
  | none => s.handleSuccessfulResponse result
  | some _ => (s.handleFailedResponse result).collect cfg

def applyMove (index : Nat) (move : WorkerMove) : Parallel :=
  { s with
    workers := s.workers.set index move.worker
    updates := s.updates ++ move.updates
    resultChan := s.resultChan ++ move.sent.toList }

def step : ParallelEvent → Option Parallel
  | .work index =>
    match s.workers[index]?, cfg.branches[index]? with
    | some w, some b =>
      -- the head of the loop goes on only in a live context
      if w.phase = .looping ∧ s.ctxErr.isSome then none
      else
        match w.advance cfg b index with
        | none => none
        | some move =>
          if (s.resultChan ++ move.sent.toList).length ≤ cfg.branches.length then
            some (s.applyMove index move)
          else none
    | _, _ => none
  | .cut index =>
    match s.workers[index]?, s.ctxErr with
    | some w, some _ => w.cut.map (fun w' => { s with workers := s.workers.set index w' })
    | _, _ => none
  | .contextDone err => some { s with ctxErr := some (s.ctxErr.getD err) }
  | .receive =>
    match s.collector, s.resultChan with
    | .waiting, result :: rest =>
      some (receiveResult cfg
        { s with resultChan := rest, received := s.received ++ [result] } result)
    | _, _ => none
  | .giveUp totalDuration =>
    match s.collector, s.ctxErr with
    | .waiting, some err =>
      some { s with collector := .returned (some
        (handleContextDone err totalDuration s.numCompletedSuccessfully s.lastErr)) }
    | _, _ => none

end Parallel

end PathGateway
