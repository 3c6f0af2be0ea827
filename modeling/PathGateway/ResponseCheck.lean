import Mathlib.Algebra.Order.Field.Rat
import PathGateway.Endpoint

/-! What a relay answers and how the gateway judges it: whether the response counts as a
success, whether a failure breaks the domain, and whether it is a capability limitation. -/

namespace PathGateway

abbrev GoError := String

structure Payload where
  data : String
  path : String
  rpcType : RPCType
  originalRPCType : RPCType
  jsonrpcMethod : String
  deriving DecidableEq, Repr

def Payload.effectiveRPCType (payload : Payload) : RPCType :=
  if payload.originalRPCType ≠ .unknownRPC then payload.originalRPCType else payload.rpcType

def Payload.methodOrPath (payload : Payload) : String :=
  if payload.jsonrpcMethod = "" then payload.path else payload.jsonrpcMethod

structure Response where
  bytes : String
  httpStatusCode : Int
  endpointAddr : EndpointAddr
  requestID : String
  deriving DecidableEq, Repr

def Response.zero : Response := ⟨"", 0, "", ""⟩

structure RelayResult where
  responses : List Response
  err : Option GoError
  deriving DecidableEq, Repr

structure AnalysisResult where
  shouldRetry : Bool
  confidence : ℚ
  reason : String
  matchedPattern : String
  deriving DecidableEq

/-- The response heuristics and the id of a JSON-RPC request. Every result of the
development holds for any such functions. -/
structure Heuristics where
  analyze : String → Int → RPCType → String → AnalysisResult
  checkRequestIDMismatch : String → String → Option AnalysisResult
  isCapabilityLimitationError : String → Bool
  isOverServicedError : String → Bool
  isProviderAuthError : String → Bool
  errorContainsArchivalPattern : String → Bool
  jsonID : String → String

def calmHeuristics : Heuristics where
  analyze _ _ _ _ := ⟨false, 0, "", ""⟩
  checkRequestIDMismatch _ _ := none
  isCapabilityLimitationError _ := false
  isOverServicedError _ := false
  isProviderAuthError _ := false
  errorContainsArchivalPattern _ := false
  jsonID _ := "1"

variable (heur : Heuristics)

def extractRequestIDFromPayload (payload : Payload) : String :=
  if payload.data = "" then "" else heur.jsonID payload.data

structure ResponseCheckResult where
  success : Bool
  heuristicResult : Option AnalysisResult

variable (heuristicResult : Option AnalysisResult) (err : Option GoError)

def checkResponseSuccess (statusCode : Int) (responseBytes : String)
    (heuristicRPCType : RPCType) (jsonrpcMethod requestID : String) : ResponseCheckResult :=
  if err.isSome then ⟨false, none⟩
  else if ¬(statusCode = 0 ∨ 200 ≤ statusCode ∧ statusCode < 300) then ⟨false, none⟩
  else
    let result := heur.analyze responseBytes statusCode heuristicRPCType jsonrpcMethod
    if result.shouldRetry then ⟨false, some result⟩
    else if requestID ≠ "" ∧ heuristicRPCType = .jsonRPC then
      match heur.checkRequestIDMismatch responseBytes requestID with
      | some idResult => ⟨false, some idResult⟩
      | none => ⟨true, none⟩
    else ⟨true, none⟩

def checkResponse (payload : Payload) (resp : Response) : ResponseCheckResult :=
  checkResponseSuccess heur none resp.httpStatusCode resp.bytes payload.effectiveRPCType
    payload.methodOrPath (extractRequestIDFromPayload heur payload)

def shouldCircuitBreak (httpStatusCode : Int) (lastErr : Option GoError) : Bool :=
  if 400 ≤ httpStatusCode ∧ httpStatusCode < 500 then false
  else
    match heuristicResult, lastErr with
    | some r, _ =>
      !(r.matchedPattern ≠ "" && heur.isCapabilityLimitationError r.matchedPattern) &&
        !(r.matchedPattern ≠ "" && heur.isOverServicedError r.matchedPattern)
    | none, some err => !heur.errorContainsArchivalPattern err && !heur.isOverServicedError err
    | none, none => true

def capabilityAttemptBudget : Nat := 2

def isCapabilityLimitationFailure : Bool :=
  heuristicResult.any (fun r =>
    r.matchedPattern ≠ "" && heur.isCapabilityLimitationError r.matchedPattern) ||
    err.any heur.errorContainsArchivalPattern

def noteCapabilityFailure (capabilityFailures : Nat) (heuristicResult : Option AnalysisResult)
    (err : Option GoError) : Nat × Bool :=
  if isCapabilityLimitationFailure heur heuristicResult err then
    (capabilityFailures + 1, decide (capabilityAttemptBudget ≤ capabilityFailures + 1))
  else (capabilityFailures, false)

variable {heur} in
theorem noteCapabilityFailure_spec {failures : ℕ} {heuristicResult : Option AnalysisResult}
    {err : Option GoError} (hless : failures < capabilityAttemptBudget)
    (hleft : (noteCapabilityFailure heur failures heuristicResult err).2 = false) :
    (noteCapabilityFailure heur failures heuristicResult err).1 < capabilityAttemptBudget ∧
    failures + (if isCapabilityLimitationFailure heur heuristicResult err then 1
      else 0) = (noteCapabilityFailure heur failures heuristicResult err).1 := by
  cases hcap : isCapabilityLimitationFailure heur heuristicResult err with
  | true =>
    simp only [noteCapabilityFailure, hcap, if_true, decide_eq_false_iff_not, not_le] at hleft ⊢
    exact ⟨hleft, trivial⟩
  | false =>
    simp only [noteCapabilityFailure, hcap, Bool.false_eq_true, if_false] at hleft ⊢
    exact ⟨hless, rfl⟩

variable {heur} in
theorem isCapabilityLimitationFailure_of_none {heuristicResult : Option AnalysisResult}
    {err : Option GoError} (h : isCapabilityLimitationFailure heur heuristicResult none = true ∨
    isCapabilityLimitationFailure heur none err = true) :
    isCapabilityLimitationFailure heur heuristicResult err = true := by
  simp only [isCapabilityLimitationFailure, Option.any_none, Bool.or_false, Bool.false_or,
    Bool.or_eq_true] at h ⊢
  exact h

namespace RelayResult

variable (check : Response → ResponseCheckResult)

def limited (result : RelayResult) : Bool :=
  match result.err, result.responses with
  | some err, _ => isCapabilityLimitationFailure heur none (some err)
  | none, resp :: _ => !(check resp).success &&
    isCapabilityLimitationFailure heur (check resp).heuristicResult none
  | none, [] => false

def passes (result : RelayResult) : Bool :=
  match result.err, result.responses with
  | none, resp :: _ => (check resp).success
  | _, _ => false

end RelayResult

inductive Severity where
  | minor
  | major
  | critical
  deriving DecidableEq, Repr

def isDeceptiveResponsePattern (reason : String) : Bool :=
  ["jsonrpc_invalid_empty_array", "jsonrpc_empty_object_result", "rest_protocol_mismatch",
    "cometbft_invalid_empty_array", "jsonrpc_fabricated_parse_error",
    "jsonrpc_wrapped_service_error", "jsonrpc_id_mismatch"].contains reason

def heuristicSignal (r : AnalysisResult) : Option Severity :=
  if r.matchedPattern ≠ "" && heur.isCapabilityLimitationError r.matchedPattern then none
  else if r.matchedPattern ≠ "" && heur.isOverServicedError r.matchedPattern then none
  else if 95 / 100 ≤ r.confidence then
    if isDeceptiveResponsePattern r.reason || heur.isProviderAuthError r.matchedPattern then
      some .critical
    else some .major
  else some .minor

end PathGateway
