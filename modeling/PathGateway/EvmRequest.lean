import PathGateway.BatchRequest
import PathGateway.EvmSelection
import PathGateway.ResponseCheck

/-! Validation of the requests to the EVM service. A single request is classified by the block
it asks for; a batch is not looked into. -/

namespace PathGateway

namespace Json

mutual

def compact : Json → String
  | null => "null"
  | bool b => toString b
  | int n => n.repr
  | decimal text => text
  | string s => "\"" ++ s ++ "\""
  | array values => "[" ++ ",".intercalate (compactValues values) ++ "]"
  | object fields => "\x7b" ++ ",".intercalate (compactFields fields) ++ "\x7d"

def compactValues : List Json → List String
  | [] => []
  | v :: vs => v.compact :: compactValues vs

def compactFields : List (String × Json) → List String
  | [] => []
  | (name, v) :: fields => ("\"" ++ name ++ "\":" ++ v.compact) :: compactFields fields

end

def follow : List String → Json → Option Json
  | [], v => some v
  | name :: path, object fields =>
    (fields.find? (fun field => field.1 = name)).bind (fun field => follow path field.2)
  | index :: path, array values =>
    (values.zipIdx.find? (fun e => toString e.2 = index)).bind (fun e => follow path e.1)
  | _ :: _, _ => none

/-- A value as text: a string without its quotes, and nothing for null. -/
def plain : Json → String
  | null => ""
  | string s => s
  | v => v.compact

end Json

/-- Bodies with their bytes and the query library on them. -/
structure BodyLib (β : Type) extends JSONLib β where
  text : β → String
  query : β → String → Option String

def BodyLib.raw : BodyLib RawText where
  toJSONLib := JSONLib.raw
  text t := (t.value.map Json.compact).getD ""
  query t path := (t.value.bind (Json.follow (GoStrings.split '.' path))).map Json.plain

namespace JsonRPC

def Request.marshal (r : Request) : Json :=
  .object ([("jsonrpc", .string r.jsonrpc), ("method", .string r.method)] ++
    r.params.toList.map (fun v => ("params", v)) ++ [("id", r.id.marshal)])

def Request.buildPayload {β : Type} (lib : BodyLib β) (r : Request) : Payload where
  data := lib.text (lib.render r.marshal)
  path := ""
  rpcType := .jsonRPC
  originalRPCType := .unknownRPC
  jsonrpcMethod := r.method

end JsonRPC

namespace Evm

open JsonRPC

inductive BlockTag where
  | latest
  | pending
  | earliest
  | safe
  | finalized
  deriving DecidableEq, Repr

def BlockTag.ofString (s : String) : Option BlockTag :=
  [("latest", latest), ("pending", pending), ("earliest", earliest), ("safe", safe),
    ("finalized", finalized)].lookup s

structure MethodBlockParamInfo where
  paramIndex : ℕ
  isObject : Bool := false
  objectKey : String := ""

def evmMethodBlockParams : List (String × MethodBlockParamInfo) :=
  [("eth_getBalance", { paramIndex := 1 }),
    ("eth_getTransactionCount", { paramIndex := 1 }),
    ("eth_getCode", { paramIndex := 1 }),
    ("eth_call", { paramIndex := 1 }),
    ("eth_estimateGas", { paramIndex := 1 }),
    ("eth_getStorageAt", { paramIndex := 2 }),
    ("eth_getProof", { paramIndex := 2 }),
    ("eth_getBlockByNumber", { paramIndex := 0 }),
    ("eth_getBlockTransactionCountByNumber", { paramIndex := 0 }),
    ("eth_getUncleCountByBlockNumber", { paramIndex := 0 }),
    ("eth_getUncleByBlockNumberAndIndex", { paramIndex := 0 }),
    ("eth_getTransactionByBlockNumberAndIndex", { paramIndex := 0 }),
    ("eth_getLogs", { paramIndex := 0, isObject := true, objectKey := "fromBlock" }),
    ("eth_newFilter", { paramIndex := 0, isObject := true, objectKey := "fromBlock" })]

structure ArchivalHeuristicResult where
  requiresArchival : Bool := false
  reason : String := ""
  requestedBlock : ℕ := 0
  blockTag : Option BlockTag := none
  method : String := ""
  deriving DecidableEq, Repr

structure ArchivalHeuristic where
  archivalThreshold : ℕ

def defaultArchivalThreshold : ℕ := 128

def newArchivalHeuristic (threshold : ℕ) : ArchivalHeuristic :=
  ⟨if threshold = 0 then defaultArchivalThreshold else threshold⟩

def hexDigit (c : Char) : Option ℕ :=
  if '0' ≤ c ∧ c ≤ '9' then some (c.toNat - '0'.toNat)
  else if 'a' ≤ c ∧ c ≤ 'f' then some (c.toNat - 'a'.toNat + 10)
  else if 'A' ≤ c ∧ c ≤ 'F' then some (c.toNat - 'A'.toNat + 10)
  else none

def parseUintHex (s : List Char) : Option ℕ :=
  if s = [] then none
  else (s.foldlM (fun n c => (hexDigit c).map (n * 16 + ·)) 0).filter (· < 2 ^ 64)

def trimStart (p s : List Char) : List Char :=
  if p.isPrefixOf s then s.drop p.length else s

def parseBlockNumber (blockParam : String) : Option ℕ :=
  parseUintHex (trimStart ['0', 'X'] (trimStart ['0', 'x'] blockParam.toList))

section Validate

variable {β : Type} (net : NetLib) (lib : BodyLib β)

def extractBlockParam (requestBody : β) (info : MethodBlockParamInfo) : String :=
  let path := "params." ++ toString info.paramIndex
  (lib.query requestBody (if info.isObject then path ++ "." ++ info.objectKey else path)).getD ""

def analyzeBlockParam (h : ArchivalHeuristic) (blockParam : String) (perceivedBlock : ℕ)
    (method : String) : ArchivalHeuristicResult :=
  match BlockTag.ofString (net.toLower blockParam) with
  | some .earliest =>
    { requiresArchival := true, reason := "block_tag_earliest", method := method,
      blockTag := some .earliest }
  | some tag => { reason := "block_tag_current", method := method, blockTag := some tag }
  | none =>
    match parseBlockNumber blockParam with
    | none => { reason := "block_param_parse_error", method := method }
    | some requestedBlock =>
      if perceivedBlock = 0 then
        { reason := "no_perceived_block", method := method, requestedBlock := requestedBlock }
      else if requestedBlock < perceivedBlock ∧
          h.archivalThreshold < perceivedBlock - requestedBlock then
        { requiresArchival := true, reason := "block_behind_threshold", method := method,
          requestedBlock := requestedBlock }
      else
        { reason := "block_within_threshold", method := method, requestedBlock := requestedBlock }

def isArchivalRequest (h : ArchivalHeuristic) (requestBody : β) (perceivedBlock : ℕ) :
    ArchivalHeuristicResult :=
  if (lib.text requestBody).utf8ByteSize < 10 then { reason := "request_too_short" }
  else
    match lib.query requestBody "method" with
    | none => { reason := "no_method_field" }
    | some method =>
      match evmMethodBlockParams.lookup method with
      | none => { reason := "method_no_block_param", method := method }
      | some blockInfo =>
        let blockParam := extractBlockParam lib requestBody blockInfo
        if blockParam = "" then
          { reason := "no_block_param_defaults_latest", method := method,
            blockTag := some .latest }
        else analyzeBlockParam net h blockParam perceivedBlock method

structure RequestContext where
  requestPayloadLength : ℕ
  servicePayloads : GoMap IDRef Payload
  isBatch : Bool
  archivalResult : ArchivalHeuristicResult

def RequestContext.getServicePayloads (ctx : RequestContext) : List Payload :=
  ctx.servicePayloads.entries.map Sigma.snd

def RequestContext.requiresArchival (ctx : RequestContext) : Bool :=
  ctx.archivalResult.requiresArchival

inductive ValidationFailure where
  | readHTTPBody (err : GoError)
  | unmarshal (err : RequestError)

def maxRequestBodySize : ℕ := 100 * 1024 * 1024

def readBody (body : Except GoError β) : Except GoError β := do
  let body ← body
  if maxRequestBodySize < (lib.text body).utf8ByteSize then
    .error ("request body exceeds " ++ toString maxRequestBodySize ++ " bytes limit")
  else .ok body

def validateHTTPRequest (archivalHeuristic : Option ArchivalHeuristic) (ss : ServiceState)
    (body : Except GoError β) : Except ValidationFailure RequestContext := do
  let body ← (readBody lib body).mapError .readHTTPBody
  let (jsonrpcReqs, isBatch) ←
    (parseJSONRPCFromRequestBody lib.toJSONLib body).mapError .unmarshal
  let archivalResult : ArchivalHeuristicResult :=
    match archivalHeuristic, isBatch with
    | some h, false => isArchivalRequest net lib h body ss.perceivedBlockNumber
    | _, _ => {}
  return {
    requestPayloadLength := (lib.text body).utf8ByteSize
    servicePayloads := GoMap.mapValues (Request.buildPayload lib) jsonrpcReqs
    isBatch := isBatch
    archivalResult := archivalResult }

end Validate

section Batch

variable {β : Type} {net : NetLib} {lib : BodyLib β} {archivalHeuristic : Option ArchivalHeuristic}
  {ss : ServiceState} {body : Except GoError β} {ctx : RequestContext}

theorem validateHTTPRequest_eq_ok
    (h : validateHTTPRequest net lib archivalHeuristic ss body = .ok ctx) :
    ∃ text reqs, body = .ok text ∧
    parseJSONRPCFromRequestBody lib.toJSONLib text = .ok (reqs, ctx.isBatch) ∧
    ctx.servicePayloads = GoMap.mapValues (Request.buildPayload lib) reqs ∧
    (ctx.isBatch = true → ctx.archivalResult = {}) := by
  rw [validateHTTPRequest] at h
  cases hread : readBody lib body with
  | error => simp [hread, Except.mapError, bind, Except.bind] at h
  | ok text =>
    have hbody : body = .ok text := by
      cases body with
      | error => cases hread
      | ok =>
        simp only [readBody, bind, Except.bind] at hread
        split at hread
        · cases hread
        · rw [hread]
    cases hparse : parseJSONRPCFromRequestBody lib.toJSONLib text with
    | error => simp [hread, hparse, Except.mapError, bind, Except.bind] at h
    | ok parsed =>
      simp only [hread, hparse, Except.mapError, bind, Except.bind, pure, Except.pure,
        Except.ok.injEq] at h
      subst h
      refine ⟨text, parsed.1, hbody, hparse, rfl, fun hbatch => ?_⟩
      dsimp only at hbatch ⊢
      rw [hbatch]
      cases archivalHeuristic <;> rfl

theorem requiresArchival_of_isBatch
    (h : validateHTTPRequest net lib archivalHeuristic ss body = .ok ctx)
    (hbatch : ctx.isBatch = true) : ctx.requiresArchival = false := by
  obtain ⟨_, _, -, -, -, hresult⟩ := validateHTTPRequest_eq_ok h
  rw [RequestContext.requiresArchival, hresult hbatch]

end Batch

end Evm

end PathGateway
