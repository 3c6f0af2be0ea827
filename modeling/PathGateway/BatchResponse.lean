import PathGateway.GoMap
import PathGateway.JsonRPC

/-! How the responses recorded for a batch are made into one array: surplus responses are
dropped, missing ones are filled in, and the outcome is checked against the requests. -/

namespace PathGateway

namespace JsonRPC

variable {β : Type} (lib : JSONLib β)

def responseIDOf (raw : β) : Option ID := (lib.parse raw).bind responseID

inductive Slot where
  | dropped
  | wildcard
  | answers (key : String)
  deriving DecidableEq

def Slot.key : Slot → Option String
  | answers key => some key
  | _ => none

def countPending (requestIDs : List ID) : GoMap String Nat :=
  requestIDs.foldl (fun m id => m.insert id.string ((m.lookup id.string).getD 0 + 1)) ∅

def representative (requestIDs : List ID) : GoMap String ID :=
  requestIDs.foldl (fun m id => m.insert id.string id) ∅

def nullKey : String := ID.unset.string

def slots (nullRequests : Nat) : Nat → List β → List Slot
  | _, [] => []
  | n, r :: rs =>
    match responseIDOf lib r with
    | none =>
      (if (lib.parse r).isSome then .wildcard else .dropped) :: slots nullRequests n rs
    | some id =>
      if id.isEmpty && decide (nullRequests ≤ n) then .wildcard :: slots nullRequests n rs
      else
        .answers id.string ::
          slots nullRequests (if id.string = nullKey then n + 1 else n) rs

def trim : (String → Nat) → List (β × Slot) → List (β × Slot)
  | _, [] => []
  | surplus, (_, .dropped) :: rest => trim surplus rest
  | surplus, (r, .wildcard) :: rest => (r, .wildcard) :: trim surplus rest
  | surplus, (r, .answers key) :: rest =>
    if 0 < surplus key then trim (Function.update surplus key (surplus key - 1)) rest
    else (r, .answers key) :: trim surplus rest

structure Reading (β : Type) where
  requestIDs : List ID
  responses : List β
  slots : List Slot

def read (requestIDs : List ID) (responses : List β) : Reading β where
  requestIDs := requestIDs
  responses := responses
  slots := slots lib (((countPending requestIDs).lookup nullKey).getD 0) 0 responses

namespace Reading

variable (b : Reading β)

def wildcards : Nat := b.slots.count .wildcard

def pending (key : String) : Nat := ((countPending b.requestIDs).lookup key).getD 0

def answered (key : String) : Nat := b.slots.count (.answers key)

def kept : List (β × Slot) :=
  trim (fun key => b.answered key - b.pending key) (b.responses.zip b.slots)

def missing : List String :=
  ((countPending b.requestIDs).entries.flatMap (fun e =>
    List.replicate (e.2 - b.answered e.1) e.1)).insertionSort (· ≤ ·)

def filled : List β :=
  (b.missing.drop b.wildcards).map (fun key =>
    lib.render (errResponseNoEndpointResponse
      (((representative b.requestIDs).lookup key).getD .unset)))

end Reading

variable (responses : List β) (requestIDs : List ID)

def reconcileBatchResponses : List β :=
  let b := read lib requestIDs responses
  b.kept.map Prod.fst ++ b.filled lib

inductive BatchError where
  | lengthMismatch (expected got : Nat) (responseIDs : String)
  | missingIDs (unmatched nullIDs : Nat)
  | marshalFailure
  deriving DecidableEq, Repr

def BatchError.text : BatchError → String
  | lengthMismatch expected got responseIDs =>
    "batch response length mismatch: expected " ++ expected.repr ++ " responses, got " ++
      got.repr ++ " (response ids: " ++ responseIDs ++ ")"
  | missingIDs unmatched nullIDs =>
    "batch response missing required IDs: " ++ unmatched.repr ++
      " request ID(s) have no matching response and only " ++ nullIDs.repr ++
      " null ID response(s) available"
  | marshalFailure => "failed to marshal batch response"

def summarizeResponseIDs : String :=
  let ids := (responses.take 24).map (fun r => ((responseIDOf lib r).map ID.string).getD "?")
  let more := if 24 < responses.length then ["…+" ++ (responses.length - 24).repr] else []
  "[" ++ ",".intercalate (ids ++ more) ++ "]"

def nullIDCount : Nat := responses.countP (fun r => (responseIDOf lib r).all ID.isEmpty)

def matchedRequestIDs : List String :=
  responses.filterMap (fun r =>
    ((responseIDOf lib r).filter (fun id => !id.isEmpty)).bind (fun id =>
      (requestIDs.find? (fun reqID => reqID.equal id)).map ID.string))

def unmatchedCount : Nat :=
  requestIDs.countP (fun id => !(matchedRequestIDs lib responses requestIDs).contains id.string)

def validateAndBuildBatchResponse : Except BatchError β :=
  let responses := reconcileBatchResponses lib responses requestIDs
  if responses.length ≠ requestIDs.length then
    .error (.lengthMismatch requestIDs.length responses.length
      (summarizeResponseIDs lib responses))
  else if nullIDCount lib responses < unmatchedCount lib responses requestIDs then
    .error (.missingIDs (unmatchedCount lib responses requestIDs) (nullIDCount lib responses))
  else if responses.all (fun r => (lib.parse r).isSome) then .ok (lib.joinArray responses)
  else .error .marshalFailure

structure RawEndpointResponse (β : Type) where
  responseBytes : β
  httpStatusCode : Nat

inductive BatchHTTPResponse (β : Type) where
  | batch (payload : β) (httpStatusCode : Nat)
  | batchEmpty
  | batchMarshalFailure (err : BatchError)

def collectResponses (rawResponses : List (RawEndpointResponse β)) : List β :=
  (rawResponses.filter (fun r => !lib.isEmpty r.responseBytes)).map (fun r =>
    lib.trimNewline r.responseBytes)

def getBatchHTTPResponse (rawResponses : List (RawEndpointResponse β)) (requestIDs : List ID) :
    BatchHTTPResponse β :=
  let individualResponses := collectResponses lib rawResponses
  if individualResponses.isEmpty then .batchEmpty
  else
    match validateAndBuildBatchResponse lib individualResponses requestIDs with
    | .error err => .batchMarshalFailure err
    | .ok payload =>
      .batch payload ((rawResponses.head?.map RawEndpointResponse.httpStatusCode).filter
        (fun code => code ≠ 0) |>.getD 200)

end JsonRPC

end PathGateway
