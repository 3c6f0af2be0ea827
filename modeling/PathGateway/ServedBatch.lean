import PathGateway.ContextArchival

/-! Archival requests inside a batch. The validator asks once for the whole HTTP request whether
archival data is needed, and answers no for every batch; all the ways of relaying an item select
its endpoints by that answer. -/

namespace PathGateway.Evm

open Machine Option

/-- How an item of a batch is relayed: not yet or not at all, on its own, alone over the one
context, or with the whole batch over several contexts. -/
inductive Serving where
  | waiting
  | rejected
  | item (s : Route)
  | single (s : SingleRoute)
  | parallel (s : ParallelRoute)

inductive ServingEvent where
  | setUp (setup : Setup) (first : Payload) (branch : ℕ → BranchData)
  | item (event : RouteEvent ItemEvent)
  | single (event : RouteEvent SingleEvent)
  | parallel (event : ParallelEvent)

def Serving.sent : Serving → RelayLog
  | waiting | rejected => []
  | item s => s.sent
  | single s => s.sent
  | parallel s => s.sent

section Items

variable {β : Type}

/-- An item of a batch that was accepted, with the text that it would be on its own. -/
structure BatchItem (gw : BatchGateway) (lib : BodyLib β) where
  service : ServiceState
  body : β
  elements : List Json
  parse_body : lib.parse (lib.trimSpace body) = some (.array elements)
  ctx : RequestContext
  accepted :
    validateHTTPRequest gw.evm.net lib gw.archivalHeuristic service (.ok body) = .ok ctx
  index : ℕ
  payload : Payload
  payload_mem : payload ∈ ctx.getServicePayloads
  own : β
  parse_own : ∃ element ∈ elements, lib.parse (lib.trimSpace own) = some element
  ownCtx : RequestContext
  own_accepted :
    validateHTTPRequest gw.evm.net lib gw.archivalHeuristic service (.ok own) = .ok ownCtx
  own_payload : payload ∈ ownCtx.getServicePayloads

namespace BatchItem

variable {gw : BatchGateway} {lib : BodyLib β}

def batchSize (it : BatchItem gw lib) : ℕ := it.ctx.getServicePayloads.length

def itemConfig (it : BatchItem gw lib) : ItemConfig :=
  gw.relaySettings.itemConfig gw.circuitBreaker it.batchSize it.index it.payload

def singleConfig (it : BatchItem gw lib) : SingleConfig :=
  gw.relaySettings.singleConfig gw.circuitBreaker it.payload

def NeedsArchival (it : BatchItem gw lib) : Prop := it.ownCtx.requiresArchival = true

def handle (it : BatchItem gw lib) (first : Payload) (branch : ℕ → BranchData)
    (contexts : RelayLog) : Serving :=
  handleRelayRequest it.batchSize gw.maxBatchPayloads .rejected
    (fun ctx => .single (SingleRoute.start it.singleConfig ctx))
    (.item (Route.start it.itemConfig))
    (fun contexts =>
      .parallel (ParallelRoute.start gw it.ctx.requiresArchival first branch contexts)) contexts

def step (it : BatchItem gw lib) : Serving → ServingEvent → Option Serving
  | .waiting, .setUp setup first branch =>
    some (it.handle first branch (gw.contexts it.ctx.requiresArchival setup))
  | .item s, .item event => (s.step gw it.itemConfig it.ctx.requiresArchival event).map .item
  | .single s, .single event =>
    (s.step gw it.singleConfig it.ctx.requiresArchival event).map .single
  | .parallel s, .parallel event => (s.step gw it.ctx.requiresArchival event).map .parallel
  | _, _ => none

/-- The archival check would have changed nothing in the choice of an endpoint. The set-up's own
choice does not matter where each item makes its choices itself. -/
def Archival (it : BatchItem gw lib) : Serving → ServingEvent → Prop
  | .waiting, .setUp setup _ _ =>
    it.batchSize ≤ 1 ∨ 1 < gw.maxParallelEndpoints → gw.ArchivalSetup setup
  | .item s, .item event => s.Archival gw it.itemConfig event
  | .single s, .single event => s.Archival gw it.singleConfig event
  | .parallel s, .parallel event => s.Archival gw event
  | _, _ => True

def OnCourse (gw : BatchGateway) : Serving → Prop
  | .waiting | .rejected => True
  | .item s => s.OnCourse gw
  | .single s => s.OnCourse gw
  | .parallel s => s.OnCourse gw

variable {s : Serving} {first : Payload} {branch : ℕ → BranchData} {contexts : RelayLog}

theorem OnCourse.routed (h : OnCourse gw s) : Routed gw.evm s.sent := by
  cases s with
  | waiting | rejected => simp [Routed, Serving.sent]
  | item => exact Route.OnCourse.routed h
  | single => exact SingleRoute.OnCourse.routed h
  | parallel => exact ParallelRoute.OnCourse.routed h

theorem ctx_requiresArchival (it : BatchItem gw lib) : it.ctx.requiresArchival = false := by
  refine requiresArchival_of_isBatch it.accepted ?_
  obtain ⟨text, reqs, hbody, hparse, -⟩ := validateHTTPRequest_eq_ok it.accepted
  cases hbody
  exact JsonRPC.isBatch_of_array it.parse_body hparse

theorem onCourse_handle (it : BatchItem gw lib)
    (h : it.batchSize ≤ 1 ∨ 1 < contexts.length → Routed gw.evm contexts) :
    OnCourse gw (it.handle first branch contexts) := by
  refine handleRelayRequest_spec contexts trivial (fun ctx hctx hone => ?_)
    (fun _ _ => Route.onCourse_start) (fun hseveral => ?_)
  · subst hctx
    exact SingleRoute.onCourse_start (h (.inl hone) ctx List.mem_cons_self)
  · rw [it.ctx_requiresArchival]
    exact ParallelRoute.onCourse_start (h (.inr hseveral))

theorem OnCourse.step {it : BatchItem gw lib} {s' : Serving} {event : ServingEvent}
    (h : OnCourse gw s) (harchival : it.Archival s event) (hstep : it.step s event = some s') :
    OnCourse gw s' := by
  unfold BatchItem.step at hstep
  rw [it.ctx_requiresArchival] at hstep
  split at hstep
  · cases hstep
    refine it.onCourse_handle fun hused => BatchGateway.routed_contexts ?_
    refine harchival (hused.imp id fun hseveral => ?_)
    have hle := BatchGateway.length_contexts.trans' hseveral
    omega
  · obtain ⟨s', hs', rfl⟩ := map_eq_some_iff.mp hstep
    exact Route.OnCourse.step h harchival hs'
  · obtain ⟨s', hs', rfl⟩ := map_eq_some_iff.mp hstep
    exact SingleRoute.OnCourse.step h harchival hs'
  · obtain ⟨s', hs', rfl⟩ := map_eq_some_iff.mp hstep
    exact ParallelRoute.OnCourse.step h harchival hs'
  · cases hstep

/-- An item that needs archival data is relayed only to endpoints that a selection for such
data admits, in every run in which each choice has only such endpoints. -/
theorem routed_of_archival (it : BatchItem gw lib) {events : List ServingEvent} (hmeets :
      Machine.Meets it.step (fun s event => it.NeedsArchival → it.Archival s event) .waiting events)
    (hrun : run it.step .waiting events = some s) : it.NeedsArchival → Routed gw.evm s.sent := by
  intro hneeds
  have hstep (s event s') (h : OnCourse gw s) (hC : it.NeedsArchival → it.Archival s event)
      (hstep : it.step s event = some s') : OnCourse gw s' := h.step (hC hneeds) hstep
  have hstart : OnCourse gw .waiting := trivial
  exact OnCourse.routed (invariant hstep hstart hmeets hrun)

theorem handle_of_batch (it : BatchItem gw lib)
    (hone : contexts.length = 1) (hbatch : 1 < it.batchSize)
    (hcap : ¬(0 < gw.maxBatchPayloads ∧ gw.maxBatchPayloads < it.batchSize)) :
    it.handle first branch contexts = .item (Route.start it.itemConfig) := by
  obtain ⟨ctx, rfl⟩ := List.length_eq_one_iff.mp hone
  rw [handle, handleRelayRequest, if_neg (Nat.not_le.mpr hbatch), if_neg hcap]

end BatchItem

end Items

section Sample

def balanceRequest : Json :=
  .object [("jsonrpc", .string "2.0"), ("method", .string "eth_getBalance"),
    ("params", .array [.string "0xa", .string "earliest"]), ("id", .int 1)]

def archivalBatch : List Json :=
  [balanceRequest, JsonRPC.blockNumberRequest [("id", .int 2)]]

def sampleGateway : BatchGateway where
  evm := .plain
  archivalHeuristic := some (newArchivalHeuristic 0)
  heur := calmHeuristics
  retryConfig := none
  circuitBreaker := none
  scored _ := true
  maxParallelEndpoints := 1
  maxBatchPayloads := 0

def prunedAddr : EndpointAddr := "pokt1a-https://a.example.com"

def fullAddr : EndpointAddr := "pokt1b-https://b.example.org"

def mixedService : ServiceState where
  endpoints := AList.insert prunedAddr {}
    (AList.insert fullAddr { checkArchival := ⟨true, some 10⟩ } ∅)
  perceivedBlockNumber := 0
  archivalCache := none
  redisURLBlockHeights := none

def contextOf (v : Json) : RequestContext :=
  (validateHTTPRequest .ascii BodyLib.raw (some (newArchivalHeuristic 0)) mixedService
    (.ok (.json v))).toOption.getD ⟨0, ∅, false, {}⟩

theorem eq_ok_toOption_getD {ε α : Type} {r : Except ε α} (d : α) (h : r.isOk = true) :
    r = .ok (r.toOption.getD d) := by
  cases r with
  | error => cases h
  | ok => rfl

def archivalItem : BatchItem sampleGateway BodyLib.raw where
  service := mixedService
  body := .json (.array archivalBatch)
  elements := archivalBatch
  parse_body := rfl
  ctx := contextOf (.array archivalBatch)
  accepted := eq_ok_toOption_getD _ (by decide +kernel)
  index := 0
  payload := ⟨balanceRequest.compact, "", .jsonRPC, .unknownRPC, "eth_getBalance"⟩
  payload_mem := by decide +kernel
  own := .json balanceRequest
  parse_own := ⟨_, List.mem_cons_self, rfl⟩
  ownCtx := contextOf balanceRequest
  own_accepted := eq_ok_toOption_getD _ (by decide +kernel)
  own_payload := by decide +kernel

theorem archivalItem_needsArchival : archivalItem.NeedsArchival :=
  show (contextOf balanceRequest).requiresArchival = true by decide +kernel

variable (available : List EndpointAddr)

def lookupOf : Lookup := ⟨mixedService, 0, .ok available⟩

def attemptOn : Attempt := ⟨lookupOf available, [], ⟨none, none⟩, [], none⟩

def setUpOn : ServingEvent :=
  .setUp ⟨lookupOf available, [], fun _ => .built, fun _ => lookupOf available⟩
    archivalItem.payload
    (fun _ => ⟨[], fun _ => ⟨[], none, false, 0⟩, fun _ => attemptOn available⟩)

theorem step_setUpOn {available : List EndpointAddr}
    (hone : (sampleGateway.contexts archivalItem.ctx.requiresArchival ⟨lookupOf available,
      [], fun _ => .built, fun _ => lookupOf available⟩).length = 1) :
    archivalItem.step .waiting (setUpOn available) =
      some (.item (Route.start archivalItem.itemConfig)) :=
  congrArg some (archivalItem.handle_of_batch hone (by decide +kernel)
    (by decide +kernel))

theorem step_attemptOn (available : List EndpointAddr) :
    archivalItem.step (.item (Route.start archivalItem.itemConfig)) (.item
      (.attempt (attemptOn available))) = some (.item ((Route.start archivalItem.itemConfig).note
      ((Item.start archivalItem.itemConfig).beginAttempt archivalItem.itemConfig
      (sampleGateway.answers archivalItem.ctx.requiresArchival (attemptOn available)))
      (some (lookupOf available)))) := by
  have hphase : (Item.start archivalItem.itemConfig).phase = .attempting := by decide +kernel
  rw [BatchItem.step, Route.step_attempt hphase]
  rfl

theorem BatchItem.routed_of_archival_full :
    archivalItem.NeedsArchival ∧ ∃ s, run archivalItem.step .waiting
      [setUpOn [fullAddr], .item (.attempt (attemptOn [fullAddr]))] = some s ∧
        Routed sampleGateway.evm s.sent := by
  have hsetUp : archivalItem.step .waiting (setUpOn [fullAddr]) =
      some (.item (Route.start archivalItem.itemConfig)) := step_setUpOn (by decide +kernel)
  have hmeets : Meets archivalItem.step
      (fun s event => archivalItem.NeedsArchival → archivalItem.Archival s event) .waiting
      [setUpOn [fullAddr], .item (.attempt (attemptOn [fullAddr]))] := by
    refine ⟨fun _ hused => absurd hused (by decide +kernel), fun s' hs' => ?_⟩
    rw [hsetUp, some.injEq] at hs'
    subst hs'
    refine ⟨fun _ _ => ?_, fun _ _ => trivial⟩
    decide +kernel
  have hrun : run archivalItem.step .waiting
      [setUpOn [fullAddr], .item (.attempt (attemptOn [fullAddr]))] = some _ :=
    run_cons.mpr ⟨_, hsetUp, run_cons.mpr ⟨_, step_attemptOn _, rfl⟩⟩
  exact ⟨archivalItem_needsArchival, _, hrun,
    archivalItem.routed_of_archival hmeets hrun archivalItem_needsArchival⟩

theorem pruned_endpoint_relayed :
    archivalItem.NeedsArchival ∧ ∃ s, run archivalItem.step .waiting
      [setUpOn [prunedAddr, fullAddr], .item (.attempt (attemptOn [prunedAddr, fullAddr]))] =
        some s ∧ ¬Routed sampleGateway.evm s.sent := by
  refine ⟨archivalItem_needsArchival, _, run_cons.mpr ⟨_, step_setUpOn (by decide +kernel),
    run_cons.mpr ⟨_, step_attemptOn _, rfl⟩⟩, ?_⟩
  exact Route.not_routed_note ⟨prunedAddr, false⟩ (by decide +kernel) (by decide +kernel)

end Sample

end PathGateway.Evm
