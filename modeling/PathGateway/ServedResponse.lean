import PathGateway.BatchResponse
import PathGateway.ParallelOutcome

/-! What the client gets from a parallel request. The workers and the collector all append to the
raw responses of the QoS context, and the context renders the latest of them; for a batch it
renders all of them. -/

namespace PathGateway

open JsonRPC Machine Option List

namespace EVM

structure RequestContext (β : Type) where
  lib : JSONLib β
  text : String → β
  isBatch : Bool
  requestIDs : List ID

inductive HTTPResponse (β : Type) where
  | none
  | raw (httpStatusCode : Int) (payload : β)
  | batch (resp : BatchHTTPResponse β)

namespace RequestContext

variable {β : Type} (rc : RequestContext β)

def rawHTTPResponse (latest : Response) : HTTPResponse β :=
  if rc.lib.isEmpty (rc.text latest.bytes) then .none
  else .raw (if latest.httpStatusCode = 0 then 200 else latest.httpStatusCode)
    (rc.lib.trimNewline (rc.text latest.bytes))

def getHTTPResponse (rawResponses : List Response) : HTTPResponse β :=
  match rawResponses.getLast? with
  | none => .none
  | some latest =>
    if rc.isBatch then
      .batch (getBatchHTTPResponse rc.lib
        (rawResponses.map fun r => ⟨rc.text r.bytes, r.httpStatusCode.toNat⟩) rc.requestIDs)
    else rc.rawHTTPResponse latest

variable {rc}

theorem getHTTPResponse_append {before latest : List Response} (hsingle : rc.isBatch = false)
    (hne : latest ≠ []) : rc.getHTTPResponse (before ++ latest) = rc.getHTTPResponse latest := by
  have hlast : (before ++ latest).getLast? = latest.getLast? := by
    rw [getLast?_append, or_of_isSome (by simp [hne])]
  simp only [getHTTPResponse, hlast, hsingle, Bool.false_eq_true, if_false]

end RequestContext

end EVM

def Worker.handsOver (cfg : ParallelConfig) (b : BranchAnswers) (w : Worker) : List Response :=
  match w.phase with
  | .relaying =>
    if (cfg.check (b.relay w.attempt)).success then [] else (b.relay w.attempt).responses
  | .closing => if w.lastErr.isSome then w.lastResponses else []
  | _ => []

theorem Worker.updates_of_advance {cfg : ParallelConfig} {b : BranchAnswers} {w : Worker}
    {index : ℕ} {move : WorkerMove} (h : w.advance cfg b index = some move) :
    move.updates = w.handsOver cfg b := by
  cases hp : w.phase with
  | relaying =>
    rw [advance, hp] at h
    cases h
    rw [handsOver, hp, relayEnded]
    dsimp only
    split
    · rfl
    · split <;> rfl
  | _ =>
    rw [advance, hp] at h
    cases h <;> rw [handsOver, hp]

def ParallelRelayResult.Succeeded (result : ParallelRelayResult) : Prop :=
  result.checked = true ∧ result.responses ≠ []

instance (result : ParallelRelayResult) : Decidable result.Succeeded :=
  inferInstanceAs (Decidable (_ ∧ _))

namespace Parallel

def chosen (s : Parallel) : Option ParallelRelayResult :=
  if s.collector = .returned none then s.received.getLast? else none

def handsOver (cfg : ParallelConfig) (s : Parallel) : ParallelEvent → List Response
  | .work index =>
    match s.workers[index]?, cfg.branches[index]? with
    | some w, some b => w.handsOver cfg b
    | _, _ => []
  | _ => []

section Render

variable {β : Type} (rc : EVM.RequestContext β) (cfg : ParallelConfig)

def Served (s : Parallel) : Prop :=
  ∀ result ∈ s.chosen, result.Succeeded →
    rc.getHTTPResponse s.updates = rc.getHTTPResponse result.responses

structure KeepsChosen (s : Parallel) (event : ParallelEvent) : Prop where
  after : ∀ result ∈ s.chosen, result.Succeeded → s.handsOver cfg event = [] ∨
    rc.isBatch = false ∧
      rc.getHTTPResponse (s.handsOver cfg event) = rc.getHTTPResponse result.responses
  before : rc.isBatch = true → event = .receive → s.collector = .waiting →
    ∀ result ∈ s.resultChan.head?, result.err = none → result.Succeeded → s.updates = []

end Render

inductive Hands (cfg : ParallelConfig) (s : Parallel) : ParallelEvent → Parallel → Prop where
  | choose {s' : Parallel} {result : ParallelRelayResult} (hc : s.collector = .waiting)
      (hr : s.resultChan.head? = some result) (herr : result.err = none)
      (hchosen : s'.chosen = some result) (hupdates : s'.updates = s.updates ++ result.responses) :
      Hands cfg s .receive s'
  | refuse {s' : Parallel} (hchosen : s'.chosen = none) : Hands cfg s .receive s'
  | other {event : ParallelEvent} {s' : Parallel} (hother : event ≠ .receive)
      (hchosen : s'.chosen = s.chosen)
      (hupdates : s'.updates = s.updates ++ s.handsOver cfg event) : Hands cfg s event s'

variable {β : Type} {rc : EVM.RequestContext β} {cfg : ParallelConfig} {s s' : Parallel}
  {event : ParallelEvent}

theorem chosen_collect : (s.collect cfg).chosen = none := by
  rw [collect, chosen]
  dsimp only
  split <;> simp

theorem chosen_of_waiting (h : s.collector = .waiting) : s.chosen = none := by
  rw [chosen, h, if_neg (by simp)]

theorem hands_of_step (h : step cfg s event = some s') : Hands cfg s event s' := by
  have hquiet (hnone : s.handsOver cfg event = []) :
      s.updates = s.updates ++ s.handsOver cfg event := by rw [hnone, append_nil]
  cases moves_of_step h with
  | work hw hb hlive hm =>
    refine .other (by simp) rfl ?_
    simp only [handsOver, hw, hb, ← Worker.updates_of_advance hm]
    rfl
  | cut | contextDone => exact .other (by simp) rfl (hquiet rfl)
  | @receive result rest hc hr =>
    cases herr : result.err with
    | none =>
      refine .choose hc (by rw [hr]; rfl) herr ?_ ?_ <;>
        simp [receiveResult, herr, handleSuccessfulResponse, chosen]
    | some =>
      refine .refuse ?_
      rw [receiveResult, herr]
      exact chosen_collect
  | giveUp hc =>
    refine .other (by simp) ?_ (hquiet rfl)
    rw [chosen_of_waiting hc]
    simp [chosen]

theorem served_of_chosen_none (h : s.chosen = none) : Served rc s := by simp [Served, h]

theorem served_step_iff (hsingle : rc.isBatch = false) (h : Served rc s)
    (hstep : step cfg s event = some s') : Served rc s' ↔ KeepsChosen rc cfg s event := by
  have hkeeps : KeepsChosen rc cfg s event ↔ ∀ result ∈ s.chosen, result.Succeeded →
      s.handsOver cfg event = [] ∨
        rc.getHTTPResponse (s.handsOver cfg event) = rc.getHTTPResponse result.responses := by
    refine ⟨fun hk result hmem hs => (hk.after result hmem hs).imp_right And.right, fun hk => ?_⟩
    refine ⟨fun result hmem hs => (hk result hmem hs).imp_right fun heq => ⟨hsingle, heq⟩, ?_⟩
    intro hbatch
    rw [hsingle] at hbatch
    cases hbatch
  rw [hkeeps]
  cases hands_of_step hstep with
  | choose hc hr herr hchosen hupdates =>
    refine iff_of_true ?_ (by simp [chosen_of_waiting hc])
    rintro result hmem hsucceeded
    rw [hchosen, mem_some_iff] at hmem
    rw [hupdates, hmem]
    exact EVM.RequestContext.getHTTPResponse_append hsingle hsucceeded.2
  | refuse hchosen =>
    exact iff_of_true (served_of_chosen_none hchosen) fun result hmem hs => .inl rfl
  | other hother hchosen hupdates =>
    rw [Served, hchosen, hupdates]
    refine forall_congr' fun result => forall_congr' fun hmem => forall_congr' fun hs => ?_
    by_cases hnone : s.handsOver cfg event = []
    · have hkept := h result hmem hs
      simp [hnone, hkept]
    · rw [EVM.RequestContext.getHTTPResponse_append hsingle hnone]
      simp [hnone]

def Sole (s : Parallel) : Prop :=
  ∀ result ∈ s.chosen, result.Succeeded → s.updates = result.responses

theorem Sole.step (h : Sole s) (hbatch : rc.isBatch = true) (hkeeps : KeepsChosen rc cfg s event)
    (hstep : step cfg s event = some s') : Sole s' := by
  cases hands_of_step hstep with
  | choose hc hr herr hchosen hupdates =>
    rintro result hmem hsucceeded
    rw [hchosen, mem_some_iff] at hmem
    subst hmem
    rw [hupdates, hkeeps.before hbatch rfl hc _ hr herr hsucceeded, nil_append]
  | refuse hchosen => simp [Sole, hchosen]
  | other hother hchosen hupdates =>
    rintro result hmem hsucceeded
    rw [hchosen] at hmem
    rcases hkeeps.after result hmem hsucceeded with hnone | ⟨hsingle, -⟩
    · rw [hupdates, hnone, append_nil]
      exact h result hmem hsucceeded
    · rw [hbatch] at hsingle
      cases hsingle

/-- The chosen response is served throughout the runs that keep it; of the runs of a single
request, only these serve it. -/
theorem served_of_keepsChosen (rc : EVM.RequestContext β) (cfg : ParallelConfig)
    (events : List ParallelEvent) (s : Parallel)
    (hrun : run (step cfg) (start cfg) events = some s) :
    (Machine.Meets (step cfg) (KeepsChosen rc cfg) (start cfg) events →
      ∀ pre post u, events = pre ++ post → run (step cfg) (start cfg) pre = some u →
        Served rc u) ∧
    (rc.isBatch = false → (∀ pre post u, events = pre ++ post →
        run (step cfg) (start cfg) pre = some u → Served rc u) →
      Machine.Meets (step cfg) (KeepsChosen rc cfg) (start cfg) events) := by
  have hnone : (start cfg).chosen = none := chosen_collect
  have hexact (hsingle : rc.isBatch = false) := always_iff_meets
    (fun s event s' h hstep => served_step_iff hsingle h hstep) (served_of_chosen_none hnone) hrun
  refine ⟨fun hmeets => ?_, fun hsingle => (hexact hsingle).mp⟩
  cases hbatch : rc.isBatch with
  | false => exact (hexact hbatch).mpr hmeets
  | true =>
    rintro pre post u rfl hpre
    have hsole : Sole u := invariant (fun s event s' h hkeeps => h.step hbatch hkeeps)
      (by simp [Sole, hnone]) (hmeets.of_append hpre).1 hpre
    exact fun result hmem hsucceeded => congrArg _ (hsole result hmem hsucceeded)

end Parallel

def singleCall : EVM.RequestContext RawText where
  lib := JSONLib.raw
  text bytes := if bytes = "" then .empty else .json (.string bytes)
  isBatch := false
  requestIDs := []

def blockNumber : RelayAnswer :=
  ⟨[⟨"0x10", 200, addrB, ""⟩], none, false, 1⟩

def failsBefore : List ParallelEvent :=
  [.work 0, .work 1, .work 1, .work 0, .work 0, .receive, .work 1, .work 1]

theorem failed_before_served : ∃ s result,
    run (Parallel.step (sampleParallel [blockNumber, serverError]))
        (Parallel.start (sampleParallel [blockNumber, serverError])) failsBefore = some s ∧
      s.chosen = some result ∧ result.Succeeded ∧
      s.updates = serverError.responses ++ blockNumber.responses ∧
      singleCall.getHTTPResponse s.updates = .raw 200 (.json (.string "0x10")) ∧
      s.Served singleCall := by
  refine exists₂_of_any (fun s => s.chosen = some ⟨blockNumber.responses, none, 0, true⟩ ∧
    s.updates = serverError.responses ++ blockNumber.responses) (by decide +kernel)
    fun s hrun hs => ?_
  obtain ⟨hchosen, hupdates⟩ := hs
  have hquiet : Meets (Parallel.step (sampleParallel [blockNumber, serverError]))
      (fun s event => s.chosen = none ∨
        s.handsOver (sampleParallel [blockNumber, serverError]) event = [])
      (Parallel.start (sampleParallel [blockNumber, serverError])) failsBefore := by
    decide +kernel
  have hkeeps := hquiet.mono (D := Parallel.KeepsChosen singleCall _) fun u event h =>
    ⟨fun result hmem _ => .inl (h.resolve_left fun hnone => by simp [hnone] at hmem),
      by simp [singleCall]⟩
  have hserved := (Parallel.served_of_keepsChosen singleCall _ failsBefore s hrun).1 hkeeps
    failsBefore [] s (append_nil _).symm hrun
  refine ⟨_, hchosen, by decide +kernel, hupdates, ?_, hserved⟩
  rw [hupdates]
  rfl

theorem late_failure_served : ∃ s result,
    run (Parallel.step (sampleParallel [blockNumber, serverError]))
        (Parallel.start (sampleParallel [blockNumber, serverError]))
        [.work 0, .work 1, .work 0, .work 0, .receive, .work 1] = some s ∧
      s.chosen = some result ∧ result.Succeeded ∧
      singleCall.getHTTPResponse result.responses = .raw 200 (.json (.string "0x10")) ∧
      singleCall.getHTTPResponse s.updates = .raw 500 (.json (.string "oops")) := by
  refine exists₂_of_any (fun s => s.chosen = some ⟨blockNumber.responses, none, 0, true⟩ ∧
    s.updates = blockNumber.responses ++ serverError.responses) (by decide +kernel)
    fun s hrun hs => ?_
  refine ⟨_, hs.1, by decide +kernel, rfl, ?_⟩
  rw [hs.2]
  rfl

end PathGateway
