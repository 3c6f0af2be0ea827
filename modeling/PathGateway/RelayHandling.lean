import PathGateway.ParallelOutcome
import PathGateway.SingleRelay

/-! How a request with its protocol contexts is handed to its handlers: to one worker for each of
several contexts, to the retry loop over its one context, or, where it has several payloads, to
one loop for each of them. -/

namespace PathGateway

/-- What every handler of a request relays with. -/
structure RelaySettings where
  net : NetLib
  heur : Heuristics
  retryConfig : Option RetryConfig
  scored : EndpointAddr → Bool

namespace RelaySettings

variable (settings : RelaySettings)

def itemConfig (circuitBreaker : Option (List String)) (batchSize index : ℕ) (payload : Payload) :
    ItemConfig where
  net := settings.net
  heur := settings.heur
  payload := payload
  index := index
  batchSize := batchSize
  retryConfig := settings.retryConfig
  circuitBreaker := circuitBreaker
  scored := settings.scored

def singleConfig (circuitBreaker : Option (List String)) (payload : Payload) : SingleConfig where
  net := settings.net
  heur := settings.heur
  payload := payload
  retryConfig := settings.retryConfig
  circuitBreaker := circuitBreaker

def parallelConfig (circuitBreaker : Bool) (payload : Payload) (branches : List BranchAnswers) :
    ParallelConfig where
  net := settings.net
  heur := settings.heur
  payload := payload
  retryConfig := settings.retryConfig
  circuitBreaker := circuitBreaker
  branches := branches

end RelaySettings

section Dispatch

variable {α ρ : Type}

/-- The handler is chosen by the numbers of contexts and of payloads. -/
def handleRelayRequest (payloads : ℕ) (maxBatchPayloads : ℤ) (reject : ρ) (single : α → ρ)
    (batch : ρ) (parallel : List α → ρ) : List α → ρ
  | [] => reject
  | [ctx] =>
    if payloads ≤ 1 then single ctx
    else if 0 < maxBatchPayloads ∧ maxBatchPayloads < payloads then reject
    else batch
  | contexts => parallel contexts

variable {payloads : ℕ} {maxBatchPayloads : ℤ} {reject batch : ρ} {single : α → ρ}
  {parallel : List α → ρ}

theorem handleRelayRequest_spec {P : ρ → Prop} (contexts : List α) (hreject : P reject)
    (hsingle : ∀ ctx, contexts = [ctx] → payloads ≤ 1 → P (single ctx))
    (hbatch : contexts.length ≤ 1 → 1 < payloads → P batch)
    (hparallel : 1 < contexts.length → P (parallel contexts)) :
    P (handleRelayRequest payloads maxBatchPayloads reject single batch parallel contexts) := by
  match contexts with
  | [] => exact hreject
  | [ctx] =>
    rw [handleRelayRequest]
    split_ifs with hone
    · exact hsingle ctx rfl hone
    · exact hreject
    · exact hbatch le_rfl (Nat.lt_of_not_le hone)
  | ctx :: ctx' :: rest => exact hparallel (by simp)

end Dispatch

section Workers

variable {cfg : ParallelConfig}

/-- The endpoint of a retry is one of those that have not been tried. -/
theorem Rotation.spec_next {answers : RotationAnswers} {t t' : Rotation}
    (hrank : Picks answers.rank) (h : t.next cfg answers = some t') :
    t'.triedDomains = markDomainTried cfg.net t.triedDomains t.current ∧
      ∃ available, answers.available = .ok available ∧
        t'.current ∈ filterEndpoints cfg.net (answers.archival available)
          (t.current :: t.triedEndpoints) (markDomainTried cfg.net t.triedDomains t.current) := by
  unfold Rotation.next at h
  dsimp only at h
  split at h
  · rename_i ep eps havailable
    split at h
    · cases h
    · rename_i hne
      split at h
      · cases h
      · cases h
        exact ⟨rfl, ep :: eps, havailable, hrank _ hne⟩
  · cases h

theorem Worker.next_of_relaying {b : BranchAnswers} {w : Worker} (hretry : w.attempt ≠ 1)
    (hphase : (w.beginAttempt cfg b).phase = .relaying) :
    w.rotation.next cfg (b.rotation w.attempt) = some (w.beginAttempt cfg b).rotation := by
  rw [Worker.beginAttempt, if_neg hretry] at hphase ⊢
  dsimp only at hphase ⊢
  split at hphase
  · cases hphase
  · assumption

@[simp] theorem Worker.attempt_beginAttempt {b : BranchAnswers} {w : Worker} :
    (w.beginAttempt cfg b).attempt = w.attempt := by
  unfold Worker.beginAttempt
  split
  · rfl
  · dsimp only
    split <;> rfl

/-- The worker that has begun to relay. -/
def Parallel.sender (s s' : Parallel) : ParallelEvent → Option (ℕ × Worker)
  | .work index =>
    match s.workers[index]?, s'.workers[index]? with
    | some w, some w' =>
      if w.phase = .looping ∧ w'.phase = .relaying then some (index, w') else none
    | _, _ => none
  | _ => none

theorem Parallel.sender_eq_some {s s' : Parallel} {event : ParallelEvent} {index : ℕ} {v : Worker}
    (hstep : s.step cfg event = some s') (h : s.sender s' event = some (index, v)) :
    event = .work index ∧ ∃ w b, s.workers[index]? = some w ∧ cfg.branches[index]? = some b ∧
      s.ctxErr = none ∧ w.phase = .looping ∧ v = w.beginAttempt cfg b ∧ v.phase = .relaying := by
  cases moves_of_step hstep with
  | @work i w b move hw hb hlive hm =>
    have hw' : (s.applyMove i move).workers[i]? = some move.worker :=
      List.getElem?_set_self (List.getElem?_eq_some_iff.mp hw).1
    rw [sender, hw, hw'] at h
    obtain ⟨hphase, heq⟩ := Option.ite_none_right_eq_some.mp h
    cases heq
    rw [Worker.advance, hphase.1] at hm
    cases hm
    exact ⟨rfl, w, b, hw, hb, hlive hphase.1, hphase.1, rfl, hphase.2⟩
  | _ => cases h

end Workers

end PathGateway
