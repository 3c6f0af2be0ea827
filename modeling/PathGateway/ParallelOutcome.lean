import PathGateway.ParallelRelay

/-! What a parallel request returns. The attempts of a branch are determined by its
answers as long as the context is alive, and so is the way it ends: with a checked result,
with the result of its last failed attempt, or without a word. -/

namespace PathGateway

open Parallel Machine List Option ParallelConfig

namespace ParallelConfig

variable (cfg : ParallelConfig) (b : BranchAnswers)

/-- The rotation with which the branch makes attempt `n + 1`, if it gets there. -/
def reached : Nat → Option Rotation
  | 0 => if 1 ≤ cfg.maxAttempts then some (cfg.firstRotation b) else none
  | n + 1 =>
    match reached n with
    | none => none
    | some t =>
      if (cfg.check (b.relay (n + 1))).success = false ∧ cfg.retries b (n + 1) = true then
        (t.learn (n + 1) (b.relay (n + 1))).next cfg (b.rotation (n + 2))
      else none

def FailsAt (n : Nat) : Prop :=
  cfg.reached b n ≠ none ∧ (cfg.check (b.relay (n + 1))).success = false

def Passes : Prop :=
  ∃ n, cfg.reached b n ≠ none ∧ (cfg.check (b.relay (n + 1))).success = true

def Stops (err : Option GoError) : Prop :=
  ∃ n, cfg.FailsAt b n ∧ cfg.retries b (n + 1) = false ∧ err = (b.relay (n + 1)).err

/-- The branch retries and finds no endpoint: it ends without a result. -/
def Vanishes : Prop :=
  ∃ n, cfg.reached b n ≠ none ∧ cfg.reached b (n + 1) = none ∧ cfg.retries b (n + 1) = true ∧
    (cfg.check (b.relay (n + 1))).success = false

def Last (n : Nat) : Prop :=
  cfg.reached b n ≠ none ∧ cfg.reached b (n + 1) = none

def Closes (err : Option GoError) : Prop :=
  cfg.maxAttempts < 1 ∧ err = none ∨ cfg.Stops b err

def Sends (r : ParallelRelayResult) : Prop :=
  (r.checked = true ∧ r.err = none ∧ cfg.Passes b) ∨ (r.checked = false ∧ cfg.Closes b r.err)

def Retrying (n : Nat) (after : Rotation) : Prop :=
  ∃ t, cfg.reached b n = some t ∧ (cfg.check (b.relay (n + 1))).success = false ∧
    cfg.retries b (n + 1) = true ∧ after = t.learn (n + 1) (b.relay (n + 1))

variable {cfg b} {n m : Nat} {t : Rotation} {r : ParallelRelayResult}

theorem reached_of_le (hnm : n ≤ m) (h : cfg.reached b m ≠ none) : cfg.reached b n ≠ none := by
  induction m, hnm using Nat.le_induction with
  | base => exact h
  | succ m _ ih =>
    apply ih
    intro hnone
    rw [reached, hnone] at h
    exact h rfl

theorem Last.unique (hn : cfg.Last b n) (hm : cfg.Last b m) : n = m := by
  rcases Nat.lt_trichotomy n m with hlt | heq | hgt
  · exact absurd hn.2 (reached_of_le hlt hm.1)
  · exact heq
  · exact absurd hm.2 (reached_of_le hgt hn.1)

theorem one_le_maxAttempts (h : cfg.reached b n ≠ none) : 1 ≤ cfg.maxAttempts := by
  have h0 := reached_of_le (Nat.zero_le n) h
  by_contra hmax
  exact h0 (if_neg hmax)

theorem last_of_not (hn : cfg.reached b n ≠ none)
    (h : ¬((cfg.check (b.relay (n + 1))).success = false ∧ cfg.retries b (n + 1) = true)) :
    cfg.Last b n := by
  refine ⟨hn, ?_⟩
  rw [reached]
  split
  · rfl
  · rw [if_neg h]

theorem Passes.not_stops {err : Option GoError} (h : cfg.Passes b) : ¬cfg.Stops b err := by
  rintro ⟨m, ⟨hm, hfail⟩, hstop, -⟩
  obtain ⟨n, hn, hpass⟩ := h
  have heq := (last_of_not hn (by simp [hpass])).unique (last_of_not hm (by simp [hstop]))
  rw [heq, hfail] at hpass
  cases hpass

theorem Passes.not_vanishes (h : cfg.Passes b) : ¬cfg.Vanishes b := by
  rintro ⟨m, hm, hm', -, hfail⟩
  obtain ⟨n, hn, hpass⟩ := h
  rw [(last_of_not hn (by simp [hpass])).unique ⟨hm, hm'⟩, hfail] at hpass
  cases hpass

theorem Stops.not_vanishes {err : Option GoError} (h : cfg.Stops b err) : ¬cfg.Vanishes b := by
  rintro ⟨m, hm, hm', hretry, -⟩
  obtain ⟨n, ⟨hn, -⟩, hstop, -⟩ := h
  rw [← (last_of_not hn (by simp [hstop])).unique ⟨hm, hm'⟩, hstop] at hretry
  cases hretry

theorem Stops.err_unique {err err' : Option GoError} (h : cfg.Stops b err)
    (h' : cfg.Stops b err') : err = err' := by
  obtain ⟨n, ⟨hn, -⟩, hstop, rfl⟩ := h
  obtain ⟨m, ⟨hm, -⟩, hstop', rfl⟩ := h'
  rw [(last_of_not hn (by simp [hstop])).unique (last_of_not hm (by simp [hstop']))]

theorem Sends.checked_of_passes (h : cfg.Sends b r) (hpass : cfg.Passes b) : r.checked = true := by
  rcases h with ⟨hc, -, -⟩ | ⟨-, ⟨hmax, -⟩ | hstop⟩
  · exact hc
  · obtain ⟨n, hn, -⟩ := hpass
    have := one_le_maxAttempts hn
    omega
  · exact absurd hstop hpass.not_stops

theorem Sends.passes_of_checked (h : cfg.Sends b r) (hc : r.checked = true) : cfg.Passes b := by
  rcases h with ⟨-, -, hpass⟩ | ⟨hc', -⟩
  · exact hpass
  · rw [hc'] at hc
    cases hc

end ParallelConfig

namespace Worker

variable {cfg : ParallelConfig} {b : BranchAnswers} {w : Worker} {index : Nat}
  {move : WorkerMove}

def OnTrail (cfg : ParallelConfig) (b : BranchAnswers) (w : Worker) : Prop :=
  match w.phase with
  | .looping => (w.attempt = 1 ∧ cfg.reached b 0 = some w.rotation) ∨
      ∃ n, w.attempt = n + 2 ∧ cfg.Retrying b n w.rotation
  | .relaying => ∃ n, w.attempt = n + 1 ∧ cfg.reached b n = some w.rotation
  | .delaying => ∃ n, w.attempt = n + 1 ∧ cfg.Retrying b n w.rotation
  | .closing => cfg.Closes b w.lastErr
  | .sending result => cfg.Sends b result
  | .finished => True

theorem onTrail_start : (start cfg b).OnTrail cfg b := by
  by_cases hmax : 1 ≤ cfg.maxAttempts
  · simp [OnTrail, start, reached, hmax]
  · simp only [OnTrail, start, if_neg hmax]
    exact .inl ⟨by omega, rfl⟩

def rank (cfg : ParallelConfig) (w : Worker) : Nat :=
  let left := (cfg.maxAttempts - w.attempt).toNat
  match w.phase with
  | .looping => 4 * left + 5
  | .relaying => 4 * left + 4
  | .delaying => 4 * left + 3
  | .closing => 2
  | .sending _ => 1
  | .finished => 0

/-- What a move of a branch keeps. -/
structure Leaves (cfg : ParallelConfig) (b : BranchAnswers) (w : Worker) (move : WorkerMove) :
    Prop where
  onTrail : move.worker.OnTrail cfg b
  sends : ∀ result, move.sent = some result → cfg.Sends b result
  finished_of_sent : move.sent ≠ none → move.worker.phase = .finished
  ends : move.worker.phase = .finished → move.sent ≠ none ∨ cfg.Vanishes b
  rank_lt : move.worker.rank cfg < w.rank cfg

theorem leaves_of_onTrail (hsent : move.sent = none) (hphase : move.worker.phase ≠ .finished)
    (h : move.worker.OnTrail cfg b) (hrank : move.worker.rank cfg < w.rank cfg) :
    Leaves cfg b w move where
  onTrail := h
  sends result hr := by rw [hsent] at hr; cases hr
  finished_of_sent hr := absurd hsent hr
  ends hf := absurd hf hphase
  rank_lt := hrank

theorem leaves_beginAttempt (hp : w.phase = .looping) (h : w.OnTrail cfg b) :
    Leaves cfg b w ⟨w.beginAttempt cfg b, [], none⟩ := by
  rw [OnTrail, hp] at h
  rcases h with ⟨hone, hreached⟩ | ⟨n, hattempt, t, ht, hfail, hretry, hrot⟩
  · rw [beginAttempt, if_pos hone]
    exact leaves_of_onTrail rfl (by simp) ⟨0, hone, hreached⟩ (by simp [rank, hp])
  · have hne : w.attempt ≠ 1 := by omega
    have hnext : cfg.reached b (n + 1) = w.rotation.next cfg (b.rotation w.attempt) := by
      rw [hrot, hattempt, reached, ht]
      exact if_pos ⟨hfail, hretry⟩
    cases hpick : w.rotation.next cfg (b.rotation w.attempt) with
    | none =>
      simp only [beginAttempt, if_neg hne, hpick]
      refine ⟨trivial, by simp, by simp, fun _ => .inr ⟨n, ?_, ?_, hretry, hfail⟩,
        by simp [rank, hp]⟩
      · rw [ht]
        exact some_ne_none t
      · rw [hnext, hpick]
    | some =>
      simp only [beginAttempt, if_neg hne, hpick]
      exact leaves_of_onTrail rfl (by simp) ⟨n + 1, hattempt, hnext.trans hpick⟩
        (by simp [rank, hp])

theorem leaves_relayEnded (hp : w.phase = .relaying) (h : w.OnTrail cfg b) :
    Leaves cfg b w (w.relayEnded cfg b index) := by
  rw [OnTrail, hp] at h
  obtain ⟨n, hattempt, hreached⟩ := h
  have hsome : cfg.reached b n ≠ none := by rw [hreached]; exact some_ne_none _
  cases hcheck : (cfg.check (b.relay w.attempt)).success with
  | true =>
    simp only [relayEnded, hcheck, if_true]
    exact leaves_of_onTrail rfl (by simp) (.inl ⟨rfl, rfl, n, hsome, hattempt ▸ hcheck⟩)
      (by simp [rank, hp])
  | false =>
    cases hretry : cfg.retries b w.attempt with
    | true =>
      simp only [relayEnded, hcheck, hretry, Bool.false_eq_true, if_false, if_true]
      refine leaves_of_onTrail rfl (by simp) ⟨n, hattempt, w.rotation, hreached, ?_⟩
        (by simp [rank, hp, noteFailure])
      rw [← hattempt]
      exact ⟨hcheck, hretry, rfl⟩
    | false =>
      simp only [relayEnded, hcheck, hretry, Bool.false_eq_true, if_false]
      rw [hattempt] at hcheck hretry
      refine leaves_of_onTrail rfl (by simp) (.inr ⟨n, ⟨hsome, hcheck⟩, hretry, ?_⟩)
        (by simp [rank, hp])
      rw [← hattempt]
      rfl

theorem leaves_of_advance (h : w.OnTrail cfg b) (hm : w.advance cfg b index = some move) :
    Leaves cfg b w move := by
  rw [advance] at hm
  cases hp : w.phase with
  | looping =>
    simp only [hp, some.injEq] at hm
    exact hm ▸ leaves_beginAttempt hp h
  | relaying =>
    simp only [hp, some.injEq] at hm
    exact hm ▸ leaves_relayEnded hp h
  | delaying =>
    simp only [hp, some.injEq] at hm
    rw [OnTrail, hp] at h
    obtain ⟨n, hattempt, t, ht, hfail, hretry, hrot⟩ := h
    have hlt := hretry
    rw [retries, Bool.and_eq_true, Bool.and_eq_true, decide_eq_true_eq] at hlt
    have hmax := hlt.1.1
    subst hm
    refine leaves_of_onTrail rfl (by simp)
      (.inr ⟨n, by simp [hattempt], t, ht, hfail, hretry, hrot⟩) ?_
    simp only [rank, hp, hattempt]
    omega
  | closing =>
    simp only [hp, some.injEq] at hm
    rw [OnTrail, hp] at h
    subst hm
    exact leaves_of_onTrail rfl (by simp) (.inr ⟨rfl, h⟩) (by simp [rank, hp])
  | sending =>
    simp only [hp, some.injEq] at hm
    rw [OnTrail, hp] at h
    subst hm
    exact ⟨trivial, fun r hr => some.inj hr ▸ h, fun _ => rfl, fun _ => .inl (by simp),
      by simp [rank, hp]⟩
  | finished => simp [hp] at hm

theorem exists_advance (cfg : ParallelConfig) (b : BranchAnswers) (index : Nat)
    (h : w.phase ≠ .finished) : ∃ move, w.advance cfg b index = some move := by
  rw [advance]
  cases hp : w.phase with
  | finished => exact absurd hp h
  | _ => exact ⟨_, rfl⟩

end Worker

namespace Parallel

variable {cfg : ParallelConfig} {s s' : Parallel} {event : ParallelEvent}

inductive Moves (cfg : ParallelConfig) (s : Parallel) : ParallelEvent → Parallel → Prop where
  | work {index w b move} (hw : s.workers[index]? = some w) (hb : cfg.branches[index]? = some b)
      (hlive : w.phase = .looping → s.ctxErr = none) (hm : w.advance cfg b index = some move) :
      Moves cfg s (.work index) (s.applyMove index move)
  | cut {index w err} (hw : s.workers[index]? = some w)
      (herr : s.ctxErr = some err) :
      Moves cfg s (.cut index)
        { s with workers := s.workers.set index { w with phase := .finished } }
  | contextDone (err : ContextErr) :
      Moves cfg s (.contextDone err) { s with ctxErr := some (s.ctxErr.getD err) }
  | receive {result rest} (hc : s.collector = .waiting) (hr : s.resultChan = result :: rest) :
      Moves cfg s .receive (receiveResult cfg
        { s with resultChan := rest, received := s.received ++ [result] } result)
  | giveUp {totalDuration err} (hc : s.collector = .waiting)
      (herr : s.ctxErr = some err) :
      Moves cfg s (.giveUp totalDuration) { s with collector := .returned (some
        (handleContextDone err totalDuration s.numCompletedSuccessfully s.lastErr)) }

theorem moves_of_step (h : step cfg s event = some s') : Moves cfg s event s' := by
  cases event with
  | work index =>
    simp only [step] at h
    split at h
    · rename_i w b hw hb
      split at h
      · cases h
      · rename_i hlive
        split at h
        · cases h
        · rename_i move hm
          split at h
          · cases h
            refine .work hw hb (fun hp => ?_) hm
            simpa [hp] using hlive
          · cases h
    · cases h
  | cut index =>
    simp only [step] at h
    split at h
    · rename_i w err hw herr
      rw [map_eq_some_iff] at h
      obtain ⟨w', hcut, rfl⟩ := h
      rw [Worker.cut] at hcut
      split at hcut <;> cases hcut <;> exact .cut hw herr
    · cases h
  | contextDone err =>
    cases h
    exact .contextDone err
  | receive =>
    simp only [step] at h
    split at h
    · rename_i result rest hc hr
      cases h
      exact .receive hc hr
    · cases h
  | giveUp totalDuration =>
    simp only [step] at h
    split at h
    · rename_i err hc herr
      cases h
      exact .giveUp hc herr
    · cases h

def sent (s : Parallel) : List ParallelRelayResult := s.received ++ s.resultChan

def finishedCount (workers : List Worker) : Nat := workers.countP (fun w => w.phase = .finished)

structure Trailed (cfg : ParallelConfig) (workers : List Worker) (ctxErr : Option ContextErr)
    (sent : List ParallelRelayResult) : Prop where
  length_workers : workers.length = cfg.branches.length
  onTrail : ∀ (index : Nat) (w : Worker) (b : BranchAnswers), workers[index]? = some w →
    cfg.branches[index]? = some b → w.OnTrail cfg b
  sends : ∀ result ∈ sent, ∃ b ∈ cfg.branches, cfg.Sends b result
  ends : ctxErr = none → ∀ (index : Nat) (w : Worker) (b : BranchAnswers),
    workers[index]? = some w → cfg.branches[index]? = some b → w.phase = .finished →
    (∃ result ∈ sent, cfg.Sends b result) ∨ cfg.Vanishes b
  room : sent.length ≤ finishedCount workers

abbrev Coherent (cfg : ParallelConfig) (s : Parallel) : Prop :=
  Trailed cfg s.workers s.ctxErr s.sent

theorem coherent_start : Coherent cfg (start cfg) where
  length_workers := by simp [start, collect]
  onTrail index w b hw hb := by
    simp only [start, collect, getElem?_map, hb, map_some, some.injEq] at hw
    exact hw ▸ Worker.onTrail_start
  sends := by simp [start, collect, sent]
  ends _ index w b hw hb hp := by
    simp only [start, collect, getElem?_map, hb, map_some, some.injEq] at hw
    subst hw
    simp only [Worker.start] at hp
    split at hp <;> cases hp
  room := by simp [start, collect, sent]

variable {index j : Nat} {workers : List Worker} {w w' v : Worker}

theorem worker_of_set (h : (workers.set index w')[j]? = some v) :
    j = index ∧ v = w' ∨ workers[j]? = some v := by
  by_cases hj : j = index
  · subst hj
    rw [getElem?_set_self', Option.map_eq_map, map_eq_some_iff] at h
    obtain ⟨_, -, rfl⟩ := h
    exact .inl ⟨rfl, rfl⟩
  · exact .inr (by rwa [getElem?_set_ne (Ne.symm hj)] at h)

theorem Coherent.work {b : BranchAnswers} {move : WorkerMove} (h : Coherent cfg s)
    (hw : s.workers[index]? = some w) (hb : cfg.branches[index]? = some b)
    (hm : w.advance cfg b index = some move) : Coherent cfg (s.applyMove index move) := by
  have hleaves := Worker.leaves_of_advance (h.onTrail index w b hw hb) hm
  have hsent : (s.applyMove index move).sent = s.sent ++ move.sent.toList := by
    simp [sent, applyMove]
  rw [Coherent, hsent]
  refine ⟨by simp [applyMove, h.length_workers], fun j v b' hv hb' => ?_, fun result hr => ?_,
    fun hctx j v b' hv hb' hp => ?_, ?_⟩
  · rcases worker_of_set hv with ⟨rfl, rfl⟩ | hv
    · cases hb.symm.trans hb'
      exact hleaves.onTrail
    · exact h.onTrail j v b' hv hb'
  · rcases mem_append.mp hr with hr | hr
    · exact h.sends result hr
    · exact ⟨b, mem_of_getElem? hb, hleaves.sends result (mem_toList.mp hr)⟩
  · rcases worker_of_set hv with ⟨rfl, rfl⟩ | hv
    · cases hb.symm.trans hb'
      refine (hleaves.ends hp).imp_left fun hsome => ?_
      obtain ⟨result, hr⟩ := ne_none_iff_exists'.mp hsome
      exact ⟨result, by simp [hr], hleaves.sends result hr⟩
    · refine (h.ends hctx j v b' hv hb' hp).imp_left fun ⟨result, hr, hsends⟩ => ?_
      exact ⟨result, mem_append_left _ hr, hsends⟩
  · have hp : w.phase ≠ .finished := by
      intro hp
      simp [Worker.advance, hp] at hm
    have hroom := h.room
    obtain ⟨hlt, hget⟩ := List.getElem?_eq_some_iff.mp hw
    rw [finishedCount] at hroom ⊢
    rw [applyMove, countP_set hlt, hget, length_append]
    cases hnone : move.sent with
    | none => simpa [hp] using Nat.le_add_right_of_le hroom
    | some => simpa [hp, hleaves.finished_of_sent (by simp [hnone])] using hroom

theorem Coherent.cut {err : ContextErr} (h : Coherent cfg s) (hw : s.workers[index]? = some w)
    (herr : s.ctxErr = some err) :
    Coherent cfg { s with workers := s.workers.set index { w with phase := .finished } } where
  length_workers := by simp [h.length_workers]
  onTrail j v b hv hb := by
    rcases worker_of_set hv with ⟨rfl, rfl⟩ | hv
    · exact trivial
    · exact h.onTrail j v b hv hb
  sends := h.sends
  ends hnone := by cases herr.symm.trans hnone
  room := by
    refine h.room.trans ?_
    rw [finishedCount, finishedCount, countP_set (List.getElem?_eq_some_iff.mp hw).1]
    simp only [decide_true, if_true]
    split <;> omega

theorem Coherent.step (h : Coherent cfg s) (hstep : Parallel.step cfg s event = some s') :
    Coherent cfg s' := by
  cases moves_of_step hstep with
  | work hw hb hlive hm => exact .work h hw hb hm
  | cut hw herr => exact .cut h hw herr
  | contextDone => exact ⟨h.length_workers, h.onTrail, h.sends, nofun, h.room⟩
  | @receive result rest hc hr =>
    have h' : Trailed cfg s.workers s.ctxErr (s.received ++ [result] ++ rest) := by
      rw [Coherent, sent, hr] at h
      rwa [append_assoc]
    rw [receiveResult]
    split <;> exact h'
  | giveUp => exact h

structure Collects (cfg : ParallelConfig) (s : Parallel) : Prop where
  ne_nil : s.collector = .waiting → cfg.branches ≠ []
  count : s.collector = .waiting → s.numCompletedSuccessfully = 0
  nil_error : s.collector = .returned none → ∃ result ∈ s.received, result.err = none
  empty : cfg.branches = [] → s.collector = .returned (some (handleAllRequestsFailed s.lastErr))

theorem collects_collect (h : s.numCompletedSuccessfully = 0) : Collects cfg (s.collect cfg) := by
  by_cases hnil : cfg.branches = []
  · have hlt : ¬s.numCompletedSuccessfully < cfg.branches.length := by simp [hnil]
    constructor <;> simp [collect, hlt]
  · have hlt : s.numCompletedSuccessfully < cfg.branches.length := by
      rw [h]
      exact length_pos_iff.mpr hnil
    have hwait : (s.collect cfg).collector = .waiting := if_pos hlt
    refine ⟨fun _ => hnil, fun _ => h, fun hn => ?_, fun hn => absurd hn hnil⟩
    rw [hwait] at hn
    cases hn

theorem collects_receiveResult {result : ParallelRelayResult} (hc : s.collector = .waiting)
    (hmem : result ∈ s.received) (h : Collects cfg s) :
    Collects cfg (receiveResult cfg s result) := by
  rw [receiveResult]
  split
  · rename_i herr
    refine ⟨nofun, nofun, fun _ => ⟨result, hmem, herr⟩, ?_⟩
    exact fun hnil => absurd hnil (h.ne_nil hc)
  · exact collects_collect (h.count hc)

theorem Collects.step (h : Collects cfg s) (hstep : Parallel.step cfg s event = some s') :
    Collects cfg s' := by
  cases moves_of_step hstep with
  | receive hc =>
    refine collects_receiveResult hc (by simp) ⟨h.ne_nil, h.count, fun hn => ?_, h.empty⟩
    obtain ⟨result, hmem, herr⟩ := h.nil_error hn
    exact ⟨result, mem_append_left _ hmem, herr⟩
  | giveUp hc =>
    exact ⟨nofun, nofun, nofun, fun hnil => absurd hnil (h.ne_nil hc)⟩
  | _ => exact ⟨h.ne_nil, h.count, h.nil_error, h.empty⟩

/-! Runs in a live context: every worker can be driven to its end, and the collector can
take what is in the channel. -/

theorem step_work (h : Coherent cfg s) (hctx : s.ctxErr = none)
    (hw : s.workers[index]? = some w) (hp : w.phase ≠ .finished) :
    ∃ b move, cfg.branches[index]? = some b ∧ w.advance cfg b index = some move ∧
    Parallel.step cfg s (.work index) = some (s.applyMove index move) := by
  have hlt : index < cfg.branches.length := h.length_workers ▸ (List.getElem?_eq_some_iff.mp hw).1
  have hb := List.getElem?_eq_getElem hlt
  obtain ⟨move, hm⟩ := Worker.exists_advance cfg cfg.branches[index] index hp
  have hfree : finishedCount s.workers < cfg.branches.length := by
    rw [← h.length_workers, finishedCount, countP_lt_length_iff]
    exact ⟨w, mem_of_getElem? hw, by simpa using hp⟩
  have hroom := h.room
  have hchan : s.resultChan.length + move.sent.toList.length ≤ cfg.branches.length := by
    rw [sent, length_append] at hroom
    have : move.sent.toList.length ≤ 1 := by cases move.sent <;> simp
    omega
  refine ⟨_, move, hb, hm, ?_⟩
  simp [step, hw, hb, hctx, hm, hchan]

theorem sum_rank_set (hw : workers[index]? = some w) (hlt : w'.rank cfg < w.rank cfg) :
    ((workers.set index w').map (Worker.rank cfg)).sum < (workers.map (Worker.rank cfg)).sum := by
  induction workers generalizing index with
  | nil => cases hw
  | cons v workers ih =>
    cases index with
    | zero =>
      cases hw
      simpa using hlt
    | succ index => simpa using ih hw

/-- Every branch has ended in a live context, none with a checked result, and the collector
has taken all that they sent. -/
def AllFailed (s : Parallel) : Prop :=
  (∀ w ∈ s.workers, w.phase = .finished) ∧ s.ctxErr = none ∧ s.resultChan = [] ∧
    ∀ result ∈ s.received, result.checked = false

/-- Success is reported only for a checked result, and the failure of all branches is
reported. -/
structure SoundOutcome (s : Parallel) : Prop where
  passed : s.collector = .returned none → ∃ result ∈ s.received, result.checked = true
  failed : s.AllFailed → s.collector = .returned (some (handleAllRequestsFailed s.lastErr))

variable {events : List ParallelEvent}

theorem coherent_of_run (hrun : run (step cfg) (start cfg) events = some s) : Coherent cfg s :=
  invariant_of_step (fun _ _ _ hI => Coherent.step hI) coherent_start hrun

theorem collects_of_run (hrun : run (step cfg) (start cfg) events = some s) : Collects cfg s :=
  invariant_of_step (fun _ _ _ hI => Collects.step hI) (collects_collect rfl) hrun

theorem soundOutcome_of_empty (h : Collects cfg s) (hnil : cfg.branches = []) : s.SoundOutcome where
  passed hn := by
    rw [h.empty hnil] at hn
    cases hn
  failed _ := h.empty hnil

theorem soundOutcome_of_passes (h : Coherent cfg s) (h' : Collects cfg s)
    (hpass : ∃ b ∈ cfg.branches, cfg.Passes b) (hstop : ∀ b ∈ cfg.branches, ¬cfg.Stops b none) :
    s.SoundOutcome where
  passed hn := by
    obtain ⟨result, hmem, herr⟩ := h'.nil_error hn
    obtain ⟨b, hb, ⟨hc, -, -⟩ | ⟨-, ⟨hmax, -⟩ | hs⟩⟩ :=
      h.sends result (mem_append_left _ hmem)
    · exact ⟨result, hmem, hc⟩
    · obtain ⟨b', -, n, hn, -⟩ := hpass
      have := one_le_maxAttempts hn
      omega
    · rw [herr] at hs
      exact absurd hs (hstop b hb)
  failed hall := by
    obtain ⟨hfin, hctx, hchan, hunchecked⟩ := hall
    obtain ⟨b, hb, hpass⟩ := hpass
    obtain ⟨index, hlt, hget⟩ := getElem_of_mem hb
    have hlt' : index < s.workers.length := h.length_workers ▸ hlt
    have hw := getElem?_eq_getElem hlt'
    have hb' : cfg.branches[index]? = some b := hget ▸ getElem?_eq_getElem hlt
    rcases h.ends hctx index _ b hw hb' (hfin _ (getElem_mem hlt')) with
      ⟨result, hmem, hsends⟩ | hvanish
    · rw [sent, hchan, append_nil] at hmem
      have hc := hsends.checked_of_passes hpass
      rw [hunchecked result hmem] at hc
      cases hc
    · exact absurd hvanish hpass.not_vanishes

theorem exists_not_sound_of_not_passes (hne : cfg.branches ≠ [])
    (hpass : ¬∃ b ∈ cfg.branches, cfg.Passes b) :
    ∃ events s, run (step cfg) (start cfg) events = some s ∧ ¬s.SoundOutcome := by
  have hwait : (start cfg).collector = .waiting := if_pos (length_pos_iff.mpr hne)
  -- the workers are driven to their ends, and then the channel is emptied
  have hreach := exists_reaches (step cfg)
    (I := fun s => Coherent cfg s ∧ Collects cfg s ∧ s.ctxErr = none ∧
      (s.collector = .waiting ∨ s.collector = .returned none))
    (Q := fun s => s.collector = .returned none ∨ s.collector = .waiting ∧ s.resultChan = [] ∧
      ∀ w ∈ s.workers, w.phase = .finished)
    (fun s => 2 * (s.workers.map (Worker.rank cfg)).sum + s.resultChan.length)
    ⟨coherent_start, collects_collect rfl, rfl, .inl hwait⟩ ?_
  · obtain ⟨t, ⟨events, hrun⟩, ⟨hcoherent, -, hctx, -⟩, hend⟩ := hreach
    have hunchecked : ∀ result ∈ t.received, result.checked = false := by
      intro result hmem
      obtain ⟨b, hb, hsends⟩ := hcoherent.sends result (mem_append_left _ hmem)
      by_contra hc
      exact hpass ⟨b, hb, hsends.passes_of_checked (by simpa using hc)⟩
    refine ⟨events, t, hrun, fun hsound => ?_⟩
    rcases hend with hnone | ⟨hwaiting, hchan, hall⟩
    · obtain ⟨result, hmem, hc⟩ := hsound.passed hnone
      rw [hunchecked result hmem] at hc
      cases hc
    · have hret := hsound.failed ⟨hall, hctx, hchan, hunchecked⟩
      rw [hwaiting] at hret
      cases hret
  · rintro s ⟨hcoherent, hcollects, hctx, hcollector⟩ hnot
    obtain ⟨hnone, hnot⟩ := not_or.mp hnot
    have hwaiting := hcollector.resolve_right hnone
    cases hchan : s.resultChan with
    | cons result rest =>
      have hstep : step cfg s .receive = some (receiveResult cfg
          { s with resultChan := rest, received := s.received ++ [result] } result) := by
        simp [step, hwaiting, hchan]
      refine ⟨_, _, hstep, ⟨hcoherent.step hstep, hcollects.step hstep, ?_⟩, ?_⟩
      · rw [receiveResult]
        split
        · exact ⟨hctx, .inr rfl⟩
        · refine ⟨hctx, .inl (if_pos ?_)⟩
          exact (hcollects.count hwaiting).symm ▸ length_pos_iff.mpr hne
      · rw [receiveResult]
        split <;> simp [handleSuccessfulResponse, handleFailedResponse, collect]
    | nil =>
      obtain ⟨w, hmem, hp⟩ : ∃ w ∈ s.workers, w.phase ≠ .finished := by
        simpa [hwaiting, hchan] using hnot
      obtain ⟨index, hw⟩ := mem_iff_getElem?.mp hmem
      obtain ⟨b, move, hb, hm, hstep⟩ := step_work hcoherent hctx hw hp
      refine ⟨_, _, hstep, ⟨.work hcoherent hw hb hm, hcollects.step hstep, hctx, hcollector⟩, ?_⟩
      have hlt := sum_rank_set hw
        (Worker.leaves_of_advance (hcoherent.onTrail index w b hw hb) hm).rank_lt
      have : move.sent.toList.length ≤ 1 := by cases move.sent <;> simp
      simp only [applyMove, hchan, nil_append, length_nil]
      omega

theorem exists_not_sound_of_stops {b : BranchAnswers} (hb : b ∈ cfg.branches)
    (hstop : cfg.Stops b none) :
    ∃ events s, run (step cfg) (start cfg) events = some s ∧ ¬s.SoundOutcome := by
  obtain ⟨index, hbranch⟩ := mem_iff_getElem?.mp hb
  -- only the worker of this branch is driven, so that the collector takes its result first
  have hreach := exists_reaches (step cfg)
    (I := fun s => Coherent cfg s ∧ s.ctxErr = none ∧ s.collector = .waiting ∧
      s.received = [] ∧ ∀ result ∈ s.resultChan, cfg.Sends b result)
    (Q := fun s => ∃ w, s.workers[index]? = some w ∧ w.phase = .finished)
    (fun s => (s.workers.map (Worker.rank cfg)).sum)
    ⟨coherent_start, rfl, if_pos (length_pos_of_mem hb), rfl, nofun⟩ ?_
  · obtain ⟨t, hreach, ⟨hcoherent, hctx, hwait, hreceived, hsends⟩, w, hw, hp⟩ := hreach
    obtain ⟨_, hmem, -⟩ :=
      (hcoherent.ends hctx index w b hw hbranch hp).resolve_right hstop.not_vanishes
    rw [sent, hreceived, nil_append] at hmem
    obtain ⟨result, rest, hchan⟩ := exists_cons_of_ne_nil (ne_nil_of_mem hmem)
    obtain ⟨hunchecked, herr⟩ : result.checked = false ∧ result.err = none := by
      rcases hsends result (by simp [hchan]) with ⟨-, -, hpass⟩ | ⟨hc, ⟨-, herr⟩ | hs⟩
      · exact absurd hstop hpass.not_stops
      · exact ⟨hc, herr⟩
      · exact ⟨hc, hs.err_unique hstop⟩
    have hstep : step cfg t .receive = some (receiveResult cfg
        { t with resultChan := rest, received := t.received ++ [result] } result) := by
      simp [step, hwait, hchan]
    obtain ⟨events, hrun⟩ := hreach.trans (.head hstep (.refl _))
    refine ⟨events, _, hrun, fun hsound => ?_⟩
    obtain ⟨result', hmem', hc⟩ :=
      hsound.passed (by simp [receiveResult, herr, handleSuccessfulResponse])
    simp only [receiveResult, herr, handleSuccessfulResponse, hreceived, nil_append,
      mem_singleton] at hmem'
    rw [hmem', hunchecked] at hc
    cases hc
  · rintro s ⟨hcoherent, hctx, hwait, hreceived, hsends⟩ hnot
    have hlt : index < s.workers.length :=
      hcoherent.length_workers ▸ (List.getElem?_eq_some_iff.mp hbranch).1
    have hw := List.getElem?_eq_getElem hlt
    obtain ⟨b', move, hb', hm, hstep⟩ :=
      step_work hcoherent hctx hw fun hp => hnot ⟨_, hw, hp⟩
    cases hbranch.symm.trans hb'
    have hleaves := Worker.leaves_of_advance (hcoherent.onTrail index _ b hw hb') hm
    refine ⟨_, _, hstep, ⟨.work hcoherent hw hb' hm, hctx, hwait, hreceived, fun result hr => ?_⟩,
      sum_rank_set hw hleaves.rank_lt⟩
    rcases mem_append.mp hr with hr | hr
    · exact hsends result hr
    · exact hleaves.sends result (mem_toList.mp hr)

/-- The outcome is sound under every schedule exactly when there is no branch at all, or
some branch passes its check and none ends on a failed check without a transport error. -/
theorem soundOutcome_iff (cfg : ParallelConfig) :
    (∀ events s, run (step cfg) (start cfg) events = some s → s.SoundOutcome) ↔
      cfg.branches = [] ∨
        (∃ b ∈ cfg.branches, cfg.Passes b) ∧ ∀ b ∈ cfg.branches, ¬cfg.Stops b none := by
  constructor
  · intro hall
    by_contra hcond
    rw [not_or, not_and_or] at hcond
    obtain ⟨hne, hpass | hstop⟩ := hcond
    · obtain ⟨events, s, hrun, hnot⟩ := exists_not_sound_of_not_passes hne hpass
      exact hnot (hall events s hrun)
    · push Not at hstop
      obtain ⟨b, hb, hstop⟩ := hstop
      obtain ⟨events, s, hrun, hnot⟩ := exists_not_sound_of_stops hb hstop
      exact hnot (hall events s hrun)
  · rintro (hnil | ⟨hpass, hstop⟩) events s hrun
    · exact soundOutcome_of_empty (collects_of_run hrun) hnil
    · exact soundOutcome_of_passes (coherent_of_run hrun) (collects_of_run hrun) hpass hstop

def worksOn (index : Nat) : ParallelEvent → Bool
  | .work i => i == index
  | _ => false

/-- What the worker has moved and what it may still move is within the bound. -/
def WithinMoves (cfg : ParallelConfig) (index : Nat) (s : Parallel) (n : Nat) : Prop :=
  ∀ w, s.workers[index]? = some w → n + w.rank cfg ≤ 4 * (cfg.maxAttempts - 1).toNat + 5

theorem withinMoves_set {i index n k : Nat} {w w' : Worker} (h : WithinMoves cfg index s n)
    (hw : s.workers[i]? = some w) (hrank : w'.rank cfg + k ≤ w.rank cfg)
    (hworkers : s'.workers = s.workers.set i w') :
    WithinMoves cfg index s' (n + if i = index then k else 0) := by
  intro u hu
  rw [hworkers] at hu
  by_cases hi : i = index
  · subst hi
    rw [getElem?_set_self (List.getElem?_eq_some_iff.mp hw).1, some.injEq] at hu
    have := h w hw
    rw [← hu, if_pos rfl]
    omega
  · rw [getElem?_set_ne hi] at hu
    rw [if_neg hi]
    exact h u hu

theorem withinMoves_step {index n : Nat} (hc : Coherent cfg s) (h : WithinMoves cfg index s n)
    (hstep : step cfg s event = some s') :
    WithinMoves cfg index s' (n + if worksOn index event then 1 else 0) := by
  cases moves_of_step hstep with
  | work hw hb _ hm =>
    have hleaves := Worker.leaves_of_advance (hc.onTrail _ _ _ hw hb) hm
    simpa [worksOn] using withinMoves_set h hw hleaves.rank_lt rfl
  | cut hw => simpa [worksOn] using withinMoves_set (k := 0) h hw (Nat.zero_le _) rfl
  | receive =>
    rw [receiveResult]
    split <;> exact h
  | _ => exact h

/-- A branch can go on whenever the context is live, as the channel has room for its result, and
under every schedule it ends after a bounded number of moves. -/
theorem no_branch_left_behind (cfg : ParallelConfig) {events : List ParallelEvent} {s : Parallel}
    (hrun : run (step cfg) (start cfg) events = some s) {index : Nat} {w : Worker}
    (hw : s.workers[index]? = some w) :
    (s.ctxErr = none → w.phase ≠ .finished → ∃ s', step cfg s (.work index) = some s') ∧
      events.countP (worksOn index) ≤ 4 * (cfg.maxAttempts - 1).toNat + 5 := by
  constructor
  · intro hctx hp
    obtain ⟨b, move, -, -, hstep⟩ := step_work (coherent_of_run hrun) hctx hw hp
    exact ⟨_, hstep⟩
  · have hstart : WithinMoves cfg index (start cfg) 0 := by
      intro w hw
      rw [start, collect, getElem?_map, map_eq_some_iff] at hw
      obtain ⟨b, -, rfl⟩ := hw
      by_cases hmax : 1 ≤ cfg.maxAttempts <;> simp [Worker.rank, Worker.start, hmax]
    have hmoves := invariant_count (I := fun s n => Coherent cfg s ∧ WithinMoves cfg index s n)
      (C := fun _ _ => True) (p := worksOn index)
      (fun _ _ _ _ h _ (he : step cfg _ _ = _) => ⟨h.1.step he, withinMoves_step h.1 h.2 he⟩)
      ⟨coherent_start, hstart⟩ (.of_forall fun _ _ => trivial) hrun
    have := hmoves.2 w hw
    omega

end Parallel

def sampleParallel (answers : List RelayAnswer) : ParallelConfig where
  net := NetLib.ascii
  heur := calmHeuristics
  payload := ⟨"", "", .jsonRPC, .unknownRPC, "eth_blockNumber"⟩
  retryConfig := none
  circuitBreaker := false
  branches := answers.map fun a =>
    ⟨[], fun _ => a, fun _ => ⟨.ok [], false, .ok, fun eps => eps.headD "", none⟩⟩

def serverError : RelayAnswer :=
  ⟨[⟨"oops", 500, rmAddr, ""⟩], none, false, 1⟩

def brokenConnection : RelayAnswer := ⟨[], some "EOF", false, 1⟩

def twoBranches : List ParallelEvent :=
  replicate 4 (.work 0) ++ replicate 4 (.work 1) ++ [.receive, .receive]

theorem soleBranch_goes_on : ∃ cfg s w,
    run (Parallel.step cfg) (Parallel.start cfg) [.work 0] = some s ∧
      s.workers[0]? = some w ∧ (∃ s', Parallel.step cfg s (.work 0) = some s') ∧
      [.work 0].countP (Parallel.worksOn 0) ≤ 4 * (cfg.maxAttempts - 1).toNat + 5 := by
  refine ⟨sampleParallel [serverError], _, _, rfl, rfl, ?_⟩
  exact (Parallel.no_branch_left_behind _ rfl rfl).imp_left fun h => h rfl (by decide +kernel)

theorem unsound_parallel_outcome :
    (¬∀ (cfg : ParallelConfig) (events : List ParallelEvent) (s : Parallel),
      run (Parallel.step cfg) (Parallel.start cfg) events = some s →
        s.collector = .returned none → ∃ result ∈ s.received, result.checked = true) ∧
    ¬∀ (cfg : ParallelConfig) (events : List ParallelEvent) (s : Parallel),
      run (Parallel.step cfg) (Parallel.start cfg) events = some s → s.AllFailed →
        s.collector = .returned (some (handleAllRequestsFailed s.lastErr)) := by
  constructor
  · exact fun h => not_forall_of_any (by decide +kernel)
      (h (sampleParallel [serverError, serverError]) (twoBranches.take 9))
  · intro h
    have hret := h (sampleParallel [brokenConnection, brokenConnection]) twoBranches _
      (eq_some_of_isSome (by decide +kernel)) ⟨by decide +kernel, by decide +kernel,
        by decide +kernel, by decide +kernel⟩
    exact absurd hret (by decide +kernel)

end PathGateway
