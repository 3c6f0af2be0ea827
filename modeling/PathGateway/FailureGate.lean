import Mathlib.Data.Bool.Count
import PathGateway.CircuitBreaker

/-! Soundness of the failure-rate gate of a breaker without Redis. The outcomes are written down in
the order of their lock; what a window has counted, and when the domain last broke, is read off
this log. A domain is reported broken only after a failure that passes the gate there. -/

namespace PathGateway

open Duration DomainCircuitBreaker Fleet Machine List Option

structure OutcomesSince where
  windowStart : Time
  outcomes : List Bool

namespace OutcomesSince

def add (since : OutcomesSince) (failed : Bool) : OutcomesSince :=
  { since with outcomes := since.outcomes ++ [failed] }

def rollOver (cfg : BreakerConfig) (current : Option OutcomesSince) (now : Time) : OutcomesSince :=
  match current with
  | some since => if since.windowStart + cfg.failureWindow < now then ⟨now, []⟩ else since
  | none => ⟨now, []⟩

end OutcomesSince

section Log

variable (cfg : BreakerConfig) (serviceID domain : String)

def recordOutcome (current : Option OutcomesSince) : StatsRecord → Option OutcomesSince
  | .succeeded s d now =>
    if s = serviceID ∧ d = domain then some ((OutcomesSince.rollOver cfg current now).add false)
    else current
  | .failed s d now none =>
    if s = serviceID ∧ d = domain then some ((OutcomesSince.rollOver cfg current now).add true)
    else current
  -- a break consumes the window
  | .failed s d now (some _) => if s = serviceID ∧ d = domain then some ⟨now, []⟩ else current
  | .cleared s => if s = serviceID then none else current

variable (log : List StatsRecord)

def sinceWindowStart : Option OutcomesSince := log.foldl (recordOutcome cfg serviceID domain) none

def recordBreak (last : Option Time) : StatsRecord → Option Time
  | .failed s d now (some _) => if s = serviceID ∧ d = domain then some now else last
  | .cleared s => if s = serviceID then none else last
  | _ => last

def lastBreak : Option Time := log.foldl (recordBreak serviceID domain) none

def brokeRecently (now : Time) : Bool :=
  (lastBreak serviceID domain log).any fun t => now ≤ t + cfg.escalationMemory

def outcomesAt (now : Time) : List Bool :=
  ((OutcomesSince.rollOver cfg (sinceWindowStart cfg serviceID domain log) now).add true).outcomes

def failureRate (outcomes : List Bool) : ℚ := (outcomes.count true : ℚ) / outcomes.length

structure PassesGate (log : List StatsRecord) (now : Time) (recently : Bool) : Prop where
  enough : cfg.minFailures ≤ (outcomesAt cfg serviceID domain log now).count true
  rate : cfg.failureRateThreshold + (if recently then cfg.rebreakMargin else 0) ≤
    failureRate (outcomesAt cfg serviceID domain log now)

variable {cfg serviceID domain} {log : List StatsRecord} {r : StatsRecord}

theorem sinceWindowStart_concat :
    sinceWindowStart cfg serviceID domain (log ++ [r]) =
      recordOutcome cfg serviceID domain (sinceWindowStart cfg serviceID domain log) r := by
  rw [sinceWindowStart, foldl_append]
  rfl

theorem lastBreak_concat :
    lastBreak serviceID domain (log ++ [r]) =
      recordBreak serviceID domain (lastBreak serviceID domain log) r := by
  rw [lastBreak, foldl_append]
  rfl

end Log

structure Represents (w : Option DomainOutcomeWindow) (since : Option OutcomesSince)
    (last : Option Time) : Prop where
  counts : w.map (fun w => (w.windowStart, w.failures, w.successes)) =
    since.map fun s => (s.windowStart, s.outcomes.count true, s.outcomes.count false)
  episode : w.bind DomainOutcomeWindow.lastEpisodeAt = last

namespace DomainCircuitBreaker

variable {cfg : BreakerConfig} {cb : DomainCircuitBreaker} {serviceID domain : String} {now : Time}
  {since : Option OutcomesSince} {last : Option Time}

theorem windowLocked_spec (h : Represents (cb.windowOf serviceID domain) since last) :
    let w := cb.windowLocked cfg serviceID domain now
    let rolled := OutcomesSince.rollOver cfg since now
    w.windowStart = rolled.windowStart ∧ w.failures = rolled.outcomes.count true ∧
      w.successes = rolled.outcomes.count false ∧ w.lastEpisodeAt = last := by
  obtain ⟨hcounts, hepisode⟩ := h
  dsimp only
  rw [windowLocked]
  cases hw : cb.windowOf serviceID domain with
  | none =>
    rw [hw] at hcounts hepisode
    cases hsince : since with
    | none => exact ⟨rfl, rfl, rfl, hepisode⟩
    | some => simp [hsince] at hcounts
  | some =>
    rw [hw] at hcounts hepisode
    cases hsince : since with
    | none => simp [hsince] at hcounts
    | some =>
      simp only [hsince, map_some, some.injEq, Prod.mk.injEq] at hcounts
      obtain ⟨hstart, hfailures, hsuccesses⟩ := hcounts
      dsimp only [OutcomesSince.rollOver]
      rw [hstart]
      split
      · exact ⟨rfl, rfl, rfl, hepisode⟩
      · exact ⟨hstart, hfailures, hsuccesses, hepisode⟩

theorem represents_recordSuccess (h : Represents (cb.windowOf serviceID domain) since last) :
    Represents ((cb.recordSuccess cfg serviceID domain now).windowOf serviceID domain)
    (some ((OutcomesSince.rollOver cfg since now).add false)) last := by
  obtain ⟨hstart, hfailures, hsuccesses, hepisode⟩ := @windowLocked_spec cfg _ _ _ now _ _ h
  rw [recordSuccess, windowOf_storeWindow, if_pos ⟨rfl, rfl⟩]
  exact ⟨by simp [OutcomesSince.add, hstart, hfailures, hsuccesses], hepisode⟩

theorem shouldBreak_spec {log : List StatsRecord}
    {breaker : DomainCircuitBreaker} {hitCount : Option ℤ}
    (h : Represents (cb.windowOf serviceID domain)
      (sinceWindowStart cfg serviceID domain log) (lastBreak serviceID domain log))
    (hgate : cb.shouldBreak cfg serviceID domain now = (breaker, hitCount)) :
    (∃ w, breaker = cb.storeWindow serviceID domain w) ∧
    Represents (breaker.windowOf serviceID domain)
      (sinceWindowStart cfg serviceID domain (log ++ [.failed serviceID domain now hitCount]))
      (lastBreak serviceID domain (log ++ [.failed serviceID domain now hitCount])) ∧
    (hitCount ≠ none →
      PassesGate cfg serviceID domain log now (brokeRecently cfg serviceID domain log now)) := by
  obtain ⟨hstart, hfailures, hsuccesses, hepisode⟩ := @windowLocked_spec cfg _ _ _ now _ _ h
  rw [sinceWindowStart_concat, lastBreak_concat]
  unfold shouldBreak at hgate
  generalize cb.windowLocked cfg serviceID domain now = w at *
  have hrecently : recentlyBroken cfg now w = brokeRecently cfg serviceID domain log now := by
    rw [recentlyBroken, hepisode, brokeRecently]
  have hcount : (outcomesAt cfg serviceID domain log now).count true = w.failures + 1 := by
    simp [outcomesAt, OutcomesSince.add, hfailures]
  have hlength : (outcomesAt cfg serviceID domain log now).length =
      w.failures + 1 + w.successes := by
    have htotal := count_true_add_count_false (outcomesAt cfg serviceID domain log now)
    have hfalse : (outcomesAt cfg serviceID domain log now).count false = w.successes := by
      simp [outcomesAt, OutcomesSince.add, hsuccesses]
    omega
  dsimp only at hgate
  split_ifs at hgate with hpasses
  · cases hgate
    refine ⟨⟨_, rfl⟩, ?_, by simp⟩
    rw [windowOf_storeWindow, if_pos ⟨rfl, rfl⟩]
    exact ⟨by simp [recordOutcome, OutcomesSince.add, hstart, hfailures, hsuccesses], hepisode⟩
  · cases hgate
    rw [not_or, not_or, not_lt, not_lt] at hpasses
    refine ⟨⟨_, rfl⟩, ?_, fun _ => ⟨hcount ▸ hpasses.1, ?_⟩⟩
    · rw [windowOf_storeWindow, if_pos ⟨rfl, rfl⟩]
      exact ⟨by simp [recordOutcome], by simp [recordBreak]⟩
    · rw [failureRate, hcount, hlength, ← hrecently]
      exact hpasses.2.2

end DomainCircuitBreaker

theorem split_concat {α : Type} {log pre post : List α} {r x : α}
    (h : log ++ [r] = pre ++ x :: post) : (pre = log ∧ x = r) ∨ ∃ rest, log = pre ++ x :: rest := by
  rcases eq_nil_or_concat post with rfl | ⟨rest, y, rfl⟩
  · obtain ⟨rfl, hx⟩ := append_inj' h rfl
    exact .inl ⟨rfl, (cons.inj hx).1.symm⟩
  · rw [concat_eq_append, ← cons_append, ← append_assoc] at h
    exact .inr ⟨rest, (append_inj' h rfl).1⟩

namespace Pod

structure Accountable (cfg : BreakerConfig) (p : Pod) : Prop where
  windows : ∀ serviceID domain, Represents (p.breaker.windowOf serviceID domain)
    (sinceWindowStart cfg serviceID domain p.log) (lastBreak serviceID domain p.log)
  gated : ∀ pre serviceID domain now hitCount post,
    p.log = pre ++ .failed serviceID domain now (some hitCount) :: post →
    PassesGate cfg serviceID domain pre now (brokeRecently cfg serviceID domain pre now)
  decided : ∀ call ∈ p.marks, ∀ hitCount, call.phase = .decided hitCount →
    .failed call.serviceID call.domain call.now (some hitCount) ∈ p.log
  cached : ∀ serviceID domain state, p.breaker.stateOf serviceID domain = some state →
    ∃ now, .failed serviceID domain now (some state.hitCount) ∈ p.log ∧
      state.expiry = now + DomainCircuitBreaker.escalatedTTL cfg state.hitCount
  localOnly : ∀ call ∈ p.gets, call.phase = .stale ∨ call.phase = .returned

variable {cfg : BreakerConfig} {p p' : Pod} {clock : Time} {event : PodEvent} {move : PodMove}

theorem accountable_start : Accountable cfg start where
  windows _ _ := ⟨rfl, rfl⟩
  gated pre _ _ _ _ _ h := by cases pre <;> cases h
  decided call hcall := by cases hcall
  cached _ _ _ h := by cases h
  localOnly call hcall := by cases hcall

theorem Accountable.of_quiet (h : Accountable cfg p)
    (hlog : p'.log = p.log) (hstats : p'.breaker.stats = p.breaker.stats)
    (hstates : ∀ serviceID domain state, p'.breaker.stateOf serviceID domain = some state →
      p.breaker.stateOf serviceID domain = some state)
    (hmarks : ∀ call ∈ p'.marks, call ∈ p.marks ∨ ∀ hitCount, call.phase ≠ .decided hitCount)
    (hgets : ∀ call ∈ p'.gets, call ∈ p.gets ∨ call.phase = .stale ∨ call.phase = .returned) :
    Accountable cfg p' where
  windows serviceID domain := by
    rw [hlog, windowOf, hstats]
    exact h.windows serviceID domain
  gated := hlog ▸ h.gated
  decided call hcall hitCount hp := by
    rcases hmarks call hcall with hold | hnot
    · exact hlog ▸ h.decided call hold hitCount hp
    · exact absurd hp (hnot hitCount)
  cached serviceID domain state hstate := hlog ▸ h.cached _ _ _ (hstates _ _ _ hstate)
  localOnly call hcall := (hgets call hcall).elim (h.localOnly call) id

variable {i : ℕ} {call : MarkCall}

theorem mem_setMark {phase : MarkPhase} (hphase : ∀ hitCount, phase ≠ .decided hitCount) :
    ∀ c ∈ (p.setMark i call phase).marks, c ∈ p.marks ∨
      ∀ hitCount, c.phase ≠ .decided hitCount := by
  intro c hc
  rcases mem_or_eq_of_mem_set hc with hold | rfl
  · exact .inl hold
  · exact .inr hphase

theorem mem_setGet {call : GetCall} :
    ∀ c ∈ (p.setGet i call .returned).gets, c ∈ p.gets ∨
      c.phase = .stale ∨ c.phase = .returned := by
  intro c hc
  rcases mem_or_eq_of_mem_set hc with hold | rfl
  · exact .inl hold
  · exact .inr (.inr rfl)

theorem Accountable.record {r : StatsRecord} (h : Accountable cfg p) (hlog : p'.log = p.log ++ [r])
    (hwindows : ∀ serviceID domain, Represents (p'.breaker.windowOf serviceID domain)
    (recordOutcome cfg serviceID domain (sinceWindowStart cfg serviceID domain p.log) r)
    (recordBreak serviceID domain (lastBreak serviceID domain p.log) r))
    (hgate : ∀ serviceID domain now hitCount, r = .failed serviceID domain now (some hitCount) →
    PassesGate cfg serviceID domain p.log now (brokeRecently cfg serviceID domain p.log now))
    (hstates : p'.breaker.stateOf = p.breaker.stateOf)
    (hmarks : ∀ call ∈ p'.marks, ∀ hitCount, call.phase = .decided hitCount → call ∈ p.marks ∨
    r = .failed call.serviceID call.domain call.now (some hitCount)) (hgets : p'.gets = p.gets) :
    Accountable cfg p' where
  windows serviceID domain := by
    rw [hlog, sinceWindowStart_concat, lastBreak_concat]
    exact hwindows serviceID domain
  gated pre serviceID domain now hitCount post heq := by
    rcases split_concat (hlog ▸ heq) with ⟨rfl, hr⟩ | ⟨rest, hold⟩
    · exact hgate _ _ _ _ hr.symm
    · exact h.gated _ _ _ _ _ _ hold
  decided call hcall hitCount hp := by
    rw [hlog]
    rcases hmarks call hcall hitCount hp with hold | rfl
    · exact mem_append_left _ (h.decided call hold hitCount hp)
    · exact mem_append_right _ (mem_singleton.mpr rfl)
  cached serviceID domain state hstate := by
    rw [hstates] at hstate
    obtain ⟨now, hmem, hexpiry⟩ := h.cached _ _ _ hstate
    exact ⟨now, hlog ▸ mem_append_left _ hmem, hexpiry⟩
  localOnly := hgets ▸ h.localOnly

variable {serviceID domain : String}

theorem represents_storeWindow {r : StatsRecord} {w : DomainOutcomeWindow} (h : Accountable cfg p)
    (hsame : Represents
      (some w) (recordOutcome cfg serviceID domain (sinceWindowStart cfg serviceID domain p.log) r)
      (recordBreak serviceID domain (lastBreak serviceID domain p.log) r))
    (hothers : ∀ serviceID' domain', ¬(serviceID' = serviceID ∧ domain' = domain) →
      (∀ current, recordOutcome cfg serviceID' domain' current r = current) ∧
      ∀ last, recordBreak serviceID' domain' last r = last)
    (serviceID' domain' : String) :
    Represents ((p.breaker.storeWindow serviceID domain w).windowOf serviceID' domain')
      (recordOutcome cfg serviceID' domain' (sinceWindowStart cfg serviceID' domain' p.log) r)
      (recordBreak serviceID' domain' (lastBreak serviceID' domain' p.log) r) := by
  rw [windowOf_storeWindow]
  split_ifs with hkey
  · obtain ⟨rfl, rfl⟩ := hkey
    exact hsame
  · rw [(hothers _ _ hkey).1, (hothers _ _ hkey).2]
    exact h.windows _ _

theorem Accountable.success (h : Accountable cfg p) :
    Accountable cfg { p with
      breaker := p.breaker.recordSuccess cfg serviceID domain clock
      log := p.log ++ [.succeeded serviceID domain clock] } := by
  refine h.record rfl ?_ (by simp) rfl (fun call hcall _ _ => .inl hcall) rfl
  refine represents_storeWindow h ?_
    fun serviceID' domain' hkey => ⟨fun current => ?_, fun _ => rfl⟩
  · have hrep := @DomainCircuitBreaker.represents_recordSuccess cfg _ _ _ clock _ _
      (h.windows serviceID domain)
    rw [DomainCircuitBreaker.recordSuccess, DomainCircuitBreaker.windowOf_storeWindow,
      if_pos ⟨rfl, rfl⟩] at hrep
    simpa [recordOutcome, recordBreak] using hrep
  · rw [recordOutcome, if_neg (fun heq => hkey ⟨heq.1.symm, heq.2.symm⟩)]

theorem Accountable.gate {breaker : DomainCircuitBreaker}
    {hitCount : Option ℤ} (h : Accountable cfg p)
    (hgate : p.breaker.shouldBreak cfg call.serviceID call.domain call.now = (breaker, hitCount)) :
    Accountable cfg { p.setMark i call (hitCount.elim .returned .decided) with
      breaker := breaker
      log := p.log ++ [.failed call.serviceID call.domain call.now hitCount] } := by
  obtain ⟨⟨w, rfl⟩, hrep, hpasses⟩ :=
    shouldBreak_spec (h.windows call.serviceID call.domain) hgate
  rw [sinceWindowStart_concat, lastBreak_concat, windowOf_storeWindow, if_pos ⟨rfl, rfl⟩] at hrep
  refine h.record rfl (represents_storeWindow h hrep ?_) ?_ rfl ?_ rfl
  · intro serviceID' domain' hkey
    have hne : ¬(call.serviceID = serviceID' ∧ call.domain = domain') :=
      fun heq => hkey ⟨heq.1.symm, heq.2.symm⟩
    cases hitCount with
    | none => exact ⟨fun _ => if_neg hne, fun _ => rfl⟩
    | some => exact ⟨fun _ => if_neg hne, fun _ => if_neg hne⟩
  · rintro serviceID domain now hits heq
    cases heq
    exact hpasses (by simp)
  · intro c hc hits hp
    rcases mem_or_eq_of_mem_set hc with hold | rfl
    · exact .inl hold
    · cases hitCount with
      | none => cases hp
      | some =>
        cases hp
        exact .inr rfl

theorem Accountable.forget {call : ClearCall} {phase : ClearPhase}
    (h : Accountable cfg p) : Accountable cfg { p.setClear i call phase with
      breaker := p.breaker.clearStats call.serviceID
      log := p.log ++ [.cleared call.serviceID] } := by
  refine h.record rfl ?_ (by simp) rfl (fun call hcall _ _ => .inl hcall) rfl
  intro serviceID domain
  rw [windowOf_clearStats, recordOutcome, recordBreak]
  by_cases heq : call.serviceID = serviceID
  · rw [if_pos heq.symm, if_pos heq, if_pos heq]
    exact ⟨rfl, rfl⟩
  · rw [if_neg (Ne.symm heq), if_neg heq, if_neg heq]
    exact h.windows _ _

theorem Accountable.write {hitCount : ℤ} {phase : MarkPhase}
    (h : Accountable cfg p) (hcall : p.marks[i]? = some call)
    (hp : call.phase = .decided hitCount) (hphase : ∀ hits, phase ≠ .decided hits) :
    Accountable cfg { p.setMark i call phase with
      breaker := p.breaker.storeState cfg call.serviceID call.domain call.now
        (brokenState cfg call hitCount) } where
  windows := h.windows
  gated := h.gated
  decided c hc hits hdecided := by
    rcases mem_setMark hphase c hc with hold | hnot
    · exact h.decided c hold hits hdecided
    · exact absurd hdecided (hnot hits)
  cached serviceID domain state hstate := by
    rw [stateOf_storeState] at hstate
    split_ifs at hstate with hkey
    · obtain ⟨rfl, rfl⟩ := hkey
      cases hstate
      exact ⟨call.now, h.decided call (mem_of_getElem? hcall) hitCount hp, rfl⟩
    · exact h.cached _ _ _ hstate
  localOnly := h.localOnly

theorem Accountable.step (h : Accountable cfg p)
    (hmove : Moves cfg clock none p event move) : Accountable cfg move.pod ∧ move.redis = none := by
  cases hmove with
  | nameless | fresh => exact ⟨h, rfl⟩
  | success => exact ⟨h.success, rfl⟩
  | marked =>
    refine ⟨h.of_quiet rfl rfl (fun _ _ _ hs => hs) (fun c hc => ?_) (fun c hc => .inl hc), rfl⟩
    rcases mem_append.mp hc with hold | hnew
    · exact .inl hold
    · rw [mem_singleton.mp hnew]
      exact .inr (by simp)
  | duplicate | checked =>
    exact ⟨h.of_quiet rfl rfl (fun _ _ _ hs => hs) (mem_setMark (by simp)) fun c hc => .inl hc, rfl⟩
  | gated hcall hp hgate => exact ⟨h.gate hgate, rfl⟩
  | wrote hcall hp hphase =>
    refine ⟨h.write hcall hp ?_, rfl⟩
    rcases hphase with rfl | rfl <;> simp
  | hSet hcall hp hredis | hGetAll hcall hredis | hDel hcall hp hredis | del hcall hp hredis =>
    cases hredis
  | stale =>
    refine ⟨h.of_quiet rfl rfl (fun _ _ _ hs => hs) (fun c hc => .inl hc) (fun c hc => ?_), rfl⟩
    rcases mem_append.mp hc with hold | hnew
    · exact .inl hold
    · rw [mem_singleton.mp hnew]
      exact .inr (.inl rfl)
  | refreshed =>
    exact ⟨h.of_quiet rfl stats_refreshLocal
      (fun _ _ _ hs => stateOf_refreshLocal hs) (fun c hc => .inl hc) mem_setGet, rfl⟩
  | judged hcall hp | merged hcall hp =>
    rcases h.localOnly _ (mem_of_getElem? hcall) with hnot | hnot <;>
    · rw [hp] at hnot
      cases hnot
  | cleared =>
    refine ⟨h.of_quiet rfl rfl (fun serviceID domain state hs => ?_) (fun c hc => .inl hc)
      (fun c hc => .inl hc), rfl⟩
    rw [clearService, stateOf_clearCache] at hs
    split at hs
    · cases hs
    · exact hs
  | forgot => exact ⟨h.forget, rfl⟩

theorem Accountable.stateOf_of_report {domains : List String} (h : Accountable cfg p)
    (hmove : Moves cfg clock none p event move) (hreport : move.report = some (serviceID, domains))
    (hmem : domain ∈ domains) : ∃ state, p.breaker.stateOf serviceID domain = some state := by
  cases hmove with
  | fresh hentry =>
    cases hreport
    obtain ⟨state, hstate, -⟩ := mem_filterExpiredDomains.mp hmem
    exact ⟨state, by rw [DomainCircuitBreaker.stateOf, hentry]; exact hstate⟩
  | refreshed =>
    cases hreport
    obtain ⟨state, hstate, -⟩ := stateOf_of_mem_refreshLocal hmem
    exact ⟨state, hstate⟩
  | merged hcall hp =>
    rcases h.localOnly _ (mem_of_getElem? hcall) with hnot | hnot <;>
    · rw [hp] at hnot
      cases hnot
  | _ => cases hreport

end Pod

section Soundness

variable (cfg : BreakerConfig) (serviceID domain : String)

/-- The state of the domain comes from a failure that passed the gate. -/
def Justified (recently : List StatsRecord → Time → Bool) (log : List StatsRecord)
    (state : BrokenDomainState) : Prop :=
  ∃ pre now post, log = pre ++ .failed serviceID domain now (some state.hitCount) :: post ∧
    state.expiry = now + DomainCircuitBreaker.escalatedTTL cfg state.hitCount ∧
    PassesGate cfg serviceID domain pre now (recently pre now)

/-- However many failures there are, in no window are they too large a part. -/
def StaysBelow (log : List StatsRecord) : Prop :=
  ∀ pre now hitCount post, log = pre ++ .failed serviceID domain now hitCount :: post →
    failureRate (outcomesAt cfg serviceID domain pre now) < cfg.failureRateThreshold

/-- Whether the domain ever broke within the memory, cleared or not. -/
def brokeWithinMemory (log : List StatsRecord) (now : Time) : Bool :=
  log.any fun r => match r with
    | .failed s d t (some _) => s = serviceID && d = domain && now ≤ t + cfg.escalationMemory
    | _ => false

variable {cfg serviceID domain}

theorem PassesGate.threshold_le {log : List StatsRecord} {now : Time} {recently : Bool}
    (h : PassesGate cfg serviceID domain log now recently) :
    cfg.failureRateThreshold ≤ failureRate (outcomesAt cfg serviceID domain log now) := by
  refine le_trans (le_add_of_nonneg_right ?_) h.rate
  split
  · exact cfg.margin_nonneg
  · exact le_rfl

theorem accountable_of_run {clock : Time} {pods : ℕ} {events : List FleetEvent} {s : Fleet}
    (hrun : run (Fleet.step cfg) (Fleet.start clock pods none) events = some s) :
    (∀ p ∈ s.pods, p.Accountable cfg) ∧ s.redis = none := by
  refine invariant_of_step (I := fun s : Fleet => (∀ p ∈ s.pods, p.Accountable cfg) ∧
    s.redis = none) (fun s event s' h hstep => ?_) ⟨fun p hp => ?_, rfl⟩ hrun
  · obtain ⟨hpods, hredis⟩ := h
    rcases moves_of_step hstep with ⟨elapsed, rfl, rfl⟩ | ⟨i, e, p, move, rfl, hp, hmove, rfl⟩
    · exact ⟨hpods, hredis⟩
    · rw [hredis] at hmove
      obtain ⟨hpod, hnone⟩ := (hpods p (mem_of_getElem? hp)).step hmove
      refine ⟨fun q hq => ?_, hnone⟩
      rcases mem_or_eq_of_mem_set hq with hold | rfl
      · exact hpods q hold
      · exact hpod
  · rw [eq_of_mem_replicate hp]
    exact Pod.accountable_start

/-- Without Redis a domain is reported broken only after a failure that passed the gate, and so
never while its failures stay below the threshold. -/
theorem gate_sound (cfg : BreakerConfig) (clock : Time) (pods : ℕ) (events : List FleetEvent)
    (s : Fleet) (i : ℕ) (p : Pod) (event : PodEvent) (serviceID domain : String)
    (domains : List String)
    (hrun : run (Fleet.step cfg) (Fleet.start clock pods none) events = some s)
    (hp : s.pods[i]? = some p) (hreport : s.report cfg i event = some (serviceID, domains))
    (hmem : domain ∈ domains) :
    (∃ state, p.breaker.stateOf serviceID domain = some state ∧
      Justified cfg serviceID domain (brokeRecently cfg serviceID domain) p.log state) ∧
      ¬StaysBelow cfg serviceID domain p.log := by
  obtain ⟨hpods, hredis⟩ := accountable_of_run hrun
  have haccountable := hpods p (mem_of_getElem? hp)
  obtain ⟨move, hstep, hmove⟩ := bind_eq_some_iff.mp hreport
  rw [podMove, hp, bind_some, hredis] at hstep
  obtain ⟨state, hstate⟩ :=
    haccountable.stateOf_of_report (Pod.moves_of_step hstep) hmove hmem
  obtain ⟨now, hfailed, hexpiry⟩ := haccountable.cached _ _ _ hstate
  obtain ⟨pre, post, hlog⟩ := append_of_mem hfailed
  have hgate := haccountable.gated _ _ _ _ _ _ hlog
  refine ⟨⟨state, hstate, pre, now, post, hlog, hexpiry, hgate⟩, fun hbelow => ?_⟩
  exact absurd hgate.threshold_le (not_le.mpr (hbelow _ _ _ _ hlog))

end Soundness

section Sample

theorem broken_after_five : ∃ s p state,
    run (Fleet.step newDomainCircuitBreaker) (Fleet.start 0 1 none) breaking = some s ∧
      s.pods[0]? = some p ∧
      s.report newDomainCircuitBreaker 0 (.getBrokenDomains "eth" 0) =
        some ("eth", ["a.example.com"]) ∧
      p.breaker.stateOf "eth" "a.example.com" = some state ∧
      Justified newDomainCircuitBreaker "eth" "a.example.com"
        (brokeRecently newDomainCircuitBreaker "eth" "a.example.com") p.log state ∧
      ¬StaysBelow newDomainCircuitBreaker "eth" "a.example.com" p.log := by
  obtain ⟨⟨state, hstate, hjustified⟩, hbelow⟩ := gate_sound newDomainCircuitBreaker 0 1 breaking _
    0 _ (.getBrokenDomains "eth" 0) "eth" "a.example.com" ["a.example.com"]
    (eq_some_of_isSome (by decide +kernel)) (eq_some_of_isSome (by decide +kernel))
    (by decide +kernel) mem_cons_self
  exact ⟨_, _, state, eq_some_of_isSome _, eq_some_of_isSome _, by decide +kernel,
    hstate, hjustified, hbelow⟩

def breakingAgain : List FleetEvent :=
  breaking ++ [.pod 0 (.clearService "eth"), .pod 0 (.clearStats 0), .tick second] ++
    replicate 15 (.pod 0 (.recordSuccess "eth" "a.example.com")) ++ failing 0 5 5 ++
    [.pod 0 (.write 9)]

def beforeAgain : List StatsRecord :=
  replicate 4 (.failed "eth" "a.example.com" 0 none) ++
    [.failed "eth" "a.example.com" 0 (some 1), .cleared "eth"] ++
    replicate 15 (.succeeded "eth" "a.example.com" second) ++
    replicate 4 (.failed "eth" "a.example.com" second none)

theorem broken_without_margin : ∃ s p state,
    run (Fleet.step newDomainCircuitBreaker) (Fleet.start 0 1 none) breakingAgain = some s ∧
      s.pods[0]? = some p ∧
      s.report newDomainCircuitBreaker 0 (.getBrokenDomains "eth" 0) =
        some ("eth", ["a.example.com"]) ∧
      p.breaker.stateOf "eth" "a.example.com" = some state ∧
      ¬Justified newDomainCircuitBreaker "eth" "a.example.com"
        (brokeWithinMemory newDomainCircuitBreaker "eth" "a.example.com") p.log state := by
  refine ⟨_, _, ⟨61 * second, 1, []⟩, eq_some_of_isSome (by decide +kernel),
    eq_some_of_isSome (by decide +kernel), by decide +kernel, by decide +kernel, ?_⟩
  rintro ⟨pre, now, post, hsplit, hexpiry, hgate⟩
  have hlog : _ = beforeAgain ++ [.failed "eth" "a.example.com" second (some 1)] :=
    hsplit.symm.trans (by decide +kernel)
  rcases split_concat hlog.symm with ⟨rfl, hr⟩ | ⟨rest, hbefore⟩
  · cases hr
    exact absurd hgate.rate (by decide +kernel)
  · have hzero : ∀ r ∈ beforeAgain, ∀ t, r = .failed "eth" "a.example.com" t (some 1) → t = 0 := by
      simp [beforeAgain]
    have hnow := hzero _ (hbefore ▸ mem_append_right _ mem_cons_self) now rfl
    rw [hnow] at hexpiry
    exact absurd hexpiry (by decide +kernel)

end Sample

end PathGateway
