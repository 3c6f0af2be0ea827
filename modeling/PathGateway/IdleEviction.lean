import Mathlib.Data.Fintype.Basic
import PathGateway.CardinalityGuard

/-! Which tuples a sweep evicts. An observation is stamped with the generation, and the sweep opens
a new generation at its end: an observation that falls between the clock reading of a sweep and
that end counts for the window that the sweep closes, though it is younger than the reading. -/

namespace PathGateway

open LockPhase Option List Machine AList

variable {ι κ τ : Type*}

def AllowPhase.asking : AllowPhase τ → Option τ
  | .called labels => some labels
  | _ => none

namespace LockPhase

def since : LockPhase ι κ τ → Option Time
  | .sweeping sweep => some sweep.now
  | _ => none

end LockPhase

namespace CardinalityGuard

/-- Observations are one step each, and no sweep is forced. -/
def Plain : GuardEvent ι κ τ → Prop
  | .load _ | .loadGen _ | .stamp _ => False
  | .sweep force => force = false
  | _ => True

section Conditions

variable (cfg : GuardConfig κ τ) (s : CardinalityGuard ι κ τ)

/-- The tuple has been admitted, and since then every open interval as long as the window has had
an observation of it. -/
def Regular (labels : τ) : Prop :=
  (∃ t, (t, labels) ∈ s.observed) ∧
  ∀ a, (∃ t, (t, labels) ∈ s.observed ∧ t ≤ a) → a + cfg.evictAfter ≤ s.clock →
    ∃ t, (t, labels) ∈ s.observed ∧ a < t ∧ t < a + cfg.evictAfter

/-- No sweep is about to delete the entry of such a tuple. -/
def EvictsIdle : Prop :=
  ∀ phase ∈ s.addMu, ∀ k ∈ phase.evicting, ∀ labels, s.Regular cfg labels → cfg.hash labels ≠ k

/-- An observation during a sweep happens while the clock still shows what the sweep has read, and
its entry is not about to be deleted. -/
def Timely : GuardEvent ι κ τ → Prop
  | .observe i => ∀ phase ∈ s.addMu, (∀ now ∈ phase.since, s.clock = now) ∧
    ∀ k ∈ phase.evicting, ∀ labels ∈ (s.calls i).asking, cfg.hash labels ≠ k
  | _ => True

instance [DecidableEq κ] : DecidablePred (s.Timely cfg)
  | .observe i => inferInstanceAs (Decidable (∀ phase ∈ s.addMu,
      (∀ now ∈ phase.since, s.clock = now) ∧
        ∀ k ∈ phase.evicting, ∀ labels ∈ (s.calls i).asking, _))
  | .tick _ | .call _ _ | .miss _ | .load _ | .loadGen _ | .stamp _ | .lock _ | .sweep _
  | .readClock | .visit _ | .evict | .deleteSeries | .finish | .conclude | .increment _ =>
    .isTrue trivial

end Conditions

variable [DecidableEq κ] {cfg : GuardConfig κ τ} {s s' : CardinalityGuard ι κ τ}

/-- What was observed after the time is stamped with the current generation. -/
def FreshSince (cfg : GuardConfig κ τ) (s : CardinalityGuard ι κ τ) (base : Time) : Prop :=
  ∀ t labels, (t, labels) ∈ s.observed → base < t →
    ∃ e, s.seen.lookup (cfg.hash labels) = some e ∧ e.lastGen = s.gen

/-- The stamps during a sweep, against the clock reading of the one before. -/
def Swept (cfg : GuardConfig κ τ) (s : CardinalityGuard ι κ τ) (sweep : Sweep ι κ τ) : Prop :=
  s.nextSweep = some (sweep.now + cfg.evictAfter) ∧ sweep.cur = s.gen ∧ sweep.now ≤ s.clock ∧
  (∀ t labels, (t, labels) ∈ s.observed → t ≤ sweep.now) ∧
  ∃ base, base + cfg.evictAfter ≤ sweep.now ∧ s.FreshSince cfg base ∧
    ∀ k labels', sweep.visit = .evicting k labels' → ∀ t labels, (t, labels) ∈ s.observed →
      cfg.hash labels = k → t ≤ base

/-- While no sweep is under way the stamps count from the clock reading of the last one. -/
structure Stamped (cfg : GuardConfig κ τ) (s : CardinalityGuard ι κ τ) : Prop where
  past : ∀ t labels, (t, labels) ∈ s.observed → t ≤ s.clock
  unforced : ∀ caller force, s.addMu = some (.sweepDue caller force) → force = false
  fresh : (∀ phase ∈ s.addMu, phase.since = none) → ∀ next ∈ s.nextSweep,
    ∃ base, next = base + cfg.evictAfter ∧ s.FreshSince cfg base
  swept : ∀ sweep, s.addMu = some (.sweeping sweep) → s.Swept cfg sweep

theorem Stamped.quiet (hpast : ∀ t labels, (t, labels) ∈ s.observed → t ≤ s.clock)
    (hunforced : ∀ caller force, s.addMu = some (.sweepDue caller force) → force = false)
    (hquiet : ∀ phase ∈ s.addMu, phase.since = none)
    (hfresh : ∀ next ∈ s.nextSweep, ∃ base, next = base + cfg.evictAfter ∧ s.FreshSince cfg base) :
    s.Stamped cfg := by
  refine ⟨hpast, hunforced, fun _ => hfresh, fun sweep hsweep => ?_⟩
  have hnone := hquiet _ hsweep
  cases hnone

theorem Stamped.sweeping {sweep : Sweep ι κ τ}
    (hpast : ∀ t labels, (t, labels) ∈ s.observed → t ≤ s.clock)
    (hlock : s.addMu = some (.sweeping sweep)) (hswept : s.Swept cfg sweep) : s.Stamped cfg := by
  refine ⟨hpast, fun caller force hphase => ?_, fun hquiet => ?_, fun sweep' hsweep' => ?_⟩
  · rw [hlock] at hphase
    cases hphase
  · have hsince := hquiet _ hlock
    cases hsince
  · rw [hlock] at hsweep'
    cases hsweep'
    exact hswept

theorem stamped_start (cfg : GuardConfig κ τ) (clock : Time) :
    (start clock : CardinalityGuard ι κ τ).Stamped cfg :=
  .quiet (by simp [start]) (by simp [start]) (by simp [start]) (by simp [start])

omit [DecidableEq κ] in
theorem quiet_of_due {caller : SweepCaller ι τ} {force : Bool}
    (hdue : s.addMu = some (.sweepDue caller force)) : ∀ phase ∈ s.addMu, phase.since = none := by
  simp [hdue, since]

theorem Stamped.waits {caller : SweepCaller ι τ} {force : Bool} {next : Option Time}
    (h : s.Stamped cfg) (hdue : s.addMu = some (.sweepDue caller force))
    (hnext : next = s.nextSweep ∨ s.nextSweep = none ∧ next = some (s.clock + cfg.evictAfter)) :
    Stamped cfg { s with nextSweep := next, addMu := afterSweep caller } := by
  refine .quiet h.past (fun caller' force' hphase => ?_) (fun phase hphase => ?_)
    fun next' hnext' => ?_
  · cases caller <;> cases hphase
  · cases caller <;> cases hphase
    rfl
  · rcases hnext with rfl | ⟨-, rfl⟩
    · exact h.fresh (quiet_of_due hdue) next' hnext'
    · -- the first call sets the time of the next sweep; all observations are older
      cases hnext'
      refine ⟨s.clock, rfl, fun t labels ht hlt => ?_⟩
      exact absurd (h.past t labels ht) (Nat.not_le_of_lt hlt)

theorem Stamped.starts {caller : SweepCaller ι τ} (h : s.Stamped cfg)
    (hdue : s.addMu = some (.sweepDue caller false)) {next : Time} (hnext : next ∈ s.nextSweep)
    (hover : next ≤ s.clock) :
    Stamped cfg { s with
      nextSweep := some (s.clock + cfg.evictAfter)
      addMu := some (.sweeping ⟨caller, s.clock, s.gen, s.seen.keys, 0, .ranging⟩) } := by
  obtain ⟨base, heq, hbase⟩ := h.fresh (quiet_of_due hdue) next hnext
  exact .sweeping h.past rfl ⟨rfl, rfl, le_rfl, h.past, base, heq ▸ hover, hbase, by simp⟩

variable {sweep : Sweep ι κ τ}

theorem Stamped.dooms {k : κ} {e : GuardEntry τ} {unvisited : List κ} (h : s.Stamped cfg)
    (hsweep : s.addMu = some (.sweeping sweep)) (he : s.seen.lookup k = some e)
    (hidle : e.lastGen ≠ sweep.cur) :
    (s.setSweep { sweep with
      unvisited := unvisited, visit := .evicting k e.labels }).Stamped cfg := by
  obtain ⟨hwindow, hcur, hnow, hbefore, base, hle, hbase, -⟩ := h.swept sweep hsweep
  refine .sweeping h.past rfl ⟨hwindow, hcur, hnow, hbefore, base, hle, hbase, ?_⟩
  intro k' labels' hv t labels ht hhash
  cases hv
  by_contra hlt
  obtain ⟨e', he', hgen⟩ := hbase t labels ht (Nat.not_le.mp hlt)
  rw [hhash, he, some.injEq] at he'
  exact hidle (he' ▸ hgen.trans hcur.symm)

theorem Stamped.evict {k : κ} {labels : τ} (h : s.Stamped cfg)
    (hsweep : s.addMu = some (.sweeping sweep)) (hevicting : sweep.visit = .evicting k labels) :
    Stamped cfg
      { s.setSweep { sweep with visit := .deleting labels } with seen := s.seen.erase k } := by
  obtain ⟨hwindow, hcur, hnow, hbefore, base, hle, hbase, hold⟩ := h.swept sweep hsweep
  refine .sweeping h.past rfl ⟨hwindow, hcur, hnow, hbefore, base, hle, fun t labels' ht hlt => ?_,
    fun k' labels' hvisit => ?_⟩
  · have hne : cfg.hash labels' ≠ k := by
      intro hhash
      exact absurd (hold k labels hevicting t labels' ht hhash) (Nat.not_le_of_lt hlt)
    dsimp only
    rw [lookup_erase_ne hne]
    exact hbase t labels' ht hlt
  · cases hvisit

theorem Stamped.finish (h : s.Stamped cfg)
    (hsweep : s.addMu = some (.sweeping sweep)) : (s.finish sweep).Stamped cfg := by
  obtain ⟨hwindow, -, -, hbefore, -⟩ := h.swept sweep hsweep
  refine .quiet h.past (fun caller force hphase => ?_) (fun phase hphase => ?_) fun next hnext => ?_
  · rw [CardinalityGuard.finish] at hphase
    dsimp only at hphase
    cases hcaller : sweep.caller <;> rw [hcaller] at hphase <;> cases hphase
  · rw [CardinalityGuard.finish] at hphase
    dsimp only at hphase
    cases hcaller : sweep.caller <;> rw [hcaller] at hphase <;> cases hphase
    rfl
  · change next ∈ s.nextSweep at hnext
    rw [hwindow] at hnext
    cases hnext
    refine ⟨sweep.now, rfl, fun t labels ht hlt => ?_⟩
    exact absurd (hbefore t labels ht) (Nat.not_le_of_lt hlt)

variable [DecidableEq ι]

theorem FreshSince.touch_grant {base : Time} {i : ι} {labels : τ} {e : GuardEntry τ}
    (h : s.FreshSince cfg base) (he : s.seen.lookup (cfg.hash labels) = some e) :
    ((s.touch (cfg.hash labels) e.id s.gen).grant i labels).FreshSince cfg base := by
  intro t labels' ht hlt
  change ∃ e', (GoMap.modify _ _ s.seen).lookup _ = some e' ∧ e'.lastGen = s.gen
  rw [GoMap.lookup_modify]
  by_cases hhash : cfg.hash labels' = cfg.hash labels
  · rw [if_pos hhash, hhash, he]
    exact ⟨_, rfl, by simp⟩
  · rw [if_neg hhash]
    rcases mem_cons.mp ht with heq | hmem
    · cases heq
      exact absurd rfl hhash
    · exact h t labels' hmem hlt

theorem Stamped.touch_grant {i : ι} {labels : τ} {e : GuardEntry τ} (h : s.Stamped cfg)
    (he : s.seen.lookup (cfg.hash labels) = some e) (htimely : ∀ phase ∈ s.addMu,
    (∀ now ∈ phase.since, s.clock = now) ∧ ∀ k ∈ phase.evicting, cfg.hash labels ≠ k) :
    ((s.touch (cfg.hash labels) e.id s.gen).grant i labels).Stamped cfg := by
  refine ⟨fun t labels' ht => ?_, h.unforced, fun hquiet next hnext => ?_, fun sweep hsweep => ?_⟩
  · rcases mem_cons.mp ht with heq | hmem
    · cases heq
      exact le_rfl
    · exact h.past t labels' hmem
  · obtain ⟨base, heq, hbase⟩ := h.fresh hquiet next hnext
    exact ⟨base, heq, hbase.touch_grant he⟩
  · obtain ⟨hwindow, hcur, hnow, hbefore, base, hle, hbase, hold⟩ := h.swept sweep hsweep
    obtain ⟨hclock, hentry⟩ := htimely _ hsweep
    refine ⟨hwindow, hcur, hnow, fun t labels' ht => ?_, base, hle, hbase.touch_grant he,
      fun k labels'' hvisit t labels' ht hhash => ?_⟩
    · rcases mem_cons.mp ht with heq | hmem
      · cases heq
        exact (hclock sweep.now rfl).le
      · exact hbefore t labels' hmem
    · rcases mem_cons.mp ht with heq | hmem
      · cases heq
        exact absurd hhash (hentry k (by rw [evicting, hvisit]; rfl))
      · exact hold k labels'' hvisit t labels' hmem hhash

variable [DecidableEq τ] {event : GuardEvent ι κ τ}

theorem Stamped.step (h : s.Stamped cfg) (hplain : Plain event) (htimely : s.Timely cfg event)
    (hstep : s.step cfg event = some s') : s'.Stamped cfg := by
  cases moves_of_step hstep with
  | tick =>
    refine ⟨fun t labels ht => Nat.le_add_right_of_le (h.past t labels ht), h.unforced, h.fresh,
      fun sweep hsweep => ?_⟩
    obtain ⟨hwindow, hcur, hnow, hrest⟩ := h.swept sweep hsweep
    exact ⟨hwindow, hcur, Nat.le_add_right_of_le hnow, hrest⟩
  | call | miss | increment => exact ⟨h.past, h.unforced, h.fresh, h.swept⟩
  | load | loadGen | stamp => exact hplain.elim
  | observe hcall he =>
    refine h.touch_grant he fun phase hphase => ?_
    obtain ⟨hclock, hentry⟩ := htimely phase hphase
    exact ⟨hclock, fun k hk => hentry k hk _ (by rw [hcall]; rfl)⟩
  | lockFound _ hfree he => exact h.touch_grant he (by simp [hfree])
  | lockNew _ hfree _ =>
    exact .quiet h.past (by simp) (by simp [since]) (h.fresh (by simp [hfree]))
  | sweep hfree =>
    refine .quiet h.past (fun caller force hphase => ?_) (by simp [since])
      (h.fresh (by simp [hfree]))
    cases hphase
    exact hplain
  | waits hdue hnext => exact h.waits hdue hnext
  | @starts caller force hdue hover =>
    obtain rfl : force = false := h.unforced caller force hdue
    obtain ⟨next, hnext, hle⟩ := hover rfl
    exact h.starts hdue hnext hle
  | passes hsweep =>
    obtain ⟨hwindow, hcur, hnow, hbefore, hbase⟩ := h.swept _ hsweep
    exact .sweeping h.past rfl ⟨hwindow, hcur, hnow, hbefore, hbase⟩
  | dooms hsweep _ he hidle => exact h.dooms hsweep he hidle
  | evict hsweep hevicting => exact h.evict hsweep hevicting
  | deleteSeries hsweep =>
    obtain ⟨hwindow, hcur, hnow, hbefore, base, hle, hbase, -⟩ := h.swept _ hsweep
    exact .sweeping h.past rfl ⟨hwindow, hcur, hnow, hbefore, base, hle, hbase, by simp⟩
  | finish hsweep => exact h.finish hsweep
  | dropped hdeciding =>
    exact .quiet h.past (by simp) (by simp) (h.fresh (by simp [hdeciding, since]))
  | @added i labels hdeciding hroom =>
    refine .quiet (fun t labels' ht => ?_) (by simp) (by simp) fun next hnext => ?_
    · rcases mem_cons.mp ht with heq | hmem
      · cases heq
        exact le_rfl
      · exact h.past t labels' hmem
    · obtain ⟨base, heq, hbase⟩ := h.fresh (by simp [hdeciding, since]) next hnext
      refine ⟨base, heq, fun t labels' ht hlt => ?_⟩
      dsimp only
      by_cases hhash : cfg.hash labels' = cfg.hash labels
      · rw [hhash, lookup_insert]
        exact ⟨_, rfl, rfl⟩
      · rw [lookup_insert_ne hhash]
        rcases mem_cons.mp ht with heq' | hmem
        · cases heq'
          exact absurd rfl hhash
        · exact hbase t labels' hmem hlt

omit [DecidableEq ι] [DecidableEq τ] in
theorem Stamped.evictsIdle (h : s.Stamped cfg) : s.EvictsIdle cfg := by
  intro phase hphase k hk labels hregular hhash
  cases phase with
  | sweepDue | deciding => cases hk
  | sweeping sweep =>
    obtain ⟨-, -, hnow, -, base, hle, -, hold⟩ := h.swept sweep hphase
    obtain ⟨labels', hvisit⟩ : ∃ labels', sweep.visit = .evicting k labels' := by
      rw [evicting] at hk
      cases hvisit : sweep.visit with
      | evicting k' labels' =>
        rw [hvisit] at hk
        cases hk
        exact ⟨labels', rfl⟩
      | ranging | deleting =>
        rw [hvisit] at hk
        cases hk
    obtain ⟨⟨t, ht⟩, hoften⟩ := hregular
    have hfirst : t ≤ base := hold k labels' hvisit t labels ht hhash
    obtain ⟨t', ht', hlt, -⟩ := hoften base ⟨t, ht, hfirst⟩ (hle.trans hnow)
    exact absurd (hold k labels' hvisit t' labels ht' hhash) (Nat.not_le_of_lt hlt)

/-- In every run the count is the number of entries and of those that a sweep under way has deleted
without counting them, and at most the limit; and where observations during a sweep are as old as
its clock reading, no tuple that is observed regularly is evicted. -/
theorem count_and_eviction_age (cfg : GuardConfig κ τ) (clock : Time)
    (events : List (GuardEvent ι κ τ)) (s : CardinalityGuard ι κ τ)
    (hrun : run (step cfg) (start clock) events = some s) :
    (s.count = s.seen.keys.length + (s.addMu.elim 0 LockPhase.uncounted : ℕ) ∧
      s.count ≤ cfg.limit) ∧
    ((∀ event ∈ events, Plain event) →
      Machine.Meets (step cfg) (Timely cfg) (start clock) events → s.EvictsIdle cfg) := by
  have haccounted : s.Accounted cfg := invariant_of_step
    (fun s event s' h hs => Accounted.step h hs) (accounted_start cfg clock) hrun
  refine ⟨⟨haccounted.balance, haccounted.bounded⟩, fun hplain htimely => ?_⟩
  have hstamped : s.Stamped cfg := invariant
    (fun s event s' h hC hs => Stamped.step h hC.2 hC.1 hs) (stamped_start cfg clock)
    (htimely.and hplain) hrun
  exact hstamped.evictsIdle

end CardinalityGuard

section Sample

def fourTicks : GuardConfig (List String) (List String) where
  limit := 2
  evictAfter := 4
  deletes := true
  hash := id

/-- The tuple is observed at 2, and once more while the clock goes on from 4 to 5: `early` and
`late` is what happens between the clock reading of a sweep at 4 and its end, and after it. The
next sweep finds the tuple idle at 8 or not. -/
def observedTwice (early late : List (GuardEvent ℕ (List String) (List String))) :
    List (GuardEvent ℕ (List String) (List String)) :=
  [.call 0 ["a.example.com"], .miss 0, .lock 0, .readClock, .conclude, .increment 0, .tick 2,
    .call 0 ["a.example.com"], .observe 0, .increment 0, .call 0 ["a.example.com"], .tick 2,
    .sweep false, .readClock] ++ early ++ [.visit ["a.example.com"], .finish] ++ late ++
  [.tick 3, .sweep false, .readClock, .visit ["a.example.com"]]

/-- Observed after the sweep, the tuple is not found idle. -/
theorem observed_after_sweep_kept : ∃ s,
    run (CardinalityGuard.step fourTicks) (.start 0)
      (observedTwice [] [.tick 1, .observe 0]) = some s ∧
    s.count ≤ fourTicks.limit ∧ s.EvictsIdle fourTicks ∧ s.seen.keys = [["a.example.com"]] := by
  refine exists_of_any (fun s => s.seen.keys = [["a.example.com"]]) (by decide +kernel)
    fun s hrun hkeys => ?_
  have hguard := CardinalityGuard.count_and_eviction_age fourTicks 0
    (observedTwice [] [.tick 1, .observe 0]) s hrun
  exact ⟨hguard.1.2,
    hguard.2 (by simp [observedTwice, CardinalityGuard.Plain]) (by decide +kernel), hkeys⟩

/-- An observation within the second sweep is stamped with the generation that the sweep closes, and
the third sweep deletes the entry three ticks later. -/
theorem observed_within_sweep_evicted : ∃ s s',
    run (CardinalityGuard.step fourTicks) (.start 0)
      (observedTwice [.tick 1, .observe 0] []) = some s ∧
    (∀ event ∈ observedTwice [.tick 1, .observe 0] [], CardinalityGuard.Plain event) ∧
    s.Regular fourTicks ["a.example.com"] ∧ s.step fourTicks .evict = some s' ∧
    s.seen.keys = [["a.example.com"]] ∧ s'.seen.keys = [] := by
  refine ⟨_, _, eq_some_of_isSome (by decide +kernel),
    by simp [observedTwice, CardinalityGuard.Plain], ?_,
    eq_some_of_isSome (by decide +kernel), by decide +kernel, by decide +kernel⟩
  refine ⟨⟨0, by decide +kernel⟩, fun (a : ℕ) _ (hend : a + 4 ≤ 8) => ?_⟩
  -- the observation at 2 is in the intervals from 0 and 1, the one at 5 in those from 2, 3 and 4
  by_cases hearly : a < 2
  · exact ⟨2, by decide +kernel, hearly, show 2 < a + 4 by omega⟩
  · exact ⟨5, by decide +kernel, show a < 5 by omega, show 5 < a + 4 by omega⟩

end Sample

end PathGateway
