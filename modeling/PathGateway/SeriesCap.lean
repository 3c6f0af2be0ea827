import Mathlib.Data.Fintype.Basic
import PathGateway.CardinalityGuard

/-! How many child series a guarded metric has. A series belongs to an entry of the table as long
as no entry is deleted under a call that has found it and is still to increment its series. -/

namespace PathGateway

open AllowPhase AList LockPhase Finset Option Machine GoMap

variable {ι κ τ : Type*}

def AllowPhase.isAdmitted : AllowPhase τ → Bool
  | .admitted _ => true
  | _ => false

def LockPhase.deleting : LockPhase ι κ τ → Option τ
  | .sweeping sweep =>
    match sweep.visit with
    | .deleting labels => some labels
    | _ => none
  | _ => none

namespace CardinalityGuard

def Settled (s : CardinalityGuard ι κ τ) : Prop := ∀ i, (s.calls i).isAdmitted = false

instance [Fintype ι] (s : CardinalityGuard ι κ τ) : Decidable s.Settled :=
  inferInstanceAs (Decidable (∀ i, (s.calls i).isAdmitted = false))

/-- An entry is deleted only when no call that has found it is still to increment its series. -/
def Undisturbed (cfg : GuardConfig κ τ) (s : CardinalityGuard ι κ τ) : GuardEvent ι κ τ → Prop
  | .evict => ∀ phase ∈ s.addMu, ∀ k ∈ phase.evicting, ∀ i, ∀ labels ∈ (s.calls i).holds,
    cfg.hash labels ≠ k
  | _ => True

instance [Fintype ι] [DecidableEq κ] (cfg : GuardConfig κ τ) (s : CardinalityGuard ι κ τ) :
    DecidablePred (s.Undisturbed cfg)
  | .evict => inferInstanceAs (Decidable (∀ phase ∈ s.addMu, ∀ k ∈ phase.evicting, ∀ _ : ι, _))
  | .tick _ | .call _ _ | .miss _ | .load _ | .loadGen _ | .stamp _ | .observe _ | .lock _
  | .sweep _ | .readClock | .visit _ | .deleteSeries | .finish | .conclude | .increment _ =>
    .isTrue trivial

/-- Every series belongs to an entry, or is the next to be deleted, and so does every tuple that a
call is about to increment. -/
structure Covers [DecidableEq κ] (cfg : GuardConfig κ τ) (seen : GoMap κ (GuardEntry τ))
    (series : Finset τ) (calls : ι → AllowPhase τ) (addMu : Option (LockPhase ι κ τ)) : Prop where
  named : ∀ k e, seen.lookup k = some e → cfg.hash e.labels = k
  series : ∀ labels ∈ series, cfg.hash labels ∈ seen ∨
    ∃ phase ∈ addMu, phase.deleting = some labels
  held : ∀ i, ∀ labels ∈ (calls i).holds, cfg.hash labels ∈ seen
  doomed : ∀ sweep, addMu = some (.sweeping sweep) → ∀ k labels,
    sweep.visit = .evicting k labels → cfg.hash labels = k

abbrev Covered [DecidableEq κ] (cfg : GuardConfig κ τ) (s : CardinalityGuard ι κ τ) : Prop :=
  Covers cfg s.seen s.series s.calls s.addMu

variable [DecidableEq κ] {cfg : GuardConfig κ τ} {s s' : CardinalityGuard ι κ τ}
  {seen : GoMap κ (GuardEntry τ)} {series : Finset τ} {calls : ι → AllowPhase τ}
  {addMu addMu' : Option (LockPhase ι κ τ)} {phase : LockPhase ι κ τ} {sweep : Sweep ι κ τ}
  {labels : τ}

theorem covered_start (cfg : GuardConfig κ τ) (clock : Time) :
    (start clock : CardinalityGuard ι κ τ).Covered cfg := by
  refine ⟨fun k e he => ?_, by simp [start], fun i labels hlabels => ?_, by simp [start]⟩
  · rw [start, lookup_empty] at he
    cases he
  · cases hlabels

theorem Covers.setLock (h : Covers cfg seen series calls addMu)
    (hdeleting : ∀ phase ∈ addMu, phase.deleting = none)
    (hdoomed : ∀ sweep, addMu' = some (.sweeping sweep) →
      ∀ k labels, sweep.visit = .evicting k labels → cfg.hash labels = k) :
    Covers cfg seen series calls addMu' := by
  refine ⟨h.named, fun labels hlabels => ?_, h.held, hdoomed⟩
  rcases h.series labels hlabels with hmem | ⟨phase, hphase, hdel⟩
  · exact .inl hmem
  · rw [hdeleting phase hphase] at hdel
    cases hdel

theorem Covers.relock (h : Covers cfg seen series calls addMu)
    (hlock : addMu = some phase) (hnone : phase.deleting = none)
    (hdoomed : ∀ sweep, addMu' = some (.sweeping sweep) →
      ∀ k labels, sweep.visit = .evicting k labels → cfg.hash labels = k) :
    Covers cfg seen series calls addMu' :=
  h.setLock (by simp [hlock, hnone]) hdoomed

omit [DecidableEq κ] in
theorem afterSweep_ne {caller : SweepCaller ι τ} : afterSweep caller ≠ some (.sweeping sweep) := by
  cases caller <;> simp [afterSweep]

theorem Covers.evict {k : κ} (h : Covers cfg seen series calls addMu)
    (hinj : Function.Injective cfg.hash) (hsweep : addMu = some (.sweeping sweep))
    (hevicting : sweep.visit = .evicting k labels)
    (hfree : ∀ i, ∀ labels ∈ (calls i).holds, cfg.hash labels ≠ k) :
    Covers cfg (seen.erase k) series calls
      (some (.sweeping { sweep with visit := .deleting labels })) := by
  have hk : cfg.hash labels = k := h.doomed sweep hsweep k labels hevicting
  refine ⟨fun k' e he => ?_, fun labels' hlabels' => ?_, fun i labels' hlabels' => ?_, by simp⟩
  · exact h.named k' e (lookup_erase_eq_some.mp he).2
  · by_cases heq : labels' = labels
    · exact .inr ⟨_, rfl, congrArg some heq.symm⟩
    · have hne : cfg.hash labels' ≠ k := fun hhash => heq (hinj (hhash.trans hk.symm))
      rcases h.series labels' hlabels' with hmem | ⟨phase, hphase, hdel⟩
      · exact .inl (mem_erase.mpr ⟨hne, hmem⟩)
      · rw [hsweep] at hphase
        cases hphase
        rw [deleting, hevicting] at hdel
        cases hdel
  · exact mem_erase.mpr ⟨hfree i labels' hlabels', h.held i labels' hlabels'⟩

theorem Covers.deleteSeries [DecidableEq τ] {evicted : ℕ} (h : Covers cfg seen series calls addMu)
    (hsweep : addMu = some (.sweeping sweep)) (hdeleting : sweep.visit = .deleting labels) :
    Covers cfg seen (series.erase labels) calls
      (some (.sweeping { sweep with evicted := evicted, visit := .ranging })) := by
  refine ⟨h.named, fun labels' hlabels' => ?_, h.held, by simp⟩
  obtain ⟨hne, hmem⟩ := mem_erase.mp hlabels'
  rcases h.series labels' hmem with hin | ⟨phase, hphase, hdel⟩
  · exact .inl hin
  · rw [hsweep] at hphase
    cases hphase
    rw [deleting, hdeleting] at hdel
    exact absurd (some.inj hdel).symm hne

theorem Covers.grow {seen' : GoMap κ (GuardEntry τ)} (h : Covers cfg seen series calls addMu)
    (hnamed : ∀ k e, seen'.lookup k = some e → cfg.hash e.labels = k)
    (hmem : ∀ k, k ∈ seen → k ∈ seen') : Covers cfg seen' series calls addMu :=
  ⟨hnamed, fun labels hlabels => (h.series labels hlabels).imp_left (hmem _),
    fun i labels hlabels => hmem _ (h.held i labels hlabels), h.doomed⟩

theorem Covers.touch {k : κ} {entry : ℕ} {gen : UInt32} (h : s.Covered cfg) :
    (s.touch k entry gen).Covered cfg := by
  refine h.grow (fun k' e he => ?_) fun _ => mem_modify.mpr
  rw [CardinalityGuard.touch, lookup_modify] at he
  split at he
  · obtain ⟨e', he', rfl⟩ := map_eq_some_iff.mp he
    have hlabels := h.named k' e' he'
    split
    · exact hlabels
    · exact hlabels
  · exact h.named k' e he

variable [DecidableEq ι]

theorem Covers.setCall {i : ι} {call : AllowPhase τ} (h : Covers cfg seen series calls addMu)
    (hheld : ∀ labels ∈ call.holds, cfg.hash labels ∈ seen) :
    Covers cfg seen series (Function.update calls i call) addMu := by
  refine ⟨h.named, h.series, fun j labels hlabels => ?_, h.doomed⟩
  by_cases hj : j = i
  · rw [hj, Function.update_self] at hlabels
    exact hheld labels hlabels
  · rw [Function.update_of_ne hj] at hlabels
    exact h.held j labels hlabels

theorem Covers.touch_grant {entry : ℕ} {gen : UInt32} {i : ι} (h : s.Covered cfg)
    (hmem : cfg.hash labels ∈ s.seen) :
    ((s.touch (cfg.hash labels) entry gen).grant i labels).Covered cfg := by
  refine (touch h).setCall fun labels' hl => ?_
  cases hl
  exact mem_modify.mpr hmem

variable [DecidableEq τ] {event : GuardEvent ι κ τ}

theorem Covered.step (hinj : Function.Injective cfg.hash) (h : s.Covered cfg)
    (hfree : s.Undisturbed cfg event) (hstep : s.step cfg event = some s') : s'.Covered cfg := by
  have hthere {k : κ} {e : GuardEntry τ} (he : s.seen.lookup k = some e) : k ∈ s.seen :=
    lookup_isSome.mp (by simp [he])
  cases moves_of_step hstep with
  | tick => exact h
  | call | miss => exact h.setCall (by simp [holds])
  | load hphase he => exact h.setCall (by simpa [holds] using hthere he)
  | loadGen hphase =>
    have hlabels := h.held _ _ (by rw [hphase]; rfl)
    exact h.setCall (by simpa [holds] using hlabels)
  | stamp hphase => exact .touch_grant h (h.held _ _ (by rw [hphase]; rfl))
  | observe _ he | lockFound _ _ he => exact .touch_grant h (hthere he)
  | lockNew _ hlock _ => exact (h.setLock (by simp [hlock]) (by simp)).setCall (by simp [holds])
  | sweep hlock => exact h.setLock (by simp [hlock]) (by simp)
  | waits hdue => exact h.relock hdue rfl fun _ hsweep => absurd hsweep afterSweep_ne
  | starts hdue => exact h.relock hdue rfl (by simp)
  | passes hsweep hranging =>
    exact h.relock hsweep (by rw [deleting, hranging]) (by simp [setSweep, hranging])
  | dooms hsweep hranging he =>
    refine h.relock hsweep (by rw [deleting, hranging]) ?_
    rintro _ ⟨⟩ _ _ ⟨⟩
    exact h.named _ _ he
  | evict hsweep hevicting =>
    have hundisturbed := hfree _ hsweep _ (by rw [evicting, hevicting]; rfl)
    exact h.evict hinj hsweep hevicting hundisturbed
  | deleteSeries hsweep hdeleting => exact h.deleteSeries hsweep hdeleting
  | finish hsweep hranging =>
    exact h.relock hsweep (by rw [deleting, hranging]) fun _ hsweep' =>
      absurd hsweep' afterSweep_ne
  | dropped hdeciding => exact (h.relock hdeciding rfl (by simp)).setCall (by simp [holds])
  | added hdeciding hroom =>
    refine ((h.relock hdeciding rfl (by simp)).grow (fun k e he => ?_) fun k hk => ?_).setCall
      fun labels' hl => ?_
    · rcases lookup_insert_eq_some.mp he with ⟨hk, rfl⟩ | ⟨-, he⟩
      · exact hk.symm
      · exact h.named k e he
    · exact (mem_insert _).mpr (.inr hk)
    · cases hl
      exact (mem_insert _).mpr (.inl rfl)
  | @increment i labels hphase =>
    refine Covers.setCall ⟨h.named, fun labels' hlabels' => ?_, h.held, h.doomed⟩ (by simp [holds])
    rcases mem_insert.mp hlabels' with rfl | hmem
    · exact .inl (h.held i labels' (by rw [hphase]; rfl))
    · exact h.series labels' hmem

omit [DecidableEq ι] [DecidableEq τ] in
theorem card_le_keys (hinj : Function.Injective cfg.hash) {labels : Finset τ}
    (hmem : ∀ x ∈ labels, cfg.hash x ∈ s.seen) : labels.card ≤ s.seen.keys.length := by
  calc labels.card = (labels.image cfg.hash).card := (card_image_of_injective _ hinj).symm
    _ ≤ s.seen.keys.toFinset.card := card_le_card fun k hk => by
      obtain ⟨x, hx, rfl⟩ := mem_image.mp hk
      exact List.mem_toFinset.mpr (mem_keys.mp (hmem x hx))
    _ ≤ s.seen.keys.length := List.toFinset_card_le _

omit [DecidableEq ι] in
theorem card_series_le (hinj : Function.Injective cfg.hash) (h : s.Covered cfg)
    (haccounted : s.Accounted cfg) : (s.series.card : ℤ) ≤ s.count := by
  rw [haccounted.balance]
  by_cases hdel : ∃ phase ∈ s.addMu, ∃ labels, phase.deleting = some labels
  · obtain ⟨phase, hphase, labels, hlabels⟩ := hdel
    have hrest : (s.series.erase labels).card ≤ s.seen.keys.length := by
      refine card_le_keys hinj fun x hx => ?_
      obtain ⟨hne, hmem⟩ := mem_erase.mp hx
      rcases h.series x hmem with hin | ⟨phase', hphase', hx'⟩
      · exact hin
      · obtain rfl : phase = phase' := mem_unique hphase hphase'
        rw [hlabels] at hx'
        exact absurd (some.inj hx').symm hne
    have huncounted : 1 ≤ s.addMu.elim 0 uncounted := by
      rw [mem_def.mp hphase, elim_some]
      cases phase with
      | sweeping sweep =>
        rw [deleting] at hlabels
        rw [uncounted]
        cases hvisit : sweep.visit with
        | deleting _ => exact Nat.le_add_left 1 _
        | ranging | evicting =>
          rw [hvisit] at hlabels
          cases hlabels
      | sweepDue | deciding => cases hlabels
    have hcard := pred_card_le_card_erase (s := s.series) (a := labels)
    omega
  · have hall : s.series.card ≤ s.seen.keys.length := by
      refine card_le_keys hinj fun x hx => ?_
      rcases h.series x hx with hin | ⟨phase, hphase, hx'⟩
      · exact hin
      · exact absurd ⟨phase, hphase, x, hx'⟩ hdel
    omega

/-- With distinct hashes, and no entry deleted under a call that is still to increment its series,
the metric has at most as many series as the limit says. -/
theorem card_series_le_limit (cfg : GuardConfig κ τ) (hinj : Function.Injective cfg.hash)
    (clock : Time) (events : List (GuardEvent ι κ τ)) (s : CardinalityGuard ι κ τ)
    (hrun : run (step cfg) (start clock) events = some s)
    (hmeets : Machine.Meets (step cfg) (Undisturbed cfg) (start clock) events) :
    s.Settled → s.series.card ≤ cfg.limit := by
  intro _
  have hcovered : s.Covered cfg := invariant
    (fun s event s' h hC hs => Covered.step hinj h hC hs) (covered_start cfg clock) hmeets hrun
  have haccounted : s.Accounted cfg := invariant_of_step
    (fun s event s' h hs => Accounted.step h hs) (accounted_start cfg clock) hrun
  have hcard := card_series_le hinj hcovered haccounted
  have hbounded := haccounted.bounded
  omega

end CardinalityGuard

section Sample

def oneTuple : GuardConfig (List String) (List String) where
  limit := 1
  evictAfter := 900
  deletes := true
  hash := id

/-- The first tuple is admitted, and evicted after it has been idle for a window; then the second
one is admitted and incremented. `early` and `late` is what the first goroutine does before and
after the eviction. -/
def replaced (early late : List (GuardEvent Bool (List String) (List String))) :
    List (GuardEvent Bool (List String) (List String)) :=
  [.call false ["a.example.com"], .miss false, .lock false, .readClock, .conclude] ++ early ++
    [.tick 900, .sweep false, .readClock, .visit ["a.example.com"], .finish, .tick 900,
      .call true ["b.example.com"], .miss true, .lock true, .readClock, .visit ["a.example.com"],
      .evict, .deleteSeries, .finish, .conclude, .increment true] ++ late

theorem replaced_within_limit :
    ∃ s, run (CardinalityGuard.step oneTuple) (.start 0) (replaced [.increment false] []) = some s ∧
    s.Settled ∧ s.series.card ≤ 1 := by
  refine exists_of_any (fun s => s.Settled) (by decide +kernel) fun s hrun hs => ?_
  exact ⟨hs, CardinalityGuard.card_series_le_limit oneTuple Function.injective_id 0
    (replaced [.increment false] []) s hrun (by decide +kernel) hs⟩

/-- A first goroutine that increments only after its tuple was evicted brings the series back. -/
theorem increment_after_eviction :
    ∃ s, run (CardinalityGuard.step oneTuple) (.start 0) (replaced [] [.increment false]) = some s ∧
    s.Settled ∧ oneTuple.limit < s.series.card := by
  decide +kernel

end Sample

end PathGateway
