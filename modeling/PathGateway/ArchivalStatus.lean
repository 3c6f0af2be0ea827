import PathGateway.ScoreStore

/-! How long an archival status lasts. It is part of the score, so whatever replaces the
score takes it away: a recovery, a reset, or a refresh from an older copy. -/

namespace PathGateway

open Option ScoreRecord Machine

def ScoreRecord.Outlasts (t u : Time) (score : ScoreRecord) : Prop :=
  ∀ now, t ≤ now → now < u → score.isArchivalCapable now = true

namespace ScoreRecord

variable {t u now : Time} {score : ScoreRecord}

theorem outlasts_iff (h : t < u) : score.Outlasts t u ↔ score.isArchival = true ∧
    ∃ e, score.archivalExpiresAt = some e ∧ u ≤ e := by
  constructor
  · intro hall
    have hlast := hall (u - 1) (Nat.le_sub_one_of_lt h) (Nat.sub_one_lt_of_lt h)
    rw [isArchivalCapable, Bool.and_eq_true, any_eq_true] at hlast
    obtain ⟨harch, e, he, hlt⟩ := hlast
    exact ⟨harch, e, he, Nat.le_of_pred_lt (of_decide_eq_true hlt)⟩
  · rintro ⟨harch, e, he, hle⟩ now - hnow
    simp [isArchivalCapable, harch, he, hnow.trans_le hle]

theorem not_outlasts_fresh (h : t < u) (value : ℚ) : ¬(fresh value now).Outlasts t u := by
  rw [outlasts_iff h]
  exact fun hout => Bool.false_ne_true hout.1

theorem outlasts_setArchival (h : t < u) {isArchival : Bool} {ttl : Int} :
    (score.setArchival now isArchival ttl).Outlasts t u ↔
      isArchival = true ∧ u ≤ (now + ttl).toNat := by
  rw [outlasts_iff h, setArchival]
  cases isArchival <;> simp

theorem outlasts_recordSignal {cfg : ReputationConfig} {signal : Signal} {serviceID : ServiceID} :
    (score.recordSignal cfg now signal serviceID).Outlasts t u ↔ score.Outlasts t u := by
  obtain ⟨value, strikes, c, m, heq⟩ := recordSignal_eq cfg now signal score serviceID
  rw [heq]
  rfl

end ScoreRecord

namespace ScoreStore

open WriteBehind

/-- The event takes no archival status from the key that is to last from `t` until `u`: it
neither recovers nor resets the key, and what it loads or sets for the key lasts as long. -/
def KeepsStatus (cfg : ReputationConfig) (key : EndpointKey) (t u : Time) (s : ScoreStore) :
    ScoreEvent → Prop
  | .recoverScore i _ => ∀ r, s.recovering[i]? = some r → r.key ≠ key
  | .resetScore key' _ => cfg.enabled = true → key' ≠ key
  | .setArchivalStatus key' isArchival ttl now =>
    key' = key → isArchival = true ∧ u ≤ (now + ttl).toNat
  | .archivalSet i => ∀ e, s.loaded[i]? = some e → e.1 = key → e.2.Outlasts t u
  | .refreshSet =>
    ∀ scores, s.refresh = .fetched scores → ∀ score, scores.lookup key = some score →
      score.Outlasts t u
  | _ => True

def Held (key : EndpointKey) (t u : Time) (s : ScoreStore) : Prop :=
  ∃ score, s.cache.lookup key = some score ∧ score.Outlasts t u

variable {cfg : ReputationConfig} {backend : Backend} {key : EndpointKey} {t u : Time}
  {s s' : ScoreStore} {e : ScoreEvent}

theorem held_iff {score : ScoreRecord} (h : s.cache.lookup key = some score) :
    Held key t u s ↔ score.Outlasts t u := by
  simp [Held, h]

theorem held_iff_forall (h : (s.cache.lookup key).isSome) :
    Held key t u s ↔ ∀ now, t ≤ now → now < u → s.isArchivalCapable key now = true := by
  obtain ⟨score, hs⟩ := isSome_iff_exists.mp h
  rw [held_iff hs]
  simp only [ScoreRecord.Outlasts, isArchivalCapable, hs]

theorem held_singleton {w : EndpointKey × ScoreRecord} (hheld : Held key t u s)
    (hl : s'.cache.lookup key = (lastOf id key [w]).or (s.cache.lookup key)) :
    Held key t u s' ↔ (w.1 = key → w.2.Outlasts t u) := by
  by_cases hw : w.1 = key
  · rw [show lastOf id key [w] = some w.2 by simp [lastOf, hw], some_or] at hl
    rw [held_iff hl]
    simp [hw]
  · rw [show lastOf id key [w] = none by simp [lastOf, hw], none_or] at hl
    simpa [Held, hl, hw] using hheld

theorem held_step (h : t < u) (hheld : Held key t u s) (hstep : s.step cfg backend e = some s') :
    Held key t u s' ↔ KeepsStatus cfg key t u s e := by
  have hl := lookup_cache_of_step hstep key
  have hsame : s.installs cfg e = [] → Held key t u s' := by
    intro hnone
    rw [hnone, lastOf, none_or] at hl
    simpa [Held, hl] using hheld
  cases e with
  | recordSignal =>
    refine iff_true_intro ?_
    by_cases hen : cfg.enabled
    · simp only [installs, hen, if_true] at hl
      refine (held_singleton hheld hl).mpr ?_
      rintro rfl
      obtain ⟨score, hs, hout⟩ := hheld
      simpa [outlasts_recordSignal, scoreOrInitial, hs] using hout
    · exact hsame (by simp [installs, hen])
  | recoverScore =>
    obtain ⟨r, hr, -⟩ := map_eq_some_iff.mp hstep
    simp only [installs, hr, map_some, toList_some] at hl
    rw [held_singleton hheld hl]
    simp [KeepsStatus, hr, initial, not_outlasts_fresh h]
  | resetScore =>
    by_cases hen : cfg.enabled
    · simp only [installs, hen, if_true] at hl
      rw [held_singleton hheld hl]
      simp [KeepsStatus, hen, initial, not_outlasts_fresh h]
    · exact iff_of_true (hsame (by simp [installs, hen])) (fun h => absurd h hen)
  | setArchivalStatus =>
    rw [held_singleton hheld hl]
    simp only [outlasts_setArchival h, KeepsStatus]
  | archivalSet =>
    obtain ⟨w, hw, -⟩ := map_eq_some_iff.mp hstep
    simp only [installs, hw, toList_some] at hl
    rw [held_singleton hheld hl]
    simp [KeepsStatus, hw]
  | refreshSet =>
    simp only [step, refreshSet] at hstep
    split at hstep
    · rename_i scores hs
      simp only [installs, hs, Refresh.scores, lastOf_pairs] at hl
      cases hf : scores.lookup key with
      | none =>
        rw [hf, none_or] at hl
        simpa [Held, hl, KeepsStatus, hs, hf] using hheld
      | some =>
        rw [hf, some_or] at hl
        simp [held_iff hl, KeepsStatus, hs, hf]
    · cases hstep
  | _ => exact iff_true_intro (hsame rfl)

theorem cached_step (hcached : (s.cache.lookup key).isSome)
    (hstep : s.step cfg backend e = some s') : (s'.cache.lookup key).isSome := by
  rw [lookup_cache_of_step hstep, isSome_or, hcached, Bool.or_true]

/-- After `SetArchivalStatus(key, true, ttl)` at time `t`, the key is archival in every state
of a run and at every time before `t + ttl` exactly if no event of the run takes the status
from it. -/
theorem archivalStatus_sticky_iff {s₀ : ScoreStore} {ttl : Int} {events : List ScoreEvent}
    (hrun : run (step cfg backend) (s₀.setArchivalStatus cfg key true ttl t) events =
      some s) :
    (∀ pre post s', events = pre ++ post →
      run (step cfg backend) (s₀.setArchivalStatus cfg key true ttl t) pre = some s' →
      ∀ now : Time, t ≤ now → now < t + ttl → s'.isArchivalCapable key now = true) ↔
    (ttl ≤ 0 ∨ Machine.Meets (step cfg backend) (KeepsStatus cfg key t (t + ttl).toNat)
      (s₀.setArchivalStatus cfg key true ttl t) events) := by
  have hset : (s₀.setArchivalStatus cfg key true ttl t).cache.lookup key =
      some ((s₀.scoreOrInitial cfg key t).setArchival t true ttl) := AList.lookup_insert s₀.cache
  rcases le_or_gt ttl 0 with hneg | hpos
  · refine iff_of_true (fun _ _ _ _ _ now hle hlt => absurd hlt (not_lt.mpr ?_)) (.inl hneg)
    exact (add_le_of_nonpos_right hneg).trans (Int.ofNat_le.mpr hle)
  · have htu : t < (t + ttl).toNat := Int.lt_toNat.mpr (lt_add_of_pos_right _ hpos)
    have hstart : Held key t (t + ttl).toNat (s₀.setArchivalStatus cfg key true ttl t) :=
      (held_iff hset).mpr ((outlasts_setArchival htu).mpr ⟨rfl, le_rfl⟩)
    rw [or_iff_right hpos.not_ge,
      ← always_iff_meets (fun _ _ _ => held_step htu) hstart hrun]
    refine forall₅_congr fun pre post s' heq hpre => ?_
    have hcached := invariant_of_step (fun _ _ _ => cached_step) (by rw [hset]; rfl) hpre
    rw [held_iff_forall hcached]
    refine forall_congr' fun now => forall_congr' fun _ => ?_
    rw [Int.lt_toNat]

theorem archivalStatus_sticky_iff_recorded : ∃ s,
    run (step .plain sampleBackend)
      ((start ∅).setArchivalStatus .plain sampleKey true 3600 0)
      [.recordSignal sampleKey 1 (.ofUser .fatalError), .enqueueArchival 0] = some s ∧
    ∀ pre post s', [.recordSignal sampleKey 1 (.ofUser .fatalError), .enqueueArchival 0] =
        pre ++ post →
      run (step .plain sampleBackend)
        ((start ∅).setArchivalStatus .plain sampleKey true 3600 0) pre = some s' →
      ∀ now : Time, 0 ≤ now → now < (0 : Time) + (3600 : Int) →
        s'.isArchivalCapable sampleKey now = true := by
  refine exists_of_any (fun _ => True) (by decide +kernel) fun s hrun _ => ?_
  exact (archivalStatus_sticky_iff hrun).mpr
    (.inr ⟨trivial, fun _ _ => ⟨trivial, fun _ _ => trivial⟩⟩)

def failingArchival : List ScoreEvent :=
  [.recordSignal sampleKey 0 (.ofUser .fatalError), .recordSignal sampleKey 0 (.ofUser .fatalError),
    .setArchivalStatus sampleKey true 3600 0]

theorem archivalStatus_lost :
    (run (step .plain sampleBackend) (start ∅)
      (failingArchival ++ [.decideRecovery [sampleKey] 300, .recoverScore 0 300])).map
        (fun s => s.isArchivalCapable sampleKey 301) = some false ∧
    (run (step .plain sampleBackend) (start ∅)
      (failingArchival ++ [.resetScore sampleKey 300])).map
        (fun s => s.isArchivalCapable sampleKey 301) = some false ∧
    (run (step .plain sampleBackend) (start ∅)
      ([.recordSignal sampleKey 0 (.ofUser .success), .enqueue 0, .receive, .flush,
        .setArchivalStatus sampleKey true 3600 1, .refreshList, .refreshGet, .refreshSet])).map
        (fun s => s.isArchivalCapable sampleKey 301) = some false := by
  refine ⟨?_, ?_, ?_⟩
  · decide +kernel
  · decide +kernel
  · decide +kernel

end ScoreStore

end PathGateway
