import PathGateway.RateDetectors

/-! The end of an endpoint's bench. Three mechanisms write it: the two rate detectors only
move it to a later time, the strike system sets it anew. -/

namespace PathGateway

namespace ScoreRecord

variable {cfg : ReputationConfig} {now : Time} {signal : Signal} {s : ScoreRecord}
  {serviceID : ServiceID} {u : Time}

def LastsUntil (s : ScoreRecord) (u : Time) : Prop :=
  ∃ u', s.cooldownUntil = some u' ∧ u ≤ u'

/-- A bench that is still running at `now` ends no earlier afterwards. -/
def KeepsBench (now : Time) (s s' : ScoreRecord) : Prop :=
  ∀ u, s.cooldownUntil = some u → now < u → s'.LastsUntil u

/-- One of the rate detectors trips on the signal, and its cooldown lasts until `u`. -/
def RateTripLasts (cfg : ReputationConfig) (now : Time) (signal : Signal) (s : ScoreRecord)
    (u : Time) : Prop :=
  signal.isHealthCheck = false ∧
    ((s.criticalRate.trips cfg.platform criticalRateLimits signal.isCritical s.observations = true ∧
        u ≤ s.criticalRate.tripEnd cfg.platform now) ∨
      (s.invalidRate.trips cfg.platform invalidRateLimits signal.isProtocolViolation
          s.observations = true ∧ u ≤ s.invalidRate.tripEnd cfg.platform now))

theorem lastsUntil_extendCooldown {endsAt : Time} :
    (s.extendCooldown endsAt).LastsUntil u ↔ s.LastsUntil u ∨ u ≤ endsAt := by
  rw [extendCooldown]
  cases hc : s.cooldownUntil with
  | none => simp [LastsUntil, hc]
  | some c =>
    by_cases hlt : c < endsAt
    · simp only [LastsUntil, hc, Option.all_some, hlt, decide_true, if_true, Option.some.injEq,
        exists_eq_left']
      exact (or_iff_right_of_imp fun h => h.trans hlt.le).symm
    · simp only [LastsUntil, hc, Option.all_some, hlt, decide_false, Bool.false_eq_true, if_false,
        Option.some.injEq, exists_eq_left']
      exact (or_iff_left_of_imp fun h => h.trans (not_lt.mp hlt)).symm

theorem lastsUntil_detectCritical :
    (s.detectCritical cfg now signal).LastsUntil u ↔ s.LastsUntil u ∨
    s.criticalRate.trips cfg.platform criticalRateLimits signal.isCritical s.observations = true ∧
    u ≤ s.criticalRate.tripEnd cfg.platform now := by
  simp only [detectCritical]
  split_ifs with ht
  · rw [lastsUntil_extendCooldown, and_iff_right ht]
    rfl
  · rw [or_iff_left fun h => ht h.1]
    rfl

theorem lastsUntil_detectInvalid :
    (s.detectInvalid cfg now signal).LastsUntil u ↔ s.LastsUntil u ∨
      s.invalidRate.trips cfg.platform invalidRateLimits signal.isProtocolViolation s.observations =
      true ∧ u ≤ s.invalidRate.tripEnd cfg.platform now := by
  simp only [detectInvalid]
  split_ifs with ht
  · rw [lastsUntil_extendCooldown, and_iff_right ht]
    rfl
  · rw [or_iff_left fun h => ht h.1]
    rfl

theorem lastsUntil_detect :
    (s.detect cfg now signal).LastsUntil u ↔ s.LastsUntil u ∨ s.RateTripLasts cfg now signal u := by
  rw [detect, RateTripLasts]
  split_ifs with hhc
  · simp [hhc]
  · obtain ⟨c, hc⟩ := detectCritical_eq cfg now signal s
    rw [lastsUntil_detectInvalid, lastsUntil_detectCritical, or_assoc, hc]
    simp [hhc, observations]

theorem lastsUntil_strike :
    (s.strike cfg now signal).LastsUntil u ↔
      if signal.isCritical = true ∧ strikeThreshold ≤ s.criticalStrikes + 1 then u ≤
      now + strikeCooldown cfg.platform (s.criticalStrikes + 1) else s.LastsUntil u := by
  rw [strike]
  by_cases hcrit : signal.isCritical = true
  · by_cases hle : strikeThreshold ≤ s.criticalStrikes + 1 <;> simp [LastsUntil, hcrit, hle]
  · simp [hcrit]

theorem tally_criticalStrikes (h : signal.isCritical = true) :
    (s.tally signal).criticalStrikes = s.criticalStrikes := by
  have hneg : signal.isPositive = false := by
    rw [Signal.isCritical, Bool.or_eq_true, beq_iff_eq, beq_iff_eq] at h
    rcases h with h | h <;> simp [Signal.isPositive, h, getScoreImpact]
  rw [tally, hneg]
  simp only [Bool.false_eq_true, if_false]
  split_ifs <;> rfl

theorem lastsUntil_recordSignal :
    (s.recordSignal cfg now signal serviceID).LastsUntil u ↔
      (if signal.isCritical = true ∧ strikeThreshold ≤ s.criticalStrikes + 1 then u ≤
      now + strikeCooldown cfg.platform (s.criticalStrikes + 1) else s.LastsUntil u) ∨
      (s.tally signal).RateTripLasts cfg now signal u := by
  obtain ⟨m, hm⟩ := updateLatency_eq cfg now signal
    ((((s.tally signal).applyImpact cfg now signal serviceID).strike cfg now signal).detect cfg now
      signal)
  obtain ⟨strikes, c, hs⟩ := strike_eq cfg now signal
    ((s.tally signal).applyImpact cfg now signal serviceID)
  rw [recordSignal, tally_applyImpact, hm]
  change ((((s.tally signal).applyImpact cfg now signal serviceID).strike cfg now
    signal).detect cfg now signal).LastsUntil u ↔ _
  rw [lastsUntil_detect]
  refine or_congr ?_ ?_
  · have hlasts : ((s.tally signal).applyImpact cfg now signal serviceID).LastsUntil u ↔
        s.LastsUntil u := by
      obtain ⟨_, ht⟩ := tally_eq signal s
      rw [ht]
      rfl
    rw [lastsUntil_strike, hlasts]
    by_cases hcrit : signal.isCritical = true
    · have hstrikes : ((s.tally signal).applyImpact cfg now signal serviceID).criticalStrikes =
          s.criticalStrikes := tally_criticalStrikes hcrit
      rw [hstrikes]
    · simp [hcrit]
  · rw [hs]
    rfl

/-- A signal keeps the bench exactly when it is not a critical one at the strike threshold
whose new cooldown ends before the old one, or a rate detector makes up for it. -/
theorem recordSignal_keepsBench_iff (cfg : ReputationConfig) (serviceID : ServiceID) (now : Time)
    (signal : Signal) (s : ScoreRecord) :
    KeepsBench now s (s.recordSignal cfg now signal serviceID) ↔
      (signal.isCritical = true → strikeThreshold ≤ s.criticalStrikes + 1 →
        ∀ u, s.cooldownUntil = some u → now < u →
          u ≤ now + strikeCooldown cfg.platform (s.criticalStrikes + 1) ∨
            (s.tally signal).RateTripLasts cfg now signal u) := by
  simp only [KeepsBench, lastsUntil_recordSignal]
  constructor
  · intro h hcrit hle u hu hnow
    simpa only [hcrit, hle, and_self, if_true] using h u hu hnow
  · intro h u hu hnow
    split_ifs with hc
    · exact h hc.1 hc.2 u hu hnow
    · exact .inl ⟨u, hu, le_rfl⟩

theorem critical_error_shortens_bench :
    ¬∀ (cfg : ReputationConfig) (serviceID : ServiceID) (created now : Time)
      (es : List (Time × Signal)) (signal : Signal),
      (created :: es.map Prod.fst).Pairwise (· ≤ ·) →
      ((ScoreRecord.fresh (cfg.getInitialScoreForService serviceID) created).recordSignals cfg
        serviceID es).lastUpdated ≤ now →
      KeepsBench now
        ((ScoreRecord.fresh (cfg.getInitialScoreForService serviceID) created).recordSignals cfg
          serviceID es)
        (((ScoreRecord.fresh (cfg.getInitialScoreForService serviceID) created).recordSignals cfg
          serviceID es).recordSignal cfg now signal serviceID) := by
  intro h
  obtain ⟨u, hu, hle⟩ := h .plain "eth" 0 2
    (List.replicate 9 (0, .ofUser .criticalError) ++ [(1, .ofUser .success)])
    (.ofUser .criticalError) (by decide) (by decide +kernel) 3600 (by decide +kernel) (by decide)
  obtain rfl : 1202 = u := Option.some.inj (Eq.trans (by decide +kernel) hu)
  exact absurd hle (by decide)

end ScoreRecord

end PathGateway
