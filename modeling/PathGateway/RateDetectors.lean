import PathGateway.ScoreUpdate

/-! Isolation of the two rate detectors: with enough observations behind it, each one
depends on nothing but its own past and its own indicator in the user's traffic. -/

namespace PathGateway

namespace RateDetector

variable {pl : Platform} {limits : RateLimits} {now : Time} {hit : Bool} {n : Nat}
  {d : RateDetector}

theorem observe_of_le (h : limits.minObservations ≤ n) :
    d.observe pl limits now hit n = d.observe pl limits now hit limits.minObservations := by
  simp [observe, trips, h]

def observeAll (pl : Platform) (limits : RateLimits) (d : RateDetector)
    (xs : List (Time × Bool)) : RateDetector :=
  xs.foldl (fun d x => d.observe pl limits x.1 x.2 limits.minObservations) d

end RateDetector

namespace ScoreRecord

variable {cfg : ReputationConfig} {now : Time} {signal : Signal} {s : ScoreRecord}
  {serviceID : ServiceID} {es es' : List (Time × Signal)}

def isUserTraffic (e : Time × Signal) : Bool := !e.2.isHealthCheck

section Detector

variable {rate : ScoreRecord → RateDetector} {limits : RateLimits} {indicator : Signal → Bool}

theorem observeAll_of_recordSignal (hstep : ∀ (s : ScoreRecord) (now : Time) (signal : Signal),
      limits.minObservations ≤ s.observations →
      rate (s.recordSignal cfg now signal serviceID) = if signal.isHealthCheck then rate s
      else (rate s).observe cfg.platform limits now (indicator signal) limits.minObservations)
    (h : limits.minObservations ≤ s.observations) :
    rate (s.recordSignals cfg serviceID es) = (rate s).observeAll cfg.platform limits
      ((es.filter isUserTraffic).map (fun e => (e.1, indicator e.2))) := by
  induction es generalizing s with
  | nil => rfl
  | cons e es ih =>
    have hnext := h.trans (observations_le_recordSignal cfg e.1 e.2 s serviceID)
    rw [recordSignals, List.foldl_cons]
    refine (ih hnext).trans ?_
    rw [hstep s e.1 e.2 h]
    cases hhc : e.2.isHealthCheck <;> simp [isUserTraffic, hhc, RateDetector.observeAll]

end Detector

theorem recordSignals_criticalRate (h : criticalRateLimits.minObservations ≤ s.observations) :
    (s.recordSignals cfg serviceID es).criticalRate =
    s.criticalRate.observeAll cfg.platform criticalRateLimits
    ((es.filter isUserTraffic).map (fun e => (e.1, e.2.isCritical))) := by
  refine observeAll_of_recordSignal (fun s now signal hs => ?_) h
  obtain ⟨_, _, _, _, heq⟩ := recordSignal_eq cfg now signal s serviceID
  rw [heq]
  simp only
  rw [RateDetector.observe_of_le (hs.trans observations_le_tally)]

theorem recordSignals_invalidRate (h : invalidRateLimits.minObservations ≤ s.observations) :
    (s.recordSignals cfg serviceID es).invalidRate = s.invalidRate.observeAll cfg.platform
    invalidRateLimits ((es.filter isUserTraffic).map (fun e => (e.1, e.2.isProtocolViolation))) :=
    by
  refine observeAll_of_recordSignal (fun s now signal hs => ?_) h
  obtain ⟨_, _, _, _, heq⟩ := recordSignal_eq cfg now signal s serviceID
  rw [heq]
  simp only
  rw [RateDetector.observe_of_le (hs.trans observations_le_tally)]

def eraseViolation (e : Time × Signal) : Time × Signal :=
  (e.1, { e.2 with isProtocolViolation := false })

def eraseType (e : Time × Signal) : Time × Signal :=
  (e.1, { e.2 with type := .success })

theorem map_userTraffic_of_map {α : Type} {erase : Time × Signal → Time × Signal}
    {f : Time × Signal → α} (h : es.map erase = es'.map erase) (hf : ∀ e, f (erase e) = f e)
    (huser : ∀ e, isUserTraffic (erase e) = isUserTraffic e) :
    (es.filter isUserTraffic).map f = (es'.filter isUserTraffic).map f := by
  have hread : ∀ es : List (Time × Signal),
      (es.filter isUserTraffic).map f = ((es.map erase).filter isUserTraffic).map f := by
    intro es
    rw [List.filter_map, List.map_map]
    simp only [Function.comp_def, hf, huser]
  rw [hread es, hread es', h]

/-- Detector isolation. Health checks reach neither detector, protocol violations do not
reach the critical rate, signal types do not reach the invalid rate, and the end of the
cooldown reaches neither. -/
theorem detectors_isolated (cfg : ReputationConfig) (serviceID : ServiceID) (s : ScoreRecord)
    (h : 1000 ≤ s.successCount + s.errorCount) (es es' : List (Time × Signal)) :
    (es.filter isUserTraffic = es'.filter isUserTraffic →
      (s.recordSignals cfg serviceID es).criticalRate =
        (s.recordSignals cfg serviceID es').criticalRate ∧
      (s.recordSignals cfg serviceID es).invalidRate =
        (s.recordSignals cfg serviceID es').invalidRate) ∧
    (es.map eraseViolation = es'.map eraseViolation →
      (s.recordSignals cfg serviceID es).criticalRate =
        (s.recordSignals cfg serviceID es').criticalRate) ∧
    (es.map eraseType = es'.map eraseType →
      (s.recordSignals cfg serviceID es).invalidRate =
        (s.recordSignals cfg serviceID es').invalidRate) ∧
    (∀ c, ({ s with cooldownUntil := c }.recordSignals cfg serviceID es).criticalRate =
        (s.recordSignals cfg serviceID es).criticalRate ∧
      ({ s with cooldownUntil := c }.recordSignals cfg serviceID es).invalidRate =
        (s.recordSignals cfg serviceID es).invalidRate) := by
  have hcrit : criticalRateLimits.minObservations ≤ s.observations :=
    (show criticalRateLimits.minObservations ≤ 1000 by decide).trans h
  have hinv : invalidRateLimits.minObservations ≤ s.observations := h
  refine ⟨fun huser => ⟨?_, ?_⟩, fun hviol => ?_, fun htype => ?_, fun c => ⟨?_, ?_⟩⟩
  · rw [recordSignals_criticalRate hcrit, recordSignals_criticalRate hcrit, huser]
  · rw [recordSignals_invalidRate hinv, recordSignals_invalidRate hinv, huser]
  · rw [recordSignals_criticalRate hcrit, recordSignals_criticalRate hcrit,
      map_userTraffic_of_map hviol (fun _ => rfl) (fun _ => rfl)]
  · rw [recordSignals_invalidRate hinv, recordSignals_invalidRate hinv,
      map_userTraffic_of_map htype (fun _ => rfl) (fun _ => rfl)]
  · exact (recordSignals_criticalRate (by exact hcrit)).trans
      (recordSignals_criticalRate hcrit).symm
  · exact (recordSignals_invalidRate (by exact hinv)).trans (recordSignals_invalidRate hinv).symm

theorem detectors_isolated_probe :
    ({ ScoreRecord.fresh 80 0 with successCount := 1000 }.recordSignals .plain "eth"
        [(1, .ofUser .criticalError)]).criticalRate =
      ({ ScoreRecord.fresh 80 0 with successCount := 1000 }.recordSignals .plain "eth"
        [(0, .ofProbe .criticalError), (1, .ofUser .criticalError)]).criticalRate :=
  ((detectors_isolated .plain "eth" { ScoreRecord.fresh 80 0 with successCount := 1000 }
    (by decide) [(1, .ofUser .criticalError)]
    [(0, .ofProbe .criticalError), (1, .ofUser .criticalError)]).1 (by decide)).1

end ScoreRecord

end PathGateway
