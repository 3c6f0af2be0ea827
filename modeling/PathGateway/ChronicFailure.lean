import Mathlib.Tactic.Linarith
import Mathlib.Tactic.NormNum
import Mathlib.Tactic.Ring
import PathGateway.RateDetectors

/-! The critical-rate detector on a stream of user signals: which rates of failure trip it, which do
not, and how soon it can trip again. -/

namespace PathGateway

open List RateDetector

def nextCriticalRate (rate : ℚ) (hit : Bool) : ℚ := 19 / 20 * rate + if hit then 1 / 20 else 0

/-- The rate after the hits; it starts over each time the detector trips. -/
def criticalRateAfter (rate : ℚ) (hits : List Bool) : ℚ :=
  hits.foldl (fun r hit =>
    if 3 / 10 ≤ nextCriticalRate r hit then 0 else nextCriticalRate r hit) rate

section Rates

variable {r r' : ℚ} {hit : Bool} {hits : List Bool}

theorem nextCriticalRate_nonneg (hr : 0 ≤ r) : 0 ≤ nextCriticalRate r hit := by
  rw [nextCriticalRate]
  split <;> linarith

theorem nextCriticalRate_mono (h : r ≤ r') : nextCriticalRate r hit ≤ nextCriticalRate r' hit := by
  rw [nextCriticalRate, nextCriticalRate]
  linarith

theorem criticalRateAfter_concat :
    criticalRateAfter r (hits ++ [hit]) =
      if 3 / 10 ≤ nextCriticalRate (criticalRateAfter r hits) hit then 0
      else nextCriticalRate (criticalRateAfter r hits) hit := by
  rw [criticalRateAfter, foldl_append]
  rfl

theorem criticalRateAfter_nonneg (hr : 0 ≤ r) : 0 ≤ criticalRateAfter r hits := by
  induction hits using reverseRecOn with
  | nil => exact hr
  | append_singleton hits hit ih =>
    rw [criticalRateAfter_concat]
    split
    · exact le_rfl
    · exact nextCriticalRate_nonneg ih

theorem criticalRateAfter_concat_le (hr : 0 ≤ r) :
    criticalRateAfter r (hits ++ [hit]) ≤ nextCriticalRate (criticalRateAfter r hits) hit := by
  have hnonneg := @nextCriticalRate_nonneg _ hit (@criticalRateAfter_nonneg _ hits hr)
  rw [criticalRateAfter_concat]
  split
  · exact hnonneg
  · exact le_rfl

/-- Each hit brings the rate nearer to one by a twentieth of what is missing, and nothing else
raises it. -/
theorem nextCriticalRate_le_of_count :
    nextCriticalRate (criticalRateAfter 0 hits) hit ≤
      1 - (19 / 20) ^ (hits ++ [hit]).count true := by
  have hstep {r : ℚ} {k : ℕ} {hit : Bool} (h : r ≤ 1 - (19 / 20) ^ k) :
      nextCriticalRate r hit ≤ 1 - (19 / 20) ^ (k + [hit].count true) := by
    have hpow : (19 / 20 : ℚ) ^ k ≤ 1 := pow_le_one₀ (by norm_num) (by norm_num)
    cases hit with
    | true =>
      simp only [nextCriticalRate, count_singleton_self, if_true, pow_succ]
      linarith
    | false =>
      simp only [nextCriticalRate, Bool.false_eq_true, if_false]
      rw [count_eq_zero_of_not_mem (by simp), Nat.add_zero]
      linarith
  have hafter : criticalRateAfter 0 hits ≤ 1 - (19 / 20) ^ hits.count true := by
    induction hits using reverseRecOn with
    | nil => norm_num [criticalRateAfter]
    | append_singleton hits hit ih =>
      rw [count_append]
      exact (criticalRateAfter_concat_le le_rfl).trans (hstep ih)
  rw [count_append]
  exact hstep hafter

theorem seven_le_count (h : 3 / 10 ≤ nextCriticalRate (criticalRateAfter 0 hits) hit) :
    7 ≤ (hits ++ [hit]).count true := by
  have hle := h.trans nextCriticalRate_le_of_count
  by_contra hfew
  have hpow : (19 / 20 : ℚ) ^ 6 ≤ (19 / 20) ^ (hits ++ [hit]).count true :=
    pow_le_pow_of_le_one (by norm_num) (by norm_num) (by omega)
  norm_num at hpow hle
  linarith

theorem nextCriticalRate_window (hr : 0 ≤ r) {a b c : Bool} (h : [a, b, c, hit].count true ≤ 1) :
    nextCriticalRate (criticalRateAfter r [a, b, c]) hit ≤ (19 / 20) ^ 4 * r + 1 / 20 := by
  have hfirst : criticalRateAfter r [a] ≤ nextCriticalRate r a :=
    @criticalRateAfter_concat_le _ a [] hr
  have hsecond : criticalRateAfter r [a, b] ≤ nextCriticalRate (criticalRateAfter r [a]) b :=
    @criticalRateAfter_concat_le _ b [a] hr
  have hthird : criticalRateAfter r [a, b, c] ≤ nextCriticalRate (criticalRateAfter r [a, b]) c :=
    @criticalRateAfter_concat_le _ c [a, b] hr
  have hlast := @nextCriticalRate_mono _ _ hit (hthird.trans (nextCriticalRate_mono
    (hsecond.trans (nextCriticalRate_mono hfirst))))
  refine hlast.trans ?_
  cases a <;> cases b <;> cases c <;> cases hit <;> first
    | exact absurd h (by decide)
    | simp only [nextCriticalRate, if_true, Bool.false_eq_true, if_false]; linarith

/-- One hit in four is too few. -/
theorem nextCriticalRate_lt_of_sparse (h : ∀ w, w <:+: hits ++ [hit] → w.length = 4 →
    w.count true ≤ 1) : nextCriticalRate (criticalRateAfter 0 hits) hit < 3 / 10 := by
  have hbound : nextCriticalRate (criticalRateAfter 0 hits) hit ≤ 8000 / 29679 := by
    induction hn : hits.length using Nat.strong_induction_on generalizing hits hit with
    | _ n ih =>
      by_cases hshort : n < 3
      · refine nextCriticalRate_le_of_count.trans ?_
        have hcount : (hits ++ [hit]).count true ≤ 3 := by
          refine count_le_length.trans ?_
          rw [length_append, hn]
          simp only [length_singleton]
          omega
        have hpow : (19 / 20 : ℚ) ^ 3 ≤ (19 / 20) ^ (hits ++ [hit]).count true :=
          pow_le_pow_of_le_one (by norm_num) (by norm_num) hcount
        norm_num at hpow ⊢
        linarith
      · -- the last four signals, and the rate before them
        obtain ⟨front, a, b, c, rfl⟩ : ∃ front a b c, hits = front ++ [a, b, c] := by
          have hlast : (hits.drop (n - 3)).length = 3 := by
            rw [length_drop]
            omega
          obtain ⟨a, b, c, habc⟩ := length_eq_three.mp hlast
          exact ⟨hits.take (n - 3), a, b, c, by rw [← habc, take_append_drop]⟩
        have hfront : criticalRateAfter 0 front ≤ 8000 / 29679 := by
          rcases eq_nil_or_concat front with rfl | ⟨init, last, rfl⟩
          · norm_num [criticalRateAfter]
          · rw [concat_eq_append] at h hn ⊢
            refine (criticalRateAfter_concat_le le_rfl).trans (ih init.length ?_ ?_ rfl)
            · simp only [length_append, length_cons, length_nil] at hn
              omega
            · intro w hw
              refine h w (hw.trans ?_)
              rw [append_assoc (init ++ [last])]
              exact (prefix_append _ _).isInfix
        have hwindow := h [a, b, c, hit] ⟨front, [], by simp⟩ rfl
        have hle := nextCriticalRate_window (@criticalRateAfter_nonneg _ front le_rfl) hwindow
        have hafter : criticalRateAfter 0 (front ++ [a, b, c]) =
            criticalRateAfter (criticalRateAfter 0 front) [a, b, c] := foldl_append
        rw [hafter]
        norm_num at hle ⊢
        linarith
  norm_num at hbound ⊢
  linarith

theorem criticalRateAfter_eq_of_quiet (h : ∀ pre hit post, hits = pre ++ hit :: post →
    nextCriticalRate (criticalRateAfter r pre) hit < 3 / 10) :
    criticalRateAfter r hits = hits.foldl nextCriticalRate r := by
  induction hits using reverseRecOn with
  | nil => rfl
  | append_singleton hits hit ih =>
    have hquiet := h hits hit [] rfl
    rw [criticalRateAfter_concat, if_neg (not_le.mpr hquiet), foldl_append, ih]
    · rfl
    · intro pre hit' post heq
      exact h pre hit' (post ++ [hit]) (by simp [heq])

theorem le_foldl_blocks {blocks : List (List Bool)} (h : ∀ b ∈ blocks, b.length = 3 ∧ true ∈ b) :
    361 / 1141 * (1 - (6859 / 8000) ^ blocks.length) + (6859 / 8000) ^ blocks.length * r ≤
      blocks.flatten.foldl nextCriticalRate r := by
  induction blocks generalizing r with
  | nil => simp
  | cons b blocks ih =>
    obtain ⟨⟨hlength, hhit⟩, hrest⟩ := forall_mem_cons.mp h
    obtain ⟨x, y, z, rfl⟩ := length_eq_three.mp hlength
    -- the block counts least where its first signal is the failure
    have hblock : 6859 / 8000 * r + 361 / 8000 ≤ [x, y, z].foldl nextCriticalRate r := by
      cases x <;> cases y <;> cases z <;> first
        | exact absurd hhit (by decide)
        | simp only [foldl_cons, foldl_nil, nextCriticalRate, if_true,
            Bool.false_eq_true, if_false]; linarith
    rw [flatten_cons, foldl_append, length_cons, pow_succ]
    refine le_trans ?_ (ih hrest)
    have hscaled := mul_le_mul_of_nonneg_left hblock
      (pow_nonneg (show (0 : ℚ) ≤ 6859 / 8000 by norm_num) blocks.length)
    linarith

/-- One hit in each of twenty blocks of three is enough. -/
theorem exists_trip_of_blocks (hr : 0 ≤ r) {blocks : List (List Bool)}
    (hmany : blocks.length = 20) (h : ∀ b ∈ blocks, b.length = 3 ∧ true ∈ b) :
    ∃ pre hit post, blocks.flatten = pre ++ hit :: post ∧
    3 / 10 ≤ nextCriticalRate (criticalRateAfter r pre) hit := by
  by_contra hnone
  push Not at hnone
  have hrate := le_foldl_blocks (r := r) h
  rw [← criticalRateAfter_eq_of_quiet hnone, hmany] at hrate
  rcases eq_nil_or_concat blocks.flatten with hnil | ⟨init, last, hconcat⟩
  · rw [flatten_eq_nil_iff] at hnil
    obtain ⟨b, hb⟩ := exists_mem_of_length_pos (hmany ▸ Nat.succ_pos 19 : 0 < blocks.length)
    have hlength := (h b hb).1
    rw [hnil b hb] at hlength
    cases hlength
  · rw [concat_eq_append] at hconcat
    have hquiet := hnone init last [] hconcat
    rw [hconcat, criticalRateAfter_concat, if_neg (not_le.mpr hquiet)] at hrate
    norm_num at hrate
    linarith

end Rates

namespace ScoreRecord

/-- Recording the signal trips the critical-rate detector. -/
def criticalTrips (cfg : ReputationConfig) (s : ScoreRecord) (signal : Signal) : Bool :=
  !signal.isHealthCheck && s.criticalRate.trips cfg.platform criticalRateLimits signal.isCritical
    (s.tally signal).observations

theorem observations_le_recordSignals (cfg : ReputationConfig) (s : ScoreRecord)
    (serviceID : ServiceID) (es : List (Time × Signal)) :
    s.observations ≤ (s.recordSignals cfg serviceID es).observations := by
  induction es generalizing s with
  | nil => exact le_rfl
  | cons e es ih => exact (observations_le_recordSignal cfg e.1 e.2 s serviceID).trans (ih _)

variable {cfg : ReputationConfig} {serviceID : ServiceID} {s : ScoreRecord}
  {es : List (Time × Signal)} (hround : cfg.platform.round = id)
  (hobserved : criticalRateLimits.minObservations ≤ s.observations)
  (huser : ∀ e ∈ es, e.2.isHealthCheck = false)

include hround

theorem nextRate_eq {d : RateDetector} {hit : Bool} :
    d.nextRate cfg.platform criticalRateLimits hit = nextCriticalRate d.recentRate hit := by
  simp only [nextRate, hround, criticalRateLimits, id_eq, nextCriticalRate]
  cases hit <;> norm_num <;> ring

theorem recentRate_observeAll {d : RateDetector} {xs : List (Time × Bool)} :
    (d.observeAll cfg.platform criticalRateLimits xs).recentRate =
      criticalRateAfter d.recentRate (xs.map Prod.snd) := by
  induction xs generalizing d with
  | nil => rfl
  | cons x xs ih =>
    rw [observeAll, foldl_cons]
    refine ih.trans ?_
    rw [map_cons, criticalRateAfter, criticalRateAfter, foldl_cons]
    congr 1
    rw [observe, trips, nextRate_eq hround, hround, id_eq]
    norm_num [criticalRateLimits]
    split <;> rfl

include hobserved huser

theorem recentRate_recordSignals :
    (s.recordSignals cfg serviceID es).criticalRate.recentRate =
      criticalRateAfter s.criticalRate.recentRate (es.map fun e => e.2.isCritical) := by
  have hall : es.filter isUserTraffic = es :=
    filter_eq_self.mpr fun e he => by simp [isUserTraffic, huser e he]
  rw [recordSignals_criticalRate hobserved, recentRate_observeAll hround, hall, map_map]
  rfl

theorem criticalTrips_iff {signal : Signal} (hsignal : signal.isHealthCheck = false) :
    (s.recordSignals cfg serviceID es).criticalTrips cfg signal = true ↔
      3 / 10 ≤ nextCriticalRate (criticalRateAfter s.criticalRate.recentRate
      (es.map fun e => e.2.isCritical)) signal.isCritical := by
  have hmore : criticalRateLimits.minObservations ≤
      ((s.recordSignals cfg serviceID es).tally signal).observations :=
    (hobserved.trans (observations_le_recordSignals cfg s serviceID es)).trans observations_le_tally
  rw [criticalTrips, hsignal, trips, nextRate_eq hround, hround,
    recentRate_recordSignals hround hobserved huser, id_eq]
  simp [hmore]
  norm_num [criticalRateLimits]

omit hround hobserved huser

/-- A failure in each of twenty blocks of three signals trips the detector within them; one in four
signals never does; and from one trip to the next there are seven failures, with the one that
trips it. -/
theorem chronic_failure_detected (cfg : ReputationConfig) (hround : cfg.platform.round = id)
    (serviceID : ServiceID) (s : ScoreRecord) (hobserved : 20 ≤ s.successCount + s.errorCount)
    (hrate : 0 ≤ s.criticalRate.recentRate) (es : List (Time × Signal))
    (huser : ∀ e ∈ es, e.2.isHealthCheck = false) :
    (∀ front blocks rest, es = front ++ flatten blocks ++ rest → blocks.length = 20 →
      (∀ b ∈ blocks, b.length = 3 ∧ ∃ e ∈ b, e.2.isCritical = true) →
      ∃ pre e post, blocks.flatten = pre ++ e :: post ∧
        (s.recordSignals cfg serviceID (front ++ pre)).criticalTrips cfg e.2 = true) ∧
    (s.criticalRate.recentRate = 0 →
      (∀ w, w <:+: es → w.length = 4 → w.countP (fun e => e.2.isCritical) ≤ 1) →
      ∀ pre e post, es = pre ++ e :: post →
        (s.recordSignals cfg serviceID pre).criticalTrips cfg e.2 = false) ∧
    ∀ pre e mid e' post, es = pre ++ e :: mid ++ e' :: post →
      (s.recordSignals cfg serviceID pre).criticalTrips cfg e.2 = true →
      (s.recordSignals cfg serviceID (pre ++ e :: mid)).criticalTrips cfg e'.2 = true →
      7 ≤ (mid ++ [e']).countP (fun e => e.2.isCritical) := by
  have htrips {pre : List (Time × Signal)} {e : Time × Signal} (hpre : ∀ x ∈ pre, x ∈ es)
      (he : e ∈ es) : (s.recordSignals cfg serviceID pre).criticalTrips cfg e.2 = true ↔
        3 / 10 ≤ nextCriticalRate (criticalRateAfter s.criticalRate.recentRate
          (pre.map fun e => e.2.isCritical)) e.2.isCritical :=
    criticalTrips_iff hround hobserved (fun x hx => huser x (hpre x hx)) (huser e he)
  have hcount (w : List (Time × Signal)) :
      (w.map fun e => e.2.isCritical).count true = w.countP (fun e => e.2.isCritical) := by
    rw [count, countP_map]
    exact countP_congr (by simp)
  refine ⟨fun front blocks rest hes hmany hblocks => ?_, fun hzero hsparse pre e post hes => ?_,
    fun pre e mid e' post hes hfirst hsecond => ?_⟩
  · have hnonneg := @criticalRateAfter_nonneg _ (front.map fun e => e.2.isCritical) hrate
    have hcritical : ∀ b ∈ blocks.map (map fun e => e.2.isCritical),
        b.length = 3 ∧ true ∈ b := by
      intro b hb
      obtain ⟨c, hc, rfl⟩ := mem_map.mp hb
      simpa using hblocks c hc
    obtain ⟨pre, hit, post, hsplit, htrip⟩ :=
      exists_trip_of_blocks hnonneg (by simpa using hmany) hcritical
    rw [← map_flatten, map_eq_append_iff] at hsplit
    obtain ⟨pre, tail, hflatten, rfl, htail⟩ := hsplit
    obtain ⟨e, post, rfl, rfl, -⟩ := map_eq_cons_iff.mp htail
    refine ⟨pre, e, post, hflatten, (htrips (fun x hx => ?_) ?_).mpr ?_⟩
    · rw [hes, hflatten]
      rcases mem_append.mp hx with hx | hx <;> simp [hx]
    · simp [hes, hflatten]
    · rwa [map_append, criticalRateAfter, foldl_append]
  · have hsplit : (pre ++ [e]).map (fun e => e.2.isCritical) =
        (pre.map fun e => e.2.isCritical) ++ [e.2.isCritical] := by simp
    rw [← Bool.not_eq_true, htrips (by simp +contextual [hes]) (by simp [hes]), not_le, hzero]
    refine nextCriticalRate_lt_of_sparse fun w hw hlength => ?_
    rw [← hsplit] at hw
    obtain ⟨v, hv, rfl⟩ := infix_map_iff.mp hw
    rw [length_map] at hlength
    rw [hcount]
    exact hsparse v (hv.trans ⟨[], post, by simp [hes]⟩) hlength
  · rw [htrips (by simp +contextual [hes]) (by simp [hes])] at hfirst
    rw [htrips (fun x hx => hes ▸ mem_append_left _ hx) (by simp [hes])] at hsecond
    -- the rate starts over at the first trip
    have hover : criticalRateAfter s.criticalRate.recentRate
        ((pre ++ e :: mid).map fun e => e.2.isCritical) =
          criticalRateAfter 0 (mid.map fun e => e.2.isCritical) := by
      rw [map_append, map_cons, append_cons, criticalRateAfter, foldl_append]
      exact congrArg (fun r => foldl _ r _) (criticalRateAfter_concat.trans (if_pos hfirst))
    rw [hover] at hsecond
    rw [← hcount, map_append]
    exact seven_le_count hsecond

end ScoreRecord

section Sample

/-- A failure in each three signals. -/
def oneInThree : List (Time × Signal) :=
  (replicate 20 [(0, .ofUser .success), (0, .ofUser .success),
    (0, .ofUser .criticalError)]).flatten

theorem oneInThree_trips : ∃ pre e post, oneInThree = pre ++ e :: post ∧
    ({ ScoreRecord.fresh 80 0 with successCount := 20 }.recordSignals .plain "eth"
      pre).criticalTrips .plain e.2 = true :=
  (ScoreRecord.chronic_failure_detected .plain rfl "eth"
    { ScoreRecord.fresh 80 0 with successCount := 20 } (by decide) le_rfl oneInThree
    (by decide)).1 [] _ [] (by simp [oneInThree]) rfl (by decide)

end Sample

end PathGateway
