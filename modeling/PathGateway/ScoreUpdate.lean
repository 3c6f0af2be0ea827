import PathGateway.Reputation

/-! The full score of an endpoint and what one recorded signal does to it: the additive
score, the strikes, and the two rate detectors. -/

namespace PathGateway

inductive SignalType where
  | success
  | minorError
  | majorError
  | criticalError
  | fatalError
  | recoverySuccess
  | slowResponse
  | verySlowResponse
  | other (name : String)
  deriving DecidableEq, Repr

def getScoreImpact : SignalType → ℚ
  | .success => 1
  | .minorError => -3
  | .majorError => -10
  | .criticalError => -25
  | .fatalError => -50
  | .recoverySuccess => 5
  | .slowResponse => -1
  | .verySlowResponse => -3
  | .other _ => 0

structure Signal where
  type : SignalType
  latency : Int
  isHealthCheck : Bool
  isProtocolViolation : Bool
  recoveryMultiplier : Option ℚ
  deriving DecidableEq, Repr

namespace Signal

variable (signal : Signal)

def isPositive : Bool := decide (0 < getScoreImpact signal.type)

def isNegative : Bool := decide (getScoreImpact signal.type < 0)

def isCritical : Bool := signal.type == .criticalError || signal.type == .fatalError

def getRecoveryMultiplier : ℚ :=
  ((signal.recoveryMultiplier).filter (fun m => decide (0 < m))).getD 1

def ofUser (type : SignalType) : Signal := ⟨type, 0, false, false, none⟩

def ofProbe (type : SignalType) : Signal := ⟨type, 0, true, false, none⟩

end Signal

structure Platform where
  round : ℚ → ℚ
  second : Nat

def Platform.exact : Platform := ⟨id, 1⟩

namespace Platform

variable (pl : Platform)

def minutes (n : Nat) : Nat := n * 60 * pl.second

def baseCooldown : Nat := pl.minutes 5

def maxCooldown : Nat := pl.minutes 60

def rateCooldown : Nat := pl.minutes 10

end Platform

structure LatencyConfig where
  enabled : Bool
  fastThreshold : Int
  normalThreshold : Int
  slowThreshold : Int
  fastBonus : ℚ
  slowPenalty : ℚ
  verySlowPenalty : ℚ

structure ReputationOverride where
  initialScore : ℚ
  minThreshold : ℚ
  recoveryTimeout : Nat
  healthChecksEnabled : Bool
  probationEnabled : Bool

structure ReputationConfig where
  platform : Platform
  enabled : Bool
  initialScore : ℚ
  minThreshold : ℚ
  recoveryTimeout : Nat
  writeBufferSize : Nat
  signalImpacts : SignalType → ℚ
  latency : LatencyConfig
  serviceConfigs : GoMap ServiceID ReputationOverride
  serviceLatencyProfiles : GoMap ServiceID LatencyConfig

namespace ReputationConfig

variable (cfg : ReputationConfig)

def getImpact (t : SignalType) : ℚ :=
  match t with
  | .other _ => 0
  | t => if cfg.signalImpacts t ≠ 0 then cfg.signalImpacts t else getScoreImpact t

variable (serviceID : ServiceID)

def getInitialScoreForService : ℚ :=
  (((cfg.serviceConfigs.lookup serviceID).map ReputationOverride.initialScore).filter
    (fun v => decide (0 < v))).getD cfg.initialScore

def getMinThresholdForService : ℚ :=
  (((cfg.serviceConfigs.lookup serviceID).map ReputationOverride.minThreshold).filter
    (fun v => decide (0 < v))).getD cfg.minThreshold

def getRecoveryTimeoutForService : Nat :=
  (((cfg.serviceConfigs.lookup serviceID).map ReputationOverride.recoveryTimeout).filter
    (fun v => decide (0 < v))).getD cfg.recoveryTimeout

def getLatencyConfigForService : LatencyConfig :=
  (cfg.serviceLatencyProfiles.lookup serviceID).getD cfg.latency

def calculateLatencyAwareImpact (latency : LatencyConfig) (signal : Signal) (baseImpact : ℚ) : ℚ :=
  if baseImpact ≤ 0 || signal.latency == 0 || !latency.enabled then baseImpact
  else
    let modifier :=
      if signal.latency < latency.fastThreshold then latency.fastBonus
      else if signal.latency < latency.normalThreshold then 1
      else if signal.latency < latency.slowThreshold then latency.slowPenalty
      else latency.verySlowPenalty
    cfg.platform.round (baseImpact * modifier)

def calculateImpact (signal : Signal) : ℚ :=
  let latency := cfg.getLatencyConfigForService serviceID
  let baseImpact := cfg.getImpact signal.type
  let impact :=
    if !latency.enabled || signal.latency == 0 then baseImpact
    else cfg.calculateLatencyAwareImpact latency signal baseImpact
  if 0 < impact then cfg.platform.round (impact * signal.getRecoveryMultiplier) else impact

def plain : ReputationConfig where
  platform := .exact
  enabled := true
  initialScore := 80
  minThreshold := 30
  recoveryTimeout := 300
  writeBufferSize := 1000
  signalImpacts := fun _ => 0
  latency := ⟨false, 0, 0, 0, 0, 0, 0⟩
  serviceConfigs := ∅
  serviceLatencyProfiles := ∅

end ReputationConfig

def minScore : ℚ := 0

def maxScoreValue : ℚ := 100

def clamp (value lo hi : ℚ) : ℚ :=
  if value < lo then lo else if hi < value then hi else value

structure LatencyMetrics where
  lastLatency : Int
  avgLatency : Int
  minLatency : Int
  maxLatency : Int
  sampleCount : Nat
  lastUpdated : Option Time
  deriving DecidableEq

def LatencyMetrics.zero : LatencyMetrics := ⟨0, 0, 0, 0, 0, none⟩

def LatencyMetrics.updateLatency (pl : Platform) (now : Time) (latency : Int)
    (m : LatencyMetrics) : LatencyMetrics where
  lastLatency := latency
  sampleCount := m.sampleCount + 1
  lastUpdated := some now
  minLatency := if m.minLatency = 0 || latency < m.minLatency then latency else m.minLatency
  maxLatency := if m.maxLatency < latency then latency else m.maxLatency
  avgLatency :=
    if m.avgLatency = 0 then latency
    else
      let avg := pl.round (pl.round (pl.round m.avgLatency * pl.round (9 / 10)) +
        pl.round (pl.round latency * pl.round (1 / 10)))
      avg.num.tdiv avg.den

/-- One rate detector of a score: its moving average, how often it tripped in a row, and
when the cooldown it set last ends. -/
structure RateDetector where
  recentRate : ℚ
  cooldownCount : Nat
  cooldownUntil : Option Time
  deriving DecidableEq

structure RateLimits where
  ewmaAlpha : ℚ
  threshold : ℚ
  minObservations : Nat

def criticalRateLimits : RateLimits := ⟨5 / 100, 30 / 100, 20⟩

def invalidRateLimits : RateLimits := ⟨1 / 1000, 5 / 1000, 1000⟩

namespace RateDetector

variable (pl : Platform) (limits : RateLimits) (now : Time) (hit : Bool) (observations : Nat)
  (d : RateDetector)

def nextRate : ℚ :=
  pl.round (pl.round (d.recentRate * pl.round (1 - limits.ewmaAlpha)) +
    pl.round (limits.ewmaAlpha * (if hit then 1 else 0)))

def trips : Bool :=
  decide (pl.round limits.threshold ≤ d.nextRate pl limits hit) &&
    decide (limits.minObservations ≤ observations)

def nextCount : Nat :=
  if d.cooldownUntil.any (fun u => decide (now < u + pl.maxCooldown)) then d.cooldownCount + 1
  else 1

def tripEnd : Time :=
  now + min (pl.rateCooldown * d.nextCount pl now) pl.maxCooldown

def observe : RateDetector :=
  if d.trips pl limits hit observations then
    ⟨0, d.nextCount pl now, some (d.tripEnd pl now)⟩
  else { d with recentRate := d.nextRate pl limits hit }

end RateDetector

structure ScoreRecord extends Score where
  lastUpdated : Time
  successCount : Nat
  errorCount : Nat
  latencyMetrics : LatencyMetrics
  criticalStrikes : Nat
  criticalRate : RateDetector
  invalidRate : RateDetector
  isArchival : Bool
  archivalExpiresAt : Option Time
  deriving DecidableEq

def ScoreRecord.fresh (value : ℚ) (now : Time) : ScoreRecord where
  value := value
  cooldownUntil := none
  lastUpdated := now
  successCount := 0
  errorCount := 0
  latencyMetrics := .zero
  criticalStrikes := 0
  criticalRate := ⟨0, 0, none⟩
  invalidRate := ⟨0, 0, none⟩
  isArchival := false
  archivalExpiresAt := none

def strikeThreshold : Nat := 5

def strikeDecayPerSuccess : Nat := 3

/-- Five minutes, doubled with each strike past the threshold, at most an hour. -/
def strikeCooldown (pl : Platform) (strikes : Nat) : Nat :=
  min (pl.baseCooldown * 2 ^ min (strikes - strikeThreshold) 7) pl.maxCooldown

namespace ScoreRecord

variable (cfg : ReputationConfig) (now : Time) (signal : Signal) (s : ScoreRecord)

def observations : Nat := s.successCount + s.errorCount

def applyImpact (serviceID : ServiceID) : ScoreRecord :=
  { s with
    value := clamp (cfg.platform.round (s.value + cfg.calculateImpact serviceID signal))
      minScore maxScoreValue
    lastUpdated := now }

/-- A success takes strikes back, down to none. -/
def tally : ScoreRecord :=
  if signal.isPositive then
    { s with
      successCount := s.successCount + 1
      criticalStrikes := s.criticalStrikes - strikeDecayPerSuccess }
  else if signal.isNegative then { s with errorCount := s.errorCount + 1 }
  else s

def strike : ScoreRecord :=
  if signal.isCritical then
    { s with
      criticalStrikes := s.criticalStrikes + 1
      cooldownUntil :=
        if strikeThreshold ≤ s.criticalStrikes + 1 then
          some (now + strikeCooldown cfg.platform (s.criticalStrikes + 1))
        else s.cooldownUntil }
  else s

def extendCooldown (endsAt : Time) : ScoreRecord :=
  if s.cooldownUntil.all (fun u => decide (u < endsAt)) then
    { s with cooldownUntil := some endsAt }
  else s

def detectCritical : ScoreRecord :=
  let hit := signal.isCritical
  let pl := cfg.platform
  let s' := { s with
    criticalRate := s.criticalRate.observe pl criticalRateLimits now hit s.observations }
  if s.criticalRate.trips pl criticalRateLimits hit s.observations then
    s'.extendCooldown (s.criticalRate.tripEnd pl now)
  else s'

def detectInvalid : ScoreRecord :=
  let hit := signal.isProtocolViolation
  let pl := cfg.platform
  let s' := { s with
    invalidRate := s.invalidRate.observe pl invalidRateLimits now hit s.observations }
  if s.invalidRate.trips pl invalidRateLimits hit s.observations then
    s'.extendCooldown (s.invalidRate.tripEnd pl now)
  else s'

def detect : ScoreRecord :=
  if signal.isHealthCheck then s
  else (s.detectCritical cfg now signal).detectInvalid cfg now signal

def updateLatency : ScoreRecord :=
  if 0 < signal.latency then
    { s with
      latencyMetrics := s.latencyMetrics.updateLatency cfg.platform now signal.latency }
  else s

def recordSignal (serviceID : ServiceID) : ScoreRecord :=
  ((((s.applyImpact cfg now signal serviceID).tally signal).strike cfg now signal).detect cfg now
    signal).updateLatency cfg now signal

def recordSignals (serviceID : ServiceID) (es : List (Time × Signal)) : ScoreRecord :=
  es.foldl (fun s e => s.recordSignal cfg e.1 e.2 serviceID) s

section Frame

variable {cfg now signal s}

theorem observations_le_tally : s.observations ≤ (s.tally signal).observations := by
  simp only [tally, observations]
  split_ifs <;> simp [Nat.add_right_comm]

end Frame

theorem tally_applyImpact (serviceID : ServiceID) :
    (s.applyImpact cfg now signal serviceID).tally signal =
    (s.tally signal).applyImpact cfg now signal serviceID := by
  simp only [tally]
  split_ifs <;> rfl

theorem tally_eq : ∃ strikes, s.tally signal =
    { s with
      successCount := (s.tally signal).successCount
      errorCount := (s.tally signal).errorCount
      criticalStrikes := strikes } := by
  simp only [tally]
  split_ifs
  · exact ⟨_, rfl⟩
  · exact ⟨_, rfl⟩
  · exact ⟨_, rfl⟩

theorem strike_eq :
    ∃ strikes c,
      s.strike cfg now signal = { s with criticalStrikes := strikes, cooldownUntil := c } := by
  rw [strike]
  split
  · exact ⟨_, _, rfl⟩
  · exact ⟨_, _, rfl⟩

theorem extendCooldown_eq (endsAt : Time) :
    ∃ c, s.extendCooldown endsAt = { s with cooldownUntil := c } := by
  rw [extendCooldown]
  split_ifs
  · exact ⟨_, rfl⟩
  · exact ⟨_, rfl⟩

theorem detectCritical_eq : ∃ c, s.detectCritical cfg now signal =
    { s with
      criticalRate := s.criticalRate.observe cfg.platform criticalRateLimits now signal.isCritical
        s.observations
      cooldownUntil := c } := by
  rw [detectCritical]
  split_ifs
  · exact extendCooldown_eq _ _
  · exact ⟨_, rfl⟩

theorem detectInvalid_eq : ∃ c, s.detectInvalid cfg now signal =
    { s with
      invalidRate := s.invalidRate.observe cfg.platform invalidRateLimits now
        signal.isProtocolViolation s.observations
      cooldownUntil := c } := by
  rw [detectInvalid]
  split_ifs
  · exact extendCooldown_eq _ _
  · exact ⟨_, rfl⟩

theorem detect_eq : ∃ c, s.detect cfg now signal =
    { s with
      criticalRate :=
        if signal.isHealthCheck then s.criticalRate
        else s.criticalRate.observe cfg.platform criticalRateLimits now signal.isCritical
          s.observations
      invalidRate :=
        if signal.isHealthCheck then s.invalidRate
        else s.invalidRate.observe cfg.platform invalidRateLimits now signal.isProtocolViolation
          s.observations
      cooldownUntil := c } := by
  rw [detect]
  split_ifs
  · exact ⟨_, rfl⟩
  · obtain ⟨c, hc⟩ := detectCritical_eq cfg now signal s
    rw [hc]
    exact detectInvalid_eq cfg now signal _

theorem updateLatency_eq :
    ∃ m, s.updateLatency cfg now signal = { s with latencyMetrics := m } := by
  rw [updateLatency]
  split_ifs
  · exact ⟨_, rfl⟩
  · exact ⟨_, rfl⟩

theorem recordSignal_eq (serviceID : ServiceID) : ∃ value strikes c m,
    s.recordSignal cfg now signal serviceID =
      { s with
        value := value
        cooldownUntil := c
        lastUpdated := now
        successCount := (s.tally signal).successCount
        errorCount := (s.tally signal).errorCount
        latencyMetrics := m
        criticalStrikes := strikes
        criticalRate :=
          if signal.isHealthCheck then s.criticalRate
          else s.criticalRate.observe cfg.platform criticalRateLimits now signal.isCritical
            (s.tally signal).observations
        invalidRate :=
          if signal.isHealthCheck then s.invalidRate
          else s.invalidRate.observe cfg.platform invalidRateLimits now
            signal.isProtocolViolation (s.tally signal).observations } := by
  obtain ⟨m, hm⟩ := updateLatency_eq cfg now signal
    ((((s.tally signal).applyImpact cfg now signal serviceID).strike cfg now signal).detect cfg now
      signal)
  obtain ⟨c', hd⟩ := detect_eq cfg now signal
    (((s.tally signal).applyImpact cfg now signal serviceID).strike cfg now signal)
  obtain ⟨strikes, c, hs⟩ := strike_eq cfg now signal
    ((s.tally signal).applyImpact cfg now signal serviceID)
  obtain ⟨strikes', ht⟩ := tally_eq signal s
  rw [recordSignal, tally_applyImpact, hm, hd, hs, ht]
  exact ⟨_, _, _, _, rfl⟩

theorem observations_le_recordSignal (serviceID : ServiceID) :
    s.observations ≤ (s.recordSignal cfg now signal serviceID).observations := by
  obtain ⟨_, _, _, _, h⟩ := recordSignal_eq cfg now signal s serviceID
  rw [h]
  exact observations_le_tally

end ScoreRecord

end PathGateway
