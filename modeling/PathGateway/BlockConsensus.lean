import Mathlib.Data.List.GetD
import PathGateway.EndpointFilters
import PathGateway.OrderStatistics
import PathGateway.Uint64

/-! The perceived block height of an EVM service: the highest recent report that is not
too far above the median of the recent reports, with an external height as a floor. -/

namespace PathGateway

open Uint64 List Nat

namespace Duration

def second : ℕ := 1000000000

def minute : ℕ := 60 * second

end Duration

section Plausibility

variable {m : Type → Type} [Monad m] [Arith m]

def maxPlausibleBlockHeight : ℕ := 1000000000000

def maxBlockHeightJump : ℕ := 10000000

def isPlausibleBlockHeight (candidate current : ℕ) : m Bool :=
  if maxPlausibleBlockHeight < candidate then pure false
  else if 0 < current then do
    let limit ← add current maxBlockHeightJump
    pure (!decide (limit < candidate))
  else pure true

end Plausibility

structure BlockObservation where
  blockHeight : ℕ
  observedAt : Time
  endpointAddr : EndpointAddr
  deriving DecidableEq, Repr

/-- What `sort.Slice` makes of the observations, by time and newest first: the order of
observations made at one time is its own. -/
structure NewestFirst where
  sort : List BlockObservation → List BlockObservation
  perm : ∀ observations, (sort observations).Perm observations
  sorted : ∀ observations, (sort observations).Pairwise (fun a b => b.observedAt ≤ a.observedAt)

def NewestFirst.stable : NewestFirst where
  sort := insertionSort (fun a b => b.observedAt ≤ a.observedAt)
  perm := perm_insertionSort _
  sorted observations := by
    have : Std.Total (fun a b : BlockObservation => b.observedAt ≤ a.observedAt) :=
      ⟨fun a b => le_total b.observedAt a.observedAt⟩
    have : IsTrans BlockObservation (fun a b => b.observedAt ≤ a.observedAt) :=
      ⟨fun _ _ _ hab hbc => le_trans hbc hab⟩
    exact pairwise_insertionSort _ observations

structure BlockHeightConsensus where
  observations : List BlockObservation
  syncAllowance : ℕ
  cachedPerceived : ℕ
  externalBlockHeight : ℕ
  createdAt : Time
  externalBlockGracePeriod : ℕ
  deriving DecidableEq, Repr

namespace BlockHeightConsensus

def defaultObservationWindow : ℕ := 2 * Duration.minute

def defaultMaxObservations : ℕ := 1000

def defaultMinObservationsForMedian : ℕ := 3

def defaultMaxDeviationMultiplier : ℕ := 3

def defaultExternalBlockGracePeriod : ℕ := 30 * Duration.second

def defaultEVMBlockNumberSyncAllowance : ℕ := 0

/-- `NewBlockHeightConsensus`. The window, its size and the multiplier are the defaults, which
nothing changes later. -/
def new (syncAllowance : ℕ) (now : Time) : BlockHeightConsensus where
  observations := []
  syncAllowance := if syncAllowance = 0 then defaultEVMBlockNumberSyncAllowance else syncAllowance
  cachedPerceived := 0
  externalBlockHeight := 0
  createdAt := now
  externalBlockGracePeriod := defaultExternalBlockGracePeriod

def pruneObservationsLocked (order : NewestFirst) (observations : List BlockObservation)
    (now : Time) : List BlockObservation :=
  let valid := observations.filter
    (fun obs => decide (now < obs.observedAt + defaultObservationWindow))
  if defaultMaxObservations < valid.length then (order.sort valid).take defaultMaxObservations
  else valid

def extractHeightsLocked (observations : List BlockObservation) : List ℕ :=
  (observations.map (·.blockHeight)).insertionSort (· ≤ ·)

def maxValid (maxAllowed : ℕ) (heights : List ℕ) : ℕ :=
  heights.foldl (fun maxValid h =>
    if h ≤ maxAllowed then (if maxValid < h then h else maxValid) else maxValid) 0

section Arithmetic

variable {m : Type → Type} [Monad m] [Arith m] (c : BlockHeightConsensus)

def calculateMedian (sorted : List ℕ) : m ℕ :=
  let n := sorted.length
  if n = 0 then pure 0
  else if n % 2 = 0 then do
    let sum ← add (sorted.getD (n / 2 - 1) 0) (sorted.getD (n / 2) 0)
    pure (sum / 2)
  else pure (sorted.getD (n / 2) 0)

def consensusHeight (heights : List ℕ) : m ℕ := do
  let median ← calculateMedian heights
  let deviation ← mul c.syncAllowance defaultMaxDeviationMultiplier
  let maxAllowed ← add median deviation
  pure (if maxValid maxAllowed heights = 0 then median else maxValid maxAllowed heights)

def withExternalFloor (clock : Time) (maxValid : ℕ) : m ℕ :=
  let ext := c.externalBlockHeight
  if 0 < ext ∧ maxValid < ext then do
    let ok ← isPlausibleBlockHeight ext maxValid
    pure (if !ok then maxValid
      else if c.createdAt + c.externalBlockGracePeriod ≤ clock then ext
      else maxValid)
  else pure maxValid

def calculatePerceivedLocked (clock : Time) : m ℕ :=
  let heights := extractHeightsLocked c.observations
  if c.observations.length = 0 then pure 0
  else if heights.length < defaultMinObservationsForMedian then pure (heights.getLastD 0)
  else c.consensusHeight heights >>= c.withExternalFloor clock

end Arithmetic

/-- `AddObservation` at `now`, with the clock as `calculatePerceivedLocked` reads it again. What
it returns is the new `cachedPerceived`. -/
def addObservation (order : NewestFirst) (c : BlockHeightConsensus) (endpointAddr : EndpointAddr)
    (blockHeight : ℕ) (now clock : Time) : BlockHeightConsensus :=
  let obs : BlockObservation := ⟨blockHeight, now, endpointAddr⟩
  let c := { c with observations := pruneObservationsLocked order (c.observations ++ [obs]) now }
  { c with cachedPerceived := c.calculatePerceivedLocked (m := Id) clock }

section Heights

variable {observations : List BlockObservation} {heights : List ℕ} {a h : ℕ}

theorem sorted_extractHeightsLocked : (extractHeightsLocked observations).Pairwise (· ≤ ·) :=
  sortedLE_insertionSort.pairwise

theorem length_extractHeightsLocked :
    (extractHeightsLocked observations).length = observations.length := by
  rw [extractHeightsLocked, length_insertionSort, length_map]

theorem mem_extractHeightsLocked :
    h ∈ extractHeightsLocked observations ↔ ∃ obs ∈ observations, obs.blockHeight = h := by
  rw [extractHeightsLocked, mem_insertionSort, mem_map]

theorem countP_extractHeightsLocked (p : ℕ → Bool) :
    (extractHeightsLocked observations).countP p =
      observations.countP (fun obs => p obs.blockHeight) := by
  rw [extractHeightsLocked, (perm_insertionSort _ _).countP_eq, countP_map]
  rfl

theorem maxValid_concat :
    maxValid a (heights ++ [h]) = if h ≤ a then max (maxValid a heights) h
      else maxValid a heights := by
  rw [maxValid, foldl_append, foldl_cons, foldl_nil, max_def_lt]
  rfl

theorem le_maxValid (hmem : h ∈ heights) (hle : h ≤ a) : h ≤ maxValid a heights := by
  induction heights using reverseRecOn with
  | nil => cases hmem
  | append_singleton heights x ih =>
    rw [maxValid_concat]
    rcases mem_append.mp hmem with hmem | hmem
    · split
      · exact (ih hmem).trans (le_max_left _ _)
      · exact ih hmem
    · rw [← mem_singleton.mp hmem, if_pos hle]
      exact le_max_right _ _

theorem maxValid_mem (hpos : 0 < maxValid a heights) :
    maxValid a heights ∈ heights ∧ maxValid a heights ≤ a := by
  induction heights using reverseRecOn with
  | nil => exact absurd hpos (lt_irrefl 0)
  | append_singleton heights x ih =>
    rw [maxValid_concat] at hpos ⊢
    split_ifs at hpos ⊢ with hx
    · rcases le_total (maxValid a heights) x with hle | hle
      · rw [max_eq_right hle]
        exact ⟨by simp, hx⟩
      · rw [max_eq_left hle] at hpos ⊢
        exact ⟨mem_append_left _ (ih hpos).1, (ih hpos).2⟩
    · exact ⟨mem_append_left _ (ih hpos).1, (ih hpos).2⟩

end Heights

section Consensus

open OrderStatistics

variable {c : BlockHeightConsensus} {observations : List BlockObservation} {heights : List ℕ}
  {clock : Time} {L H p : ℕ}

def perceivedOf (syncAllowance : ℕ) (heights : List ℕ) : ℕ :=
  let reach := median heights + syncAllowance * defaultMaxDeviationMultiplier
  if maxValid reach heights = 0 then median heights else maxValid reach heights

theorem checked_calculateMedian (hl : 0 < heights.length) (hlt : ∀ h ∈ heights, h < 2 ^ 63) :
    calculateMedian heights = some (median heights) := by
  have hget := getD_lt (Nat.two_pow_pos 63) hlt
  rw [calculateMedian, if_neg (by omega), median]
  split
  · rename_i heven
    have hsum := checked_add (a := heights.getD (heights.length / 2 - 1) 0)
      (b := heights.getD (heights.length / 2) 0) (by
        have := hget (heights.length / 2 - 1)
        have := hget (heights.length / 2)
        omega)
    rw [hsum, show heights.length / 2 - 1 = (heights.length - 1) / 2 by omega]
    rfl
  · rename_i hodd
    rw [show (heights.length - 1) / 2 = heights.length / 2 by omega]
    congr 1
    omega

theorem checked_consensusHeight (hl : 0 < heights.length) (hlt : ∀ h ∈ heights, h < 2 ^ 63)
    (hreach : median heights + c.syncAllowance * defaultMaxDeviationMultiplier < 2 ^ 64) :
    c.consensusHeight heights = some (perceivedOf c.syncAllowance heights) := by
  rw [consensusHeight, checked_calculateMedian hl hlt, Option.bind_eq_bind, Option.bind_some,
    checked_mul (by omega), Option.bind_some, checked_add hreach]
  rfl

theorem perceivedOf_le (syncAllowance : ℕ) (heights : List ℕ) :
    perceivedOf syncAllowance heights ≤
      median heights + syncAllowance * defaultMaxDeviationMultiplier := by
  rw [perceivedOf]
  split_ifs with hpos
  · exact le_add_right _ _
  · exact (maxValid_mem (pos_of_ne_zero hpos)).2

theorem lowerMiddle_mem (hl : 0 < heights.length) :
    heights.getD ((heights.length - 1) / 2) 0 ∈ heights := by
  rw [getD_eq_getElem _ _ (by omega)]
  exact getElem_mem _

theorem lowerMiddle_le_perceivedOf (syncAllowance : ℕ) (hs : heights.Pairwise (· ≤ ·))
    (hl : 0 < heights.length) :
    heights.getD ((heights.length - 1) / 2) 0 ≤ perceivedOf syncAllowance heights := by
  have hle := lowerMiddle_le_upperMiddle hs hl
  have hmedian : heights.getD ((heights.length - 1) / 2) 0 ≤ median heights := by
    rw [median]
    omega
  rw [perceivedOf]
  split
  · exact hmedian
  · exact le_maxValid (lowerMiddle_mem hl) (hmedian.trans (le_add_right _ _))

theorem checked_withExternalFloor (clock : Time) (hp : 0 < p) :
    ∃ q, c.withExternalFloor clock p = some q ∧ p ≤ q ∧ q ≤ p + maxBlockHeightJump := by
  rw [withExternalFloor]
  split
  · rename_i hext
    obtain ⟨-, hlt⟩ := hext
    rw [isPlausibleBlockHeight]
    split
    · exact ⟨p, rfl, le_rfl, le_add_right _ _⟩
    · rename_i hplain
      have hsum : p + maxBlockHeightJump < 2 ^ 64 := by
        rw [maxPlausibleBlockHeight] at hplain
        rw [maxBlockHeightJump]
        omega
      rw [checked_add hsum]
      by_cases hjump : p + maxBlockHeightJump < c.externalBlockHeight
      · refine ⟨p, ?_, le_rfl, le_add_right _ _⟩
        simp [hjump]
      · by_cases hgrace : c.createdAt + c.externalBlockGracePeriod ≤ clock
        · refine ⟨c.externalBlockHeight, ?_, hlt.le, not_lt.mp hjump⟩
          simp [hjump, hgrace]
        · refine ⟨p, ?_, le_rfl, le_add_right _ _⟩
          simp [hgrace]
  · exact ⟨p, rfl, le_rfl, le_add_right _ _⟩

theorem agrees_calculatePerceivedLocked :
    Agrees (c.calculatePerceivedLocked clock) (c.calculatePerceivedLocked clock) := by
  refine .ite (.pure _) (.ite (.pure _) (.bind (.bind ?_ ?_) ?_))
  · exact .ite (.pure _) (.ite (.bind (.add _ _) fun _ => .pure _) (.pure _))
  · exact fun _ => .bind (.mul _ _) fun _ => .bind (.add _ _) fun _ => .pure _
  · refine fun _ => .ite (.bind ?_ fun _ => .pure _) (.pure _)
    exact .ite (.pure _) (.ite (.bind (.add _ _) fun _ => .pure _) (.pure _))

theorem checked_calculatePerceivedLocked (clock : Time)
    (hlen : 3 ≤ c.observations.length) (hlt : ∀ obs ∈ c.observations, obs.blockHeight < 2 ^ 63)
    (hreach : median (extractHeightsLocked c.observations) +
      c.syncAllowance * defaultMaxDeviationMultiplier < 2 ^ 64) :
    c.calculatePerceivedLocked clock = (c.withExternalFloor clock
      (perceivedOf c.syncAllowance (extractHeightsLocked c.observations)) : Option ℕ) := by
  have hlength : (extractHeightsLocked c.observations).length = c.observations.length :=
    length_extractHeightsLocked
  have hheights : ∀ h ∈ extractHeightsLocked c.observations, h < 2 ^ 63 := by
    intro h hmem
    obtain ⟨obs, hobs, rfl⟩ := mem_extractHeightsLocked.mp hmem
    exact hlt obs hobs
  rw [calculatePerceivedLocked, if_neg (by omega), hlength,
    if_neg (by rw [defaultMinObservationsForMedian]; omega),
    checked_consensusHeight (by omega) hheights hreach]
  rfl

theorem calculatePerceivedLocked_of_few {m : Type → Type} [Monad m] [Arith m]
    (clock : Time) (hpos : 0 < c.observations.length) (hfew : c.observations.length < 3) :
    ∃ obs ∈ c.observations, c.calculatePerceivedLocked clock = (pure obs.blockHeight : m ℕ) := by
  have hlength : (extractHeightsLocked c.observations).length = c.observations.length :=
    length_extractHeightsLocked
  have hlast : (extractHeightsLocked c.observations).getLastD 0 ∈
      extractHeightsLocked c.observations := by
    obtain ⟨x, xs, hx⟩ := exists_cons_of_length_pos (hlength ▸ hpos)
    rw [hx, getLastD_cons]
    exact getLastD_mem_cons
  obtain ⟨obs, hobs, heq⟩ := mem_extractHeightsLocked.mp hlast
  refine ⟨obs, hobs, ?_⟩
  rw [heq, calculatePerceivedLocked, if_neg hpos.ne', hlength]
  exact if_pos hfew

/-- Where most of at least three reports lie in `[L, H]`, so does the perceived height, up to
the deviation that is allowed above the median. At least half of the reports are no higher,
nothing overflows on the way, and an external height raises it by at most one jump. -/
theorem perceived_of_honest_majority {order : NewestFirst} {c' : BlockHeightConsensus}
    {endpointAddr : EndpointAddr} {blockHeight : ℕ} {now : Time}
    (hadd : c.addObservation order endpointAddr blockHeight now clock = c')
    (hlen : 3 ≤ c'.observations.length)
    (hheights : ∀ obs ∈ c'.observations, 0 < obs.blockHeight ∧ obs.blockHeight < 2 ^ 63)
    (hmaj : c'.observations.length < 2 * c'.observations.countP
      (fun obs => decide (L ≤ obs.blockHeight) && decide (obs.blockHeight ≤ H)))
    (hH : H < 2 ^ 62) (hallow : 3 * c.syncAllowance < 2 ^ 62) :
    ∃ p, ({ c with externalBlockHeight := 0 }.addObservation order endpointAddr blockHeight
        now clock).cachedPerceived = p ∧
      L ≤ p ∧ p ≤ H + 3 * c.syncAllowance ∧
      c'.observations.length ≤
        2 * c'.observations.countP (fun obs => decide (obs.blockHeight ≤ p)) ∧
      c'.calculatePerceivedLocked clock = some c'.cachedPerceived ∧
      p ≤ c'.cachedPerceived ∧ c'.cachedPerceived ≤ p + maxBlockHeightJump := by
  have hallow' : c'.syncAllowance = c.syncAllowance := by
    rw [← hadd]
    rfl
  have hlt : ∀ obs ∈ c'.observations, obs.blockHeight < 2 ^ 63 := fun obs h => (hheights obs h).2
  have hs : (extractHeightsLocked c'.observations).Pairwise (· ≤ ·) := sorted_extractHeightsLocked
  have hlength : (extractHeightsLocked c'.observations).length = c'.observations.length :=
    length_extractHeightsLocked
  have hl : 0 < (extractHeightsLocked c'.observations).length := by omega
  -- both middle reports are honest, so the median is at most `H`
  have hmid := middle_mem_of_majority (L := L) (H := H) hs (by
    rw [countP_extractHeightsLocked, hlength]
    exact hmaj)
  have hle := lowerMiddle_le_upperMiddle hs hl
  have hmedian : median (extractHeightsLocked c'.observations) ≤ H := by
    rw [median]
    omega
  have hreach : median (extractHeightsLocked c'.observations) +
      c'.syncAllowance * defaultMaxDeviationMultiplier < 2 ^ 64 := by
    rw [defaultMaxDeviationMultiplier]
    omega
  have hlow := lowerMiddle_le_perceivedOf c'.syncAllowance hs hl
  have hpos : 0 < (extractHeightsLocked c'.observations).getD
      (((extractHeightsLocked c'.observations).length - 1) / 2) 0 := by
    obtain ⟨obs, hobs, heq⟩ := mem_extractHeightsLocked.mp (lowerMiddle_mem hl)
    exact heq ▸ (hheights obs hobs).1
  refine ⟨perceivedOf c'.syncAllowance (extractHeightsLocked c'.observations), ?_,
    hmid.1.trans hlow, ?_, ?_, ?_⟩
  · have hchecked := checked_calculatePerceivedLocked (c := { c' with externalBlockHeight := 0 })
      clock hlen hlt hreach
    subst hadd
    exact agrees_calculatePerceivedLocked _ hchecked
  · have := perceivedOf_le c'.syncAllowance (extractHeightsLocked c'.observations)
    rw [defaultMaxDeviationMultiplier] at this
    omega
  · have := (lowerMiddle_le_iff hs hl).mp hlow
    rwa [countP_extractHeightsLocked, hlength] at this
  · obtain ⟨q, hq, hpq, hqp⟩ := checked_withExternalFloor (c := c') clock (hpos.trans_le hlow)
    rw [← checked_calculatePerceivedLocked clock hlen hlt hreach] at hq
    have hcached : c'.cachedPerceived = q := by
      subst hadd
      exact agrees_calculatePerceivedLocked _ hq
    rw [hcached]
    exact ⟨hq, hpq, hqp⟩

theorem perceived_of_honest_majority_outlier :
    let c : BlockHeightConsensus := ⟨[⟨100, 1, "a"⟩, ⟨101, 2, "b"⟩], 5, 101, 200, 0, 0⟩
    let c' := c.addObservation .stable "c" 1000000 3 3
    ∃ p, ({ c with externalBlockHeight := 0 }.addObservation .stable "c" 1000000
        3 3).cachedPerceived = p ∧ 100 ≤ p ∧ p ≤ 101 + 3 * c.syncAllowance ∧
      c'.observations.length ≤
        2 * c'.observations.countP (fun obs => decide (obs.blockHeight ≤ p)) ∧
      c'.calculatePerceivedLocked 3 = some c'.cachedPerceived ∧
      p ≤ c'.cachedPerceived ∧ c'.cachedPerceived ≤ p + maxBlockHeightJump :=
  perceived_of_honest_majority rfl (by decide) (by decide) (by decide) (by decide) (by decide)

end Consensus

end BlockHeightConsensus

end PathGateway
