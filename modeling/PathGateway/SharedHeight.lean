import PathGateway.BlockConsensus
import PathGateway.Machine

/-! The perceived height as the pass-through, Cosmos and Solana services keep it. Reports only
raise it. A raise is written to the copy that the replicas share, and a background sync takes
over a higher copy. Reading the copy and applying it are two steps, and so are the two halves
of a reset: anything may happen between them. -/

namespace PathGateway

open Option

structure SyncConfig where
  reputationSvc : Bool
  startedAt : Time
  gracePeriod : ℤ

def SyncConfig.sharing : SyncConfig := ⟨true, 0, 0⟩

def SyncConfig.effectiveGrace (cfg : SyncConfig) : ℕ :=
  if 0 < cfg.gracePeriod then cfg.gracePeriod.toNat else 60 * Duration.second

/-- The height of extracted data, which is 0 if it was invalid. -/
def extractedHeight (blockHeight : ℤ) (invalidBlockHeight : Bool) : Option ℕ :=
  if 0 < blockHeight then some blockHeight.toNat
  else if invalidBlockHeight then some 0
  else none

theorem extractedHeight_of_pos {h : ℕ} {invalid : Bool} (hpos : 0 < h) :
    extractedHeight h invalid = some h := by
  simp [extractedHeight, hpos]

def isPlausible (candidate current : ℕ) : Bool := Id.run (isPlausibleBlockHeight candidate current)

theorem isPlausible_iff {candidate current : ℕ} (hlt : current < candidate) :
    isPlausible candidate current = true ↔ candidate ≤ maxPlausibleBlockHeight ∧
    (0 < current → candidate ≤ current + maxBlockHeightJump) := by
  rw [isPlausible, isPlausibleBlockHeight]
  split
  · rename_i hmax
    constructor
    · intro h
      cases h
    · exact fun h => absurd h.1 (Nat.not_le.mpr hmax)
  · rename_i hmax
    have hle : candidate ≤ maxPlausibleBlockHeight := Nat.not_lt.mp hmax
    have hsum : (current + maxBlockHeightJump) % 2 ^ 64 = current + maxBlockHeightJump := by
      rw [maxPlausibleBlockHeight] at hle
      rw [maxBlockHeightJump]
      omega
    split
    · rename_i hpos
      change (!decide ((current + maxBlockHeightJump) % 2 ^ 64 < candidate)) = true ↔ _
      rw [hsum]
      simp [hle, hpos]
    · rename_i hzero
      exact ⟨fun _ => ⟨hle, fun hpos => absurd hpos hzero⟩, fun _ => rfl⟩

/-- A replica's perceived height, and what is on its way between it and the shared copy. -/
structure SharedHeight where
  perceived : ℕ := 0
  redisWrites : List ℕ := []
  fetched : Option ℕ := none
  deleting : Bool := false
  deriving DecidableEq, Repr

/-- What happens to the height apart from reports of endpoints. -/
inductive ShareAction where
  | external (height : ℤ)
  | writeRedis (i : ℕ) (ok : Bool)
  | fetch (ok : Bool)
  | sync
  | reset
  | deleteShared (ok : Bool)
  | redisExpire
  deriving DecidableEq, Repr

def ShareAction.reports : ShareAction → ℕ
  | .external height => height.toNat
  | _ => 0

namespace SharedHeight

variable (cfg : SyncConfig) (s : SharedHeight)

variable (h redis : ℕ) (ok : Bool)

def raise : SharedHeight :=
  { s with
    perceived := h
    redisWrites := if cfg.reputationSvc then s.redisWrites ++ [h] else s.redisWrites }

def report : SharedHeight := if s.perceived < h then s.raise cfg h else s

def reportChecked : SharedHeight :=
  if s.perceived < h ∧ isPlausible h s.perceived = false then s
  else if s.perceived < h then s.raise cfg h
  else s

def consumeExternalBlockHeight (height : ℤ) (now : Time) : SharedHeight :=
  if height ≤ 0 then s
  else if now < cfg.startedAt + cfg.effectiveGrace then s
  else if s.perceived = 0 then s
  else s.reportChecked cfg height.toNat

def writeRedis (i : ℕ) (ok : Bool) : Option (SharedHeight × ℕ) :=
  s.redisWrites[i]?.map (fun h =>
    ({ s with redisWrites := s.redisWrites.eraseIdx i }, if ok then max redis h else redis))

def fetch : Option SharedHeight :=
  if cfg.reputationSvc = true ∧ s.fetched = none then
    some { s with fetched := some (if ok then redis else 0) }
  else none

def sync : Option SharedHeight :=
  s.fetched.map (fun redisBlockHeight =>
    { s with perceived := max s.perceived redisBlockHeight, fetched := none })

/-- The first half of a reset, under the lock. -/
def resetPerceivedBlockHeight : SharedHeight :=
  { s with perceived := 0, deleting := cfg.reputationSvc }

def deletePerceivedBlockNumber : Option (SharedHeight × ℕ) :=
  if s.deleting then some ({ s with deleting := false }, if ok then 0 else redis) else none

def act (now : Time) : ShareAction → Option (SharedHeight × ℕ)
  | .external height => some (s.consumeExternalBlockHeight cfg height now, redis)
  | .writeRedis i ok => s.writeRedis redis i ok
  | .fetch ok => (s.fetch cfg redis ok).map (·, redis)
  | .sync => s.sync.map (·, redis)
  | .reset =>
    -- one reset at a time
    if s.deleting then none else some (s.resetPerceivedBlockHeight cfg, redis)
  | .deleteShared ok => s.deletePerceivedBlockNumber redis ok
  | .redisExpire => some (s, 0)

variable {cfg s} {s' : SharedHeight} {redis redis' h : ℕ} {now : Time} {ok : Bool}

theorem perceived_report : (s.report cfg h).perceived = max s.perceived h := by
  rw [report]
  split
  · rw [raise, max_eq_right_of_lt ‹_›]
  · rw [max_eq_left (Nat.not_lt.mp ‹_›)]

theorem reportChecked_eq :
    s.reportChecked cfg h = if s.perceived < h ∧ isPlausible h s.perceived = true then s.raise cfg h
      else s := by
  rw [reportChecked]
  by_cases hlt : s.perceived < h
  · cases hp : isPlausible h s.perceived <;> simp [hlt]
  · simp [hlt]

theorem consumeExternalBlockHeight_cases (cfg : SyncConfig) (s : SharedHeight) (height : ℤ)
    (now : Time) : s.consumeExternalBlockHeight cfg height now = s ∨ 0 < s.perceived ∧ 0 < height ∧
    s.consumeExternalBlockHeight cfg height now = s.reportChecked cfg height.toNat := by
  rw [consumeExternalBlockHeight]
  split
  · exact .inl rfl
  · rename_i hpos
    split
    · exact .inl rfl
    · split_ifs with hzero
      · exact .inl rfl
      · exact .inr ⟨Nat.pos_of_ne_zero hzero, by omega, rfl⟩

theorem writeRedis_eq_some {i : ℕ} (hact : s.writeRedis redis i ok = some (s', redis')) :
    ∃ h, s.redisWrites[i]? = some h ∧ s' = { s with redisWrites := s.redisWrites.eraseIdx i } ∧
    redis' = if ok then max redis h else redis := by
  obtain ⟨h, hi, heq⟩ := map_eq_some_iff.mp hact
  cases heq
  exact ⟨h, hi, rfl, rfl⟩

theorem fetch_eq_some (hact : s.fetch cfg redis ok = some s') : cfg.reputationSvc = true ∧
    s.fetched = none ∧ s' = { s with fetched := some (if ok then redis else 0) } := by
  rw [fetch, ite_none_right_eq_some] at hact
  obtain ⟨⟨hsvc, hnone⟩, heq⟩ := hact
  exact ⟨hsvc, hnone, (some.inj heq).symm⟩

theorem sync_eq_some (hact : s.sync = some s') :
    ∃ v, s.fetched = some v ∧ s' = { s with perceived := max s.perceived v, fetched := none } := by
  obtain ⟨v, hv, rfl⟩ := map_eq_some_iff.mp hact
  exact ⟨v, hv, rfl⟩

theorem deletePerceivedBlockNumber_eq_some
    (hact : s.deletePerceivedBlockNumber redis ok = some (s', redis')) :
    s.deleting = true ∧ s' = { s with deleting := false } ∧ redis' = if ok then 0 else redis := by
  rw [deletePerceivedBlockNumber, ite_none_right_eq_some] at hact
  obtain ⟨hdel, heq⟩ := hact
  cases heq
  exact ⟨hdel, rfl, rfl⟩

end SharedHeight

end PathGateway
