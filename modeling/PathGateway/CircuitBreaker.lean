import Mathlib.Data.Rat.Defs
import Mathlib.Algebra.Order.Field.Rat
import PathGateway.BlockConsensus
import PathGateway.GoBytes
import PathGateway.Machine

/-! The domain circuit breaker: pods that take failing domains out of the pool, each with a local
cache and a failure-rate gate, and, where there is a Redis, with a hash that they share. A call is
cut where it takes or leaves a lock, reads the clock or sends a command; the pods and their calls
interleave freely between these steps. Times are in nanoseconds. -/

namespace PathGateway

open Duration GoMap Option

def wrapInt (v : ℤ) : ℤ := v.bmod (2 ^ 64)

def unix (t : Time) : ℤ := (t / second : ℕ)

structure BreakerConfig where
  defaultTTL : ℕ
  maxTTL : ℕ
  cacheTTL : ℕ
  failureWindow : ℕ
  minFailures : ℕ
  failureRateThreshold : ℚ
  rebreakMargin : ℚ
  escalationMemory : ℕ
  margin_nonneg : 0 ≤ rebreakMargin

def newDomainCircuitBreaker : BreakerConfig where
  defaultTTL := minute
  maxTTL := 30 * minute
  cacheTTL := 5 * second
  failureWindow := 30 * second
  minFailures := 5
  failureRateThreshold := 1 / 5
  rebreakMargin := 3 / 20
  escalationMemory := 60 * minute
  margin_nonneg := by decide +kernel

structure DomainOutcomeWindow where
  windowStart : Time
  failures : ℕ
  successes : ℕ
  lastEpisodeAt : Option Time
  lastHitCount : ℤ
  deriving DecidableEq

structure BrokenDomainState where
  expiry : Time
  hitCount : ℤ
  reason : Bytes
  deriving DecidableEq

structure CircuitCacheEntry where
  domains : GoMap String BrokenDomainState
  refreshAt : Time

structure DomainCircuitBreaker where
  cache : GoMap String CircuitCacheEntry
  stats : GoMap String (GoMap String DomainOutcomeWindow)

namespace DomainCircuitBreaker

variable (cfg : BreakerConfig) (cb : DomainCircuitBreaker) (serviceID domain : String) (now : Time)

def windowOf : Option DomainOutcomeWindow := (cb.stats.lookup serviceID).bind (·.lookup domain)

def stateOf : Option BrokenDomainState :=
  (cb.cache.lookup serviceID).bind (·.domains.lookup domain)

def windowLocked : DomainOutcomeWindow :=
  match cb.windowOf serviceID domain with
  | none => ⟨now, 0, 0, none, 0⟩
  | some w =>
    if w.windowStart + cfg.failureWindow < now then
      { w with windowStart := now, failures := 0, successes := 0 }
    else w

variable (w : DomainOutcomeWindow) (domains : GoMap String BrokenDomainState)

def storeWindow : DomainCircuitBreaker :=
  { cb with stats :=
      cb.stats.insert serviceID (((cb.stats.lookup serviceID).getD ∅).insert domain w) }

def recordSuccess : DomainCircuitBreaker :=
  let w := cb.windowLocked cfg serviceID domain now
  cb.storeWindow serviceID domain { w with successes := w.successes + 1 }

def recentlyBroken : Bool := w.lastEpisodeAt.any fun t => now ≤ t + cfg.escalationMemory

def threshold : ℚ :=
  cfg.failureRateThreshold + if recentlyBroken cfg now w then cfg.rebreakMargin else 0

def nextHitCount : ℤ := if recentlyBroken cfg now w then wrapInt (w.lastHitCount + 1) else 1

def shouldBreak : DomainCircuitBreaker × Option ℤ :=
  let w := cb.windowLocked cfg serviceID domain now
  let failures := w.failures + 1
  let total := failures + w.successes
  if failures < cfg.minFailures ∨ total = 0 ∨ (failures : ℚ) / total < threshold cfg now w then
    (cb.storeWindow serviceID domain { w with failures := failures }, none)
  else
    (cb.storeWindow serviceID domain ⟨now, 0, 0, some now, nextHitCount cfg now w⟩,
      some (nextHitCount cfg now w))

def escalatedTTL (hitCount : ℤ) : ℕ :=
  if hitCount ≤ 1 then cfg.defaultTTL
  else min (cfg.defaultTTL * 2 ^ min (hitCount - 1).toNat 5) cfg.maxTTL

def alreadyBroken : Bool := (cb.stateOf serviceID domain).any fun state => now < state.expiry

def storeState (state : BrokenDomainState) : DomainCircuitBreaker :=
  let entry := (cb.cache.lookup serviceID).getD ⟨∅, now + cfg.cacheTTL⟩
  { cb with cache :=
      cb.cache.insert serviceID { entry with domains := entry.domains.insert domain state } }

def unexpired : GoMap String BrokenDomainState := domains.retain fun _ state => now < state.expiry

def filterExpiredDomains : List String := (unexpired now domains).keys

def storeEntry : DomainCircuitBreaker :=
  { cb with cache := cb.cache.insert serviceID ⟨domains, now + cfg.cacheTTL⟩ }

def refreshLocal : DomainCircuitBreaker × List String :=
  match cb.cache.lookup serviceID with
  | none => (cb, [])
  | some entry =>
    (cb.storeEntry cfg serviceID now (unexpired now entry.domains),
      filterExpiredDomains now entry.domains)

def merged : GoMap String BrokenDomainState :=
  match cb.cache.lookup serviceID with
  | none => domains
  | some entry =>
    copyInto domains ((unexpired now entry.domains).retain fun domain state =>
      (domains.lookup domain).all fun redisState => redisState.expiry < state.expiry)

def clearCache : DomainCircuitBreaker := { cb with cache := cb.cache.erase serviceID }

def clearStats : DomainCircuitBreaker := { cb with stats := cb.stats.erase serviceID }

variable {cfg cb serviceID domain now} {service' domain' : String}

@[simp] theorem windowOf_storeWindow {w : DomainOutcomeWindow} :
    (cb.storeWindow serviceID domain w).windowOf service' domain' =
      if service' = serviceID ∧ domain' = domain then some w else cb.windowOf service' domain' := by
  rw [windowOf, storeWindow, lookup_insert_eq]
  by_cases hs : service' = serviceID
  · subst hs
    simp only [if_true, true_and, bind_some, lookup_insert_eq, windowOf]
    cases cb.stats.lookup service' <;> rfl
  · simp only [hs, if_false, false_and, windowOf]

variable {state : BrokenDomainState}

@[simp] theorem stateOf_storeState :
    (cb.storeState cfg serviceID domain now state).stateOf service' domain' =
      if service' = serviceID ∧ domain' = domain then some state
      else cb.stateOf service' domain' := by
  rw [stateOf, storeState, lookup_insert_eq]
  by_cases hs : service' = serviceID
  · subst hs
    simp only [if_true, true_and, bind_some, lookup_insert_eq, stateOf]
    cases cb.cache.lookup service' <;> rfl
  · simp only [hs, if_false, false_and, stateOf]

variable {domains : GoMap String BrokenDomainState}

theorem stateOf_storeEntry :
    (cb.storeEntry cfg serviceID now domains).stateOf service' domain' =
      if service' = serviceID then domains.lookup domain' else cb.stateOf service' domain' := by
  rw [stateOf, storeEntry, lookup_insert_eq]
  split <;> rfl

theorem lookup_unexpired : (unexpired now domains).lookup domain = some state ↔
    domains.lookup domain = some state ∧ now < state.expiry := by
  rw [unexpired, lookup_retain_eq_some, decide_eq_true_iff]

theorem mem_keys : domain ∈ domains.keys ↔ ∃ state, domains.lookup domain = some state := by
  rw [← isSome_iff_exists, AList.lookup_isSome]
  rfl

theorem mem_filterExpiredDomains : domain ∈ filterExpiredDomains now domains ↔
    ∃ state, domains.lookup domain = some state ∧ now < state.expiry := by
  simp only [filterExpiredDomains, mem_keys, lookup_unexpired]

theorem stateOf_refreshLocal
    (h : (cb.refreshLocal cfg serviceID now).1.stateOf service' domain' = some state) :
    cb.stateOf service' domain' = some state := by
  rw [refreshLocal] at h
  split at h
  · exact h
  · rename_i entry hentry
    rw [stateOf_storeEntry] at h
    split_ifs at h with hs
    · rw [stateOf, hs, hentry]
      exact (lookup_unexpired.mp h).1
    · exact h

@[simp] theorem stats_refreshLocal : (cb.refreshLocal cfg serviceID now).1.stats = cb.stats := by
  rw [refreshLocal]
  split <;> rfl

theorem stateOf_of_mem_refreshLocal (h : domain ∈ (cb.refreshLocal cfg serviceID now).2) :
    ∃ state, cb.stateOf serviceID domain = some state ∧ now < state.expiry := by
  rw [refreshLocal] at h
  split at h
  · cases h
  · rename_i entry hentry
    rw [stateOf, hentry]
    exact mem_filterExpiredDomains.mp h

theorem lookup_merged (h : (cb.merged serviceID now domains).lookup domain = some state) :
    domains.lookup domain = some state ∨ cb.stateOf serviceID domain = some state ∧
    now < state.expiry := by
  rw [merged] at h
  split at h
  · exact .inl h
  · rename_i entry hentry
    rw [lookup_copyInto, or_eq_some_iff] at h
    rcases h with hlocal | ⟨-, hredis⟩
    · obtain ⟨hkept, -⟩ := lookup_retain_eq_some.mp hlocal
      rw [stateOf, hentry]
      exact .inr (lookup_unexpired.mp hkept)
    · exact .inl hredis

theorem stateOf_clearCache :
    (cb.clearCache serviceID).stateOf service' domain' = if service' = serviceID then none
      else cb.stateOf service' domain' := by
  rw [stateOf, clearCache, lookup_erase_eq]
  split <;> rfl

theorem windowOf_clearStats :
    (cb.clearStats serviceID).windowOf service' domain' = if service' = serviceID then none
      else cb.windowOf service' domain' := by
  rw [windowOf, clearStats, lookup_erase_eq]
  split <;> rfl

end DomainCircuitBreaker

section Redis

def colon : UInt8 := 58

def parseRedisValue (val : Bytes) : Option (ℤ × ℤ × Bytes) :=
  match GoBytes.cut colon val with
  | none => (GoBytes.parseInt val).map fun expiry => (expiry, 1, [])
  | some (first, rest) =>
    let (second, reason) := (GoBytes.cut colon rest).getD (rest, [])
    match GoBytes.parseInt first, GoBytes.parseInt second with
    | some expiry, some hits => some (expiry, hits, reason)
    | _, _ => none

def redisValue (state : BrokenDomainState) : Bytes :=
  GoBytes.formatInt (unix state.expiry) ++ colon :: (GoBytes.formatInt state.hitCount ++
    colon :: state.reason.take 500)

abbrev RedisStore := GoMap String (GoMap String Bytes)

def redisKey (serviceID : String) : String := "path:gw:circuit:" ++ serviceID

namespace RedisStore

variable (store : RedisStore) (key : String)

def hGetAll : GoMap String Bytes := (store.lookup key).getD ∅

def hSet (field : String) (val : Bytes) : RedisStore :=
  store.insert key ((store.hGetAll key).insert field val)

def hDel (fields : List String) : RedisStore :=
  store.insert key ((store.hGetAll key).retain fun field _ => field ∉ fields)

def del : RedisStore := store.erase key

end RedisStore

variable (now : Time) (vals : GoMap String Bytes)

/-- The state that a value stands for, unless it is no value or has expired. -/
def readState (val : Bytes) : Option BrokenDomainState :=
  match parseRedisValue val with
  | none => none
  | some (expiryUnix, hitCount, reason) =>
    if unix now < expiryUnix then some ⟨expiryUnix.toNat * second, hitCount, reason⟩ else none

def readDomains : GoMap String BrokenDomainState :=
  build (fun domain => (vals.lookup domain).bind (readState now)) vals.keys

def expiredFields : List String :=
  vals.keys.filter fun domain => ((vals.lookup domain).bind (readState now)).isNone

end Redis

inductive MarkPhase where
  | called
  | checked
  | decided (hitCount : ℤ)
  | written (state : BrokenDomainState)
  | returned
  deriving DecidableEq

structure MarkCall where
  serviceID : String
  domain : String
  reason : Bytes
  now : Time
  phase : MarkPhase
  deriving DecidableEq

inductive GetPhase where
  | stale
  | failed
  | fetched (vals : GoMap String Bytes)
  | deleting (now : Time) (domains : GoMap String BrokenDomainState) (fields : List String)
  | merging (now : Time) (domains : GoMap String BrokenDomainState)
  | returned

structure GetCall where
  serviceID : String
  phase : GetPhase

inductive ClearPhase where
  | cleared
  | forgotten
  | returned
  deriving DecidableEq

structure ClearCall where
  serviceID : String
  count : ℕ
  phase : ClearPhase

inductive StatsRecord where
  | succeeded (serviceID domain : String) (now : Time)
  | failed (serviceID domain : String) (now : Time) (hitCount : Option ℤ)
  | cleared (serviceID : String)
  deriving DecidableEq

structure Pod where
  breaker : DomainCircuitBreaker
  marks : List MarkCall
  gets : List GetCall
  clears : List ClearCall
  log : List StatsRecord

inductive PodEvent where
  | recordSuccess (serviceID domain : String)
  | markBroken (serviceID domain : String) (reason : Bytes)
  | check (call : ℕ)
  | gate (call : ℕ)
  | write (call : ℕ)
  | hSet (call : ℕ) (ok : Bool)
  | getBrokenDomains (serviceID : String) (elapsed : ℕ)
  | refreshLocal (call : ℕ)
  | hGetAll (call : ℕ) (ok : Bool)
  | judge (call : ℕ)
  | hDel (call : ℕ) (ok : Bool)
  | merge (call : ℕ)
  | clearService (serviceID : String)
  | clearStats (call : ℕ)
  | del (call : ℕ) (ok : Bool)

def PodEvent.elapsed : PodEvent → ℕ
  | .getBrokenDomains _ elapsed => elapsed
  | _ => 0

structure PodMove where
  pod : Pod
  redis : Option RedisStore
  report : Option (String × List String)

namespace Pod

def start : Pod := ⟨⟨∅, ∅⟩, [], [], [], []⟩

def setMark (p : Pod) (i : ℕ) (call : MarkCall) (phase : MarkPhase) : Pod :=
  { p with marks := p.marks.set i { call with phase := phase } }

def setGet (p : Pod) (i : ℕ) (call : GetCall) (phase : GetPhase) : Pod :=
  { p with gets := p.gets.set i { call with phase := phase } }

def setClear (p : Pod) (i : ℕ) (call : ClearCall) (phase : ClearPhase) : Pod :=
  { p with clears := p.clears.set i { call with phase := phase } }

section Steps

variable (cfg : BreakerConfig) (clock : Time) (redis : Option RedisStore) (p : Pod)

def recordSuccess (serviceID domain : String) : PodMove :=
  if domain = "" then ⟨p, redis, none⟩
  else ⟨{ p with
    breaker := p.breaker.recordSuccess cfg serviceID domain clock
    log := p.log ++ [.succeeded serviceID domain clock] }, redis, none⟩

variable (serviceID : String) (i : ℕ) (call : MarkCall)

def markBroken (domain : String) (reason : Bytes) : PodMove :=
  ⟨{ p with marks := p.marks ++ [⟨serviceID, domain, reason, clock, .called⟩] }, redis, none⟩

def check : Option PodMove :=
  match call.phase with
  | .called =>
    let phase := if p.breaker.alreadyBroken call.serviceID call.domain call.now then
      MarkPhase.returned else .checked
    some ⟨p.setMark i call phase, redis, none⟩
  | _ => none

def gate : Option PodMove :=
  match call.phase with
  | .checked =>
    let (breaker, hitCount) := p.breaker.shouldBreak cfg call.serviceID call.domain call.now
    some ⟨{ p.setMark i call (hitCount.elim .returned .decided) with
      breaker := breaker
      log := p.log ++ [.failed call.serviceID call.domain call.now hitCount] }, redis, none⟩
  | _ => none

def brokenState (hitCount : ℤ) : BrokenDomainState :=
  ⟨call.now + DomainCircuitBreaker.escalatedTTL cfg hitCount, hitCount, call.reason⟩

def write : Option PodMove :=
  match call.phase with
  | .decided hitCount =>
    let state := brokenState cfg call hitCount
    let phase := if redis.isSome then MarkPhase.written state else .returned
    some ⟨{ p.setMark i call phase with
      breaker := p.breaker.storeState cfg call.serviceID call.domain call.now state }, redis, none⟩
  | _ => none

/-- The outcome of a command is not looked at, but it may not have taken effect. -/
def hSet (i : ℕ) (call : MarkCall) (ok : Bool) : Option PodMove :=
  match call.phase, redis with
  | .written state, some store =>
    let store := if ok then
      store.hSet (redisKey call.serviceID) call.domain (redisValue state) else store
    some ⟨p.setMark i call .returned, some store, none⟩
  | _, _ => none

def getBrokenDomains (elapsed : ℕ) : PodMove :=
  match (p.breaker.cache.lookup serviceID).filter fun entry => clock < entry.refreshAt with
  | some entry => ⟨p, redis, some (serviceID,
      DomainCircuitBreaker.filterExpiredDomains (clock + elapsed) entry.domains)⟩
  | none => ⟨{ p with gets := p.gets ++ [⟨serviceID, .stale⟩] }, redis, none⟩

def refreshLocal (i : ℕ) (call : GetCall) : Option PodMove :=
  match call.phase, redis with
  | .stale, none | .failed, _ =>
    let refreshed := p.breaker.refreshLocal cfg call.serviceID clock
    some ⟨{ p.setGet i call .returned with breaker := refreshed.1 }, redis,
      some (call.serviceID, refreshed.2)⟩
  | _, _ => none

def hGetAll (i : ℕ) (call : GetCall) (ok : Bool) : Option PodMove :=
  match call.phase, redis with
  | .stale, some store =>
    let phase := if ok then GetPhase.fetched (store.hGetAll (redisKey call.serviceID)) else .failed
    some ⟨p.setGet i call phase, redis, none⟩
  | _, _ => none

def judge (call : GetCall) : Option PodMove :=
  match call.phase with
  | .fetched vals =>
    let phase := if expiredFields clock vals = [] then
        GetPhase.merging clock (readDomains clock vals)
      else .deleting clock (readDomains clock vals) (expiredFields clock vals)
    some ⟨p.setGet i call phase, redis, none⟩
  | _ => none

def hDel (i : ℕ) (call : GetCall) (ok : Bool) : Option PodMove :=
  match call.phase, redis with
  | .deleting now domains fields, some store =>
    let store := if ok then store.hDel (redisKey call.serviceID) fields else store
    some ⟨p.setGet i call (.merging now domains), some store, none⟩
  | _, _ => none

def merge (call : GetCall) : Option PodMove :=
  match call.phase with
  | .merging now domains =>
    let domains := p.breaker.merged call.serviceID now domains
    some ⟨{ p.setGet i call .returned with
      breaker := p.breaker.storeEntry cfg call.serviceID now domains }, redis,
      some (call.serviceID, domains.keys)⟩
  | _ => none

def clearService : PodMove :=
  let count :=
    ((p.breaker.cache.lookup serviceID).map fun entry => entry.domains.keys.length).getD 0
  ⟨{ p with
    breaker := p.breaker.clearCache serviceID
    clears := p.clears ++ [⟨serviceID, count, .cleared⟩] }, redis, none⟩

def clearStats (i : ℕ) (call : ClearCall) : Option PodMove :=
  match call.phase with
  | .cleared =>
    let phase := if redis.isSome then ClearPhase.forgotten else .returned
    some ⟨{ p.setClear i call phase with
      breaker := p.breaker.clearStats call.serviceID
      log := p.log ++ [.cleared call.serviceID] }, redis, none⟩
  | _ => none

def del (i : ℕ) (call : ClearCall) (ok : Bool) : Option PodMove :=
  match call.phase, redis with
  | .forgotten, some store =>
    let store := if ok then store.del (redisKey call.serviceID) else store
    some ⟨p.setClear i call .returned, some store, none⟩
  | _, _ => none

def step : PodEvent → Option PodMove
  | .recordSuccess serviceID domain => some (p.recordSuccess cfg clock redis serviceID domain)
  | .markBroken serviceID domain reason => some (p.markBroken clock redis serviceID domain reason)
  | .check i => p.marks[i]?.bind fun call => p.check redis i call
  | .gate i => p.marks[i]?.bind fun call => p.gate cfg redis i call
  | .write i => p.marks[i]?.bind fun call => p.write cfg redis i call
  | .hSet i ok => p.marks[i]?.bind fun call => p.hSet redis i call ok
  | .getBrokenDomains serviceID elapsed => some (p.getBrokenDomains clock redis serviceID elapsed)
  | .refreshLocal i => p.gets[i]?.bind fun call => p.refreshLocal cfg clock redis i call
  | .hGetAll i ok => p.gets[i]?.bind fun call => p.hGetAll redis i call ok
  | .judge i => p.gets[i]?.bind fun call => p.judge clock redis i call
  | .hDel i ok => p.gets[i]?.bind fun call => p.hDel redis i call ok
  | .merge i => p.gets[i]?.bind fun call => p.merge cfg redis i call
  | .clearService serviceID => some (p.clearService redis serviceID)
  | .clearStats i => p.clears[i]?.bind fun call => p.clearStats redis i call
  | .del i ok => p.clears[i]?.bind fun call => p.del redis i call ok

inductive Moves : PodEvent → PodMove → Prop where
  | nameless {serviceID : String} : Moves (.recordSuccess serviceID "") ⟨p, redis, none⟩
  | success {serviceID domain : String} (hne : domain ≠ "") :
      Moves (.recordSuccess serviceID domain) ⟨{ p with
        breaker := p.breaker.recordSuccess cfg serviceID domain clock
        log := p.log ++ [.succeeded serviceID domain clock] }, redis, none⟩
  | marked {serviceID domain : String} {reason} :
      Moves (.markBroken serviceID domain reason) (p.markBroken clock redis serviceID domain reason)
  | duplicate {i : ℕ} {call} (hcall : p.marks[i]? = some call)
      (hp : call.phase = .called)
      (hbroken : p.breaker.alreadyBroken call.serviceID call.domain call.now = true) :
      Moves (.check i) ⟨p.setMark i call .returned, redis, none⟩
  | checked {i : ℕ} {call} (hcall : p.marks[i]? = some call) (hp : call.phase = .called)
      (hnot : p.breaker.alreadyBroken call.serviceID call.domain call.now = false) :
      Moves (.check i) ⟨p.setMark i call .checked, redis, none⟩
  | gated {i : ℕ} {call breaker hitCount} (hcall : p.marks[i]? = some call)
      (hp : call.phase = .checked)
      (hgate : p.breaker.shouldBreak cfg call.serviceID call.domain call.now =
        (breaker, hitCount)) :
      Moves (.gate i) ⟨{ p.setMark i call (hitCount.elim .returned .decided) with
        breaker := breaker
        log := p.log ++ [.failed call.serviceID call.domain call.now hitCount] }, redis, none⟩
  | wrote {i : ℕ} {call hitCount phase} (hcall : p.marks[i]? = some call)
      (hp : call.phase = .decided hitCount)
      (hphase : phase = .returned ∨ phase = .written (brokenState cfg call hitCount)) :
      Moves (.write i) ⟨{ p.setMark i call phase with
        breaker := p.breaker.storeState cfg call.serviceID call.domain call.now
          (brokenState cfg call hitCount) }, redis, none⟩
  | hSet {i : ℕ} {ok call state store} (hcall : p.marks[i]? = some call)
      (hp : call.phase = .written state)
      (hredis : redis = some store) :
      Moves (.hSet i ok) ⟨p.setMark i call .returned, some (if ok then
        store.hSet (redisKey call.serviceID) call.domain (redisValue state) else store), none⟩
  | fresh {serviceID : String} {elapsed entry}
      (hentry : p.breaker.cache.lookup serviceID = some entry) :
      Moves (.getBrokenDomains serviceID elapsed) ⟨p, redis, some (serviceID,
        DomainCircuitBreaker.filterExpiredDomains (clock + elapsed) entry.domains)⟩
  | stale {serviceID : String} {elapsed} : Moves (.getBrokenDomains serviceID elapsed)
      ⟨{ p with gets := p.gets ++ [⟨serviceID, .stale⟩] }, redis, none⟩
  | refreshed {i : ℕ} {call} (hcall : p.gets[i]? = some call) :
      Moves (.refreshLocal i) ⟨{ p.setGet i call .returned with
        breaker := (p.breaker.refreshLocal cfg call.serviceID clock).1 }, redis,
        some (call.serviceID, (p.breaker.refreshLocal cfg call.serviceID clock).2)⟩
  | hGetAll {i : ℕ} {ok call store} (hcall : p.gets[i]? = some call) (hredis : redis = some store) :
      Moves (.hGetAll i ok) ⟨p.setGet i call (if ok then
        .fetched (store.hGetAll (redisKey call.serviceID)) else .failed), redis, none⟩
  | judged {i : ℕ} {call vals phase} (hcall : p.gets[i]? = some call)
      (hp : call.phase = .fetched vals)
      (hphase : phase = .merging clock (readDomains clock vals) ∨
        phase = .deleting clock (readDomains clock vals) (expiredFields clock vals)) :
      Moves (.judge i) ⟨p.setGet i call phase, redis, none⟩
  | hDel {i : ℕ} {ok call now domains fields store} (hcall : p.gets[i]? = some call)
      (hp : call.phase = .deleting now domains fields)
      (hredis : redis = some store) :
      Moves (.hDel i ok) ⟨p.setGet i call (.merging now domains), some (if ok then
        store.hDel (redisKey call.serviceID) fields else store), none⟩
  | merged {i : ℕ} {call now domains} (hcall : p.gets[i]? = some call)
      (hp : call.phase = .merging now domains) :
      Moves (.merge i) ⟨{ p.setGet i call .returned with
        breaker := p.breaker.storeEntry cfg call.serviceID now
          (p.breaker.merged call.serviceID now domains) }, redis,
        some (call.serviceID, (p.breaker.merged call.serviceID now domains).keys)⟩
  | cleared {serviceID : String} :
      Moves (.clearService serviceID) (p.clearService redis serviceID)
  | forgot {i : ℕ} {call phase} (hcall : p.clears[i]? = some call)
      (hp : call.phase = .cleared)
      (hphase : phase = .returned ∧ redis = none ∨ phase = .forgotten) :
      Moves (.clearStats i) ⟨{ p.setClear i call phase with
        breaker := p.breaker.clearStats call.serviceID
        log := p.log ++ [.cleared call.serviceID] }, redis, none⟩
  | del {i : ℕ} {ok call store} (hcall : p.clears[i]? = some call) (hp : call.phase = .forgotten)
      (hredis : redis = some store) :
      Moves (.del i ok) ⟨p.setClear i call .returned, some (if ok then
        store.del (redisKey call.serviceID) else store), none⟩

end Steps

variable {cfg : BreakerConfig} {clock : Time} {redis : Option RedisStore} {p : Pod}
  {event : PodEvent} {move : PodMove}

theorem moves_of_step (h : p.step cfg clock redis event = some move) :
    Moves cfg clock redis p event move := by
  cases event with
  | recordSuccess serviceID domain =>
    cases h
    rw [recordSuccess]
    split
    · rename_i hempty
      cases hempty
      exact .nameless
    · rename_i hne
      exact .success hne
  | markBroken =>
    cases h
    exact .marked
  | check i =>
    obtain ⟨call, hcall, h⟩ := bind_eq_some_iff.mp h
    unfold Pod.check at h
    split at h
    · rename_i hp
      cases h
      cases hbroken : p.breaker.alreadyBroken call.serviceID call.domain call.now with
      | true => exact .duplicate hcall hp hbroken
      | false => exact .checked hcall hp hbroken
    · cases h
  | gate i =>
    obtain ⟨call, hcall, h⟩ := bind_eq_some_iff.mp h
    unfold Pod.gate at h
    split at h
    · rename_i hp
      cases h
      exact .gated hcall hp rfl
    · cases h
  | write i =>
    obtain ⟨call, hcall, h⟩ := bind_eq_some_iff.mp h
    unfold Pod.write at h
    split at h
    · rename_i hitCount hp
      cases h
      refine .wrote hcall hp ?_
      split
      · exact .inr rfl
      · exact .inl rfl
    · cases h
  | getBrokenDomains serviceID elapsed =>
    cases h
    rw [getBrokenDomains]
    split
    · rename_i entry hentry
      exact .fresh (filter_eq_some_iff.mp hentry).1
    · exact .stale
  | refreshLocal =>
    obtain ⟨call, hcall, h⟩ := bind_eq_some_iff.mp h
    unfold Pod.refreshLocal at h
    split at h
    · cases h
      exact .refreshed hcall
    · cases h
      exact .refreshed hcall
    · cases h
  | hSet | hGetAll | hDel | merge | del =>
    obtain ⟨call, hcall, h⟩ := bind_eq_some_iff.mp h
    simp only [Pod.hSet, Pod.hGetAll, Pod.hDel, Pod.merge, Pod.del] at h
    split at h
    · cases h
      constructor <;> first | assumption | rfl
    · cases h
  | judge i =>
    obtain ⟨call, hcall, h⟩ := bind_eq_some_iff.mp h
    unfold Pod.judge at h
    split at h
    · rename_i vals hp
      cases h
      refine .judged hcall hp ?_
      split
      · exact .inl rfl
      · exact .inr rfl
    · cases h
  | clearService =>
    cases h
    exact .cleared
  | clearStats i =>
    obtain ⟨call, hcall, h⟩ := bind_eq_some_iff.mp h
    unfold Pod.clearStats at h
    split at h
    · rename_i hp
      cases h
      refine .forgot hcall hp ?_
      cases redis with
      | none => exact .inl ⟨rfl, rfl⟩
      | some => exact .inr rfl
    · cases h

end Pod

/-- Pods with equal clocks. -/
structure Fleet where
  clock : Time
  pods : List Pod
  redis : Option RedisStore

inductive FleetEvent where
  | tick (elapsed : ℕ)
  | pod (i : ℕ) (event : PodEvent)

namespace Fleet

def start (clock : Time) (pods : ℕ) (redis : Option RedisStore) : Fleet :=
  ⟨clock, List.replicate pods Pod.start, redis⟩

variable (cfg : BreakerConfig) (s : Fleet)

def podMove (i : ℕ) (event : PodEvent) : Option PodMove :=
  s.pods[i]?.bind fun p => p.step cfg s.clock s.redis event

def step : FleetEvent → Option Fleet
  | .tick elapsed => some { s with clock := s.clock + elapsed }
  | .pod i event => (s.podMove cfg i event).map fun move =>
    ⟨s.clock + event.elapsed, s.pods.set i move.pod, move.redis⟩

def OnPod (C : ℕ → Pod → PodEvent → Prop) : FleetEvent → Prop
  | .tick _ => True
  | .pod i event => ∀ p ∈ s.pods[i]?, C i p event

instance {C : ℕ → Pod → PodEvent → Prop} [∀ i p, DecidablePred (C i p)] :
    DecidablePred (s.OnPod C)
  | .tick _ => .isTrue trivial
  | .pod i _ => inferInstanceAs (Decidable (∀ p ∈ s.pods[i]?, _))

def report (i : ℕ) (event : PodEvent) : Option (String × List String) :=
  (s.podMove cfg i event).bind PodMove.report

variable {cfg s} {s' : Fleet} {event : FleetEvent}

theorem moves_of_step (h : s.step cfg event = some s') :
    (∃ elapsed, event = .tick elapsed ∧ s' = { s with clock := s.clock + elapsed }) ∨
    ∃ i e p move, event = .pod i e ∧ s.pods[i]? = some p ∧ Pod.Moves cfg s.clock s.redis p e move ∧
    s' = ⟨s.clock + e.elapsed, s.pods.set i move.pod, move.redis⟩ := by
  cases event with
  | tick elapsed =>
    cases h
    exact .inl ⟨elapsed, rfl, rfl⟩
  | pod i e =>
    obtain ⟨move, hmove, rfl⟩ := map_eq_some_iff.mp h
    obtain ⟨p, hp, hstep⟩ := bind_eq_some_iff.mp hmove
    exact .inr ⟨i, e, p, move, rfl, hp, Pod.moves_of_step hstep, rfl⟩

theorem clock_le_of_step (h : s.step cfg event = some s') : s.clock ≤ s'.clock := by
  rcases moves_of_step h with ⟨elapsed, -, rfl⟩ | ⟨i, e, p, move, -, -, -, rfl⟩ <;>
    exact Nat.le_add_right _ _

end Fleet

def failing (pod first count : ℕ) : List FleetEvent :=
  (List.range count).flatMap fun k => [.pod pod (.markBroken "eth" "a.example.com" []),
    .pod pod (.check (first + k)), .pod pod (.gate (first + k))]

def breaking : List FleetEvent := failing 0 0 5 ++ [.pod 0 (.write 4)]

end PathGateway
