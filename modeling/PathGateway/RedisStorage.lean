import Mathlib.Data.Rat.Encodable
import PathGateway.DrainSync
import PathGateway.ExpiringStore

/-! The storage on Redis. Scores, heights and drains share one key space under a prefix: a listing
of the scores scans all of it, and what it makes of the other keys must not do harm. -/

namespace PathGateway

/-- Numbers and times as texts. Floats are written with as many digits as it takes to read them
back. -/
structure Strconv where
  formatFloat : ℚ → String
  parseFloat : String → Option ℚ
  formatInt : ℤ → String
  parseInt : String → Option ℤ
  /-- RFC 3339, over the Unix time. -/
  formatTime : ℤ → String
  parseTime : String → Option ℤ
  /-- As a script reads a number. -/
  tonumber : String → Option ℚ
  parse_formatFloat : ∀ x, parseFloat (formatFloat x) = some x
  parse_formatInt : ∀ n, parseInt (formatInt n) = some n

/-- Texts for worked inputs, which tell numbers apart by their length. -/
def Strconv.plain : Strconv where
  formatFloat x := String.ofList (.replicate (Encodable.encode x) '1')
  parseFloat s := Encodable.decode s.toList.length
  formatInt n := String.ofList (.replicate (Encodable.encode n) '1')
  parseInt s := Encodable.decode s.toList.length
  formatTime n := String.ofList (.replicate n.toNat '1')
  parseTime s := some s.toList.length
  tonumber s := some s.toList.length
  parse_formatFloat x := by rw [String.toList_ofList, List.length_replicate, Encodable.encodek]
  parse_formatInt n := by rw [String.toList_ofList, List.length_replicate, Encodable.encodek]

structure RedisStorage where
  net : NetLib
  text : Strconv
  pl : Platform
  keyPrefix : String
  ttl : ℕ
  /-- An empty one is replaced by the default. -/
  keyPrefix_ne : keyPrefix ≠ ""
  second_pos : 0 < pl.second

namespace RedisStorage

variable (r : RedisStorage)

/-- The client sends whole seconds, and one for less. -/
def formatSec (dur : ℕ) : ℕ :=
  (if 0 < dur ∧ dur < r.pl.second then 1 else dur / r.pl.second) * r.pl.second

def buildKey (key : EndpointKey) : String := r.keyPrefix ++ key.string

def perceivedBlockKey (serviceID : ServiceID) : String :=
  r.keyPrefix ++ ("chain_state:" ++ serviceID ++ ":perceived_block")

def endpointBlocksKey (serviceID : ServiceID) : String :=
  r.keyPrefix ++ ("chain_state:" ++ serviceID ++ ":endpoint_blocks")

def drainsHashKey : String := r.keyPrefix ++ "__drains__"

def parseRedisKey (redisKey : String) : Option EndpointKey :=
  let withoutPrefix := GoStrings.trimPrefix redisKey r.keyPrefix
  if withoutPrefix = redisKey then none else parseKey r.net withoutPrefix

/-- The zero time lies in the year 1. -/
def unixText (t : Option Time) : String :=
  r.text.formatInt (t.elim (-62135596800) (fun t => ((t / r.pl.second : ℕ) : ℤ)))

def scoreFields (score : ScoreRecord) : GoMap String String :=
  ⟨[⟨"value", r.text.formatFloat score.value⟩,
    ⟨"last_updated", r.unixText (some score.lastUpdated)⟩,
    ⟨"success_count", r.text.formatInt score.successCount⟩,
    ⟨"error_count", r.text.formatInt score.errorCount⟩,
    ⟨"critical_strikes", r.text.formatInt score.criticalStrikes⟩,
    ⟨"cooldown_until", r.unixText score.cooldownUntil⟩,
    ⟨"is_archival", if score.isArchival then "1" else "0"⟩,
    ⟨"archival_expires_at", r.unixText score.archivalExpiresAt⟩,
    ⟨"recent_critical_rate", r.text.formatFloat score.criticalRate.recentRate⟩,
    ⟨"rate_cooldown_count", r.text.formatInt score.criticalRate.cooldownCount⟩,
    ⟨"recent_invalid_rate", r.text.formatFloat score.invalidRate.recentRate⟩,
    ⟨"invalid_rate_cooldown_count", r.text.formatInt score.invalidRate.cooldownCount⟩,
    ⟨"rate_cooldown_until", r.unixText score.criticalRate.cooldownUntil⟩,
    ⟨"invalid_rate_cooldown_until", r.unixText score.invalidRate.cooldownUntil⟩],
    by simp [List.NodupKeys, List.keys]⟩

/-- A field that is missing leaves the zero value, and one that does not parse is an error. -/
def required {α : Type} (data : GoMap String String) (name : String) (parse : String → Option α)
    (zero : α) : Option α :=
  (data.lookup name).elim (some zero) parse

def parseCount (v : String) : Option ℕ := (r.text.parseInt v).map Int.toNat

def parseUnix (v : String) : Option (Option Time) :=
  (r.text.parseInt v).map (fun ts => if 0 < ts then some (ts.toNat * r.pl.second) else none)

/-- The fields that were added last are not worth an error. -/
def parseScore (data : GoMap String String) : Option ScoreRecord := do
  let value ← required data "value" r.text.parseFloat 0
  let lastUpdated ← required data "last_updated"
    (fun v => (r.text.parseInt v).map (fun ts => ts.toNat * r.pl.second)) 0
  let successCount ← required data "success_count" r.parseCount 0
  let errorCount ← required data "error_count" r.parseCount 0
  let criticalStrikes ← required data "critical_strikes" r.parseCount 0
  let cooldownUntil ← required data "cooldown_until" r.parseUnix none
  let criticalRate ← required data "recent_critical_rate" r.text.parseFloat 0
  let criticalCount ← required data "rate_cooldown_count" r.parseCount 0
  let archivalExpiresAt ← required data "archival_expires_at" r.parseUnix none
  let lenient {α : Type} (name : String) (parse : String → Option α) (zero : α) : α :=
    ((data.lookup name).bind parse).getD zero
  return {
    value, cooldownUntil, lastUpdated, successCount, errorCount, criticalStrikes
    latencyMetrics := .zero
    criticalRate :=
      ⟨criticalRate, criticalCount, lenient "rate_cooldown_until" r.parseUnix none⟩
    invalidRate :=
      ⟨lenient "recent_invalid_rate" r.text.parseFloat 0,
        lenient "invalid_rate_cooldown_count" r.parseCount 0,
        lenient "invalid_rate_cooldown_until" r.parseUnix none⟩
    isArchival := (data.lookup "is_archival").any (fun v => v == "1" || v == "true")
    archivalExpiresAt }

section Operations

variable (s : ExpiringStore)

/-- In a pipeline a command runs also where the one before it has failed. -/
def set (key : EndpointKey) (score : ScoreRecord) : ExpiringStore :=
  let t := (s.hset (r.buildKey key) (r.scoreFields score)).getD s
  if 0 < r.ttl then t.expire (r.buildKey key) (r.formatSec r.ttl) else t

variable (serviceID : ServiceID) (key : DrainKey)

/-- The script sets what is higher, for an hour. -/
def setPerceivedBlockNumber (blockNumber : ℕ) : ExpiringStore :=
  let key := r.perceivedBlockKey serviceID
  let arg := r.text.formatInt blockNumber
  let update := s.setEx key arg (r.pl.minutes 60)
  match s.getString key with
  | none => s
  | some none => update
  | some (some current) =>
    match r.text.tonumber current, r.text.tonumber arg with
    | some old, some new => if old < new then update else s
    | _, _ => s

def setEndpointBlockHeight (addr : EndpointAddr) (height : ℕ) : ExpiringStore :=
  (s.hset (r.endpointBlocksKey serviceID)
    ((∅ : GoMap String String).insert addr (r.text.formatInt height))).getD s

def removeEndpointBlockHeights (addrs : List EndpointAddr) : ExpiringStore :=
  if addrs = [] then s else (s.hdel (r.endpointBlocksKey serviceID) addrs).getD s

def drainsHashTTLMargin : ℕ := r.pl.minutes 10

/-- `none` where the drain is not written. -/
def setDrain (endsAt : Time) : Option ExpiringStore :=
  (s.hset r.drainsHashKey ((∅ : GoMap String String).insert (drainField key)
      (r.text.formatTime (endsAt / r.pl.second : ℕ)))).map (fun t =>
    -- the time left, with the margin, may be over
    let ttl : ℤ := endsAt - s.now + r.drainsHashTTLMargin
    if 0 < ttl then t.expireGT r.drainsHashKey (r.formatSec ttl.toNat) else t)

def deleteDrain : ExpiringStore := (s.hdel r.drainsHashKey [drainField key]).getD s

def liveDrain (field val : String) : Option (DrainKey × Time) :=
  ((r.text.parseTime val).filter (fun ts => decide ((s.now : ℤ) < ts * r.pl.second))).bind
    (fun ts => (parseDrainField field).map (·, ts.toNat * r.pl.second))

/-- What has ended or cannot be read is deleted, and the others are returned. -/
def listDrains : ExpiringStore × Option (List (DrainKey × Time)) :=
  match s.hgetall r.drainsHashKey with
  | none => (s, none)
  | some raw =>
    let expired := (raw.entries.filter (fun e => (r.liveDrain s e.1 e.2).isNone)).map Sigma.fst
    (if expired = [] then s else (s.hdel r.drainsHashKey expired).getD s,
      some (raw.entries.filterMap (fun e => r.liveDrain s e.1 e.2)))

/-- Over what the scan has returned. -/
def list (scanned : List String) : List EndpointKey := scanned.filterMap r.parseRedisKey

/-- The pipeline fails if a key holds no hash; what is empty or does not parse is skipped. -/
def getMultiple (keys : List EndpointKey) : Option (GoMap EndpointKey ScoreRecord) :=
  if keys.any (fun key => (s.hgetall (r.buildKey key)).isNone) then none
  else some (GoMap.build (fun key => ((s.hgetall (r.buildKey key)).filter
    (fun data => !GoMap.isEmpty data)).bind r.parseScore) keys)

end Operations

inductive Op where
  | wait (elapsed : ℕ)
  | set (key : EndpointKey) (score : ScoreRecord)
  | setMultiple (scores : List (EndpointKey × ScoreRecord))
  | delete (key : EndpointKey)
  | setPerceivedBlockNumber (serviceID : ServiceID) (blockNumber : ℕ)
  | deletePerceivedBlockNumber (serviceID : ServiceID)
  | setEndpointBlockHeight (serviceID : ServiceID) (addr : EndpointAddr) (height : ℕ)
  | removeEndpointBlockHeights (serviceID : ServiceID) (addrs : List EndpointAddr)
  | setDrain (key : DrainKey) (endsAt : Time)
  | deleteDrain (key : DrainKey)
  | listDrains

def step (s : ExpiringStore) : Op → ExpiringStore
  | .wait elapsed => s.wait elapsed
  | .set key score => r.set s key score
  | .setMultiple scores => scores.foldl (fun s e => r.set s e.1 e.2) s
  | .delete key => s.del (r.buildKey key)
  | .setPerceivedBlockNumber serviceID blockNumber =>
    r.setPerceivedBlockNumber s serviceID blockNumber
  | .deletePerceivedBlockNumber serviceID => s.del (r.perceivedBlockKey serviceID)
  | .setEndpointBlockHeight serviceID addr height =>
    r.setEndpointBlockHeight s serviceID addr height
  | .removeEndpointBlockHeights serviceID addrs => r.removeEndpointBlockHeights s serviceID addrs
  | .setDrain key endsAt => (r.setDrain s key endsAt).getD s
  | .deleteDrain key => r.deleteDrain s key
  | .listDrains => (r.listDrains s).1

end RedisStorage

def plainRedis : RedisStorage :=
  ⟨.ascii, .plain, .exact, "path:reputation:", 0, by decide, Nat.one_pos⟩

end PathGateway
