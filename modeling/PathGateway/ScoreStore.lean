import PathGateway.Machine
import PathGateway.ScoreUpdate
import PathGateway.WriteBehind

/-! The reputation service of one replica as a machine: its cache and archival index, the
queue of writes behind it, and the storage it shares with other replicas. A section under
the lock is one step and so is a storage operation; everything between two such steps may
interleave. -/

namespace PathGateway

open WriteBehind Option

def EndpointKey.string (key : EndpointKey) : String :=
  key.serviceID ++ ":" ++ key.endpointAddr ++ ":" ++ key.rpcType.label

/-- A storage backend: how it reads a key back from the string it is stored under, and what
it keeps of a score. -/
structure Backend where
  parseKey : String → Option EndpointKey
  keep : ScoreRecord → ScoreRecord
  keep_observations : ∀ score, (keep score).observations = score.observations

def MemoryStorage.parseKey (s : String) : Option EndpointKey :=
  (GoStrings.after ':' s).bind (fun rest =>
    (GoStrings.after ':' rest).map (fun rpcType =>
      ⟨GoStrings.before ':' s, GoStrings.before ':' rest, .ofName rpcType⟩))

def MemoryStorage.backend : Backend where
  parseKey := MemoryStorage.parseKey
  keep := id
  keep_observations _ := rfl

namespace RedisStorage

variable (net : NetLib) (pl : Platform)

def parseKey (s : String) : Option EndpointKey :=
  (GoStrings.splitLast ':' s).bind (fun (rest, rpcType) =>
    (GoStrings.after ':' rest).bind (fun addr =>
      let serviceID := GoStrings.before ':' rest
      if serviceID = "" || addr = "" then none
      else some ⟨serviceID, addr, .ofName (net.toUpper rpcType)⟩))

def unix (t : Time) : Time := t / pl.second * pl.second

def keepTime (t : Option Time) : Option Time := (t.map (unix pl)).filter (fun t => decide (0 < t))

def keep (score : ScoreRecord) : ScoreRecord :=
  { score with
    cooldownUntil := keepTime pl score.cooldownUntil
    lastUpdated := unix pl score.lastUpdated
    latencyMetrics := .zero
    criticalRate :=
      { score.criticalRate with cooldownUntil := keepTime pl score.criticalRate.cooldownUntil }
    invalidRate :=
      { score.invalidRate with cooldownUntil := keepTime pl score.invalidRate.cooldownUntil }
    archivalExpiresAt := keepTime pl score.archivalExpiresAt }

def backend : Backend where
  parseKey := parseKey net
  keep := keep pl
  keep_observations _ := rfl

end RedisStorage

namespace ScoreRecord

variable (now : Time) (score : ScoreRecord)

def isArchivalCapable : Bool :=
  score.isArchival && score.archivalExpiresAt.any (fun t => decide (now < t))

/-- A status that is not archival has no end. -/
def setArchival (isArchival : Bool) (ttl : Int) : ScoreRecord :=
  { score with
    isArchival := isArchival
    archivalExpiresAt := if isArchival then some (now + ttl).toNat else none
    lastUpdated := now }

def shouldRecover (cfg : ReputationConfig) (serviceID : ServiceID) : Bool :=
  decide (score.value < cfg.getMinThresholdForService serviceID) &&
    !(cfg.serviceConfigs.lookup serviceID).any
      (fun c => c.healthChecksEnabled || c.probationEnabled) &&
    decide (score.lastUpdated + cfg.getRecoveryTimeoutForService serviceID ≤ now)

end ScoreRecord

inductive Refresh where
  | idle
  | listed (keys : List EndpointKey)
  | fetched (scores : GoMap EndpointKey ScoreRecord)
  deriving DecidableEq

def Refresh.scores : Refresh → List (EndpointKey × ScoreRecord)
  | .fetched scores => pairs scores
  | _ => []

structure Recovery where
  key : EndpointKey
  missed : Nat
  deriving DecidableEq

structure ScoreStore where
  cache : GoMap EndpointKey ScoreRecord
  archivalIndex : GoMap ServiceID (GoMap EndpointKey Unit)
  writes : Pipeline String EndpointKey ScoreRecord
  archivalWrites : List (EndpointKey × ScoreRecord)
  syncWrites : List (EndpointKey × ScoreRecord)
  recovering : List Recovery
  loading : List EndpointKey
  loaded : List (EndpointKey × ScoreRecord)
  refresh : Refresh

inductive ScoreEvent where
  | recordSignal (key : EndpointKey) (now : Time) (signal : Signal)
  | enqueue (i : Nat)
  | receive
  | flush
  | decideRecovery (keys : List EndpointKey) (now : Time)
  | recoverScore (i : Nat) (now : Time)
  | resetScore (key : EndpointKey) (now : Time)
  | setArchivalStatus (key : EndpointKey) (isArchival : Bool) (ttl : Int) (now : Time)
  | enqueueArchival (i : Nat)
  | setSynchronously (i : Nat)
  | archivalMiss (key : EndpointKey)
  | archivalGet (i : Nat)
  | archivalSet (i : Nat)
  | refreshList
  | refreshGet
  | refreshSet
  | storageWrite (name : String) (score : ScoreRecord)
  | storageExpire (name : String)

namespace ScoreStore

def start (stored : GoMap String ScoreRecord) : ScoreStore where
  cache := ∅
  archivalIndex := ∅
  writes := ⟨[], [], ∅, stored⟩
  archivalWrites := []
  syncWrites := []
  recovering := []
  loading := []
  loaded := []
  refresh := .idle

def sampleKey : EndpointKey := ⟨"eth", "https://a.example.com", .jsonRPC⟩

def sampleBackend : Backend := RedisStorage.backend .ascii .exact

variable (cfg : ReputationConfig) (backend : Backend) (s : ScoreStore)

variable (key : EndpointKey) (i : Nat) (score : ScoreRecord) (now : Time)

def setScoreLocked : ScoreStore :=
  { s with
    cache := s.cache.insert key score
    archivalIndex :=
      match score.isArchival, s.archivalIndex.lookup key.serviceID with
      | true, idx => s.archivalIndex.insert key.serviceID ((idx.getD ∅).insert key ())
      | false, some idx => s.archivalIndex.insert key.serviceID (idx.erase key)
      | false, none => s.archivalIndex }

def setScores (scores : List (EndpointKey × ScoreRecord)) : ScoreStore :=
  scores.foldl (fun s e => s.setScoreLocked e.1 e.2) s

def setAndQueue : ScoreStore :=
  { s.setScoreLocked key score with writes := s.writes.write key score }

def initial : ScoreRecord := .fresh (cfg.getInitialScoreForService key.serviceID) now

def scoreOrInitial : ScoreRecord := (s.cache.lookup key).getD (initial cfg key now)

def recordSignal (key : EndpointKey) (now : Time) (signal : Signal) : ScoreStore :=
  if cfg.enabled then
    let score := (s.scoreOrInitial cfg key now).recordSignal cfg now signal key.serviceID
    { s.setAndQueue key score with
      recovering := s.recovering.map (fun r =>
        if r.key = key then { r with missed := r.missed + 1 } else r) }
  else s

def decideRecovery (keys : List EndpointKey) (now : Time) : ScoreStore :=
  let due := keys.filter (fun key =>
    (s.cache.lookup key).any (fun score => score.shouldRecover now cfg key.serviceID))
  if cfg.enabled then { s with recovering := s.recovering ++ due.map (⟨·, 0⟩) } else s

def recoverScore : Option ScoreStore :=
  s.recovering[i]?.map (fun r =>
    { s.setAndQueue r.key (initial cfg r.key now) with recovering := s.recovering.eraseIdx i })

def resetScore : ScoreStore := if cfg.enabled then s.setAndQueue key (initial cfg key now) else s

def setArchivalStatus (isArchival : Bool) (ttl : Int) (now : Time) : ScoreStore :=
  let score := (s.scoreOrInitial cfg key now).setArchival now isArchival ttl
  { s.setScoreLocked key score with archivalWrites := s.archivalWrites ++ [(key, score)] }

/-- Unlike the other writes, one of an archival status is not given up when the queue is
full. -/
def enqueueArchival : Option ScoreStore :=
  s.archivalWrites[i]?.map (fun w =>
    if s.writes.channel.length < cfg.writeBufferSize then
      { s with
        archivalWrites := s.archivalWrites.eraseIdx i
        writes := { s.writes with channel := s.writes.channel ++ [w] } }
    else
      { s with
        archivalWrites := s.archivalWrites.eraseIdx i
        syncWrites := s.syncWrites ++ [w] })

def setStored (name : String) (score : ScoreRecord) : ScoreStore :=
  { s with writes := { s.writes with store := s.writes.store.insert name score } }

def setSynchronously : Option ScoreStore :=
  s.syncWrites[i]?.map (fun w =>
    { s.setStored w.1.string (backend.keep w.2) with syncWrites := s.syncWrites.eraseIdx i })

def archivalMiss : Option ScoreStore :=
  if (s.cache.lookup key).isSome then none else some { s with loading := s.loading ++ [key] }

def archivalGet : Option ScoreStore :=
  s.loading[i]?.map (fun key =>
    { s with
      loading := s.loading.eraseIdx i
      loaded := s.loaded ++ ((s.writes.store.lookup key.string).map (key, ·)).toList })

def archivalSet : Option ScoreStore :=
  s.loaded[i]?.map (fun e =>
    { s.setScoreLocked e.1 e.2 with loaded := s.loaded.eraseIdx i })

def refreshList : Option ScoreStore :=
  if s.refresh = .idle then
    let keys := s.writes.store.keys.filterMap backend.parseKey
    some (if keys.isEmpty then s else { s with refresh := .listed keys })
  else none

def refreshGet : Option ScoreStore :=
  match s.refresh with
  | .listed keys =>
    some { s with
      refresh := .fetched (GoMap.build (fun key => s.writes.store.lookup key.string) keys) }
  | _ => none

def refreshSet : Option ScoreStore :=
  match s.refresh with
  | .fetched scores => some { s.setScores (pairs scores) with refresh := .idle }
  | _ => none

def step : ScoreEvent → Option ScoreStore
  | .recordSignal key now signal => some (s.recordSignal cfg key now signal)
  | .enqueue i => (s.writes.send cfg.writeBufferSize i).map (fun p => { s with writes := p })
  | .receive => (s.writes.receive EndpointKey.string).map (fun p => { s with writes := p })
  | .flush => some { s with writes := s.writes.flush EndpointKey.string backend.keep }
  | .decideRecovery keys now => some (s.decideRecovery cfg keys now)
  | .recoverScore i now => s.recoverScore cfg i now
  | .resetScore key now => some (s.resetScore cfg key now)
  | .setArchivalStatus key isArchival ttl now =>
    some (s.setArchivalStatus cfg key isArchival ttl now)
  | .enqueueArchival i => s.enqueueArchival cfg i
  | .setSynchronously i => s.setSynchronously backend i
  | .archivalMiss key => s.archivalMiss key
  | .archivalGet i => s.archivalGet i
  | .archivalSet i => s.archivalSet i
  | .refreshList => s.refreshList backend
  | .refreshGet => s.refreshGet
  | .refreshSet => s.refreshSet
  | .storageWrite name score => some (s.setStored name score)
  | .storageExpire name => some { s with writes := s.writes.expire name }

def installs : ScoreEvent → List (EndpointKey × ScoreRecord)
  | .recordSignal key now signal =>
    if cfg.enabled then
      [(key, (s.scoreOrInitial cfg key now).recordSignal cfg now signal key.serviceID)]
    else []
  | .recoverScore i now => (s.recovering[i]?.map (fun r => (r.key, initial cfg r.key now))).toList
  | .resetScore key now => if cfg.enabled then [(key, initial cfg key now)] else []
  | .setArchivalStatus key isArchival ttl now =>
    [(key, (s.scoreOrInitial cfg key now).setArchival now isArchival ttl)]
  | .archivalSet i => s.loaded[i]?.toList
  | .refreshSet => s.refresh.scores
  | _ => []

def isArchivalCapable (key : EndpointKey) (now : Time) : Bool :=
  match s.cache.lookup key with
  | some score => score.isArchivalCapable now
  | none => (s.writes.store.lookup key.string).any (fun score => score.isArchivalCapable now)

def getArchivalEndpoints (serviceID : ServiceID) (now : Time) : List EndpointKey :=
  ((s.archivalIndex.lookup serviceID).getD ∅).keys.filter (fun key =>
    (s.cache.lookup key).any (fun score => score.isArchivalCapable now))

section Effects

variable {cfg backend s} {s' : ScoreStore} {e : ScoreEvent}

structure SameScores (s s' : ScoreStore) : Prop where
  cache : s'.cache = s.cache
  archivalIndex : s'.archivalIndex = s.archivalIndex

theorem sameScores_of_step (h : s.step cfg backend e = some s') :
    SameScores (s.setScores (s.installs cfg e)) s' := by
  cases e with
  | recordSignal | resetScore | decideRecovery =>
    cases h
    simp only [recordSignal, resetScore, decideRecovery, installs]
    split
    · exact ⟨rfl, rfl⟩
    · exact ⟨rfl, rfl⟩
  | recoverScore | archivalSet =>
    obtain ⟨r, hr, rfl⟩ := map_eq_some_iff.mp h
    simp only [installs, hr]
    exact ⟨rfl, rfl⟩
  | refreshSet =>
    simp only [step, refreshSet] at h
    split at h
    · rename_i scores hs
      cases h
      simp only [installs, hs]
      exact ⟨rfl, rfl⟩
    · cases h
  | archivalMiss | refreshList =>
    simp only [step, archivalMiss, refreshList] at h
    split_ifs at h
    all_goals
      cases h
      exact ⟨rfl, rfl⟩
  | refreshGet =>
    simp only [step, refreshGet] at h
    split at h
    · cases h
      exact ⟨rfl, rfl⟩
    · cases h
  | enqueueArchival =>
    obtain ⟨w, hw, rfl⟩ := map_eq_some_iff.mp h
    split_ifs
    · exact ⟨rfl, rfl⟩
    · exact ⟨rfl, rfl⟩
  | enqueue | receive | setSynchronously | archivalGet =>
    obtain ⟨r, hr, rfl⟩ := map_eq_some_iff.mp h
    exact ⟨rfl, rfl⟩
  | setArchivalStatus | flush | storageWrite | storageExpire =>
    cases h
    exact ⟨rfl, rfl⟩

theorem cache_setScores {ws : List (EndpointKey × ScoreRecord)} :
    (s.setScores ws).cache = insertAll id s.cache ws := by
  induction ws generalizing s with
  | nil => rfl
  | cons w ws ih => exact ih

theorem lookup_cache_of_step (h : s.step cfg backend e = some s') (key : EndpointKey) :
    s'.cache.lookup key = (lastOf id key (s.installs cfg e)).or (s.cache.lookup key) := by
  rw [(sameScores_of_step h).cache, cache_setScores, lookup_insertAll]

end Effects

end ScoreStore

end PathGateway
