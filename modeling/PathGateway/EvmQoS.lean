import PathGateway.EvmSelection

/-! The EVM service of one replica as a machine: the endpoint store, the archival cache and the
reputation service, with every path that writes one of them. A section under a lock is one step.
How the perceived height is computed is left open here: a step sets it to any value. -/

namespace PathGateway

open Option List GoMap

namespace Evm

structure ExtractedData where
  blockHeight : ℤ := 0
  invalidBlockHeight : Bool := false
  archivalCheckPerformed : Bool := false
  isArchival : Bool := false
  deriving DecidableEq, Repr

/-- An observation of a relay; a block number is the one that the response parses to, or 0. -/
inductive Observation where
  | emptyResponse
  | blockNumberResponse (blockNumber : ℕ)
  | chainIdResponse (chainID : String)
  | unrecognizedResponse (validationError : String)
  | unset
  deriving DecidableEq, Repr

def archivalStatusTTL : ℕ := 30 * Duration.minute

def defaultEndpointTTL : ℕ := 120 * Duration.minute

variable (ep : Endpoint) (data : ExtractedData) (now : Time)

def Endpoint.updateBlockNumber : Endpoint :=
  if 0 < data.blockHeight then { ep with parsedBlockNumberResponse := some data.blockHeight.toNat }
  else if data.invalidBlockHeight then { ep with parsedBlockNumberResponse := some 0 }
  else ep

def Endpoint.updateArchival : Endpoint :=
  if data.archivalCheckPerformed then
    { ep with checkArchival := ⟨data.isArchival, some (now + archivalStatusTTL)⟩ }
  else ep

def Endpoint.applyObservation : Observation → Option Endpoint
  | .emptyResponse =>
    some { ep with hasReturnedEmptyResponse := true, invalidResponseLastObserved := some now }
  | .blockNumberResponse blockNumber =>
    some { ep with parsedBlockNumberResponse := some blockNumber }
  | .chainIdResponse chainID => some { ep with chainID := some chainID }
  | .unrecognizedResponse validationError =>
    if validationError = "EVM_RESPONSE_VALIDATION_ERROR_UNSPECIFIED" then some ep
    else some { ep with
      hasReturnedInvalidResponse := true
      invalidResponseError := validationError
      invalidResponseLastObserved := some now }
  | .unset => none

namespace ServiceState

variable (ss : ServiceState) (now : Time)

def sweepStaleEndpoints (ttl : ℕ) : ServiceState :=
  { ss with endpoints := retain (fun _ ep =>
      !ep.lastSeen.elim false (fun lastSeen => lastSeen + ttl < now)) ss.endpoints }

variable (endpoints : GoMap EndpointAddr Endpoint) (heights : GoMap EndpointAddr ℕ)

def storeHeights : GoMap EndpointAddr Endpoint :=
  heights.entries.foldl (fun endpoints entry =>
    match endpoints.lookup entry.1 with
    | none => endpoints.insert entry.1
        { parsedBlockNumberResponse := some entry.2, lastSeen := some now }
    | some ep => endpoints.insert entry.1 { ep with parsedBlockNumberResponse := some entry.2 })
    endpoints

def fillHeights (urlHeights : GoMap String ℕ) : GoMap EndpointAddr Endpoint :=
  endpoints.keys.foldl (fun endpoints addr =>
    match endpoints.lookup addr, (getURL addr).bind (fun url => urlHeights.lookup url) with
    | some ep, some h =>
      if ep.parsedBlockNumberResponse = none then
        endpoints.insert addr { ep with parsedBlockNumberResponse := some h }
      else endpoints
    | _, _ => endpoints) endpoints

def syncEndpointBlocksFromRedis : ServiceState :=
  if isEmpty heights then ss
  else
    let urlHeights := heights.entries.foldl (fun urlHeights entry =>
      (getURL entry.1).elim urlHeights (fun url => keepLower urlHeights url entry.2)) ∅
    { ss with
      redisURLBlockHeights := some urlHeights
      endpoints := fillHeights (storeHeights now ss.endpoints heights) urlHeights }

end ServiceState

/-- The service and what it is wired to. -/
structure QoSConfig where
  selection : Config
  reputationSvc : Bool
  reputation : ReputationConfig
  backend : Backend

def QoSConfig.archivalKey (cfg : QoSConfig) (addr : EndpointAddr) : EndpointKey :=
  ⟨cfg.selection.serviceID, addr, .jsonRPC⟩

structure EvmQoS where
  service : ServiceState
  reputation : ScoreStore
  recording : List EndpointAddr
  refreshing : List EndpointKey
  clock : Time
  verified : List (String × Time)

def EvmQoS.start (stored : GoMap String ScoreRecord) : EvmQoS where
  service := ⟨∅, 0, some ∅, none⟩
  reputation := .start stored
  recording := []
  refreshing := []
  clock := 0
  verified := []

inductive Action where
  | updateFromExtractedData (addr : EndpointAddr) (data : ExtractedData)
  | recordArchival (i : ℕ)
  | applyObservation (addr : EndpointAddr) (obs : Observation)
  | setPerceivedBlockNumber (blockNumber : ℕ)
  | syncEndpointBlocks (heights : GoMap EndpointAddr ℕ)
  | sweepStaleEndpoints
  | touchEndpoints (addrs : List EndpointAddr)
  | refreshList
  | refreshNext
  | cleanup
  | reputation (e : ScoreEvent)

structure Event where
  now : Time
  action : Action

/-- The endpoint appears in a session, or an observation of it is recorded. -/
def Action.shows (a : EndpointAddr) : Action → Prop
  | .updateFromExtractedData addr data => addr = a ∧
      (0 < data.blockHeight ∨ data.invalidBlockHeight = true ∨ data.archivalCheckPerformed = true)
  | .applyObservation addr obs => addr = a ∧ obs ≠ .unset
  | .touchEndpoints addrs => a ∈ addrs
  | _ => False

/-- The endpoint is among the heights that a sync copies from Redis. -/
def Action.syncs (a : EndpointAddr) : Action → Prop
  | .syncEndpointBlocks heights => a ∈ heights.keys
  | _ => False

def Event.shows (e : Event) (a : EndpointAddr) : Prop := e.action.shows a

def Event.syncs (e : Event) (a : EndpointAddr) : Prop := e.action.syncs a

end Evm

def ScoreEvent.time : ScoreEvent → Option Time
  | .recordSignal _ now _ | .decideRecovery _ now | .recoverScore _ now | .resetScore _ now
  | .setArchivalStatus _ _ _ now => some now
  | _ => none

def ScoreEvent.verifies : ScoreEvent → Option String
  | .setArchivalStatus key true _ _ => some key.string
  | .storageWrite name score => if score.isArchival then some name else none
  | _ => none

namespace Evm

namespace EvmQoS

variable (cfg : QoSConfig) (s : EvmQoS) (now : Time)

def verify (key : Option String) : EvmQoS :=
  { s with verified := key.elim s.verified (fun key => (key, now) :: s.verified) }

def setArchival (key : String) : EvmQoS :=
  { s with service := { s.service with
      archivalCache := s.service.archivalCache.map
        (fun cache => cache.set key true archivalStatusTTL now) } }

/-- Only a positive check reaches the cache and the reputation service. -/
def updateFromExtractedData (addr : EndpointAddr) (data : ExtractedData) : EvmQoS :=
  let ep := (s.service.endpoints.lookup addr).getD {}
  let stored := { s with service := { s.service with
    endpoints := s.service.endpoints.insert addr
      ((ep.updateBlockNumber data).updateArchival data now) } }
  if data.archivalCheckPerformed && data.isArchival then
    let key := (cfg.archivalKey addr).string
    let cached := (stored.setArchival now key).verify now (some key)
    if cfg.reputationSvc then { cached with recording := s.recording ++ [addr] } else cached
  else stored

def applyObservation (addr : EndpointAddr) (obs : Observation) : EvmQoS :=
  match ((s.service.endpoints.lookup addr).getD {}).applyObservation now obs with
  | none => s
  | some ep =>
    { s with service := { s.service with endpoints := s.service.endpoints.insert addr ep } }

def setArchivalStatus (key : EndpointKey) (isArchival : Bool) (ttl : ℤ) : EvmQoS :=
  { s with
    reputation := s.reputation.setArchivalStatus cfg.reputation key isArchival ttl now }

def recordArchival (i : ℕ) : Option EvmQoS :=
  s.recording[i]?.map (fun addr =>
    let key := cfg.archivalKey addr
    { (s.setArchivalStatus cfg now key true archivalStatusTTL).verify now (some key.string) with
      recording := s.recording.eraseIdx i })

/-- The first pass of a refresh asks the reputation service about each stored endpoint, but sees
the context it has just cancelled and drops the answer. Only the listed keys count. -/
def refreshList : Option EvmQoS :=
  if cfg.reputationSvc = true ∧ s.service.archivalCache.isSome = true ∧ s.refreshing = [] then
    some { s with
      refreshing := s.reputation.getArchivalEndpoints cfg.selection.serviceID now }
  else none

def cachedTrue (key : String) : Bool :=
  s.service.archivalCache.elim false (fun cache => cache.get key now = some true)

def refreshNext : Option EvmQoS :=
  match s.refreshing with
  | [] => none
  | key :: keys =>
    if s.cachedTrue now key.string then some { s with refreshing := keys }
    else some { s.setArchival now key.string with refreshing := keys }

def cleanup : EvmQoS :=
  { s with service := { s.service with
      archivalCache := s.service.archivalCache.map (fun cache => cache.cleanup now) } }

def reputationStep (e : ScoreEvent) : Option EvmQoS :=
  if cfg.reputationSvc = true ∧ ∀ t ∈ e.time, t = now then
    (s.reputation.step cfg.reputation cfg.backend e).map
      (fun reputation => { s with reputation := reputation }.verify now e.verifies)
  else none

def act : Action → Option EvmQoS
  | .updateFromExtractedData addr data => some (s.updateFromExtractedData cfg now addr data)
  | .recordArchival i => s.recordArchival cfg now i
  | .applyObservation addr obs => some (s.applyObservation now addr obs)
  | .setPerceivedBlockNumber blockNumber =>
    some { s with service := { s.service with perceivedBlockNumber := blockNumber } }
  | .syncEndpointBlocks heights =>
    some { s with service := s.service.syncEndpointBlocksFromRedis now heights }
  | .sweepStaleEndpoints =>
    some { s with service := s.service.sweepStaleEndpoints now defaultEndpointTTL }
  | .touchEndpoints addrs => some { s with service := s.service.touchEndpoints now addrs }
  | .refreshList => s.refreshList cfg now
  | .refreshNext => s.refreshNext now
  | .cleanup => some (s.cleanup now)
  | .reputation e => s.reputationStep cfg now e

/-- Time does not run backwards. -/
def step (e : Event) : Option EvmQoS :=
  if s.clock ≤ e.now then (s.act cfg e.now e.action).map (fun s' => { s' with clock := e.now })
  else none

end EvmQoS

section StoreEffects

open ServiceState

inductive Kept (now : Time) (shown : Prop) : Option Endpoint → Option Endpoint → Prop
  | absent : Kept now shown none none
  | created {ep} : ep.checkArchival = ⟨false, none⟩ →
      (ep.lastSeen = none ∨ ep.lastSeen = some now ∧ shown) → Kept now shown none (some ep)
  | same {ep ep'} : ep'.checkArchival = ep.checkArchival →
      (ep'.lastSeen = ep.lastSeen ∨ ep'.lastSeen = some now ∧ shown) →
      Kept now shown (some ep) (some ep')

variable {now : Time} {shown : Prop} {p : EndpointAddr → Prop} {o o' o'' : Option Endpoint}
  {endpoints : GoMap EndpointAddr Endpoint} {addr : EndpointAddr} {ep : Endpoint}

theorem Kept.refl : ∀ o, Kept now shown o o
  | none => .absent
  | some _ => .same rfl (.inl rfl)

theorem Kept.mono {shown' : Prop} (hshown : shown → shown') (h : Kept now shown o o') :
    Kept now shown' o o' := by
  cases h with
  | absent => exact .absent
  | created harchival hseen => exact .created harchival (hseen.imp_right (And.imp_right hshown))
  | same harchival hseen => exact .same harchival (hseen.imp_right (And.imp_right hshown))

theorem Kept.trans (h : Kept now shown o o') (h' : Kept now shown o' o'') :
    Kept now shown o o'' := by
  cases h with
  | absent => exact h'
  | created hdefault hseen =>
    cases h' with
    | same hcheck hseen' =>
      exact .created (hcheck.trans hdefault) (hseen'.elim (fun heq => heq ▸ hseen) .inr)
  | same hcheck hseen =>
    cases h' with
    | same hcheck' hseen' =>
      exact .same (hcheck'.trans hcheck) (hseen'.elim (fun heq => heq ▸ hseen) .inr)

theorem kept_insert (h : Kept now (p addr) (endpoints.lookup addr) (some ep))
    (a : EndpointAddr) :
    Kept now (p a) (endpoints.lookup a) ((endpoints.insert addr ep).lookup a) := by
  rw [lookup_insert_eq]
  split_ifs with ha
  · rwa [ha]
  · exact .refl _

theorem kept_foldl {α : Type}
    (as : List α) (f : GoMap EndpointAddr Endpoint → α → GoMap EndpointAddr Endpoint)
    (hf : ∀ x ∈ as, ∀ endpoints a, Kept now (p a) (endpoints.lookup a) ((f endpoints x).lookup a))
    (a : EndpointAddr) : Kept now (p a) (endpoints.lookup a) ((as.foldl f endpoints).lookup a) := by
  induction as generalizing endpoints with
  | nil => exact .refl _
  | cons x xs ih =>
    obtain ⟨hx, hxs⟩ := forall_mem_cons.mp hf
    exact (hx endpoints a).trans (ih hxs)

theorem kept_storeHeights (heights : GoMap EndpointAddr ℕ) (a : EndpointAddr) :
    Kept now
      (a ∈ heights.keys) (endpoints.lookup a) ((storeHeights now endpoints heights).lookup a) := by
  refine kept_foldl (p := (· ∈ heights.keys)) _ _ (fun entry hentry endpoints a => ?_) a
  split
  · rename_i hnone
    exact kept_insert (hnone ▸ .created rfl (.inr ⟨rfl, mem_map_of_mem hentry⟩)) a
  · rename_i ep hep
    exact kept_insert (hep ▸ .same rfl (.inl rfl)) a

theorem kept_fillHeights (urlHeights : GoMap String ℕ) (a : EndpointAddr) :
    Kept now shown (endpoints.lookup a) ((fillHeights endpoints urlHeights).lookup a) := by
  refine kept_foldl (p := fun _ => shown) _ _ (fun addr _ endpoints a => ?_) a
  split
  · rename_i ep h hep hurl
    split
    · exact kept_insert (p := fun _ => shown) (hep ▸ .same rfl (.inl rfl)) a
    · exact .refl _
  · exact .refl _

theorem kept_syncEndpointBlocksFromRedis (ss : ServiceState)
    (heights : GoMap EndpointAddr ℕ) (a : EndpointAddr) :
    Kept now (a ∈ heights.keys) (ss.endpoints.lookup a)
      ((ss.syncEndpointBlocksFromRedis now heights).endpoints.lookup a) := by
  rw [syncEndpointBlocksFromRedis]
  split
  · exact .refl _
  · exact (kept_storeHeights heights a).trans (kept_fillHeights _ a)

theorem kept_touchEndpoints (ss : ServiceState) (addrs : List EndpointAddr) (a : EndpointAddr) :
    Kept now (a ∈ addrs) (ss.endpoints.lookup a)
    ((ss.touchEndpoints now addrs).endpoints.lookup a) := by
  refine kept_foldl (p := (· ∈ addrs)) _ _ (fun addr haddr endpoints a => ?_) a
  split
  · rename_i ep hep
    exact kept_insert (hep ▸ .same rfl (.inr ⟨rfl, haddr⟩)) a
  · exact .refl _

theorem lookup_sweepStaleEndpoints (ss : ServiceState) (ttl : ℕ) (a : EndpointAddr) :
    (ss.sweepStaleEndpoints now ttl).endpoints.lookup a = ss.endpoints.lookup a ∨
    ∃ ep lastSeen, ss.endpoints.lookup a = some ep ∧ ep.lastSeen = some lastSeen ∧
    lastSeen + ttl < now ∧ (ss.sweepStaleEndpoints now ttl).endpoints.lookup a = none := by
  rw [sweepStaleEndpoints, lookup_retain]
  cases ho : ss.endpoints.lookup a with
  | none => exact .inl rfl
  | some ep =>
    rw [filter_some]
    split_ifs with hstale
    · exact .inl rfl
    · cases hseen : ep.lastSeen with
      | none => simp [hseen] at hstale
      | some lastSeen => exact .inr ⟨ep, lastSeen, rfl, hseen, by simpa [hseen] using hstale, rfl⟩

theorem lookup_sweepStaleEndpoints_of_stale {ss : ServiceState} {ttl : ℕ} {lastSeen : Time}
    (hep : ss.endpoints.lookup addr = some ep) (hseen : ep.lastSeen = some lastSeen)
    (hstale : lastSeen + ttl < now) :
    (ss.sweepStaleEndpoints now ttl).endpoints.lookup addr = none := by
  rw [sweepStaleEndpoints, lookup_retain, hep, filter_some, if_neg]
  simpa [hseen] using hstale

theorem kept_of_applyObservation {obs : Observation} {ep' : Endpoint}
    (h : (o.getD {}).applyObservation now obs = some ep') : Kept now shown o (some ep') := by
  have hfields : ep'.checkArchival = (o.getD {}).checkArchival ∧
      ep'.lastSeen = (o.getD {}).lastSeen := by
    cases obs with
    | unrecognizedResponse =>
      rw [Endpoint.applyObservation] at h
      split at h <;> cases h <;> exact ⟨rfl, rfl⟩
    | unset => cases h
    | _ =>
      cases h
      exact ⟨rfl, rfl⟩
  cases o with
  | none => exact .created hfields.1 (.inl hfields.2)
  | some => exact .same hfields.1 (.inl hfields.2)

end StoreEffects

namespace EvmQoS

variable {cfg : QoSConfig} {s s' : EvmQoS} {e : Event}

def entry (s : EvmQoS) (key : String) : Option ArchivalCacheEntry :=
  s.service.archivalCache.bind (fun cache => cache.lookup key)

variable {now : Time}

variable {key : String} {addr : EndpointAddr} {data : ExtractedData}

theorem cachedTrue_iff : s.cachedTrue now key = true ↔
    ∃ entry, s.entry key = some entry ∧ entry.isArchival = true ∧ now ≤ entry.expiresAt := by
  rw [cachedTrue, entry]
  cases s.service.archivalCache with
  | none => simp
  | some =>
    rw [elim_some, decide_eq_true_iff, ArchivalCache.get, bind_eq_some_iff,
      bind_some]
    simp [and_comm]

theorem cachedArchival_eq (now : Time) (addr : EndpointAddr) :
    s.service.cachedArchival cfg.selection now addr =
      s.cachedTrue now (cfg.archivalKey addr).string :=
  rfl

theorem archivalKey_inj {a b : EndpointAddr}
    (h : (cfg.archivalKey a).string = (cfg.archivalKey b).string) : a = b := by
  rw [EndpointKey.string, EndpointKey.string, ← String.toList_inj] at h
  simp only [QoSConfig.archivalKey, String.toList_append, append_assoc,
    append_cancel_left_eq, append_cancel_right_eq] at h
  exact String.toList_inj.mp h

inductive StoreMove (e : Event) (addr : EndpointAddr) : Option Endpoint → Option Endpoint → Prop
  | kept {o o'} : Kept e.now (e.shows addr ∨ e.syncs addr) o o' →
      StoreMove e addr o o'
  | checked {o ep} (data : ExtractedData) :
      e.action = .updateFromExtractedData addr data → data.archivalCheckPerformed = true →
      ep.checkArchival = ⟨data.isArchival, some (e.now + archivalStatusTTL)⟩ →
      ep.lastSeen = (o.getD {}).lastSeen → StoreMove e addr o (some ep)
  | swept {ep} (lastSeen : Time) : e.action = .sweepStaleEndpoints →
      ep.lastSeen = some lastSeen → lastSeen + defaultEndpointTTL < e.now →
      StoreMove e addr (some ep) none

inductive CacheMove (cfg : QoSConfig) (s : EvmQoS) (e : Event) (key : String) :
    Option ArchivalCacheEntry → Option ArchivalCacheEntry → Prop
  | kept {o} : CacheMove cfg s e key o o
  | expired {entry} : e.action = .cleanup → entry.expiresAt < e.now →
      CacheMove cfg s e key (some entry) none
  | confirmed {o} (addr : EndpointAddr) (data : ExtractedData) :
      e.action = .updateFromExtractedData addr data → data.archivalCheckPerformed = true →
      data.isArchival = true → key = (cfg.archivalKey addr).string →
      CacheMove cfg s e key o (some ⟨true, e.now + archivalStatusTTL⟩)
  | refreshed {o} (k : EndpointKey) (ks : List EndpointKey) :
      e.action = .refreshNext → s.service.archivalCache.isSome = true →
      s.refreshing = k :: ks → key = k.string → s.cachedTrue e.now key = false →
      CacheMove cfg s e key o (some ⟨true, e.now + archivalStatusTTL⟩)

theorem step_eq_some (h : s.step cfg e = some s') : s.clock ≤ e.now ∧ s'.clock = e.now ∧
    ∃ u, s.act cfg e.now e.action = some u ∧ s' = { u with clock := e.now } := by
  rw [step, ite_none_right_eq_some, map_eq_some_iff] at h
  obtain ⟨hle, u, hu, rfl⟩ := h
  exact ⟨hle, rfl, u, hu, rfl⟩

theorem entry_setArchival_of_ne {k : String} (h : key ≠ k) :
    (s.setArchival now k).entry key = s.entry key := by
  rw [entry, entry, setArchival]
  cases s.service.archivalCache with
  | none => rfl
  | some => exact AList.lookup_insert_ne h

theorem entry_setArchival (h : s.service.archivalCache.isSome = true) :
    (s.setArchival now key).entry key = some ⟨true, now + archivalStatusTTL⟩ := by
  obtain ⟨cache, hcache⟩ := isSome_iff_exists.mp h
  rw [entry, setArchival, hcache]
  exact AList.lookup_insert _

theorem setArchival_of_none (h : s.service.archivalCache = none) : s.setArchival now key = s := by
  obtain ⟨⟨_, _, cache, _⟩, _, _, _, _, _⟩ := s
  cases h
  rfl

theorem entry_updateFromExtractedData :
    (s.updateFromExtractedData cfg now addr data).entry key =
      if data.archivalCheckPerformed = true ∧ data.isArchival = true then
      (s.setArchival now (cfg.archivalKey addr).string).entry key else s.entry key := by
  rw [updateFromExtractedData]
  by_cases hpos : data.archivalCheckPerformed = true ∧ data.isArchival = true
  · rw [if_pos hpos, if_pos (by simpa using hpos)]
    split <;> rfl
  · rw [if_neg hpos, if_neg (by simpa using hpos)]
    rfl

theorem endpoints_updateFromExtractedData :
    (s.updateFromExtractedData cfg now addr data).service.endpoints =
    s.service.endpoints.insert addr ((((s.service.endpoints.lookup addr).getD {}).updateBlockNumber
      data).updateArchival data now) := by
  rw [updateFromExtractedData]
  split
  · split <;> rfl
  · rfl

theorem storeMove_of_step (h : s.step cfg e = some s') (a : EndpointAddr) :
    StoreMove e a (s.service.endpoints.lookup a) (s'.service.endpoints.lookup a) := by
  obtain ⟨-, -, u, hu, rfl⟩ := step_eq_some h
  obtain ⟨now, action⟩ := e
  change StoreMove _ a _ (u.service.endpoints.lookup a)
  cases action with
  | updateFromExtractedData addr data =>
    cases hu
    rw [endpoints_updateFromExtractedData]
    by_cases ha : a = addr
    · subst ha
      rw [AList.lookup_insert]
      have hblock : ∀ ep : Endpoint, (ep.updateBlockNumber data).checkArchival = ep.checkArchival ∧
          (ep.updateBlockNumber data).lastSeen = ep.lastSeen := by
        intro ep
        rw [Endpoint.updateBlockNumber]
        split
        · exact ⟨rfl, rfl⟩
        · split <;> exact ⟨rfl, rfl⟩
      by_cases hcheck : data.archivalCheckPerformed = true
      · refine .checked data rfl hcheck ?_ ?_
        · rw [Endpoint.updateArchival, if_pos hcheck]
        · rw [Endpoint.updateArchival, if_pos hcheck]
          exact (hblock _).2
      · rw [Endpoint.updateArchival, if_neg hcheck]
        refine .kept ?_
        cases ho : s.service.endpoints.lookup a with
        | none => exact .created (hblock _).1 (.inl (hblock _).2)
        | some ep => exact .same (hblock ep).1 (.inl (hblock ep).2)
    · rw [AList.lookup_insert_ne ha]
      exact .kept (.refl _)
  | applyObservation addr obs =>
    cases hu
    refine .kept ?_
    rw [applyObservation]
    split
    · exact .refl _
    · rename_i ep hep
      exact kept_insert (p := fun a => Event.shows _ a ∨ Event.syncs _ a)
        (kept_of_applyObservation hep) a
  | syncEndpointBlocks heights =>
    cases hu
    exact .kept ((kept_syncEndpointBlocksFromRedis _ heights a).mono .inr)
  | touchEndpoints addrs =>
    cases hu
    exact .kept ((kept_touchEndpoints _ addrs a).mono .inl)
  | sweepStaleEndpoints =>
    cases hu
    rcases lookup_sweepStaleEndpoints s.service defaultEndpointTTL a with
      heq | ⟨ep, lastSeen, hep, hseen, hstale, hnone⟩
    · rw [heq]
      exact .kept (.refl _)
    · rw [hep, hnone]
      exact .swept lastSeen rfl hseen hstale
  | setPerceivedBlockNumber | cleanup =>
    cases hu
    exact .kept (.refl _)
  | recordArchival =>
    obtain ⟨addr, -, rfl⟩ := map_eq_some_iff.mp hu
    exact .kept (.refl _)
  | refreshList =>
    obtain ⟨-, hu⟩ := ite_none_right_eq_some.mp hu
    cases hu
    exact .kept (.refl _)
  | refreshNext =>
    rw [act, refreshNext] at hu
    split at hu
    · cases hu
    · split at hu <;> cases hu <;> exact .kept (.refl _)
  | reputation =>
    rw [act, reputationStep, ite_none_right_eq_some, map_eq_some_iff] at hu
    obtain ⟨-, reputation, -, rfl⟩ := hu
    exact .kept (.refl _)

theorem cacheMove_of_step (h : s.step cfg e = some s') (key : String) :
    CacheMove cfg s e key (s.entry key) (s'.entry key) := by
  obtain ⟨-, -, u, hu, rfl⟩ := step_eq_some h
  obtain ⟨now, action⟩ := e
  change CacheMove _ _ _ _ _ (u.entry key)
  -- a missing cache stays missing
  have hset : ∀ (s : EvmQoS) (k : String), (s.setArchival now k).entry key = s.entry key ∨
      key = k ∧ s.service.archivalCache.isSome = true ∧
        (s.setArchival now k).entry key = some ⟨true, now + archivalStatusTTL⟩ := by
    intro s k
    by_cases hk : key = k
    · cases hcache : s.service.archivalCache with
      | none => exact .inl (by rw [setArchival_of_none hcache])
      | some =>
        have hsome : s.service.archivalCache.isSome = true := by simp [hcache]
        exact .inr ⟨hk, hcache ▸ hsome, hk ▸ entry_setArchival hsome⟩
    · exact .inl (entry_setArchival_of_ne hk)
  cases action with
  | updateFromExtractedData addr data =>
    cases hu
    rw [entry_updateFromExtractedData]
    split_ifs with hpos
    · rcases hset s (cfg.archivalKey addr).string with heq | ⟨hk, -, heq⟩
      · rw [heq]
        exact .kept
      · rw [heq]
        exact .confirmed addr data rfl hpos.1 hpos.2 hk
    · exact .kept
  | applyObservation =>
    cases hu
    rw [applyObservation]
    split <;> exact .kept
  | syncEndpointBlocks =>
    cases hu
    rw [ServiceState.syncEndpointBlocksFromRedis]
    split <;> exact .kept
  | refreshNext =>
    rw [act, refreshNext] at hu
    split at hu
    · cases hu
    · rename_i k ks hkeys
      split_ifs at hu with hnot
      · cases hu
        exact .kept
      · cases hu
        change CacheMove _ _ _ _ _ ((s.setArchival now k.string).entry key)
        rcases hset s k.string with heq | ⟨hk, hsome, heq⟩
        · rw [heq]
          exact .kept
        · rw [heq]
          refine .refreshed k ks rfl hsome hkeys hk ?_
          rw [hk]
          exact Bool.eq_false_of_not_eq_true hnot
  | cleanup =>
    cases hu
    have hentry : (s.cleanup now).entry key =
        (s.entry key).filter (fun entry => !decide (entry.expiresAt < now)) := by
      rw [entry, entry, cleanup]
      cases s.service.archivalCache with
      | none => rfl
      | some => exact lookup_retain
    rw [hentry]
    cases ho : s.entry key with
    | none => exact .kept
    | some entry =>
      rw [filter_some]
      split_ifs with hexpired
      · exact .kept
      · exact .expired rfl (by simpa using hexpired)
  | recordArchival =>
    obtain ⟨addr, -, rfl⟩ := map_eq_some_iff.mp hu
    exact .kept
  | refreshList =>
    obtain ⟨-, hu⟩ := ite_none_right_eq_some.mp hu
    cases hu
    exact .kept
  | reputation =>
    rw [act, reputationStep, ite_none_right_eq_some, map_eq_some_iff] at hu
    obtain ⟨-, reputation, -, rfl⟩ := hu
    exact .kept
  | setPerceivedBlockNumber | sweepStaleEndpoints | touchEndpoints =>
    cases hu
    exact .kept

end EvmQoS

end Evm

end PathGateway
