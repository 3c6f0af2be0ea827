import PathGateway.BlockConsensus
import PathGateway.Machine

/-! A websocket bridge as it runs: the loop of the bridge, the read and ping loops of its
connections, and what other goroutines do to it. An event is one move of one of these. The channel
for messages has no buffer, so that a frame passes from a read loop to the bridge's loop only when
one of the two is blocked in its select and the other comes to its own. -/

namespace PathGateway.Websockets

open Duration Option

def reconnectMaxAttempts : ℕ := 5

def endpointStalenessThreshold : ℕ := 60 * second

def stalenessCheckInterval : ℕ := 15 * second

def maxConsecutiveStallRebinds : ℕ := 3

def maxConsecutiveSessionRebinds : ℕ := 3

inductive BridgeError where
  | contextCanceled
  | messageProcessingFailed
  | connectionFailed
  | endpointUnavailable
  | gatewayShuttingDown
  | idleTimeout
  deriving DecidableEq

inductive EndpointError where
  | stalled
  | tumbled
  | sessionExpired
  | network
  deriving DecidableEq

section CloseCodes

structure CloseInfo where
  code : ℕ
  text : String
  deriving DecidableEq

def closeNormalClosure : ℕ := 1000

def closeGoingAway : ℕ := 1001

def closeNoStatusReceived : ℕ := 1005

def closeAbnormalClosure : ℕ := 1006

def closeInternalServerErr : ℕ := 1011

def closeServiceRestart : ℕ := 1012

def closeTryAgainLater : ℕ := 1013

def closeTLSHandshake : ℕ := 1015

def endpointCloseCode (clientCode : ℕ) : ℕ :=
  if clientCode ∈ [closeInternalServerErr, closeServiceRestart, closeTryAgainLater] then
    closeGoingAway
  else clientCode

def sanitizeCloseCode (code : ℕ) : ℕ :=
  if code ∈ [closeNoStatusReceived, closeAbnormalClosure, closeTLSHandshake] then
    closeInternalServerErr
  else code

def BridgeError.closeInfo : BridgeError → CloseInfo
  | gatewayShuttingDown => ⟨closeServiceRestart, "gateway shutting down, please reconnect"⟩
  | contextCanceled => ⟨closeServiceRestart, "service restarting, please reconnect"⟩
  | endpointUnavailable =>
    ⟨closeServiceRestart, "endpoint temporarily unavailable, please reconnect"⟩
  | idleTimeout => ⟨closeNormalClosure, "idle: no subscription and no activity, closing"⟩
  | messageProcessingFailed => ⟨closeInternalServerErr, "message processing error occurred"⟩
  | connectionFailed => ⟨closeInternalServerErr, "connection error occurred"⟩

end CloseCodes

section Connections

inductive Reader (β : Type) where
  | reading
  | holding (frame : β)
  | parked (frame : β)
  | exited
  deriving DecidableEq

def Reader.isParked {β : Type} : Reader β → Bool
  | .parked _ => true
  | _ => false

def Reader.wake {β : Type} : Reader β → Reader β
  | .parked _ => .exited
  | reader => reader

structure Conn (β : Type) where
  canceled : Bool := false
  reader : Reader β := .reading
  pinging : Bool := true
  lastClose : CloseInfo := ⟨0, ""⟩
  disconnected : Bool := false
  deriving DecidableEq

inductive ConnAction (β : Type) where
  | read (frame : β)
  | park
  | leave
  | readFails (close : CloseInfo)
  | pingFails
  deriving DecidableEq

def ConnAction.disconnects {β : Type} : ConnAction β → Bool
  | .readFails _ | .pingFails => true
  | .read _ | .park | .leave => false

namespace Conn

variable {β : Type} (c : Conn β)

def cancel : Conn β := { c with canceled := true, reader := c.reader.wake }

def handleDisconnect (close : CloseInfo) : Conn β :=
  { c with lastClose := if close.code = 0 then c.lastClose else close, disconnected := true }

def step : ConnAction β → Option (Conn β)
  | .read frame =>
    match c.reader with
    | .reading => some { c with reader := .holding frame }
    | _ => none
  | .park =>
    match c.reader with
    | .holding frame => if c.canceled then none else some { c with reader := .parked frame }
    | _ => none
  | .leave =>
    match c.reader with
    | .holding _ => if c.canceled then some { c with reader := .exited } else none
    | _ => none
  | .readFails close =>
    match c.reader with
    | .reading => some ({ c with reader := .exited }.handleDisconnect close)
    | _ => none
  | .pingFails => if c.pinging then some ({ c with pinging := false }.handleDisconnect ⟨0, ""⟩)
    else none

variable {c} {c' : Conn β} {a : ConnAction β}

theorem reader_of_step (h : c.step a = some c') : c'.canceled = c.canceled ∧
    match a with
    | .read frame => c.reader = .reading ∧ c'.reader = .holding frame
    | .park => c.canceled = false ∧ ∃ frame, c.reader = .holding frame ∧ c'.reader = .parked frame
    | .leave | .readFails _ => c'.reader = .exited
    | .pingFails => c'.reader = c.reader := by
  cases a with
  | read frame | readFails close =>
    rw [step] at h
    split at h
    · cases h
      exact ⟨rfl, by first | rfl | exact ⟨‹_›, rfl⟩⟩
    · cases h
  | park =>
    rw [step] at h
    split at h
    · rename_i frame hreader
      obtain ⟨hcanceled, h⟩ := ite_none_left_eq_some.mp h
      cases h
      exact ⟨rfl, Bool.eq_false_iff.mpr hcanceled, frame, hreader, rfl⟩
    · cases h
  | leave =>
    rw [step] at h
    split at h
    · obtain ⟨-, h⟩ := ite_none_right_eq_some.mp h
      cases h
      exact ⟨rfl, rfl⟩
    · cases h
  | pingFails =>
    obtain ⟨-, h⟩ := ite_none_right_eq_some.mp h
    cases h
    exact ⟨rfl, rfl⟩

def Unblocked (c : Conn β) : Prop := c.canceled = true → c.reader.isParked = false

theorem unblocked_cancel : c.cancel.Unblocked := by
  intro _
  rw [cancel]
  cases hreader : c.reader <;> rfl

theorem unblocked_step (hc : c.Unblocked) (h : c.step a = some c') : c'.Unblocked := by
  obtain ⟨hcanceled, hreader⟩ := reader_of_step h
  intro hc'
  cases a with
  | read =>
    rw [hreader.2]
    rfl
  | park => exact absurd (hcanceled.symm.trans hc') (Bool.eq_false_iff.mp hreader.1)
  | leave | readFails close =>
    rw [hreader]
    rfl
  | pingFails =>
    rw [hreader]
    exact hc (hcanceled.symm.trans hc')

end Conn

end Connections

inductive Source where
  | client
  | endpoint (gen : ℕ)
  deriving DecidableEq

structure Message (β : Type) where
  data : β
  source : Source
  deriving DecidableEq

structure EndpointDisconnect where
  gen : ℕ
  err : EndpointError
  deriving DecidableEq

inductive Ticker where
  | staleness
  | sessionExpiry
  | idle
  deriving DecidableEq

inductive Stage where
  | leaving
  | checking (attempt : ℕ)
  | dialing (attempt : ℕ)
  | backingOff (attempt : ℕ)
  | connected
  deriving DecidableEq

structure Rebind where
  err : EndpointError
  delivering : Bool
  stage : Stage
  deriving DecidableEq

inductive Task (β : Type) where
  | message (msg : Message β)
  | endpointDown (down : EndpointDisconnect)
  | ticker (ticker : Ticker)
  | tumble
  | ctxDone
  deriving DecidableEq

inductive Phase (β : Type) where
  | selecting
  | handling (task : Task β)
  | rebinding (rebind : Rebind)
  | returned
  deriving DecidableEq

instance {β : Type} (phase : Phase β) : Decidable (phase = .selecting) :=
  match phase with
  | .selecting => .isTrue rfl
  | .handling _ | .rebinding _ | .returned => .isFalse (fun h => by cases h)

/-- What `shutdown` has sent. -/
structure Closing where
  err : BridgeError
  client : CloseInfo
  endpoint : Option CloseInfo
  rebind : Option Rebind
  deriving DecidableEq

structure Watch where
  lastEndpointDataAt : Time
  lastClientDataAt : Time
  consecutiveStallRebinds : ℕ := 0
  consecutiveSessionRebinds : ℕ := 0
  deriving DecidableEq

inductive Output where
  | forwarded
  | rebind (err : EndpointError)
  deriving DecidableEq

structure BridgeConfig where
  rebind : Bool
  sessionExpiryChecker : Bool
  idleConnectionThreshold : ℤ

def BridgeConfig.runs (cfg : BridgeConfig) : Ticker → Bool
  | .staleness => cfg.rebind
  | .sessionExpiry => cfg.rebind && cfg.sessionExpiryChecker
  | .idle => cfg.rebind && decide (0 < cfg.idleConnectionThreshold)

structure RunningBridge (β : Type) where
  ctxDone : Bool := false
  client : Conn β := {}
  conn : ℕ → Conn β := fun _ => {}
  endpointGen : ℕ := 0
  endpointConn : Bool := true
  endpointDown : Option EndpointDisconnect := none
  tumble : Bool := false
  ticks : Ticker → Bool := fun _ => false
  phase : Phase β := .selecting
  closing : Option Closing := none
  watch : Watch
  log : List Output := []

inductive Processed where
  | failed
  | swallowed
  | frame
  deriving DecidableEq

inductive Replayed where
  | buildFails
  | writeFails
  | written
  deriving DecidableEq

structure Answers where
  clientProcessed : Bool := true
  endpointProcessed : Processed := .frame
  written : Bool := true
  hasActiveSubscriptions : Bool := false
  boundSessionExpired : Bool := false
  reconnected : Bool := true
  backoffElapsed : Bool := true
  replayed : Replayed := .written
  deriving DecidableEq

inductive SelectCase where
  | message (src : Source)
  | endpointDown
  | ticker (ticker : Ticker)
  | tumble
  | ctxDone
  deriving DecidableEq

inductive Action (β : Type) where
  | conn (src : Source) (a : ConnAction β)
  | offer (src : Source)
  | tick (ticker : Ticker)
  | tumble
  | close
  | cancelParent
  | take (c : SelectCase)
  | proceed (a : Answers)
  | panics
  deriving DecidableEq

structure Move (β : Type) where
  now : Time
  action : Action β
  deriving DecidableEq

namespace RunningBridge

variable {β : Type}

def start (now : Time) : RunningBridge β := { watch := ⟨now, now, 0, 0⟩ }

variable (cfg : BridgeConfig) (s : RunningBridge β)

section Operations

def getConn : Source → Conn β
  | .client => s.client
  | .endpoint g => s.conn g

def setConn (c : Conn β) : Source → RunningBridge β
  | .client => { s with client := c }
  | .endpoint g => { s with conn := Function.update s.conn g c }

def Made : Source → Prop
  | .client => True
  | .endpoint g => g ≤ s.endpointGen

instance : DecidablePred s.Made
  | .client => .isTrue trivial
  | .endpoint g => inferInstanceAs (Decidable (g ≤ s.endpointGen))

def cancelCtx : RunningBridge β :=
  { s with
    ctxDone := true
    client := s.client.cancel
    conn := fun g => (s.conn g).cancel }

def endpointDisconnectFunc (gen : ℕ) : RunningBridge β :=
  { s with endpointDown := some (s.endpointDown.getD ⟨gen, .network⟩) }

def onDisconnect : Source → RunningBridge β
  | .client => s.cancelCtx
  | .endpoint g => if cfg.rebind then s.endpointDisconnectFunc g else s.cancelCtx

def determineCloseCodeAndMessage (err : BridgeError) : CloseInfo :=
  if s.endpointConn ∧ (s.conn s.endpointGen).lastClose.code ≠ 0 then
    (s.conn s.endpointGen).lastClose
  else if s.client.lastClose.code ≠ 0 then s.client.lastClose
  else err.closeInfo

def shutdown (err : BridgeError) (rebind : Option Rebind) : RunningBridge β :=
  match s.closing with
  | some _ => s
  | none =>
    let close := s.determineCloseCodeAndMessage err
    let code := sanitizeCloseCode close.code
    { s.cancelCtx with
      closing := some {
        err := err
        client := ⟨code, close.text⟩
        endpoint := if s.endpointConn then some ⟨endpointCloseCode code, close.text⟩ else none
        rebind := if s.ctxDone then none else rebind } }

def resume : RunningBridge β := { s with phase := .selecting }

def recover (rebind : Option Rebind) : RunningBridge β :=
  { s with phase := .returned }.shutdown .connectionFailed rebind

end Operations

section Handlers

variable (now : Time) (a : Answers)

def delivering : Bool :=
  s.endpointConn && !(s.conn s.endpointGen).disconnected &&
    decide (now - s.watch.lastEndpointDataAt < endpointStalenessThreshold)

def handleEndpointDown (down : EndpointDisconnect) (delivering : Bool) : RunningBridge β :=
  if down.gen ≠ s.endpointGen then s.resume
  else if s.ctxDone then s.resume.shutdown .contextCanceled none
  else { s with
    phase := .rebinding ⟨down.err, delivering, .leaving⟩
    log := .rebind down.err :: s.log }

def handleClientMessage : RunningBridge β :=
  let s := { s with phase := .selecting, watch := { s.watch with lastClientDataAt := now } }
  if a.clientProcessed = false then s.shutdown .messageProcessingFailed none
  -- Writing to a nil connection is a panic.
  else if s.endpointConn = false then s.recover none
  else if a.written then s
  else s.shutdown .connectionFailed none

def handleEndpointMessage : RunningBridge β :=
  match a.endpointProcessed with
  | .failed => s.resume.shutdown .messageProcessingFailed none
  | .swallowed => s.resume
  | .frame =>
    let s := { s with
      phase := .selecting
      watch := { s.watch with lastEndpointDataAt := now, consecutiveStallRebinds := 0 } }
    if a.written then { s with log := .forwarded :: s.log }
    else s.shutdown .connectionFailed none

def checkEndpointStaleness : RunningBridge β :=
  if cfg.rebind = false ∨ a.hasActiveSubscriptions = false then s.resume
  else if now - s.watch.lastEndpointDataAt < endpointStalenessThreshold then s.resume
  else if maxConsecutiveStallRebinds ≤ s.watch.consecutiveStallRebinds then
    s.resume.shutdown .endpointUnavailable none
  else
    { s with watch := { s.watch with
        consecutiveStallRebinds := s.watch.consecutiveStallRebinds + 1
        lastEndpointDataAt := now } }.handleEndpointDown ⟨s.endpointGen, .stalled⟩
      (s.delivering now)

def checkIdleConnection : RunningBridge β :=
  if cfg.rebind = false ∨ a.hasActiveSubscriptions = true then s.resume
  else if (now : ℤ) - s.watch.lastClientDataAt < cfg.idleConnectionThreshold then s.resume
  else s.resume.shutdown .idleTimeout none

def checkBoundSessionExpiry : RunningBridge β :=
  if (cfg.rebind && cfg.sessionExpiryChecker) = false then s.resume
  else if a.boundSessionExpired = false then
    { s with phase := .selecting, watch := { s.watch with consecutiveSessionRebinds := 0 } }
  else if maxConsecutiveSessionRebinds ≤ s.watch.consecutiveSessionRebinds then s.resume
  else
    { s with watch := { s.watch with
        consecutiveSessionRebinds := s.watch.consecutiveSessionRebinds + 1 } }.handleEndpointDown
      ⟨s.endpointGen, .sessionExpired⟩ (s.delivering now)

def handleAdminTumble : RunningBridge β :=
  if cfg.rebind = false then s.resume
  else
    { s with watch := { s.watch with lastEndpointDataAt := now } }.handleEndpointDown
      ⟨s.endpointGen, .tumbled⟩ (s.delivering now)

def handle : Task β → RunningBridge β
  | .message ⟨_, .client⟩ => s.handleClientMessage now a
  | .message ⟨_, .endpoint _⟩ => s.handleEndpointMessage now a
  | .endpointDown down => s.handleEndpointDown down (s.delivering now)
  | .ticker .staleness => s.checkEndpointStaleness cfg now a
  | .ticker .sessionExpiry => s.checkBoundSessionExpiry cfg now a
  | .ticker .idle => s.checkIdleConnection cfg now a
  | .tumble => s.handleAdminTumble cfg now
  | .ctxDone => { s with phase := .returned }.shutdown .contextCanceled none

end Handlers

section Rebinding

def enter (r : Rebind) (stage : Stage) : RunningBridge β :=
  { s with phase := .rebinding { r with stage := stage } }

def closeEndpointConn (r : Rebind) : RunningBridge β :=
  { (s.setConn (s.conn s.endpointGen).cancel (.endpoint s.endpointGen)).enter r (.checking 1) with
    endpointConn := false }

def failRebind (r : Rebind) : RunningBridge β :=
  s.resume.shutdown .endpointUnavailable (some r)

def install (now : Time) : RunningBridge β :=
  { s with
    endpointGen := s.endpointGen + 1
    conn := Function.update s.conn (s.endpointGen + 1) { canceled := s.ctxDone }
    endpointConn := true
    watch := { s.watch with lastEndpointDataAt := now }
    phase := .selecting }

def rebindStep (now : Time) (a : Answers) (r : Rebind) : Option (RunningBridge β) :=
  match r.stage with
  | .leaving => some (s.closeEndpointConn r)
  | .checking n => some (if s.ctxDone then s.failRebind r else s.enter r (.dialing n))
  | .dialing n =>
    if a.reconnected then some (s.enter r .connected)
    else if n = reconnectMaxAttempts then some (s.failRebind r)
    else some (s.enter r (.backingOff n))
  | .backingOff n =>
    if a.backoffElapsed then some (s.enter r (.checking (n + 1)))
    else if s.ctxDone then some (s.failRebind r)
    else none
  | .connected =>
    match a.replayed with
    | .buildFails | .writeFails => some (s.failRebind r)
    | .written => some (s.install now)

end Rebinding

section Steps

/-- No case of the select is ready, so that the loop may be blocked there. -/
structure Idle : Prop where
  ctxDone : s.ctxDone = false
  endpointDown : s.endpointDown = none
  tumble : s.tumble = false
  ticks : ∀ t, s.ticks t = false
  client : s.client.reader.isParked = false
  conn : ∀ g ≤ s.endpointGen, (s.conn g).reader.isParked = false

instance : Decidable s.Idle :=
  decidable_of_iff (s.ctxDone = false ∧ s.endpointDown = none ∧ s.tumble = false ∧
      (s.ticks .staleness = false ∧ s.ticks .sessionExpiry = false ∧ s.ticks .idle = false) ∧
      s.client.reader.isParked = false ∧ ∀ g ≤ s.endpointGen, (s.conn g).reader.isParked = false)
    ⟨fun ⟨hctx, hdown, htumble, hticks, hclient, hconn⟩ =>
        ⟨hctx, hdown, htumble, fun t => by
          cases t with
          | staleness => exact hticks.1
          | sessionExpiry => exact hticks.2.1
          | idle => exact hticks.2.2, hclient, hconn⟩,
      fun h => ⟨h.ctxDone, h.endpointDown, h.tumble, ⟨h.ticks _, h.ticks _, h.ticks _⟩,
        h.client, h.conn⟩⟩

/-- The loop gets the frame of a read loop, which goes on to read the next one. -/
def receive (src : Source) (frame : β) : RunningBridge β :=
  { s.setConn { s.getConn src with reader := .reading } src with
    phase := .handling (.message ⟨frame, src⟩) }

def connStep (src : Source) (a : ConnAction β) : Option (RunningBridge β) :=
  if s.Made src then
    ((s.getConn src).step a).map (fun c =>
      if a.disconnects then (s.setConn c src).onDisconnect cfg src else s.setConn c src)
  else none

def offer (src : Source) : Option (RunningBridge β) :=
  if s.phase = .selecting ∧ s.Idle ∧ s.Made src then
    match (s.getConn src).reader with
    | .holding frame => some (s.receive src frame)
    | _ => none
  else none

def takeCase : SelectCase → Option (RunningBridge β)
  | .message src =>
    if s.Made src then
      match (s.getConn src).reader with
      | .parked frame => some (s.receive src frame)
      | _ => none
    else none
  | .endpointDown => s.endpointDown.map (fun down =>
      { s with endpointDown := none, phase := .handling (.endpointDown down) })
  | .ticker t =>
    if s.ticks t then
      some { s with ticks := Function.update s.ticks t false, phase := .handling (.ticker t) }
    else none
  | .tumble =>
    if s.tumble then some { s with tumble := false, phase := .handling .tumble } else none
  | .ctxDone => if s.ctxDone then some { s with phase := .handling .ctxDone } else none

def proceed (now : Time) (a : Answers) : Option (RunningBridge β) :=
  match s.phase with
  | .selecting | .returned => none
  | .handling task => some (s.handle cfg now a task)
  | .rebinding r => s.rebindStep now a r

def panics : Option (RunningBridge β) :=
  match s.phase with
  | .selecting | .returned => none
  | .handling _ => some (s.recover none)
  | .rebinding r => some (s.recover (some r))

def step (e : Move β) : Option (RunningBridge β) :=
  match e.action with
  | .conn src a => s.connStep cfg src a
  | .offer src => s.offer src
  | .tick t => if cfg.runs t then some { s with ticks := Function.update s.ticks t true } else none
  | .tumble => if cfg.rebind then some { s with tumble := true } else none
  | .close => some (s.shutdown .gatewayShuttingDown none)
  | .cancelParent => some s.cancelCtx
  | .take c => if s.phase = .selecting then s.takeCase c else none
  | .proceed a => s.proceed cfg e.now a
  | .panics => s.panics

end Steps

end RunningBridge

end PathGateway.Websockets
