import PathGateway.RunningBridge

/-! What each event does to a running bridge, and how the contexts of its connections hang
together: a read loop with a cancelled context is never blocked in its select, and a bridge that
is shut down has cancelled all of them. -/

namespace PathGateway.Websockets.RunningBridge

open Function Option

variable {β : Type} (cfg : BridgeConfig) (s : RunningBridge β)

variable {frame : β}

section Fields

variable {cfg s} {src : Source} {c : Conn β} {err : BridgeError} {rebind : Option Rebind}

@[simp] theorem getConn_setConn_self : (s.setConn c src).getConn src = c := by
  cases src with
  | client => rfl
  | endpoint g => exact update_self g c s.conn

theorem getConn_setConn_of_ne {src' : Source} (hne : src' ≠ src) :
    (s.setConn c src).getConn src' = s.getConn src' := by
  cases src with
  | client =>
    cases src' with
    | client => exact absurd rfl hne
    | endpoint => rfl
  | endpoint =>
    cases src' with
    | client => rfl
    | endpoint => exact update_of_ne (fun heq => hne (congrArg _ heq)) c s.conn

@[simp] theorem setConn_ctxDone : (s.setConn c src).ctxDone = s.ctxDone := by
  cases src <;> rfl

@[simp] theorem setConn_endpointGen : (s.setConn c src).endpointGen = s.endpointGen := by
  cases src <;> rfl

@[simp] theorem setConn_endpointConn : (s.setConn c src).endpointConn = s.endpointConn := by
  cases src <;> rfl

@[simp] theorem setConn_endpointDown : (s.setConn c src).endpointDown = s.endpointDown := by
  cases src <;> rfl

@[simp] theorem setConn_phase : (s.setConn c src).phase = s.phase := by
  cases src <;> rfl

@[simp] theorem setConn_closing : (s.setConn c src).closing = s.closing := by
  cases src <;> rfl

@[simp] theorem setConn_watch : (s.setConn c src).watch = s.watch := by
  cases src <;> rfl

@[simp] theorem setConn_log : (s.setConn c src).log = s.log := by
  cases src <;> rfl

@[simp] theorem receive_endpointGen : (s.receive src frame).endpointGen = s.endpointGen :=
  setConn_endpointGen

@[simp] theorem receive_endpointConn : (s.receive src frame).endpointConn = s.endpointConn :=
  setConn_endpointConn

@[simp] theorem receive_endpointDown : (s.receive src frame).endpointDown = s.endpointDown :=
  setConn_endpointDown

@[simp] theorem receive_closing : (s.receive src frame).closing = s.closing :=
  setConn_closing

@[simp] theorem getConn_cancelCtx : s.cancelCtx.getConn src = (s.getConn src).cancel := by
  cases src <;> rfl

@[simp] theorem getConn_endpointDisconnectFunc {g : ℕ} :
    (s.endpointDisconnectFunc g).getConn src = s.getConn src := by
  cases src <;> rfl

theorem onDisconnect_cases (cfg : BridgeConfig) (s : RunningBridge β) (src : Source) :
    s.onDisconnect cfg src = s.cancelCtx ∨ ∃ g, src = .endpoint g ∧
    s.onDisconnect cfg src = s.endpointDisconnectFunc g := by
  cases src with
  | client => exact .inl rfl
  | endpoint g =>
    rw [onDisconnect]
    split
    · exact .inr ⟨g, rfl, rfl⟩
    · exact .inl rfl

@[simp] theorem onDisconnect_endpointGen :
    (s.onDisconnect cfg src).endpointGen = s.endpointGen := by
  rcases onDisconnect_cases cfg s src with h | ⟨g, -, h⟩ <;> rw [h] <;> rfl

@[simp] theorem onDisconnect_endpointConn :
    (s.onDisconnect cfg src).endpointConn = s.endpointConn := by
  rcases onDisconnect_cases cfg s src with h | ⟨g, -, h⟩ <;> rw [h] <;> rfl

@[simp] theorem onDisconnect_phase : (s.onDisconnect cfg src).phase = s.phase := by
  rcases onDisconnect_cases cfg s src with h | ⟨g, -, h⟩ <;> rw [h] <;> rfl

@[simp] theorem onDisconnect_closing : (s.onDisconnect cfg src).closing = s.closing := by
  rcases onDisconnect_cases cfg s src with h | ⟨g, -, h⟩ <;> rw [h] <;> rfl

@[simp] theorem onDisconnect_watch : (s.onDisconnect cfg src).watch = s.watch := by
  rcases onDisconnect_cases cfg s src with h | ⟨g, -, h⟩ <;> rw [h] <;> rfl

@[simp] theorem onDisconnect_log : (s.onDisconnect cfg src).log = s.log := by
  rcases onDisconnect_cases cfg s src with h | ⟨g, -, h⟩ <;> rw [h] <;> rfl

theorem ctxDone_onDisconnect (h : s.ctxDone = true) : (s.onDisconnect cfg src).ctxDone = true := by
  rcases onDisconnect_cases cfg s src with heq | ⟨g, -, heq⟩ <;> rw [heq]
  · rfl
  · exact h

theorem shutdown_cases (s : RunningBridge β) (err : BridgeError) (rebind : Option Rebind) :
    s.closing.isSome = true ∧ s.shutdown err rebind = s ∨ s.closing = none ∧
    ∃ closing : Closing, closing.err = err ∧ closing.rebind = (if s.ctxDone then none else rebind) ∧
    s.shutdown err rebind = { s.cancelCtx with closing := some closing } := by
  rw [shutdown]
  cases s.closing with
  | some => exact .inl ⟨rfl, rfl⟩
  | none => exact .inr ⟨rfl, _, rfl, rfl, rfl⟩

@[simp] theorem shutdown_closing : (s.shutdown err rebind).closing.isSome = true := by
  rcases shutdown_cases s err rebind with ⟨hclosing, heq⟩ | ⟨-, closing, -, -, heq⟩
  · rw [heq]
    exact hclosing
  · rw [heq]
    rfl

@[simp] theorem shutdown_phase : (s.shutdown err rebind).phase = s.phase := by
  rw [shutdown]
  cases s.closing <;> rfl

@[simp] theorem shutdown_endpointGen : (s.shutdown err rebind).endpointGen = s.endpointGen := by
  rw [shutdown]
  cases s.closing <;> rfl

@[simp] theorem shutdown_endpointConn : (s.shutdown err rebind).endpointConn = s.endpointConn := by
  rw [shutdown]
  cases s.closing <;> rfl

@[simp] theorem shutdown_endpointDown : (s.shutdown err rebind).endpointDown = s.endpointDown := by
  rw [shutdown]
  cases s.closing <;> rfl

@[simp] theorem shutdown_watch : (s.shutdown err rebind).watch = s.watch := by
  rw [shutdown]
  cases s.closing <;> rfl

@[simp] theorem shutdown_log : (s.shutdown err rebind).log = s.log := by
  rw [shutdown]
  cases s.closing <;> rfl

end Fields

section Moves

def failsWith (a : Answers) : Stage → Bool
  | .dialing n => !a.reconnected && decide (n = reconnectMaxAttempts)
  | .connected => decide (a.replayed ≠ .written)
  | .leaving | .checking _ | .backingOff _ => false

/-- What sets the clock of the endpoint's data, a new connection aside. -/
def SetsClock (cfg : BridgeConfig) (s : RunningBridge β) (now : Time) (a : Answers) : Task β → Prop
  | .message ⟨_, .endpoint _⟩ => a.endpointProcessed = .frame
  | .ticker .staleness => cfg.rebind = true ∧ a.hasActiveSubscriptions = true ∧
    endpointStalenessThreshold ≤ now - s.watch.lastEndpointDataAt
  | .tumble => True
  | _ => False

def Clocked (cfg : BridgeConfig) (s : RunningBridge β) (now : Time) (a : Answers) (task : Task β)
    (watch : Watch) : Prop :=
  watch.lastEndpointDataAt = s.watch.lastEndpointDataAt ∨
    watch.lastEndpointDataAt = now ∧ SetsClock cfg s now a task

/-- A rebind that the loop itself asks for is of the current connection, and counted if for a
stall. -/
def Strikes (s : RunningBridge β) (task : Task β) (down : EndpointDisconnect) (watch : Watch) :
    Prop :=
  task = .endpointDown down ∧ watch = s.watch ∨ down.gen = s.endpointGen ∧
    watch.consecutiveStallRebinds =
      s.watch.consecutiveStallRebinds + (if down.err = .stalled then 1 else 0) ∧
    (down.err = .stalled → s.watch.consecutiveStallRebinds < maxConsecutiveStallRebinds)

inductive Moves (cfg : BridgeConfig) (s : RunningBridge β) : Move β → RunningBridge β → Prop
  | conn {now src a c} (hmade : s.Made src) (hstep : (s.getConn src).step a = some c)
      (hquiet : a.disconnects = false) : Moves cfg s ⟨now, .conn src a⟩ (s.setConn c src)
  | disconnect {now src a c} (hmade : s.Made src) (hstep : (s.getConn src).step a = some c)
      (hloud : a.disconnects = true) :
      Moves cfg s ⟨now, .conn src a⟩ ((s.setConn c src).onDisconnect cfg src)
  | offer {now src frame} (hphase : s.phase = .selecting) (hidle : s.Idle) (hmade : s.Made src)
      (hreader : (s.getConn src).reader = .holding frame) :
      Moves cfg s ⟨now, .offer src⟩ (s.receive src frame)
  | tick {now t} : Moves cfg s ⟨now, .tick t⟩ { s with ticks := Function.update s.ticks t true }
  | tumble {now} : Moves cfg s ⟨now, .tumble⟩ { s with tumble := true }
  | close {now} : Moves cfg s ⟨now, .close⟩ (s.shutdown .gatewayShuttingDown none)
  | cancelParent {now} : Moves cfg s ⟨now, .cancelParent⟩ s.cancelCtx
  | takeMessage {now src frame} (hphase : s.phase = .selecting) (hmade : s.Made src)
      (hreader : (s.getConn src).reader = .parked frame) :
      Moves cfg s ⟨now, .take (.message src)⟩ (s.receive src frame)
  | takeEndpointDown {now down} (hphase : s.phase = .selecting)
      (hdown : s.endpointDown = some down) : Moves cfg s ⟨now, .take .endpointDown⟩
        { s with endpointDown := none, phase := .handling (.endpointDown down) }
  | takeTicker {now t} (hphase : s.phase = .selecting) : Moves cfg s ⟨now, .take (.ticker t)⟩
        { s with ticks := Function.update s.ticks t false, phase := .handling (.ticker t) }
  | takeTumble {now} (hphase : s.phase = .selecting) : Moves cfg s ⟨now, .take .tumble⟩
        { s with tumble := false, phase := .handling .tumble }
  | takeCtxDone {now} (hphase : s.phase = .selecting) (hctx : s.ctxDone = true) :
      Moves cfg s ⟨now, .take .ctxDone⟩ { s with phase := .handling .ctxDone }
  | resume {now a task watch log} (hphase : s.phase = .handling task)
      (hstale : ∀ down, task = .endpointDown down → down.gen ≠ s.endpointGen)
      (hclock : Clocked cfg s now a task watch) (hlog : log = s.log ∧
        watch.consecutiveStallRebinds = s.watch.consecutiveStallRebinds ∨
        log = .forwarded :: s.log ∧ watch.consecutiveStallRebinds = 0) :
      Moves cfg s ⟨now, .proceed a⟩ { s with phase := .selecting, watch := watch, log := log }
  | shut {now a task phase watch err} (hphase : s.phase = .handling task)
      (hend : phase = .selecting ∨ phase = .returned) (hclock : Clocked cfg s now a task watch) :
      Moves cfg s ⟨now, .proceed a⟩
        ({ s with phase := phase, watch := watch }.shutdown err none)
  | rebind {now a task watch down delivering} (hphase : s.phase = .handling task)
      (hctx : s.ctxDone = false) (hclock : Clocked cfg s now a task watch)
      (hstrikes : s.Strikes task down watch) : Moves cfg s ⟨now, .proceed a⟩
        { s with
          phase := .rebinding ⟨down.err, delivering, .leaving⟩
          watch := watch
          log := .rebind down.err :: s.log }
  | leave {now a r} (hphase : s.phase = .rebinding r) (hstage : r.stage = .leaving) :
      Moves cfg s ⟨now, .proceed a⟩ (s.closeEndpointConn r)
  | enter {now a r stage} (hphase : s.phase = .rebinding r) (hstage : r.stage ≠ .leaving)
      (hnext : stage ≠ .leaving) (hgoes : failsWith a r.stage = false) :
      Moves cfg s ⟨now, .proceed a⟩ (s.enter r stage)
  | fail {now a r} (hphase : s.phase = .rebinding r) (hstage : r.stage ≠ .leaving)
      (hfails : s.ctxDone = true ∨ failsWith a r.stage = true) :
      Moves cfg s ⟨now, .proceed a⟩ (s.failRebind r)
  | install {now a r} (hphase : s.phase = .rebinding r) (hstage : r.stage = .connected)
      (hreplayed : a.replayed = .written) : Moves cfg s ⟨now, .proceed a⟩ (s.install now)
  | panics {now rebind} (hphase : (∃ task, s.phase = .handling task ∧ rebind = none) ∨
        ∃ r, s.phase = .rebinding r ∧ rebind = some r) :
      Moves cfg s ⟨now, .panics⟩ (s.recover rebind)

variable {cfg s} {s' : RunningBridge β} {now : Time} {a : Answers} {task : Task β} {r : Rebind}

theorem moves_handleEndpointDown {down : EndpointDisconnect}
    {delivering : Bool} {watch : Watch} (hphase : s.phase = .handling task)
    (hclock : Clocked cfg s now a task watch) (hstrikes : s.Strikes task down watch) :
    Moves cfg s ⟨now, .proceed a⟩
      ({ s with watch := watch }.handleEndpointDown down delivering) := by
  rw [handleEndpointDown]
  dsimp only
  split
  · rename_i hgen
    obtain ⟨htask, rfl⟩ := hstrikes.resolve_right fun h => hgen h.1
    refine .resume hphase (fun d hd => ?_) hclock (.inl ⟨rfl, rfl⟩)
    cases htask.symm.trans hd
    exact hgen
  · split_ifs with hctx
    · exact .shut hphase (.inl rfl) hclock
    · exact .rebind hphase (Bool.eq_false_iff.mpr hctx) hclock hstrikes

theorem moves_handle (hphase : s.phase = .handling task) :
    Moves cfg s ⟨now, .proceed a⟩ (s.handle cfg now a task) := by
  cases task with
  | message msg =>
    obtain ⟨data, src⟩ := msg
    cases src with
    | client =>
      rw [handle, handleClientMessage]
      dsimp only
      split
      · exact .shut hphase (.inl rfl) (.inl rfl)
      · split
        · exact .shut hphase (.inr rfl) (.inl rfl)
        · split
          · exact .resume hphase (by simp) (.inl rfl) (.inl ⟨rfl, rfl⟩)
          · exact .shut hphase (.inl rfl) (.inl rfl)
    | endpoint =>
      rw [handle, handleEndpointMessage]
      cases hprocessed : a.endpointProcessed with
      | failed => exact .shut hphase (.inl rfl) (.inl rfl)
      | swallowed => exact .resume hphase (by simp) (.inl rfl) (.inl ⟨rfl, rfl⟩)
      | frame =>
        dsimp only
        split
        · exact .resume hphase (by simp) (.inr ⟨rfl, hprocessed⟩) (.inr ⟨rfl, rfl⟩)
        · exact .shut hphase (.inl rfl) (.inr ⟨rfl, hprocessed⟩)
  | endpointDown => exact moves_handleEndpointDown hphase (.inl rfl) (.inl ⟨rfl, rfl⟩)
  | ticker t =>
    have hquiet {watch : Watch} (hclock : watch.lastEndpointDataAt = s.watch.lastEndpointDataAt)
        (hcount : watch.consecutiveStallRebinds = s.watch.consecutiveStallRebinds) :
        Moves cfg s ⟨now, .proceed a⟩ { s with phase := .selecting, watch := watch } :=
      .resume hphase (by simp) (.inl hclock) (.inl ⟨rfl, hcount⟩)
    cases t with
    | staleness =>
      rw [handle, checkEndpointStaleness]
      split_ifs with hoff hfresh hfull
      · exact hquiet rfl rfl
      · exact hquiet rfl rfl
      · exact .shut hphase (.inl rfl) (.inl rfl)
      · simp only [not_or, Bool.not_eq_false] at hoff
        exact moves_handleEndpointDown hphase
          (.inr ⟨rfl, hoff.1, hoff.2, Nat.not_lt.mp hfresh⟩)
          (.inr ⟨rfl, rfl, fun _ => Nat.not_le.mp hfull⟩)
    | sessionExpiry =>
      rw [handle, checkBoundSessionExpiry]
      split_ifs
      · exact hquiet rfl rfl
      · exact hquiet rfl rfl
      · exact hquiet rfl rfl
      · exact moves_handleEndpointDown hphase (.inl rfl) (.inr ⟨rfl, rfl, by simp⟩)
    | idle =>
      rw [handle, checkIdleConnection]
      split_ifs
      · exact hquiet rfl rfl
      · exact hquiet rfl rfl
      · exact .shut hphase (.inl rfl) (.inl rfl)
  | tumble =>
    rw [handle, handleAdminTumble]
    split
    · exact .resume hphase (by simp) (.inl rfl) (.inl ⟨rfl, rfl⟩)
    · exact moves_handleEndpointDown hphase (.inr ⟨rfl, trivial⟩) (.inr ⟨rfl, rfl, by simp⟩)
  | ctxDone => exact .shut hphase (.inr rfl) (.inl rfl)

theorem moves_rebindStep (hphase : s.phase = .rebinding r)
    (h : s.rebindStep now a r = some s') : Moves cfg s ⟨now, .proceed a⟩ s' := by
  rw [rebindStep] at h
  cases hstage : r.stage with
  | leaving =>
    rw [hstage] at h
    cases h
    exact .leave hphase hstage
  | checking =>
    rw [hstage] at h
    cases h
    split_ifs with hctx
    · exact .fail hphase (by simp [hstage]) (.inl hctx)
    · exact .enter hphase (by simp [hstage]) (by simp) (by simp [hstage, failsWith])
  | dialing =>
    rw [hstage] at h
    dsimp only at h
    split_ifs at h with hdialed hlast
    all_goals cases h
    · exact .enter hphase (by simp [hstage]) (by simp) (by simp [hstage, failsWith, hdialed])
    · exact .fail hphase (by simp [hstage]) (.inr (by simp [hstage, failsWith, hdialed, hlast]))
    · exact .enter hphase (by simp [hstage]) (by simp) (by simp [hstage, failsWith, hlast])
  | backingOff =>
    rw [hstage] at h
    dsimp only at h
    split_ifs at h with helapsed hctx
    all_goals cases h
    · exact .enter hphase (by simp [hstage]) (by simp) (by simp [hstage, failsWith])
    · exact .fail hphase (by simp [hstage]) (.inl hctx)
  | connected =>
    rw [hstage] at h
    cases hreplayed : a.replayed with
    | buildFails | writeFails =>
      rw [hreplayed] at h
      cases h
      exact .fail hphase (by simp [hstage]) (.inr (by simp [hstage, failsWith, hreplayed]))
    | written =>
      rw [hreplayed] at h
      cases h
      exact .install hphase hstage hreplayed

theorem moves_takeCase {c : SelectCase} (hphase : s.phase = .selecting)
    (h : s.takeCase c = some s') : Moves cfg s ⟨now, .take c⟩ s' := by
  cases c with
  | message src =>
    obtain ⟨hmade, h⟩ := ite_none_right_eq_some.mp h
    split at h
    · rename_i frame hreader
      cases h
      exact .takeMessage hphase hmade hreader
    · cases h
  | endpointDown =>
    obtain ⟨down, hdown, heq⟩ := map_eq_some_iff.mp h
    cases heq
    exact .takeEndpointDown hphase hdown
  | ticker =>
    obtain ⟨-, h⟩ := ite_none_right_eq_some.mp h
    cases h
    exact .takeTicker hphase
  | tumble =>
    obtain ⟨-, h⟩ := ite_none_right_eq_some.mp h
    cases h
    exact .takeTumble hphase
  | ctxDone =>
    obtain ⟨hctx, h⟩ := ite_none_right_eq_some.mp h
    cases h
    exact .takeCtxDone hphase hctx

theorem moves_of_step {e : Move β} (h : s.step cfg e = some s') : Moves cfg s e s' := by
  obtain ⟨now, action⟩ := e
  cases action with
  | conn =>
    obtain ⟨hmade, h⟩ := ite_none_right_eq_some.mp h
    obtain ⟨c, hstep, heq⟩ := map_eq_some_iff.mp h
    split at heq
    · cases heq
      exact .disconnect hmade hstep ‹_›
    · cases heq
      exact .conn hmade hstep (Bool.eq_false_iff.mpr ‹_›)
  | offer src =>
    obtain ⟨⟨hphase, hidle, hmade⟩, h⟩ := ite_none_right_eq_some.mp h
    split at h
    · rename_i frame hreader
      cases h
      exact .offer hphase hidle hmade hreader
    · cases h
  | tick =>
    obtain ⟨-, h⟩ := ite_none_right_eq_some.mp h
    cases h
    exact .tick
  | tumble =>
    obtain ⟨-, h⟩ := ite_none_right_eq_some.mp h
    cases h
    exact .tumble
  | close =>
    cases h
    exact .close
  | cancelParent =>
    cases h
    exact .cancelParent
  | take =>
    obtain ⟨hphase, h⟩ := ite_none_right_eq_some.mp h
    exact moves_takeCase hphase h
  | proceed a =>
    change s.proceed cfg now a = some s' at h
    rw [proceed] at h
    cases hphase : s.phase with
    | selecting | returned =>
      rw [hphase] at h
      cases h
    | handling =>
      rw [hphase] at h
      cases h
      exact moves_handle hphase
    | rebinding =>
      rw [hphase] at h
      exact moves_rebindStep hphase h
  | panics =>
    change s.panics = some s' at h
    rw [RunningBridge.panics] at h
    cases hphase : s.phase with
    | selecting | returned =>
      rw [hphase] at h
      cases h
    | handling task =>
      rw [hphase] at h
      cases h
      exact .panics (.inl ⟨task, hphase, rfl⟩)
    | rebinding r =>
      rw [hphase] at h
      cases h
      exact .panics (.inr ⟨r, hphase, rfl⟩)

end Moves

section Invariants

variable {cfg s} {s' : RunningBridge β}

structure Linked (s : RunningBridge β) : Prop where
  unblocked : ∀ src, (s.getConn src).Unblocked
  ctxDone : s.ctxDone = true → ∀ src, (s.getConn src).canceled = true
  closing : s.closing.isSome = true → s.ctxDone = true
  superseded : ∀ g < s.endpointGen, (s.conn g).canceled = true
  leaving : ∀ r, s.phase = .rebinding r → r.stage ≠ .leaving →
    (s.conn s.endpointGen).canceled = true

def Connected (s : RunningBridge β) : Prop :=
  s.endpointConn = true ∨ (∃ r, s.phase = .rebinding r ∧ r.stage ≠ .leaving) ∨
    s.ctxDone = true ∧ ∀ msg, s.phase ≠ .handling (.message msg)

theorem linked_start (now : Time) : (start now : RunningBridge β).Linked := by
  refine ⟨?_, ?_, ?_, ?_, ?_⟩
  · rintro (_ | g) hcanceled
    · rfl
    · rfl
  · intro h
    cases h
  · intro h
    cases h
  · intro g hg
    exact absurd hg (Nat.not_lt_zero g)
  · intro r h
    cases h

theorem Linked.congr (h : s.Linked) (hconn : s'.getConn = s.getConn) (hctx : s'.ctxDone = s.ctxDone)
    (hclosing : s'.closing = s.closing) (hgen : s'.endpointGen = s.endpointGen)
    (hphase : ∀ r, s'.phase = .rebinding r → r.stage ≠ .leaving → ∃ r', s.phase = .rebinding r' ∧
    r'.stage ≠ .leaving) : s'.Linked := by
  have hendpoint : ∀ g, s'.conn g = s.conn g := fun g => congrFun hconn (.endpoint g)
  refine ⟨fun src => hconn ▸ h.unblocked src, fun hdone src => ?_, fun hsome => ?_, fun g hg => ?_,
    fun r hr hstage => ?_⟩
  · rw [hconn]
    exact h.ctxDone (hctx ▸ hdone) src
  · rw [hctx]
    exact h.closing (hclosing ▸ hsome)
  · rw [hendpoint]
    exact h.superseded g (hgen ▸ hg)
  · obtain ⟨r', hr', hstage'⟩ := hphase r hr hstage
    rw [hgen, hendpoint]
    exact h.leaving r' hr' hstage'

variable {src : Source} {e : Move β}

theorem Linked.setConn {c : Conn β} (h : s.Linked)
    (hc : c.Unblocked) (hcanceled : (s.getConn src).canceled = true → c.canceled = true) :
    (s.setConn c src).Linked := by
  have hkept : ∀ src', (s.getConn src').canceled = true →
      ((s.setConn c src).getConn src').canceled = true := by
    intro src' hsrc'
    by_cases heq : src' = src
    · subst heq
      rw [getConn_setConn_self]
      exact hcanceled hsrc'
    · rw [getConn_setConn_of_ne heq]
      exact hsrc'
  refine ⟨fun src' => ?_, fun hdone src' => hkept src' ?_, fun hsome => ?_, fun g hg => ?_,
    fun r hr hstage => ?_⟩
  · by_cases heq : src' = src
    · subst heq
      rw [getConn_setConn_self]
      exact hc
    · rw [getConn_setConn_of_ne heq]
      exact h.unblocked src'
  · exact h.ctxDone (setConn_ctxDone.symm.trans hdone) src'
  · rw [setConn_ctxDone]
    exact h.closing (by rwa [setConn_closing] at hsome)
  · exact hkept (.endpoint g) (h.superseded g (by rwa [setConn_endpointGen] at hg))
  · rw [setConn_endpointGen]
    exact hkept (.endpoint s.endpointGen) (h.leaving r (by rwa [setConn_phase] at hr) hstage)

theorem linked_cancelCtx (s : RunningBridge β) : s.cancelCtx.Linked :=
  ⟨fun src => by
      rw [getConn_cancelCtx]
      exact Conn.unblocked_cancel,
    fun _ src => by
      rw [getConn_cancelCtx]
      rfl,
    fun _ => rfl, fun _ _ => rfl, fun _ _ _ => rfl⟩

theorem Linked.shutdown (h : s.Linked) (err : BridgeError) (rebind : Option Rebind) :
    (s.shutdown err rebind).Linked := by
  rcases shutdown_cases s err rebind with ⟨-, heq⟩ | ⟨-, closing, -, -, heq⟩
  · rw [heq]
    exact h
  · rw [heq]
    have hcancel := linked_cancelCtx s
    exact ⟨hcancel.unblocked, hcancel.ctxDone, fun _ => rfl, hcancel.superseded, hcancel.leaving⟩

theorem Linked.of_phase (h : s.Linked) {phase : Phase β} (hphase : ∀ r, phase ≠ .rebinding r)
    (watch : Watch) (log : List Output) :
    { s with phase := phase, watch := watch, log := log }.Linked :=
  h.congr rfl rfl rfl rfl fun r hr => absurd hr (hphase r)

theorem shutdown_ctxDone (h : s.Linked) (err : BridgeError) (rebind : Option Rebind) :
    (s.shutdown err rebind).ctxDone = true :=
  (h.shutdown err rebind).closing shutdown_closing

theorem Linked.receive (h : s.Linked) : (s.receive src frame).Linked := by
  have hset : (s.setConn { s.getConn src with reader := .reading } src).Linked :=
    h.setConn (fun _ => rfl) fun hc => hc
  refine hset.congr rfl rfl rfl rfl fun r hr => ?_
  cases hr

theorem linked_of_moves (h : s.Linked) (hmove : Moves cfg s e s') : s'.Linked := by
  cases hmove with
  | conn hmade hstep =>
    exact h.setConn (Conn.unblocked_step (h.unblocked _) hstep)
      fun hc => (Conn.reader_of_step hstep).1.trans hc
  | @disconnect now src a c hmade hstep hloud =>
    have hset : (s.setConn c src).Linked :=
      h.setConn (Conn.unblocked_step (h.unblocked _) hstep)
        fun hc => (Conn.reader_of_step hstep).1.trans hc
    rcases onDisconnect_cases cfg (s.setConn c src) src with heq | ⟨g, -, heq⟩ <;> rw [heq]
    · exact linked_cancelCtx _
    · exact hset.congr (funext fun _ => getConn_endpointDisconnectFunc) rfl rfl rfl
        fun r hr hstage => ⟨r, hr, hstage⟩
  | offer | takeMessage => exact h.receive
  | tick | tumble => exact h.congr rfl rfl rfl rfl fun r hr hstage => ⟨r, hr, hstage⟩
  | close => exact h.shutdown _ _
  | cancelParent => exact linked_cancelCtx s
  | takeEndpointDown | takeTicker | takeTumble | takeCtxDone =>
    refine h.congr rfl rfl rfl rfl fun r hr => ?_
    cases hr
  | resume => exact h.of_phase (by simp) _ _
  | shut hphase hend =>
    refine Linked.shutdown (h.of_phase (fun r hr => ?_) _ s.log) _ _
    rcases hend with rfl | rfl <;> cases hr
  | rebind =>
    refine h.congr rfl rfl rfl rfl fun r hr hstage => ?_
    cases hr
    exact absurd rfl hstage
  | leave =>
    have hset : (s.setConn (s.conn s.endpointGen).cancel (.endpoint s.endpointGen)).Linked :=
      h.setConn Conn.unblocked_cancel fun _ => rfl
    refine ⟨hset.unblocked, hset.ctxDone, hset.closing, hset.superseded, fun r hr _ => ?_⟩
    change (update s.conn s.endpointGen _ s.endpointGen).canceled = true
    rw [update_self]
  | @enter now a r stage hphase hstage hnext =>
    exact h.congr rfl rfl rfl rfl fun _ _ _ => ⟨r, hphase, hstage⟩
  | fail | panics => exact (h.of_phase (by simp) s.watch s.log).shutdown _ _
  | install hphase hstage =>
    have hold := h.leaving _ hphase (by simp [hstage])
    refine ⟨fun src => ?_, fun hdone src => ?_, h.closing, fun g hg => ?_, by simp [install]⟩
    · cases src with
      | client => exact h.unblocked .client
      | endpoint g =>
        change (update s.conn (s.endpointGen + 1) _ g).Unblocked
        rw [update_apply]
        split
        · exact fun _ => rfl
        · exact h.unblocked (.endpoint g)
    · cases src with
      | client => exact h.ctxDone hdone .client
      | endpoint g =>
        change (update s.conn (s.endpointGen + 1) _ g).canceled = true
        rw [update_apply]
        split
        · exact hdone
        · exact h.ctxDone hdone (.endpoint g)
    · change (update s.conn (s.endpointGen + 1) _ g).canceled = true
      change g < s.endpointGen + 1 at hg
      rw [update_of_ne (Nat.ne_of_lt hg)]
      rcases Nat.lt_succ_iff_lt_or_eq.mp hg with hlt | rfl
      · exact h.superseded g hlt
      · exact hold

theorem Connected.of_phase (h : s.Connected) (hphase : s'.phase = s.phase)
    (hconn : s'.endpointConn = s.endpointConn) (hctx : s.ctxDone = true → s'.ctxDone = true) :
    s'.Connected := by
  rcases h with h | ⟨r, hr, hstage⟩ | ⟨hdone, hmsg⟩
  · exact .inl (hconn.trans h)
  · exact .inr (.inl ⟨r, hphase.trans hr, hstage⟩)
  · exact .inr (.inr ⟨hctx hdone, fun msg => hphase ▸ hmsg msg⟩)

theorem Connected.endpointConn (h : s.Connected) (hctx : s.ctxDone = false)
    (hphase : ∀ r, s.phase = .rebinding r → r.stage = .leaving) : s.endpointConn = true := by
  rcases h with h | ⟨r, hr, hstage⟩ | ⟨hdone, -⟩
  · exact h
  · exact absurd (hphase r hr) hstage
  · rw [hctx] at hdone
    cases hdone

theorem Connected.of_handling (h : s.Connected) (hphase : ∀ r, s.phase ≠ .rebinding r)
    (hmsg : ∀ msg, s'.phase ≠ .handling (.message msg)) (hconn : s'.endpointConn = s.endpointConn)
    (hctx : s.ctxDone = true → s'.ctxDone = true) : s'.Connected := by
  rcases h with h | ⟨r, hr, -⟩ | ⟨hdone, -⟩
  · exact .inl (hconn.trans h)
  · exact absurd hr (hphase r)
  · exact .inr (.inr ⟨hctx hdone, hmsg⟩)

theorem connected_shutdown (h : s.Linked) (hmsg : ∀ msg, s.phase ≠ .handling (.message msg))
    (err : BridgeError) (rebind : Option Rebind) : (s.shutdown err rebind).Connected := by
  refine .inr (.inr ⟨shutdown_ctxDone h err rebind, fun msg => ?_⟩)
  rw [shutdown_phase]
  exact hmsg msg

theorem ctxDone_of_parked (h : s.Linked) (hreader : (s.getConn src).reader = .parked frame) :
    s.ctxDone = false := by
  refine Bool.eq_false_iff.mpr fun hdone => ?_
  have hfree := h.unblocked src (h.ctxDone hdone src)
  rw [hreader] at hfree
  cases hfree

theorem Connected.receive (h : s.Connected) (hctx : s.ctxDone = false)
    (hphase : s.phase = .selecting) : (s.receive src frame).Connected := by
  have hconn : s.endpointConn = true :=
    h.endpointConn hctx (by simp [hphase])
  exact .inl (receive_endpointConn.trans hconn)

theorem connected_of_moves (hlinked : s.Linked) (h : s.Connected) (hmove : Moves cfg s e s') :
    s'.Connected := by
  cases hmove with
  | conn =>
    exact h.of_phase setConn_phase setConn_endpointConn fun hdone => setConn_ctxDone.trans hdone
  | disconnect =>
    exact h.of_phase (onDisconnect_phase.trans setConn_phase)
      (onDisconnect_endpointConn.trans setConn_endpointConn)
      fun hdone => ctxDone_onDisconnect (setConn_ctxDone.trans hdone)
  | offer hphase hidle => exact h.receive hidle.ctxDone hphase
  | tick | tumble => exact h.of_phase rfl rfl fun hdone => hdone
  | close =>
    exact h.of_phase shutdown_phase shutdown_endpointConn fun _ => shutdown_ctxDone hlinked _ _
  | cancelParent => exact h.of_phase rfl rfl fun _ => rfl
  | takeMessage hphase hmade hreader => exact h.receive (ctxDone_of_parked hlinked hreader) hphase
  | takeEndpointDown hphase | takeTicker hphase | takeTumble hphase | takeCtxDone hphase
  | resume hphase =>
    exact h.of_handling (by simp [hphase]) (by simp) rfl fun hdone => hdone
  | shut hphase hend =>
    refine connected_shutdown (hlinked.of_phase (fun r hr => ?_) _ s.log) (fun msg hm => ?_) _ _
    · rcases hend with rfl | rfl <;> cases hr
    · rcases hend with rfl | rfl <;> cases hm
  | rebind hphase hctx =>
    exact .inl (h.endpointConn hctx (by simp [hphase]))
  | leave => exact .inr (.inl ⟨_, rfl, by simp⟩)
  | enter hphase hstage hnext => exact .inr (.inl ⟨_, rfl, hnext⟩)
  | fail | panics =>
    exact connected_shutdown (hlinked.of_phase (by simp) s.watch s.log) (by simp) _ _
  | install => exact .inl rfl

structure Sound (s : RunningBridge β) : Prop where
  linked : s.Linked
  connected : s.Connected

theorem sound_start (now : Time) : (start now : RunningBridge β).Sound :=
  ⟨linked_start now, .inl rfl⟩

theorem sound_of_step (h : s.Sound) (hstep : s.step cfg e = some s') : s'.Sound :=
  ⟨linked_of_moves h.linked (moves_of_step hstep),
    connected_of_moves h.linked h.connected (moves_of_step hstep)⟩

end Invariants

end PathGateway.Websockets.RunningBridge
