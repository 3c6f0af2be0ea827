import PathGateway.EndpointGenerations

/-! The watchdog for endpoints that fall silent. It sees one clock, that any frame for the client,
a tumble and a rebind set forward, and one counter, that only a frame for the client clears. -/

namespace PathGateway.Websockets.RunningBridge

open Duration Machine Nat Option List

variable {β : Type} {cfg : BridgeConfig} {s s' : RunningBridge β} {e : Move β} {now : Time}
  {a : Answers} {task : Task β} {r : Rebind}

section Frame

theorem closing_of_moves (hmove : Moves cfg s e s') (h : s.closing.isSome = true) :
    s'.closing.isSome = true := by
  cases hmove with
  | conn =>
    rw [setConn_closing]
    exact h
  | disconnect =>
    rw [onDisconnect_closing, setConn_closing]
    exact h
  | offer | takeMessage =>
    rw [receive_closing]
    exact h
  | tick | tumble | cancelParent | takeEndpointDown | takeTicker | takeTumble | takeCtxDone | resume
  | rebind | leave | enter | install => exact h
  | close | panics | shut | fail => exact shutdown_closing

theorem log_of_moves (hmove : Moves cfg s e s') : s'.log = s.log ∨ ∃ o, s'.log = o :: s.log := by
  cases hmove with
  | conn | offer | takeMessage => exact .inl setConn_log
  | disconnect => exact .inl (onDisconnect_log.trans setConn_log)
  | tick | tumble | cancelParent | takeEndpointDown | takeTicker | takeTumble | takeCtxDone | leave
  | enter | install => exact .inl rfl
  | close | panics | shut | fail => exact .inl shutdown_log
  | resume hphase hstale hclock hlog =>
    exact hlog.imp And.left fun h => ⟨_, h.1⟩
  | rebind => exact .inr ⟨_, rfl⟩

/-- The clock is set forward by a step of one of these kinds only. -/
theorem clock_of_moves (hmove : Moves cfg s e s') :
    s'.watch.lastEndpointDataAt = s.watch.lastEndpointDataAt ∨
    s'.watch.lastEndpointDataAt = e.now ∧ (installs s e = true ∨ ∃ a task, e.action = .proceed a ∧
    s.phase = .handling task ∧ SetsClock cfg s e.now a task) := by
  have hhandled {a : Answers} {task : Task β} {watch : Watch} (ha : e.action = .proceed a)
      (hphase : s.phase = .handling task) (hclock : Clocked cfg s e.now a task watch)
      (hwatch : s'.watch = watch) : s'.watch.lastEndpointDataAt = s.watch.lastEndpointDataAt ∨
      s'.watch.lastEndpointDataAt = e.now ∧ (installs s e = true ∨ ∃ a task,
        e.action = .proceed a ∧ s.phase = .handling task ∧ SetsClock cfg s e.now a task) := by
    rw [hwatch]
    exact hclock.imp_right fun h => ⟨h.1, .inr ⟨a, task, ha, hphase, h.2⟩⟩
  cases hmove with
  | conn | offer | takeMessage => exact .inl (congrArg _ setConn_watch)
  | disconnect => exact .inl (congrArg _ (onDisconnect_watch.trans setConn_watch))
  | tick | tumble | cancelParent | takeEndpointDown | takeTicker | takeTumble | takeCtxDone | leave
  | enter => exact .inl rfl
  | close | panics | fail => exact .inl (congrArg _ shutdown_watch)
  | resume hphase hstale hclock => exact hhandled rfl hphase hclock rfl
  | shut hphase hend hclock => exact hhandled rfl hphase hclock shutdown_watch
  | rebind hphase hctx hclock => exact hhandled rfl hphase hclock rfl
  | install hphase hstage hreplayed =>
    exact .inr ⟨rfl, .inl (by simp [installs, hphase, hstage, hreplayed])⟩

end Frame

section Rotation

/-- The rebinds of stalled endpoints since a frame was last forwarded. -/
def stallsSinceForwarded : List Output → ℕ
  | [] => 0
  | .forwarded :: _ => 0
  | .rebind .stalled :: log => stallsSinceForwarded log + 1
  | .rebind _ :: log => stallsSinceForwarded log

theorem stallsSinceForwarded_rebind {err : EndpointError} {log : List Output} :
    stallsSinceForwarded (.rebind err :: log) = stallsSinceForwarded log + if err = .stalled then 1
      else 0 := by
  cases err <;> rfl

structure Counted (s : RunningBridge β) : Prop where
  bound : stallsSinceForwarded s.log ≤ maxConsecutiveStallRebinds
  exact : s.closing = none → stallsSinceForwarded s.log = s.watch.consecutiveStallRebinds

structure Networked (s : RunningBridge β) : Prop where
  queued : ∀ down, s.endpointDown = some down → down.err = .network
  inHand : ∀ down, s.phase = .handling (.endpointDown down) → down.err = .network

theorem Networked.of_phase (h : s.Networked) (hqueue : s'.endpointDown = s.endpointDown)
    (hphase : ∀ down, s'.phase = .handling (.endpointDown down) → s'.phase = s.phase) :
    s'.Networked :=
  ⟨fun down hdown => h.queued down (hqueue.symm.trans hdown),
    fun down hdown => h.inHand down ((hphase down hdown).symm.trans hdown)⟩

theorem networked_start (now : Time) : (start now : RunningBridge β).Networked := by
  constructor
  · intro down hdown
    cases hdown
  · intro down hdown
    cases hdown

theorem networked_of_moves (h : s.Networked) (hmove : Moves cfg s e s') : s'.Networked := by
  cases hmove with
  | conn => exact h.of_phase setConn_endpointDown fun _ _ => setConn_phase
  | @disconnect now src a c hmade hstep hloud =>
    have hset : (s.setConn c src).Networked :=
      h.of_phase setConn_endpointDown fun _ _ => setConn_phase
    rcases onDisconnect_cases cfg (s.setConn c src) src with heq | ⟨g, -, heq⟩ <;> rw [heq]
    · exact hset.of_phase rfl fun _ _ => rfl
    · refine ⟨fun down hdown => ?_, hset.inHand⟩
      change some ((s.setConn c src).endpointDown.getD ⟨g, .network⟩) = some down at hdown
      cases hold : (s.setConn c src).endpointDown with
      | none =>
        rw [hold] at hdown
        cases hdown
        rfl
      | some =>
        rw [hold] at hdown
        cases hdown
        exact hset.queued _ hold
  | offer | takeMessage =>
    exact h.of_phase receive_endpointDown fun _ hd => by cases hd
  | tick | tumble | cancelParent => exact h.of_phase rfl fun _ _ => rfl
  | takeEndpointDown hphase hdown =>
    refine ⟨fun down hd => ?_, fun down hd => ?_⟩
    · cases hd
    · cases hd
      exact h.queued _ hdown
  | takeTicker | takeTumble | takeCtxDone | resume | rebind | leave | enter | install =>
    exact h.of_phase rfl fun _ hd => by cases hd
  | close => exact h.of_phase shutdown_endpointDown fun _ _ => shutdown_phase
  | panics | fail =>
    exact h.of_phase shutdown_endpointDown fun _ hd => by cases shutdown_phase.symm.trans hd
  | shut hphase hend =>
    refine h.of_phase shutdown_endpointDown fun _ hd => ?_
    rw [shutdown_phase] at hd
    rcases hend with rfl | rfl <;> cases hd

theorem Counted.keep (h : s.Counted) (hlog : s'.log = s.log)
    (hcount : s'.watch.consecutiveStallRebinds = s.watch.consecutiveStallRebinds)
    (hclosing : s.closing.isSome = true → s'.closing.isSome = true) : s'.Counted := by
  refine ⟨hlog ▸ h.bound, fun hopen => ?_⟩
  rw [hlog, hcount]
  refine h.exact (not_isSome_iff_eq_none.mp fun hsome => ?_)
  have hclosed := hclosing hsome
  rw [hopen] at hclosed
  cases hclosed

theorem Counted.shutdown {u : RunningBridge β} {err : BridgeError} {rebind : Option Rebind}
    (h : s.Counted) (hlog : u.log = s.log) : (u.shutdown err rebind).Counted := by
  have hclosed : (u.shutdown err rebind).closing.isSome = true := shutdown_closing
  refine ⟨shutdown_log.trans hlog ▸ h.bound, fun hopen => ?_⟩
  rw [hopen] at hclosed
  cases hclosed

theorem counted_of_moves (hlinked : s.Linked) (hnet : s.Networked) (h : s.Counted)
    (hmove : Moves cfg s e s') : s'.Counted := by
  have hkept := closing_of_moves hmove
  cases hmove with
  | conn | offer | takeMessage => exact h.keep setConn_log (congrArg _ setConn_watch) hkept
  | disconnect =>
    exact h.keep (onDisconnect_log.trans setConn_log)
      (congrArg _ (onDisconnect_watch.trans setConn_watch)) hkept
  | tick | tumble | cancelParent | takeEndpointDown | takeTicker | takeTumble | takeCtxDone | leave
  | enter | install => exact h.keep rfl rfl hkept
  | close | panics | shut | fail => exact h.shutdown rfl
  | resume hphase hstale hclock hlog =>
    rcases hlog with ⟨rfl, hcount⟩ | ⟨rfl, hzero⟩
    · exact h.keep rfl hcount hkept
    · exact ⟨zero_le _, fun _ => hzero.symm⟩
  | @rebind now a task watch down delivering hphase hctx hclock hstrikes =>
    have hexact := h.exact (closing_of_ctxDone hlinked hctx)
    have hbound := h.bound
    have hlog : stallsSinceForwarded (.rebind down.err :: s.log) =
        stallsSinceForwarded s.log + if down.err = .stalled then 1 else 0 :=
      stallsSinceForwarded_rebind
    rcases hstrikes with ⟨rfl, rfl⟩ | ⟨-, hcount, hless⟩
    · have hother : down.err ≠ .stalled := by simp [hnet.inHand down hphase]
      rw [if_neg hother] at hlog
      exact ⟨hlog.trans_le hbound, fun _ => hlog.trans hexact⟩
    · refine ⟨hlog.trans_le ?_, fun _ => hlog.trans (by rw [hexact]; exact hcount.symm)⟩
      split
      · have hlt := hless ‹_›
        omega
      · exact hbound

/-- A check that finds an established subscription and the data too old. -/
structure Triggers (cfg : BridgeConfig) (s : RunningBridge β) (e : Move β) : Prop where
  rebind : cfg.rebind = true
  checks : s.phase = .handling (.ticker .staleness)
  active : ∃ a, e.action = .proceed a ∧ a.hasActiveSubscriptions = true
  stale : endpointStalenessThreshold ≤ e.now - s.watch.lastEndpointDataAt

theorem Triggers.step_eq (h : Triggers cfg s e) : s.step cfg e = some
    (if maxConsecutiveStallRebinds ≤ s.watch.consecutiveStallRebinds then
      s.resume.shutdown .endpointUnavailable none
    else { s with watch := { s.watch with
        consecutiveStallRebinds := s.watch.consecutiveStallRebinds + 1
        lastEndpointDataAt := e.now } }.handleEndpointDown ⟨s.endpointGen, .stalled⟩
      (s.delivering e.now)) := by
  obtain ⟨a, ha, hactive⟩ := h.active
  obtain ⟨now, action⟩ := e
  cases ha
  have hstale : ¬now - s.watch.lastEndpointDataAt < endpointStalenessThreshold :=
    not_lt.mpr h.stale
  have hcheck : s.proceed cfg now a = some (s.checkEndpointStaleness cfg now a) := by
    rw [proceed, h.checks]
    rfl
  change s.proceed cfg now a = _
  rw [hcheck, checkEndpointStaleness, if_neg (by simp [h.rebind, hactive]), if_neg hstale]

theorem Triggers.outcome (h : Triggers cfg s e) (hstep : s.step cfg e = some s') :
    s'.closing.isSome = true ∧ s'.log = s.log ∧ s'.phase = .selecting ∨ s.ctxDone = false ∧
    s.watch.consecutiveStallRebinds < maxConsecutiveStallRebinds ∧
    s'.log = .rebind .stalled :: s.log := by
  rw [h.step_eq, some.injEq] at hstep
  subst hstep
  split_ifs with hlt
  · exact .inl ⟨shutdown_closing, shutdown_log, shutdown_phase⟩
  · rw [handleEndpointDown, if_neg (fun hne => hne rfl)]
    split_ifs with hctx
    · exact .inl ⟨shutdown_closing, shutdown_log, shutdown_phase⟩
    · exact .inr ⟨Bool.eq_false_iff.mpr hctx, not_le.mp hlt, rfl⟩

/-- A run of stalls rotates boundedly often, and the next stall shuts the bridge down. -/
theorem stall_rotation_bounded (cfg : BridgeConfig) (now : Time) (es : List (Move β))
    (s : RunningBridge β) (hrun : run (step cfg) (start now) es = some s) :
    stallsSinceForwarded s.log ≤ maxConsecutiveStallRebinds ∧
    ∀ e s', Triggers cfg s e → stallsSinceForwarded s.log = maxConsecutiveStallRebinds →
      s.step cfg e = some s' →
      s'.closing.isSome = true ∧ s'.log = s.log ∧ s'.phase = .selecting := by
  obtain ⟨hlinked, hnet, hcounted⟩ := invariant_of_step
    (I := fun u : RunningBridge β => u.Linked ∧ u.Networked ∧ u.Counted)
    (fun u e u' h hstep => ⟨linked_of_moves h.1 (moves_of_step hstep),
      networked_of_moves h.2.1 (moves_of_step hstep),
      counted_of_moves h.1 h.2.1 h.2.2 (moves_of_step hstep)⟩)
    ⟨linked_start now, networked_start now, ⟨zero_le _, fun _ => rfl⟩⟩ hrun
  refine ⟨hcounted.bound, fun e s' htrigger hfull hstep => ?_⟩
  rcases htrigger.outcome hstep with hclosed | ⟨hctx, hlt, -⟩
  · exact hclosed
  · have hexact := hcounted.exact (closing_of_ctxDone hlinked hctx)
    omega

def stalledAt (now : Time) : List (Move ℕ) :=
  [⟨now, .tick .staleness⟩, ⟨now, .take (.ticker .staleness)⟩,
    ⟨now, .proceed { hasActiveSubscriptions := true }⟩, ⟨now, .proceed {}⟩, ⟨now, .proceed {}⟩,
    ⟨now, .proceed {}⟩, ⟨now, .proceed {}⟩]

def silentThroughout : List (Move ℕ) :=
  stalledAt (60 * second) ++ stalledAt (120 * second) ++ stalledAt (180 * second) ++
    [⟨240 * second, .tick .staleness⟩, ⟨240 * second, .take (.ticker .staleness)⟩]

theorem silent_throughout_closes : ∃ s s' : RunningBridge ℕ,
    run (step rebindConfig) (start 0) silentThroughout = some s ∧
    stallsSinceForwarded s.log = maxConsecutiveStallRebinds ∧ s.closing = none ∧
    s.step rebindConfig ⟨240 * second, .proceed { hasActiveSubscriptions := true }⟩ = some s' ∧
    s'.closing.isSome = true ∧ s'.log = s.log ∧ s'.phase = .selecting := by
  refine exists₂_of_any (fun s => stallsSinceForwarded s.log = 3 ∧ s.closing = none ∧
    s.phase = .handling (.ticker .staleness) ∧ s.watch.lastEndpointDataAt = 180 * second)
    (by decide +kernel) fun s hs heq => ?_
  obtain ⟨hstalls, hopen, hphase, hclock⟩ := heq
  have htrigger : Triggers rebindConfig s
      ⟨240 * second, .proceed { hasActiveSubscriptions := true }⟩ := by
    refine ⟨rfl, hphase, ⟨_, rfl, rfl⟩, ?_⟩
    change endpointStalenessThreshold ≤ 240 * second - s.watch.lastEndpointDataAt
    rw [hclock]
    decide
  exact ⟨_, hstalls, hopen, htrigger.step_eq,
    (stall_rotation_bounded rebindConfig 0 _ s hs).2 _ _ htrigger hstalls htrigger.step_eq⟩

end Rotation

section Silence

def answers : Move β → Option Answers
  | ⟨_, .proceed a⟩ => some a
  | _ => none

def endpointFrame : Phase β → Option β
  | .handling (.message ⟨frame, .endpoint _⟩) => some frame
  | _ => none

def ChecksWithin (lo hi : Time) (s : RunningBridge β) (e : Move β) : Prop :=
  s.phase = .handling (.ticker .staleness) ∧ (answers e).isSome = true ∧ lo ≤ e.now ∧ e.now ≤ hi

def FindsSubscription (s : RunningBridge β) (e : Move β) : Prop :=
  s.phase = .handling (.ticker .staleness) → ∀ a ∈ answers e, a.hasActiveSubscriptions = true

variable (isNotification : β → Prop)

def NoNotification (s : RunningBridge β) (_ : Move β) : Prop :=
  ∀ frame ∈ endpointFrame s.phase, ¬isNotification frame

def stalledRebinds (log : List Output) : ℕ := log.count (.rebind .stalled)

def Reacted (n : ℕ) (s : RunningBridge β) : Prop :=
  s.closing.isSome = true ∨ n < stalledRebinds s.log

/-- As long as the bridge has not reacted, no other frame is forwarded, no tumble is handled, and
no new connection is installed. -/
def NothingElse (n : ℕ) (s : RunningBridge β) (e : Move β) : Prop :=
  ¬s.Reacted n → ∀ a ∈ answers e,
    (∀ frame ∈ endpointFrame s.phase, a.endpointProcessed = .frame → isNotification frame) ∧
    s.phase ≠ .handling .tumble ∧ installs s e = false

instance [DecidableEq β] (lo hi : Time) (s : RunningBridge β) (e : Move β) :
    Decidable (s.ChecksWithin lo hi e) :=
  inferInstanceAs (Decidable (_ ∧ _))

instance [DecidableEq β] (s : RunningBridge β) (e : Move β) : Decidable (s.FindsSubscription e) :=
  inferInstanceAs (Decidable (_ → _))

instance [DecidablePred isNotification] (s : RunningBridge β) (e : Move β) :
    Decidable (NoNotification isNotification s e) :=
  inferInstanceAs (Decidable (∀ frame ∈ endpointFrame s.phase, _))

instance (n : ℕ) (s : RunningBridge β) : Decidable (s.Reacted n) :=
  inferInstanceAs (Decidable (_ ∨ _))

instance [DecidableEq β] [DecidablePred isNotification] (n : ℕ) (s : RunningBridge β)
    (e : Move β) : Decidable (NothingElse isNotification n s e) :=
  inferInstanceAs (Decidable (¬s.Reacted n → ∀ a ∈ answers e, _))

variable {isNotification} {n : ℕ} {t₀ : Time}

theorem stalledRebinds_of_step (hstep : s.step cfg e = some s') :
    stalledRebinds s.log ≤ stalledRebinds s'.log := by
  rcases log_of_moves (moves_of_step hstep) with hlog | ⟨o, hlog⟩ <;> rw [hlog]
  exact count_le_count_cons

theorem Reacted.of_step (h : s.Reacted n) (hstep : s.step cfg e = some s') : s'.Reacted n := by
  rcases h with hclosed | hmore
  · exact .inl (closing_of_moves (moves_of_step hstep) hclosed)
  · exact .inr (hmore.trans_le (stalledRebinds_of_step hstep))

theorem Triggers.reacted (h : Triggers cfg s e) (hn : n ≤ stalledRebinds s.log)
    (hstep : s.step cfg e = some s') : s'.Reacted n := by
  rcases h.outcome hstep with ⟨hclosed, -⟩ | ⟨-, -, hlog⟩
  · exact .inl hclosed
  · right
    rw [hlog, stalledRebinds, count_cons_self]
    exact lt_succ_of_le hn

theorem clock_of_run {now₀ : Time} {es : List (Move β)} (hnow : now₀ ≤ t₀)
    (hes : ∀ e ∈ es, e.now ≤ t₀) (hrun : run (step cfg) (start now₀) es = some s) :
    s.watch.lastEndpointDataAt ≤ t₀ := by
  refine invariant (I := fun u : RunningBridge β => u.watch.lastEndpointDataAt ≤ t₀)
    (fun u e u' h hle hstep => ?_) hnow (Meets.of_forall hes) hrun
  rcases clock_of_moves (moves_of_step hstep) with hclock | ⟨hclock, -⟩
  · exact hclock.trans_le h
  · exact hclock.trans_le hle

theorem clock_of_nothingElse (hsilent : NoNotification isNotification s e)
    (helse : NothingElse isNotification n s e) (hwaits : ¬s.Reacted n) (hcalm : ¬Triggers cfg s e)
    (hstep : s.step cfg e = some s') :
    s'.watch.lastEndpointDataAt = s.watch.lastEndpointDataAt := by
  refine (clock_of_moves (moves_of_step hstep)).resolve_right ?_
  rintro ⟨-, hset⟩
  obtain ⟨now, action⟩ := e
  cases action with
  | proceed a =>
    obtain ⟨hframes, htumble, hinstalls⟩ := helse hwaits a rfl
    rw [hinstalls] at hset
    obtain ⟨_, task, ⟨⟩, hphase, hset⟩ := hset.resolve_left Bool.false_ne_true
    unfold SetsClock at hset
    split at hset
    · rename_i data g
      have hmem : data ∈ endpointFrame s.phase := by simp [hphase, endpointFrame]
      exact hsilent data hmem (hframes data hmem hset)
    · exact hcalm ⟨hset.1, hphase, ⟨a, rfl, hset.2.1⟩, hset.2.2⟩
    · exact htumble hphase
    · exact hset
  | conn | offer | tick | tumble | close | cancelParent | take | panics =>
    simp [installs] at hset

structure Waits (n : ℕ) (t₀ : Time) (s : RunningBridge β) : Prop where
  rebinds : n ≤ stalledRebinds s.log
  clock : s.watch.lastEndpointDataAt ≤ t₀ ∨ s.Reacted n

theorem waits_of_step (h : Waits n t₀ s) (hsilent : NoNotification isNotification s e)
    (helse : NothingElse isNotification n s e) (hstep : s.step cfg e = some s') :
    Waits n t₀ s' := by
  refine ⟨h.rebinds.trans (stalledRebinds_of_step hstep), ?_⟩
  by_cases hreacted : s.Reacted n
  · exact .inr (hreacted.of_step hstep)
  · have hclock := h.clock.resolve_right hreacted
    by_cases htrigger : Triggers cfg s e
    · exact .inr (htrigger.reacted h.rebinds hstep)
    · exact .inl ((clock_of_nothingElse hsilent helse hreacted htrigger hstep).trans_le hclock)

/-- A period in which the client has an established subscription and gets no notification, longer
than the threshold and one interval, and with a check in every interval of it. -/
structure SilentPeriod (cfg : BridgeConfig) (isNotification : β → Prop) (t₀ t₁ : Time)
    (s : RunningBridge β) (period : List (Move β)) : Prop where
  rebind : cfg.rebind = true
  long : t₀ + endpointStalenessThreshold + stalenessCheckInterval < t₁
  checked : ∀ τ, t₀ ≤ τ → τ + stalenessCheckInterval ≤ t₁ →
    Machine.Happens (step cfg) (ChecksWithin τ (τ + stalenessCheckInterval)) s period
  subscribed : Machine.Meets (step cfg) FindsSubscription s period
  silent : Machine.Meets (step cfg) (NoNotification isNotification) s period

/-- At some point of the period a rebind for a stall has begun since its start, or the client has
been closed. -/
def Noticing (cfg : BridgeConfig) (s : RunningBridge β) (period : List (Move β)) : Prop :=
  ∃ pre post u, period = pre ++ post ∧ run (step cfg) s pre = some u ∧
    u.Reacted (stalledRebinds s.log)

/-- A feed that falls silent is noticed before the period is over. -/
theorem silent_feed_noticed (cfg : BridgeConfig) (isNotification : β → Prop) (now₀ t₀ t₁ : Time)
    (before period : List (Move β)) (s t : RunningBridge β) (hnow : now₀ ≤ t₀)
    (hbefore : ∀ e ∈ before, e.now ≤ t₀)
    (hrun : run (step cfg) (start now₀) before = some s)
    (hperiod : run (step cfg) s period = some t)
    (hsilent : SilentPeriod cfg isNotification t₀ t₁ s period)
    (helse : Machine.Meets (step cfg) (NothingElse isNotification (stalledRebinds s.log)) s
      period) : Noticing cfg s period := by
  have hmeets := (hsilent.silent.both helse).both hsilent.subscribed
  have hcheck := hsilent.checked (t₀ + endpointStalenessThreshold) (le_add_right _ _)
    hsilent.long.le
  obtain ⟨pre, e, post, u, u', heq, hpre, hmet, hcond, ⟨hphase, hproceed, hlo, -⟩, hstep⟩ :=
    hcheck.exists_step hmeets hperiod
  have hwaits : Waits (stalledRebinds s.log) t₀ u :=
    invariant (fun u e u' h hC hstep => waits_of_step h hC.1.1 hC.1.2 hstep)
      ⟨le_rfl, .inl (clock_of_run hnow hbefore hrun)⟩ hmet hpre
  rcases hwaits.clock with hclock | hreacted
  · obtain ⟨a, ha⟩ := isSome_iff_exists.mp hproceed
    have haction : e.action = .proceed a := by
      obtain ⟨now, action⟩ := e
      cases action <;> cases ha
      rfl
    have hstale : endpointStalenessThreshold ≤ e.now - u.watch.lastEndpointDataAt := by
      refine le_sub_of_add_le ?_
      calc endpointStalenessThreshold + u.watch.lastEndpointDataAt
          ≤ endpointStalenessThreshold + t₀ := Nat.add_le_add_left hclock _
        _ = t₀ + endpointStalenessThreshold := add_comm _ _
        _ ≤ e.now := hlo
    have htrigger : Triggers cfg u e :=
      ⟨hsilent.rebind, hphase, ⟨a, haction, hcond.2 hphase a ha⟩, hstale⟩
    refine ⟨pre ++ [e], post, u', by rw [heq, append_assoc]; rfl, ?_,
      htrigger.reacted hwaits.rebinds hstep⟩
    rw [run_append, hpre]
    exact run_cons.mpr ⟨u', hstep, rfl⟩
  · exact ⟨pre, e :: post, u, heq, hpre, hreacted⟩

section Runs

theorem checks_of_at {c τ : Time} {es : List (Move β)}
    (h : Happens (step cfg) (ChecksWithin c c) s es) (hlo : τ ≤ c)
    (hhi : c ≤ τ + stalenessCheckInterval) :
    Happens (step cfg) (ChecksWithin τ (τ + stalenessCheckInterval)) s es :=
  h.mono fun _ _ _ hcheck => ⟨hcheck.1, hcheck.2.1, hlo.trans hcheck.2.2.1, hcheck.2.2.2.trans hhi⟩

theorem exists_multiple {m τ : ℕ} (h : τ + m ≤ 5 * m + 1) (hm : 0 < m) :
    ∃ k ∈ [1, 2, 3, 4, 5], τ ≤ k * m ∧ k * m ≤ τ + m := by
  by_cases h₁ : τ ≤ m
  · exact ⟨1, by decide, by omega, by omega⟩
  by_cases h₂ : τ ≤ 2 * m
  · exact ⟨2, by decide, by omega, by omega⟩
  by_cases h₃ : τ ≤ 3 * m
  · exact ⟨3, by decide, by omega, by omega⟩
  by_cases h₄ : τ ≤ 4 * m
  · exact ⟨4, by decide, by omega, by omega⟩
  · exact ⟨5, by decide, by omega, by omega⟩

theorem checked_of_multiples {es : List (Move β)}
    (h : ∀ k ∈ [1, 2, 3, 4, 5], Happens
      (step cfg) (ChecksWithin (k * stalenessCheckInterval) (k * stalenessCheckInterval)) s es)
    (τ : Time) (hτ : τ + stalenessCheckInterval ≤ 5 * stalenessCheckInterval + 1) :
    Happens (step cfg) (ChecksWithin τ (τ + stalenessCheckInterval)) s es := by
  obtain ⟨k, hk, hlo, hhi⟩ := exists_multiple hτ (by decide)
  exact checks_of_at (h k hk) hlo hhi

theorem silentPeriod_of_checks {es : List (Move ℕ)}
    (h : (∀ k ∈ [1, 2, 3, 4, 5], Happens (step rebindConfig)
      (ChecksWithin (k * stalenessCheckInterval) (k * stalenessCheckInterval)) (start 0) es) ∧
      Meets (step rebindConfig) FindsSubscription (start 0) es ∧
      Meets (step rebindConfig) (NoNotification (· = 9)) (start 0) es) :
    SilentPeriod rebindConfig (· = 9) 0 (5 * stalenessCheckInterval + 1) (start 0) es :=
  ⟨rfl, by decide +kernel, fun τ _ hτ => checked_of_multiples h.1 τ hτ, h.2.1, h.2.2⟩

def checkedAt (now : Time) : List (Move ℕ) :=
  [⟨now, .tick .staleness⟩, ⟨now, .take (.ticker .staleness)⟩,
    ⟨now, .proceed { hasActiveSubscriptions := true }⟩]

def nothingArrives : List (Move ℕ) :=
  checkedAt (15 * second) ++ checkedAt (30 * second) ++ checkedAt (45 * second) ++
    stalledAt (60 * second) ++ checkedAt (75 * second)

theorem nothing_arrives_noticed :
    SilentPeriod rebindConfig (· = 9) 0 (5 * stalenessCheckInterval + 1) (start 0) nothingArrives ∧
    Noticing rebindConfig (start 0) nothingArrives := by
  have hsilent := @silentPeriod_of_checks nothingArrives (by decide +kernel)
  exact ⟨hsilent, silent_feed_noticed rebindConfig (· = 9) 0 0 (5 * stalenessCheckInterval + 1) []
    nothingArrives (start 0) _ le_rfl (fun _ he => absurd he not_mem_nil) rfl
    (eq_some_of_isSome (by decide +kernel)) hsilent (by decide +kernel)⟩

/-- The client sends a request after half a minute and gets its response. No notification comes,
and no check finds the data too old. -/
def responseArrives : List (Move ℕ) :=
  checkedAt (15 * second) ++ checkedAt (30 * second) ++
    [⟨30 * second, .conn (.endpoint 0) (.read 1)⟩, ⟨30 * second, .offer (.endpoint 0)⟩,
      ⟨30 * second, .proceed {}⟩] ++
    checkedAt (45 * second) ++ checkedAt (60 * second) ++ checkedAt (75 * second)

theorem response_hides_silence :
    SilentPeriod rebindConfig (· = 9) 0 (5 * stalenessCheckInterval + 1) (start 0) responseArrives ∧
    ¬Noticing rebindConfig (start 0) responseArrives := by
  obtain ⟨t, ht, hopen, hcount⟩ : ∃ t, run (step rebindConfig) (start 0) responseArrives = some t ∧
        t.closing = none ∧ stalledRebinds t.log = 0 := by decide +kernel
  refine ⟨silentPeriod_of_checks (by decide +kernel), ?_⟩
  rintro ⟨pre, post, u, hsplit, hpre, hreacted⟩
  rw [hsplit, run_append, hpre] at ht
  have hend : t.Reacted 0 :=
    invariant_of_step (fun _ _ _ h hstep => Reacted.of_step h hstep) hreacted ht
  rcases hend with hclosed | hmore
  · rw [hopen] at hclosed
    cases hclosed
  · rw [hcount] at hmore
    cases hmore

end Runs

end Silence

end PathGateway.Websockets.RunningBridge
