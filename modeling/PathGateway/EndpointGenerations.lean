import PathGateway.BridgeShutdown

/-! The endpoint connections that a bridge has one after the other. A disconnect carries the
generation of its connection, so that a late one is told apart; a frame carries none. -/

namespace PathGateway.Websockets.RunningBridge

open Machine Option

variable {β : Type} {cfg : BridgeConfig} {s s' : RunningBridge β} {e : Move β}

variable {src : Source} {a : ConnAction β}

section Frames

/-- A frame in hand is one of the current connection. -/
def FromCurrent (s : RunningBridge β) : Prop :=
  ∀ frame g, s.phase = .handling (.message ⟨frame, .endpoint g⟩) → g = s.endpointGen

def isHolding : Reader β → Bool
  | .holding _ => true
  | _ => false

def readFrom : Move β → Option ℕ
  | ⟨_, .conn (.endpoint g) (.read _)⟩ => some g
  | _ => none

def installs (s : RunningBridge β) (e : Move β) : Bool :=
  match s.phase, e.action with
  | .rebinding r, .proceed a => decide (r.stage = .connected) && decide (a.replayed = .written)
  | _, _ => false

/-- When a connection is replaced its read loop has no frame in hand, and it reads none
afterwards. -/
def LeavesNoFrame (s : RunningBridge β) (e : Move β) : Prop :=
  (∀ g ∈ readFrom e, g = s.endpointGen) ∧
    (installs s e = true → isHolding (s.conn s.endpointGen).reader = false)

instance (s : RunningBridge β) (e : Move β) : Decidable (s.LeavesNoFrame e) :=
  inferInstanceAs (Decidable (_ ∧ _))

def Drained (s : RunningBridge β) : Prop :=
  ∀ g < s.endpointGen, isHolding (s.conn g).reader = false

theorem Drained.setConn {c : Conn β}
    (h : s.Drained) (hc : ∀ g < s.endpointGen, src = .endpoint g → isHolding c.reader = false) :
    (s.setConn c src).Drained := by
  intro g hg
  rw [setConn_endpointGen] at hg
  change isHolding ((s.setConn c src).getConn (.endpoint g)).reader = false
  by_cases heq : Source.endpoint g = src
  · subst heq
    rw [getConn_setConn_self]
    exact hc g hg rfl
  · rw [getConn_setConn_of_ne heq]
    exact h g hg

theorem Drained.cancelCtx (h : s.Drained) : s.cancelCtx.Drained := by
  intro g hg
  have hold := h g hg
  change isHolding (s.conn g).reader.wake = false
  cases hreader : (s.conn g).reader with
  | holding =>
    rw [hreader] at hold
    cases hold
  | reading | parked frame | exited => rfl

theorem Drained.shutdown (h : s.Drained) (err : BridgeError) (rebind : Option Rebind) :
    (s.shutdown err rebind).Drained := by
  rcases shutdown_cases s err rebind with ⟨-, heq⟩ | ⟨-, closing, -, -, heq⟩
  · rw [heq]
    exact h
  · rw [heq]
    exact h.cancelCtx

theorem Drained.onDisconnect (h : s.Drained) : (s.onDisconnect cfg src).Drained := by
  rcases onDisconnect_cases cfg s src with heq | ⟨g, -, heq⟩ <;> rw [heq]
  · exact h.cancelCtx
  · exact h

theorem isHolding_of_step {c c' : Conn β}
    (h : c.step a = some c') (hread : ∀ frame, a ≠ .read frame) (hc : isHolding c.reader = false) :
    isHolding c'.reader = false := by
  have hreader := (Conn.reader_of_step h).2
  cases a with
  | read frame => exact absurd rfl (hread frame)
  | park =>
    obtain ⟨-, frame, -, hparked⟩ := hreader
    rw [hparked]
    rfl
  | leave | readFails close =>
    rw [hreader]
    rfl
  | pingFails =>
    rw [hreader]
    exact hc

theorem Drained.of_connStep {c : Conn β} {now : Time} (h : s.Drained)
    (hcond : s.LeavesNoFrame ⟨now, .conn src a⟩) (hstep : (s.getConn src).step a = some c) :
    (s.setConn c src).Drained := by
  refine h.setConn fun g hg hsrc => ?_
  subst hsrc
  refine isHolding_of_step hstep (fun frame ha => ?_) (h g hg)
  subst ha
  exact absurd (hcond.1 g rfl) (Nat.ne_of_lt hg)

theorem Drained.receive {frame : β} (h : s.Drained) : (s.receive src frame).Drained :=
  h.setConn (c := { s.getConn src with reader := .reading }) fun _ _ _ => rfl

theorem drained_of_moves (h : s.Drained) (hcond : s.LeavesNoFrame e) (hmove : Moves cfg s e s') :
    s'.Drained := by
  cases hmove with
  | conn hmade hstep => exact h.of_connStep hcond hstep
  | disconnect hmade hstep => exact (h.of_connStep hcond hstep).onDisconnect
  | offer | takeMessage => exact h.receive
  | tick | tumble | takeEndpointDown | takeTicker | takeTumble | takeCtxDone | resume | rebind
  | enter => exact h
  | close => exact h.shutdown _ _
  | cancelParent => exact h.cancelCtx
  | shut =>
    refine Drained.shutdown ?_ _ _
    exact h
  | leave =>
    have hset : (s.setConn (s.conn s.endpointGen).cancel (.endpoint s.endpointGen)).Drained :=
      h.setConn fun g hg hsrc => absurd (Source.endpoint.inj hsrc).symm (Nat.ne_of_lt hg)
    exact hset
  | fail => exact Drained.shutdown (s := s.resume) h _ _
  | install hphase hstage hreplayed =>
    have hlast : isHolding (s.conn s.endpointGen).reader = false :=
      hcond.2 (by simp [installs, hphase, hstage, hreplayed])
    intro g hg
    change g < s.endpointGen + 1 at hg
    change isHolding (Function.update s.conn (s.endpointGen + 1) _ g).reader = false
    rw [Function.update_of_ne (Nat.ne_of_lt hg)]
    rcases Nat.lt_succ_iff_lt_or_eq.mp hg with hlt | rfl
    · exact h g hlt
    · exact hlast
  | panics => exact Drained.shutdown (s := { s with phase := .returned }) h _ _

theorem fromCurrent_receive {frame : β} (hsound : s.Sound) (h : s.Drained) (hmade : s.Made src)
    (hreader : (s.getConn src).reader = .holding frame ∨ (s.getConn src).reader = .parked frame) :
    (s.receive src frame).FromCurrent := by
  intro frame' g hphase
  change Phase.handling (.message ⟨frame, src⟩) = _ at hphase
  cases hphase
  rw [receive_endpointGen]
  have hle : g ≤ s.endpointGen := hmade
  by_contra hne
  have hlt : g < s.endpointGen := lt_of_le_of_ne hle hne
  rcases hreader with hreader | hreader
  · have hold := h g hlt
    change (s.conn g).reader = .holding frame at hreader
    rw [hreader] at hold
    cases hold
  · have hfree := hsound.linked.unblocked (.endpoint g) (hsound.linked.superseded g hlt)
    rw [hreader] at hfree
    cases hfree

theorem FromCurrent.of_phase (h : s.FromCurrent) (hphase : s'.phase = s.phase)
    (hgen : s'.endpointGen = s.endpointGen) : s'.FromCurrent := by
  intro frame g hg
  rw [hgen]
  exact h frame g (hphase.symm.trans hg)

theorem fromCurrent_of_phase (hphase : ∀ msg, s.phase ≠ .handling (.message msg)) : s.FromCurrent :=
  fun _ _ hg => absurd hg (hphase _)

theorem fromCurrent_of_moves (hsound : s.Sound) (hdrained : s.Drained) (h : s.FromCurrent)
    (hmove : Moves cfg s e s') : s'.FromCurrent := by
  cases hmove with
  | conn => exact h.of_phase setConn_phase setConn_endpointGen
  | disconnect =>
    exact h.of_phase (onDisconnect_phase.trans setConn_phase)
      (onDisconnect_endpointGen.trans setConn_endpointGen)
  | offer hphase hidle hmade hreader =>
    exact fromCurrent_receive hsound hdrained hmade (.inl hreader)
  | tick | tumble | cancelParent => exact h.of_phase rfl rfl
  | close => exact h.of_phase shutdown_phase shutdown_endpointGen
  | takeMessage hphase hmade hreader =>
    exact fromCurrent_receive hsound hdrained hmade (.inr hreader)
  | takeEndpointDown | takeTicker | takeTumble | takeCtxDone | resume | rebind | leave | enter
  | install => exact fromCurrent_of_phase fun msg hm => by cases hm
  | shut hphase hend =>
    refine fromCurrent_of_phase fun msg hm => ?_
    rw [shutdown_phase] at hm
    rcases hend with rfl | rfl <;> cases hm
  | fail | panics =>
    exact fromCurrent_of_phase fun msg hm => by cases (shutdown_phase.symm.trans hm)

/-- If no replaced connection leaves a frame behind, only frames of the current one are handled. -/
theorem fromCurrent_of_leavesNoFrame (cfg : BridgeConfig) (now : Time) (es : List (Move β))
    (t : RunningBridge β) (hcond : Machine.Meets (step cfg) LeavesNoFrame (start now) es)
    (hrun : run (step cfg) (start now) es = some t) : t.FromCurrent := by
  have hinv := invariant (I := fun u : RunningBridge β => u.Sound ∧ u.Drained ∧ u.FromCurrent)
    (fun u e u' h hC hstep => ⟨sound_of_step h.1 hstep,
      drained_of_moves h.2.1 hC (moves_of_step hstep),
      fromCurrent_of_moves h.1 h.2.1 h.2.2 (moves_of_step hstep)⟩)
    ⟨sound_start now, fun g hg => absurd hg (Nat.not_lt_zero g), fun _ _ h => by cases h⟩ hcond hrun
  exact hinv.2.2

end Frames

section Signals

def begun (gen : ℕ) : Phase β → Bool
  | .handling (.endpointDown down) => decide (down.gen = gen)
  | .rebinding _ => true
  | _ => false

/-- A signal of the current generation is queued. -/
def Queued (s : RunningBridge β) : Prop :=
  ∃ down, s.endpointDown = some down ∧ down.gen = s.endpointGen

/-- A disconnect of the current connection is queued or dealt with, or the bridge is shut down.
Without a reconnector the disconnect cancels the bridge. -/
def Noticed (cfg : BridgeConfig) (s : RunningBridge β) : Prop :=
  (s.conn s.endpointGen).disconnected = true →
    s.Queued ∨ begun s.endpointGen s.phase = true ∨ s.closing.isSome = true ∨
      cfg.rebind = false ∧ s.ctxDone = true

def raisedBy : Move β → Option ℕ
  | ⟨_, .conn (.endpoint g) a⟩ => if a.disconnects then some g else none
  | _ => none

/-- A disconnect of the current connection that has to be noticed finds no signal of another
generation in the queue. -/
def QueueFree (cfg : BridgeConfig) (s : RunningBridge β) (e : Move β) : Prop :=
  cfg.rebind = true → raisedBy e = some s.endpointGen → s.closing = none →
    begun s.endpointGen s.phase = false → ∀ down ∈ s.endpointDown, down.gen = s.endpointGen

instance (cfg : BridgeConfig) (s : RunningBridge β) (e : Move β) :
    Decidable (QueueFree cfg s e) :=
  inferInstanceAs (Decidable (_ → _ → _ → _ → _))

theorem disconnected_of_step {c c' : Conn β} (h : c.step a = some c') :
    c'.disconnected = (c.disconnected || a.disconnects) := by
  cases a with
  | read =>
    rw [Conn.step] at h
    split at h
    · cases h
      exact (Bool.or_false _).symm
    · cases h
  | park =>
    rw [Conn.step] at h
    split at h
    · obtain ⟨-, h⟩ := ite_none_left_eq_some.mp h
      cases h
      exact (Bool.or_false _).symm
    · cases h
  | leave =>
    rw [Conn.step] at h
    split at h
    · obtain ⟨-, h⟩ := ite_none_right_eq_some.mp h
      cases h
      exact (Bool.or_false _).symm
    · cases h
  | readFails =>
    rw [Conn.step] at h
    split at h
    · cases h
      exact (Bool.or_true _).symm
    · cases h
  | pingFails =>
    obtain ⟨-, h⟩ := ite_none_right_eq_some.mp h
    cases h
    exact (Bool.or_true _).symm

theorem Noticed.keep (h : Noticed cfg s) (hgen : s'.endpointGen = s.endpointGen)
    (hconn : (s'.conn s.endpointGen).disconnected = true → (s.conn s.endpointGen).disconnected =
    true) (hqueued : s.Queued → s'.Queued ∨ begun s.endpointGen s'.phase = true)
    (hbegun : begun s.endpointGen s.phase = true → begun s.endpointGen s'.phase = true ∨
    s'.closing.isSome = true) (hclosing : s.closing.isSome = true → s'.closing.isSome = true)
    (hctx : s.ctxDone = true → s'.ctxDone = true) : Noticed cfg s' := by
  intro hdown
  rw [hgen] at hdown ⊢
  rcases h (hconn hdown) with hq | hb | hc | ⟨hrebind, hdone⟩
  · rcases hqueued hq with hq' | hb'
    · exact .inl hq'
    · exact .inr (.inl hb')
  · rcases hbegun hb with hb' | hc'
    · exact .inr (.inl hb')
    · exact .inr (.inr (.inl hc'))
  · exact .inr (.inr (.inl (hclosing hc)))
  · exact .inr (.inr (.inr ⟨hrebind, hctx hdone⟩))

theorem noticed_of_closing (h : s.closing.isSome = true) : Noticed cfg s :=
  fun _ => .inr (.inr (.inl h))

theorem noticed_of_begun (h : begun s.endpointGen s.phase = true) : Noticed cfg s :=
  fun _ => .inr (.inl h)

theorem setConn_disconnected {c : Conn β} {g : ℕ}
    (hstep : (s.getConn src).step a = some c) (hother : src = .endpoint g → a.disconnects = false) :
    ((s.setConn c src).conn g).disconnected = (s.conn g).disconnected := by
  change ((s.setConn c src).getConn (.endpoint g)).disconnected = _
  by_cases heq : Source.endpoint g = src
  · subst heq
    rw [getConn_setConn_self, disconnected_of_step hstep, hother rfl, Bool.or_false]
    rfl
  · rw [getConn_setConn_of_ne heq]
    rfl

theorem Noticed.setConn {c : Conn β} (h : Noticed cfg s) (hstep : (s.getConn src).step a = some c)
    (hother : src = .endpoint s.endpointGen → a.disconnects = false) :
    Noticed cfg (s.setConn c src) := by
  refine h.keep setConn_endpointGen (fun hd => ?_) (fun hq => .inl ?_) (fun hb => .inl ?_) ?_ ?_
  · rwa [setConn_disconnected hstep hother] at hd
  · simpa [Queued] using hq
  · simpa using hb
  · simp
  · simp

theorem Noticed.cancelCtx (h : Noticed cfg s) : Noticed cfg s.cancelCtx :=
  h.keep rfl (fun hd => hd) .inl .inl (fun hc => hc) fun _ => rfl

theorem noticed_of_other (h : Noticed cfg s) : Noticed cfg (s.onDisconnect cfg src) := by
  rcases onDisconnect_cases cfg s src with heq | ⟨g, -, heq⟩ <;> rw [heq]
  · exact h.cancelCtx
  · refine h.keep rfl (fun hd => hd) (fun hq => .inl ?_) .inl (fun hc => hc) fun hdone => hdone
    obtain ⟨down, hdown, hgen⟩ := hq
    refine ⟨down, ?_, hgen⟩
    change some (s.endpointDown.getD _) = some down
    rw [hdown]
    rfl

theorem noticed_of_disconnect {now : Time}
    {c : Conn β} (hcond : QueueFree cfg s ⟨now, .conn (.endpoint s.endpointGen) a⟩)
    (hloud : a.disconnects = true) :
    Noticed cfg
      ((s.setConn c (.endpoint s.endpointGen)).onDisconnect cfg (.endpoint s.endpointGen)) := by
  intro _
  rw [onDisconnect]
  split_ifs with hrebind
  · cases hclosing : s.closing with
    | some => exact .inr (.inr (.inl (by simp [endpointDisconnectFunc, hclosing, setConn])))
    | none =>
      cases hbegun : begun s.endpointGen s.phase with
      | true => exact .inr (.inl hbegun)
      | false =>
        left
        have hfree := hcond hrebind (by simp [raisedBy, hloud]) hclosing hbegun
        cases hdown : s.endpointDown with
        | none => exact ⟨⟨s.endpointGen, .network⟩, by
            simp [endpointDisconnectFunc, setConn, hdown], rfl⟩
        | some down => exact ⟨down, by
            simp [endpointDisconnectFunc, setConn, hdown], hfree down hdown⟩
  · exact .inr (.inr (.inr ⟨Bool.eq_false_iff.mpr hrebind, rfl⟩))

theorem Noticed.of_selecting (h : Noticed cfg s)
    (hphase : s.phase = .selecting) (hgen : s'.endpointGen = s.endpointGen)
    (hconn : ∀ g, (s'.conn g).disconnected = (s.conn g).disconnected)
    (hqueue : s'.endpointDown = s.endpointDown)
    (hclosing : s'.closing = s.closing) (hctx : s'.ctxDone = s.ctxDone) : Noticed cfg s' := by
  refine h.keep hgen (fun hd => (hconn _).symm.trans hd) (fun hq => .inl ?_) (fun hb => ?_)
    (fun hc => hclosing ▸ hc) fun hdone => hctx.trans hdone
  · rw [Queued, hqueue, hgen]
    exact hq
  · rw [hphase] at hb
    cases hb

theorem receive_disconnected {frame : β} (g : ℕ) :
    ((s.receive src frame).conn g).disconnected = (s.conn g).disconnected := by
  change ((s.setConn { s.getConn src with reader := .reading } src).getConn
    (.endpoint g)).disconnected = (s.getConn (.endpoint g)).disconnected
  by_cases heq : Source.endpoint g = src
  · subst heq
    rw [getConn_setConn_self]
  · rw [getConn_setConn_of_ne heq]

theorem Noticed.receive {frame : β} (h : Noticed cfg s)
    (hphase : s.phase = .selecting) : Noticed cfg (s.receive src frame) :=
  h.of_selecting hphase receive_endpointGen receive_disconnected receive_endpointDown
    receive_closing setConn_ctxDone

theorem noticed_of_moves (h : Noticed cfg s) (hcond : QueueFree cfg s e)
    (hmove : Moves cfg s e s') : Noticed cfg s' := by
  cases hmove with
  | conn hmade hstep hquiet => exact h.setConn hstep fun _ => hquiet
  | @disconnect now src a c hmade hstep hloud =>
    by_cases hsrc : src = .endpoint s.endpointGen
    · subst hsrc
      exact noticed_of_disconnect hcond hloud
    · exact noticed_of_other (h.setConn hstep fun heq => absurd heq hsrc)
  | offer hphase | takeMessage hphase => exact h.receive hphase
  | tick | tumble => exact h.keep rfl (fun hd => hd) .inl .inl (fun hc => hc) fun hdone => hdone
  | close | shut | fail | panics => exact noticed_of_closing shutdown_closing
  | cancelParent => exact h.cancelCtx
  | takeEndpointDown hphase hdown =>
    refine h.keep rfl (fun hd => hd) (fun hq => .inr ?_) (fun hb => ?_) (fun hc => hc)
      fun hdone => hdone
    · obtain ⟨down', hdown', hgen⟩ := hq
      cases hdown.symm.trans hdown'
      exact decide_eq_true hgen
    · rw [hphase] at hb
      cases hb
  | takeTicker hphase | takeTumble hphase | takeCtxDone hphase =>
    exact h.of_selecting hphase rfl (fun _ => rfl) rfl rfl rfl
  | @resume now a task watch log hphase hstale hlog =>
    refine h.keep rfl (fun hd => hd) .inl (fun hb => ?_) (fun hc => hc) fun hdone => hdone
    rw [hphase] at hb
    cases task with
    | endpointDown down => exact absurd (of_decide_eq_true hb) (hstale down rfl)
    | message msg | ticker t | tumble | ctxDone => cases hb
  | rebind | leave | enter => exact noticed_of_begun rfl
  | install =>
    intro hdown
    change (Function.update s.conn (s.endpointGen + 1) _ (s.endpointGen + 1)).disconnected = true
      at hdown
    rw [Function.update_self] at hdown
    cases hdown

theorem queueFree_of_noticed (hstep : s.step cfg e = some s') (h : Noticed cfg s') :
    QueueFree cfg s e := by
  intro hrebind hraised hopen hbegun down hdown
  obtain ⟨now, action⟩ := e
  cases action with
  | conn src =>
    cases src with
    | client => cases hraised
    | endpoint =>
      obtain ⟨hloud, hg⟩ := ite_none_right_eq_some.mp hraised
      cases hg
      obtain ⟨-, hstep⟩ := ite_none_right_eq_some.mp hstep
      obtain ⟨c, hc, heq⟩ := map_eq_some_iff.mp hstep
      rw [if_pos hloud, onDisconnect, if_pos hrebind] at heq
      subst heq
      have hdisconnected : c.disconnected = true := by
        rw [disconnected_of_step hc, hloud, Bool.or_true]
      have hnoticed := h (by simpa [endpointDisconnectFunc, setConn] using hdisconnected)
      rcases hnoticed with ⟨queued, hq, hgen⟩ | hb | hclosed | ⟨hoff, -⟩
      · change some (s.endpointDown.getD _) = some queued at hq
        rw [hdown, getD_some, some.injEq] at hq
        exact hq ▸ hgen
      · change begun s.endpointGen s.phase = true at hb
        rw [hbegun] at hb
        cases hb
      · change s.closing.isSome = true at hclosed
        rw [hopen] at hclosed
        cases hclosed
      · rw [hrebind] at hoff
        cases hoff
  | offer src | tick t | tumble | close | cancelParent | take c | proceed a | panics =>
    cases hraised

/-- Every disconnect is noticed exactly when no stale signal blocks the queue. -/
theorem noticed_iff_queueFree (cfg : BridgeConfig) (now : Time) (es : List (Move β))
    (t : RunningBridge β) (hrun : run (step cfg) (start now) es = some t) :
    (∀ pre post u, es = pre ++ post → run (step cfg) (start now) pre = some u →
      Noticed cfg u) ↔ Machine.Meets (step cfg) (QueueFree cfg) (start now) es :=
  always_iff_meets (fun _ _ _ h hstep => ⟨queueFree_of_noticed hstep,
    fun hcond => noticed_of_moves h hcond (moves_of_step hstep)⟩) (fun h => by cases h) hrun

end Signals

section Runs

def tumbled : List (Move ℕ) :=
  [⟨1, .tumble⟩, ⟨1, .take .tumble⟩, ⟨1, .proceed {}⟩, ⟨1, .proceed {}⟩, ⟨1, .proceed {}⟩,
    ⟨1, .proceed {}⟩, ⟨1, .proceed {}⟩]

def rolledOver : List (Move ℕ) :=
  [⟨2, .conn (.endpoint 0) (.readFails ⟨4000, "session expired"⟩)⟩, ⟨2, .take .endpointDown⟩,
    ⟨2, .proceed {}⟩, ⟨2, .proceed {}⟩, ⟨2, .proceed {}⟩, ⟨2, .proceed {}⟩, ⟨2, .proceed {}⟩]

def delivered : List (Move ℕ) :=
  [⟨1, .conn (.endpoint 0) (.read 3)⟩, ⟨1, .offer (.endpoint 0)⟩, ⟨1, .proceed {}⟩]

def framesAround : List (Move ℕ) :=
  delivered ++ rolledOver ++
    [⟨3, .conn (.endpoint 1) (.read 4)⟩, ⟨3, .offer (.endpoint 1)⟩]

theorem frames_around_fromCurrent : ∃ t : RunningBridge ℕ,
    run (step rebindConfig) (start 0) framesAround = some t ∧
    t.phase = .handling (.message ⟨4, .endpoint 1⟩) ∧ t.FromCurrent := by
  refine exists_of_any (fun t => t.phase = .handling (.message ⟨4, .endpoint 1⟩))
    (by decide +kernel) fun t ht hphase => ?_
  exact ⟨hphase, fromCurrent_of_leavesNoFrame rebindConfig 0 framesAround t (by decide +kernel) ht⟩

/-- The read loop of the first connection has a frame, and comes to its select when the second
connection is there and the loop is blocked. It then may send the frame although its context is
cancelled. -/
def lateFrame : List (Move ℕ) :=
  [⟨0, .conn (.endpoint 0) (.read 3)⟩] ++ tumbled ++ [⟨2, .offer (.endpoint 0)⟩]

theorem late_frame_forwarded : ∃ u t : RunningBridge ℕ,
    run (step rebindConfig) (start 0) lateFrame = some u ∧
    u.endpointGen = 1 ∧ u.phase = .handling (.message ⟨3, .endpoint 0⟩) ∧ ¬u.FromCurrent ∧
    u.step rebindConfig ⟨2, .proceed {}⟩ = some t ∧ t.log = .forwarded :: u.log := by
  refine ⟨_, _, eq_some_of_isSome (by decide +kernel), by decide +kernel, by decide +kernel,
    fun h => ?_, eq_some_of_isSome (by decide +kernel), by decide +kernel⟩
  exact absurd (h 3 0 (by decide +kernel)) (by decide +kernel)

theorem rollover_noticed : ∃ t : RunningBridge ℕ,
    run (step rebindConfig) (start 0)
      (rolledOver ++ [⟨3, .conn (.endpoint 1) .pingFails⟩]) = some t ∧
    t.endpointGen = 1 ∧ t.Queued ∧
    ∀ pre post u, rolledOver ++ [⟨3, .conn (.endpoint 1) .pingFails⟩] = pre ++ post →
      run (step rebindConfig) (start 0) pre = some u → Noticed rebindConfig u := by
  refine exists_of_any (fun t => t.endpointGen = 1 ∧ t.endpointDown = some ⟨1, .network⟩)
    (by decide +kernel) fun t ht heq => ?_
  exact ⟨heq.1, ⟨⟨1, .network⟩, heq.2, heq.1.symm⟩,
    (noticed_iff_queueFree rebindConfig 0 _ t ht).mpr (by decide +kernel)⟩

/-- The read loop of the first connection fails as the bridge closes it. Its signal is still
queued when the second connection fails, and once it is taken nothing is left of that. -/
def lostSignal : List (Move ℕ) :=
  tumbled ++ [⟨2, .conn (.endpoint 0) (.readFails ⟨0, ""⟩)⟩,
    ⟨2, .conn (.endpoint 1) (.readFails ⟨1006, "unexpected EOF"⟩)⟩, ⟨3, .take .endpointDown⟩,
    ⟨3, .proceed {}⟩]

theorem lost_signal_not_noticed : ∃ t : RunningBridge ℕ,
    run (step rebindConfig) (start 0) lostSignal = some t ∧ t.endpointGen = 1 ∧
    (t.conn 1).disconnected = true ∧ t.endpointDown = none ∧ t.phase = .selecting ∧
    t.closing = none ∧ ¬Noticed rebindConfig t := by
  refine ⟨_, eq_some_of_isSome (by decide +kernel), by decide +kernel, by decide +kernel,
    by decide +kernel, by decide +kernel, by decide +kernel, fun h => ?_⟩
  rcases h (by decide +kernel) with ⟨down, hsome, -⟩ | hb | hc | ⟨hoff, -⟩
  · exact absurd (isSome_of_eq_some hsome) (by decide +kernel)
  · exact absurd hb (by decide +kernel)
  · exact absurd hc (by decide +kernel)
  · cases hoff

end Runs

end PathGateway.Websockets.RunningBridge
