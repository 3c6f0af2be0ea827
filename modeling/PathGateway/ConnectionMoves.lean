import PathGateway.EndpointGenerations

/-! Moving a connection that works to another endpoint, as an operator asks for it or as its
session has ended. The old connection is closed before there is a new one, so that a rebind that
fails costs the client its connection. -/

namespace PathGateway.Websockets.RunningBridge

open Option Machine

variable {β : Type} {cfg : BridgeConfig} {s s' : RunningBridge β} {e : Move β} {r : Rebind}

def isMove (r : Rebind) : Bool :=
  r.delivering && (decide (r.err = .tumbled) || decide (r.err = .sessionExpired))

/-- No such move has shut the bridge down. -/
def KeepsClient (s : RunningBridge β) : Prop :=
  ∀ c ∈ s.closing, ∀ r ∈ c.rebind, isMove r = false

/-- The move is at its last attempt and that fails, or the replay frames are not built or not
written, or something panics, while the context is not cancelled. -/
def breaksMove (s : RunningBridge β) (e : Move β) : Bool :=
  match s.phase with
  | .rebinding r => isMove r && !s.ctxDone &&
    match e.action with
    | .proceed a => failsWith a r.stage
    | .panics => true
    | _ => false
  | _ => false

theorem keepsClient_of_closing (h : s.KeepsClient) (hclosing : s'.closing = s.closing) :
    s'.KeepsClient := by
  rw [KeepsClient, hclosing]
  exact h

variable {err : BridgeError}

theorem keepsClient_shutdown_iff {rebind : Option Rebind} (hlinked : s.Linked) (h : s.KeepsClient) :
    (s.shutdown err rebind).KeepsClient ↔ (s.ctxDone = false → ∀ r ∈ rebind, isMove r = false) := by
  rcases shutdown_cases s err rebind with ⟨hclosed, heq⟩ | ⟨-, closing, -, hrebind, heq⟩
  · have hdone := hlinked.closing hclosed
    rw [heq, hdone]
    exact iff_of_true h fun hctx => by cases hctx
  · have hsome : (s.shutdown err rebind).closing = some closing := by rw [heq]
    rw [KeepsClient, hsome]
    cases hctx : s.ctxDone with
    | true =>
      rw [hctx] at hrebind
      refine iff_of_true ?_ fun hfalse => by cases hfalse
      rintro c ⟨⟩ r hr
      rw [hrebind] at hr
      cases hr
    | false =>
      rw [hctx] at hrebind
      constructor
      · intro hkeeps _ r hr
        exact hkeeps closing rfl r (hrebind.symm ▸ hr)
      · rintro hmove c ⟨⟩ r hr
        rw [hrebind] at hr
        exact hmove rfl r hr

theorem keepsClient_shutdown (hlinked : s.Linked) (h : s.KeepsClient) :
    (s.shutdown err none).KeepsClient :=
  (keepsClient_shutdown_iff hlinked h).mpr fun _ r hr => by cases hr

theorem keepsClient_shut_iff {phase : Phase β}
    (hlinked : s.Linked) (h : s.KeepsClient) (hphase : ∀ r, phase ≠ .rebinding r) :
    ({ s with phase := phase }.shutdown err (some r)).KeepsClient ↔
    (isMove r && !s.ctxDone) = false := by
  rw [keepsClient_shutdown_iff (hlinked.of_phase hphase s.watch s.log) h]
  cases hctx : s.ctxDone <;> cases hmove : isMove r <;> simp [hmove]

theorem breaksMove_of_other (hproceed : ∀ a, e.action ≠ .proceed a) (hpanics : e.action ≠ .panics) :
    breaksMove s e = false := by
  obtain ⟨now, action⟩ := e
  rw [breaksMove]
  cases s.phase <;> cases action <;> simp_all

theorem keepsClient_iff_of_moves (hlinked : s.Linked) (h : s.KeepsClient)
    (hmove : Moves cfg s e s') : s'.KeepsClient ↔ breaksMove s e = false := by
  have hother (hkeeps : s'.KeepsClient) (hproceed : ∀ a, e.action ≠ .proceed a)
      (hpanics : e.action ≠ .panics) : s'.KeepsClient ↔ breaksMove s e = false :=
    iff_of_true hkeeps (breaksMove_of_other hproceed hpanics)
  cases hmove with
  | conn => exact hother (keepsClient_of_closing h setConn_closing) (by simp) (by simp)
  | disconnect =>
    exact hother (keepsClient_of_closing h (onDisconnect_closing.trans setConn_closing)) (by simp)
      (by simp)
  | offer | takeMessage =>
    exact hother (keepsClient_of_closing h receive_closing) (by simp) (by simp)
  | tick | tumble | cancelParent | takeEndpointDown | takeTicker | takeTumble | takeCtxDone =>
    exact hother h (by simp) (by simp)
  | close => exact hother (keepsClient_shutdown hlinked h) (by simp) (by simp)
  | resume hphase | rebind hphase => exact iff_of_true h (by rw [breaksMove, hphase])
  | shut hphase hend =>
    refine iff_of_true (keepsClient_shutdown (hlinked.of_phase (fun r hr => ?_) _ s.log) h)
      (by rw [breaksMove, hphase])
    rcases hend with rfl | rfl <;> cases hr
  | leave hphase hstage =>
    exact iff_of_true (keepsClient_of_closing h rfl) (by simp [breaksMove, hphase, hstage,
      failsWith])
  | enter hphase hstage hnext hgoes => exact iff_of_true h (by simp [breaksMove, hphase, hgoes])
  | fail hphase hstage hfails =>
    rw [failRebind, resume, keepsClient_shut_iff hlinked h (by simp), breaksMove, hphase]
    rcases hfails with hdone | hfails
    · simp [hdone]
    · simp [hfails]
  | install hphase hstage hreplayed =>
    exact iff_of_true h (by simp [breaksMove, hphase, hstage, failsWith, hreplayed])
  | panics hphase =>
    rcases hphase with ⟨task, hphase, rfl⟩ | ⟨r, hphase, rfl⟩
    · refine iff_of_true ?_ (by rw [breaksMove, hphase])
      exact keepsClient_shutdown (hlinked.of_phase (by simp) s.watch s.log) h
    · rw [recover, keepsClient_shut_iff hlinked h (by simp), breaksMove, hphase]
      simp

/-- The client is kept through the moves of a run exactly when none of them breaks. -/
theorem keepsClient_iff_movesSucceed (cfg : BridgeConfig) (now : Time) (es : List (Move β))
    (t : RunningBridge β) (hrun : run (step cfg) (start now) es = some t) :
    (∀ pre post u, es = pre ++ post → run (step cfg) (start now) pre = some u →
      u.KeepsClient) ↔
    Machine.Meets (step cfg) (fun s e => breaksMove s e = false) (start now) es :=
  always_iff_meets_under (fun _ _ _ h hstep => linked_of_moves h (moves_of_step hstep))
    (fun _ _ _ hlinked h hstep => keepsClient_iff_of_moves hlinked h (moves_of_step hstep))
    (linked_start now) (fun c hc => by cases hc) hrun

section Runs

theorem tumbled_keepsClient : ∃ t : RunningBridge ℕ,
    run (step rebindConfig) (start 0) tumbled = some t ∧ t.endpointGen = 1 ∧
    t.log = [.rebind .tumbled] ∧
    ∀ pre post u, tumbled = pre ++ post →
      run (step rebindConfig) (start 0) pre = some u → u.KeepsClient := by
  refine exists_of_any (fun t => t.endpointGen = 1 ∧ t.log = [.rebind .tumbled])
    (by decide +kernel) fun t ht h => ?_
  exact ⟨h.1, h.2, (keepsClient_iff_movesSucceed rebindConfig 0 tumbled t ht).mpr
    (by decide +kernel)⟩

def failedAttempt : List (Move ℕ) :=
  [⟨1, .proceed {}⟩, ⟨1, .proceed { reconnected := false }⟩, ⟨1, .proceed {}⟩]

def tumbledInVain : List (Move ℕ) :=
  delivered ++ [⟨1, .tumble⟩, ⟨1, .take .tumble⟩, ⟨1, .proceed {}⟩, ⟨1, .proceed {}⟩] ++
    failedAttempt ++ failedAttempt ++ failedAttempt ++ failedAttempt ++
    [⟨1, .proceed {}⟩, ⟨1, .proceed { reconnected := false }⟩]

theorem tumbled_in_vain_closes :
    ∃ t : RunningBridge ℕ, ∃ c, run (step rebindConfig) (start 0) tumbledInVain = some t ∧
    t.closing = some c ∧ c.err = .endpointUnavailable ∧
    c.client = ⟨closeServiceRestart, "endpoint temporarily unavailable, please reconnect"⟩ ∧
    c.rebind = some ⟨.tumbled, true, .dialing reconnectMaxAttempts⟩ ∧ ¬t.KeepsClient := by
  refine ⟨_, _, eq_some_of_isSome (by decide +kernel),
    eq_some_of_isSome (by decide +kernel), by decide +kernel, by decide +kernel,
    by decide +kernel, fun h => ?_⟩
  cases h _ (eq_some_of_isSome (by decide +kernel))
    ⟨.tumbled, true, .dialing reconnectMaxAttempts⟩ (by decide +kernel)

end Runs

end PathGateway.Websockets.RunningBridge
