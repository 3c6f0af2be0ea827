import PathGateway.BridgeMoves

/-! What a bridge may still do once it is shut down. The handlers of the loop shut it down between
two messages, and no message gets through afterwards, as the select of neither side can be blocked
then. `Close` comes from another goroutine, though, and may find the loop with a message in
hand. -/

namespace PathGateway.Websockets.RunningBridge

open Machine

variable {β : Type} {cfg : BridgeConfig} {s s' : RunningBridge β}

def inHand : Phase β → Bool
  | .handling (.message _) => true
  | .rebinding r => decide (r.stage = .leaving)
  | _ => false

def InHand (s : RunningBridge β) : Prop := inHand s.phase = true

/-- Nothing is in hand once the bridge is shut down, and never a message while there is no
endpoint connection. -/
def StopsWork (s : RunningBridge β) : Prop :=
  (s.closing.isSome = true → ¬s.InHand) ∧
    ∀ msg, s.phase = .handling (.message msg) → s.endpointConn = true

/-- A `Close` that shuts the bridge down finds nothing in hand. -/
def ClosesBetween (s : RunningBridge β) (e : Move β) : Prop :=
  e.action = .close → s.closing = none → ¬s.InHand

instance [DecidableEq β] (s : RunningBridge β) (e : Move β) : Decidable (s.ClosesBetween e) :=
  inferInstanceAs (Decidable (e.action = .close → s.closing = none → ¬inHand s.phase = true))

theorem InHand.of_phase (h : s'.InHand) (hphase : s'.phase = s.phase) : s.InHand := by
  rw [InHand, ← hphase]
  exact h

theorem not_inHand_of_phase (h : s.phase = .selecting ∨ s.phase = .returned) : ¬s.InHand := by
  rw [InHand]
  rcases h with h | h <;> simp [h, inHand]

theorem closing_of_ctxDone (h : s.Linked) (hctx : s.ctxDone = false) : s.closing = none := by
  cases hclosing : s.closing with
  | none => rfl
  | some =>
    have hdone := h.closing (by simp [hclosing])
    rw [hctx] at hdone
    cases hdone

theorem not_inHand_of_moves {e : Move β} (hsound : s.Sound)
    (h : s.closing.isSome = true → ¬s.InHand) (hcond : s.ClosesBetween e)
    (hmove : Moves cfg s e s') (hclosing : s'.closing.isSome = true) : ¬s'.InHand := by
  have hopen : s.ctxDone = false → s.closing.isSome = true → False := fun hctx hsome => by
    rw [closing_of_ctxDone hsound.linked hctx] at hsome
    cases hsome
  cases hmove with
  | conn =>
    rw [setConn_closing] at hclosing
    exact fun hin => h hclosing (hin.of_phase setConn_phase)
  | disconnect =>
    rw [onDisconnect_closing, setConn_closing] at hclosing
    exact fun hin => h hclosing (hin.of_phase (onDisconnect_phase.trans setConn_phase))
  | offer hphase hidle =>
    rw [receive_closing] at hclosing
    exact (hopen hidle.ctxDone hclosing).elim
  | tick | tumble | cancelParent => exact fun hin => h hclosing (hin.of_phase rfl)
  | close =>
    cases hwas : s.closing with
    | none => exact fun hin => hcond rfl hwas (hin.of_phase shutdown_phase)
    | some => exact fun hin => h (by simp [hwas]) (hin.of_phase shutdown_phase)
  | takeMessage hphase hmade hreader =>
    rw [receive_closing] at hclosing
    exact (hopen (ctxDone_of_parked hsound.linked hreader) hclosing).elim
  | takeEndpointDown | takeTicker | takeTumble | takeCtxDone | resume | leave | install =>
    exact fun hin => by cases hin
  | shut hphase hend =>
    refine not_inHand_of_phase ?_
    rw [shutdown_phase]
    exact hend
  | rebind hphase hctx => exact (hopen hctx hclosing).elim
  | enter hphase hstage hnext => exact fun hin => hnext (of_decide_eq_true hin)
  | fail => exact not_inHand_of_phase (.inl shutdown_phase)
  | panics => exact not_inHand_of_phase (.inr shutdown_phase)

theorem Sound.endpointConn_of_message (h : s.Sound) {msg : Message β}
    (hphase : s.phase = .handling (.message msg)) : s.endpointConn = true := by
  rcases h.connected with hconn | ⟨r, hr, -⟩ | ⟨-, hmsg⟩
  · exact hconn
  · cases hphase.symm.trans hr
  · exact absurd hphase (hmsg msg)

theorem stopsWork_iff_of_step {e : Move β} (hsound : s.Sound) (h : s.StopsWork)
    (hstep : s.step cfg e = some s') : s'.StopsWork ↔ s.ClosesBetween e := by
  constructor
  · rintro ⟨hstops, -⟩ hclose hopen hin
    obtain ⟨now, action⟩ := e
    cases hclose
    cases hstep
    refine hstops shutdown_closing ?_
    rw [InHand, shutdown_phase]
    exact hin
  · intro hcond
    have hmove := moves_of_step hstep
    exact ⟨not_inHand_of_moves hsound h.1 hcond hmove,
      fun msg => (sound_of_step hsound hstep).endpointConn_of_message⟩

/-- Work has stopped at every point of a run exactly when each `Close` comes between messages. -/
theorem stopsWork_iff_closesBetween (cfg : BridgeConfig) (now : Time) (es : List (Move β))
    (t : RunningBridge β) (hrun : run (step cfg) (start now) es = some t) :
    (∀ pre post u, es = pre ++ post → run (step cfg) (start now) pre = some u →
      u.StopsWork) ↔ Machine.Meets (step cfg) ClosesBetween (start now) es :=
  always_iff_meets_under (fun _ _ _ h hstep => sound_of_step h hstep)
    (fun _ _ _ hsound h hstep => stopsWork_iff_of_step hsound h hstep) (sound_start now)
    ⟨fun h => Bool.noConfusion h, fun _ h => by cases h⟩ hrun

section Runs

def rebindConfig : BridgeConfig := ⟨true, true, 0⟩

def messageReceived : List (Move ℕ) :=
  [⟨0, .conn .client (.read 7)⟩, ⟨0, .offer .client⟩]

def closedAtRest : List (Move ℕ) :=
  messageReceived ++
    [⟨0, .proceed {}⟩, ⟨0, .close⟩, ⟨0, .take .ctxDone⟩, ⟨0, .proceed {}⟩]

theorem closed_at_rest_stopsWork : ∃ t : RunningBridge ℕ,
    run (step rebindConfig) (start 0) closedAtRest = some t ∧
    t.closing.isSome = true ∧ t.phase = .returned ∧
    ∀ pre post u, closedAtRest = pre ++ post →
      run (step rebindConfig) (start 0) pre = some u → u.StopsWork := by
  refine exists_of_any (fun t => t.closing.isSome = true ∧ t.phase = .returned)
    (by decide +kernel) fun t ht h => ?_
  exact ⟨h.1, h.2, (stopsWork_iff_closesBetween rebindConfig 0 closedAtRest t ht).mpr
    (by decide +kernel)⟩

theorem message_processed_after_close : ∃ u t : RunningBridge ℕ,
    run (step rebindConfig) (start 0) (messageReceived ++ [⟨0, .close⟩]) = some u ∧
    u.closing.isSome = true ∧ u.phase = .handling (.message ⟨7, .client⟩) ∧
    u.step rebindConfig ⟨0, .proceed {}⟩ = some t ∧ ¬u.StopsWork := by
  refine ⟨_, _, Option.eq_some_of_isSome (by decide +kernel), by decide +kernel, by decide +kernel,
    Option.eq_some_of_isSome (by decide +kernel), fun h => h.1 (by decide +kernel) ?_⟩
  exact show inHand _ = true by decide +kernel

end Runs

end PathGateway.Websockets.RunningBridge
