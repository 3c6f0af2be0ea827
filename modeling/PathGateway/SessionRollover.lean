import Mathlib.Algebra.Order.Ring.Int
import PathGateway.Machine

/-! When the gateway takes itself to be in a session rollover: block heights and sessions come in
independently, and the window of a session is kept until the height has passed it. -/

namespace PathGateway

open Machine

structure SessionRolloverState where
  currentBlockHeight : ℤ := 0
  sessionRolloverStart : ℤ := 0
  sessionRolloverEnd : ℤ := 0
  isInSessionRollover : Bool := false
  deriving DecidableEq

namespace SessionRolloverState

variable (s : SessionRolloverState) (t : Tracked)

def calculateRolloverStatus : Bool :=
  if s.currentBlockHeight = 0 ∨ s.sessionRolloverStart = 0 ∨ s.sessionRolloverEnd = 0 then false
  else decide (s.sessionRolloverStart ≤ s.currentBlockHeight ∧
    s.currentBlockHeight ≤ s.sessionRolloverEnd)

def recalculate : SessionRolloverState :=
  { s with isInSessionRollover := s.calculateRolloverStatus }

def updateWithBlockHeight (newHeight : ℤ) : SessionRolloverState :=
  if newHeight ≤ s.currentBlockHeight then s
  else recalculate { s with currentBlockHeight := newHeight }

/-- A session without a header has no end height. -/
def updateSessionRolloverBoundaries (sessionRolloverBlocks : ℤ) (s : SessionRolloverState) :
    Option ℤ → SessionRolloverState
  | none => s
  | some sessionEndHeight =>
    if s.sessionRolloverEnd = 0 ∨ s.sessionRolloverEnd < s.currentBlockHeight then
      recalculate { s with
        sessionRolloverStart := sessionEndHeight - 1
        sessionRolloverEnd := sessionEndHeight + sessionRolloverBlocks }
    else recalculate s

inductive Update where
  | height (newHeight : ℤ)
  | session (sessionEndHeight : Option ℤ)

/-- The state together with the end height of the latest session that came in. -/
structure Tracked where
  state : SessionRolloverState := {}
  supplied : Option ℤ := none
  deriving DecidableEq

def step (sessionRolloverBlocks : ℤ) (t : Tracked) : Update → Option Tracked
  | .height newHeight => some { t with state := t.state.updateWithBlockHeight newHeight }
  | .session sessionEndHeight => some
    { state := t.state.updateSessionRolloverBoundaries sessionRolloverBlocks sessionEndHeight
      supplied := sessionEndHeight.or t.supplied }

/-- A session takes the place of the stored one, whose window is over, or has the same end. None
ends at the height whose window would start at 0. -/
def Adopted : Update → Prop
  | .session (some sessionEndHeight) => sessionEndHeight ≠ 1 ∧
    (t.state.sessionRolloverEnd = 0 ∨ t.state.sessionRolloverEnd < t.state.currentBlockHeight ∨
      t.supplied = some sessionEndHeight)
  | _ => True

instance : (u : Update) → Decidable (Adopted t u)
  | .session (some _) => inferInstanceAs (Decidable (_ ∧ _))
  | .session none | .height _ => inferInstanceAs (Decidable True)

structure Follows (sessionRolloverBlocks : ℤ) (t : Tracked) : Prop where
  height : 0 ≤ t.state.currentBlockHeight
  status : t.state.isInSessionRollover = t.state.calculateRolloverStatus
  window : ∀ sessionEndHeight, t.supplied = some sessionEndHeight → sessionEndHeight ≠ 1 ∧
    t.state.sessionRolloverStart = sessionEndHeight - 1 ∧
    t.state.sessionRolloverEnd = sessionEndHeight + sessionRolloverBlocks

variable {blocks : ℤ} {t t' : Tracked} {u : Update}

theorem Follows.step (h : Follows blocks t) (hadopted : Adopted t u)
    (hstep : step blocks t u = some t') : Follows blocks t' := by
  cases u with
  | height newHeight =>
    cases hstep
    simp only [updateWithBlockHeight]
    split
    · exact h
    · exact ⟨h.height.trans (not_le.mp ‹_›).le, rfl, h.window⟩
  | session supplied =>
    cases hstep
    cases supplied with
    | none => exact h
    | some e =>
      simp only [updateSessionRolloverBoundaries]
      split
      · refine ⟨h.height, rfl, fun e' he => ?_⟩
        cases he
        exact ⟨hadopted.1, rfl, rfl⟩
      · have hsame := (or_assoc.mpr hadopted.2).resolve_left ‹_›
        exact ⟨h.height, rfl, fun e' he => h.window e' (hsame.trans he)⟩

/-- If every session is taken over when it comes in, its window is detected. -/
theorem window_detected (blocks : ℤ) (us : List Update) (t : Tracked)
    (hadopted : Machine.Meets (step blocks) Adopted {} us)
    (hrun : run (step blocks) {} us = some t) (e : ℤ) (he : t.supplied = some e)
    (hknown : t.state.currentBlockHeight ≠ 0) (hstart : e - 1 ≤ t.state.currentBlockHeight)
    (hend : t.state.currentBlockHeight ≤ e + blocks) : t.state.isInSessionRollover = true := by
  have hfollows : Follows blocks t := invariant (fun t u t' => Follows.step)
    ⟨le_refl _, rfl, fun e he => by cases he⟩ hadopted hrun
  obtain ⟨hne, hs, he⟩ := hfollows.window e he
  have hpos := hfollows.height
  rw [hfollows.status, calculateRolloverStatus, hs, he, if_neg (by omega)]
  exact decide_eq_true ⟨hstart, hend⟩

theorem second_window_detected :
    ∃ t, run (step 10) {} [.height 80, .session (some 100), .height 111,
        .session (some 120), .height 119] = some t ∧ t.state.isInSessionRollover = true :=
  exists_of_any (fun t => t.supplied = some 120 ∧ t.state.currentBlockHeight = 119)
    (by decide) fun t hrun ht =>
      window_detected 10 _ t (by decide) hrun 120 ht.1 (by omega) (by omega) (by omega)

theorem second_window_missed :
    ∃ t, run (step 10) {} [.height 80, .session (some 100), .height 105,
        .session (some 120), .height 119] = some t ∧ t.supplied = some 120 ∧
      t.state.currentBlockHeight = 119 ∧ t.state.isInSessionRollover = false := by
  decide

end SessionRolloverState

end PathGateway
