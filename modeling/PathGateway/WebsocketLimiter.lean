import Mathlib.Algebra.BigOperators.Fin
import PathGateway.Machine

/-! The limit on live websocket connections: a counter raised in a compare-and-swap loop. -/

namespace PathGateway

open Machine

structure WebsocketConnectionLimiter where
  max : ℤ
  max_pos : 0 < max

namespace WebsocketConnectionLimiter

/-- Where a party is in its latest call of `Acquire`. -/
inductive Call where
  | none
  | loading
  | loaded (cur : ℤ)
  | returned (acquired : Bool)
  deriving DecidableEq

/-- `held` counts the slots a party has acquired and not released yet. -/
structure Snapshot (ι : Type*) where
  active : ℤ := 0
  calls : ι → Call := fun _ => .none
  held : ι → ℕ := fun _ => 0

inductive Event (ι : Type*) where
  | acquire (p : ι)
  | load (p : ι)
  | compareAndSwap (p : ι)
  | release (p : ι)

variable {ι : Type*} [DecidableEq ι]

def Snapshot.turn (s : Snapshot ι) (p : ι) (call : Call) : Snapshot ι :=
  { s with calls := Function.update s.calls p call }

def step (l : WebsocketConnectionLimiter) (s : Snapshot ι) : Event ι → Option (Snapshot ι)
  | .acquire p =>
    match s.calls p with
    | .none | .returned _ => some (s.turn p .loading)
    | _ => none
  | .load p =>
    if s.calls p = .loading then
      some (s.turn p (if l.max ≤ s.active then .returned false else .loaded s.active))
    else none
  | .compareAndSwap p =>
    match s.calls p with
    | .loaded cur =>
      if s.active = cur then
        some { s.turn p (.returned true) with
          active := cur + 1, held := Function.update s.held p (s.held p + 1) }
      else some (s.turn p .loading)
    | _ => none
  | .release p =>
    if 0 < s.held p then
      some { s with active := s.active - 1, held := Function.update s.held p (s.held p - 1) }
    else none

variable {l : WebsocketConnectionLimiter} {s t : Snapshot ι} {e : Event ι} {p q : ι}

/-- What a step can do. -/
inductive Moves (l : WebsocketConnectionLimiter) (s : Snapshot ι) : Snapshot ι → Prop
  | start (p : ι) : Moves l s (s.turn p .loading)
  | refuse (p : ι) (hcall : s.calls p = .loading) (hfull : l.max ≤ s.active) :
      Moves l s (s.turn p (.returned false))
  | read (p : ι) (hroom : s.active < l.max) : Moves l s (s.turn p (.loaded s.active))
  | take (p : ι) (hcall : s.calls p = .loaded s.active) :
      Moves l s { s.turn p (.returned true) with
        active := s.active + 1, held := Function.update s.held p (s.held p + 1) }
  | free (p : ι) (hheld : 0 < s.held p) :
      Moves l s { s with
        active := s.active - 1, held := Function.update s.held p (s.held p - 1) }

theorem moves_of_step (h : l.step s e = some t) : Moves l s t := by
  cases e with
  | acquire p =>
    simp only [step] at h
    split at h <;> cases h <;> exact .start p
  | load p =>
    obtain ⟨hcall, h⟩ := Option.ite_none_right_eq_some.mp h
    cases h
    split
    · exact .refuse p hcall ‹_›
    · exact .read p (not_le.mp ‹_›)
  | compareAndSwap p =>
    simp only [step] at h
    split at h
    · split at h <;> cases h
      · subst_vars
        exact .take p ‹_›
      · exact .start p
    · cases h
  | release p =>
    obtain ⟨hheld, h⟩ := Option.ite_none_right_eq_some.mp h
    cases h
    exact .free p hheld

theorem refused_of_moves (h : Moves l s t) (hbefore : s.calls p ≠ .returned false)
    (hafter : t.calls p = .returned false) : s.calls p = .loading ∧ l.max ≤ s.active := by
  cases h with
  | refuse q hcall hfull =>
    by_cases hp : p = q
    · exact ⟨hp ▸ hcall, hfull⟩
    · exact absurd (by simpa [Snapshot.turn, hp] using hafter) hbefore
  | start q | read q | take q =>
    by_cases hp : p = q
    · simp [Snapshot.turn, hp] at hafter
    · exact absurd (by simpa [Snapshot.turn, hp] using hafter) hbefore
  | free => exact absurd hafter hbefore

section Counting

variable [Fintype ι]

def Snapshot.taken (s : Snapshot ι) : ℕ := ∑ p, s.held p

structure Exact (l : WebsocketConnectionLimiter) (s : Snapshot ι) : Prop where
  active_eq : s.active = s.taken
  active_le : s.active ≤ l.max
  below : ∀ p cur, s.calls p = .loaded cur → cur < l.max

theorem sum_update (f : ι → ℕ) (p : ι) (n : ℕ) :
    ∑ q, Function.update f p n q + f p = ∑ q, f q + n := by
  rw [Finset.sum_update_of_mem (Finset.mem_univ p), ← Finset.sum_sdiff (Finset.subset_univ {p}),
    Finset.sum_singleton]
  omega

theorem Exact.turn {call : Call} (h : Exact l s) (hcall : ∀ cur, call = .loaded cur → cur < l.max) :
    Exact l (s.turn p call) := by
  refine ⟨h.active_eq, h.active_le, fun q cur hq => ?_⟩
  by_cases hp : q = p
  · subst hp
    exact hcall cur (by simpa [Snapshot.turn] using hq)
  · exact h.below q cur (by simpa [Snapshot.turn, hp] using hq)

theorem Exact.moves (h : Exact l s) (hmoves : Moves l s t) : Exact l t := by
  cases hmoves with
  | start p | refuse p => exact h.turn fun cur hcur => by cases hcur
  | read p hroom => exact h.turn fun cur hcur => by cases hcur; exact hroom
  | take p hcall =>
    have hsum := sum_update s.held p (s.held p + 1)
    have hbelow := h.below p _ hcall
    refine ⟨?_, hbelow, (h.turn fun cur hcur => by cases hcur).below⟩
    simp only [h.active_eq, Snapshot.taken]
    omega
  | free p hheld =>
    have hsum := sum_update s.held p (s.held p - 1)
    refine ⟨?_, (Int.sub_le_self _ (by decide)).trans h.active_le, h.below⟩
    simp only [h.active_eq, Snapshot.taken]
    omega

theorem exact_of_reaches (hreach : Machine.Reaches l.step {} s) : Exact l s := by
  obtain ⟨es, hrun⟩ := hreach
  refine invariant_of_step (fun s e t hs hstep => hs.moves (moves_of_step hstep)) ?_ hrun
  exact ⟨by simp [Snapshot.taken], l.max_pos.le, fun p cur hcur => by cases hcur⟩

/-- The counter is the number of slots taken and never above the limit, and a call is refused in
an instant in which all slots are taken. -/
theorem limiter_exact (l : WebsocketConnectionLimiter) (s : Snapshot ι)
    (hreach : Machine.Reaches l.step {} s) :
    s.active = s.taken ∧ 0 ≤ s.active ∧ s.active ≤ l.max ∧
      ∀ p e t, l.step s e = some t → s.calls p ≠ .returned false → t.calls p = .returned false →
        s.calls p = .loading ∧ s.taken = l.max := by
  have hexact := exact_of_reaches hreach
  refine ⟨hexact.active_eq, ?_, hexact.active_le, fun p e t hstep hbefore hafter => ?_⟩
  · rw [hexact.active_eq]
    exact Int.natCast_nonneg _
  · obtain ⟨hcall, hfull⟩ := refused_of_moves (moves_of_step hstep) hbefore hafter
    exact ⟨hcall, hexact.active_eq ▸ hexact.active_le.antisymm hfull⟩

end Counting

def single : WebsocketConnectionLimiter := ⟨1, by decide⟩

theorem single_slot_taken :
    ∃ s : Snapshot (Fin 2), run single.step {}
        [.acquire 0, .acquire 1, .load 1, .load 0, .compareAndSwap 0, .compareAndSwap 1] = some s ∧
      s.calls 1 = .loading ∧ s.taken = 1 :=
  exists_of_any (fun s => s.calls 1 = .loading ∧ s.active = 1) (by decide)
    fun s hrun hs => ⟨hs.1, by
      have hexact := limiter_exact single s ⟨_, hrun⟩
      omega⟩

end WebsocketConnectionLimiter

end PathGateway
