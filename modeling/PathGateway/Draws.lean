import Mathlib.Algebra.BigOperators.Intervals
import Mathlib.Algebra.Order.BigOperators.Ring.Finset
import Mathlib.Algebra.Order.Ring.Rat
import Mathlib.Data.List.GetD
import Mathlib.Data.List.InsertIdx

/-! Programs that draw random numbers. A run is handed the numbers it draws, so what holds for
every list of them holds for every outcome of chance, an outcome is possible if some list leads
to it, and its probability is the part of the lists that do. -/

abbrev Draws := StateM (List Nat)

namespace Draws

variable {α β : Type}

/-- The next number, below the bound; a run that has none left draws 0. -/
def intn (n : Nat) : Draws Nat
  | [] => (0, [])
  | d :: ds => (d % n, ds)

/-- A number of the unit interval, one of `N` equally spaced ones. -/
def float64 (N : Nat := 2 ^ 53) : Draws ℚ := do
  let k ← intn N
  pure (k / N)

def shuffle : List α → Draws (List α)
  | [] => pure []
  | a :: as => do
    let rest ← shuffle as
    let i ← intn (rest.length + 1)
    pure (rest.insertIdx i a)

/-- Whatever is drawn, the result is such. -/
def Always (P : α → Prop) (x : Draws α) : Prop := ∀ ds, P (x ds).1

/-- The result is possible, whatever is drawn afterwards. -/
def CanReturn (x : Draws α) (a : α) : Prop := ∃ ds, ∀ rest, x (ds ++ rest) = (a, rest)

section Always

variable {P Q : α → Prop} {R : β → Prop} {x : Draws α} {f : α → Draws β} {a : α}

theorem Always.pure (h : P a) : Always P (pure a : Draws α) := fun _ => h

theorem Always.bind (hx : Always Q x) (hf : ∀ a, Q a → Always R (f a)) : Always R (x >>= f) := by
  intro ds
  exact hf (x ds).1 (hx ds) (x ds).2

theorem Always.mono (hx : Always Q x) (h : ∀ a, Q a → P a) : Always P x := fun ds => h _ (hx ds)

theorem always_true (x : Draws α) : Always (fun _ => True) x := fun _ => trivial

theorem always_intn {n : Nat} (hn : 0 < n) : Always (· < n) (intn n) := by
  intro ds
  cases ds with
  | nil => exact hn
  | cons d => exact Nat.mod_lt d hn

theorem always_shuffle (as : List α) : Always (·.Perm as) (shuffle as) := by
  induction as with
  | nil => exact .pure (.refl _)
  | cons a as ih =>
    refine ih.bind fun rest hrest => (always_intn (Nat.succ_pos _)).bind fun i hi => .pure ?_
    exact (List.perm_insertIdx a rest (Nat.lt_succ_iff.mp hi)).trans (hrest.cons a)

end Always

section CanReturn

variable {x : Draws α} {f : α → Draws β} {a : α} {b : β}

theorem CanReturn.pure : CanReturn (pure a : Draws α) a := ⟨[], fun _ => rfl⟩

theorem CanReturn.bind (hx : CanReturn x a) (hf : CanReturn (f a) b) : CanReturn (x >>= f) b := by
  obtain ⟨ds, hds⟩ := hx
  obtain ⟨es, hes⟩ := hf
  refine ⟨ds ++ es, fun rest => ?_⟩
  change f (x (ds ++ es ++ rest)).1 (x (ds ++ es ++ rest)).2 = _
  rw [List.append_assoc, hds]
  exact hes rest

theorem CanReturn.exists_draws (h : CanReturn x a) : ∃ ds, (x ds).1 = a := by
  obtain ⟨ds, hds⟩ := h
  exact ⟨ds ++ [], congrArg Prod.fst (hds [])⟩

theorem canReturn_intn {k n : Nat} (hk : k < n) : CanReturn (intn n) k := by
  refine ⟨[k], fun rest => ?_⟩
  change (k % n, rest) = (k, rest)
  rw [Nat.mod_eq_of_lt hk]

theorem insertIdx_length_append (s t : List α) (a : α) :
    (s ++ t).insertIdx s.length a = s ++ a :: t := by
  induction s with
  | nil => rfl
  | cons b s ih => simpa using ih

theorem canReturn_shuffle {as bs : List α} (hperm : bs.Perm as) : CanReturn (shuffle as) bs := by
  induction as generalizing bs with
  | nil =>
    rw [hperm.eq_nil]
    exact .pure
  | cons a as ih =>
    obtain ⟨s, t, rfl⟩ := List.append_of_mem (hperm.mem_iff.mpr List.mem_cons_self)
    have hrest : (s ++ t).Perm as := (List.perm_middle.symm.trans hperm).cons_inv
    have hpos : s.length < (s ++ t).length + 1 := by
      rw [List.length_append]
      omega
    rw [← insertIdx_length_append]
    exact (ih hrest).bind ((canReturn_intn hpos).bind .pure)

end CanReturn

end Draws
