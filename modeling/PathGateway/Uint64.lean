import Mathlib.Algebra.Order.Ring.Nat

/-! Arithmetic on unsigned 64-bit numbers. A computation is written once, in a monad
that says what an overflow does: the machine wraps around, and a checked run stops. -/

namespace Uint64

open Option

class Arith (m : Type → Type) where
  add : ℕ → ℕ → m ℕ
  mul : ℕ → ℕ → m ℕ

export Arith (add mul)

instance wrapping : Arith Id where
  add a b := (a + b) % 2 ^ 64
  mul a b := (a * b) % 2 ^ 64

instance checked : Arith Option where
  add a b := if a + b < 2 ^ 64 then some (a + b) else none
  mul a b := if a * b < 2 ^ 64 then some (a * b) else none

variable {α β : Type} {a b : ℕ}

theorem checked_add (h : a + b < 2 ^ 64) : add a b = some (a + b) := if_pos h

theorem checked_mul (h : a * b < 2 ^ 64) : mul a b = some (a * b) := if_pos h

/-- The machine computes what the checked run returns. -/
def Agrees (x : Option α) (y : Id α) : Prop := ∀ v, x = some v → y = v

namespace Agrees

theorem pure (v : α) : Agrees (Pure.pure v) (Pure.pure v) := fun _ h => some.inj h

theorem add (a b : ℕ) : Agrees (Uint64.add a b) (Uint64.add a b) := by
  intro v h
  simp only [Uint64.add, ite_none_right_eq_some, some.injEq] at h
  obtain ⟨hlt, rfl⟩ := h
  exact Nat.mod_eq_of_lt hlt

theorem mul (a b : ℕ) : Agrees (Uint64.mul a b) (Uint64.mul a b) := by
  intro v h
  simp only [Uint64.mul, ite_none_right_eq_some, some.injEq] at h
  obtain ⟨hlt, rfl⟩ := h
  exact Nat.mod_eq_of_lt hlt

theorem bind {x : Option α} {y : Id α} {f : α → Option β} {g : α → Id β} (h : Agrees x y)
    (hf : ∀ v, Agrees (f v) (g v)) : Agrees (x >>= f) (y >>= g) := by
  intro w hw
  obtain ⟨v, hx, hv⟩ := bind_eq_some_iff.mp hw
  have hy : y = v := h v hx
  subst hy
  exact hf y w hv

theorem ite {c : Prop} [Decidable c] {x x' : Option α} {y y' : Id α} (h : Agrees x y)
    (h' : Agrees x' y') : Agrees (if c then x else x') (if c then y else y') := by
  split
  · exact h
  · exact h'

end Agrees

end Uint64
