import Mathlib.Data.List.Sort

/-! The element at a position of a sorted list, told by how many elements lie on
either side of a bound, and with it the two middle elements. -/

namespace OrderStatistics

open List

variable {α : Type*} [LinearOrder α] {l : List α} {i : ℕ} {x d : α}

theorem getD_iff_countP {p : α → Bool} (hp : ∀ a b, a ≤ b → p a = true → p b = true)
    (hs : l.Pairwise (· ≤ ·)) (hi : i < l.length) :
    p (l.getD i d) = true ↔ l.length ≤ i + l.countP p := by
  induction l generalizing i with
  | nil => exact absurd hi (Nat.not_lt_zero i)
  | cons y l ih =>
    obtain ⟨hy, hs⟩ := pairwise_cons.mp hs
    have hall : p y = true → l.countP p = l.length := by
      intro hpy
      exact countP_eq_length.mpr fun z hz => hp y z (hy z hz) hpy
    have hle : l.countP p ≤ l.length := countP_le_length
    rw [countP_cons, length_cons]
    cases i with
    | zero =>
      rw [getD_cons_zero]
      by_cases hpy : p y = true
      · have := hall hpy
        rw [if_pos hpy]
        exact iff_of_true hpy (by omega)
      · rw [if_neg hpy]
        exact iff_of_false hpy (by omega)
    | succ =>
      rw [getD_cons_succ, ih hs (Nat.lt_of_succ_lt_succ hi)]
      by_cases hpy : p y = true
      · have := hall hpy
        rw [if_pos hpy]
        omega
      · rw [if_neg hpy]
        omega

theorem le_getD_iff (hs : l.Pairwise (· ≤ ·)) (hi : i < l.length) :
    x ≤ l.getD i d ↔ l.length ≤ i + l.countP (fun y => decide (x ≤ y)) := by
  have hup : ∀ a b, a ≤ b → decide (x ≤ a) = true → decide (x ≤ b) = true := by
    intro a b hab ha
    exact decide_eq_true ((of_decide_eq_true ha).trans hab)
  rw [← getD_iff_countP (d := d) hup hs hi, decide_eq_true_iff]

theorem getD_le_iff (hs : l.Pairwise (· ≤ ·)) (hi : i < l.length) :
    l.getD i d ≤ x ↔ i < l.countP (fun y => decide (y ≤ x)) := by
  have hup : ∀ a b, a ≤ b → decide (x < a) = true → decide (x < b) = true := by
    intro a b hab ha
    exact decide_eq_true ((of_decide_eq_true ha).trans_le hab)
  have habove := getD_iff_countP (d := d) hup hs hi
  have hsplit := length_eq_countP_add_countP (fun y => decide (x < y)) (l := l)
  have hbelow : l.countP (fun y => decide ¬decide (x < y) = true) =
      l.countP (fun y => decide (y ≤ x)) := by
    refine countP_congr fun y _ => ?_
    simp
  rw [decide_eq_true_iff] at habove
  rw [← not_lt, habove]
  omega

section Middle

variable (hs : l.Pairwise (· ≤ ·)) (hl : 0 < l.length)

include hs hl

theorem le_lowerMiddle_iff : x ≤ l.getD ((l.length - 1) / 2) d ↔
    l.length < 2 * l.countP (fun y => decide (x ≤ y)) := by
  rw [le_getD_iff hs (by omega)]
  omega

theorem le_upperMiddle_iff : x ≤ l.getD (l.length / 2) d ↔
    l.length ≤ 2 * l.countP (fun y => decide (x ≤ y)) := by
  rw [le_getD_iff hs (by omega)]
  omega

theorem lowerMiddle_le_iff : l.getD ((l.length - 1) / 2) d ≤ x ↔
    l.length ≤ 2 * l.countP (fun y => decide (y ≤ x)) := by
  rw [getD_le_iff hs (by omega)]
  omega

theorem upperMiddle_le_iff : l.getD (l.length / 2) d ≤ x ↔
    l.length < 2 * l.countP (fun y => decide (y ≤ x)) := by
  rw [getD_le_iff hs (by omega)]
  omega

end Middle

/-- The mean of the two middle numbers of a sorted list, rounded down. For an odd number of
them both are the same one. -/
def median (sorted : List ℕ) : ℕ :=
  (sorted.getD ((sorted.length - 1) / 2) 0 + sorted.getD (sorted.length / 2) 0) / 2

section Median

variable {l : List ℕ} {z L H : ℕ}

theorem getD_lt (hpos : 0 < z) (hlt : ∀ h ∈ l, h < z) (i : ℕ) : l.getD i 0 < z := by
  rw [getD_eq_getElem?_getD]
  cases hi : l[i]? with
  | none => exact hpos
  | some h => exact hlt h (mem_of_getElem? hi)

theorem median_lt (hpos : 0 < z) (hlt : ∀ h ∈ l, h < z) : median l < z := by
  have hlow := getD_lt hpos hlt ((l.length - 1) / 2)
  have hup := getD_lt hpos hlt (l.length / 2)
  rw [median]
  omega

theorem le_median_iff (hs : l.Pairwise (· ≤ ·)) (hl : 0 < l.length) :
    z ≤ median l ↔ ∃ x y, 2 * z ≤ x + y ∧ l.length < 2 * l.countP (fun h => decide (x ≤ h)) ∧
      l.length ≤ 2 * l.countP (fun h => decide (y ≤ h)) := by
  constructor
  · intro hz
    refine ⟨l.getD ((l.length - 1) / 2) 0, l.getD (l.length / 2) 0, ?_, ?_, ?_⟩
    · rw [median] at hz
      omega
    · exact (le_lowerMiddle_iff hs hl).mp le_rfl
    · exact (le_upperMiddle_iff hs hl).mp le_rfl
  · rintro ⟨x, y, hxy, hx, hy⟩
    have hlow := (le_lowerMiddle_iff (d := 0) hs hl).mpr hx
    have hup := (le_upperMiddle_iff (d := 0) hs hl).mpr hy
    rw [median]
    omega

theorem middle_mem_of_majority (hs : l.Pairwise (· ≤ ·))
    (hmaj : l.length < 2 * l.countP (fun h => decide (L ≤ h) && decide (h ≤ H))) :
    L ≤ l.getD ((l.length - 1) / 2) 0 ∧ l.getD (l.length / 2) 0 ≤ H := by
  have hall : l.countP (fun h => decide (L ≤ h) && decide (h ≤ H)) ≤ l.length :=
    countP_le_length
  have hl : 0 < l.length := by omega
  have hL : l.countP (fun h => decide (L ≤ h) && decide (h ≤ H)) ≤
      l.countP (fun h => decide (L ≤ h)) :=
    countP_mono_left fun h _ hh => (Bool.and_eq_true_iff.mp hh).1
  have hH : l.countP (fun h => decide (L ≤ h) && decide (h ≤ H)) ≤
      l.countP (fun h => decide (h ≤ H)) :=
    countP_mono_left fun h _ hh => (Bool.and_eq_true_iff.mp hh).2
  exact ⟨(le_lowerMiddle_iff hs hl).mpr (by omega), (upperMiddle_le_iff hs hl).mpr (by omega)⟩

theorem lowerMiddle_le_upperMiddle (hs : l.Pairwise (· ≤ ·)) (hl : 0 < l.length) :
    l.getD ((l.length - 1) / 2) 0 ≤ l.getD (l.length / 2) 0 := by
  have hlow := (le_lowerMiddle_iff (x := l.getD ((l.length - 1) / 2) 0) (d := 0) hs hl).mp le_rfl
  exact (le_upperMiddle_iff hs hl).mpr (by omega)

end Median

end OrderStatistics
