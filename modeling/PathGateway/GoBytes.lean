import Mathlib.Algebra.Group.Int.Defs
import Mathlib.Data.Int.Basic
import Mathlib.Data.List.Basic

/-! Strings as bytes: cutting at a separator, and decimal numbers of 64 bits written and read. -/

abbrev Bytes := List UInt8

namespace GoBytes

open List

def digit (d : ℕ) : UInt8 := UInt8.ofNat (48 + d)

def digitValue (c : UInt8) : Option ℕ :=
  if 48 ≤ c.toNat ∧ c.toNat ≤ 57 then some (c.toNat - 48) else none

theorem digitValue_digit {d : ℕ} (h : d < 10) : digitValue (digit d) = some d := by
  have htoNat : (digit d).toNat = 48 + d := by
    rw [digit, UInt8.toNat_ofNat']
    omega
  rw [digitValue, htoNat, if_pos (by omega), Nat.add_sub_cancel_left]

/-- The decimal digits of the number, before those of `rest`. -/
def decimalBefore : ℕ → ℕ → Bytes → Bytes
  | 0, _, rest => rest
  | fuel + 1, n, rest =>
    if n < 10 then digit n :: rest
    else decimalBefore fuel (n / 10) (digit (n % 10) :: rest)

/-- A number has no more digits than it counts. -/
def decimal (n : ℕ) : Bytes := decimalBefore (n + 1) n []

def readDigits (n : ℕ) : Bytes → Option ℕ
  | [] => some n
  | c :: cs => (digitValue c).bind fun d => readDigits (10 * n + d) cs

variable {fuel n : ℕ} {rest : Bytes} {c : UInt8} {v : ℤ}

theorem readDigits_decimalBefore (h : n < fuel) (rest : Bytes) :
    readDigits 0 (decimalBefore fuel n rest) = readDigits n rest := by
  induction fuel generalizing n rest with
  | zero => omega
  | succ fuel ih =>
    rw [decimalBefore]
    split
    · rename_i hsmall
      simp [readDigits, digitValue_digit hsmall]
    · rename_i hlarge
      have hless : n / 10 < fuel := by omega
      have hdigit : n % 10 < 10 := Nat.mod_lt _ (by omega)
      rw [ih hless, readDigits, digitValue_digit hdigit, Option.bind_some]
      have hn : 10 * (n / 10) + n % 10 = n := Nat.div_add_mod n 10
      rw [hn]

theorem mem_decimalBefore (h : c ∈ decimalBefore fuel n rest) :
    (∃ d < 10, c = digit d) ∨ c ∈ rest := by
  induction fuel generalizing n rest with
  | zero => exact .inr h
  | succ fuel ih =>
    rw [decimalBefore] at h
    split_ifs at h with hsmall
    · rcases mem_cons.mp h with rfl | hrest
      · exact .inl ⟨n, hsmall, rfl⟩
      · exact .inr hrest
    · rcases ih h with hdigit | hmem
      · exact .inl hdigit
      · rcases mem_cons.mp hmem with rfl | hrest
        · exact .inl ⟨n % 10, Nat.mod_lt _ (by omega), rfl⟩
        · exact .inr hrest

theorem digitValue_of_mem_decimal (h : c ∈ decimal n) : ∃ d, digitValue c = some d := by
  rcases mem_decimalBefore h with ⟨d, hd, rfl⟩ | hnil
  · exact ⟨d, digitValue_digit hd⟩
  · cases hnil

theorem not_mem_decimal (h : digitValue c = none) : c ∉ decimal n := by
  intro hmem
  obtain ⟨d, hd⟩ := digitValue_of_mem_decimal hmem
  rw [h] at hd
  cases hd

theorem decimalBefore_ne_nil (h : 0 < fuel ∨ rest ≠ []) : decimalBefore fuel n rest ≠ [] := by
  induction fuel generalizing n rest with
  | zero => exact h.resolve_left (by omega)
  | succ fuel ih =>
    rw [decimalBefore]
    split
    · simp
    · exact ih (.inr (by simp))

def Fits (v : ℤ) : Prop := -2 ^ 63 ≤ v ∧ v < 2 ^ 63

instance (v : ℤ) : Decidable (Fits v) := inferInstanceAs (Decidable (_ ∧ _))

def minus : UInt8 := 45

def plus : UInt8 := 43

def formatInt (v : ℤ) : Bytes :=
  if v < 0 then minus :: decimal v.natAbs else decimal v.natAbs

def signed (negative : Bool) (n : ℕ) : ℤ := if negative then -n else n

/-- The digits after the sign; a number that does not fit is an error, as is one without digits. -/
def readInt (negative : Bool) : Bytes → Option ℤ
  | [] => none
  | c :: cs => (readDigits 0 (c :: cs)).bind fun n =>
    if Fits (signed negative n) then some (signed negative n) else none

def parseInt : Bytes → Option ℤ
  | [] => none
  | c :: cs =>
    if c = minus then readInt true cs
    else if c = plus then readInt false cs
    else readInt false (c :: cs)

theorem readInt_decimal {negative : Bool} (h : Fits (signed negative n)) :
    readInt negative (decimal n) = some (signed negative n) := by
  have hread : readDigits 0 (decimal n) = some n :=
    readDigits_decimalBefore (Nat.lt_succ_self n) []
  cases hdecimal : decimal n with
  | nil => exact absurd hdecimal (decimalBefore_ne_nil (.inl (Nat.succ_pos n)))
  | cons =>
    rw [hdecimal] at hread
    rw [readInt, hread, Option.bind_some]
    exact if_pos h

theorem parseInt_formatInt (h : Fits v) : parseInt (formatInt v) = some v := by
  have hminus : minus ∉ decimal v.natAbs := not_mem_decimal (by decide)
  have hplus : plus ∉ decimal v.natAbs := not_mem_decimal (by decide)
  rw [formatInt]
  split
  · rename_i hneg
    have hv : signed true v.natAbs = v := by
      rw [signed, if_pos rfl]
      omega
    have hread := @readInt_decimal v.natAbs true (hv.symm ▸ h)
    rw [parseInt, if_pos rfl, hread, hv]
  · rename_i hnonneg
    have hv : signed false v.natAbs = v := by
      rw [signed, if_neg (by simp)]
      omega
    have hread := @readInt_decimal v.natAbs false (hv.symm ▸ h)
    cases hdecimal : decimal v.natAbs with
    | nil => exact absurd hdecimal (decimalBefore_ne_nil (.inl (Nat.succ_pos _)))
    | cons c =>
      rw [hdecimal] at hminus hplus hread
      have hfirst : c ≠ minus ∧ c ≠ plus :=
        ⟨fun heq => hminus (heq ▸ mem_cons_self), fun heq => hplus (heq ▸ mem_cons_self)⟩
      rw [parseInt, if_neg hfirst.1, if_neg hfirst.2, hread, hv]

def cut (sep : UInt8) : Bytes → Option (Bytes × Bytes)
  | [] => none
  | c :: cs => if c = sep then some ([], cs) else (cut sep cs).map (Prod.map (c :: ·) id)

theorem cut_append {sep : UInt8} {before : Bytes} (after : Bytes) (h : sep ∉ before) :
    cut sep (before ++ sep :: after) = some (before, after) := by
  induction before with
  | nil => simp [cut]
  | cons c cs ih =>
    rw [mem_cons, not_or] at h
    obtain ⟨hne, hcs⟩ := h
    rw [cons_append, cut, if_neg (Ne.symm hne), ih hcs]
    rfl

theorem not_mem_formatInt (hdigit : digitValue c = none) (hminus : c ≠ minus) :
    c ∉ formatInt v := by
  have hdecimal : c ∉ decimal v.natAbs := not_mem_decimal hdigit
  rw [formatInt]
  split
  · rw [mem_cons, not_or]
    exact ⟨hminus, hdecimal⟩
  · exact hdecimal

end GoBytes
