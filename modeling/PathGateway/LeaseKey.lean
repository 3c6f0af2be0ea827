import Mathlib.Data.Option.Basic
import Mathlib.Data.Nat.Notation

/-! A key with a time to live, set by whoever finds none and then extended or deleted by its owner
alone. A key whose time is up is as good as none. -/

structure LeaseKey (ν : Type*) where
  value : ν
  deadline : Option ℕ

namespace LeaseKey

variable {ν : Type*} {key : Option (LeaseKey ν)} {now ttl : ℕ} {v w : ν}

def Live (now : ℕ) (key : LeaseKey ν) : Prop := ∀ deadline ∈ key.deadline, now < deadline

instance (now : ℕ) (key : LeaseKey ν) : Decidable (key.Live now) :=
  inferInstanceAs (Decidable (∀ deadline ∈ key.deadline, _))

def Holds (key : Option (LeaseKey ν)) (now : ℕ) (v : ν) : Prop :=
  ∃ k ∈ key, k.Live now ∧ k.value = v

theorem Holds.eq (h : Holds key now v) (h' : Holds key now w) : v = w := by
  obtain ⟨k, hk, -, rfl⟩ := h
  obtain ⟨k', hk', -, rfl⟩ := h'
  exact congrArg value (Option.mem_unique hk hk')

theorem Holds.earlier {elapsed : ℕ} (h : Holds key (now + elapsed) v) : Holds key now v := by
  obtain ⟨k, hk, hlive, hv⟩ := h
  exact ⟨k, hk, fun d hd => Nat.lt_of_le_of_lt (Nat.le_add_right now elapsed) (hlive d hd), hv⟩

theorem not_holds_none : ¬Holds (none : Option (LeaseKey ν)) now v := by
  rintro ⟨k, hk, -⟩
  cases hk

/-- `SET NX`; no expiry is set for a time of zero. -/
def setNX (key : Option (LeaseKey ν)) (now : ℕ) (v : ν) (ttl : ℕ) : Option (LeaseKey ν) × Bool :=
  if ∃ k ∈ key, k.Live now then (key, false)
  else (some ⟨v, if ttl = 0 then none else some (now + ttl)⟩, true)

theorem setNX_eq_false (h : (setNX key now v ttl).2 = false) : (setNX key now v ttl).1 = key := by
  rw [setNX] at h ⊢
  split at h
  · rename_i hlive
    rw [if_pos hlive]
  · cases h

theorem setNX_eq_true (h : (setNX key now v ttl).2 = true) :
    (¬∃ k ∈ key, k.Live now) ∧ Holds (setNX key now v ttl).1 now v := by
  rw [setNX] at h ⊢
  split at h
  · cases h
  · rename_i hfree
    rw [if_neg hfree]
    refine ⟨hfree, _, rfl, fun d hd => ?_, rfl⟩
    split at hd
    · cases hd
    · cases hd
      omega

theorem holds_setNX (hne : w ≠ v) : Holds (setNX key now v ttl).1 now w ↔ Holds key now w := by
  cases hset : (setNX key now v ttl).2 with
  | false => rw [setNX_eq_false hset]
  | true =>
    obtain ⟨hfree, hv⟩ := setNX_eq_true hset
    constructor
    · exact fun hw => absurd (hw.eq hv) hne
    · rintro ⟨k, hk, hlive, -⟩
      exact absurd ⟨k, hk, hlive⟩ hfree

def Expires (key : Option (LeaseKey ν)) : Prop := ∀ k ∈ key, k.deadline.isSome = true

theorem Expires.setNX (h : Expires key) (hpos : 0 < ttl) : Expires (setNX key now v ttl).1 := by
  rw [LeaseKey.setNX]
  split
  · exact h
  · intro k hk
    cases hk
    rw [if_neg (Nat.ne_of_gt hpos)]
    rfl

section Owner

variable [DecidableEq ν]

instance (key : Option (LeaseKey ν)) (now : ℕ) (v : ν) : Decidable (Holds key now v) :=
  inferInstanceAs (Decidable (∃ k ∈ key, _))

/-- Extends the key if it has the value; a time of zero deletes it. -/
def expireIf (key : Option (LeaseKey ν)) (now : ℕ) (v : ν) (ttl : ℕ) :
    Option (LeaseKey ν) × Bool :=
  if Holds key now v then (if ttl = 0 then none else some ⟨v, some (now + ttl)⟩, true)
  else (key, false)

theorem expireIf_eq_true (h : (expireIf key now v ttl).2 = true) : Holds key now v := by
  rw [expireIf] at h
  split at h
  · assumption
  · cases h

theorem expireIf_of_not_holds (h : ¬Holds key now v) : (expireIf key now v ttl).1 = key := by
  rw [expireIf, if_neg h]

theorem Expires.expireIf (h : Expires key) : Expires (expireIf key now v ttl).1 := by
  rw [LeaseKey.expireIf]
  split
  · intro k hk
    dsimp only at hk
    split at hk
    · cases hk
    · cases hk
      rfl
  · exact h

theorem holds_expireIf (hpos : 0 < ttl) :
    Holds (expireIf key now v ttl).1 now w ↔ Holds key now w := by
  rw [expireIf]
  split
  · rename_i hv
    rw [if_neg (Nat.ne_of_gt hpos)]
    have hnew : Holds (some (⟨v, some (now + ttl)⟩ : LeaseKey ν)) now v := by
      refine ⟨_, rfl, fun d hd => ?_, rfl⟩
      cases hd
      omega
    constructor
    · exact fun hw => hw.eq hnew ▸ hv
    · exact fun hw => hv.eq hw ▸ hnew
  · exact Iff.rfl

def delIf (key : Option (LeaseKey ν)) (now : ℕ) (v : ν) : Option (LeaseKey ν) × Bool :=
  if Holds key now v then (none, true) else (key, false)

theorem delIf_of_holds (h : Holds key now v) : (delIf key now v).1 = none := by
  rw [delIf, if_pos h]

theorem delIf_of_not_holds (h : ¬Holds key now v) : (delIf key now v).1 = key := by
  rw [delIf, if_neg h]

theorem Expires.delIf (h : Expires key) : Expires (delIf key now v).1 := by
  rw [LeaseKey.delIf]
  split
  · intro k hk
    cases hk
  · exact h

theorem not_holds_delIf : ¬Holds (delIf key now v).1 now v := by
  by_cases hv : Holds key now v
  · rw [delIf_of_holds hv]
    exact not_holds_none
  · rwa [delIf_of_not_holds hv]

theorem holds_delIf (hne : w ≠ v) : Holds (delIf key now v).1 now w ↔ Holds key now w := by
  by_cases hv : Holds key now v
  · rw [delIf_of_holds hv]
    exact ⟨fun hw => absurd hw not_holds_none, fun hw => absurd (hw.eq hv) hne⟩
  · rw [delIf_of_not_holds hv]

end Owner

end LeaseKey
