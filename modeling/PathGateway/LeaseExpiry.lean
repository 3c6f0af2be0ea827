import PathGateway.LeaderElection

/-! The time to live of the leader key. A lease is cut to whole seconds before it goes to Redis,
and a time of zero means something else in each command: no expiry to `SET`, deletion to
`EXPIRE`. -/

namespace PathGateway

open Duration Machine

namespace Election

variable {ι : Type*} {cfg : LeaseConfig ι} {s s' : Election ι}
  {event : ElectionEvent ι} {i : ι}

/-- A key that is there has an end, which is still to come. -/
def FiniteLease (s : Election ι) : Prop :=
  ∀ k ∈ s.key, k.Live s.clock → ∃ deadline ∈ k.deadline, s.clock < deadline

theorem expires_keyAfter {outcome : CommandOutcome} {key : Option (LeaseKey String)}
    (h : LeaseKey.Expires s.key) (h' : LeaseKey.Expires key) :
    LeaseKey.Expires (s.keyAfter outcome key) := by
  rw [keyAfter]
  split
  · exact h
  · exact h'

theorem lease_pos_iff : 0 < cfg.lease i ↔ second ≤ cfg.leaseDuration i := by
  have hsecond : 0 < second := by decide
  rw [LeaseConfig.lease, Nat.mul_pos_iff_of_pos_right hsecond, LeaseConfig.leaseSeconds,
    Nat.div_pos_iff]
  exact and_iff_right hsecond

variable [DecidableEq ι]

/-- The holder of the key still holds it after its renewal, with or without a reply. -/
def RenewalKeepsKey (cfg : LeaseConfig ι) (s : Election ι) : Prop :=
  ∀ i outcome s', LeaseKey.Holds s.key s.clock (cfg.instanceID i) →
    s.step cfg (.renewLeadership i outcome) = some s' →
      LeaseKey.Holds s'.key s'.clock (cfg.instanceID i)

theorem expires_step (hlease : ∀ i, 0 < cfg.lease i) (h : LeaseKey.Expires s.key)
    (hstep : s.step cfg event = some s') : LeaseKey.Expires s'.key := by
  cases event <;> simp only [Election.step] at hstep
  case tick =>
    cases hstep
    exact h
  all_goals
    split at hstep
    · cases hstep
      first
      | exact h
      | exact expires_keyAfter h (h.setNX (hlease _))
      | exact expires_keyAfter h h.expireIf
      | exact expires_keyAfter h h.delIf
    · cases hstep

theorem renewalKeepsKey_of_lease_pos (hlease : ∀ i, 0 < cfg.lease i) : s.RenewalKeepsKey cfg := by
  intro i outcome s' hholds hstep
  simp only [Election.step] at hstep
  split at hstep
  · cases hstep
    change LeaseKey.Holds (s.keyAfter outcome _) s.clock _
    rw [keyAfter]
    split
    · exact hholds
    · exact (LeaseKey.holds_expireIf (hlease i)).mpr hholds
  · cases hstep

def acquisition (i : ι) : List (ElectionEvent ι) := [.tryAcquireLeadership i, .setNX i .replied]

theorem key_acquisition (cfg : LeaseConfig ι) (i : ι) :
    ∃ s, run (step cfg) (start 0 none) (acquisition i) = some s ∧
    s.key = some ⟨cfg.instanceID i, if cfg.lease i = 0 then none else some (0 + cfg.lease i)⟩ := by
  simp [acquisition, run, step, start, put, keyAfter, LeaseKey.setNX]

/-- In all runs the key has a finite time to live and is not lost by its renewal, exactly if every
lease is at least a second long. -/
theorem lease_sound_iff (cfg : LeaseConfig ι) :
    (∀ clock key events s, LeaseKey.Expires key →
      run (step cfg) (start clock key) events = some s →
        s.FiniteLease ∧ s.RenewalKeepsKey cfg) ↔
    ∀ i, second ≤ cfg.leaseDuration i := by
  simp only [← lease_pos_iff]
  constructor
  · intro hsound i
    obtain ⟨s, hrun, hkey⟩ := key_acquisition cfg i
    have hnone : LeaseKey.Expires (none : Option (LeaseKey String)) := by
      intro k hk
      cases hk
    obtain ⟨hfinite, -⟩ := hsound 0 none (acquisition i) s hnone hrun
    by_contra hzero
    rw [if_pos (Nat.eq_zero_of_not_pos hzero)] at hkey
    have hlive : LeaseKey.Live s.clock ⟨cfg.instanceID i, none⟩ := by
      intro d hd
      cases hd
    obtain ⟨d, hd, -⟩ := hfinite _ hkey hlive
    cases hd
  · intro hlease clock key events s hstart hrun
    have hexpires : LeaseKey.Expires s.key :=
      invariant_of_step (I := fun s => LeaseKey.Expires s.key)
        (fun s event s' h hs => expires_step hlease h hs) hstart hrun
    refine ⟨fun k hk hlive => ?_, renewalKeepsKey_of_lease_pos hlease⟩
    obtain ⟨d, hd⟩ := Option.isSome_iff_exists.mp (hexpires k hk)
    exact ⟨d, hd, hlive d hd⟩

end Election

section Sample

def halfSecondLease : LeaseConfig Unit where
  instanceID _ := "gateway-7-093000"
  leaseDuration _ := second / 2

/-- The key of the first acquisition has no end, and the first renewal deletes it. -/
theorem half_second_lease_unsound : ∃ s s',
    run (Election.step halfSecondLease) (.start 0 none)
      [.tryAcquireLeadership (), .setNX () .replied, .store ()] = some s ∧
    run (Election.step halfSecondLease) s
      [.tryAcquireLeadership (), .renewLeadership () .replied] = some s' ∧
    0 < halfSecondLease.leaseDuration () ∧ s.isLeader () = true ∧
    s.key.map LeaseKey.deadline = some none ∧ s'.key.isNone = true := by
  decide +kernel

end Sample

end PathGateway
