import Mathlib.Data.Fintype.Basic
import Mathlib.Logic.Function.Basic
import PathGateway.CircuitBreaker
import PathGateway.LeaseKey

/-! Election of the instance that runs the health checks: a key in Redis with a lease, and in each
instance a flag that the election loop and a stop write to after the replies of their commands. -/

namespace PathGateway

open Duration LeaseKey Machine

/-- The settings as the code takes them; it counts a lease in whole seconds. -/
structure LeaseConfig (ι : Type*) where
  instanceID : ι → String
  leaseDuration : ι → ℕ

namespace LeaseConfig

variable {ι : Type*} (cfg : LeaseConfig ι) (i : ι)

def leaseSeconds : ℕ := cfg.leaseDuration i / second

def lease : ℕ := cfg.leaseSeconds i * second

end LeaseConfig

structure ElectionConfig (ι : Type*) extends LeaseConfig ι where
  distinct : Function.Injective instanceID
  whole : ∀ i, second ∣ leaseDuration i
  pos : ∀ i, 0 < leaseDuration i

namespace ElectionConfig

variable {ι : Type*}

instance : CoeOut (ElectionConfig ι) (LeaseConfig ι) := ⟨toLeaseConfig⟩

theorem lease_pos (cfg : ElectionConfig ι) (i : ι) : 0 < cfg.lease i := by
  have hseconds : 0 < cfg.leaseSeconds i :=
    Nat.div_pos (Nat.le_of_dvd (cfg.pos i) (cfg.whole i)) (by decide)
  exact Nat.mul_pos hseconds (by decide)

end ElectionConfig

/-- Where an error comes back, the command may have run or not. -/
inductive CommandOutcome where
  | replied
  | lost
  | failed
  deriving DecidableEq

inductive LoopPhase where
  | idle
  | acquiring
  | renewing
  | storing (leader : Bool)
  deriving DecidableEq

inductive StopPhase where
  | running
  | releasing
  | storing
  | returned
  deriving DecidableEq

structure LeaderElector where
  isLeader : Bool
  loop : LoopPhase
  stop : StopPhase

structure Election (ι : Type*) where
  clock : Time
  key : Option (LeaseKey String)
  elector : ι → LeaderElector

inductive ElectionEvent (ι : Type*) where
  | tick (elapsed : ℕ)
  | tryAcquireLeadership (i : ι)
  | setNX (i : ι) (outcome : CommandOutcome)
  | renewLeadership (i : ι) (outcome : CommandOutcome)
  | store (i : ι)
  | stop (i : ι)
  | releaseLeadership (i : ι) (outcome : CommandOutcome)
  | storeReleased (i : ι)

variable {e : LeaderElector} {key : Option (LeaseKey String)}

namespace Election

variable {ι : Type*}

def start (clock : Time) (key : Option (LeaseKey String)) : Election ι :=
  ⟨clock, key, fun _ => ⟨false, .idle, .running⟩⟩

def isLeader (s : Election ι) (i : ι) : Bool := (s.elector i).isLeader

variable [DecidableEq ι] (cfg : LeaseConfig ι) (s : Election ι)

def put (i : ι) (e : LeaderElector) (key : Option (LeaseKey String)) : Election ι :=
  ⟨s.clock, key, Function.update s.elector i e⟩

@[simp] theorem elector_put_self {i : ι} : (s.put i e key).elector i = e := by
  simp [put]

@[simp] theorem elector_put_of_ne {i j : ι}
    (h : j ≠ i) : (s.put i e key).elector j = s.elector j := by
  simp [put, h]

def keyAfter (outcome : CommandOutcome) (key' : Option (LeaseKey String)) :
    Option (LeaseKey String) :=
  if outcome = .failed then s.key else key'

/-- The loop may take one more tick of its ticker after a stop: a `select` with several ready
cases picks any of them. A second stop would close a closed channel. -/
def step : ElectionEvent ι → Option (Election ι)
  | .tick elapsed => some { s with clock := s.clock + elapsed }
  | .tryAcquireLeadership i =>
    let e := s.elector i
    match e.loop with
    | .idle =>
      let phase := if e.isLeader then LoopPhase.renewing else .acquiring
      some (s.put i { e with loop := phase } s.key)
    | _ => none
  | .setNX i outcome =>
    let e := s.elector i
    match e.loop with
    | .acquiring =>
      let ran := LeaseKey.setNX s.key s.clock (cfg.instanceID i) (cfg.lease i)
      some (s.put i { e with loop := .storing (outcome = .replied && ran.2) }
        (s.keyAfter outcome ran.1))
    | _ => none
  | .renewLeadership i outcome =>
    let e := s.elector i
    match e.loop with
    | .renewing =>
      let ran := LeaseKey.expireIf s.key s.clock (cfg.instanceID i) (cfg.lease i)
      some (s.put i { e with loop := .storing (outcome = .replied && ran.2) }
        (s.keyAfter outcome ran.1))
    | _ => none
  | .store i =>
    let e := s.elector i
    match e.loop with
    | .storing leader => some (s.put i { e with isLeader := leader, loop := .idle } s.key)
    | _ => none
  | .stop i =>
    let e := s.elector i
    match e.stop with
    | .running =>
      let phase := if e.isLeader then StopPhase.releasing else .returned
      some (s.put i { e with stop := phase } s.key)
    | _ => none
  | .releaseLeadership i outcome =>
    let e := s.elector i
    match e.stop with
    | .releasing =>
      let phase := if outcome = .replied then StopPhase.storing else .returned
      some (s.put i { e with stop := phase }
        (s.keyAfter outcome (LeaseKey.delIf s.key s.clock (cfg.instanceID i)).1))
    | _ => none
  | .storeReleased i =>
    let e := s.elector i
    match e.stop with
    | .storing => some (s.put i { e with isLeader := false, stop := .returned } s.key)
    | _ => none

end Election

def LeaderElector.Claims (e : LeaderElector) : Prop :=
  e.isLeader = true ∨ e.loop = .storing true

instance (e : LeaderElector) : Decidable e.Claims := inferInstanceAs (Decidable (_ ∨ _))

namespace Election

variable {ι : Type*}

section Conditions

variable (cfg : ElectionConfig ι) (s : Election ι)

def Holds (i : ι) : Prop := LeaseKey.Holds s.key s.clock (cfg.instanceID i)

/-- The key of a leader does not expire: it is renewed in time. -/
def RenewsInTime : ElectionEvent ι → Prop
  | .tick elapsed => ∀ i, (s.elector i).Claims → s.Holds cfg i →
    LeaseKey.Holds s.key (s.clock + elapsed) (cfg.instanceID i)
  | _ => True

/-- No instance takes the key while another one has deleted it and not yet lowered its flag; and a
release neither overtakes the loop of its own instance, about to raise the flag, nor deletes the
key without a reply. -/
def ReleasesInOrder : ElectionEvent ι → Prop
  | .setNX i outcome => outcome ≠ .failed → (¬∃ k ∈ s.key, k.Live s.clock) →
    ∀ j, j ≠ i → (s.elector j).stop ≠ .storing
  | .releaseLeadership i outcome => (s.elector i).loop ≠ .storing true ∧
    (outcome = .lost → ¬s.Holds cfg i)
  | _ => True

end Conditions

section Instances

variable [Fintype ι] [DecidableEq ι] (cfg : ElectionConfig ι) (s : Election ι)

instance (i : ι) : Decidable (s.Holds cfg i) :=
  inferInstanceAs (Decidable (LeaseKey.Holds _ _ _))

instance : DecidablePred (s.RenewsInTime cfg)
  | .tick elapsed => inferInstanceAs (Decidable (∀ i, _ → s.Holds cfg i →
      LeaseKey.Holds s.key (s.clock + elapsed) (cfg.instanceID i)))
  | .tryAcquireLeadership _ | .setNX _ _ | .renewLeadership _ _ | .store _ | .stop _
  | .releaseLeadership _ _ | .storeReleased _ => .isTrue trivial

instance : DecidablePred (s.ReleasesInOrder cfg)
  | .setNX i _ => inferInstanceAs (Decidable (_ → (¬∃ k ∈ s.key, _) → ∀ j, j ≠ i → _))
  | .releaseLeadership i _ => inferInstanceAs (Decidable (_ ∧ (_ → ¬s.Holds cfg i)))
  | .tick _ | .tryAcquireLeadership _ | .renewLeadership _ _ | .store _ | .stop _
  | .storeReleased _ => .isTrue trivial

end Instances

structure Safe (cfg : ElectionConfig ι) (s : Election ι) : Prop where
  backed : ∀ i, (s.elector i).Claims →
    s.Holds cfg i ∨ (s.elector i).stop = .storing ∧ (s.elector i).loop ≠ .storing true
  alone : ∀ i, (s.elector i).stop = .storing → (s.elector i).Claims → ∀ j, j ≠ i → ¬s.Holds cfg j
  unique : ∀ i j, (s.elector i).Claims → (s.elector j).Claims → i = j

variable {cfg : ElectionConfig ι} {s s' : Election ι} {event : ElectionEvent ι} {i : ι}

theorem Holds.unique {j : ι} (hi : s.Holds cfg i) (hj : s.Holds cfg j) : i = j :=
  cfg.distinct (LeaseKey.Holds.eq hi hj)

theorem safe_start (cfg : ElectionConfig ι) (clock : Time) (key : Option (LeaseKey String)) :
    (start clock key : Election ι).Safe cfg := by
  have hnone (i : ι) : ¬((start clock key : Election ι).elector i).Claims := by
    rintro (h | h) <;> cases h
  exact ⟨fun i hi => absurd hi (hnone i), fun i _ hi => absurd hi (hnone i),
    fun i _ hi => absurd hi (hnone i)⟩

theorem Safe.tick {elapsed : ℕ} (h : s.Safe cfg) (hrenews : s.RenewsInTime cfg (.tick elapsed)) :
    Safe cfg { s with clock := s.clock + elapsed } := by
  refine ⟨fun i hi => ?_, fun i hstop hi j hj hholds => ?_, h.unique⟩
  · rcases h.backed i hi with hholds | hstop
    · exact .inl (hrenews i hi hholds)
    · exact .inr hstop
  · exact h.alone i hstop hi j hj (LeaseKey.Holds.earlier hholds)

variable [DecidableEq ι]

theorem Safe.put (h : s.Safe cfg)
    (hothers : ∀ j, j ≠ i → ((s.put i e key).Holds cfg j ↔ s.Holds cfg j))
    (hkey : (s.put i e key).Holds cfg i →
      s.Holds cfg i ∨ ∀ j, j ≠ i → (s.elector j).stop ≠ .storing)
    (hbacked : e.Claims → (s.put i e key).Holds cfg i ∨ e.stop = .storing ∧ e.loop ≠ .storing true)
    (halone : e.stop = .storing → e.Claims → ∀ j, j ≠ i → ¬s.Holds cfg j)
    (hclaims : e.Claims → (s.elector i).Claims ∨ ∀ j, j ≠ i → ¬(s.elector j).Claims) :
    (s.put i e key).Safe cfg := by
  have honly (hi : e.Claims) {j : ι} (hj : j ≠ i) : ¬(s.elector j).Claims := by
    intro hclaim
    rcases hclaims hi with hold | hnone
    · exact hj (h.unique j i hclaim hold)
    · exact hnone j hj hclaim
  refine ⟨fun j hj => ?_, fun j hstop hj k hk hholds => ?_, fun j k hj hk => ?_⟩
  · by_cases hji : j = i
    · subst hji
      rw [elector_put_self] at hj ⊢
      exact hbacked hj
    · rw [elector_put_of_ne s hji] at hj ⊢
      rw [hothers j hji]
      exact h.backed j hj
  · by_cases hji : j = i
    · subst hji
      rw [elector_put_self] at hstop hj
      exact halone hstop hj k hk ((hothers k hk).mp hholds)
    · rw [elector_put_of_ne s hji] at hstop hj
      by_cases hki : k = i
      · subst hki
        rcases hkey hholds with hold | hnone
        · exact h.alone j hstop hj k hk hold
        · exact hnone j hji hstop
      · exact h.alone j hstop hj k hk ((hothers k hki).mp hholds)
  · by_cases hji : j = i
    · by_cases hki : k = i
      · exact hji.trans hki.symm
      · subst hji
        rw [elector_put_self] at hj
        rw [elector_put_of_ne s hki] at hk
        exact absurd hk (honly hj hki)
    · rw [elector_put_of_ne s hji] at hj
      by_cases hki : k = i
      · subst hki
        rw [elector_put_self] at hk
        exact absurd hj (honly hk hji)
      · rw [elector_put_of_ne s hki] at hk
        exact h.unique j k hj hk

theorem Safe.put_same (h : s.Safe cfg) (hclaims : e.Claims → (s.elector i).Claims)
    (hstop : e.stop = .storing → (s.elector i).stop = .storing)
    (hletting : e.Claims → (s.elector i).stop = .storing → (s.elector i).loop ≠ .storing true →
    e.stop = .storing ∧ e.loop ≠ .storing true) : (s.put i e s.key).Safe cfg := by
  refine h.put (fun _ _ => Iff.rfl) .inl (fun hi => ?_) (fun hs hi => ?_)
    fun hi => .inl (hclaims hi)
  · rcases h.backed i (hclaims hi) with hholds | ⟨hs, hl⟩
    · exact .inl hholds
    · exact .inr (hletting hi hs hl)
  · exact h.alone i (hstop hs) (hclaims hi)

variable {outcome : CommandOutcome}

theorem holds_keyAfter {j : ι} (h : LeaseKey.Holds key s.clock (cfg.instanceID j) ↔ s.Holds cfg j) :
    (s.put i e (s.keyAfter outcome key)).Holds cfg j ↔ s.Holds cfg j := by
  change LeaseKey.Holds (s.keyAfter outcome key) s.clock (cfg.instanceID j) ↔ _
  rw [keyAfter]
  split
  · exact Iff.rfl
  · exact h

theorem Safe.put_won (h : s.Safe cfg)
    (hothers : ∀ j, j ≠ i →
      ((s.put i { s.elector i with loop := .storing true } key).Holds cfg j ↔ s.Holds cfg j))
    (hholds : (s.put i { s.elector i with loop := .storing true } key).Holds cfg i)
    (hkey : s.Holds cfg i ∨ ∀ j, j ≠ i → (s.elector j).stop ≠ .storing)
    (hclaims : ∀ j, j ≠ i → ¬(s.elector j).Claims) :
    (s.put i { s.elector i with loop := .storing true } key).Safe cfg := by
  refine h.put hothers (fun _ => hkey) (fun _ => .inl hholds) (fun _ _ j hj hholds' => ?_)
    fun _ => .inr hclaims
  exact hj (Holds.unique ((hothers j hj).mpr hholds') hholds)

theorem Safe.put_lost (h : s.Safe cfg)
    (hothers : ∀ j, j ≠ i →
      ((s.put i { s.elector i with loop := .storing false } key).Holds cfg j ↔ s.Holds cfg j))
    (hmine : s.Holds cfg i → (s.put i { s.elector i with loop := .storing false } key).Holds cfg i)
    (hkey : (s.put i { s.elector i with loop := .storing false } key).Holds cfg i →
      s.Holds cfg i ∨ ∀ j, j ≠ i → (s.elector j).stop ≠ .storing) :
    (s.put i { s.elector i with loop := .storing false } key).Safe cfg := by
  have hold (hi : LeaderElector.Claims { s.elector i with loop := .storing false }) :
      (s.elector i).Claims := by
    rcases hi with hi | hi
    · exact .inl hi
    · cases hi
  refine h.put hothers hkey (fun hi => ?_) (fun hs hi => h.alone i hs (hold hi)) fun hi =>
    .inl (hold hi)
  rcases h.backed i (hold hi) with hholds | ⟨hs, -⟩
  · exact .inl (hmine hholds)
  · exact .inr ⟨hs, by simp⟩

theorem Safe.setNX (h : s.Safe cfg)
    (horder : s.ReleasesInOrder cfg (.setNX i outcome))
    (hstep : s.step cfg (.setNX i outcome) = some s') : s'.Safe cfg := by
  simp only [Election.step] at hstep
  split at hstep
  · cases hstep
    have hothers (e : LeaderElector) (j : ι) (hj : j ≠ i) :
        (s.put i e (setNX s.key s.clock (cfg.instanceID i) (cfg.lease i)).1).Holds cfg j ↔
          s.Holds cfg j := holds_setNX (cfg.distinct.ne hj)
    cases hset : (setNX s.key s.clock (cfg.instanceID i) (cfg.lease i)).2 with
    | false =>
      -- the key is taken, and nothing changes
      rw [setNX_eq_false hset, Bool.and_false]
      have hkey : s.keyAfter outcome s.key = s.key := by rw [keyAfter, ite_self]
      rw [hkey]
      exact h.put_lost (fun _ _ => Iff.rfl) id .inl
    | true =>
      obtain ⟨hfree, hholds⟩ := setNX_eq_true hset
      have hnot (j : ι) : ¬s.Holds cfg j := by
        rintro ⟨k, hk, hlive, -⟩
        exact hfree ⟨k, hk, hlive⟩
      cases outcome with
      | failed => exact h.put_lost (fun _ _ => Iff.rfl) id .inl
      | lost =>
        have hquiet := horder (by simp) hfree
        exact h.put_lost (hothers _) (fun hi => absurd hi (hnot i)) fun _ => .inr hquiet
      | replied =>
        have hquiet := horder (by simp) hfree
        refine h.put_won (hothers _) hholds (.inr hquiet) fun j hj hclaims => ?_
        rcases h.backed j hclaims with hj' | ⟨hstop, -⟩
        · exact hnot j hj'
        · exact hquiet j hj hstop
  · cases hstep

theorem Safe.renewLeadership (h : s.Safe cfg)
    (hstep : s.step cfg (.renewLeadership i outcome) = some s') : s'.Safe cfg := by
  simp only [Election.step] at hstep
  split at hstep
  · cases hstep
    have hsame (e : LeaderElector) (j : ι) : (s.put i e (s.keyAfter outcome
        (expireIf s.key s.clock (cfg.instanceID i) (cfg.lease i)).1)).Holds cfg j ↔
          s.Holds cfg j := holds_keyAfter (holds_expireIf (cfg.lease_pos i))
    cases hran : outcome = .replied &&
      (expireIf s.key s.clock (cfg.instanceID i) (cfg.lease i)).2 with
    | false =>
      exact h.put_lost (fun j _ => hsame _ j) (hsame _ i).mpr fun hi => .inl ((hsame _ i).mp hi)
    | true =>
      have hholds : s.Holds cfg i :=
        expireIf_eq_true (Bool.and_eq_true_iff.mp hran).2
      refine h.put_won (fun j _ => hsame _ j) ((hsame _ i).mpr hholds) (.inl hholds)
        fun j hj hclaims => ?_
      rcases h.backed j hclaims with hj' | ⟨hstop, -⟩
      · exact hj (hj'.unique hholds)
      · exact h.alone j hstop hclaims i (Ne.symm hj) hholds
  · cases hstep

theorem Safe.releaseLeadership (h : s.Safe cfg)
    (horder : s.ReleasesInOrder cfg (.releaseLeadership i outcome))
    (hstep : s.step cfg (.releaseLeadership i outcome) = some s') : s'.Safe cfg := by
  simp only [Election.step] at hstep
  split at hstep
  · rename_i hreleasing
    cases hstep
    obtain ⟨hloop, hlost⟩ := horder
    have hstop (phase : StopPhase) (hphase : phase ≠ .storing) :
        (s.put i { s.elector i with stop := phase } s.key).Safe cfg := by
      refine h.put_same id (fun hs => absurd hs hphase) fun _ hs => ?_
      rw [hreleasing] at hs
      cases hs
    cases outcome with
    | failed => exact hstop .returned (by simp)
    | lost =>
      have hkey := delIf_of_not_holds (hlost rfl)
      simp only [keyAfter, hkey, ite_self]
      exact hstop .returned (by simp)
    | replied =>
      have hholds (hi : (s.elector i).Claims) : s.Holds cfg i := by
        rcases h.backed i hi with hholds | ⟨hs, -⟩
        · exact hholds
        · rw [hreleasing] at hs
          cases hs
      exact h.put (fun j hj => holds_delIf (cfg.distinct.ne hj))
        (fun hi => absurd hi not_holds_delIf) (fun _ => .inr ⟨rfl, hloop⟩)
        (fun _ hi j hj hj' => hj (hj'.unique (hholds hi))) .inl
  · cases hstep

theorem Safe.step (h : s.Safe cfg) (hrenews : s.RenewsInTime cfg event)
    (horder : s.ReleasesInOrder cfg event) (hstep : s.step cfg event = some s') : s'.Safe cfg := by
  cases event with
  | tick =>
    cases hstep
    exact h.tick hrenews
  | tryAcquireLeadership i =>
    simp only [Election.step] at hstep
    split at hstep
    · rename_i hloop
      cases hstep
      refine h.put_same (fun hi => ?_) id fun hi hs hl => ⟨hs, ?_⟩
      · rcases hi with hi | hi
        · exact .inl hi
        · dsimp only at hi
          split at hi <;> cases hi
      · dsimp only
        split <;> simp
    · cases hstep
  | setNX => exact h.setNX horder hstep
  | renewLeadership => exact h.renewLeadership hstep
  | store i =>
    simp only [Election.step] at hstep
    split at hstep
    · rename_i leader hloop
      cases hstep
      refine h.put_same (fun hi => ?_) id fun hi hs hl => ⟨hs, by simp⟩
      rcases hi with hi | hi
      · exact .inr (hloop.trans (congrArg _ hi))
      · cases hi
    · cases hstep
  | stop i =>
    simp only [Election.step] at hstep
    split at hstep
    · rename_i hstop
      cases hstep
      refine h.put_same id (fun hs => ?_) fun _ hs => ?_
      · dsimp only at hs
        split at hs <;> cases hs
      · rw [hstop] at hs
        cases hs
    · cases hstep
  | releaseLeadership => exact h.releaseLeadership horder hstep
  | storeReleased =>
    simp only [Election.step] at hstep
    split at hstep
    · cases hstep
      refine h.put_same (fun hi => ?_) (fun hs => ?_) fun hi _ hl => ?_
      · rcases hi with hi | hi
        · cases hi
        · exact .inr hi
      · cases hs
      · rcases hi with hi | hi
        · cases hi
        · exact absurd hi hl
    · cases hstep

theorem key_of_other {j : ι}
    (hevent : event = .renewLeadership i outcome ∨ event = .releaseLeadership i outcome)
    (hstep : s.step cfg event = some s') (hne : j ≠ i) (hj : s.Holds cfg j) : s'.key = s.key := by
  have hnot : ¬LeaseKey.Holds s.key s.clock (cfg.instanceID i) := fun hi => hne (hj.unique hi)
  rcases hevent with rfl | rfl
  · simp only [Election.step] at hstep
    split at hstep
    · cases hstep
      simp only [put, keyAfter, expireIf_of_not_holds hnot, ite_self]
    · cases hstep
  · simp only [Election.step] at hstep
    split at hstep
    · cases hstep
      simp only [put, keyAfter, delIf_of_not_holds hnot, ite_self]
    · cases hstep

/-- At most one instance leads, in the runs in which leases are renewed in time and releases are in
order; and in every run no renewal or release touches a key that another instance holds. -/
theorem at_most_one_leader (cfg : ElectionConfig ι) (clock : Time)
    (key : Option (LeaseKey String)) (events : List (ElectionEvent ι)) (s : Election ι)
    (hrun : run (step cfg) (start clock key) events = some s) :
    (Machine.Meets (step cfg) (RenewsInTime cfg) (start clock key) events →
      Machine.Meets (step cfg) (ReleasesInOrder cfg) (start clock key) events →
        ∀ i j, s.isLeader i = true → s.isLeader j = true → i = j) ∧
    ∀ i j outcome event s',
      event = .renewLeadership i outcome ∨ event = .releaseLeadership i outcome →
        s.step cfg event = some s' → j ≠ i → s.Holds cfg j → s'.key = s.key := by
  refine ⟨fun hrenews horder i j hi hj => ?_, fun i j outcome event s' hevent hstep hne hj => ?_⟩
  · have hsafe := invariant (fun s event s' h hC hs => Safe.step h hC.1 hC.2 hs)
      (safe_start cfg clock key) (hrenews.both horder) hrun
    exact hsafe.unique i j (.inl hi) (.inl hj)
  · exact key_of_other hevent hstep hne hj

end Election

section Sample

def twoInstances : ElectionConfig (Fin 2) where
  instanceID i := if i = 0 then "gateway-7-093000" else "gateway-8-093000"
  leaseDuration _ := 30 * second
  distinct := by decide
  whole _ := Dvd.intro_left 30 rfl
  pos _ := by decide

def handover : List (ElectionEvent (Fin 2)) :=
  [.tryAcquireLeadership 0, .setNX 0 .replied, .store 0, .tick (10 * second),
    .tryAcquireLeadership 0, .renewLeadership 0 .replied, .store 0, .tick (25 * second), .stop 0,
    .releaseLeadership 0 .replied, .storeReleased 0, .tryAcquireLeadership 1, .setNX 1 .replied,
    .store 1]

theorem handover_in_order : ∃ s,
    run (Election.step twoInstances) (.start 0 none) handover = some s ∧
      s.isLeader 1 = true ∧ ∀ i j, s.isLeader i = true → s.isLeader j = true → i = j := by
  refine exists_of_any (fun s => s.isLeader 1 = true) (by decide +kernel)
    fun s hrun hleads => ?_
  exact ⟨hleads, (Election.at_most_one_leader twoInstances 0 none handover s hrun).1
    (by decide +kernel) (by decide +kernel)⟩

def overlap : List (ElectionEvent (Fin 2)) :=
  [.tryAcquireLeadership 0, .setNX 0 .replied, .store 0, .stop 0, .releaseLeadership 0 .replied,
    .tryAcquireLeadership 1, .setNX 1 .replied, .store 1]

theorem two_leaders : ∃ s,
    run (Election.step twoInstances) (.start 0 none) overlap = some s ∧
      Machine.Meets (Election.step twoInstances) (Election.RenewsInTime twoInstances)
        (.start 0 none) overlap ∧
      s.isLeader 0 = true ∧ s.isLeader 1 = true ∧
      (s.step twoInstances (.storeReleased 0)).isSome = true := by
  decide +kernel

end Sample

end PathGateway
