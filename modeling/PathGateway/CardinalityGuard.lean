import Mathlib.Data.Finset.Card
import Mathlib.Data.Finset.Insert
import PathGateway.EndpointFilters
import PathGateway.Machine

/-! The cap on the label tuples of a metric. A call that finds its tuple in the table goes on
without the lock; a new tuple is added under the lock, after a sweep for idle ones. The sweep
reads the clock first, goes over the table, and opens a new generation at the end. Goroutines may
interleave at every access to something shared. -/

namespace PathGateway

open Option GoMap AList

/-- A guard without a window or without a way to delete series does not evict. `hash` stands for
the hash of the label values. -/
structure GuardConfig (κ τ : Type*) where
  limit : ℕ
  evictAfter : ℕ
  deletes : Bool
  hash : τ → κ

/-- The entries are handled by pointer: `id` tells an entry from an earlier one of its tuple. -/
structure GuardEntry (τ : Type*) where
  id : ℕ
  lastGen : UInt32
  labels : τ

/-- A goroutine that records something: it calls `allow` and, if admitted, increments the child
series of the tuple. -/
inductive AllowPhase (τ : Type*) where
  | idle
  | called (labels : τ)
  | found (labels : τ) (entry : ℕ)
  | stamping (labels : τ) (entry : ℕ) (gen : UInt32)
  | waiting (labels : τ)
  | locked (labels : τ)
  | admitted (labels : τ)

/-- The tuple of a call that has its entry, until its increment. -/
def AllowPhase.holds {τ : Type*} : AllowPhase τ → Option τ
  | .found labels _ | .stamping labels _ _ | .admitted labels => some labels
  | _ => none

inductive SweepCaller (ι τ : Type*) where
  | janitor
  | allow (i : ι) (labels : τ)

/-- An entry found idle is deleted from the table and then its series from the metric. -/
inductive Visit (κ τ : Type*) where
  | ranging
  | evicting (k : κ) (labels : τ)
  | deleting (labels : τ)

structure Sweep (ι κ τ : Type*) where
  caller : SweepCaller ι τ
  now : Time
  cur : UInt32
  unvisited : List κ
  evicted : ℕ
  visit : Visit κ τ

/-- How far the holder of the lock has come. -/
inductive LockPhase (ι κ τ : Type*) where
  | sweepDue (caller : SweepCaller ι τ) (force : Bool)
  | sweeping (sweep : Sweep ι κ τ)
  | deciding (i : ι) (labels : τ)

/-- The guard with its goroutines and the series of its metric. `observed` is kept for the record:
when a call was admitted, and with which tuple. -/
structure CardinalityGuard (ι κ τ : Type*) where
  clock : Time
  seen : GoMap κ (GuardEntry τ)
  count : ℤ
  gen : UInt32
  nextSweep : Option Time
  allocated : ℕ
  addMu : Option (LockPhase ι κ τ)
  calls : ι → AllowPhase τ
  series : Finset τ
  observed : List (Time × τ)

inductive GuardEvent (ι κ τ : Type*) where
  | tick (elapsed : ℕ)
  | call (i : ι) (labels : τ)
  | miss (i : ι)
  | load (i : ι)
  | loadGen (i : ι)
  | stamp (i : ι)
  /-- The fast path as one: `load`, `loadGen` and `stamp`. -/
  | observe (i : ι)
  | lock (i : ι)
  | sweep (force : Bool)
  | readClock
  | visit (k : κ)
  | evict
  | deleteSeries
  | finish
  | conclude
  | increment (i : ι)

namespace CardinalityGuard

variable {ι κ τ : Type*}

def start (clock : Time) : CardinalityGuard ι κ τ where
  clock := clock
  seen := ∅
  count := 0
  gen := 0
  nextSweep := none
  allocated := 0
  addMu := none
  calls _ := .idle
  series := ∅
  observed := []

def afterSweep : SweepCaller ι τ → Option (LockPhase ι κ τ)
  | .janitor => none
  | .allow i labels => some (.deciding i labels)

variable [DecidableEq ι] [DecidableEq κ] [DecidableEq τ] (cfg : GuardConfig κ τ)
  (s : CardinalityGuard ι κ τ)

variable (i : ι) (labels : τ)

def setCall (phase : AllowPhase τ) : CardinalityGuard ι κ τ :=
  { s with calls := Function.update s.calls i phase }

def touch (k : κ) (entry : ℕ) (gen : UInt32) : CardinalityGuard ι κ τ :=
  { s with
    seen := s.seen.modify (fun e => if e.id = entry then { e with lastGen := gen } else e) k }

def grant : CardinalityGuard ι κ τ :=
  { s.setCall i (.admitted labels) with observed := (s.clock, labels) :: s.observed }

/-- The start of `sweepLocked`: the first call without `force` only sets the time of the next
sweep. -/
def readClock (caller : SweepCaller ι τ) (force : Bool) : CardinalityGuard ι κ τ :=
  let returned := { s with addMu := afterSweep caller }
  let sweeping := { s with
    nextSweep := some (s.clock + cfg.evictAfter)
    addMu := some (.sweeping ⟨caller, s.clock, s.gen, s.seen.keys, 0, .ranging⟩) }
  if cfg.evictAfter = 0 ∨ !cfg.deletes then returned
  else if force then sweeping
  else
    match s.nextSweep with
    | none => { returned with nextSweep := some (s.clock + cfg.evictAfter) }
    | some next => if s.clock < next then returned else sweeping

def setSweep (sweep : Sweep ι κ τ) : CardinalityGuard ι κ τ :=
  { s with addMu := some (.sweeping sweep) }

/-- Entries of the current generation are kept. -/
def visit (sweep : Sweep ι κ τ) (k : κ) : CardinalityGuard ι κ τ :=
  let rest := { sweep with unvisited := sweep.unvisited.erase k }
  match s.seen.lookup k with
  | none => s.setSweep rest
  | some e =>
    if e.lastGen = sweep.cur then s.setSweep rest
    else s.setSweep { rest with visit := .evicting k e.labels }

def finish (sweep : Sweep ι κ τ) : CardinalityGuard ι κ τ :=
  { s with count := s.count - sweep.evicted, gen := s.gen + 1, addMu := afterSweep sweep.caller }

def conclude : CardinalityGuard ι κ τ :=
  if cfg.limit ≤ s.count then { s.setCall i .idle with addMu := none }
  else
    { s.grant i labels with
      seen := s.seen.insert (cfg.hash labels) ⟨s.allocated, s.gen, labels⟩
      allocated := s.allocated + 1
      count := s.count + 1
      addMu := none }

/-- The recheck under the lock follows its acquisition, as nobody else changes the table then. -/
def lock : CardinalityGuard ι κ τ :=
  match s.seen.lookup (cfg.hash labels) with
  | some e => (s.touch (cfg.hash labels) e.id s.gen).grant i labels
  | none =>
    { s.setCall i (.locked labels) with addMu := some (.sweepDue (.allow i labels) false) }

def step : GuardEvent ι κ τ → Option (CardinalityGuard ι κ τ)
  | .tick elapsed => some { s with clock := s.clock + elapsed }
  | .call i labels =>
    match s.calls i with
    | .idle => some (s.setCall i (.called labels))
    | _ => none
  | .miss i =>
    match s.calls i with
    | .called labels =>
      if cfg.hash labels ∈ s.seen then none else some (s.setCall i (.waiting labels))
    | _ => none
  | .load i =>
    match s.calls i with
    | .called labels =>
      (s.seen.lookup (cfg.hash labels)).map fun e => s.setCall i (.found labels e.id)
    | _ => none
  | .loadGen i =>
    match s.calls i with
    | .found labels entry => some (s.setCall i (.stamping labels entry s.gen))
    | _ => none
  | .stamp i =>
    match s.calls i with
    | .stamping labels entry gen =>
      some ((s.touch (cfg.hash labels) entry gen).grant i labels)
    | _ => none
  | .observe i =>
    match s.calls i with
    | .called labels => (s.seen.lookup (cfg.hash labels)).map fun e =>
      (s.touch (cfg.hash labels) e.id s.gen).grant i labels
    | _ => none
  | .lock i =>
    match s.calls i, s.addMu with
    | .waiting labels, none => some (s.lock cfg i labels)
    | _, _ => none
  | .sweep force =>
    match s.addMu with
    | none => some { s with addMu := some (.sweepDue .janitor force) }
    | some _ => none
  | .readClock =>
    match s.addMu with
    | some (.sweepDue caller force) => some (s.readClock cfg caller force)
    | _ => none
  | .visit k =>
    match s.addMu with
    | some (.sweeping sweep) =>
      match sweep.visit with
      | .ranging => if k ∈ sweep.unvisited then some (s.visit sweep k) else none
      | _ => none
    | _ => none
  | .evict =>
    match s.addMu with
    | some (.sweeping sweep) =>
      match sweep.visit with
      | .evicting k labels =>
        some { s.setSweep { sweep with visit := .deleting labels } with seen := s.seen.erase k }
      | _ => none
    | _ => none
  | .deleteSeries =>
    match s.addMu with
    | some (.sweeping sweep) =>
      match sweep.visit with
      | .deleting labels =>
        some { s.setSweep { sweep with evicted := sweep.evicted + 1, visit := .ranging } with
          series := s.series.erase labels }
      | _ => none
    | _ => none
  | .finish =>
    match s.addMu with
    | some (.sweeping sweep) =>
      match sweep.visit, sweep.unvisited with
      | .ranging, [] => some (s.finish sweep)
      | _, _ => none
    | _ => none
  | .conclude =>
    match s.addMu with
    | some (.deciding i labels) => some (s.conclude cfg i labels)
    | _ => none
  | .increment i =>
    match s.calls i with
    | .admitted labels =>
      some { s.setCall i .idle with series := insert labels s.series }
    | _ => none

end CardinalityGuard

/-- The tuple that the caller may come to add. -/
def SweepCaller.adding {ι τ : Type*} : SweepCaller ι τ → Option τ
  | .janitor => none
  | .allow _ labels => some labels

namespace LockPhase

variable {ι κ τ : Type*}

def adding : LockPhase ι κ τ → Option τ
  | .sweepDue caller _ => caller.adding
  | .sweeping sweep => sweep.caller.adding
  | .deciding _ labels => some labels

/-- How many entries the sweep has taken from the table and not yet from the count. -/
def uncounted : LockPhase ι κ τ → ℕ
  | .sweeping sweep =>
    match sweep.visit with
    | .deleting _ => sweep.evicted + 1
    | _ => sweep.evicted
  | _ => 0

def evicting : LockPhase ι κ τ → Option κ
  | .sweeping sweep =>
    match sweep.visit with
    | .evicting k _ => some k
    | _ => none
  | _ => none

end LockPhase

namespace CardinalityGuard

variable {ι κ τ : Type*}

variable {caller : SweepCaller ι τ}

section Moves

variable [DecidableEq ι] [DecidableEq κ] [DecidableEq τ] {cfg : GuardConfig κ τ}

inductive Moves (cfg : GuardConfig κ τ) (s : CardinalityGuard ι κ τ) :
    GuardEvent ι κ τ → CardinalityGuard ι κ τ → Prop where
  | tick {elapsed} : Moves cfg s (.tick elapsed) { s with clock := s.clock + elapsed }
  | call {i labels} (h : s.calls i = .idle) :
    Moves cfg s (.call i labels) (s.setCall i (.called labels))
  | miss {i labels} (h : s.calls i = .called labels) (hnew : cfg.hash labels ∉ s.seen) :
    Moves cfg s (.miss i) (s.setCall i (.waiting labels))
  | load {i labels e} (h : s.calls i = .called labels)
    (he : s.seen.lookup (cfg.hash labels) = some e) :
    Moves cfg s (.load i) (s.setCall i (.found labels e.id))
  | loadGen {i labels entry} (h : s.calls i = .found labels entry) :
    Moves cfg s (.loadGen i) (s.setCall i (.stamping labels entry s.gen))
  | stamp {i labels entry gen} (h : s.calls i = .stamping labels entry gen) :
    Moves cfg s (.stamp i) ((s.touch (cfg.hash labels) entry gen).grant i labels)
  | observe {i labels e} (h : s.calls i = .called labels)
    (he : s.seen.lookup (cfg.hash labels) = some e) :
    Moves cfg s (.observe i) ((s.touch (cfg.hash labels) e.id s.gen).grant i labels)
  | lockFound {i labels e} (h : s.calls i = .waiting labels)
    (hfree : s.addMu = none) (he : s.seen.lookup (cfg.hash labels) = some e) :
    Moves cfg s (.lock i) ((s.touch (cfg.hash labels) e.id s.gen).grant i labels)
  | lockNew {i labels} (h : s.calls i = .waiting labels) (hfree : s.addMu = none)
    (hnew : cfg.hash labels ∉ s.seen) :
    Moves cfg s (.lock i)
      { s.setCall i (.locked labels) with addMu := some (.sweepDue (.allow i labels) false) }
  | sweep {force} (hfree : s.addMu = none) :
    Moves cfg s (.sweep force) { s with addMu := some (.sweepDue .janitor force) }
  | waits {caller force next} (hdue : s.addMu = some (.sweepDue caller force))
    (hnext : next = s.nextSweep ∨ s.nextSweep = none ∧ next = some (s.clock + cfg.evictAfter)) :
    Moves cfg s .readClock { s with nextSweep := next, addMu := afterSweep caller }
  | starts {caller force} (hdue : s.addMu = some (.sweepDue caller force))
    (hover : force = false → ∃ next ∈ s.nextSweep, next ≤ s.clock) :
    Moves cfg s .readClock
      { s with
        nextSweep := some (s.clock + cfg.evictAfter)
        addMu := some (.sweeping ⟨caller, s.clock, s.gen, s.seen.keys, 0, .ranging⟩) }
  | passes {sweep k} (hsweep : s.addMu = some (.sweeping sweep))
    (hranging : sweep.visit = .ranging) :
    Moves cfg s (.visit k) (s.setSweep { sweep with unvisited := sweep.unvisited.erase k })
  | dooms {sweep k e} (hsweep : s.addMu = some (.sweeping sweep))
      (hranging : sweep.visit = .ranging)
    (he : s.seen.lookup k = some e) (hidle : e.lastGen ≠ sweep.cur) :
    Moves cfg s (.visit k) (s.setSweep { sweep with
      unvisited := sweep.unvisited.erase k, visit := .evicting k e.labels })
  | evict {sweep k labels} (hsweep : s.addMu = some (.sweeping sweep))
    (hevicting : sweep.visit = .evicting k labels) :
    Moves cfg s .evict
      { s.setSweep { sweep with visit := .deleting labels } with seen := s.seen.erase k }
  | deleteSeries {sweep labels} (hsweep : s.addMu = some (.sweeping sweep))
    (hdeleting : sweep.visit = .deleting labels) :
    Moves cfg s .deleteSeries
      { s.setSweep { sweep with evicted := sweep.evicted + 1, visit := .ranging } with
        series := s.series.erase labels }
  | finish {sweep} (hsweep : s.addMu = some (.sweeping sweep))
    (hranging : sweep.visit = .ranging) : Moves cfg s .finish (s.finish sweep)
  | dropped {i labels} (hdeciding : s.addMu = some (.deciding i labels))
    (hfull : cfg.limit ≤ s.count) :
    Moves cfg s .conclude { s.setCall i .idle with addMu := none }
  | added {i labels} (hdeciding : s.addMu = some (.deciding i labels))
    (hroom : s.count < cfg.limit) :
    Moves cfg s .conclude
      { s.grant i labels with
        seen := s.seen.insert (cfg.hash labels) ⟨s.allocated, s.gen, labels⟩
        allocated := s.allocated + 1
        count := s.count + 1
        addMu := none }
  | increment {i labels} (h : s.calls i = .admitted labels) :
    Moves cfg s (.increment i) { s.setCall i .idle with series := insert labels s.series }

theorem moves_readClock {s : CardinalityGuard ι κ τ}
    {force : Bool} (hdue : s.addMu = some (.sweepDue caller force)) :
    Moves cfg s .readClock (s.readClock cfg caller force) := by
  rw [readClock]
  split
  · exact .waits hdue (.inl rfl)
  · split_ifs with hforce
    · exact .starts hdue fun hnot => absurd hforce (by simp [hnot])
    · split
      · rename_i hnone
        exact .waits hdue (.inr ⟨hnone, rfl⟩)
      · rename_i next hnext
        split_ifs with hover
        · exact .waits hdue (.inl rfl)
        · exact .starts hdue fun _ => ⟨next, hnext, Nat.not_lt.mp hover⟩

theorem moves_of_step {s s' : CardinalityGuard ι κ τ} {event : GuardEvent ι κ τ}
    (hstep : s.step cfg event = some s') : Moves cfg s event s' := by
  cases event with
  | tick =>
    cases hstep
    exact .tick
  | call | loadGen | stamp | sweep | increment =>
    simp only [step] at hstep
    split at hstep
    · cases hstep
      constructor
      assumption
    · cases hstep
  | miss =>
    simp only [step] at hstep
    split at hstep
    · split at hstep
      · cases hstep
      · cases hstep
        exact .miss ‹_› ‹_›
    · cases hstep
  | load | observe =>
    simp only [step] at hstep
    split at hstep
    · obtain ⟨e, he, rfl⟩ := map_eq_some_iff.mp hstep
      constructor <;> assumption
    · cases hstep
  | lock i =>
    simp only [step] at hstep
    split at hstep
    · rename_i hcall hfree
      cases hstep
      rw [lock]
      split
      · exact .lockFound hcall hfree ‹_›
      · exact .lockNew hcall hfree (lookup_eq_none.mp ‹_›)
    · cases hstep
  | readClock =>
    simp only [step] at hstep
    split at hstep
    · cases hstep
      exact moves_readClock ‹_›
    · cases hstep
  | visit k =>
    simp only [step] at hstep
    split at hstep
    · rename_i hsweep
      split at hstep
      · split at hstep
        · cases hstep
          rw [visit]
          split
          · exact .passes hsweep ‹_›
          · split
            · exact .passes hsweep ‹_›
            · exact .dooms hsweep ‹_› ‹_› ‹_›
        · cases hstep
      · cases hstep
    · cases hstep
  | evict | deleteSeries | finish =>
    simp only [step] at hstep
    split at hstep
    · split at hstep
      · cases hstep
        constructor <;> assumption
      · cases hstep
    · cases hstep
  | conclude =>
    simp only [step] at hstep
    split at hstep
    · rename_i hdeciding
      cases hstep
      rw [conclude]
      split
      · exact .dropped hdeciding ‹_›
      · exact .added hdeciding (Int.not_le.mp ‹_›)
    · cases hstep

end Moves

section Accounting

/-- The count is the size of the table, but for what a sweep is taking out of it. -/
structure Balanced (cfg : GuardConfig κ τ) (seen : GoMap κ (GuardEntry τ)) (count : ℤ)
    (addMu : Option (LockPhase ι κ τ)) : Prop where
  balance : count = seen.keys.length + (addMu.elim 0 LockPhase.uncounted : ℕ)
  bounded : count ≤ cfg.limit
  absent : ∀ phase ∈ addMu, ∀ labels ∈ phase.adding, cfg.hash labels ∉ seen
  there : ∀ phase ∈ addMu, ∀ k ∈ phase.evicting, k ∈ seen

abbrev Accounted (cfg : GuardConfig κ τ) (s : CardinalityGuard ι κ τ) : Prop :=
  Balanced cfg s.seen s.count s.addMu

variable {cfg : GuardConfig κ τ} {seen : GoMap κ (GuardEntry τ)} {count : ℤ}
  {addMu : Option (LockPhase ι κ τ)} {phase phase' : LockPhase ι κ τ}

theorem balanced_free (hbalance : count = seen.keys.length) (hbounded : count ≤ cfg.limit) :
    Balanced cfg seen count (none : Option (LockPhase ι κ τ)) :=
  ⟨by simp [hbalance], hbounded, by simp, by simp⟩

theorem accounted_start (cfg : GuardConfig κ τ) (clock : Time) :
    (start clock : CardinalityGuard ι κ τ).Accounted cfg :=
  balanced_free rfl (Int.natCast_nonneg _)

theorem balanced_lock (hbalance : count = seen.keys.length + phase.uncounted)
    (hbounded : count ≤ cfg.limit) (habsent : ∀ labels ∈ phase.adding, cfg.hash labels ∉ seen)
    (hthere : ∀ k ∈ phase.evicting, k ∈ seen) : Balanced cfg seen count (some phase) := by
  refine ⟨hbalance, hbounded, ?_, ?_⟩ <;> rintro _ ⟨⟩
  · exact habsent
  · exact hthere

theorem Balanced.acquire (h : Balanced cfg seen count addMu) (hfree : addMu = none)
    (hzero : phase.uncounted = 0) (habsent : ∀ labels ∈ phase.adding, cfg.hash labels ∉ seen)
    (hnone : phase.evicting = none) : Balanced cfg seen count (some phase) := by
  refine balanced_lock ?_ h.bounded habsent (by simp [hnone])
  rw [hzero, h.balance, hfree]
  rfl

theorem Balanced.relock (h : Balanced cfg seen count addMu) (hlock : addMu = some phase)
    (huncounted : phase'.uncounted = phase.uncounted) (hadding : phase'.adding = phase.adding)
    (hthere : ∀ k ∈ phase'.evicting, k ∈ seen) : Balanced cfg seen count (some phase') := by
  subst hlock
  exact balanced_lock (huncounted ▸ h.balance) h.bounded (hadding ▸ h.absent phase rfl) hthere

theorem balanced_afterSweep (hbalance : count = seen.keys.length) (hbounded : count ≤ cfg.limit)
    (habsent : ∀ labels ∈ caller.adding, cfg.hash labels ∉ seen) :
    Balanced cfg seen count (afterSweep caller : Option (LockPhase ι κ τ)) := by
  cases caller with
  | janitor => exact balanced_free hbalance hbounded
  | allow =>
    exact balanced_lock (by simp [LockPhase.uncounted, hbalance]) hbounded habsent
      (by simp [LockPhase.evicting])

theorem Balanced.length_keys (h : Balanced cfg seen count addMu) (hlock : addMu = some phase)
    (hzero : phase.uncounted = 0) : count = seen.keys.length := by
  rw [h.balance, hlock, elim_some, hzero]
  exact Int.add_zero _

variable {sweep : Sweep ι κ τ}

theorem Balanced.finish (h : Balanced cfg seen count addMu)
    (hsweep : addMu = some (.sweeping sweep)) (hranging : sweep.visit = .ranging) :
    Balanced cfg seen (count - sweep.evicted)
      (afterSweep sweep.caller : Option (LockPhase ι κ τ)) := by
  have hbalance := h.balance
  rw [hsweep, elim_some, LockPhase.uncounted, hranging] at hbalance
  have hbounded := h.bounded
  dsimp only at hbalance
  exact balanced_afterSweep (by omega) (by omega) (h.absent _ hsweep)

variable [DecidableEq κ] {k : κ} {labels : τ}

theorem Balanced.evict (h : Balanced cfg seen count addMu)
    (hsweep : addMu = some (.sweeping sweep)) (hevicting : sweep.visit = .evicting k labels) :
    Balanced cfg (seen.erase k) count
      (some (.sweeping { sweep with visit := .deleting labels })) := by
  have hk : k ∈ seen := h.there _ hsweep k (by simp [LockPhase.evicting, hevicting])
  have hbalance := h.balance
  rw [hsweep, elim_some, LockPhase.uncounted, hevicting] at hbalance
  have hlength : (seen.erase k).keys.length + 1 = seen.keys.length := length_keys_erase hk
  refine balanced_lock ?_ h.bounded (fun labels' hlabels hmem => ?_) (by simp [LockPhase.evicting])
  · rw [LockPhase.uncounted, hbalance]
    push_cast
    omega
  · exact h.absent _ hsweep labels' hlabels (mem_erase.mp hmem).2

theorem Balanced.modify {f : GuardEntry τ → GuardEntry τ} (h : Balanced cfg seen count addMu) :
    Balanced cfg (seen.modify f k) count addMu := by
  refine ⟨?_, h.bounded, fun phase hphase labels hlabels hmem => ?_, fun phase hphase k hk => ?_⟩
  · rw [length_keys_modify]
    exact h.balance
  · exact h.absent phase hphase labels hlabels (mem_modify.mp hmem)
  · exact mem_modify.mpr (h.there phase hphase k hk)

theorem Balanced.insert {e : GuardEntry τ} (hcount : count = seen.keys.length)
    (hroom : count < cfg.limit) (hnew : k ∉ seen) :
    Balanced cfg (seen.insert k e) (count + 1) (none : Option (LockPhase ι κ τ)) := by
  refine balanced_free ?_ (Int.add_one_le_iff.mpr hroom)
  rw [length_keys_insert hnew, hcount]
  push_cast
  rfl

variable [DecidableEq ι] [DecidableEq τ] {s s' : CardinalityGuard ι κ τ} {event : GuardEvent ι κ τ}

theorem Accounted.step (h : s.Accounted cfg) (hstep : s.step cfg event = some s') :
    s'.Accounted cfg := by
  cases moves_of_step hstep with
  | tick | increment | call | miss | load | loadGen => exact h
  | stamp | observe | lockFound => exact h.modify
  | lockNew _ hfree hnew =>
    refine h.acquire hfree rfl ?_ rfl
    simpa [LockPhase.adding, SweepCaller.adding] using hnew
  | sweep hfree => exact h.acquire hfree rfl (by simp [LockPhase.adding, SweepCaller.adding]) rfl
  | waits hdue => exact balanced_afterSweep (h.length_keys hdue rfl) h.bounded (h.absent _ hdue)
  | starts hdue => exact h.relock hdue rfl rfl (by simp [LockPhase.evicting])
  | @passes sweep _ hsweep =>
    exact h.relock hsweep rfl rfl (h.there (.sweeping sweep) hsweep)
  | dooms hsweep hranging he =>
    refine h.relock hsweep (by simp [LockPhase.uncounted, hranging]) rfl ?_
    simpa [LockPhase.evicting] using lookup_isSome.mp (by simp [he])
  | evict hsweep hevicting => exact h.evict hsweep hevicting
  | deleteSeries hsweep hdeleting =>
    exact h.relock hsweep (by simp [LockPhase.uncounted, hdeleting]) rfl
      (by simp [LockPhase.evicting])
  | finish hsweep hranging => exact h.finish hsweep hranging
  | dropped hdeciding => exact balanced_free (h.length_keys hdeciding rfl) h.bounded
  | added hdeciding hroom =>
    exact .insert (h.length_keys hdeciding rfl) hroom (h.absent _ hdeciding _ rfl)

end Accounting

end CardinalityGuard

end PathGateway
