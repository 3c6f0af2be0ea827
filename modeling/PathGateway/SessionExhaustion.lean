import PathGateway.EndpointFilters
import PathGateway.Machine

/-! The suppliers whose session budget is used up. A mark lasts for a fixed time; an expired one
is removed by the call that finds it, after it has given up the lock, or by a reaper. -/

namespace PathGateway

open SessionExhaustionTracker Option List Machine AList

def sessionExhaustionEvictThreshold : ℕ := 1024

namespace SessionExhaustionTracker

/-- With an empty part, `Mark` and `IsExhausted` return before they make a key of the parts. -/
abbrev Key := { key : SessionExhaustionKey //
  key.serviceID ≠ "" ∧ key.sessionID ≠ "" ∧ key.supplier ≠ "" }

variable (t : SessionExhaustionTracker) (now : Time)

def reapLocked : SessionExhaustionTracker :=
  { entries := t.entries.retain (fun _ v => decide (now ≤ v + sessionExhaustionTTL)) }

/-- The call of `Mark` with this number. -/
def mark (key : SessionExhaustionKey) (count : ℕ) : SessionExhaustionTracker :=
  let t : SessionExhaustionTracker := { entries := t.entries.insert key now }
  if sessionExhaustionEvictThreshold < t.entries.entries.length ∧ count % 64 = 0 then
    t.reapLocked now
  else t

def deleteExpired (key : SessionExhaustionKey) : SessionExhaustionTracker :=
  if (t.entries.lookup key).any (fun v => v + sessionExhaustionTTL < now) then
    { entries := t.entries.erase key }
  else t

abbrev Marks := List (SessionExhaustionKey × Time)

inductive Stage where
  | called
  | found (markedAt : Time)
  | expired (reading : Time)
  | returned (reading : Time) (answer : Bool)
  deriving DecidableEq

/-- A call of `IsExhausted`, with the marks that were there when it started. -/
structure Query where
  key : SessionExhaustionKey
  before : Marks
  stage : Stage := .called
  deriving DecidableEq

structure Snapshot (ι : Type*) where
  now : Time := 0
  tracker : SessionExhaustionTracker := ⟨∅⟩
  markCount : ℕ := 0
  marks : Marks := []
  queries : ι → Option Query := fun _ => none

inductive Event (ι : Type*) where
  | tick (elapsed : Time)
  | mark (key : Key)
  | reap
  | call (p : ι) (key : Key)
  | lookup (p : ι)
  | check (p : ι)
  | delete (p : ι)

variable {ι : Type*}

def lookupStage (t : SessionExhaustionTracker) (now : Time) (key : SessionExhaustionKey) : Stage :=
  (t.entries.lookup key).elim (.returned now false) .found

def checkStage (now markedAt : Time) : Stage :=
  if now ≤ markedAt + sessionExhaustionTTL then .returned now true else .expired now

/-- The answer is true for a mark from before the call that is still good at the reading, and
only if there is a mark that is. -/
def Exact (key : SessionExhaustionKey) (before marks : Marks) (reading : Time) (answer : Bool) :
    Prop :=
  (∀ m, (key, m) ∈ before → reading ≤ m + sessionExhaustionTTL → answer = true) ∧
    (answer = true → ∃ m, (key, m) ∈ marks ∧ m ≤ reading ∧ reading ≤ m + sessionExhaustionTTL)

def Query.Sound (q : Query) (now : Time) (marks : Marks) : Prop :=
  match q.stage with
  | .called => q.before ⊆ marks
  | .found markedAt => (q.key, markedAt) ∈ marks ∧
    ∀ m, (q.key, m) ∈ q.before → now ≤ m + sessionExhaustionTTL → m ≤ markedAt
  | .expired reading => Exact q.key q.before marks reading false
  | .returned reading answer => Exact q.key q.before marks reading answer

structure Sound (s : Snapshot ι) : Prop where
  past : ∀ k m, (k, m) ∈ s.marks → m ≤ s.now
  kept : ∀ k m, (k, m) ∈ s.marks → s.now ≤ m + sessionExhaustionTTL →
    ∃ v, s.tracker.entries.lookup k = some v ∧ m ≤ v
  marked : ∀ k v, s.tracker.entries.lookup k = some v → (k, v) ∈ s.marks
  queries : ∀ p q, s.queries p = some q → q.Sound s.now s.marks

variable {s t : Snapshot ι} {q : Query}

theorem Query.Sound.mono {now now' : Time} {marks marks' : Marks} (h : q.Sound now marks)
    (hnow : now ≤ now') (hmarks : marks ⊆ marks') : q.Sound now' marks' := by
  obtain ⟨key, before, stage⟩ := q
  have hexact {reading answer} (h : Exact key before marks reading answer) :
      Exact key before marks' reading answer :=
    ⟨h.1, fun ha => (h.2 ha).imp fun m hm => ⟨hmarks hm.1, hm.2⟩⟩
  cases stage with
  | called => exact List.Subset.trans h hmarks
  | found => exact ⟨hmarks h.1, fun m hm hle => h.2 m hm (hnow.trans hle)⟩
  | expired | returned => exact hexact h

/-- Only expired entries are removed. -/
theorem Sound.shrink {tracker : SessionExhaustionTracker} (h : Sound s)
    (hsame : ∀ k, tracker.entries.lookup k = s.tracker.entries.lookup k ∨ tracker.entries.lookup k =
      none ∧ ∀ v, s.tracker.entries.lookup k = some v → v + sessionExhaustionTTL < s.now) :
    Sound { s with tracker := tracker } := by
  refine ⟨h.past, fun k m hm hle => ?_, fun k v hv => ?_, h.queries⟩
  · obtain ⟨v, hv, hmv⟩ := h.kept k m hm hle
    rcases hsame k with heq | ⟨-, hexpired⟩
    · exact ⟨v, heq.trans hv, hmv⟩
    · exact absurd hle (not_le.mpr ((Nat.add_le_add_right hmv _).trans_lt (hexpired v hv)))
  · rcases hsame k with heq | ⟨hnone, -⟩
    · exact h.marked k v (heq ▸ hv)
    · rw [hnone] at hv
      cases hv

theorem Sound.reap (h : Sound s) : Sound { s with tracker := s.tracker.reapLocked s.now } := by
  refine h.shrink fun k => ?_
  rw [reapLocked, GoMap.lookup_retain]
  cases hv : s.tracker.entries.lookup k with
  | none => exact .inl rfl
  | some v =>
    by_cases hle : s.now ≤ v + sessionExhaustionTTL
    · exact .inl (by simp [hle])
    · have hlt := not_le.mp hle
      exact .inr ⟨by simp [hlt], fun v' hv' => some.inj hv' ▸ hlt⟩

theorem Sound.deleteExpired (h : Sound s) (key : SessionExhaustionKey) :
    Sound { s with tracker := s.tracker.deleteExpired s.now key } := by
  refine h.shrink fun k => ?_
  rw [SessionExhaustionTracker.deleteExpired]
  split
  case isTrue hany =>
    obtain ⟨v, hv, hexpired⟩ := (any_eq_true _ _).mp hany
    by_cases hk : k = key
    · subst hk
      refine .inr ⟨lookup_erase _ _, fun v' hv' => ?_⟩
      exact some.inj (hv.symm.trans hv') ▸ of_decide_eq_true hexpired
    · exact .inl (lookup_erase_ne hk)
  case isFalse => exact .inl rfl

theorem Sound.mark (h : Sound s) (key : SessionExhaustionKey) (count : ℕ) : Sound { s with
    tracker := s.tracker.mark s.now key count
    markCount := count
    marks := (key, s.now) :: s.marks } := by
  have hpast (k : SessionExhaustionKey) (m : Time) (hm : (k, m) ∈ (key, s.now) :: s.marks) :
      m ≤ s.now := by
    rcases mem_cons.mp hm with hm | hm
    · exact (Prod.ext_iff.mp hm).2.le
    · exact h.past k m hm
  have hmark : Sound { s with
      tracker := ⟨s.tracker.entries.insert key s.now⟩
      markCount := count
      marks := (key, s.now) :: s.marks } := by
    refine ⟨hpast, fun k m hm hle => ?_, fun k v hv => ?_,
      fun p q hq => (h.queries p q hq).mono le_rfl (subset_cons_self _ _)⟩
    · by_cases hk : k = key
      · subst hk
        exact ⟨s.now, lookup_insert _, hpast k m hm⟩
      · simp only [mem_cons, Prod.mk.injEq, hk, false_and, false_or] at hm
        simpa only [lookup_insert_ne hk] using h.kept k m hm hle
    · by_cases hk : k = key
      · subst hk
        obtain rfl : s.now = v := by simpa using hv
        exact mem_cons_self
      · exact mem_cons_of_mem _ (h.marked k v (by simpa [hk] using hv))
  simp only [SessionExhaustionTracker.mark]
  split
  · exact hmark.reap
  · exact hmark

variable {key : SessionExhaustionKey} {before : Marks}

theorem Sound.lookupStage (h : Sound s) (hbefore : before ⊆ s.marks) :
    Query.Sound ⟨key, before, s.tracker.lookupStage s.now key⟩ s.now s.marks := by
  rw [SessionExhaustionTracker.lookupStage]
  cases hv : s.tracker.entries.lookup key with
  | none =>
    refine ⟨fun m hm hle => ?_, fun ha => by cases ha⟩
    obtain ⟨v, hv', -⟩ := h.kept key m (hbefore hm) hle
    rw [hv] at hv'
    cases hv'
  | some v =>
    refine ⟨h.marked key v hv, fun m hm hle => ?_⟩
    obtain ⟨v', hv', hle⟩ := h.kept key m (hbefore hm) hle
    exact some.inj (hv.symm.trans hv') ▸ hle

theorem Sound.checkStage (h : Sound s)
    {v : Time} (hq : Query.Sound ⟨key, before, .found v⟩ s.now s.marks) :
    Query.Sound ⟨key, before, checkStage s.now v⟩ s.now s.marks := by
  obtain ⟨hmem, hlatest⟩ := hq
  rw [SessionExhaustionTracker.checkStage]
  split
  case isTrue hle => exact ⟨fun _ _ _ => rfl, fun _ => ⟨v, hmem, h.past key v hmem, hle⟩⟩
  case isFalse hlt =>
    refine ⟨fun m hm hle => absurd hle fun hle => hlt ?_, fun ha => by cases ha⟩
    exact hle.trans (Nat.add_le_add_right (hlatest m hm hle) _)

variable [DecidableEq ι] {e : Event ι} {p : ι}

def Snapshot.turn (s : Snapshot ι) (p : ι) (q : Query) : Snapshot ι :=
  { s with queries := Function.update s.queries p (some q) }

def step (s : Snapshot ι) : Event ι → Option (Snapshot ι)
  | .tick elapsed => some { s with now := s.now + elapsed }
  | .mark key => some { s with
      tracker := s.tracker.mark s.now key (s.markCount + 1)
      markCount := s.markCount + 1
      marks := (key, s.now) :: s.marks }
  | .reap => some { s with tracker := s.tracker.reapLocked s.now }
  | .call p key =>
    match s.queries p with
    | none | some ⟨_, _, .returned _ _⟩ => some (s.turn p { key, before := s.marks })
    | _ => none
  | .lookup p =>
    match s.queries p with
    | some ⟨key, before, .called⟩ =>
      some (s.turn p ⟨key, before, s.tracker.lookupStage s.now key⟩)
    | _ => none
  | .check p =>
    match s.queries p with
    | some ⟨key, before, .found markedAt⟩ =>
      some (s.turn p ⟨key, before, checkStage s.now markedAt⟩)
    | _ => none
  | .delete p =>
    match s.queries p with
    | some ⟨key, before, .expired reading⟩ =>
      some { s.turn p ⟨key, before, .returned reading false⟩ with
        tracker := s.tracker.deleteExpired s.now key }
    | _ => none

theorem Sound.turn (h : Sound s) (hq : q.Sound s.now s.marks) : Sound (s.turn p q) := by
  refine ⟨h.past, h.kept, h.marked, fun p' q' hq' => ?_⟩
  by_cases hp : p' = p
  · subst hp
    obtain rfl : q = q' := by simpa [Snapshot.turn] using hq'
    exact hq
  · exact h.queries p' q' (by simpa [Snapshot.turn, hp] using hq')

theorem Sound.step (h : Sound s) (hstep : step s e = some t) : Sound t := by
  cases e with
  | tick elapsed =>
    cases hstep
    have hle : s.now ≤ s.now + elapsed := Nat.le_add_right _ _
    exact ⟨fun k m hm => (h.past k m hm).trans hle, fun k m hm hm' => h.kept k m hm (hle.trans hm'),
      h.marked, fun p q hq => (h.queries p q hq).mono hle (List.Subset.refl _)⟩
  | mark key =>
    cases hstep
    exact h.mark key _
  | reap =>
    cases hstep
    exact h.reap
  | call p key =>
    simp only [step] at hstep
    split at hstep <;> cases hstep <;> exact h.turn (List.Subset.refl _)
  | lookup p =>
    simp only [step] at hstep
    split at hstep <;> cases hstep
    have hbefore := h.queries p _ ‹_›
    exact h.turn (h.lookupStage hbefore)
  | check p =>
    simp only [step] at hstep
    split at hstep <;> cases hstep
    exact h.turn (h.checkStage (h.queries p _ ‹_›))
  | delete p =>
    simp only [step] at hstep
    split at hstep <;> cases hstep
    have hexact := h.queries p _ ‹_›
    exact (@Sound.turn ι s ⟨_, _, .returned _ false⟩ _ p h hexact).deleteExpired _

/-- A call that starts after a mark of its key and reads the clock while that mark is good
returns true, and no call returns true without a good mark. -/
theorem exhaustion_exact (s : Snapshot ι) (hreach : Machine.Reaches step {} s) (p : ι)
    (key : SessionExhaustionKey) (before : Marks) (reading : Time) (answer : Bool)
    (hreturned : s.queries p = some ⟨key, before, .returned reading answer⟩) :
    (∀ m, (key, m) ∈ before → reading ≤ m + sessionExhaustionTTL → answer = true) ∧
      (answer = true → ∃ m, (key, m) ∈ s.marks ∧ m ≤ reading ∧
        reading ≤ m + sessionExhaustionTTL) := by
  obtain ⟨es, hrun⟩ := hreach
  have hinit : Sound ({} : Snapshot ι) := by constructor <;> simp
  exact (invariant_of_step (fun _ _ _ => Sound.step) hinit hrun).queries p _ hreturned

def supplierKey : Key := ⟨⟨"eth", "s1", "pokt1a"⟩, by decide⟩

theorem marked_supplier_skipped :
    ∃ s : Snapshot Unit, run step {} [.mark supplierKey, .call () supplierKey, .tick 5,
        .reap, .lookup (), .check ()] = some s ∧
      ∃ m, (supplierKey.1, m) ∈ s.marks ∧ m ≤ 5 ∧ 5 ≤ m + sessionExhaustionTTL :=
  exists_of_any
    (fun s => s.queries () = some ⟨supplierKey, [(supplierKey.1, 0)], .returned 5 true⟩) (by decide)
    fun s hrun hs => (exhaustion_exact s ⟨_, hrun⟩ () _ _ _ _ hs).2 rfl

end SessionExhaustionTracker

end PathGateway
