import PathGateway.DrainSync

/-! When a drain or a release reaches a replica. The invariant follows one change, the last
one of its key: until it is stored it is under way, a list of drains that was read without
it is known to be out of date, and once a list with it is put in place it stays. -/

namespace PathGateway

open DrainSync Machine Option List

namespace DrainSync

variable {α : Type}

def Agrees {κ : Type} [DecidableEq κ] (b : DrainBackend α) (k : κ) (endsAt : Option Time)
    (clock : Time) (m : GoMap κ Time) : Prop :=
  match endsAt with
  | none => m.lookup k = none
  | some t =>
    (∃ e, m.lookup k = some e ∧ b.keepEnd t ≤ e ∧ e ≤ t) ∨
      (m.lookup k = none ∧ b.keepEnd t ≤ clock)

section Agrees

variable {κ : Type} [DecidableEq κ] {b : DrainBackend α} {k : κ} {endsAt : Option Time}
  {clock clock' : Time} {m m' : GoMap κ Time}

theorem Agrees.of_lookup (h : Agrees b k endsAt clock m) (hle : clock ≤ clock')
    (hl : m'.lookup k = m.lookup k) : Agrees b k endsAt clock' m' := by
  cases endsAt with
  | none => exact hl.trans h
  | some =>
    rw [Agrees, hl]
    exact h.imp_right fun hnone => ⟨hnone.1, hnone.2.trans hle⟩

theorem Agrees.of_retain (h : Agrees b k endsAt clock m)
    (hle : clock ≤ clock') (hl : ∀ e, m'.lookup k = some e ↔ m.lookup k = some e ∧ clock' < e) :
    Agrees b k endsAt clock' m' := by
  cases endsAt with
  | none =>
    refine eq_none_iff_forall_ne_some.mpr fun e he => ?_
    rw [hl e, show m.lookup k = none from h] at he
    cases he.1
  | some =>
    rcases h with ⟨e, he, hkeep, het⟩ | ⟨hnone, hkeep⟩
    · by_cases hlive : clock' < e
      · exact .inl ⟨e, (hl e).mpr ⟨he, hlive⟩, hkeep, het⟩
      · refine .inr ⟨eq_none_iff_forall_ne_some.mpr fun e' he' => ?_,
          hkeep.trans (not_lt.mp hlive)⟩
        obtain ⟨he', hlive'⟩ := (hl e').mp he'
        rw [he, some.injEq] at he'
        exact hlive (he' ▸ hlive')
    · refine .inr ⟨eq_none_iff_forall_ne_some.mpr fun e he => ?_, hkeep.trans hle⟩
      rw [hl e, hnone] at he
      cases he.1

theorem agrees_setDrain_keepEnd :
    Agrees b k endsAt clock (setDrain k (endsAt.map b.keepEnd) m) := by
  cases endsAt with
  | none => simp [Agrees, lookup_setDrain]
  | some t => exact .inl ⟨b.keepEnd t, by simp [lookup_setDrain], le_rfl, b.keepEnd_le t⟩

end Agrees

variable {C : DrainConfig α} {c : DrainChange} {s s' : DrainSync α} {e : DrainEvent}

def Starts (C : DrainConfig α) (key : DrainKey) : DrainEvent → Prop
  | .drainDomain _ req _ _ => effective C req = true ∧ req.key C.net = key
  | _ => False

theorem agrees_drainDomain {here : Bool} {req : DrainRequest} {called now : Time}
    (h : Agrees C.drains c.key c.endsAt s.clock s.drainedDomains)
    (hquiet : ¬Starts C c.key (.drainDomain here req called now))
    (hstep : s.drainDomain C here req called now = some s') :
    Agrees C.drains c.key c.endsAt s'.clock s'.drainedDomains := by
  rw [drainDomain] at hstep
  split_ifs at hstep with hclock heff hhere
  · cases hstep
    have hne : c.key ≠ req.key C.net := fun hkey => hquiet ⟨heff, hkey.symm⟩
    refine h.of_retain hclock.2 fun t => ?_
    rw [lookup_setDrain, if_neg hne, GoMap.lookup_retain_eq_some, decide_eq_true_iff]
  · cases hstep
    exact h.of_lookup hclock.2 rfl
  · cases hstep
    exact h.of_lookup hclock.2 rfl

def Clear (key : DrainKey) (s : DrainSync α) : Prop := ∀ d ∈ s.changes, d.key ≠ key

theorem Clear.notMem (h : Clear c.key s) : c ∉ s.changes := fun hc => h c hc rfl

variable {key : DrainKey}

variable {touched : List DrainKey}

theorem eq_of_touch {phase : DrainPhase}
    {m : GoMap DrainKey Time} (h : phase.touch key = .listed m touched) :
    ∃ before, phase = .listed m before ∧ touched = key :: before := by
  cases phase with
  | listed m' before =>
    cases h
    exact ⟨before, rfl, rfl⟩
  | rest | due => cases h

theorem eq_of_onScore {se : ScoreEvent} {phase phase' : DrainPhase} {m : GoMap DrainKey Time}
    (h : phase.onScore se = some phase')
    (hl : phase' = .listed m touched) : phase = .listed m touched := by
  subst hl
  rw [DrainPhase.onScore.eq_def] at h
  split at h
  · cases h
  · cases h
  · cases h
  · exact some.inj h

def Shows (second : Nat) (key : DrainKey) (endsAt : Option Time) (now : Time)
    (drained : GoMap DrainKey Time) : Prop :=
  match endsAt with
  | none => drained.lookup key = none
  | some t => now + second ≤ t → ∃ e, drained.lookup key = some e ∧ e ≤ t ∧ t < e + second

variable {endsAt : Option Time} {clock now : Time}

theorem Agrees.shows {b : DrainBackend α} {m : GoMap DrainKey Time}
    (h : Agrees b key endsAt clock m) (hle : clock ≤ now) : Shows b.second key endsAt now m := by
  cases endsAt with
  | none => exact h
  | some t =>
    intro hlast
    rcases h with ⟨e, he, hkeep, het⟩ | ⟨-, hkeep⟩
    · exact ⟨e, he, het, (b.lt_keepEnd t).trans_le (Nat.add_le_add_right hkeep _)⟩
    · exact absurd ((Nat.add_le_add_right (hkeep.trans hle) _).trans hlast) (b.lt_keepEnd t).not_ge

theorem listDrains_eq_some (h : s.listDrains C now = some s') : s.clock ≤ now ∧
    s' = { s with
      clock := now
      stored := live C now s.stored
      phase := .listed (listing C now s.stored) [] } := by
  rw [listDrains] at h
  split at h
  · split_ifs at h with hclock
    exact ⟨hclock, (some.inj h).symm⟩
  · cases h

theorem setDrains_eq_some (h : s.setDrains = some s') : ∃ m touched,
    s.phase = .listed m touched ∧ s' = { s with drainedDomains := m, phase := .rest } := by
  rw [setDrains] at h
  split at h
  · rename_i m touched hl
    exact ⟨m, touched, hl, (some.inj h).symm⟩
  · cases h

variable [DecidableEq α]

theorem Agrees.live {stored : GoMap α Time}
    (hread : C.drains.parseField (C.drains.field key) = some key)
    (h : Agrees C.drains (C.drains.field key) endsAt clock stored) (hle : clock ≤ now) :
    Agrees C.drains (C.drains.field key) endsAt now (live C now stored) := by
  refine h.of_retain hle fun e => ?_
  rw [lookup_live, hread]
  simp

theorem Agrees.listing {stored : GoMap α Time}
    (hread : C.drains.parseField (C.drains.field key) = some key)
    (h : Agrees C.drains (C.drains.field key) endsAt clock stored) (hle : clock ≤ now) :
    Agrees C.drains key endsAt now (listing C now stored) := by
  have hlive := h.live hread hle
  have hl : (DrainSync.listing C now stored).lookup key =
      (DrainSync.live C now stored).lookup (C.drains.field key) := by
    refine ext fun t => ?_
    rw [lookup_listing, lookup_live, hread]
    simp
  cases endsAt with
  | none => exact hl.trans hlive
  | some =>
    rw [Agrees, hl]
    exact hlive

structure Underway (C : DrainConfig α) (tracked : Prop) (c : DrainChange) (s : DrainSync α) :
    Prop where
  only : ∀ d ∈ s.changes, d.key = c.key → d = c
  stored : c ∈ s.changes ∨ Agrees C.drains (C.drains.field c.key) c.endsAt s.clock s.stored
  listed : tracked → ∀ m touched, s.phase = .listed m touched →
    c.key ∈ touched ∨ c ∈ s.changes ∨ Agrees C.drains c.key c.endsAt s.clock m

structure Frame (C : DrainConfig α) (key : DrainKey) (s s' : DrainSync α) : Prop where
  clock : s.clock ≤ s'.clock
  changes : ∀ d, d.key = key → (d ∈ s'.changes ↔ d ∈ s.changes)
  stored : s'.stored.lookup (C.drains.field key) = s.stored.lookup (C.drains.field key)
  phase : ∀ m touched', s'.phase = .listed m touched' →
    ∃ touched, s.phase = .listed m touched ∧ (key ∈ touched' ↔ key ∈ touched)

theorem Frame.touch {key key' : DrainKey} (hne : key' ≠ key) (hclock : s.clock ≤ s'.clock)
    (hchanges : ∀ d, d.key = key → (d ∈ s'.changes ↔ d ∈ s.changes))
    (hstored : s'.stored.lookup (C.drains.field key) = s.stored.lookup (C.drains.field key))
    (hphase : s'.phase = s.phase.touch key' ∨ s'.phase = s.phase) : Frame C key s s' := by
  refine ⟨hclock, hchanges, hstored, fun m touched' hl => ?_⟩
  rcases hphase with hphase | hphase
  · obtain ⟨touched, hbefore, rfl⟩ := eq_of_touch (hphase ▸ hl)
    exact ⟨touched, hbefore, by simp [Ne.symm hne]⟩
  · exact ⟨touched', hphase ▸ hl, Iff.rfl⟩

theorem frame_drainDomain {here : Bool} {req : DrainRequest} {called now : Time}
    (hquiet : ¬Starts C key (.drainDomain here req called now))
    (hstep : s.drainDomain C here req called now = some s') : Frame C key s s' := by
  rw [drainDomain] at hstep
  split_ifs at hstep with hclock heff hhere
  · cases hstep
    have hne : req.key C.net ≠ key := fun hkey => hquiet ⟨heff, hkey⟩
    refine .touch hne hclock.2 (fun d hd => ?_) rfl (.inl rfl)
    simp only [mem_append, mem_singleton, or_iff_left_iff_imp]
    rintro rfl
    exact absurd hd hne
  · cases hstep
    have hne : req.key C.net ≠ key := fun hkey => hquiet ⟨heff, hkey⟩
    refine .touch hne hclock.2 (fun d hd => ?_) rfl (.inr rfl)
    simp only [mem_append, mem_singleton, or_iff_left_iff_imp]
    rintro rfl
    exact absurd hd hne
  · cases hstep
    exact ⟨hclock.2, fun d _ => Iff.rfl, rfl, fun m touched hl => ⟨touched, hl, Iff.rfl⟩⟩

theorem mem_eraseIdx_of_ne {d d' : DrainChange} {l : List DrainChange} {i : Nat}
    (hi : l[i]? = some d') (hne : d ≠ d') : d ∈ l.eraseIdx i ↔ d ∈ l := by
  rw [mem_eraseIdx_iff_getElem?, mem_iff_getElem?]
  constructor
  · rintro ⟨j, -, hj⟩
    exact ⟨j, hj⟩
  · rintro ⟨j, hj⟩
    refine ⟨j, ?_, hj⟩
    rintro rfl
    rw [hi, some.injEq] at hj
    exact hne hj.symm

theorem frame_propagate {d : DrainChange} {i : Nat}
    (hread : C.drains.parseField (C.drains.field key) = some key) (hi : s.changes[i]? = some d)
    (hne : d.key ≠ key) (hstep : s.propagate C i = some s') : Frame C key s s' := by
  rw [propagate, hi, map_some, some.injEq] at hstep
  subst hstep
  have hfield : C.drains.field key ≠ C.drains.field d.key := by
    intro hf
    rw [hf] at hread
    exact hne (C.drains.eq_of_parse_field hread).symm
  refine .touch hne le_rfl (fun d' hd' => mem_eraseIdx_of_ne hi ?_) ?_ ?_
  · rintro rfl
    exact hne hd'
  · rw [lookup_setDrain, if_neg hfield]
  · cases d.here
    · exact .inr rfl
    · exact .inl rfl

theorem frame_score {se : ScoreEvent} (hstep : s.score C se = some s') : Frame C key s s' := by
  obtain ⟨phase, hphase, hstep⟩ := bind_eq_some_iff.mp hstep
  obtain ⟨scores, -, rfl⟩ := map_eq_some_iff.mp hstep
  exact ⟨le_rfl, fun _ _ => Iff.rfl, rfl,
    fun m touched hl => ⟨touched, eq_of_onScore hphase hl, Iff.rfl⟩⟩

theorem frame_setDrains (hstep : s.setDrains = some s') : Frame C key s s' := by
  obtain ⟨m, touched, -, rfl⟩ := setDrains_eq_some hstep
  exact ⟨le_rfl, fun _ _ => Iff.rfl, rfl, nofun⟩

variable {tracked : Prop}

theorem Underway.of_frame (h : Underway C tracked c s)
    (hframe : Frame C c.key s s') : Underway C tracked c s' := by
  refine ⟨fun d hd hkey => h.only d ((hframe.changes d hkey).mp hd) hkey, ?_, ?_⟩
  · exact h.stored.imp (hframe.changes c rfl).mpr fun hs => hs.of_lookup hframe.clock hframe.stored
  · intro ht m touched' hl
    obtain ⟨touched, hbefore, hmem⟩ := hframe.phase m touched' hl
    rcases h.listed ht m touched hbefore with htouched | hpending | hagrees
    · exact .inl (hmem.mpr htouched)
    · exact .inr (.inl ((hframe.changes c rfl).mpr hpending))
    · exact .inr (.inr (hagrees.of_lookup hframe.clock rfl))

theorem Underway.listDrains {now : Time}
    (hread : C.drains.parseField (C.drains.field c.key) = some c.key) (h : Underway C tracked c s)
    (hstep : s.listDrains C now = some s') : Underway C tracked c s' := by
  obtain ⟨hclock, rfl⟩ := listDrains_eq_some hstep
  refine ⟨h.only, h.stored.imp_right fun hs => hs.live hread hclock, ?_⟩
  intro ht m touched hl
  cases hl
  exact .inr (h.stored.imp_right fun hs => hs.listing hread hclock)

theorem Underway.propagate {i : Nat} (h : Underway C tracked c s)
    (hhere : tracked → c.here = true) (hi : s.changes[i]? = some c)
    (hstep : s.propagate C i = some s') : Underway C tracked c s' := by
  rw [DrainSync.propagate, hi, map_some, some.injEq] at hstep
  subst hstep
  refine ⟨fun d hd => h.only d (mem_of_mem_eraseIdx hd), .inr agrees_setDrain_keepEnd, ?_⟩
  intro ht m touched hl
  rw [if_pos (hhere ht)] at hl
  obtain ⟨before, -, rfl⟩ := eq_of_touch hl
  exact .inl mem_cons_self

theorem Underway.step (hread : C.drains.parseField (C.drains.field c.key) = some c.key)
    (h : Underway C tracked c s) (hhere : tracked → c ∈ s.changes → c.here = true)
    (hquiet : ¬Starts C c.key e) (hstep : s.step C e = some s') : Underway C tracked c s' := by
  cases e with
  | drainDomain => exact h.of_frame (frame_drainDomain hquiet hstep)
  | propagate =>
    obtain ⟨d, hi, -⟩ := map_eq_some_iff.mp hstep
    by_cases hkey : d.key = c.key
    · obtain rfl := h.only d (mem_of_getElem? hi) hkey
      exact h.propagate (fun ht => hhere ht (mem_of_getElem? hi)) hi hstep
    · exact h.of_frame (frame_propagate hread hi hkey hstep)
  | score => exact h.of_frame (frame_score hstep)
  | listDrains => exact h.listDrains hread hstep
  | setDrains => exact h.of_frame (frame_setDrains hstep)

theorem Frame.clear (h : Clear key s) (hframe : Frame C key s s') : Clear key s' :=
  fun d hd hkey => h d ((hframe.changes d hkey).mp hd) hkey

theorem Clear.step (h : Clear key s) (hquiet : ¬Starts C key e)
    (hstep : s.step C e = some s') : Clear key s' := by
  cases e with
  | drainDomain => exact (frame_drainDomain hquiet hstep).clear h
  | propagate =>
    obtain ⟨d, hi, rfl⟩ := map_eq_some_iff.mp hstep
    exact fun d' hd' => h d' (mem_of_mem_eraseIdx hd')
  | score => exact (frame_score (C := C) hstep).clear h
  | listDrains =>
    obtain ⟨-, rfl⟩ := listDrains_eq_some hstep
    exact h
  | setDrains => exact (frame_setDrains (C := C) hstep).clear h

structure Synced (C : DrainConfig α) (c : DrainChange) (s : DrainSync α) : Prop where
  underway : Underway C True c s
  clear : Clear c.key s
  untouched : ∀ m touched, s.phase = .listed m touched → c.key ∉ touched
  drained : Agrees C.drains c.key c.endsAt s.clock s.drainedDomains

theorem Synced.listed (h : Synced C c s) {m : GoMap DrainKey Time}
    (hl : s.phase = .listed m touched) : Agrees C.drains c.key c.endsAt s.clock m :=
  ((h.underway.listed trivial m touched hl).resolve_left (h.untouched m touched hl)).resolve_left
    h.clear.notMem

theorem Synced.of_frame (h : Synced C c s) (hframe : Frame C c.key s s')
    (hdrained : Agrees C.drains c.key c.endsAt s'.clock s'.drainedDomains) : Synced C c s' := by
  refine ⟨h.underway.of_frame hframe, hframe.clear h.clear, fun m touched' hl => ?_, hdrained⟩
  obtain ⟨touched, hbefore, hmem⟩ := hframe.phase m touched' hl
  exact fun hin => h.untouched m touched hbefore (hmem.mp hin)

theorem Synced.step (hread : C.drains.parseField (C.drains.field c.key) = some c.key)
    (h : Synced C c s) (hquiet : ¬Starts C c.key e) (hstep : s.step C e = some s') :
    Synced C c s' := by
  cases e with
  | drainDomain =>
    exact h.of_frame (frame_drainDomain hquiet hstep) (agrees_drainDomain h.drained hquiet hstep)
  | propagate =>
    obtain ⟨d, hi, hs'⟩ := map_eq_some_iff.mp hstep
    have hframe := frame_propagate hread hi (h.clear d (mem_of_getElem? hi)) hstep
    refine h.of_frame hframe (h.drained.of_lookup hframe.clock ?_)
    rw [← hs']
  | score =>
    have hframe : Frame C c.key s s' := frame_score hstep
    refine h.of_frame hframe (h.drained.of_lookup hframe.clock ?_)
    obtain ⟨phase, -, hstep⟩ := bind_eq_some_iff.mp hstep
    obtain ⟨scores, -, rfl⟩ := map_eq_some_iff.mp hstep
    rfl
  | listDrains =>
    have hunderway := h.underway.listDrains hread hstep
    obtain ⟨hclock, rfl⟩ := listDrains_eq_some hstep
    refine ⟨hunderway, h.clear, fun m touched hl => ?_, h.drained.of_lookup hclock rfl⟩
    cases hl
    exact not_mem_nil
  | setDrains =>
    refine h.of_frame (frame_setDrains hstep) ?_
    obtain ⟨m, touched, hl, rfl⟩ := setDrains_eq_some hstep
    exact h.listed hl

def endsRefresh (C : DrainConfig α) (s : DrainSync α) : DrainEvent → Bool
  | .setDrains => true
  | .score .refreshList => (s.scores.writes.store.keys.filterMap C.scores.parseKey).isEmpty
  | _ => false

def refreshing (s : DrainSync α) : Bool :=
  match s.phase with
  | .rest => !decide (s.scores.refresh = .idle)
  | _ => true

end DrainSync

open DrainSync in
/-- A change of a key and a refresh of this replica, in a run from its start. The call starts
when no other change of the key is under way and no other one starts later; it is stored by
the time `stored`; and the refresh ends after that. Unless the call came to this replica,
the refresh has also started after that. -/
structure DrainEpisode {α : Type} [DecidableEq α] (C : DrainConfig α) where
  here : Bool
  req : DrainRequest
  called : Time
  locked : Time
  before : DrainSync α
  changed : DrainSync α
  stored : DrainSync α
  ending : DrainSync α
  ended : DrainSync α
  last : DrainSync α
  meanwhile : List DrainEvent
  during : List DrainEvent
  ends : DrainEvent
  after : List DrainEvent
  reached : ∃ scores drains, Machine.Reaches (step C) (start scores drains) before
  effective : effective C req = true
  alone : Clear (req.key C.net) before
  call : before.step C (.drainDomain here req called locked) = some changed
  toStored : run (step C) changed meanwhile = some stored
  complete : Clear (req.key C.net) stored
  started : here = true ∨ stored.refreshing = false
  toEnding : run (step C) stored during = some ending
  endsRefresh : endsRefresh C ending ends = true
  toEnded : ending.step C ends = some ended
  toLast : run (step C) ended after = some last
  quiet : ∀ e ∈ meanwhile ++ during ++ after, ¬Starts C (req.key C.net) e

namespace DrainEpisode

open DrainSync

variable {α : Type} [DecidableEq α] {C : DrainConfig α} (ep : DrainEpisode C)

def key : DrainKey := ep.req.key C.net

def change : DrainChange := ⟨ep.here, ep.key, ep.req.endsAt ep.called⟩

/-- This replica shows the change from the end of the refresh on. -/
def Converges : Prop :=
  ∀ now, ep.last.clock ≤ now →
    Shows C.drains.second ep.key (ep.req.endsAt ep.called) now ep.last.drainedDomains

/-- The refresh found a stored score, so that it read the drains; this replica made and
stored no change of the key between reading them and putting them in place; and the key
can be read back from its field. -/
structure Orderly : Prop where
  found : ep.ends = .setDrains
  untouched : ep.key ∉ ep.ending.phase.touched
  readable : C.drains.parseField (C.drains.field ep.key) = some ep.key

theorem underway_changed (tracked : Prop) : Underway C tracked ep.change ep.changed := by
  have hchanges : ep.changed.changes = ep.before.changes ++ [ep.change] := by
    have hcall := ep.call
    simp only [step, drainDomain, ep.effective, if_true] at hcall
    split_ifs at hcall with hclock hhere
    · rw [← some.inj hcall]
      rfl
    · rw [← some.inj hcall]
      rfl
  have hmem : ep.change ∈ ep.changed.changes := by simp [hchanges]
  refine ⟨fun d hd hkey => ?_, .inl hmem, fun _ _ _ _ => .inr (.inl hmem)⟩
  rw [hchanges, mem_append, mem_singleton] at hd
  exact hd.resolve_left fun hd => ep.alone d hd hkey

theorem meets_quiet {es : List DrainEvent} (hsub : es ⊆ ep.meanwhile ++ ep.during ++ ep.after)
    (s : DrainSync α) : Meets (step C) (fun _ e => ¬Starts C ep.change.key e) s es :=
  .of_forall fun e he => ep.quiet e (hsub he)

theorem underway_stored (h : ep.Orderly) : Underway C True ep.change ep.stored := by
  have hunderway : Underway C (ep.here = true) ep.change ep.stored :=
    invariant (fun _ _ _ hs hquiet => hs.step h.readable (fun hhere _ => hhere) hquiet)
      (ep.underway_changed _) (ep.meets_quiet (by simp) _) ep.toStored
  refine ⟨hunderway.only, hunderway.stored, fun _ m touched hl => ?_⟩
  rcases ep.started with hhere | hrest
  · exact hunderway.listed hhere m touched hl
  · rw [refreshing, hl] at hrest
    cases hrest

theorem underway_ending (h : ep.Orderly) :
    Underway C True ep.change ep.ending ∧ Clear ep.key ep.ending := by
  refine invariant (I := fun s => Underway C True ep.change s ∧ Clear ep.key s)
    (fun s e s' hs hquiet hstep => ?_) ⟨ep.underway_stored h, ep.complete⟩
    (ep.meets_quiet (by simp) _) ep.toEnding
  exact ⟨hs.1.step h.readable (fun _ hmem => absurd rfl (hs.2 _ hmem)) hquiet hstep,
    hs.2.step hquiet hstep⟩

theorem synced_ended (h : ep.Orderly) : Synced C ep.change ep.ended := by
  obtain ⟨hunderway, hclear⟩ := ep.underway_ending h
  have hend := ep.toEnded
  rw [h.found] at hend
  have hframe : Frame C ep.key ep.ending ep.ended := frame_setDrains hend
  obtain ⟨m, touched, hl, hended⟩ := setDrains_eq_some hend
  have huntouched := h.untouched
  rw [hl] at huntouched
  have hlisted := ((hunderway.listed trivial m touched hl).resolve_left
    huntouched).resolve_left fun hmem => hclear _ hmem rfl
  refine ⟨hunderway.of_frame hframe, hframe.clear hclear, fun m' touched' hl' => ?_, ?_⟩
  · rw [hended] at hl'
    cases hl'
  · rw [hended]
    exact hlisted

/-- After an orderly refresh this replica shows the change, whatever else goes on. -/
theorem converges_of_orderly (h : ep.Orderly) : ep.Converges := by
  intro now hnow
  have hsynced := invariant (fun _ _ _ hs hquiet => hs.step h.readable hquiet)
    (ep.synced_ended h) (ep.meets_quiet (by simp) _) ep.toLast
  exact hsynced.drained.shows hnow

section Samples

instance (key : DrainKey) (s : DrainSync α) : Decidable (Clear key s) :=
  inferInstanceAs (Decidable (∀ d ∈ s.changes, d.key ≠ key))

instance (key : DrainKey) : DecidablePred (Starts C key)
  | .drainDomain _ req _ _ =>
    inferInstanceAs (Decidable (DrainSync.effective C req = true ∧ req.key C.net = key))
  | .propagate _ | .score _ | .listDrains _ | .setDrains => inferInstanceAs (Decidable False)

def trace (C : DrainConfig α) (scores : GoMap String ScoreRecord) (prior : List DrainEvent)
    (call : DrainEvent) (meanwhile during : List DrainEvent) (ends : DrainEvent) :
    Option (DrainSync α × DrainSync α × DrainSync α × DrainSync α) :=
  (run (step C) (start scores ∅) prior).bind (fun before =>
    (before.step C call).bind (fun changed =>
      (run (step C) changed meanwhile).bind (fun stored =>
        (run (step C) stored during).bind (fun ending =>
          (ending.step C ends).map (fun ended => (before, stored, ending, ended))))))

theorem exists_of_trace (scores : GoMap String ScoreRecord) (prior : List DrainEvent) (here : Bool)
    (req : DrainRequest) (now : Time) (meanwhile during : List DrainEvent) (ends : DrainEvent)
    (P : DrainSync α → DrainSync α → Prop) (heff : DrainSync.effective C req = true)
    (hquiet : ∀ e ∈ meanwhile ++ during, ¬Starts C (req.key C.net) e)
    (htrace : ∃ t ∈ trace C scores prior (.drainDomain here req now now) meanwhile during ends,
    Clear (req.key C.net) t.1 ∧ Clear (req.key C.net) t.2.1 ∧ (here = true ∨
    t.2.1.refreshing = false) ∧ DrainSync.endsRefresh C t.2.2.1 ends = true ∧ P t.2.2.1 t.2.2.2) :
    ∃ ep : DrainEpisode C, ep.here = here ∧ ep.req = req ∧ ep.called = now ∧ ep.ends = ends ∧
    P ep.ending ep.last := by
  obtain ⟨t, ht, halone, hcomplete, hstarted, hends, hP⟩ := htrace
  obtain ⟨before, hbefore, ht⟩ := bind_eq_some_iff.mp ht
  obtain ⟨changed, hcall, ht⟩ := bind_eq_some_iff.mp ht
  obtain ⟨stored, hstored, ht⟩ := bind_eq_some_iff.mp ht
  obtain ⟨ending, hending, ht⟩ := bind_eq_some_iff.mp ht
  obtain ⟨ended, hended, rfl⟩ := map_eq_some_iff.mp ht
  refine ⟨⟨here, req, now, now, before, changed, stored, ending, ended, ended, meanwhile, during,
    ends, [], ⟨scores, ∅, prior, hbefore⟩, heff, halone, hcall, hstored, hcomplete, hstarted,
    hending, hends, hended, rfl, ?_⟩, rfl, rfl, rfl, rfl, hP⟩
  simpa using hquiet

def sampleDrains : DrainConfig String :=
  ⟨.plain, .ascii, ScoreStore.sampleBackend, RedisStorage.drains .exact (by decide)⟩

def sampleRequest (domain : String) : DrainRequest := ⟨"eth", domain, 3600, "json_rpc", false⟩

def oneScore : GoMap String ScoreRecord :=
  (∅ : GoMap String ScoreRecord).insert ScoreStore.sampleKey.string (.fresh 80 0)

def refreshUntilListed (now : Time) : List DrainEvent :=
  [.score .refreshList, .score .refreshGet, .score .refreshSet, .listDrains now]

theorem converges_of_orderly_other : ∃ ep : DrainEpisode sampleDrains, ep.here = false ∧
    ep.last.drainedDomains.lookup ⟨"eth", "example.com", "json_rpc"⟩ = some 3600 ∧
    ep.Converges := by
  obtain ⟨ep, hhere, hreq, -, hends, huntouched, hlast⟩ := exists_of_trace (C := sampleDrains)
    oneScore [] false (sampleRequest "Example.com ") 0 [.propagate 0]
    (refreshUntilListed 1) .setDrains
    (fun ending last => ⟨"eth", "example.com", "json_rpc"⟩ ∉ ending.phase.touched ∧
      last.drainedDomains.lookup ⟨"eth", "example.com", "json_rpc"⟩ = some 3600)
    (by decide +kernel) (by decide +kernel) (by decide +kernel)
  have hkey : ep.key = ⟨"eth", "example.com", "json_rpc"⟩ := by
    rw [key, hreq]
    decide +kernel
  refine ⟨ep, hhere, hlast, converges_of_orderly ep ⟨hends, hkey ▸ huntouched, ?_⟩⟩
  rw [hkey]
  decide +kernel

theorem exists_not_converges (scores : GoMap String ScoreRecord) (prior : List DrainEvent)
    (here : Bool) (domain : String) (now : Time) (meanwhile during : List DrainEvent)
    (ends : DrainEvent) (heff : DrainSync.effective sampleDrains (sampleRequest domain) = true)
    (hquiet : ∀ e ∈ meanwhile ++ during, ¬Starts sampleDrains ((sampleRequest domain).key .ascii) e)
    (htrace : ∃ t ∈ trace sampleDrains scores prior
      (.drainDomain here (sampleRequest domain) now now) meanwhile during ends,
      Clear ((sampleRequest domain).key .ascii) t.1 ∧
      Clear ((sampleRequest domain).key .ascii) t.2.1 ∧ (here = true ∨ t.2.1.refreshing = false) ∧
      DrainSync.endsRefresh sampleDrains t.2.2.1 ends = true ∧ t.2.2.2.clock + 1 ≤ now + 3600 ∧
      t.2.2.2.drainedDomains.lookup ((sampleRequest domain).key .ascii) = none) :
    ∃ ep : DrainEpisode sampleDrains, ep.here = here ∧
    ep.req = sampleRequest domain ∧ ep.ends = ends ∧ ¬ep.Converges := by
  obtain ⟨ep, hhere, hreq, hcalled, hends, hlast, hnone⟩ := exists_of_trace (C := sampleDrains)
    scores prior here (sampleRequest domain) now meanwhile during ends
    (fun _ last => last.clock + 1 ≤ now + 3600 ∧
      last.drainedDomains.lookup ((sampleRequest domain).key .ascii) = none) heff hquiet htrace
  refine ⟨ep, hhere, hreq, hends, fun hconverges => ?_⟩
  have hshows := hconverges ep.last.clock le_rfl
  rw [key, hreq, hcalled] at hshows
  obtain ⟨e, he, -⟩ := hshows hlast
  exact absurd (hnone.symm.trans he) nofun

theorem drain_not_shown :
    (∃ ep : DrainEpisode sampleDrains, ep.here = false ∧
      ep.req = sampleRequest "example.com" ∧ ep.ends = .score .refreshList ∧ ¬ep.Converges) ∧
    (∃ ep : DrainEpisode sampleDrains, ep.here = true ∧
      ep.req = sampleRequest "example.com" ∧ ep.ends = .setDrains ∧ ¬ep.Converges) ∧
    ∃ ep : DrainEpisode sampleDrains, ep.here = false ∧
      ep.req = sampleRequest "a|b" ∧ ep.ends = .setDrains ∧ ¬ep.Converges := by
  refine ⟨?_, ?_, ?_⟩
  · exact exists_not_converges ∅ [] false "example.com" 0 [.propagate 0] []
      (.score .refreshList) (by decide +kernel) (by decide +kernel) (by decide +kernel)
  · exact exists_not_converges oneScore (refreshUntilListed 0) true "example.com" 1
      [.propagate 0] [] .setDrains (by decide +kernel) (by decide +kernel) (by decide +kernel)
  · exact exists_not_converges oneScore [] false "a|b" 0 [.propagate 0] (refreshUntilListed 1)
      .setDrains (by decide +kernel) (by decide +kernel) (by decide +kernel)

end Samples

end DrainEpisode

end PathGateway
