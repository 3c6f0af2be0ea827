import PathGateway.ScoreStore

/-! When a recorded signal is lost again. A refresh overwrites the cache with what was
stored when it read the storage, a full queue drops writes, writes of one key can overtake
each other, and a recovery may come after signals it was decided without. -/

namespace PathGateway

open WriteBehind Pipeline Option Machine AList

/-- The operations on scores of a replica whose keys no other replica writes; archival
statuses are left out. -/
def ScoreEvent.isLocal : ScoreEvent → Bool
  | .setArchivalStatus _ _ _ _ | .enqueueArchival _ | .setSynchronously _ => false
  | .archivalMiss _ | .archivalGet _ | .archivalSet _ => false
  | .storageWrite _ _ => false
  | _ => true

namespace ScoreStore

variable {cfg : ReputationConfig} {backend : Backend} {s s' : ScoreStore} {e : ScoreEvent}
  {key : EndpointKey} {score : ScoreRecord}

def observed (s : ScoreStore) (key : EndpointKey) : Nat :=
  ((s.cache.lookup key).map ScoreRecord.observations).getD 0

def Excused (s : ScoreStore) (key : EndpointKey) : ScoreEvent → Prop
  | .recoverScore i _ => s.recovering[i]? = some ⟨key, 0⟩
  | .resetScore key' _ => key' = key
  | _ => False

/-- A count of signals falls only by a recovery or a reset. -/
def KeepsSignals (s : ScoreStore) (e : ScoreEvent) (s' : ScoreStore) : Prop :=
  ∀ key, s'.observed key < s.observed key → s.Excused key e

def Apart (s : ScoreStore) (key : EndpointKey) : Prop :=
  ∀ key' ∈ s.cache.keys, key'.string = key.string → key' = key

/-- The event disturbs no count: a sender finds room in the queue and overtakes no earlier
write of its key, a recovery has missed no signal, and a refresh sets only scores that are
still the stored ones, with no write of their keys on its way. -/
def Orderly (cfg : ReputationConfig) (s : ScoreStore) : ScoreEvent → Prop
  | .recordSignal key _ _ => s.Apart key
  | .resetScore key _ => s.Apart key
  | .recoverScore i _ => ∀ r ∈ s.recovering[i]?, r.missed = 0 ∧ s.Apart r.key
  | .enqueue i =>
    s.writes.channel.length < cfg.writeBufferSize ∧
      ∀ w ∈ s.writes.waiting[i]?, ∀ w' ∈ s.writes.waiting.take i, w'.1.string ≠ w.1.string
  | .refreshSet => ∀ w ∈ s.refresh.scores,
    s.writes.Settled EndpointKey.string w.1.string ∧ s.writes.store.lookup w.1.string = some w.2
  | _ => True

instance : DecidablePred s.Apart := fun key =>
  inferInstanceAs (Decidable (∀ key' ∈ s.cache.keys, key'.string = key.string → key' = key))

instance : DecidablePred (Orderly cfg s)
  | .recordSignal key _ _ => inferInstanceAs (Decidable (s.Apart key))
  | .resetScore key _ => inferInstanceAs (Decidable (s.Apart key))
  | .recoverScore i _ =>
    inferInstanceAs (Decidable (∀ r ∈ s.recovering[i]?, r.missed = 0 ∧ s.Apart r.key))
  | .enqueue i => inferInstanceAs (Decidable (s.writes.channel.length < cfg.writeBufferSize ∧
      ∀ w ∈ s.writes.waiting[i]?, ∀ w' ∈ s.writes.waiting.take i, w'.1.string ≠ w.1.string))
  | .refreshSet => inferInstanceAs (Decidable (∀ w ∈ s.refresh.scores,
      s.writes.Settled EndpointKey.string w.1.string ∧
        s.writes.store.lookup w.1.string = some w.2))
  | .receive | .flush | .decideRecovery _ _ | .refreshList | .refreshGet | .storageExpire _
  | .setArchivalStatus _ _ _ _ | .enqueueArchival _ | .setSynchronously _ | .archivalMiss _
  | .archivalGet _ | .archivalSet _ | .storageWrite _ _ => inferInstanceAs (Decidable True)

/-- Every cached score has the observations of the newest copy written under its string. -/
structure Faithful (s : ScoreStore) : Prop where
  named : s.writes.Named EndpointKey.string
  newest : ∀ key score w, s.cache.lookup key = some score →
    s.writes.newest EndpointKey.string key.string = some w → w.observations = score.observations

theorem Faithful.setAndQueue (h : Faithful s) (hapart : s.Apart key) (score : ScoreRecord) :
    Faithful (s.setAndQueue key score) := by
  refine ⟨h.named, fun key' score' w hl hw => ?_⟩
  rw [show (s.setAndQueue key score).writes = s.writes.write key score from rfl,
    newest_write] at hw
  by_cases hkey : key' = key
  · subst hkey
    rw [if_pos rfl, some.injEq] at hw
    rw [show (s.setAndQueue key' score).cache.lookup key' = some score from
      lookup_insert s.cache, some.injEq] at hl
    rw [← hw, hl]
  · have hl' : s.cache.lookup key' = some score' :=
      (lookup_insert_ne hkey).symm.trans hl
    have hne : key.string ≠ key'.string := fun hstr =>
      hkey (hapart key' (mem_keys.mp (lookup_isSome.mp (by simp [hl']))) hstr.symm)
    rw [if_neg hne] at hw
    exact h.newest key' score' w hl' hw

theorem Faithful.of_newest (h : Faithful s) (hnamed : s'.writes.Named EndpointKey.string)
    (hcache : s'.cache = s.cache) (hnewest : ∀ a w, s'.writes.newest EndpointKey.string a = some w →
    ∃ w', s.writes.newest EndpointKey.string a = some w' ∧ w.observations = w'.observations) :
    Faithful s' := by
  refine ⟨hnamed, fun key score w hl hw => ?_⟩
  obtain ⟨w', hw', heq⟩ := hnewest _ w hw
  rw [heq, h.newest key score w' (hcache ▸ hl) hw']

theorem Faithful.of_same (h : Faithful s) (hcache : s'.cache = s.cache)
    (hwrites : s'.writes = s.writes) : Faithful s' :=
  h.of_newest (hwrites ▸ h.named) hcache fun _ w hw => ⟨w, hwrites ▸ hw, rfl⟩

theorem Faithful.flush (h : Faithful s) :
    Faithful { s with writes := s.writes.flush EndpointKey.string backend.keep } := by
  refine h.of_newest Pipeline.Named.flush rfl fun a w hw => ?_
  have hmap := newest_flush (a := a) h.named backend.keep_observations
  rw [hw, map_some, eq_comm, map_eq_some_iff] at hmap
  obtain ⟨w', hw', heq⟩ := hmap
  exact ⟨w', hw', heq.symm⟩

theorem newest_of_orderly (hord : Orderly cfg s .refreshSet)
    (hset : lastOf id key s.refresh.scores = some score) :
    s.writes.newest EndpointKey.string key.string = some score := by
  obtain ⟨w, hw, rfl, rfl⟩ := exists_mem_of_lastOf hset
  obtain ⟨hsettled, hstore⟩ := hord w hw
  exact (newest_of_settled hsettled).trans hstore

theorem writes_setScores {ws : List (EndpointKey × ScoreRecord)} :
    (s.setScores ws).writes = s.writes := by
  induction ws generalizing s with
  | nil => rfl
  | cons w ws ih => exact ih

theorem Faithful.refreshSet (h : Faithful s) (hord : Orderly cfg s .refreshSet)
    (hstep : s.step cfg backend .refreshSet = some s') : Faithful s' := by
  have hl := lookup_cache_of_step hstep
  have hwrites : s'.writes = s.writes := by
    simp only [step, ScoreStore.refreshSet] at hstep
    split at hstep
    · cases hstep
      exact writes_setScores
    · cases hstep
  refine ⟨hwrites ▸ h.named, fun key score w hcached hw => ?_⟩
  rw [hwrites] at hw
  rw [hl key, or_eq_some_iff] at hcached
  rcases hcached with hset | ⟨-, hcached⟩
  · rw [newest_of_orderly hord hset, some.injEq] at hw
    rw [hw]
  · exact h.newest key score w hcached hw

theorem Faithful.step (h : Faithful s) (hord : Orderly cfg s e ∧ e.isLocal = true)
    (hstep : s.step cfg backend e = some s') : Faithful s' := by
  obtain ⟨hord, hlocal⟩ := hord
  cases e with
  | recordSignal =>
    cases hstep
    rw [recordSignal]
    split
    · exact (h.setAndQueue hord _).of_same rfl rfl
    · exact h
  | resetScore =>
    cases hstep
    rw [resetScore]
    split
    · exact h.setAndQueue hord _
    · exact h
  | recoverScore =>
    obtain ⟨r, hr, rfl⟩ := map_eq_some_iff.mp hstep
    exact (h.setAndQueue (hord r hr).2 _).of_same rfl rfl
  | enqueue =>
    obtain ⟨p, hp, rfl⟩ := map_eq_some_iff.mp hstep
    refine h.of_newest (h.named.send hp) rfl fun a w hw => ⟨w, ?_, rfl⟩
    rw [← newest_send hord.1 (fun w w' hi => hord.2 w hi w') hp]
    exact hw
  | receive =>
    obtain ⟨p, hp, rfl⟩ := map_eq_some_iff.mp hstep
    refine h.of_newest (h.named.receive hp) rfl fun a w hw => ⟨w, ?_, rfl⟩
    rw [← newest_receive hp]
    exact hw
  | flush =>
    cases hstep
    exact h.flush
  | decideRecovery =>
    cases hstep
    rw [decideRecovery]
    split
    · exact h.of_same rfl rfl
    · exact h
  | refreshList =>
    simp only [ScoreStore.step, refreshList] at hstep
    split_ifs at hstep
    · exact some.inj hstep ▸ h
    · cases hstep
      exact h.of_same rfl rfl
  | refreshGet =>
    simp only [ScoreStore.step, refreshGet] at hstep
    split at hstep
    · cases hstep
      exact h.of_same rfl rfl
    · cases hstep
  | refreshSet => exact h.refreshSet hord hstep
  | storageExpire =>
    cases hstep
    exact h.of_newest h.named rfl fun a w hw => ⟨w, newest_of_expire hw, rfl⟩
  | _ => cases hlocal

theorem faithful_start (stored : GoMap String ScoreRecord) : Faithful (start stored) := by
  refine ⟨fun a w hw => ?_, fun key score w hl => ?_⟩
  · cases hw
  · cases hl

theorem exists_install_of_lt (hstep : s.step cfg backend e = some s')
    (hlt : s'.observed key < s.observed key) : ∃ cached score, s.cache.lookup key = some cached ∧
    lastOf id key (s.installs cfg e) = some score ∧ score.observations < cached.observations := by
  have hl := lookup_cache_of_step hstep key
  rw [observed, observed, hl] at hlt
  cases hc : s.cache.lookup key with
  | none => simp [hc] at hlt
  | some cached =>
    cases hi : lastOf id key (s.installs cfg e) with
    | none => simp [hc, hi] at hlt
    | some score => exact ⟨cached, score, rfl, rfl, by simpa [hc, hi] using hlt⟩

theorem lastOf_singleton {w : EndpointKey × ScoreRecord} :
    lastOf id key [w] = some score ↔ w = (key, score) := by
  simp [lastOf, Prod.ext_iff]

theorem Faithful.keepsSignals (h : Faithful s) (hord : Orderly cfg s e ∧ e.isLocal = true)
    (hstep : s.step cfg backend e = some s') : KeepsSignals s e s' := by
  obtain ⟨hord, hlocal⟩ := hord
  intro key hlt
  obtain ⟨cached, score, hcached, hset, hless⟩ := exists_install_of_lt hstep hlt
  cases e with
  | recordSignal =>
    simp only [installs] at hset
    split_ifs at hset
    · cases lastOf_singleton.mp hset
      rw [scoreOrInitial, hcached] at hless
      exact absurd hless (ScoreRecord.observations_le_recordSignal _ _ _ _ _).not_gt
    · cases hset
  | recoverScore =>
    obtain ⟨r, hr, -⟩ := map_eq_some_iff.mp hstep
    simp only [installs, hr] at hset
    cases lastOf_singleton.mp hset
    rw [Excused, hr, ← (hord r hr).1]
  | resetScore =>
    simp only [installs] at hset
    split_ifs at hset
    · cases lastOf_singleton.mp hset
      rfl
    · cases hset
  | refreshSet =>
    have hnewest := newest_of_orderly hord hset
    exact absurd (h.newest key cached score hcached hnewest) hless.ne
  | _ => first | cases hset | cases hlocal

/-- In every orderly run no step loses a signal. -/
theorem keepsSignals_of_orderly {stored : GoMap String ScoreRecord} {events : List ScoreEvent}
    (hlocal : ∀ e' ∈ events ++ [e], e'.isLocal = true)
    (hmeets : Machine.Meets (step cfg backend) (Orderly cfg) (start stored) (events ++ [e]))
    (hrun : run (step cfg backend) (start stored) events = some s)
    (hstep : s.step cfg backend e = some s') : KeepsSignals s e s' := by
  obtain ⟨hbefore, hlast⟩ := (hmeets.and hlocal).last hrun
  exact (invariant (fun _ _ _ => Faithful.step) (faithful_start stored) hbefore
    hrun).keepsSignals hlast hstep

def writtenAndRecovered : List ScoreEvent :=
  [.recordSignal sampleKey 0 (.ofUser .fatalError), .enqueue 0,
    .recordSignal sampleKey 0 (.ofUser .fatalError), .receive, .enqueue 0, .receive, .flush,
    .refreshList, .refreshGet, .refreshSet, .decideRecovery [sampleKey] 300]

theorem keepsSignals_of_orderly_recovered : ∃ s s',
    run (step .plain sampleBackend) (start ∅) writtenAndRecovered = some s ∧
    s.step .plain sampleBackend (.recoverScore 0 300) = some s' ∧
    s.observed sampleKey = 2 ∧ s'.observed sampleKey = 0 ∧
    KeepsSignals s (.recoverScore 0 300) s' := by
  refine exists₂_of_step (fun s s' => s.observed sampleKey = 2 ∧ s'.observed sampleKey = 0)
    (by decide +kernel) fun s s' hrun hstep hcounts => ?_
  exact ⟨hcounts.1, hcounts.2, keepsSignals_of_orderly (by decide) (by decide +kernel) hrun hstep⟩

theorem signal_lost_to_refresh :
    ¬∀ (cfg : ReputationConfig) (backend : Backend) (stored : GoMap String ScoreRecord)
      (events : List ScoreEvent) (e : ScoreEvent) (s s' : ScoreStore),
      (∀ e' ∈ events ++ [e], e'.isLocal = true) →
      run (step cfg backend) (start stored) events = some s →
      s.step cfg backend e = some s' → KeepsSignals s e s' := by
  intro hall
  refine hall .plain sampleBackend ∅ [.recordSignal sampleKey 0 (.ofUser .success), .enqueue 0,
    .receive, .flush, .refreshList, .refreshGet, .recordSignal sampleKey 1 (.ofUser .success)]
    .refreshSet _ _ (by decide) (eq_some_of_isSome (by decide +kernel))
    (eq_some_of_isSome (by decide +kernel)) sampleKey ?_
  decide +kernel

end ScoreStore

end PathGateway
