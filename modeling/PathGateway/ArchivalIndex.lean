import PathGateway.ScoreStore

/-! The archival index holds, service by service, exactly the cached keys with an archival
score, so reading it is as good as scanning the whole cache. -/

namespace PathGateway

open AList Option Machine

namespace ScoreStore

variable (s : ScoreStore) (serviceID : ServiceID)

def indexed : GoMap EndpointKey Unit := (s.archivalIndex.lookup serviceID).getD ∅

def scanArchivalEndpoints (now : Time) : List EndpointKey :=
  s.cache.keys.filter (fun key => key.serviceID == serviceID &&
    (s.cache.lookup key).any (fun score => score.isArchivalCapable now))

def IndexExact : Prop :=
  ∀ serviceID key, key ∈ s.indexed serviceID ↔
    key.serviceID = serviceID ∧ (s.cache.lookup key).any ScoreRecord.isArchival = true

variable {cfg : ReputationConfig} {backend : Backend} {s s' : ScoreStore} {e : ScoreEvent}

theorem indexed_setScoreLocked (key : EndpointKey) (score : ScoreRecord) (serviceID : ServiceID) :
    (s.setScoreLocked key score).indexed serviceID =
      if serviceID = key.serviceID then if score.isArchival then (s.indexed serviceID).insert key ()
      else (s.indexed serviceID).erase key else s.indexed serviceID := by
  by_cases hid : serviceID = key.serviceID
  · subst hid
    simp only [indexed, setScoreLocked]
    split
    · simp [*]
    · simp [*]
    · simp only [*, getD_none, if_true]
      rfl
  · simp only [indexed, setScoreLocked, hid, if_false]
    split
    · rw [lookup_insert_ne hid]
    · rw [lookup_insert_ne hid]
    · rfl

theorem IndexExact.setScoreLocked (h : IndexExact s) (key : EndpointKey) (score : ScoreRecord) :
    IndexExact (s.setScoreLocked key score) := by
  intro serviceID key'
  rw [indexed_setScoreLocked]
  by_cases hkey : key' = key
  · subst hkey
    have hl : (s.setScoreLocked key' score).cache.lookup key' = some score :=
      lookup_insert s.cache
    rw [hl, any_some]
    split_ifs with hid harch
    · simp [hid, harch]
    · simp [harch]
    · rw [h serviceID key']
      simp [Ne.symm hid]
  · have hl : (s.setScoreLocked key score).cache.lookup key' = s.cache.lookup key' :=
      lookup_insert_ne hkey
    rw [hl, ← h serviceID key']
    split_ifs
    · simp [hkey]
    · simp [hkey]
    · rfl

theorem IndexExact.setScores (h : IndexExact s) (ws : List (EndpointKey × ScoreRecord)) :
    IndexExact (s.setScores ws) := by
  induction ws generalizing s with
  | nil => exact h
  | cons w ws ih => exact ih (h.setScoreLocked w.1 w.2)

theorem IndexExact.step (h : IndexExact s) (hstep : s.step cfg backend e = some s') :
    IndexExact s' := by
  have hsame := sameScores_of_step hstep
  have hset := h.setScores (s.installs cfg e)
  simp only [IndexExact, indexed] at hset ⊢
  rwa [hsame.cache, hsame.archivalIndex]

theorem indexExact_start (stored : GoMap String ScoreRecord) : IndexExact (start stored) := by
  intro serviceID key
  simp [indexed, start]

theorem IndexExact.perm_scan (h : IndexExact s) (serviceID : ServiceID) (now : Time) :
    (s.getArchivalEndpoints serviceID now).Perm (s.scanArchivalEndpoints serviceID now) := by
  have hnodup : ∀ {ν : Type} (m : GoMap EndpointKey ν), m.keys.Nodup := fun m => m.nodupKeys
  rw [getArchivalEndpoints, scanArchivalEndpoints,
    List.perm_ext_iff_of_nodup ((hnodup _).filter _) ((hnodup _).filter _)]
  intro key
  have hindex : key ∈ (s.archivalIndex.lookup serviceID).getD ∅ ↔ _ := h serviceID key
  rw [List.mem_filter, List.mem_filter, ← mem_keys, ← mem_keys, hindex,
    ← lookup_isSome]
  cases hl : s.cache.lookup key with
  | none => simp
  | some =>
    simp only [any_some, isSome_some, true_and, Bool.and_eq_true, beq_iff_eq,
      and_assoc, and_congr_right_iff]
    intro hid
    rw [ScoreRecord.isArchivalCapable]
    simp

/-- Whatever the service did and whatever its storage held, the index answers as a scan of
the cache would. -/
theorem getArchivalEndpoints_perm_scan {stored : GoMap String ScoreRecord}
    {events : List ScoreEvent}
    (hrun : run (step cfg backend) (start stored) events = some s)
    (serviceID : ServiceID) (now : Time) :
    (s.getArchivalEndpoints serviceID now).Perm (s.scanArchivalEndpoints serviceID now) :=
  (invariant_of_step (fun _ _ _ => IndexExact.step) (indexExact_start stored)
    hrun).perm_scan serviceID now

theorem getArchivalEndpoints_perm_scan_loaded : ∃ s,
    run (step .plain sampleBackend)
      (start ((∅ : GoMap String ScoreRecord).insert sampleKey.string
        ((ScoreRecord.fresh 80 0).setArchival 0 true 100)))
      [.archivalMiss sampleKey, .archivalGet 0, .archivalSet 0,
        .recordSignal sampleKey 1 (.ofUser .success)] = some s ∧
      s.getArchivalEndpoints "eth" 50 = [sampleKey] ∧
      (s.getArchivalEndpoints "eth" 50).Perm (s.scanArchivalEndpoints "eth" 50) := by
  refine exists_of_any (fun s => s.getArchivalEndpoints "eth" 50 = [sampleKey])
    (by decide +kernel) fun s hrun hs => ?_
  exact ⟨hs, getArchivalEndpoints_perm_scan hrun "eth" 50⟩

end ScoreStore

end PathGateway
