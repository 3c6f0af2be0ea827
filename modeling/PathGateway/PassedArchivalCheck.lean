import PathGateway.ArchivalExpiry
import PathGateway.ArchivalSelection

/-! What a passed archival health check achieves on its own replica. It writes the status to the
reputation service and hands the QoS a record that is not marked as a check, so the endpoint is
accepted afterwards only for as long as it would have been anyway. -/

namespace PathGateway.Evm.EvmQoS

open ServiceState Machine Option EndpointCheckArchival AList Nat

variable {cfg : QoSConfig} {s s' : EvmQoS} {e : Event} {addr : EndpointAddr} {now deadline : Time}

/-- The steps of `markEndpointArchival` where the write to the reputation service succeeds. -/
def markEndpointArchival (cfg : QoSConfig) (addr : EndpointAddr) (now : Time) : List Event :=
  if cfg.reputationSvc then
    [⟨now, .reputation (.setArchivalStatus (cfg.archivalKey addr) true archivalStatusTTL now)⟩,
      ⟨now, .updateFromExtractedData addr { isArchival := true }⟩]
  else []

def clears (cfg : QoSConfig) (addr : EndpointAddr) (e : Event) : Bool :=
  match e.action with
  | .updateFromExtractedData a data => a == addr && data.archivalCheckPerformed && !data.isArchival
  | .reputation (.setArchivalStatus key isArchival _ _) =>
    key == cfg.archivalKey addr && !isArchival
  | _ => false

/-- As long as nothing clears the status, the archival part of the validation accepts the endpoint
at every time before the deadline. -/
def AcceptedUntil (cfg : QoSConfig) (addr : EndpointAddr) (deadline : Time) (s : EvmQoS) : Prop :=
  ∀ post u t, run (step cfg) s post = some u → (∀ e ∈ post, clears cfg addr e = false) →
    u.clock ≤ t → t < deadline → ∀ ep, u.service.endpoints.lookup addr = some ep →
      u.service.checkArchival cfg.selection t addr ep = .ok ()

/-- The cache or the store holds a status until the deadline, and the one in the store is not
swept before. -/
inductive Lasting (cfg : QoSConfig) (addr : EndpointAddr) (deadline : Time) (s : EvmQoS) : Prop
  | cached (entry : ArchivalCacheEntry) : s.entry (cfg.archivalKey addr).string = some entry →
      entry.isArchival = true → deadline ≤ entry.expiresAt + 1 → Lasting cfg addr deadline s
  | stored (ep : Endpoint) (expiresAt : Time) : s.service.endpoints.lookup addr = some ep →
      ep.checkArchival = ⟨true, some expiresAt⟩ → deadline ≤ expiresAt →
      (∀ lastSeen ∈ ep.lastSeen, deadline ≤ lastSeen + defaultEndpointTTL + 1) →
      Lasting cfg addr deadline s

theorem Lasting.congr (h : Lasting cfg addr deadline s)
    (hentry : s'.entry (cfg.archivalKey addr).string = s.entry (cfg.archivalKey addr).string)
    (hstore : s'.service.endpoints.lookup addr = s.service.endpoints.lookup addr) :
    Lasting cfg addr deadline s' := by
  rcases h with ⟨entry, hlookup, htrue, hlast⟩ | ⟨ep, expiresAt, hlookup, hcheck, hlast, hseen⟩
  · exact .cached entry (hentry.trans hlookup) htrue hlast
  · exact .stored ep expiresAt (hstore.trans hlookup) hcheck hlast hseen

theorem Lasting.step (hlasting : Lasting cfg addr deadline s) (h : s.step cfg e = some s')
    (hclears : clears cfg addr e = false) (hbefore : e.now < deadline)
    (hafter : deadline ≤ e.now + archivalStatusTTL) : Lasting cfg addr deadline s' := by
  have hsweep : deadline ≤ e.now + defaultEndpointTTL + 1 := by
    have hle : archivalStatusTTL ≤ defaultEndpointTTL := by decide
    grind
  rcases hlasting with ⟨entry, hentry, htrue, hlast⟩ | ⟨ep, expiresAt, hep, hcheck, hlast, hseen⟩
  · have hmove := cacheMove_of_step h (cfg.archivalKey addr).string
    rw [hentry] at hmove
    generalize ho : s'.entry (cfg.archivalKey addr).string = o at hmove
    cases hmove with
    | kept => exact .cached entry ho htrue hlast
    | expired => grind
    | confirmed | refreshed => exact .cached _ ho rfl (by grind)
  · have hmove := storeMove_of_step h addr
    rw [hep] at hmove
    generalize ho : s'.service.endpoints.lookup addr = o at hmove
    cases hmove with
    | kept hkept =>
      cases hkept with
      | same hcheck' hseen' =>
        refine .stored _ expiresAt ho (hcheck'.trans hcheck) hlast fun lastSeen hmem => ?_
        rcases hseen' with heq | ⟨hnow, -⟩
        · exact hseen lastSeen (heq ▸ hmem)
        · rw [hnow] at hmem
          obtain rfl := some.inj hmem
          exact hsweep
    | checked data haction hperformed harchival hseen' =>
      have hpassed : data.isArchival = true := by
        simpa [clears, haction, hperformed] using hclears
      rw [hpassed] at harchival
      exact .stored _ _ ho harchival hafter fun lastSeen hmem => hseen lastSeen (hseen' ▸ hmem)
    | swept lastSeen _ hlastSeen =>
      have := hseen lastSeen hlastSeen
      grind

theorem Lasting.accepts {t : Time} {ep : Endpoint} (hlasting : Lasting cfg addr deadline s)
    (ht : t < deadline) (hep : s.service.endpoints.lookup addr = some ep) :
    s.service.checkArchival cfg.selection t addr ep = .ok () := by
  rw [checkArchival, if_pos]
  rw [cachedArchival_eq, Bool.or_eq_true]
  rcases hlasting with ⟨entry, hentry, htrue, hlast⟩ | ⟨ep', expiresAt, hep', hcheck, hlast, -⟩
  · exact .inr (cachedTrue_iff.mpr ⟨entry, hentry, htrue, by grind⟩)
  · left
    cases hep.symm.trans hep'
    rw [isValid, hcheck]
    simpa using lt_of_lt_of_le ht hlast

theorem acceptedUntil_of_lasting (hlasting : Lasting cfg addr deadline s)
    (hafter : deadline ≤ s.clock + archivalStatusTTL) : AcceptedUntil cfg addr deadline s := by
  intro post u t hrun hclears ht hdeadline ep hep
  have hinv : deadline ≤ u.clock + archivalStatusTTL ∧
      (deadline ≤ u.clock ∨ Lasting cfg addr deadline u) := by
    refine invariant (C := fun _ e => clears cfg addr e = false)
      (I := fun u => deadline ≤ u.clock + archivalStatusTTL ∧
        (deadline ≤ u.clock ∨ Lasting cfg addr deadline u))
      (fun s e s' hs hC hstep => ?_) ⟨hafter, .inr hlasting⟩ (.of_forall hclears) hrun
    obtain ⟨hle, hclock, -⟩ := step_eq_some hstep
    rw [hclock]
    have hafter' : deadline ≤ e.now + archivalStatusTTL := by grind
    refine ⟨hafter', ?_⟩
    by_cases hover : deadline ≤ e.now
    · exact .inl hover
    · refine .inr ((hs.2.resolve_left fun h => hover (h.trans hle)).step hstep hC ?_ hafter')
      exact not_le.mp hover
  exact (hinv.2.resolve_left (by grind)).accepts hdeadline hep

theorem mark_frame (hsvc : cfg.reputationSvc = true)
    (hep : (s.service.endpoints.lookup addr).isSome = true)
    (hmark : run (step cfg) s (markEndpointArchival cfg addr now) = some s') :
    s'.clock = now ∧ (∀ key, s'.entry key = s.entry key) ∧
    s'.service.endpoints.lookup addr = s.service.endpoints.lookup addr := by
  rw [markEndpointArchival, if_pos hsvc] at hmark
  obtain ⟨s₁, hrecord, hmark⟩ := run_cons.mp hmark
  obtain ⟨s₂, hupdate, hmark⟩ := run_cons.mp hmark
  obtain rfl := some.inj hmark
  obtain ⟨-, -, u₁, hu₁, rfl⟩ := step_eq_some hrecord
  obtain ⟨-, hclock, u₂, hu₂, rfl⟩ := step_eq_some hupdate
  rw [act, reputationStep, ite_none_right_eq_some, map_eq_some_iff] at hu₁
  obtain ⟨-, reputation, -, rfl⟩ := hu₁
  cases hu₂
  obtain ⟨ep, hlookup⟩ := isSome_iff_exists.mp hep
  refine ⟨rfl, fun key => ?_, ?_⟩
  · rfl
  · change (s.service.endpoints.insert addr ((((s.service.endpoints.lookup addr).getD
      {}).updateBlockNumber { isArchival := true }).updateArchival { isArchival := true }
        now)).lookup addr = _
    rw [lookup_insert, hlookup]
    rfl

def sweptAndSynced (addr : EndpointAddr) (now : Time) : List Event :=
  [⟨now, .sweepStaleEndpoints⟩, ⟨now, .syncEndpointBlocks (singleton addr 0)⟩]

theorem exists_recreated {ep : Endpoint}
    {lastSeen : Time} (hclock : s.clock ≤ now) (hep : s.service.endpoints.lookup addr = some ep)
    (hseen : ep.lastSeen = some lastSeen) (hstale : lastSeen + defaultEndpointTTL < now) :
    ∃ u ep', run (step cfg) s (sweptAndSynced addr now) = some u ∧
    u.clock = now ∧ (∀ key, u.entry key = s.entry key) ∧
    u.service.endpoints.lookup addr = some ep' ∧ ep'.checkArchival = ⟨false, none⟩ := by
  let swept : EvmQoS :=
    { s with service := s.service.sweepStaleEndpoints now defaultEndpointTTL, clock := now }
  let synced : EvmQoS :=
    { swept with
      service := swept.service.syncEndpointBlocksFromRedis now (singleton addr 0) }
  have hsweep : s.step cfg ⟨now, .sweepStaleEndpoints⟩ = some swept := by
    rw [step, if_pos hclock]
    rfl
  have hsync : swept.step cfg ⟨now, .syncEndpointBlocks (singleton addr 0)⟩ =
      some synced := by
    rw [step, if_pos (le_refl now)]
    rfl
  have hgone : swept.service.endpoints.lookup addr = none :=
    lookup_sweepStaleEndpoints_of_stale hep hseen hstale
  let created : Endpoint := { parsedBlockNumberResponse := some 0, lastSeen := some now }
  have hcreated : (storeHeights now swept.service.endpoints (singleton addr 0)).lookup addr =
      some created := by
    have hentries : (singleton addr 0 : GoMap EndpointAddr ℕ).entries = [⟨addr, 0⟩] := rfl
    rw [storeHeights, hentries, List.foldl_cons, List.foldl_nil, hgone]
    exact lookup_insert _
  obtain ⟨ep', hep', hdefault⟩ : ∃ ep', synced.service.endpoints.lookup addr = some ep' ∧
      ep'.checkArchival = ⟨false, none⟩ := by
    have hkept : Kept now True (some created) (synced.service.endpoints.lookup addr) := by
      rw [← hcreated]
      exact kept_fillHeights _ addr
    generalize synced.service.endpoints.lookup addr = o at hkept
    cases hkept with
    | same hcheck _ => exact ⟨_, rfl, hcheck⟩
  have hrun : run (step cfg) s (sweptAndSynced addr now) = some synced :=
    run_cons.mpr ⟨swept, hsweep, run_cons.mpr ⟨synced, hsync, rfl⟩⟩
  exact ⟨synced, ep', hrun, rfl, fun _ => rfl, hep', hdefault⟩

theorem lasting_of_acceptedUntil (haccepted : AcceptedUntil cfg addr deadline s)
    (hep : (s.service.endpoints.lookup addr).isSome = true) (hclock : s.clock < deadline) :
    Lasting cfg addr deadline s := by
  obtain ⟨t, rfl⟩ : ∃ t, deadline = t + 1 := exists_eq_succ_of_ne_zero (by grind)
  have ht : s.clock ≤ t := Nat.lt_succ_iff.mp hclock
  obtain ⟨ep, hlookup⟩ := isSome_iff_exists.mp hep
  have hcached : ∀ u : EvmQoS, u.entry (cfg.archivalKey addr).string =
      s.entry (cfg.archivalKey addr).string →
      u.cachedTrue t (cfg.archivalKey addr).string = true → Lasting cfg addr (t + 1) s := by
    intro u hentry hu
    obtain ⟨entry, hlive, htrue, hexpires⟩ := cachedTrue_iff.mp hu
    exact .cached entry (hentry ▸ hlive) htrue (succ_le_succ hexpires)
  have hstart := haccepted [] s t rfl (by simp) ht (lt_succ_self t) ep hlookup
  rcases checkArchival_eq_ok.mp hstart with hvalid | hc
  · generalize hcheck : ep.checkArchival = check at hvalid
    obtain ⟨isArchival, expiresAt⟩ := check
    cases expiresAt with
    | none => simp [isValid] at hvalid
    | some expiresAt =>
      obtain ⟨rfl, hlive⟩ : isArchival = true ∧ t < expiresAt := by
        simpa [isValid] using hvalid
      by_cases hseen : ∀ lastSeen ∈ ep.lastSeen, t + 1 ≤ lastSeen + defaultEndpointTTL + 1
      · exact .stored ep expiresAt hlookup hcheck hlive hseen
      · -- swept at the last moment, and created again by a height of another replica
        push Not at hseen
        obtain ⟨lastSeen, hlast, hstale⟩ := hseen
        obtain ⟨u, ep', hrun, huclock, hentry, hep', hdefault⟩ := exists_recreated ht hlookup hlast
          (lt_of_succ_lt_succ hstale)
        have hend := haccepted _ u t hrun (by simp [sweptAndSynced, clears]) huclock.le
          (lt_succ_self t) ep' hep'
        rcases checkArchival_eq_ok.mp hend with hv | hc
        · rw [hdefault] at hv
          cases hv
        · exact hcached u (hentry _) (cachedArchival_eq t addr ▸ hc)
  · exact hcached s rfl (cachedArchival_eq t addr ▸ hc)

/-- After a passed health check the endpoint is accepted for the lifetime of a status exactly if
the replica already held one until then. -/
theorem mark_accepted_iff (hsvc : cfg.reputationSvc = true)
    (hep : (s.service.endpoints.lookup addr).isSome = true)
    (hmark : run (step cfg) s (markEndpointArchival cfg addr now) = some s') :
    AcceptedUntil cfg addr (now + archivalStatusTTL) s' ↔
      Lasting cfg addr (now + archivalStatusTTL) s := by
  obtain ⟨hclock, hentry, hstore⟩ := mark_frame hsvc hep hmark
  constructor
  · intro haccepted
    refine (lasting_of_acceptedUntil haccepted (hstore ▸ hep) ?_).congr (hentry _).symm hstore.symm
    rw [hclock]
    exact Nat.lt_add_of_pos_right (by decide)
  · intro hlasting
    exact acceptedUntil_of_lasting (hlasting.congr (hentry _) hstore) (by rw [hclock])

theorem mark_accepted_iff_observed :
    ∃ s s', (start ∅).step leader ⟨0, .updateFromExtractedData checkedAddr
        { archivalCheckPerformed := true, isArchival := true }⟩ = some s ∧
      run (step leader) s (markEndpointArchival leader checkedAddr 0) = some s' ∧
      AcceptedUntil leader checkedAddr (0 + archivalStatusTTL) s' := by
  refine ⟨_, _, rfl, eq_some_of_isSome (by decide +kernel), ?_⟩
  refine (mark_accepted_iff rfl (by decide +kernel) (eq_some_of_isSome _)).mpr ?_
  exact .cached ⟨true, 0 + archivalStatusTTL⟩ (by decide +kernel) rfl (le_succ _)

theorem mark_not_accepted :
    (run (step leader) (start ∅)
      (⟨0, .updateFromExtractedData checkedAddr { blockHeight := 100 }⟩ ::
        markEndpointArchival leader checkedAddr 1)).bind
      (fun u => (u.service.endpoints.lookup checkedAddr).map
        (fun ep => (u.clock, (u.service.checkArchival leader.selection 2 checkedAddr ep).isOk))) =
      some (1, false) := by
  decide +kernel

end PathGateway.Evm.EvmQoS
