import PathGateway.ArchivalExpiry
import PathGateway.ArchivalSelection

/-! What a failed archival check achieves. It takes the status from the endpoint in the store, but
an entry of the archival cache stays, and the status in the reputation service can bring one
back. -/

namespace PathGateway.Evm.EvmQoS

open ServiceState Machine

variable {cfg : QoSConfig} {s s' : EvmQoS} {e : Event} {addr : EndpointAddr}

structure Denied (cfg : QoSConfig) (addr : EndpointAddr) (s : EvmQoS) : Prop where
  stored : ∀ ep, s.service.endpoints.lookup addr = some ep → ep.checkArchival.isArchival = false
  uncached : ∀ t, s.clock ≤ t → s.cachedTrue t (cfg.archivalKey addr).string = false

def confirms (addr : EndpointAddr) (e : Event) : Bool :=
  match e.action with
  | .updateFromExtractedData a data => a == addr && data.archivalCheckPerformed && data.isArchival
  | _ => false

def refreshes (cfg : QoSConfig) (addr : EndpointAddr) (s : EvmQoS) (e : Event) : Bool :=
  match e.action with
  | .refreshNext => s.refreshing.head?.any (fun key =>
      key.string == (cfg.archivalKey addr).string && !s.cachedTrue e.now key.string)
  | _ => false

theorem Denied.step (hdenied : Denied cfg addr s) (h : s.step cfg e = some s')
    (hconfirm : confirms addr e = false) (hrefresh : refreshes cfg addr s e = false) :
    Denied cfg addr s' := by
  obtain ⟨hle, hclock, -⟩ := step_eq_some h
  constructor
  · intro ep hep
    have hmove := storeMove_of_step h addr
    rw [hep] at hmove
    generalize ho : s.service.endpoints.lookup addr = o at hmove
    cases hmove with
    | kept hkept =>
      cases hkept with
      | created hdefault => rw [hdefault]
      | same hcheck _ => rw [hcheck, hdenied.stored _ ho]
    | checked data haction hcheck harchival =>
      rw [harchival]
      simpa [confirms, haction, hcheck] using hconfirm
  · intro t ht
    rw [hclock] at ht
    by_contra hcached
    obtain ⟨entry, hentry, htrue, hexpires⟩ :=
      cachedTrue_iff.mp (Bool.eq_true_of_not_eq_false hcached)
    have hmove := cacheMove_of_step h (cfg.archivalKey addr).string
    rw [hentry] at hmove
    generalize ho : s.entry (cfg.archivalKey addr).string = o at hmove
    cases hmove with
    | kept =>
      have hold := hdenied.uncached t (hle.trans ht)
      rw [cachedTrue_iff.mpr ⟨entry, ho, htrue, hexpires⟩] at hold
      cases hold
    | confirmed a data haction hcheck harchival hkey =>
      obtain rfl := archivalKey_inj hkey
      simp [confirms, haction, hcheck, harchival] at hconfirm
    | refreshed k ks haction _ hkeys hkey hnot =>
      rw [hkey] at hnot
      simp [refreshes, haction, hkeys, hkey, hnot] at hrefresh

variable {data : ExtractedData} {now : Time}

theorem denied_of_failedCheck (h : s.step cfg e = some s')
    (haction : e.action = .updateFromExtractedData addr data)
    (hcheck : data.archivalCheckPerformed = true) (hfailed : data.isArchival = false)
    (huncached : s.cachedTrue e.now (cfg.archivalKey addr).string = false) :
    Denied cfg addr s' := by
  obtain ⟨hle, hclock, u, hu, rfl⟩ := step_eq_some h
  rw [haction] at hu
  cases hu
  constructor
  · intro ep hep
    change (s.updateFromExtractedData cfg e.now addr data).service.endpoints.lookup addr = _ at hep
    rw [endpoints_updateFromExtractedData, AList.lookup_insert, Option.some.injEq] at hep
    rw [← hep, Endpoint.updateArchival, if_pos hcheck]
    exact hfailed
  · intro t ht
    by_contra hcached
    obtain ⟨entry, hentry, htrue, hexpires⟩ :=
      cachedTrue_iff.mp (Bool.eq_true_of_not_eq_false hcached)
    change (s.updateFromExtractedData cfg e.now addr data).entry _ = _ at hentry
    rw [entry_updateFromExtractedData, if_neg (by simp [hfailed])] at hentry
    rw [cachedTrue_iff.mpr ⟨entry, hentry, htrue, le_trans ht hexpires⟩] at huncached
    cases huncached

theorem Denied.not_evidence (hdenied : Denied cfg addr s) (hnow : s.clock ≤ now)
    (hknown : (s.service.endpoints.lookup addr).isSome = true ∨ ∃ cache ∈ s.service.archivalCache,
      GoMap.isEmpty cache = false) : ¬Evidence cfg.selection s.service now addr := by
  rintro (⟨ep, hep, hvalid⟩ | hcached | ⟨hnone, hempty⟩)
  · rw [EndpointCheckArchival.isValid, hdenied.stored ep hep] at hvalid
    cases hvalid
  · rw [cachedArchival_eq, hdenied.uncached now hnow] at hcached
    cases hcached
  · rcases hknown with hsome | ⟨cache, hcache, hne⟩
    · rw [hnone] at hsome
      cases hsome
    · rw [hempty cache hcache] at hne
      cases hne

/-- After a failed check that finds no entry of the cache, and as long as no refresh adds one and
no check succeeds, the endpoint is not selected for archival data; the single selection must also
find some endpoint valid. -/
theorem failedCheck_effective {u : EvmQoS} {post : List Event} {available : List EndpointAddr}
    (h : s.step cfg e = some s') (haction : e.action = .updateFromExtractedData addr data)
    (hcheck : data.archivalCheckPerformed = true) (hfailed : data.isArchival = false)
    (huncached : s.cachedTrue e.now (cfg.archivalKey addr).string = false)
    (hrun : run (step cfg) s' post = some u) (hmeets : Machine.Meets (step cfg) (fun s e =>
      confirms addr e = false ∧ refreshes cfg addr s e = false) s' post)
    (hnow : u.clock ≤ now) (hknown : (u.service.endpoints.lookup addr).isSome = true ∨
      ∃ cache ∈ u.service.archivalCache, GoMap.isEmpty cache = false) : (∀ numEndpoints ds selected,
      (u.service.selectMultipleWithArchival cfg.selection now available numEndpoints true ds).1 =
      .ok selected → addr ∉ selected) ∧
    ((∃ other ∈ available, (u.service.validateEndpoint cfg.selection now true other).isOk = true) →
      ∀ ds result, (u.service.selectWithMetadata cfg.selection now available true ds).1 =
      .ok result → result.selectedEndpoint ≠ addr) := by
  have hdenied : Denied cfg addr u :=
    invariant (fun _ _ _ hs hC hstep => hs.step hstep hC.1 hC.2)
      (denied_of_failedCheck h haction hcheck hfailed huncached) hmeets hrun
  have hnot := hdenied.not_evidence hnow hknown
  constructor
  · intro numEndpoints ds selected hok hmem
    exact hnot (always_selectMultipleWithArchival ds selected hok addr hmem)
  · rintro ⟨other, hother, hvalid⟩ ds result hok rfl
    rcases always_selectWithMetadata ds result hok with ⟨-, hself⟩ | ⟨hnone, -⟩
    · exact hnot (evidence_of_validateEndpoint hself)
    · rw [hnone other hother] at hvalid
      cases hvalid

def otherAddr : EndpointAddr := "pokt1b-https://b.example.com"

def archivalCheck (addr : EndpointAddr) (passed : Bool) : Action :=
  .updateFromExtractedData addr { archivalCheckPerformed := true, isArchival := passed }

theorem failedCheck_effective_first :
    ∃ s' u, (start ∅).step leader ⟨0, archivalCheck checkedAddr false⟩ = some s' ∧
      run (step leader) s' [⟨1, archivalCheck otherAddr true⟩] = some u ∧
      ∀ numEndpoints ds selected, (u.service.selectMultipleWithArchival leader.selection 2
        [checkedAddr, otherAddr] numEndpoints true ds).1 = .ok selected →
          checkedAddr ∉ selected := by
  obtain ⟨s', hstep⟩ : ∃ s', (start ∅).step leader ⟨0, archivalCheck checkedAddr false⟩ = some s' :=
    ⟨_, rfl⟩
  obtain ⟨u, hrun⟩ : ∃ u,
      run (step leader) s' [⟨1, archivalCheck otherAddr true⟩] = some u := by
    cases hstep
    exact ⟨_, rfl⟩
  refine ⟨s', u, hstep, hrun, (failedCheck_effective hstep rfl rfl rfl rfl hrun ?_ ?_ ?_).1⟩
  · exact ⟨⟨by decide +kernel, rfl⟩, fun _ _ => trivial⟩
  · cases hstep
    cases hrun
    decide
  · cases hstep
    cases hrun
    exact .inl (by decide +kernel)

theorem failedCheck_still_selected :
    (run (step leader) (start ∅) [⟨0, archivalCheck checkedAddr true⟩,
        ⟨0, archivalCheck otherAddr true⟩, ⟨Duration.minute, archivalCheck checkedAddr false⟩]).map
      (fun u => ((u.service.selectMultipleWithArchival leader.selection (2 * Duration.minute)
          [checkedAddr, otherAddr] 1 true []).1.toOption,
        u.service.cachedArchival leader.selection (2 * Duration.minute) otherAddr)) =
      some (some [checkedAddr], true) := by
  decide +kernel

end PathGateway.Evm.EvmQoS
