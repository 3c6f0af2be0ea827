import PathGateway.EvmQoS

/-! How long the archival cache may answer from one verification. A confirmed check gives an
entry one lifetime; a refresh gives a listed key another one, however old its status is. -/

namespace PathGateway.Evm.EvmQoS

open Option Machine

variable {cfg : QoSConfig} {s s' : EvmQoS} {e : Event}

/-- Whenever the cache answers true, the key was verified within the lifetime of a status. -/
def Backed (s : EvmQoS) : Prop :=
  ∀ key t, s.clock ≤ t → s.cachedTrue t key = true →
    ∃ τ, (key, τ) ∈ s.verified ∧ t ≤ τ + archivalStatusTTL ∧ τ ≤ t

/-- A refresh adds a key only while it is being verified. -/
def VerifiedNow (s : EvmQoS) (e : Event) : Prop :=
  match e.action with
  | .refreshNext => s.service.archivalCache.isSome = true → ∀ key ∈ s.refreshing.head?,
      s.cachedTrue e.now key.string = true ∨ (key.string, e.now) ∈ s.verified
  | _ => True

instance VerifiedNow.decidable (s : EvmQoS) (e : Event) : Decidable (VerifiedNow s e) :=
  match h : e.action with
  | .refreshNext => decidable_of_iff (s.service.archivalCache.isSome = true →
      ∀ key ∈ s.refreshing.head?,
        s.cachedTrue e.now key.string = true ∨ (key.string, e.now) ∈ s.verified)
      (by rw [VerifiedNow, h])
  | .updateFromExtractedData .. | .recordArchival _ | .applyObservation ..
  | .setPerceivedBlockNumber _ | .syncEndpointBlocks _ | .sweepStaleEndpoints
  | .touchEndpoints _ | .refreshList | .cleanup | .reputation _ =>
    .isTrue (by rw [VerifiedNow, h]; trivial)

def verifies (cfg : QoSConfig) (s : EvmQoS) (e : Event) : Option String :=
  match e.action with
  | .updateFromExtractedData addr data =>
    if data.archivalCheckPerformed && data.isArchival then some (cfg.archivalKey addr).string
    else none
  | .recordArchival i => s.recording[i]?.map (fun addr => (cfg.archivalKey addr).string)
  | .reputation e => e.verifies
  | _ => none

theorem verified_of_step (h : s.step cfg e = some s') :
    s'.verified = (verifies cfg s e).elim s.verified (fun key => (key, e.now) :: s.verified) := by
  obtain ⟨-, -, u, hu, rfl⟩ := step_eq_some h
  obtain ⟨now, action⟩ := e
  change u.verified = _
  rw [verifies]
  cases action with
  | updateFromExtractedData =>
    cases hu
    rw [updateFromExtractedData]
    dsimp only
    split
    · split <;> rfl
    · rfl
  | recordArchival =>
    obtain ⟨addr, haddr, rfl⟩ := map_eq_some_iff.mp hu
    simp [haddr, verify, setArchivalStatus]
  | applyObservation =>
    cases hu
    rw [applyObservation]
    split <;> rfl
  | refreshList =>
    obtain ⟨-, hu⟩ := ite_none_right_eq_some.mp hu
    cases hu
    rfl
  | refreshNext =>
    rw [act, refreshNext] at hu
    split at hu
    · cases hu
    · split at hu <;> cases hu <;> rfl
  | reputation =>
    rw [act, reputationStep, ite_none_right_eq_some, map_eq_some_iff] at hu
    obtain ⟨-, reputation, -, rfl⟩ := hu
    rfl
  | setPerceivedBlockNumber | syncEndpointBlocks | sweepStaleEndpoints | touchEndpoints | cleanup =>
    cases hu
    rfl

theorem mem_verified_of_step (h : s.step cfg e = some s') {v : String × Time} :
    v ∈ s'.verified ↔ v ∈ s.verified ∨ verifies cfg s e = some v.1 ∧ v.2 = e.now := by
  obtain ⟨key, t⟩ := v
  rw [verified_of_step h]
  cases verifies cfg s e with
  | none => simp
  | some => simp [or_comm, eq_comm]

def Past (s : EvmQoS) : Prop := ∀ v ∈ s.verified, v.2 ≤ s.clock

theorem Past.step (hpast : Past s) (h : s.step cfg e = some s') : Past s' := by
  obtain ⟨hle, hclock, -⟩ := step_eq_some h
  intro v hv
  rw [hclock]
  rcases (mem_verified_of_step h).mp hv with hold | ⟨-, hnow⟩
  · exact (hpast v hold).trans hle
  · exact hnow.le

theorem cachedTrue_refreshNext (h : s.step cfg e = some s')
    (haction : e.action = .refreshNext) {key : EndpointKey}
    (hkey : key ∈ s.refreshing.head?) (hcache : s.service.archivalCache.isSome = true)
    (hnot : s.cachedTrue e.now key.string = false) :
    s'.cachedTrue (e.now + archivalStatusTTL) key.string = true := by
  obtain ⟨-, -, u, hu, rfl⟩ := step_eq_some h
  rw [haction, act, refreshNext] at hu
  split at hu
  · cases hu
  · rename_i k ks hkeys
    rw [hkeys] at hkey
    obtain rfl : k = key := some.inj hkey
    rw [if_neg (by simp [hnot])] at hu
    cases hu
    exact cachedTrue_iff.mpr ⟨_, entry_setArchival hcache, rfl, le_rfl⟩

theorem backed_step_iff (hbacked : Backed s) (hpast : Past s) (h : s.step cfg e = some s') :
    Backed s' ↔ VerifiedNow s e := by
  obtain ⟨hle, hclock, -⟩ := step_eq_some h
  constructor
  · intro hbacked'
    rw [VerifiedNow]
    split
    · rename_i haction
      intro hcache key hkey
      by_cases hcached : s.cachedTrue e.now key.string = true
      · exact .inl hcached
      · right
        have hlast := cachedTrue_refreshNext h haction hkey hcache
          (Bool.eq_false_of_not_eq_true hcached)
        obtain ⟨τ, hτ, hlife, -⟩ := hbacked' key.string (e.now + archivalStatusTTL)
          (hclock ▸ Nat.le_add_right _ _) hlast
        have hmem : (key.string, τ) ∈ s.verified := by
          refine ((mem_verified_of_step h).mp hτ).resolve_right fun hv => ?_
          simp [verifies, haction] at hv
        -- a full lifetime ahead, so the verification is of this very time
        have hτle : τ ≤ s.clock := hpast _ hmem
        obtain rfl : τ = e.now :=
          le_antisymm (hτle.trans hle) (Nat.le_of_add_le_add_right hlife)
        exact hmem
    · trivial
  · intro hverified key t ht hcached
    rw [hclock] at ht
    obtain ⟨entry, hentry, htrue, hexpires⟩ := cachedTrue_iff.mp hcached
    have hmove := cacheMove_of_step h key
    rw [hentry] at hmove
    have hnew : (key, e.now) ∈ s'.verified → t ≤ e.now + archivalStatusTTL →
        ∃ τ, (key, τ) ∈ s'.verified ∧ t ≤ τ + archivalStatusTTL ∧ τ ≤ t :=
      fun hmem hlife => ⟨e.now, hmem, hlife, ht⟩
    generalize ho : s.entry key = o at hmove
    cases hmove with
    | kept =>
      obtain ⟨τ, hτ, hlife, hτt⟩ := hbacked key t (hle.trans ht)
        (cachedTrue_iff.mpr ⟨entry, ho, htrue, hexpires⟩)
      exact ⟨τ, (mem_verified_of_step h).mpr (.inl hτ), hlife, hτt⟩
    | confirmed addr data haction hcheck harchival hkey =>
      refine hnew ((mem_verified_of_step h).mpr (.inr ⟨?_, rfl⟩)) hexpires
      simp [verifies, haction, hcheck, harchival, hkey]
    | refreshed k ks haction hsome hkeys hkey hnot =>
      refine hnew ((mem_verified_of_step h).mpr (.inl ?_)) hexpires
      rw [VerifiedNow, haction] at hverified
      rcases hverified hsome k (by simp [hkeys]) with hcached | hmem
      · rw [hkey, hcached] at hnot
        cases hnot
      · exact hkey ▸ hmem

/-- In every run from a state whose answers are backed, they stay so exactly if each refresh adds
a key only at a time of its verification. -/
theorem archivalCache_backed_iff {t : EvmQoS} {events : List Event} (hbacked : Backed s)
    (hpast : Past s) (hrun : run (step cfg) s events = some t) :
    (∀ pre post u, events = pre ++ post → run (step cfg) s pre = some u → Backed u) ↔
      Machine.Meets (step cfg) VerifiedNow s events := by
  rw [← always_iff_meets (I := fun s => Backed s ∧ Past s)
    (fun s e s' hs h => ?_) ⟨hbacked, hpast⟩ hrun]
  · refine forall_congr' fun pre => forall_congr' fun post => forall_congr' fun u =>
      imp_congr_right fun _ => ⟨fun hall hpre => ⟨hall hpre, ?_⟩, fun hall hpre => (hall hpre).1⟩
    exact invariant_of_step (fun _ _ _ => Past.step) hpast hpre
  · exact ⟨fun h' => (backed_step_iff hs.1 hs.2 h).mp h'.1,
      fun hverified => ⟨(backed_step_iff hs.1 hs.2 h).mpr hverified, hs.2.step h⟩⟩

def leader : QoSConfig := ⟨.plain, true, .plain, ScoreStore.sampleBackend⟩

def checkedAddr : EndpointAddr := "pokt1a-https://a.example.com"

def checkedKey : String := (leader.archivalKey checkedAddr).string

def confirmedThenRefreshed (now : Time) : List Event :=
  [⟨0, .reputation (.setArchivalStatus (leader.archivalKey checkedAddr) true archivalStatusTTL 0)⟩,
    ⟨now, .refreshList⟩, ⟨now, .refreshNext⟩]

theorem archivalCache_backed_iff_atOnce :
    ∃ t, run (step leader) (start ∅) (confirmedThenRefreshed 0) = some t ∧
      ∀ pre post u, confirmedThenRefreshed 0 = pre ++ post →
        run (step leader) (start ∅) pre = some u → Backed u := by
  refine exists_of_any (fun _ => True) (by decide +kernel) fun t hrun _ => ?_
  have hbacked : Backed (start ∅) := by
    intro key t _ hcached
    obtain ⟨entry, hentry, -⟩ := cachedTrue_iff.mp hcached
    cases hentry
  have hpast : Past (start ∅) := fun v hv => absurd hv List.not_mem_nil
  exact (archivalCache_backed_iff hbacked hpast hrun).mpr (by decide +kernel)

theorem refresh_outlives_verification :
    (run (step leader) (start ∅) (confirmedThenRefreshed (29 * Duration.minute))).map
      (fun u => (u.clock, u.cachedTrue (58 * Duration.minute) checkedKey, u.verified)) =
      some (29 * Duration.minute, true, [(checkedKey, 0)]) ∧
    0 + archivalStatusTTL < 58 * Duration.minute := by
  decide +kernel

end PathGateway.Evm.EvmQoS
