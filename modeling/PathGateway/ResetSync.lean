import PathGateway.CosmosQoS
import PathGateway.NoOpQoS

/-! A reset of the perceived height against the background sync. The reset clears the height and
then deletes the copy, the sync reads the copy and then applies it, and writes started earlier may
arrive at any time: an old height can come back on each of these ways. -/

namespace PathGateway

open Machine Option

namespace SharedHeight

variable {cfg : SyncConfig} {s s' : SharedHeight} {redis redis' M h : ℕ} {now : Time}
  {b : ShareAction}

/-- After a reset has begun: nothing above the highest height reported since is there, is about
to be applied, or is in the copy once the reset has deleted it. -/
structure Fresh (cfg : SyncConfig) (s : SharedHeight) (redis M : ℕ) : Prop where
  perceived : s.perceived ≤ M
  fetched : ∀ v ∈ s.fetched, v ≤ M
  redis : cfg.reputationSvc = true → s.deleting = false → redis ≤ M

/-- No height from before the reset, above those reported since, is read while the reset runs,
or is left in the copy or written to it after the reset. -/
def Undisturbed (s : SharedHeight) (redis M : ℕ) : ShareAction → Prop
  | .fetch ok => s.deleting = true → ok = true → redis ≤ M
  | .writeRedis i ok => s.deleting = false → ok = true → ∀ h ∈ s.redisWrites[i]?, h ≤ M
  | .deleteShared ok => ok = true ∨ redis ≤ M
  | _ => True

theorem Fresh.mono {M' : ℕ} (hfresh : Fresh cfg s redis M) (hle : M ≤ M') : Fresh cfg s redis M' :=
  ⟨hfresh.perceived.trans hle, fun v hv => (hfresh.fetched v hv).trans hle,
    fun hsvc hdone => (hfresh.redis hsvc hdone).trans hle⟩

theorem fresh_reset (hidle : ∀ v ∈ s.fetched, v = 0) :
    Fresh cfg (s.resetPerceivedBlockHeight cfg) redis 0 := by
  refine ⟨le_rfl, fun v hv => (hidle v hv).le, fun hsvc hdone => ?_⟩
  rw [resetPerceivedBlockHeight] at hdone
  exact absurd (hsvc.symm.trans hdone) (by decide)

theorem Fresh.raise (hfresh : Fresh cfg s redis M) : Fresh cfg (s.raise cfg h) redis (max M h) :=
  have hmono := hfresh.mono (le_max_left M h)
  ⟨le_max_right M h, hmono.fetched, hmono.redis⟩

theorem Fresh.report (hfresh : Fresh cfg s redis M) :
    Fresh cfg (s.report cfg h) redis (max M h) := by
  rw [SharedHeight.report]
  split
  · exact hfresh.raise
  · exact hfresh.mono (le_max_left M h)

theorem Fresh.reportChecked (hfresh : Fresh cfg s redis M) :
    Fresh cfg (s.reportChecked cfg h) redis (max M h) := by
  rw [reportChecked_eq]
  split
  · exact hfresh.raise
  · exact hfresh.mono (le_max_left M h)

theorem Fresh.act (hfresh : Fresh cfg s redis M) (hquiet : Undisturbed s redis M b)
    (hact : s.act cfg redis now b = some (s', redis')) : Fresh cfg s' redis' (max M b.reports) := by
  have hmono := hfresh.mono (le_max_left M b.reports)
  cases b with
  | external height =>
    obtain ⟨rfl, rfl⟩ := Prod.mk.inj (some.inj hact)
    rcases consumeExternalBlockHeight_cases cfg s height now with hsame | ⟨-, -, hreport⟩
    · rw [hsame]
      exact hmono
    · rw [hreport]
      exact hfresh.reportChecked
  | writeRedis i ok =>
    obtain ⟨h, hh, rfl, rfl⟩ := writeRedis_eq_some hact
    refine ⟨hmono.perceived, hmono.fetched, fun hsvc hdone => ?_⟩
    split_ifs with hok
    · exact max_le (hmono.redis hsvc hdone) ((hquiet hdone hok h hh).trans (le_max_left _ _))
    · exact hmono.redis hsvc hdone
  | fetch ok =>
    obtain ⟨u, hu, heq⟩ := map_eq_some_iff.mp hact
    obtain ⟨hsvc, -, rfl⟩ := fetch_eq_some hu
    cases heq
    refine ⟨hmono.perceived, fun v hv => ?_, hmono.redis⟩
    obtain rfl := some.inj hv
    split_ifs with hok
    · cases hdel : s.deleting with
      | false => exact hmono.redis hsvc hdel
      | true => exact (hquiet hdel hok).trans (le_max_left _ _)
    · exact Nat.zero_le _
  | sync =>
    obtain ⟨u, hu, heq⟩ := map_eq_some_iff.mp hact
    obtain ⟨v, hv, rfl⟩ := sync_eq_some hu
    cases heq
    refine ⟨max_le hmono.perceived (hmono.fetched v hv), fun w hw => ?_, hmono.redis⟩
    cases hw
  | reset =>
    obtain ⟨-, heq⟩ := ite_none_left_eq_some.mp hact
    cases heq
    refine ⟨Nat.zero_le _, hmono.fetched, fun hsvc hdone => ?_⟩
    rw [resetPerceivedBlockHeight] at hdone
    exact absurd (hsvc.symm.trans hdone) (by decide)
  | deleteShared ok =>
    obtain ⟨-, rfl, rfl⟩ := deletePerceivedBlockNumber_eq_some hact
    refine ⟨hmono.perceived, hmono.fetched, fun _ _ => ?_⟩
    split_ifs with hok
    · exact Nat.zero_le _
    · exact (hquiet.resolve_left hok).trans (le_max_left _ _)
  | redisExpire =>
    cases hact
    exact ⟨hmono.perceived, hmono.fetched, fun _ _ => Nat.zero_le _⟩

end SharedHeight

namespace NoOp

abbrev NoOpQoS.stepSince (cfg : SyncConfig) :
    (NoOpQoS × ℕ) × ℕ → Event → Option ((NoOpQoS × ℕ) × ℕ) :=
  withHighest (NoOpQoS.step cfg) (fun e => e.action.reports)

def NoOpQoS.Undisturbed (s : (NoOpQoS × ℕ) × ℕ) (e : Event) : Prop :=
  match e.action with
  | .share b => s.1.1.height.Undisturbed s.1.2 s.2 b
  | _ => True

variable {cfg : SyncConfig}

theorem NoOpQoS.fresh_step {s s' : (NoOpQoS × ℕ) × ℕ} {e : Event}
    (hfresh : s.1.1.height.Fresh cfg s.1.2 s.2) (hquiet : Undisturbed s e)
    (hstep : stepSince cfg s e = some s') : s'.1.1.height.Fresh cfg s'.1.2 s'.2 := by
  obtain ⟨hact, hM⟩ := withHighest_eq_some.mp hstep
  obtain ⟨now, action⟩ := e
  rw [hM]
  rcases height_act hact with ⟨hq, hr⟩ | ⟨addr, h, rfl, -, hq, hr⟩ | ⟨b, rfl, hb⟩
  · rw [hq, hr]
    exact hfresh.mono (le_max_left _ _)
  · rw [hq, hr]
    exact hfresh.reportChecked
  · exact hfresh.act hquiet hb

end NoOp

namespace Cosmos

variable {cfg : Config} {M : ℕ}

/-- What is extracted, observed or consumed since the reset. -/
abbrev CosmosQoS.stepSince (cfg : Config) : CosmosQoS × ℕ → Event → Option (CosmosQoS × ℕ) :=
  withHighest (CosmosQoS.step cfg) (fun e => e.action.reports)

/-- Besides, an endpoint that observations have updated has its height from a report since the
reset, or from a lower one; and no other replica shares a higher one. -/
def CosmosQoS.Undisturbed (cfg : Config) (s : CosmosQoS × ℕ) (e : Event) : Prop :=
  match e.action with
  | .share b => s.1.height.Undisturbed s.1.redis s.2 b
  | .updateFromEndpoints i order => ∀ updatedEndpoints ∈ s.1.updated[i]?,
      ∀ ep ∈ CosmosQoS.visited updatedEndpoints order,
        isCometBFTStatusValid cfg ep.checkCometBFTStatus = .ok () →
        ∀ h ∈ ep.checkCometBFTStatus.latestBlockHeight, h ≤ s.2
  | .otherReplica blockNumber => s.1.height.deleting = false → blockNumber ≤ s.2
  | _ => True

theorem latestBlockHeight_of_ok {check : CometBFTStatus} {h : ℕ}
    (hok : check.getLatestBlockHeight = .ok h) : check.latestBlockHeight = some h := by
  rw [CometBFTStatus.getLatestBlockHeight] at hok
  cases hheight : check.latestBlockHeight with
  | none =>
    rw [hheight] at hok
    cases hok
  | some n =>
    rw [hheight] at hok
    cases n with
    | zero => cases hok
    | succ =>
      cases hok
      rfl

theorem raiseFrom_le {p : ℕ} {ep : Endpoint} (hp : p ≤ M)
    (hep : isCometBFTStatusValid cfg ep.checkCometBFTStatus = .ok () →
    ∀ h ∈ ep.checkCometBFTStatus.latestBlockHeight, h ≤ M) : raiseFrom cfg p ep ≤ M := by
  rw [raiseFrom]
  split
  · rename_i blockNumber hvalid hheight
    split
    · split
      · exact hp
      · exact hep hvalid blockNumber (latestBlockHeight_of_ok hheight)
    · exact hp
  · exact hp

theorem updateFromEndpoints_le {p : ℕ} {eps : List Endpoint} (hp : p ≤ M)
    (heps : ∀ ep ∈ eps, isCometBFTStatusValid cfg ep.checkCometBFTStatus = .ok () →
    ∀ h ∈ ep.checkCometBFTStatus.latestBlockHeight, h ≤ M) : updateFromEndpoints cfg p eps ≤ M := by
  induction eps generalizing p with
  | nil => exact hp
  | cons ep eps ih =>
    obtain ⟨hep, heps⟩ := List.forall_mem_cons.mp heps
    exact ih (raiseFrom_le hp hep) heps

theorem CosmosQoS.fresh_step {s s' : CosmosQoS × ℕ} {e : Event}
    (hfresh : s.1.height.Fresh cfg.sync s.1.redis s.2) (hquiet : Undisturbed cfg s e)
    (hstep : stepSince cfg s e = some s') : s'.1.height.Fresh cfg.sync s'.1.redis s'.2 := by
  obtain ⟨hact, hM⟩ := withHighest_eq_some.mp hstep
  obtain ⟨now, action⟩ := e
  obtain ⟨q, M⟩ := s
  obtain ⟨q', M'⟩ := s'
  dsimp only at hact hM hfresh ⊢
  have hmono := hfresh.mono (le_max_left M action.reports)
  rw [hM]
  cases action with
  | updateFromExtractedData addr data =>
    cases hact
    rw [CosmosQoS.updateFromExtractedData, ExtractedData.block, extractedHeight]
    by_cases hpos : 0 < data.blockHeight
    · rw [if_pos hpos]
      exact hfresh.report
    · rw [if_neg hpos]
      split
      · exact hmono
      · rename_i hblock
        obtain ⟨-, heq⟩ := ite_none_right_eq_some.mp hblock
        cases heq
        exact (hfresh.report (h := 0)).mono (max_le_max le_rfl (Nat.zero_le _))
  | updateEndpointsFromObservations | filterValidEndpoints =>
    cases hact
    exact hmono
  | updateFromEndpoints =>
    obtain ⟨updatedEndpoints, hi, happly⟩ := bind_eq_some_iff.mp hact
    obtain ⟨-, heq⟩ := ite_none_right_eq_some.mp happly
    cases heq
    exact ⟨(updateFromEndpoints_le hfresh.perceived (hquiet updatedEndpoints hi)).trans
      (le_max_left _ _), hmono.fetched, hmono.redis⟩
  | syncEndpointBlocks | sweepStaleEndpoints =>
    obtain ⟨-, heq⟩ := ite_none_right_eq_some.mp hact
    cases heq
    exact hmono
  | share =>
    obtain ⟨r, hr, heq⟩ := map_eq_some_iff.mp hact
    cases heq
    exact hfresh.act hquiet hr
  | otherReplica =>
    cases hact
    refine ⟨hmono.perceived, hmono.fetched, fun hsvc hdone => ?_⟩
    exact max_le (hmono.redis hsvc hdone) ((hquiet hdone).trans (le_max_left _ _))

end Cosmos

/-- With no read of an old height under way when the reset begins, and undisturbed after that, a
pass-through or Cosmos replica is at every later time at most at the highest height reported since
the reset began. -/
theorem reset_stays_reset (now : Time) :
    (∀ (cfg : SyncConfig) (post : List NoOp.Event) (s s₀ t : NoOp.NoOpQoS × ℕ),
      (∀ v ∈ s.1.height.fetched, v = 0) →
      NoOp.NoOpQoS.step cfg s ⟨now, .share .reset⟩ = some s₀ →
      Machine.Meets (NoOp.NoOpQoS.stepSince cfg) NoOp.NoOpQoS.Undisturbed (s₀, 0) post →
      run (NoOp.NoOpQoS.step cfg) s₀ post = some t →
      t.1.height.perceived ≤ (post.map (fun e => e.action.reports)).foldl max 0) ∧
    (∀ (cfg : Cosmos.Config) (post : List Cosmos.Event) (s s₀ t : Cosmos.CosmosQoS),
      (∀ v ∈ s.height.fetched, v = 0) →
      s.step cfg ⟨now, .share .reset⟩ = some s₀ →
      Machine.Meets (Cosmos.CosmosQoS.stepSince cfg) (Cosmos.CosmosQoS.Undisturbed cfg) (s₀, 0)
        post →
      run (Cosmos.CosmosQoS.step cfg) s₀ post = some t →
      t.height.perceived ≤ (post.map (fun e => e.action.reports)).foldl max 0) := by
  constructor
  · intro cfg post s s₀ t hidle hreset hquiet hrun
    obtain ⟨r, hr, rfl⟩ := map_eq_some_iff.mp hreset
    obtain ⟨-, heq⟩ := ite_none_left_eq_some.mp hr
    cases heq
    have hfresh := invariant (fun _ _ _ => NoOp.NoOpQoS.fresh_step)
      (SharedHeight.fresh_reset hidle) hquiet (run_withHighest 0 hrun)
    exact hfresh.perceived
  · intro cfg post s s₀ t hidle hreset hquiet hrun
    obtain ⟨r, hr, rfl⟩ := map_eq_some_iff.mp hreset
    obtain ⟨-, heq⟩ := ite_none_left_eq_some.mp hr
    cases heq
    have hfresh := invariant (fun _ _ _ => Cosmos.CosmosQoS.fresh_step)
      (SharedHeight.fresh_reset hidle) hquiet (run_withHighest 0 hrun)
    exact hfresh.perceived

section Worked

def cosmosAlone : Cosmos.Config := ⟨"", "", 0, [], .sharing⟩

def highHeight : SharedHeight := { perceived := 500, redisWrites := [500] }

def noOpHigh : NoOp.NoOpQoS × ℕ := (⟨∅, 0, highHeight⟩, 500)

def cosmosHigh : Cosmos.CosmosQoS := ⟨∅, highHeight, 500, []⟩

/-- A write from before the reset arrives before the copy is deleted, a sync runs afterwards. -/
def quietRun {α : Type} (share : ShareAction → α) (report : α) : List α :=
  [share (.writeRedis 0 true), share (.deleteShared true), report, share (.fetch true), share .sync]

def noOpQuiet : List NoOp.Event :=
  quietRun (fun b => ⟨0, .share b⟩) ⟨0, .updateFromExtractedData "a" 90⟩

def cosmosQuiet : List Cosmos.Event :=
  quietRun (fun b => ⟨0, .share b⟩) ⟨0, .updateFromExtractedData "a" { blockHeight := 90 }⟩

theorem reset_stays_reset_quiet :
    (∃ s₀ t, NoOp.NoOpQoS.step .sharing noOpHigh ⟨0, .share .reset⟩ = some s₀ ∧
      run (NoOp.NoOpQoS.step .sharing) s₀ noOpQuiet = some t ∧
      t.1.height.perceived ≤ 90) ∧
    (∃ s₀ t, cosmosHigh.step cosmosAlone ⟨0, .share .reset⟩ = some s₀ ∧
      run (Cosmos.CosmosQoS.step cosmosAlone) s₀ cosmosQuiet = some t ∧
      t.height.perceived ≤ 90) := by
  have hidle : ∀ v ∈ highHeight.fetched, v = 0 := fun v hv => by cases hv
  constructor
  · refine ⟨_, _, rfl, rfl, ((reset_stays_reset 0).1 .sharing noOpQuiet noOpHigh _ _ hidle rfl ?_
      rfl).trans (by decide)⟩
    refine ⟨nofun, fun _ hw => ⟨.inl rfl, fun _ hd => ⟨trivial, fun _ hr => ⟨?_, fun _ _ =>
      ⟨trivial, fun _ _ => trivial⟩⟩⟩⟩⟩
    cases hw; cases hd; cases hr
    nofun
  · refine ⟨_, _, rfl, rfl, ((reset_stays_reset 0).2 cosmosAlone cosmosQuiet cosmosHigh _ _ hidle
      rfl ?_ rfl).trans (by decide)⟩
    refine ⟨nofun, fun _ hw => ⟨.inl rfl, fun _ hd => ⟨trivial, fun _ hr => ⟨?_, fun _ _ =>
      ⟨trivial, fun _ _ => trivial⟩⟩⟩⟩⟩
    cases hw; cases hd; cases hr
    nofun

def disturbed : List ShareAction :=
  [.writeRedis 0 true, .reset, .fetch true, .deleteShared true, .sync]

theorem reset_undone :
    (run (NoOp.NoOpQoS.step .sharing) (.start, 0)
      (⟨0, .updateFromExtractedData "a" 500⟩ :: disturbed.map (fun b => ⟨0, .share b⟩))).map
      (fun t => (t.1.height, t.2)) = some (⟨500, [], none, false⟩, 0) ∧
    (run (Cosmos.CosmosQoS.step cosmosAlone) (.start 0)
      (⟨0, .updateFromExtractedData "a" { blockHeight := 500 }⟩ ::
        disturbed.map (fun b => ⟨0, .share b⟩))).map
      (fun t => (t.height, t.redis)) = some (⟨500, [], none, false⟩, 0) := by
  constructor
  · decide +kernel
  · decide +kernel

end Worked

end PathGateway
