import PathGateway.NoOpQoS

/-! Replicas of a pass-through service that share one copy of the perceived height. A report is
checked against the height of the replica that gets it only, and a replica that has none yet
takes almost any; the others take over the copy without a check. -/

namespace PathGateway.NoOp

open SharedHeight Nat Option List Machine

structure Cluster (ι : Type) where
  replicas : ι → NoOpQoS
  redis : ℕ

inductive ClusterEvent (ι : Type) where
  | act (i : ι) (e : Event)
  | restart (i : ι)

namespace Cluster

variable {ι : Type} [DecidableEq ι]

def start (redis : ℕ) : Cluster ι := ⟨fun _ => .start, redis⟩

variable (c : Cluster ι)

def put (i : ι) (q : NoOpQoS) (redis : ℕ) : Cluster ι := ⟨Function.update c.replicas i q, redis⟩

def step (cfg : SyncConfig) (c : Cluster ι) : ClusterEvent ι → Option (Cluster ι)
  | .act i e => ((c.replicas i).act cfg c.redis e.now e.action).map (fun r => c.put i r.1 r.2)
  | .restart i => some (c.put i .start c.redis)

def height (c : Cluster ι) (i : ι) : SharedHeight := (c.replicas i).height

def Shares (v : ℕ) : Prop :=
  v = c.redis ∨ ∃ i, v ∈ (c.height i).redisWrites ∨ (c.height i).fetched = some v

/-- A replica with a height that takes over the copy rises by at most the jump that a report
may make. -/
def BoundedSync (cfg : SyncConfig) (c : Cluster ι) : ClusterEvent ι → Prop
  | .act i e => e.action = .share .sync → 0 < (c.height i).perceived →
      ∀ c', c.step cfg (.act i e) = some c' →
        (c'.height i).perceived ≤ (c.height i).perceived + maxBlockHeightJump
  | .restart _ => True

def WithinReach (i : ι) (h : ℕ) : Prop :=
  (∀ j, j ≠ i → 0 < (c.height j).perceived → h ≤ (c.height j).perceived + maxBlockHeightJump) ∧
  ((c.height i).perceived = 0 → ∀ v, c.Shares v → v ≤ h + maxBlockHeightJump)

/-- Reports and external heights that a replica takes over are within reach. So is everything
shared, when a replica without a height takes over the copy. -/
def InReach : ClusterEvent ι → Prop
  | .act i ⟨_, .updateFromExtractedData _ blockHeight⟩ =>
      (c.height i).perceived < blockHeight.toNat →
      isPlausible blockHeight.toNat (c.height i).perceived = true →
      c.WithinReach i blockHeight.toNat
  | .act i ⟨_, .share (.external height)⟩ =>
      (c.height i).perceived < height.toNat →
      isPlausible height.toNat (c.height i).perceived = true → c.WithinReach i height.toNat
  | .act i ⟨_, .share .sync⟩ => (c.height i).perceived = 0 →
      ∀ v, 0 < v → (c.height i).fetched = some v →
        ∀ w, c.Shares w → w ≤ v + maxBlockHeightJump
  | _ => True

def Close : Prop :=
  ∀ v, c.Shares v → ∀ j, 0 < (c.height j).perceived →
    v ≤ (c.height j).perceived + maxBlockHeightJump

variable {cfg : SyncConfig} {c c' : Cluster ι} {i j : ι} {q : NoOpQoS} {redis v : ℕ}

theorem height_put_self : (c.put i q redis).height i = q.height := by
  change (Function.update c.replicas i q i).height = q.height
  rw [Function.update_self]

theorem height_put_of_ne (hne : j ≠ i) : (c.put i q redis).height j = c.height j := by
  change (Function.update c.replicas i q j).height = (c.replicas j).height
  rw [Function.update_of_ne hne]

theorem shares_put (hv : (c.put i q redis).Shares v) :
    c.Shares v ∨ v = redis ∨ v ∈ q.height.redisWrites ∨ q.height.fetched = some v := by
  rcases hv with hredis | ⟨j, hj⟩
  · exact .inr (.inl hredis)
  · by_cases hji : j = i
    · subst hji
      rw [height_put_self] at hj
      exact .inr (.inr hj)
    · rw [height_put_of_ne hji] at hj
      exact .inl (.inr ⟨j, hj⟩)

omit [DecidableEq ι] in
theorem close_start (redis : ℕ) : (start redis : Cluster ι).Close :=
  fun _ _ _ hpos => absurd hpos (lt_irrefl 0)

theorem Close.put {s : SharedHeight} (hclose : c.Close) (hq : q.height = s)
    (hnew : ∀ v, v = redis ∨ v ∈ s.redisWrites ∨ s.fetched = some v → c.Shares v ∨
    ∀ j, 0 < ((c.put i q redis).height j).perceived →
    v ≤ ((c.put i q redis).height j).perceived + maxBlockHeightJump)
    (hrise : 0 < s.perceived → (0 < (c.height i).perceived ∧ (c.height i).perceived ≤ s.perceived) ∨
    ∀ v, c.Shares v → v ≤ s.perceived + maxBlockHeightJump) : (c.put i q redis).Close := by
  intro v hv j hpos
  have hshared : c.Shares v ∨ ∀ j, 0 < ((c.put i q redis).height j).perceived →
      v ≤ ((c.put i q redis).height j).perceived + maxBlockHeightJump :=
    (shares_put hv).elim .inl (hq ▸ hnew v)
  rcases hshared with hold | hnew
  · by_cases hji : j = i
    · subst hji
      rw [height_put_self, hq] at hpos ⊢
      rcases hrise hpos with ⟨hpos', hle⟩ | hfirst
      · exact (hclose v hold j hpos').trans (Nat.add_le_add_right hle _)
      · exact hfirst v hold
    · rw [height_put_of_ne hji] at hpos ⊢
      exact hclose v hold j hpos
  · exact hnew j hpos

theorem Close.kept (hclose : c.Close) (hq : q.height = c.height i) : (c.put i q c.redis).Close := by
  refine hclose.put hq (fun v hv => .inl ?_) fun hpos => .inl ⟨hpos, le_rfl⟩
  rcases hv with hredis | hv
  · exact .inl hredis
  · exact .inr ⟨i, hv⟩

theorem Close.reportChecked {h : ℕ} (hclose : c.Close)
    (hq : q.height = (c.height i).reportChecked cfg h) (hreach : (c.height i).perceived < h →
    isPlausible h (c.height i).perceived = true → c.WithinReach i h) :
    (c.put i q c.redis).Close := by
  rw [reportChecked_eq] at hq
  split_ifs at hq with htaken
  · obtain ⟨hothers, hfirst⟩ := hreach htaken.1 htaken.2
    have hreached : ∀ j, 0 < ((c.put i q c.redis).height j).perceived →
        h ≤ ((c.put i q c.redis).height j).perceived + maxBlockHeightJump := by
      intro j hpos
      by_cases hji : j = i
      · subst hji
        rw [height_put_self, hq]
        exact le_add_right h _
      · rw [height_put_of_ne hji] at hpos ⊢
        exact hothers j hji hpos
    refine hclose.put hq (fun v hv => ?_) fun _ => ?_
    · rcases hv with hredis | hwrite | hfetched
      · exact .inl (.inl hredis)
      · rw [raise] at hwrite
        dsimp only at hwrite
        split at hwrite
        · rcases mem_append.mp hwrite with hold | hh
          · exact .inl (.inr ⟨i, .inl hold⟩)
          · exact .inr (mem_singleton.mp hh ▸ hreached)
        · exact .inl (.inr ⟨i, .inl hwrite⟩)
      · exact .inl (.inr ⟨i, .inr hfetched⟩)
    · by_cases hpos : 0 < (c.height i).perceived
      · exact .inl ⟨hpos, le_of_lt htaken.1⟩
      · exact .inr (hfirst (Nat.eq_zero_of_not_pos hpos))
  · exact hclose.kept hq

theorem Close.share {b : ShareAction}
    {now : Time} (hclose : c.Close) (hreach : c.InReach (.act i ⟨now, .share b⟩))
    (hact : (c.height i).act cfg c.redis now b = some (q.height, redis)) :
    (c.put i q redis).Close := by
  have hwrites : ∀ w ∈ (c.height i).redisWrites, c.Shares w := fun w hw => .inr ⟨i, .inl hw⟩
  have hfetched : ∀ w, (c.height i).fetched = some w → c.Shares w :=
    fun w hw => .inr ⟨i, .inr hw⟩
  -- the copy is the old one, or nothing
  have hcopy : ∀ (ok : Bool) {v : ℕ}, v = (if ok then c.redis else 0) → c.Shares v ∨
      ∀ j, 0 < ((c.put i q redis).height j).perceived →
        v ≤ ((c.put i q redis).height j).perceived + maxBlockHeightJump := by
    intro ok v hv
    split at hv
    · exact .inl (.inl hv)
    · exact .inr fun j _ => hv ▸ zero_le _
  cases b with
  | external height =>
    obtain ⟨hq, rfl⟩ := Prod.mk.inj (some.inj hact)
    rcases consumeExternalBlockHeight_cases cfg (c.height i) height now with
      hsame | ⟨-, -, hreport⟩
    · exact hclose.kept (hq.symm.trans hsame)
    · exact hclose.reportChecked (hq.symm.trans hreport) hreach
  | writeRedis =>
    obtain ⟨h, hh, hq, hredis⟩ := writeRedis_eq_some hact
    refine hclose.put hq (fun v hv => .inl ?_) fun hpos => .inl ⟨hpos, le_rfl⟩
    rcases hv with hv | hwrite | hfetch
    · rw [hv, hredis]
      split
      · rcases max_choice c.redis h with heq | heq
        · exact .inl heq
        · rw [heq]
          exact hwrites h (mem_of_getElem? hh)
      · exact .inl rfl
    · exact hwrites v (mem_of_mem_eraseIdx hwrite)
    · exact hfetched v hfetch
  | fetch ok =>
    obtain ⟨s, hs, heq⟩ := map_eq_some_iff.mp hact
    obtain ⟨hq, rfl⟩ := Prod.mk.inj heq
    obtain ⟨-, -, rfl⟩ := fetch_eq_some hs
    refine hclose.put hq.symm (fun v hv => ?_) fun hpos => .inl ⟨hpos, le_rfl⟩
    rcases hv with hv | hwrite | hfetch
    · exact .inl (.inl hv)
    · exact .inl (hwrites v hwrite)
    · exact hcopy ok (some.inj hfetch).symm
  | sync =>
    obtain ⟨s, hs, heq⟩ := map_eq_some_iff.mp hact
    obtain ⟨hq, rfl⟩ := Prod.mk.inj heq
    obtain ⟨v, hv, rfl⟩ := sync_eq_some hs
    refine hclose.put hq.symm (fun w hw => .inl ?_) fun hpos => ?_
    · rcases hw with hw | hwrite | hfetch
      · exact .inl hw
      · exact hwrites w hwrite
      · cases hfetch
    · by_cases hzero : (c.height i).perceived = 0
      · dsimp only at hpos ⊢
        rw [hzero, zero_max] at hpos ⊢
        exact .inr (hreach hzero v hpos hv)
      · exact .inl ⟨pos_of_ne_zero hzero, le_max_left _ _⟩
  | reset =>
    obtain ⟨-, heq⟩ := ite_none_left_eq_some.mp hact
    obtain ⟨hq, rfl⟩ := Prod.mk.inj (some.inj heq)
    refine hclose.put hq.symm (fun v hv => .inl ?_) fun hpos => absurd hpos (lt_irrefl 0)
    rcases hv with hv | hwrite | hfetch
    · exact .inl hv
    · exact hwrites v hwrite
    · exact hfetched v hfetch
  | deleteShared ok =>
    obtain ⟨-, hq, hredis⟩ := deletePerceivedBlockNumber_eq_some hact
    refine hclose.put hq (fun v hv => ?_) fun hpos => .inl ⟨hpos, le_rfl⟩
    rcases hv with hv | hwrite | hfetch
    · refine hcopy (!ok) ?_
      rw [hv, hredis]
      cases ok <;> rfl
    · exact .inl (hwrites v hwrite)
    · exact .inl (hfetched v hfetch)
  | redisExpire =>
    obtain ⟨hq, rfl⟩ := Prod.mk.inj (some.inj hact)
    refine hclose.put hq.symm (fun v hv => ?_) fun hpos => .inl ⟨hpos, le_rfl⟩
    rcases hv with hv | hwrite | hfetch
    · exact hcopy false hv
    · exact .inl (hwrites v hwrite)
    · exact .inl (hfetched v hfetch)

theorem close_step {e : ClusterEvent ι} (hclose : c.Close) (hreach : c.InReach e)
    (hstep : c.step cfg e = some c') : c'.Close := by
  cases e with
  | act i e =>
    obtain ⟨⟨q, redis⟩, hact, rfl⟩ := map_eq_some_iff.mp hstep
    obtain ⟨now, action⟩ := e
    rcases NoOpQoS.height_act hact with ⟨hq, hredis⟩ | ⟨addr, h, rfl, -, hq, hredis⟩ | ⟨b, rfl, hb⟩
    · exact hredis ▸ hclose.kept hq
    · exact hredis ▸ hclose.reportChecked hq hreach
    · exact hclose.share hreach hb
  | restart =>
    cases hstep
    refine hclose.put rfl (fun v hv => .inl ?_) fun hpos => absurd hpos (lt_irrefl 0)
    rcases hv with hv | hwrite | hfetch
    · exact .inl hv
    · cases hwrite
    · cases hfetch

theorem Close.boundedSync {e : ClusterEvent ι} (hclose : c.Close) : c.BoundedSync cfg e := by
  cases e with
  | restart => trivial
  | act i e =>
    obtain ⟨now, action⟩ := e
    rintro rfl hpos c' hstep
    obtain ⟨⟨q, redis⟩, hact, rfl⟩ := map_eq_some_iff.mp hstep
    obtain ⟨⟨s, r⟩, hs, heq⟩ := map_eq_some_iff.mp hact
    obtain ⟨s', hs', heq'⟩ := map_eq_some_iff.mp hs
    obtain ⟨v, hv, rfl⟩ := sync_eq_some hs'
    cases heq
    cases heq'
    rw [height_put_self]
    have hle := hclose v (.inr ⟨i, .inr hv⟩) i hpos
    exact max_le (le_add_right _ _) hle

/-- In every run of replicas that start without a height, where each height taken over is within
reach, no replica with a height is raised by more than the jump when it takes over the copy. -/
theorem boundedSync_of_inReach (cfg : SyncConfig) (redis : ℕ) {events : List (ClusterEvent ι)}
    (hreach : Machine.Meets (step cfg) InReach (start redis) events) :
    Machine.Meets (step cfg) (BoundedSync cfg) (start redis) events :=
  meets_of_invariant (fun _ _ hclose _ => hclose.boundedSync)
    (fun _ _ _ => close_step) (close_start redis) hreach

def reportTo (i : ι) (h : ℤ) : ClusterEvent ι := .act i ⟨0, .updateFromExtractedData "a" h⟩

def shareBy (i : ι) (b : ShareAction) : ClusterEvent ι := .act i ⟨0, .share b⟩

def firstReport (h : ℤ) : List (ClusterEvent Bool) :=
  [reportTo true 100, reportTo false h, shareBy false (.writeRedis 0 true),
    shareBy true (.fetch true)]

omit [DecidableEq ι] in
theorem shares_le {bound : ℕ} (hredis : c.redis ≤ bound)
    (hreplicas : ∀ i, (∀ v ∈ (c.height i).redisWrites, v ≤ bound) ∧
    ∀ v ∈ (c.height i).fetched, v ≤ bound) (v : ℕ) (hv : c.Shares v) : v ≤ bound := by
  rcases hv with rfl | ⟨i, hwrite | hfetch⟩
  · exact hredis
  · exact (hreplicas i).1 v hwrite
  · exact (hreplicas i).2 v hfetch

theorem boundedSync_of_inReach_near :
    Machine.Meets (step .sharing) InReach (start 0) (firstReport 105 ++ [shareBy true .sync]) ∧
    Machine.Meets (step .sharing) (BoundedSync .sharing) (start 0)
      (firstReport 105 ++ [shareBy true .sync]) := by
  have hreach : Machine.Meets (step .sharing) InReach (start 0)
      (firstReport 105 ++ [shareBy true .sync]) := by
    refine ⟨fun _ _ => ⟨by decide +kernel, fun _ => shares_le (by decide +kernel)
      (by decide +kernel)⟩, fun c hc => ?_⟩
    cases hc
    refine ⟨fun _ _ => ⟨by decide +kernel, fun _ => shares_le (by decide +kernel)
      (by decide +kernel)⟩, fun c hc => ⟨trivial, fun d hd => ⟨trivial, fun c' hc' => ?_⟩⟩⟩
    cases hc
    cases hd
    cases hc'
    exact ⟨fun hzero => absurd hzero (by decide +kernel), fun _ _ => trivial⟩
  exact ⟨hreach, boundedSync_of_inReach .sharing 0 hreach⟩

theorem first_report_poisons :
    (run (step .sharing) (start 0) (firstReport 1000000000000)).map
      (fun c => (c.height true).perceived) = some 100 ∧
    (run (step .sharing) (start 0) (firstReport 1000000000000 ++ [shareBy true .sync])).map
      (fun c => (c.height true).perceived) = some 1000000000000 ∧
    100 + maxBlockHeightJump < 1000000000000 := by
  refine ⟨?_, ?_, ?_⟩
  · decide +kernel
  · decide +kernel
  · decide

end Cluster

end PathGateway.NoOp
