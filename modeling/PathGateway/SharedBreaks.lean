import PathGateway.CircuitBreaker

/-! What Redis keeps of a break. A refresh deletes the fields that it has found expired in an
earlier reading, and an `HSET` in between goes with them. -/

namespace PathGateway

open Duration Fleet DomainCircuitBreaker Machine GoBytes Option List GoMap

section Values

theorem fits_wrapInt (v : ℤ) : GoBytes.Fits (wrapInt v) := by
  have hlow := Int.le_bmod (x := v) (m := 2 ^ 64) (by decide)
  have hhigh := Int.bmod_lt (x := v) (m := 2 ^ 64) (by decide)
  rw [GoBytes.Fits, wrapInt]
  omega

theorem unix_mono {t t' : Time} (h : t ≤ t') : unix t ≤ unix t' := by
  rw [unix, unix]
  exact_mod_cast Nat.div_le_div_right h

theorem parseRedisValue_redisValue {state : BrokenDomainState}
    (hexpiry : GoBytes.Fits (unix state.expiry)) (hhits : GoBytes.Fits state.hitCount) :
    parseRedisValue (redisValue state) =
      some (unix state.expiry, state.hitCount, state.reason.take 500) := by
  have hcolon (v : ℤ) : colon ∉ formatInt v :=
    not_mem_formatInt (by decide) (by decide)
  rw [parseRedisValue, redisValue, cut_append _ (hcolon _)]
  simp only [cut_append _ (hcolon _), getD_some,
    parseInt_formatInt hexpiry, parseInt_formatInt hhits]

end Values

theorem redisKey_inj {a b : String} (h : redisKey a = redisKey b) : a = b := by
  unfold redisKey at h
  exact (String.append_right_inj _).mp h

namespace RedisStore

variable {store : RedisStore} {key key' : String}

theorem hGetAll_hSet {field : String} {val : Bytes} :
    (store.hSet key field val).hGetAll key' =
      if key' = key then (store.hGetAll key).insert field val else store.hGetAll key' := by
  rw [hSet, hGetAll, lookup_insert_eq]
  split <;> rfl

theorem hGetAll_hDel {fields : List String} :
    (store.hDel key fields).hGetAll key' = if key' = key then
      (store.hGetAll key).retain fun field _ => field ∉ fields else store.hGetAll key' := by
  rw [hDel, hGetAll, lookup_insert_eq]
  split <;> rfl

theorem hGetAll_del :
    (store.del key).hGetAll key' = if key' = key then ∅ else store.hGetAll key' := by
  rw [del, hGetAll, lookup_erase_eq]
  split <;> rfl

end RedisStore

def redisField (redis : Option RedisStore) (serviceID domain : String) : Option Bytes :=
  redis.bind fun store => (store.hGetAll (redisKey serviceID)).lookup domain

section Field

variable {store : RedisStore} {serviceID domain service' : String}

theorem redisField_hSet {domain' : String} {val : Bytes} :
    redisField (some (store.hSet (redisKey service') domain' val)) serviceID domain =
      if serviceID = service' ∧ domain = domain' then some val
      else redisField (some store) serviceID domain := by
  simp only [redisField, bind_some, RedisStore.hGetAll_hSet]
  by_cases hs : serviceID = service'
  · subst hs
    rw [if_pos rfl]
    rw [lookup_insert_eq]
    simp only [true_and]
  · rw [if_neg fun heq => hs (redisKey_inj heq), if_neg fun hboth => hs hboth.1]

theorem redisField_hDel {fields : List String} :
    redisField (some (store.hDel (redisKey service') fields)) serviceID domain =
      if serviceID = service' ∧ domain ∈ fields then none
      else redisField (some store) serviceID domain := by
  simp only [redisField, bind_some, RedisStore.hGetAll_hDel]
  by_cases hs : serviceID = service'
  · subst hs
    rw [if_pos rfl, lookup_retain]
    by_cases hd : domain ∈ fields
    · simp [hd]
    · simp only [hd, not_false_eq_true, decide_true, and_false, if_false]
      cases (store.hGetAll (redisKey serviceID)).lookup domain <;> rfl
  · rw [if_neg fun heq => hs (redisKey_inj heq), if_neg fun hboth => hs hboth.1]

theorem redisField_del :
    redisField (some (store.del (redisKey service'))) serviceID domain =
      if serviceID = service' then none else redisField (some store) serviceID domain := by
  simp only [redisField, bind_some, RedisStore.hGetAll_del]
  by_cases hs : serviceID = service'
  · rw [if_pos (congrArg redisKey hs), if_pos hs, AList.lookup_empty]
  · rw [if_neg fun heq => hs (redisKey_inj heq), if_neg hs]

end Field

def GetCall.expired (call : GetCall) : List String :=
  match call.phase with
  | .deleting _ _ fields => fields
  | _ => []

def MarkCall.toShare (call : MarkCall) : Option BrokenDomainState :=
  match call.phase with
  | .written state => some state
  | _ => none

namespace Pod

section Field

variable (p : Pod) (serviceID domain : String) (redis redis' : Option RedisStore)

inductive FieldEffect : PodEvent → Prop where
  | keeps {event}
      (hfield : redisField redis' serviceID domain = redisField redis serviceID domain) :
      FieldEffect event
  | sets {i call state} (hcall : p.marks[i]? = some call)
      (hkey : call.serviceID = serviceID ∧ call.domain = domain)
      (hstate : call.toShare = some state)
      (hfield : redisField redis' serviceID domain = some (redisValue state)) :
      FieldEffect (.hSet i true)
  | deletes {i call} (hcall : p.gets[i]? = some call)
      (hkey : call.serviceID = serviceID) (hmem : domain ∈ call.expired)
      (hfield : redisField redis' serviceID domain = none) : FieldEffect (.hDel i true)
  | clears {i call} (hcall : p.clears[i]? = some call)
      (hkey : call.serviceID = serviceID)
      (hfield : redisField redis' serviceID domain = none) : FieldEffect (.del i true)

end Field

variable {cfg : BreakerConfig} {clock : Time} {p : Pod} {redis : Option RedisStore}
  {event : PodEvent} {move : PodMove}

theorem fieldEffect_of_moves (serviceID domain : String) (h : Moves cfg clock redis p event move) :
    FieldEffect p serviceID domain redis move.redis event := by
  cases h with
  | @hSet i ok call state store hcall hp hredis =>
    subst hredis
    cases ok with
    | false => exact .keeps rfl
    | true =>
      by_cases hkey : serviceID = call.serviceID ∧ domain = call.domain
      · refine .sets hcall ⟨hkey.1.symm, hkey.2.symm⟩ (by rw [MarkCall.toShare, hp]) ?_
        exact redisField_hSet.trans (if_pos hkey)
      · exact .keeps (redisField_hSet.trans (if_neg hkey))
  | @hDel i ok call now domains fields store hcall hp hredis =>
    subst hredis
    cases ok with
    | false => exact .keeps rfl
    | true =>
      by_cases hkey : serviceID = call.serviceID ∧ domain ∈ fields
      · refine .deletes hcall hkey.1.symm (by rw [GetCall.expired, hp]; exact hkey.2) ?_
        exact redisField_hDel.trans (if_pos hkey)
      · exact .keeps (redisField_hDel.trans (if_neg hkey))
  | @del i ok call store hcall hp hredis =>
    subst hredis
    cases ok with
    | false => exact .keeps rfl
    | true =>
      by_cases hkey : serviceID = call.serviceID
      · exact .clears hcall hkey.symm (redisField_del.trans (if_pos hkey))
      · exact .keeps (redisField_del.trans (if_neg hkey))
  | _ => exact .keeps rfl

end Pod

structure MarkCall.Stamped (cfg : BreakerConfig) (clock : Time) (call : MarkCall) : Prop where
  now_le : call.now ≤ clock
  fits_decided : ∀ hits, call.phase = .decided hits → GoBytes.Fits hits
  toShare : ∀ state, call.toShare = some state →
    ∃ hits, GoBytes.Fits hits ∧ state = Pod.brokenState cfg call hits

namespace Pod

variable {cfg : BreakerConfig} {clock : Time} {p : Pod} {redis : Option RedisStore}
  {serviceID domain : String} {event : PodEvent} {move : PodMove} {call c : MarkCall}

theorem stamped_setMark {i : ℕ} {phase : MarkPhase} (h : ∀ c ∈ p.marks, c.Stamped cfg clock)
    (hnew : MarkCall.Stamped cfg clock { call with phase := phase }) :
    ∀ c ∈ (p.setMark i call phase).marks, c.Stamped cfg clock := by
  intro c hc
  rcases mem_or_eq_of_mem_set hc with hold | rfl
  · exact h c hold
  · exact hnew

theorem stamped_quiet {i : ℕ} {phase : MarkPhase} (h : ∀ c ∈ p.marks, c.Stamped cfg clock)
    (hcall : p.marks[i]? = some call) (hphase : phase = .checked ∨ phase = .returned) :
    ∀ c ∈ (p.setMark i call phase).marks, c.Stamped cfg clock := by
  have hnow := (h call (mem_of_getElem? hcall)).now_le
  refine stamped_setMark h ⟨hnow, fun hits heq => ?_, fun state heq => ?_⟩
  · rcases hphase with rfl | rfl <;> cases heq
  · rcases hphase with rfl | rfl <;> cases heq

theorem fits_of_shouldBreak {cb breaker : DomainCircuitBreaker} {now : Time} {hits : ℤ}
    (h : cb.shouldBreak cfg serviceID domain now = (breaker, some hits)) : GoBytes.Fits hits := by
  unfold shouldBreak at h
  dsimp only at h
  split at h
  · cases h
  · cases h
    rw [nextHitCount]
    split
    · exact fits_wrapInt _
    · decide

theorem stamped_of_moves (h : Moves cfg clock redis p event move)
    (hp : ∀ c ∈ p.marks, c.Stamped cfg clock) : ∀ c ∈ move.pod.marks, c.Stamped cfg clock := by
  cases h with
  | marked =>
    intro c hc
    rcases mem_append.mp hc with hold | hnew
    · exact hp c hold
    · rw [mem_singleton.mp hnew]
      refine ⟨le_refl _, fun hits heq => ?_, fun state heq => ?_⟩ <;> cases heq
  | duplicate hcall | hSet hcall => exact stamped_quiet hp hcall (.inr rfl)
  | checked hcall => exact stamped_quiet hp hcall (.inl rfl)
  | @gated i call breaker hitCount hcall hphase hgate =>
    have hold := hp call (mem_of_getElem? hcall)
    cases hitCount with
    | none => exact stamped_quiet hp hcall (.inr rfl)
    | some =>
      refine stamped_setMark hp ⟨hold.now_le, fun hits' heq => ?_, fun state heq => ?_⟩
      · cases heq
        exact fits_of_shouldBreak hgate
      · cases heq
  | @wrote i call hits phase hcall hphase hnext =>
    have hold := hp call (mem_of_getElem? hcall)
    rcases hnext with rfl | rfl
    · exact stamped_quiet hp hcall (.inr rfl)
    · refine stamped_setMark hp ⟨hold.now_le, fun hits' heq => ?_, fun state heq => ?_⟩
      · cases heq
      · cases heq
        exact ⟨hits, hold.fits_decided hits hphase, rfl⟩
  | _ => exact hp

/-- No `ClearService` deletes the hash, and no later break of the domain is written to it. -/
def Undisturbed (serviceID domain : String) (now : Time) (p : Pod) : PodEvent → Prop
  | .hSet i ok => ok = true → ∀ call ∈ p.marks[i]?, call.serviceID = serviceID →
    call.domain = domain → call.now ≤ now
  | .del i ok => ok = true → ∀ call ∈ p.clears[i]?, call.serviceID ≠ serviceID
  | _ => True

/-- A refresh deletes the field only when what it holds by then has expired; and an earlier break
that is written late does not expire before. -/
def KeepsBreak (clock : Time) (redis : Option RedisStore) (serviceID domain : String) (now : Time)
    (expiry : ℤ) (p : Pod) : PodEvent → Prop
  | .hDel i ok => ok = true → ∀ call ∈ p.gets[i]?, call.serviceID = serviceID →
    domain ∈ call.expired → (redisField redis serviceID domain).bind (readState clock) = none
  | .hSet i ok => ok = true → ∀ call ∈ p.marks[i]?, call.serviceID = serviceID →
    call.domain = domain → call.now ≤ now → ∀ state ∈ call.toShare, expiry ≤ unix state.expiry
  | _ => True

instance (now : Time) : DecidablePred (p.Undisturbed serviceID domain now)
  | .hSet i _ => inferInstanceAs (Decidable (_ → ∀ call ∈ p.marks[i]?, _ → _ → _))
  | .del i _ => inferInstanceAs (Decidable (_ → ∀ call ∈ p.clears[i]?, _))
  | .recordSuccess _ _ | .markBroken _ _ _ | .check _ | .gate _ | .write _
  | .getBrokenDomains _ _ | .refreshLocal _ | .hGetAll _ _ | .judge _ | .hDel _ _ | .merge _
  | .clearService _ | .clearStats _ => .isTrue trivial

instance (now : Time) (expiry : ℤ) :
    DecidablePred (p.KeepsBreak clock redis serviceID domain now expiry)
  | .hDel i _ => inferInstanceAs (Decidable (_ → ∀ call ∈ p.gets[i]?, _ → _ → _))
  | .hSet i _ => inferInstanceAs
      (Decidable (_ → ∀ call ∈ p.marks[i]?, _ → _ → _ → ∀ state ∈ call.toShare, _))
  | .recordSuccess _ _ | .markBroken _ _ _ | .check _ | .gate _ | .write _
  | .getBrokenDomains _ _ | .refreshLocal _ | .hGetAll _ _ | .judge _ | .merge _
  | .clearService _ | .clearStats _ | .del _ _ => .isTrue trivial

end Pod

def LastsUntil (expiry : ℤ) (field : Option Bytes) : Prop :=
  ∃ val expiryUnix hits reason, field = some val ∧
    parseRedisValue val = some (expiryUnix, hits, reason) ∧ expiry ≤ expiryUnix

theorem LastsUntil.isSome_readState {expiry : ℤ} {field : Option Bytes} {clock : Time}
    (h : LastsUntil expiry field) (hlt : unix clock < expiry) :
    (field.bind (readState clock)).isSome = true := by
  obtain ⟨val, expiryUnix, hits, reason, rfl, hparse, hle⟩ := h
  rw [bind_some, readState, hparse]
  simp only [if_pos (hlt.trans_le hle), isSome_some]

theorem lastsUntil_redisValue {cfg : BreakerConfig} {clock latest : Time} {call : MarkCall}
    {state : BrokenDomainState} {expiry : ℤ} (h : call.Stamped cfg clock)
    (hstate : call.toShare = some state) (hclock : clock ≤ latest)
    (htimes : GoBytes.Fits (unix (latest + max cfg.defaultTTL cfg.maxTTL)))
    (hle : expiry ≤ unix state.expiry) : LastsUntil expiry (some (redisValue state)) := by
  obtain ⟨hits, hfits, rfl⟩ := h.toShare state hstate
  have httl : escalatedTTL cfg hits ≤ max cfg.defaultTTL cfg.maxTTL := by
    rw [escalatedTTL]
    split
    · exact le_max_left _ _
    · exact (min_le_right _ _).trans (le_max_right _ _)
  have hexpiry : unix (Pod.brokenState cfg call hits).expiry ≤
      unix (latest + max cfg.defaultTTL cfg.maxTTL) :=
    unix_mono (Nat.add_le_add (h.now_le.trans hclock) httl)
  have hnonneg : 0 ≤ unix (Pod.brokenState cfg call hits).expiry := Int.natCast_nonneg _
  have hfits' : GoBytes.Fits (unix (Pod.brokenState cfg call hits).expiry) := by
    rw [GoBytes.Fits] at htimes ⊢
    omega
  exact ⟨_, _, _, _, rfl, parseRedisValue_redisValue hfits' hfits, hle⟩

namespace Fleet

section Conditions

variable (serviceID domain : String) (now : Time) (expiry : ℤ) (s : Fleet)

abbrev Undisturbed : FleetEvent → Prop :=
  s.OnPod fun _ p event => p.Undisturbed serviceID domain now event

abbrev KeepsBreak : FleetEvent → Prop :=
  s.OnPod fun _ p event => p.KeepsBreak s.clock s.redis serviceID domain now expiry event

end Conditions

variable {cfg : BreakerConfig} {serviceID domain : String} {now : Time} {expiry : ℤ} {s s' : Fleet}
  {event : FleetEvent} {latest : Time}

def Stamped (cfg : BreakerConfig) (s : Fleet) : Prop :=
  ∀ p ∈ s.pods, ∀ call ∈ p.marks, call.Stamped cfg s.clock

theorem Stamped.step (h : s.Stamped cfg) (hstep : s.step cfg event = some s') : s'.Stamped cfg := by
  have hmono {call : MarkCall} (hc : call.Stamped cfg s.clock) : call.Stamped cfg s'.clock :=
    ⟨hc.now_le.trans (clock_le_of_step hstep), hc.fits_decided, hc.toShare⟩
  rcases moves_of_step hstep with ⟨elapsed, -, rfl⟩ | ⟨i, e, p, move, -, hp, hmove, rfl⟩
  · exact fun p hp call hcall => hmono (h p hp call hcall)
  · intro q hq call hcall
    rcases mem_or_eq_of_mem_set hq with hold | rfl
    · exact hmono (h q hold call hcall)
    · exact hmono (Pod.stamped_of_moves hmove (h p (mem_of_getElem? hp)) call hcall)

structure KeptUntil (cfg : BreakerConfig) (serviceID domain : String) (expiry : ℤ) (latest : Time)
    (s : Fleet) : Prop where
  stamped : s.Stamped cfg
  kept : s.clock ≤ latest → unix s.clock < expiry →
    LastsUntil expiry (redisField s.redis serviceID domain)

theorem KeptUntil.step (htimes : GoBytes.Fits (unix (latest + max cfg.defaultTTL cfg.maxTTL)))
    (h : s.KeptUntil cfg serviceID domain expiry latest)
    (hundisturbed : s.Undisturbed serviceID domain now event)
    (hkeeps : s.KeepsBreak serviceID domain now expiry event)
    (hstep : s.step cfg event = some s') : s'.KeptUntil cfg serviceID domain expiry latest := by
  have hle := clock_le_of_step hstep
  refine ⟨h.stamped.step hstep, fun hlatest hlt => ?_⟩
  have hold := h.kept (hle.trans hlatest) ((unix_mono hle).trans_lt hlt)
  rcases moves_of_step hstep with ⟨elapsed, rfl, rfl⟩ | ⟨i, e, p, move, rfl, hp, hmove, rfl⟩
  · exact hold
  · cases Pod.fieldEffect_of_moves serviceID domain hmove with
    | keeps hfield => exact hfield ▸ hold
    | sets hcall hkey hstate hfield =>
      have hearlier := hundisturbed p hp rfl _ hcall hkey.1 hkey.2
      have hlasts := hkeeps p hp rfl _ hcall hkey.1 hkey.2 hearlier _ hstate
      have hstamped := h.stamped p (mem_of_getElem? hp) _ (mem_of_getElem? hcall)
      exact hfield ▸ lastsUntil_redisValue hstamped hstate (hle.trans hlatest) htimes hlasts
    | deletes hcall hkey hmem =>
      have hexpired := hkeeps p hp rfl _ hcall hkey hmem
      have hsome := hold.isSome_readState ((unix_mono hle).trans_lt hlt)
      rw [hexpired] at hsome
      cases hsome
    | clears hcall hkey => exact absurd hkey (hundisturbed p hp rfl _ hcall)

theorem stamped_start (cfg : BreakerConfig) (clock : Time) (pods : ℕ) (redis : Option RedisStore) :
    (start clock pods redis).Stamped cfg := by
  intro p hp call hcall
  rw [eq_of_mem_replicate hp] at hcall
  cases hcall

/-- A break that is written to Redis stays there, with a value that has not expired, until the
second of its expiry, in the runs whose deletions meet expired values only. -/
theorem break_kept (cfg : BreakerConfig) (clock : Time) (pods : ℕ) (store : RedisStore)
    (pre mid : List FleetEvent) (u u' t : Fleet) (i k : ℕ) (p : Pod) (call : MarkCall)
    (state : BrokenDomainState)
    (hrun : run (step cfg) (start clock pods (some store)) pre = some u)
    (hp : u.pods[i]? = some p) (hcall : p.marks[k]? = some call)
    (hstate : call.phase = .written state)
    (hset : u.step cfg (.pod i (.hSet k true)) = some u')
    (hmid : run (step cfg) u' mid = some t)
    (hundisturbed : Machine.Meets (step cfg)
      (Undisturbed call.serviceID call.domain call.now) u' mid)
    (hkeeps : Machine.Meets (step cfg)
      (KeepsBreak call.serviceID call.domain call.now (unix state.expiry)) u' mid)
    (htimes : GoBytes.Fits (unix (t.clock + max cfg.defaultTTL cfg.maxTTL)))
    (hfuture : unix t.clock < unix state.expiry) :
    ((redisField t.redis call.serviceID call.domain).bind (readState t.clock)).isSome = true := by
  have hu : u.Stamped cfg := invariant_of_step (fun s e s' h hs => Stamped.step h hs)
    (stamped_start cfg clock pods (some store)) hrun
  have hshare : call.toShare = some state := by rw [MarkCall.toShare, hstate]
  have hle : u'.clock ≤ t.clock :=
    invariant_of_step (I := fun s => u'.clock ≤ s.clock)
      (fun s e s' h hs => h.trans (clock_le_of_step hs)) (le_refl _) hmid
  have hu' : u'.KeptUntil cfg call.serviceID call.domain (unix state.expiry) t.clock := by
    refine ⟨hu.step hset, fun _ _ => ?_⟩
    have hstamped := hu p (mem_of_getElem? hp) call (mem_of_getElem? hcall)
    have hlasts := lastsUntil_redisValue hstamped hshare ((clock_le_of_step hset).trans hle) htimes
      (le_refl _)
    rcases moves_of_step hset with ⟨_, heq, -⟩ | ⟨j, e, q, move, heq, hq, hmove, rfl⟩ <;> cases heq
    rw [hp] at hq
    cases hq
    cases hmove with
    | hSet hc hphase =>
      rw [hcall] at hc
      cases hc
      rw [hstate] at hphase
      cases hphase
      exact (redisField_hSet.trans (if_pos ⟨rfl, rfl⟩)).symm ▸ hlasts
  have ht := invariant (fun s e s' h hC hs => KeptUntil.step htimes h hC.1 hC.2 hs) hu'
    (hundisturbed.both hkeeps) hmid
  exact (ht.kept (le_refl _) hfuture).isSome_readState hfuture

end Fleet

section Sample

def readByOther : List FleetEvent :=
  [.tick (6 * second), .pod 1 (.getBrokenDomains "eth" 0), .pod 1 (.hGetAll 0 true),
    .pod 1 (.judge 0), .pod 1 (.merge 0), .tick (50 * second)]

theorem break_read_by_other : ∃ u u' t p call,
    run (Fleet.step newDomainCircuitBreaker) (Fleet.start 0 2 (some ∅)) breaking = some u ∧
      u.pods[0]? = some p ∧ p.marks[4]? = some call ∧
      u.step newDomainCircuitBreaker (.pod 0 (.hSet 4 true)) = some u' ∧
      run (Fleet.step newDomainCircuitBreaker) u' readByOther = some t ∧
      t.clock = 56 * second ∧
      ((redisField t.redis call.serviceID call.domain).bind (readState t.clock)).isSome = true := by
  refine ⟨_, _, _, _, ⟨"eth", "a.example.com", [], 0, .written ⟨60 * second, 1, []⟩⟩,
    eq_some_of_isSome (by decide +kernel), eq_some_of_isSome (by decide +kernel),
    by decide +kernel, eq_some_of_isSome (by decide +kernel),
    eq_some_of_isSome (by decide +kernel), by decide +kernel, ?_⟩
  refine break_kept newDomainCircuitBreaker 0 2 ∅ breaking readByOther _ _ _ 0 4 _ _
    ⟨60 * second, 1, []⟩ (eq_some_of_isSome _) (eq_some_of_isSome ?_) ?_ rfl
    (eq_some_of_isSome _) (eq_some_of_isSome _) ?_ ?_ ?_ ?_
  all_goals decide +kernel

def brokenAgain : List FleetEvent :=
  breaking ++ [.pod 0 (.hSet 4 true), .tick (61 * second), .pod 1 (.getBrokenDomains "eth" 0),
    .pod 1 (.hGetAll 0 true), .pod 1 (.judge 0)] ++ failing 0 5 5 ++ [.pod 0 (.write 9)]

theorem break_deleted : ∃ u u' t p,
    run (Fleet.step newDomainCircuitBreaker) (Fleet.start 0 2 (some ∅)) brokenAgain =
        some u ∧
      u.pods[0]? = some p ∧
      p.marks[9]? = some ⟨"eth", "a.example.com", [], 61 * second,
        .written ⟨181 * second, 2, []⟩⟩ ∧
      u.step newDomainCircuitBreaker (.pod 0 (.hSet 9 true)) = some u' ∧
      redisField u'.redis "eth" "a.example.com" = some (redisValue ⟨181 * second, 2, []⟩) ∧
      u'.step newDomainCircuitBreaker (.pod 1 (.hDel 0 true)) = some t ∧
      u'.Undisturbed "eth" "a.example.com" (61 * second) (.pod 1 (.hDel 0 true)) ∧
      t.clock = 61 * second ∧ redisField t.redis "eth" "a.example.com" = none := by
  refine ⟨_, _, _, _, eq_some_of_isSome (by decide +kernel),
    eq_some_of_isSome (by decide +kernel), by decide +kernel,
    eq_some_of_isSome (by decide +kernel), by decide +kernel,
    eq_some_of_isSome (by decide +kernel), fun _ _ => trivial, by decide +kernel,
    by decide +kernel⟩

end Sample

end PathGateway
