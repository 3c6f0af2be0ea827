import PathGateway.BlockConsensus
import PathGateway.HealthCheckConfigs

/-! When the health checks of a service run. A service that is due counts as run from the moment
this is decided, before it is known whether its endpoints can be had. -/

namespace PathGateway

open List AList GoMap

structure EndpointInfo where
  addr : EndpointAddr
  httpURL : String
  webSocketURL : String
  sessionID : String
  deriving DecidableEq

def defaultHealthCheckInterval : ℤ := 10 * Duration.second

def serviceCheckInterval (cfg : ServiceHealthCheckConfig) : ℤ :=
  if 0 < cfg.checkInterval then cfg.checkInterval else defaultHealthCheckInterval

/-- The period of the loop. -/
def minCheckInterval (configs : List ServiceHealthCheckConfig) : ℤ :=
  ((configs.filter ServiceHealthCheckConfig.isEnabled).map serviceCheckInterval).min?.getD
    defaultHealthCheckInterval

structure Schedule where
  lastRun : GoMap ServiceID Time
  cycle : GoMap ServiceID ℕ

/-- One call of the loop, with what the lookups of endpoints return. -/
structure Tick where
  now : Time
  period : ℤ
  configs : List ServiceHealthCheckConfig
  resolved : ServiceID → Option (List EndpointInfo)

namespace Schedule

section Due

variable (now : Time) (tick : ℤ)

def slack : ℤ := (if tick ≤ 0 then defaultHealthCheckInterval else tick) / 2

/-- The interval of the entry is over, or the service has not run yet. -/
def reached (s : Schedule) (cfg : ServiceHealthCheckConfig) : Bool :=
  cfg.isEnabled && (s.lastRun.lookup cfg.serviceID).all (fun t =>
    decide (serviceCheckInterval cfg - slack tick ≤ now - t))

def visit (acc : Schedule × GoMap ServiceID ℕ) (cfg : ServiceHealthCheckConfig) :
    Schedule × GoMap ServiceID ℕ :=
  if cfg.serviceID ∈ acc.2 ∨ reached now tick acc.1 cfg = false then acc
  else
    let cycle := (acc.1.cycle.lookup cfg.serviceID).getD 0 + 1
    (⟨acc.1.lastRun.insert cfg.serviceID now, acc.1.cycle.insert cfg.serviceID cycle⟩,
      acc.2.insert cfg.serviceID cycle)

def dueServices (s : Schedule) (configs : List ServiceHealthCheckConfig) :
    Schedule × GoMap ServiceID ℕ :=
  let acc := configs.foldl (visit now tick) (s, ∅)
  let live (id : ServiceID) := configs.any (fun cfg => cfg.isEnabled && cfg.serviceID == id)
  (⟨retain (fun id _ => live id) acc.1.lastRun,
    retain (fun id _ => live id) acc.1.cycle⟩, acc.2)

end Due

/-- The services that jobs are submitted for, each with its first entry; `none` is a lookup that
failed or came too late. -/
def submitted (configs : List ServiceHealthCheckConfig) (due : GoMap ServiceID ℕ)
    (resolved : ServiceID → Option (List EndpointInfo)) :
    List (ServiceHealthCheckConfig × ℕ × List EndpointInfo) :=
  (configs.map ServiceHealthCheckConfig.serviceID).dedup.filterMap (fun id =>
    (configs.find? (fun cfg => cfg.serviceID = id)).bind (fun cfg =>
      (due.lookup id).bind (fun cycle =>
        ((resolved id).filter (fun infos => !infos.isEmpty)).map (fun infos =>
          (cfg, cycle, infos)))))

variable {now : Time} {tick : ℤ} {s : Schedule} {configs : List ServiceHealthCheckConfig}
  {id : ServiceID}

/-- What the loop has done so far: a service is due once an entry of it was reached. -/
structure Visited (now : Time) (tick : ℤ) (s : Schedule) (configs : List ServiceHealthCheckConfig)
    (acc : Schedule × GoMap ServiceID ℕ) : Prop where
  due : ∀ id cycle, acc.2.lookup id = some cycle → cycle = (s.cycle.lookup id).getD 0 + 1 ∧
    acc.1.cycle.lookup id = some cycle ∧ acc.1.lastRun.lookup id = some now ∧
    ∃ cfg ∈ configs, cfg.serviceID = id ∧ reached now tick s cfg = true
  rest : ∀ id, id ∉ acc.2 → acc.1.cycle.lookup id = s.cycle.lookup id ∧
    acc.1.lastRun.lookup id = s.lastRun.lookup id ∧
    ∀ cfg ∈ configs, cfg.serviceID = id → reached now tick s cfg = false

theorem visited_start : Visited now tick s [] (s, ∅) :=
  ⟨fun _ _ h => by simp at h, fun _ _ => ⟨rfl, rfl, by simp⟩⟩

theorem Visited.visit {acc : Schedule × GoMap ServiceID ℕ} (h : Visited now tick s configs acc)
    (cfg : ServiceHealthCheckConfig) :
    Visited now tick s (configs ++ [cfg]) (visit now tick acc cfg) := by
  have hsame (hnot : cfg.serviceID ∉ acc.2) :
      reached now tick acc.1 cfg = reached now tick s cfg := by
    rw [reached, reached, (h.rest _ hnot).2.1]
  rw [Schedule.visit]
  split_ifs with hskip
  · refine ⟨fun id cycle hid => ?_, fun id hid => ?_⟩
    · obtain ⟨hcycle, hnew, hrun, c, hc, hreached⟩ := h.due id cycle hid
      exact ⟨hcycle, hnew, hrun, c, mem_append_left _ hc, hreached⟩
    · obtain ⟨hcycle, hrun, hrest⟩ := h.rest id hid
      refine ⟨hcycle, hrun, fun c hc hkey => ?_⟩
      rcases mem_append.mp hc with hc | hc
      · exact hrest c hc hkey
      · cases mem_singleton.mp hc
        subst hkey
        exact (hsame hid).symm.trans (hskip.resolve_left hid)
  · obtain ⟨hnot, hreached⟩ := not_or.mp hskip
    rw [Bool.not_eq_false, hsame hnot] at hreached
    refine ⟨fun id cycle hid => ?_, fun id hid => ?_⟩
    · rcases lookup_insert_eq_some.mp hid with ⟨rfl, rfl⟩ | ⟨hkey, hid⟩
      · refine ⟨by rw [(h.rest _ hnot).1], lookup_insert _, lookup_insert _, cfg, ?_⟩
        exact ⟨mem_append_right _ mem_cons_self, rfl, hreached⟩
      · obtain ⟨hcycle, hnew, hrun, c, hc, hreached⟩ := h.due id cycle hid
        exact ⟨hcycle, (lookup_insert_ne hkey).trans hnew,
          (lookup_insert_ne hkey).trans hrun, c, mem_append_left _ hc, hreached⟩
    · rw [mem_insert, not_or] at hid
      obtain ⟨hcycle, hrun, hrest⟩ := h.rest id hid.2
      refine ⟨(lookup_insert_ne hid.1).trans hcycle,
        (lookup_insert_ne hid.1).trans hrun, fun c hc hkey => ?_⟩
      rcases mem_append.mp hc with hc | hc
      · exact hrest c hc hkey
      · cases mem_singleton.mp hc
        exact absurd hkey.symm hid.1

theorem visited_foldl :
    Visited now tick s configs (configs.foldl (Schedule.visit now tick) (s, ∅)) := by
  induction configs using reverseRecOn with
  | nil => exact visited_start
  | append_singleton configs cfg ih =>
    rw [foldl_append]
    exact ih.visit cfg

theorem mem_due_iff : id ∈ (dueServices now tick s configs).2 ↔
    ∃ cfg ∈ configs, cfg.serviceID = id ∧ reached now tick s cfg = true := by
  have h : Visited now tick s configs _ := visited_foldl
  constructor
  · intro hid
    obtain ⟨cycle, hcycle⟩ := Option.isSome_iff_exists.mp (lookup_isSome.mpr hid)
    exact (h.due id cycle hcycle).2.2.2
  · rintro ⟨cfg, hcfg, hkey, hreached⟩
    by_contra hnot
    rw [(h.rest id hnot).2.2 cfg hcfg hkey] at hreached
    cases hreached

theorem lastRun_of_due (hid : id ∈ (dueServices now tick s configs).2) :
    (dueServices now tick s configs).1.lastRun.lookup id = some now ∧
    ∃ cycle, (dueServices now tick s configs).1.cycle.lookup id = some cycle ∧
    cycle = (s.cycle.lookup id).getD 0 + 1 := by
  obtain ⟨cycle, hcycle⟩ := Option.isSome_iff_exists.mp (lookup_isSome.mpr hid)
  obtain ⟨hnext, hnew, hrun, cfg, hcfg, hkey, hreached⟩ := visited_foldl.due id cycle hcycle
  have hlive : configs.any (fun cfg => cfg.isEnabled && cfg.serviceID == id) = true := by
    rw [reached, Bool.and_eq_true] at hreached
    exact any_eq_true.mpr ⟨cfg, hcfg, by simp [hreached.1, hkey]⟩
  exact ⟨lookup_retain_eq_some.mpr ⟨hrun, hlive⟩, cycle,
    lookup_retain_eq_some.mpr ⟨hnew, hlive⟩, hnext⟩

theorem kept_of_not_due (hid : id ∉ (dueServices now tick s configs).2)
    (hlive : ∃ cfg ∈ configs, cfg.isEnabled = true ∧ cfg.serviceID = id) :
    (dueServices now tick s configs).1.cycle.lookup id = s.cycle.lookup id ∧
    (dueServices now tick s configs).1.lastRun.lookup id = s.lastRun.lookup id := by
  obtain ⟨cfg, hcfg, henabled, rfl⟩ := hlive
  have hany : configs.any (fun c => c.isEnabled && c.serviceID == cfg.serviceID) = true :=
    any_eq_true.mpr ⟨cfg, hcfg, by simp [henabled]⟩
  obtain ⟨hcycle, hrun, -⟩ := visited_foldl.rest _ hid
  simp only [dueServices, lookup_retain, hcycle, hrun, hany]
  exact ⟨by cases s.cycle.lookup cfg.serviceID <;> rfl,
    by cases s.lastRun.lookup cfg.serviceID <;> rfl⟩

/-- The cycles in which the service is due and its endpoints can be had. -/
def runs (id : ServiceID) : Schedule → List Tick → List (ℕ × List EndpointInfo)
  | _, [] => []
  | s, t :: ticks =>
    let r := dueServices t.now t.period s t.configs
    ((r.2.lookup id).bind (fun cycle =>
      ((t.resolved id).filter (fun infos => !infos.isEmpty)).map (cycle, ·))).toList ++
      runs id r.1 ticks

/-- A service whose lookup failed is due again at the next tick. -/
def RetriesNext (s : Schedule) (configs : List ServiceHealthCheckConfig) (tick : ℤ)
    (now next : Time) (resolved : ServiceID → Option (List EndpointInfo)) : Prop :=
  ∀ id ∈ (dueServices now tick s configs).2, resolved id = none →
    id ∈ (dueServices next tick (dueServices now tick s configs).1 configs).2

/-- A rotation counter advances only where checks are submitted. -/
def CountsRuns (s : Schedule) (configs : List ServiceHealthCheckConfig) (tick : ℤ) (now : Time)
    (resolved : ServiceID → Option (List EndpointInfo)) : Prop :=
  ∀ id, (s.cycle.lookup id).getD 0 <
      ((dueServices now tick s configs).1.cycle.lookup id).getD 0 →
    ∃ job ∈ submitted configs (dueServices now tick s configs).2 resolved, job.1.serviceID = id

theorem mem_submitted {due : GoMap ServiceID ℕ} {resolved : ServiceID →
    Option (List EndpointInfo)} : (∃ job ∈ submitted configs due resolved, job.1.serviceID = id) ↔
    (∃ cfg ∈ configs, cfg.serviceID = id) ∧ id ∈ due ∧ ∃ infos, resolved id = some infos ∧ infos ≠
    [] := by
  simp only [submitted, mem_filterMap, mem_dedup, mem_map,
    Option.bind_eq_some_iff, Option.map_eq_some_iff, Option.filter_eq_some_iff]
  constructor
  · rintro ⟨-, ⟨id', -, cfg, hfind, cycle, hcycle, infos, ⟨hinfos, hne⟩, rfl⟩, hid⟩
    have hcfg : cfg.serviceID = id' := by simpa using find?_some hfind
    obtain rfl : id' = id := hcfg.symm.trans hid
    exact ⟨⟨cfg, mem_of_find?_eq_some hfind, hid⟩,
      lookup_isSome.mp (by rw [hcycle]; rfl), infos, hinfos, by simpa using hne⟩
  · rintro ⟨⟨c, hc, hkey⟩, hdue, infos, hinfos, hne⟩
    obtain ⟨cycle, hcycle⟩ := Option.isSome_iff_exists.mp (lookup_isSome.mpr hdue)
    have hsome : (configs.find? (fun cfg => cfg.serviceID = id)).isSome = true :=
      find?_isSome.mpr ⟨c, hc, by simpa using hkey⟩
    obtain ⟨cfg, hfind⟩ := Option.isSome_iff_exists.mp hsome
    exact ⟨(cfg, cycle, infos), ⟨id, ⟨c, hc, hkey⟩, cfg, hfind, cycle, hcycle, infos,
      ⟨hinfos, by simpa using hne⟩, rfl⟩, by simpa using find?_some hfind⟩

theorem due_of_advanced
    (h : (s.cycle.lookup id).getD 0 < ((dueServices now tick s configs).1.cycle.lookup id).getD 0) :
    id ∈ (dueServices now tick s configs).2 := by
  by_contra hnot
  have hsame := (visited_foldl.rest id hnot).1
  simp only [dueServices, lookup_retain, hsame] at h
  cases hcycle : s.cycle.lookup id with
  | none => simp [hcycle] at h
  | some =>
    rw [hcycle, Option.filter_some] at h
    split at h
    · exact Nat.lt_irrefl _ h
    · exact Nat.not_lt_zero _ h

/-- A failed lookup is made up for at the next tick exactly if the interval of the service is over
by then, and the rotation stands still for none. -/
theorem failed_lookup_iff (s : Schedule) (configs : List ServiceHealthCheckConfig) (tick : ℤ)
    (now next : Time) (resolved : ServiceID → Option (List EndpointInfo)) :
    (RetriesNext s configs tick now next resolved ↔
      ∀ cfg ∈ configs, reached now tick s cfg = true → resolved cfg.serviceID = none →
        ∃ cfg' ∈ configs, cfg'.serviceID = cfg.serviceID ∧ cfg'.isEnabled = true ∧
          serviceCheckInterval cfg' - slack tick ≤ next - now) ∧
    (CountsRuns s configs tick now resolved ↔
      ∀ cfg ∈ configs, reached now tick s cfg = true →
        ∃ infos, resolved cfg.serviceID = some infos ∧ infos ≠ []) := by
  have hdue {cfg : ServiceHealthCheckConfig} (hcfg : cfg ∈ configs)
      (hreached : reached now tick s cfg = true) :
      cfg.serviceID ∈ (dueServices now tick s configs).2 :=
    mem_due_iff.mpr ⟨cfg, hcfg, rfl, hreached⟩
  have hagain (cfg : ServiceHealthCheckConfig)
      (hid : cfg.serviceID ∈ (dueServices now tick s configs).2) :
      reached next tick (dueServices now tick s configs).1 cfg = true ↔
        cfg.isEnabled = true ∧ serviceCheckInterval cfg - slack tick ≤ next - now := by
    simp [reached, (lastRun_of_due hid).1]
  constructor
  · constructor
    · intro h cfg hcfg hreached hnone
      have hid := hdue hcfg hreached
      obtain ⟨cfg', hcfg', hkey, hreached'⟩ := mem_due_iff.mp (h _ hid hnone)
      exact ⟨cfg', hcfg', hkey, (hagain cfg' (hkey ▸ hid)).mp hreached'⟩
    · intro h id hid hnone
      obtain ⟨cfg, hcfg, rfl, hreached⟩ := mem_due_iff.mp hid
      obtain ⟨cfg', hcfg', hkey, hover⟩ := h cfg hcfg hreached hnone
      exact mem_due_iff.mpr ⟨cfg', hcfg', hkey, (hagain cfg' (hkey ▸ hid)).mpr hover⟩
  · constructor
    · intro h cfg hcfg hreached
      obtain ⟨-, cycle, hcycle, hnext⟩ := lastRun_of_due (hdue hcfg hreached)
      have hjob := h cfg.serviceID (by rw [hcycle, hnext]; exact Nat.lt_succ_self _)
      exact (mem_submitted.mp hjob).2.2
    · intro h id hadvanced
      have hid := due_of_advanced hadvanced
      obtain ⟨cfg, hcfg, rfl, hreached⟩ := mem_due_iff.mp hid
      exact mem_submitted.mpr ⟨⟨cfg, hcfg, rfl⟩, hid, h cfg hcfg hreached⟩

section Intervals

variable {cfg : ServiceHealthCheckConfig} {first last prev : Time} {between : List Time}

/-- The schedule after calls at these times. -/
def after (tick : ℤ) (configs : List ServiceHealthCheckConfig) (s : Schedule)
    (times : List Time) : Schedule :=
  times.foldl (fun s now => (dueServices now tick s configs).1) s

/-- None of the calls at these times runs the service. -/
def Idle (id : ServiceID) (tick : ℤ) (configs : List ServiceHealthCheckConfig) :
    Schedule → List Time → Prop
  | _, [] => True
  | s, now :: times => id ∉ (dueServices now tick s configs).2 ∧
      Idle id tick configs (dueServices now tick s configs).1 times

theorem serviceCheckInterval_pos (cfg : ServiceHealthCheckConfig) :
    0 < serviceCheckInterval cfg := by
  rw [serviceCheckInterval]
  split_ifs with h
  · exact h
  · decide

theorem minCheckInterval_bounds (hcfg : cfg ∈ configs) (henabled : cfg.isEnabled = true) :
    0 < minCheckInterval configs ∧ minCheckInterval configs ≤ serviceCheckInterval cfg := by
  have hmem : serviceCheckInterval cfg ∈
      (configs.filter ServiceHealthCheckConfig.isEnabled).map serviceCheckInterval :=
    mem_map_of_mem (mem_filter.mpr ⟨hcfg, henabled⟩)
  obtain ⟨m, hm⟩ := Option.isSome_iff_exists.mp (isSome_min?_of_mem hmem)
  obtain ⟨hmin, hle⟩ := min?_eq_some_iff.mp hm
  obtain ⟨c, -, rfl⟩ := mem_map.mp hmin
  rw [minCheckInterval, hm]
  exact ⟨serviceCheckInterval_pos c, hle _ hmem⟩

theorem due_iff_of_lastRun (hcfg : cfg ∈ configs) (henabled : cfg.isEnabled = true)
    (hdistinct : (configs.map ServiceHealthCheckConfig.serviceID).Nodup)
    (hrun : s.lastRun.lookup cfg.serviceID = some first) :
    cfg.serviceID ∈ (dueServices now tick s configs).2 ↔
      serviceCheckInterval cfg - slack tick ≤ now - first := by
  rw [mem_due_iff]
  constructor
  · rintro ⟨c, hc, hkey, hreached⟩
    cases inj_on_of_nodup_map hdistinct hc hcfg hkey
    simpa [reached, henabled, hrun] using hreached
  · intro h
    exact ⟨cfg, hcfg, rfl, by simpa [reached, henabled, hrun] using h⟩

/-- Between two runs the time of the first stays the last run, so that each call compares
with it. -/
theorem gap_of_idle (hcfg : cfg ∈ configs) (henabled : cfg.isEnabled = true)
    (hdistinct : (configs.map ServiceHealthCheckConfig.serviceID).Nodup)
    (hrun : s.lastRun.lookup cfg.serviceID = some first)
    (hprev : prev - first < serviceCheckInterval cfg - slack tick)
    (hidle : Idle cfg.serviceID tick configs s between)
    (hlast : cfg.serviceID ∈ (dueServices last tick (after tick configs s between) configs).2) :
    serviceCheckInterval cfg - slack tick ≤ last - first ∧ ∀ d : ℤ,
      (prev :: (between ++ [last])).IsChain (fun a b => b - a ≤ d) →
        last - first < serviceCheckInterval cfg - slack tick + d := by
  induction between generalizing s prev with
  | nil =>
    refine ⟨(due_iff_of_lastRun hcfg henabled hdistinct hrun).mp hlast, fun d hchain => ?_⟩
    have hstep : last - prev ≤ d := by simpa using hchain
    omega
  | cons now times ih =>
    obtain ⟨hnot, hidle⟩ := hidle
    have hkept := (kept_of_not_due hnot ⟨cfg, hcfg, henabled, rfl⟩).2.trans hrun
    rw [due_iff_of_lastRun hcfg henabled hdistinct hrun, not_le] at hnot
    obtain ⟨hleast, hmost⟩ := ih hkept hnot hidle hlast
    exact ⟨hleast, fun d hchain => hmost d (isChain_cons_cons.mp hchain).2⟩

/-- Two consecutive runs of a service are its interval apart but for half a tick, and no further
than that and the time between two calls. -/
theorem runs_apart (s : Schedule) (configs : List ServiceHealthCheckConfig)
    (henabled : ∀ cfg ∈ configs, cfg.isEnabled = true)
    (hdistinct : (configs.map ServiceHealthCheckConfig.serviceID).Nodup)
    (cfg : ServiceHealthCheckConfig) (hcfg : cfg ∈ configs) (first last : Time)
    (between : List Time)
    (hfirst : cfg.serviceID ∈ (dueServices first (minCheckInterval configs) s configs).2)
    (hidle : Idle cfg.serviceID (minCheckInterval configs) configs
      (after (minCheckInterval configs) configs s [first]) between)
    (hlast : cfg.serviceID ∈ (dueServices last (minCheckInterval configs)
      (after (minCheckInterval configs) configs s (first :: between)) configs).2) :
    serviceCheckInterval cfg - minCheckInterval configs / 2 ≤ last - first ∧ ∀ d : ℤ,
      (first :: (between ++ [last])).IsChain (fun a b => b - a ≤ d) →
        last - first < serviceCheckInterval cfg - minCheckInterval configs / 2 + d := by
  obtain ⟨hpos, hle⟩ := minCheckInterval_bounds hcfg (henabled cfg hcfg)
  have hslack : slack (minCheckInterval configs) = minCheckInterval configs / 2 := by
    rw [slack, if_neg (not_le.mpr hpos)]
  rw [← hslack]
  exact gap_of_idle hcfg (henabled cfg hcfg) hdistinct (lastRun_of_due hfirst).1 (by omega) hidle
    hlast

end Intervals

end Schedule

open Duration in
def slowAndFast : List ServiceHealthCheckConfig :=
  [⟨"eth", 60 * second, none, none, []⟩, ⟨"sol", 10 * second, none, none, []⟩]

/-- After a failed lookup the slow service waits a whole interval, and its counter moves on. -/
theorem failed_lookup_costs_interval :
    let tick := minCheckInterval slowAndFast
    let first := Schedule.dueServices 0 tick ⟨∅, ∅⟩ slowAndFast
    tick = 10 * Duration.second ∧ first.1.cycle.lookup "eth" = some 1 ∧
      ¬Schedule.RetriesNext ⟨∅, ∅⟩ slowAndFast tick 0 (10 * Duration.second) (fun _ => none) ∧
      ¬Schedule.CountsRuns ⟨∅, ∅⟩ slowAndFast tick 0 (fun _ => none) := by
  refine ⟨by decide +kernel, by decide +kernel, fun h => ?_, fun h => ?_⟩
  · exact absurd (h "eth" (by decide +kernel) rfl) (by decide +kernel)
  · obtain ⟨job, hjob, -⟩ := h "eth" (by decide +kernel)
    have hnone : Schedule.submitted slowAndFast (Schedule.dueServices 0
        (minCheckInterval slowAndFast) ⟨∅, ∅⟩ slowAndFast).2 (fun _ => none) = [] := by
      simp [Schedule.submitted]
    rw [hnone] at hjob
    cases hjob

/-- The fast service runs at the start and again ten seconds later, at the third call. -/
theorem fast_runs_apart :
    let tick := minCheckInterval slowAndFast
    "sol" ∈ (Schedule.dueServices 0 tick ⟨∅, ∅⟩ slowAndFast).2 ∧
      "sol" ∈ (Schedule.dueServices (10 * Duration.second) tick
        (Schedule.after tick slowAndFast ⟨∅, ∅⟩ [0, 4 * Duration.second]) slowAndFast).2 ∧
      10 * Duration.second - tick / 2 ≤ (10 * Duration.second : ℤ) - 0 ∧
      (10 * Duration.second : ℤ) - 0 < 10 * Duration.second - tick / 2 + 6 * Duration.second := by
  have hfirst : "sol" ∈ (Schedule.dueServices 0 (minCheckInterval slowAndFast) ⟨∅, ∅⟩
      slowAndFast).2 := by decide +kernel
  have hlast : "sol" ∈ (Schedule.dueServices (10 * Duration.second) (minCheckInterval slowAndFast)
      (Schedule.after (minCheckInterval slowAndFast) slowAndFast ⟨∅, ∅⟩
        [0, 4 * Duration.second]) slowAndFast).2 := by decide +kernel
  obtain ⟨hleast, hmost⟩ := Schedule.runs_apart ⟨∅, ∅⟩ slowAndFast (by decide) (by decide)
    ⟨"sol", 10 * Duration.second, none, none, []⟩ (mem_cons_of_mem _ mem_cons_self) 0
    (10 * Duration.second) [4 * Duration.second] hfirst ⟨by decide +kernel, trivial⟩ hlast
  exact ⟨hfirst, hlast, hleast, hmost (6 * Duration.second) (by simp [Duration.second])⟩

end PathGateway
