import Mathlib.Data.List.Basic
import PathGateway.Endpoint

/-! The health checks of the services, put together from three layers: what was fetched, the local
settings, and the unified ones. A service that the unified ones disable is left out of them, and
an entry that they make does not say whether it is enabled. -/

namespace PathGateway

open Option List

inductive CheckType where
  | jsonRPC
  | rest
  | websocket
  | grpc
  deriving DecidableEq

structure HealthCheckConfig where
  name : String
  type : CheckType
  enabled : Option Bool
  deriving DecidableEq

def HealthCheckConfig.isEnabled (c : HealthCheckConfig) : Bool := c.enabled.getD true

structure ServiceHealthCheckConfig where
  serviceID : ServiceID
  checkInterval : ℤ
  enabled : Option Bool
  syncAllowance : Option ℤ
  checks : List HealthCheckConfig

def ServiceHealthCheckConfig.isEnabled (c : ServiceHealthCheckConfig) : Bool :=
  c.enabled.getD true

section MergeBy

variable {α κ : Type*} [DecidableEq κ] (key : α → κ)

/-- The entry that a map filled from the list holds. -/
def lastBy (entries : List α) (k : κ) : Option α := entries.reverse.find? (fun e => key e = k)

/-- Entries of the first list, those with a counterpart combined with it, and the rest of the
second list. -/
def mergeBy (combine : α → α → α) (xs ys : List α) : List α :=
  xs.map (fun x => (lastBy key ys (key x)).elim x (combine x)) ++
    ys.filter (fun y => key y ∉ xs.map key)

variable {key} {xs ys : List α} {k : κ}

theorem lastBy_eq_some {y : α} (h : lastBy key ys k = some y) : y ∈ ys ∧ key y = k :=
  ⟨mem_reverse.mp (mem_of_find?_eq_some h), by simpa using find?_some h⟩

theorem mem_mergeBy {combine : α → α → α} {x : α} :
    x ∈ mergeBy key combine xs ys ↔ (∃ e ∈ xs, (lastBy key ys (key e)).elim e (combine e) = x) ∨
      x ∈ ys ∧ ∀ e ∈ xs, key e ≠ key x := by
  simp [mergeBy]

end MergeBy

/-- A check of the second list replaces those of its name. -/
def mergeHealthCheckConfigs (external locals : List HealthCheckConfig) : List HealthCheckConfig :=
  mergeBy HealthCheckConfig.name (fun _ c => c) external locals

def mergeServiceConfigs (external locals : ServiceHealthCheckConfig) :
    ServiceHealthCheckConfig where
  serviceID := locals.serviceID
  checkInterval := if 0 < locals.checkInterval then locals.checkInterval else external.checkInterval
  enabled := locals.enabled <|> external.enabled
  syncAllowance := locals.syncAllowance <|> external.syncAllowance
  checks := mergeHealthCheckConfigs external.checks locals.checks

def mergeConfigs (external locals : List ServiceHealthCheckConfig) :
    List ServiceHealthCheckConfig :=
  mergeBy ServiceHealthCheckConfig.serviceID mergeServiceConfigs external locals

/-- The health checks of a service in the unified settings, with the defaults applied. -/
structure UnifiedHealthChecks where
  enabled : Option Bool
  interval : ℤ
  syncAllowance : Option ℤ
  locals : List HealthCheckConfig

/-- The layers. The fetched entries count only where a source is configured, and none of the first
two does without a configuration. -/
structure HealthCheckLayers where
  external : List ServiceHealthCheckConfig
  locals : List ServiceHealthCheckConfig
  services : List ServiceID
  merged : ServiceID → Option UnifiedHealthChecks
  perServiceExternal : ServiceID → List HealthCheckConfig

namespace HealthCheckLayers

variable (l : HealthCheckLayers)

variable (id : ServiceID)

def unifiedChecks (u : UnifiedHealthChecks) : List HealthCheckConfig :=
  if l.perServiceExternal id ≠ [] ∧ u.locals ≠ [] then
    mergeHealthCheckConfigs (l.perServiceExternal id) u.locals
  else if u.locals ≠ [] then u.locals
  else l.perServiceExternal id

def unifiedEntry : Option ServiceHealthCheckConfig :=
  ((l.merged id).filter (fun u => u.enabled ≠ some false ∧ l.unifiedChecks id u ≠ [])).map
    (fun u =>
      { serviceID := id
        checkInterval :=
          (((lastBy ServiceHealthCheckConfig.serviceID l.locals id).map
            ServiceHealthCheckConfig.checkInterval).filter
              (fun i => decide (0 < i))).getD u.interval
        enabled := none
        syncAllowance := u.syncAllowance
        checks := l.unifiedChecks id u })

def getUnifiedServicesHealthChecks : List ServiceHealthCheckConfig :=
  l.services.filterMap l.unifiedEntry

def baseConfigs : List ServiceHealthCheckConfig :=
  if l.locals = [] then l.external
  else if l.external = [] then l.locals
  else mergeConfigs l.external l.locals

def getServiceConfigs : List ServiceHealthCheckConfig :=
  if l.getUnifiedServicesHealthChecks = [] then l.baseConfigs
  else if l.baseConfigs = [] then l.getUnifiedServicesHealthChecks
  else mergeConfigs l.baseConfigs l.getUnifiedServicesHealthChecks

def unifiedEnabled : Option Bool :=
  if id ∈ l.services then (l.merged id).bind UnifiedHealthChecks.enabled else none

def entryEnabled (entries : List ServiceHealthCheckConfig) (id : ServiceID) : Option Bool :=
  (lastBy ServiceHealthCheckConfig.serviceID entries id).bind ServiceHealthCheckConfig.enabled

/-- What the highest layer says that says anything. -/
def effective : Bool :=
  (l.unifiedEnabled id <|> entryEnabled l.locals id <|> entryEnabled l.external id).getD true

/-- Every entry of the service is enabled as the highest layer says. -/
def Precedence : Prop := ∀ c ∈ l.getServiceConfigs, c.serviceID = id → c.isEnabled = l.effective id

/-- Every fetched entry of the service under its local one, or else every local entry, says the
same as the highest layer. -/
def Agree : Prop :=
  (∀ e ∈ l.external, e.serviceID = id →
    (entryEnabled l.locals id <|> e.enabled).getD true = l.effective id) ∧
  ((∀ e ∈ l.external, e.serviceID ≠ id) →
    ∀ c ∈ l.locals, c.serviceID = id → c.isEnabled = l.effective id)

variable {l} {id : ServiceID} {c : ServiceHealthCheckConfig}

theorem baseConfigs_eq : l.baseConfigs = mergeConfigs l.external l.locals := by
  rw [baseConfigs]
  split
  · rename_i h
    simp [h, mergeConfigs, mergeBy, lastBy]
  · split_ifs with h
    · simp [h, mergeConfigs, mergeBy]
    · rfl

theorem getServiceConfigs_eq :
    l.getServiceConfigs = mergeConfigs l.baseConfigs l.getUnifiedServicesHealthChecks := by
  rw [getServiceConfigs]
  split
  · rename_i h
    simp [h, mergeConfigs, mergeBy, lastBy]
  · split_ifs with h
    · simp [h, mergeConfigs, mergeBy]
    · rfl

theorem mem_unified (h : c ∈ l.getUnifiedServicesHealthChecks) :
    c.enabled = none ∧ l.unifiedEnabled c.serviceID ≠ some false := by
  obtain ⟨id, hid, hentry⟩ := mem_filterMap.mp h
  obtain ⟨u, hu, rfl⟩ := map_eq_some_iff.mp hentry
  obtain ⟨hmerged, henabled⟩ := filter_eq_some_iff.mp hu
  refine ⟨rfl, ?_⟩
  simp only [unifiedEnabled, hid, if_true, hmerged, bind_some]
  exact (of_decide_eq_true henabled).1

theorem serviceID_combined (e : ServiceHealthCheckConfig) (ys : List ServiceHealthCheckConfig) :
    ((lastBy ServiceHealthCheckConfig.serviceID ys e.serviceID).elim e
    (mergeServiceConfigs e)).serviceID = e.serviceID := by
  cases h : lastBy ServiceHealthCheckConfig.serviceID ys e.serviceID with
  | none => rfl
  | some => exact (lastBy_eq_some h).2

theorem exists_base (h : ∃ c ∈ l.locals ++ l.external, c.serviceID = id) :
    ∃ c ∈ l.baseConfigs, c.serviceID = id := by
  obtain ⟨c, hc, rfl⟩ := h
  rw [baseConfigs_eq, mergeConfigs]
  by_cases hshared : ∃ e ∈ l.external, e.serviceID = c.serviceID
  · obtain ⟨e, he, hid⟩ := hshared
    exact ⟨_, mem_mergeBy.mpr (.inl ⟨e, he, rfl⟩), (serviceID_combined e _).trans hid⟩
  · rcases mem_append.mp hc with hc | hc
    · exact ⟨c, mem_mergeBy.mpr (.inr ⟨hc, fun e he hid => hshared ⟨e, he, hid⟩⟩), rfl⟩
    · exact absurd ⟨c, hc, rfl⟩ hshared

theorem enabled_combined (e : ServiceHealthCheckConfig) (ys : List ServiceHealthCheckConfig) :
    ((lastBy ServiceHealthCheckConfig.serviceID ys e.serviceID).elim e
    (mergeServiceConfigs e)).enabled = (entryEnabled ys e.serviceID <|> e.enabled) := by
  rw [entryEnabled]
  cases lastBy ServiceHealthCheckConfig.serviceID ys e.serviceID with
  | none | some => rfl

theorem forall_mergeConfigs {xs ys : List ServiceHealthCheckConfig} {b : Bool} :
    (∀ c ∈ mergeConfigs xs ys, c.serviceID = id → c.isEnabled = b) ↔
    (∀ e ∈ xs, e.serviceID = id → (entryEnabled ys id <|> e.enabled).getD true = b) ∧
    ((∀ e ∈ xs, e.serviceID ≠ id) → ∀ c ∈ ys, c.serviceID = id → c.isEnabled = b) := by
  simp only [mergeConfigs, mem_mergeBy]
  constructor
  · refine fun h => ⟨fun e he hid => ?_, fun hother c hc hid => ?_⟩
    · have hc := h _ (.inl ⟨e, he, rfl⟩) ((serviceID_combined e ys).trans hid)
      rwa [ServiceHealthCheckConfig.isEnabled, enabled_combined, hid] at hc
    · exact h c (.inr ⟨hc, hid.symm ▸ hother⟩) hid
  · rintro ⟨hxs, hys⟩ c (⟨e, he, rfl⟩ | ⟨hc, hother⟩) hid
    · rw [serviceID_combined] at hid
      rw [ServiceHealthCheckConfig.isEnabled, enabled_combined, hid]
      exact hxs e he hid
    · exact hys (hid ▸ hother) c hc hid

theorem entryEnabled_eq_none {entries : List ServiceHealthCheckConfig}
    (h : ∀ c ∈ entries, c.serviceID = id → c.enabled = none) : entryEnabled entries id = none := by
  rw [entryEnabled]
  cases hlast : lastBy ServiceHealthCheckConfig.serviceID entries id with
  | none => rfl
  | some c => exact h c (lastBy_eq_some hlast).1 (lastBy_eq_some hlast).2

theorem effective_of_unified (hc : c ∈ l.getUnifiedServicesHealthChecks) (hid : c.serviceID = id)
    (hother : ∀ e ∈ l.baseConfigs, e.serviceID ≠ id) : c.isEnabled = l.effective id := by
  have habsent (x : ServiceHealthCheckConfig) (hx : x ∈ l.locals ++ l.external)
      (hkey : x.serviceID = id) : x.enabled = none := by
    obtain ⟨e, he, hsame⟩ := exists_base ⟨x, hx, hkey⟩
    exact absurd hsame (hother e he)
  obtain ⟨hopen, hunified⟩ := mem_unified hc
  rw [effective, ServiceHealthCheckConfig.isEnabled, hopen,
    entryEnabled_eq_none fun x hx => habsent x (mem_append_left _ hx),
    entryEnabled_eq_none fun x hx => habsent x (mem_append_right _ hx)]
  rw [hid] at hunified
  cases hb : l.unifiedEnabled id with
  | none => rfl
  | some b =>
    cases b
    · exact absurd hb hunified
    · rfl

/-- Precedence holds for a service exactly if the layers below do not contradict the highest. -/
theorem precedence_iff (l : HealthCheckLayers) (id : ServiceID) : l.Precedence id ↔ l.Agree id := by
  have hunified : entryEnabled l.getUnifiedServicesHealthChecks id = none :=
    entryEnabled_eq_none fun c hc _ => (mem_unified hc).1
  calc l.Precedence id
      ↔ ∀ c ∈ l.baseConfigs, c.serviceID = id → c.isEnabled = l.effective id := by
        rw [Precedence, getServiceConfigs_eq, forall_mergeConfigs, hunified]
        exact and_iff_left fun hother c hc hid => effective_of_unified hc hid hother
    _ ↔ l.Agree id := by rw [baseConfigs_eq, forall_mergeConfigs, Agree]

end HealthCheckLayers

def blockNumberCheck : HealthCheckConfig := ⟨"eth_blockNumber", .jsonRPC, none⟩

/-- Local checks for a service that the unified settings disable. -/
def checkedLocally : HealthCheckLayers :=
  ⟨[], [⟨"eth", 0, none, none, [blockNumberCheck]⟩], ["eth"],
    fun _ => some ⟨some false, 0, none, []⟩, fun _ => []⟩

/-- The service is disabled in the unified settings, and its local checks run. -/
theorem disabled_service_checked :
    checkedLocally.getServiceConfigs.map (fun c => (c.serviceID, c.isEnabled, c.checks)) =
        [("eth", true, [blockNumberCheck])] ∧
      checkedLocally.unifiedEnabled "eth" = some false ∧
      ¬checkedLocally.Precedence "eth" := by
  refine ⟨by decide, by decide, fun h => ?_⟩
  have hc := h ⟨"eth", 0, none, none, [blockNumberCheck]⟩ (by
    simp [checkedLocally, HealthCheckLayers.getServiceConfigs, HealthCheckLayers.baseConfigs,
      HealthCheckLayers.getUnifiedServicesHealthChecks, HealthCheckLayers.unifiedEntry]) rfl
  exact absurd hc (by decide)

end PathGateway
