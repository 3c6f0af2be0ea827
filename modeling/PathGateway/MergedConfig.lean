import Mathlib.Data.Rat.Defs
import Mathlib.Order.Basic
import PathGateway.Endpoint
import PathGateway.Machine

/-! A service's configuration over the defaults. The merged copy shares the override records with
the stored configuration, so that what is filled in on one side is filled in on the other. -/

namespace PathGateway

open Option Machine

namespace UnifiedConfig

/-- The override records of a service. -/
inductive Override where
  | reputation
  | tieredSelection
  | probation
  | latency
  | retry
  | observationPipeline
  | concurrency
  | timeout
  | healthChecks
  deriving DecidableEq

inductive Field where
  | serviceType | rpcTypes | latencyProfile | externalBlockSources
  | reputationEnabled | initialScore | minThreshold | keyGranularity | recoveryTimeout
  | tieredSelectionEnabled | tier1Threshold | tier2Threshold
  | probationEnabled | probationThreshold | trafficPercent | recoveryMultiplier
  | latencyEnabled | targetMs | penaltyWeight
  | retryEnabled | maxRetries | retryOn5xx | retryOnTimeout | retryOnConnection
  | maxRetryLatency | connectTimeout | hedgeDelay | hedgeMaxBatchSize
  | observationPipelineEnabled | sampleRate
  | maxParallelEndpoints | maxBatchPayloads
  | relayTimeout
  | healthChecksEnabled | interval | syncAllowance | externalChecks | localChecks
  deriving DecidableEq

inductive Value where
  | flag (b : Bool)
  | number (x : ℚ)
  | text (s : String)
  | items (xs : List String)
  deriving DecidableEq

def Value.isPositive : Value → Bool
  | number x => decide (0 < x)
  | _ => false

def Value.isFlag : Value → Bool
  | flag _ => true
  | _ => false

namespace Field

/-- A field of the service itself has no section. -/
def record : Field → Option Override
  | serviceType | rpcTypes | latencyProfile | externalBlockSources => none
  | reputationEnabled | initialScore | minThreshold | keyGranularity | recoveryTimeout =>
    some .reputation
  | tieredSelectionEnabled | tier1Threshold | tier2Threshold => some .tieredSelection
  | probationEnabled | probationThreshold | trafficPercent | recoveryMultiplier => some .probation
  | latencyEnabled | targetMs | penaltyWeight => some .latency
  | retryEnabled | maxRetries | retryOn5xx | retryOnTimeout | retryOnConnection
  | maxRetryLatency | connectTimeout | hedgeDelay | hedgeMaxBatchSize => some .retry
  | observationPipelineEnabled | sampleRate => some .observationPipeline
  | maxParallelEndpoints | maxBatchPayloads => some .concurrency
  | relayTimeout => some .timeout
  | healthChecksEnabled | interval | syncAllowance | externalChecks | localChecks =>
    some .healthChecks

/-- Whether an unset field of a record takes this default. -/
def inherits (f : Field) (v : Value) : Bool :=
  match f with
  | targetMs | penaltyWeight | interval => v.isPositive
  | localChecks => false
  | _ => true

end Field

/-- The values that are set. An empty text, an empty list and a plain number 0 count as unset. -/
abbrev Values := Field → Option Value

structure ServiceConfig where
  present : Override → Bool
  value : Values

namespace ServiceConfig

variable (defaults : Values) (svc : ServiceConfig)

/-- `GetMergedServiceConfig`, as to one field of the copy. -/
def mergedValue : Values := fun f =>
  match f.record with
  | none => (svc.value f).or (defaults f)
  | some record =>
    if svc.present record then (svc.value f).or ((defaults f).filter f.inherits) else defaults f

def merged : ServiceConfig where
  present _ := true
  value := svc.mergedValue defaults

/-- What the merge leaves behind: the records are shared, the fields outside of them are not. -/
def filled : ServiceConfig where
  present := svc.present
  value f := if f.record.any svc.present then svc.mergedValue defaults f else svc.value f

def withSyncAllowance (syncAllowance : ℚ) (svc : ServiceConfig) : ServiceConfig where
  present := Function.update svc.present .healthChecks true
  value f :=
    if f = .syncAllowance then some (.number syncAllowance)
    else if f.record = some .healthChecks ∧ svc.present .healthChecks = false then none
    else svc.value f

end ServiceConfig

/-- A nil value is absent, and so is a field that the parent does not have. -/
structure ParentConfigDefaults where
  value : Values
  localHealthChecks : List (ServiceID × Option ℚ)

def defaultHedgeMaxBatchSize : ℚ := 10

def ParentConfigDefaults.over (parent : ParentConfigDefaults) (defaults : Values) :
    Values := fun f =>
  if f = .hedgeMaxBatchSize then
    ((parent.value f).or (defaults f)).or (some (.number defaultHedgeMaxBatchSize))
  else ((parent.value f).filter (fun v => v.isFlag || v.isPositive)).or (defaults f)

/-- Only the first service of an id is ever looked at. -/
structure UnifiedServicesConfig where
  defaults : Values
  services : ServiceID → Option ServiceConfig

namespace UnifiedServicesConfig

variable (c : UnifiedServicesConfig) (t : Traced) (id : ServiceID)

def getMergedServiceConfig : Option ServiceConfig :=
  (c.services id).map (ServiceConfig.merged c.defaults)

/-- The configuration after a call of `GetMergedServiceConfig`. -/
def afterMerge : UnifiedServicesConfig :=
  { c with services :=
      Function.update c.services id ((c.services id).map (ServiceConfig.filled c.defaults)) }

def setServiceSyncAllowance (syncAllowance : ℚ) : UnifiedServicesConfig :=
  let svc := (c.services id).getD ⟨fun _ => false, fun _ => none⟩
  { c with services := Function.update c.services id (some (svc.withSyncAllowance syncAllowance)) }

def setSyncAllowances (configs : List (ServiceID × Option ℚ)) : UnifiedServicesConfig :=
  configs.foldl (fun c config =>
    (config.2.filter (fun n => decide (0 < n))).elim c (c.setServiceSyncAllowance config.1)) c

def setDefaultsFromParent (parent : ParentConfigDefaults) : UnifiedServicesConfig :=
  setSyncAllowances { c with defaults := parent.over c.defaults } parent.localHealthChecks

inductive Call where
  | getMergedServiceConfig (id : ServiceID)
  | setServiceSyncAllowance (id : ServiceID) (syncAllowance : ℚ)
  | setDefaultsFromParent (parent : ParentConfigDefaults)

/-- The configuration as it is stored, and as it would be if merging left no trace. -/
structure Traced where
  configured : UnifiedServicesConfig
  stored : UnifiedServicesConfig

def Traced.map (f : UnifiedServicesConfig → UnifiedServicesConfig) (t : Traced) : Traced :=
  ⟨f t.configured, f t.stored⟩

def step : Call → Option Traced
  | .getMergedServiceConfig id => some { t with stored := t.stored.afterMerge id }
  | .setServiceSyncAllowance id n => some (t.map (·.setServiceSyncAllowance id n))
  | .setDefaultsFromParent parent => some (t.map (·.setDefaultsFromParent parent))

/-- A default that was filled into a record of a service is not changed. -/
def Settled : Call → Prop
  | .setDefaultsFromParent parent => ∀ id own svc, t.configured.services id = some own →
    t.stored.services id = some svc → ∀ f, svc.value f ≠ own.value f →
      parent.over t.stored.defaults f = t.stored.defaults f
  | _ => True

/-- The stored values of a service are its own, or defaults that fill the gaps of a record. -/
structure Mirrors (defaults : Values) (own svc : ServiceConfig) : Prop where
  present : svc.present = own.present
  value : ∀ f, svc.value f = own.value f ∨ f.record.any own.present = true ∧
    own.value f = none ∧ svc.value f = (defaults f).filter f.inherits

structure Agrees (t : Traced) : Prop where
  defaults : t.stored.defaults = t.configured.defaults
  services : ∀ id, Option.Rel (Mirrors t.stored.defaults) (t.configured.services id)
    (t.stored.services id)

section Mirrors

variable {defaults : Values} {own svc : ServiceConfig}

theorem mergedValue_of_record {f : Field} (h : f.record.any svc.present = true) :
    svc.mergedValue defaults f = (svc.value f).or ((defaults f).filter f.inherits) := by
  obtain ⟨record, hrecord, hpresent⟩ := (any_eq_true _ _).mp h
  simp [ServiceConfig.mergedValue, hrecord, hpresent]

theorem Mirrors.mergedValue (h : Mirrors defaults own svc) :
    svc.mergedValue defaults = own.mergedValue defaults := by
  funext f
  rcases h.value f with heq | ⟨hrecord, hnone, hfilled⟩
  · simp only [ServiceConfig.mergedValue, heq, h.present]
  · rw [mergedValue_of_record hrecord, mergedValue_of_record (h.present ▸ hrecord), hnone, hfilled,
      Option.or_self, Option.none_or]

theorem Mirrors.filled (h : Mirrors defaults own svc) :
    Mirrors defaults own (svc.filled defaults) := by
  refine ⟨h.present, fun f => ?_⟩
  simp only [ServiceConfig.filled, h.present]
  split
  case isFalse hrecord => exact .inl ((h.value f).resolve_right fun hf => hrecord hf.1)
  case isTrue hrecord =>
    rw [h.mergedValue, mergedValue_of_record hrecord]
    cases hown : own.value f with
    | none => exact .inr ⟨hrecord, rfl, none_or⟩
    | some v => exact .inl some_or

theorem Mirrors.withSyncAllowance (h : Mirrors defaults own svc) (n : ℚ) :
    Mirrors defaults (own.withSyncAllowance n) (svc.withSyncAllowance n) := by
  refine ⟨by simp only [ServiceConfig.withSyncAllowance, h.present], fun f => ?_⟩
  simp only [ServiceConfig.withSyncAllowance, h.present]
  split
  · exact .inl rfl
  · split
    · exact .inl rfl
    · refine (h.value f).imp_right fun hf => ⟨?_, hf.2⟩
      obtain ⟨record, hrecord, hpresent⟩ := (any_eq_true _ _).mp hf.1
      by_cases hr : record = .healthChecks <;> simp [hrecord, hr, hpresent]

theorem Mirrors.settle {defaults' : Values} (h : Mirrors defaults own svc)
    (hsettled : ∀ f, svc.value f ≠ own.value f → defaults' f = defaults f) :
    Mirrors defaults' own svc := by
  refine ⟨h.present, fun f => ?_⟩
  by_cases heq : svc.value f = own.value f
  · exact .inl heq
  · exact .inr (hsettled f heq ▸ (h.value f).resolve_left heq)

theorem Mirrors.refl (defaults : Values) (own : ServiceConfig) : Mirrors defaults own own :=
  ⟨rfl, fun _ => .inl rfl⟩

end Mirrors

variable {t t' : Traced} {call : Call}

theorem Agrees.setServiceSyncAllowance (h : Agrees t) (id : ServiceID) (n : ℚ) :
    Agrees (t.map (·.setServiceSyncAllowance id n)) := by
  refine ⟨h.defaults, fun id' => ?_⟩
  simp only [Traced.map, UnifiedServicesConfig.setServiceSyncAllowance]
  by_cases hid : id' = id
  · subst hid
    simp only [Function.update_self]
    have hrel := h.services id'
    generalize t.configured.services id' = own, t.stored.services id' = svc at hrel
    cases hrel with
    | none => exact .some (.refl _ _)
    | some hmirrors => exact .some (hmirrors.withSyncAllowance n)
  · simpa only [Function.update_of_ne hid] using h.services id'

theorem Agrees.setSyncAllowances (h : Agrees t) (configs : List (ServiceID × Option ℚ)) :
    Agrees (t.map (·.setSyncAllowances configs)) := by
  induction configs generalizing t with
  | nil => exact h
  | cons config configs ih =>
    cases hn : config.2.filter (fun n => decide (0 < n)) with
    | none => simpa [setSyncAllowances, hn] using ih h
    | some n =>
      simpa [setSyncAllowances, hn, Traced.map] using ih (h.setServiceSyncAllowance config.1 n)

theorem Agrees.setDefaultsFromParent (h : Agrees t) (parent : ParentConfigDefaults)
    (hsettled : Settled t (.setDefaultsFromParent parent)) :
    Agrees (t.map (·.setDefaultsFromParent parent)) := by
  have hdefaults : Agrees (t.map fun c => { c with defaults := parent.over c.defaults }) := by
    refine ⟨congrArg parent.over h.defaults, fun id => ?_⟩
    have hrel := h.services id
    have hid := hsettled id
    simp only [Traced.map]
    generalize t.configured.services id = own, t.stored.services id = svc at hrel hid
    cases hrel with
    | none => exact .none
    | some hmirrors => exact .some (hmirrors.settle (hid _ _ rfl rfl))
  exact hdefaults.setSyncAllowances parent.localHealthChecks

theorem Agrees.step (h : Agrees t) (hsettled : Settled t call) (hstep : step t call = some t') :
    Agrees t' := by
  cases call with
  | getMergedServiceConfig id =>
    cases hstep
    refine ⟨h.defaults, fun id' => ?_⟩
    simp only [afterMerge]
    by_cases hid : id' = id
    · subst hid
      have hrel := h.services id'
      rw [Function.update_self]
      generalize t.configured.services id' = own, t.stored.services id' = svc at hrel
      cases hrel with
      | none => exact .none
      | some hmirrors => exact .some hmirrors.filled
    · simpa only [Function.update_of_ne hid] using h.services id'
  | setServiceSyncAllowance id n =>
    cases hstep
    exact h.setServiceSyncAllowance id n
  | setDefaultsFromParent parent =>
    cases hstep
    exact h.setDefaultsFromParent parent hsettled

/-- As long as no default changes that was filled into a record, merging leaves no trace in what
is read later. -/
theorem merging_unnoticed (c : UnifiedServicesConfig) (calls : List Call) (t : Traced)
    (hsettled : Machine.Meets step Settled ⟨c, c⟩ calls)
    (hrun : run step ⟨c, c⟩ calls = some t) (id : ServiceID) :
    t.stored.getMergedServiceConfig id = t.configured.getMergedServiceConfig id := by
  have hinit : Agrees ⟨c, c⟩ := ⟨rfl, fun id => by
    cases c.services id with
    | none => exact .none
    | some own => exact .some (.refl _ _)⟩
  have hagrees := invariant (fun _ _ _ => Agrees.step) hinit hsettled hrun
  have hrel := hagrees.services id
  simp only [getMergedServiceConfig, ← hagrees.defaults]
  generalize t.configured.services id = own, t.stored.services id = svc at hrel
  cases hrel with
  | none => rfl
  | some hmirrors => simp only [map_some, ServiceConfig.merged, hmirrors.mergedValue]

def tieredService : ServiceConfig where
  present := (· == .tieredSelection)
  value f := if f = .tieredSelectionEnabled then some (.flag true) else none

def tieredConfig : UnifiedServicesConfig where
  defaults f := if f = .tier1Threshold then some (.number 70) else none
  services id := if id = "eth" then some tieredService else none

/-- The flags of the parent are all off. -/
def strictParent : ParentConfigDefaults where
  value
    | .tier1Threshold => some (.number 90)
    | .tieredSelectionEnabled | .probationEnabled | .retryEnabled | .retryOn5xx | .retryOnTimeout
    | .retryOnConnection | .observationPipelineEnabled | .healthChecksEnabled => some (.flag false)
    | _ => none
  localHealthChecks := [("eth", some 5), ("base", none)]

def tier1Threshold (c : UnifiedServicesConfig) : Option Value :=
  (c.getMergedServiceConfig "eth").bind (fun svc => svc.value .tier1Threshold)

theorem parent_before_merge :
    ∃ t, run step ⟨tieredConfig, tieredConfig⟩
        [.setDefaultsFromParent strictParent, .getMergedServiceConfig "eth"] = some t ∧
      t.stored.getMergedServiceConfig "eth" = t.configured.getMergedServiceConfig "eth" := by
  have hsettled : Machine.Meets step Settled ⟨tieredConfig, tieredConfig⟩
      [.setDefaultsFromParent strictParent, .getMergedServiceConfig "eth"] := by
    refine ⟨fun id own svc hown hsvc f hne => absurd ?_ hne, fun _ _ => ⟨trivial, ?_⟩⟩
    · rw [some.inj (hsvc.symm.trans hown)]
    · exact fun _ _ => trivial
  exact ⟨_, rfl, merging_unnoticed tieredConfig _ _ hsettled rfl "eth"⟩

theorem parent_after_merge :
    ∃ t, run step ⟨tieredConfig, tieredConfig⟩
        [.getMergedServiceConfig "eth", .setDefaultsFromParent strictParent] = some t ∧
      tier1Threshold t.stored = some (.number 70) ∧
      tier1Threshold t.configured = some (.number 90) :=
  ⟨_, rfl, by decide, by decide⟩

end UnifiedServicesConfig

end UnifiedConfig

end PathGateway
