import Mathlib.Algebra.Order.BigOperators.Group.List
import Mathlib.Algebra.Order.Ring.Nat
import Mathlib.Algebra.Order.Ring.Rat
import Mathlib.Data.Finset.Image
import Mathlib.Data.List.GetD
import PathGateway.Draws
import PathGateway.RetryDomains

/-! Random choice among endpoints that have passed every filter. Endpoints are grouped by
operator and by backend, a backend's weight is the number of its registrations up to a cap, and
an operator's share of the picks may be capped. Shares are exact rationals. -/

namespace PathGateway

open List Option

def extractTLDFromEndpointAddr (net : NetLib) (addr : String) : String :=
  let embedded := (addr.toList.tails.find? (fun t => "http".toList.isPrefixOf t)).bind
    (fun t => extractDomainOrHost net (String.ofList t))
  let parts := ((addr.toList.splitOnP (fun c => c == '-' || c == '_' || c == ' ')).filter
    (· ≠ [])).map String.ofList
  let domainLike := parts.filter
    (fun part => GoStrings.contains part "." && !GoStrings.hasPrefix part "http")
  (((extractDomainOrHost net addr).or embedded).or
    (domainLike.findSome? (fun part => extractDomainOrHost net ("https://" ++ part)))).getD ""

def getEndpointTLDs (net : NetLib) (endpoints : List EndpointAddr) : GoMap EndpointAddr String :=
  GoMap.build (fun addr => some (extractTLDFromEndpointAddr net addr)) endpoints

namespace Selector

structure ServiceSelectionSettings where
  backendWeightCap : Int
  maxOperatorShare : ℚ

structure SelectionSettings where
  dedupeOperatorShareByBackendURL : Bool := true
  backendWeightCap : Int := 0
  applyOperatorCapOnBackendPick : Bool := true
  capInfeasibleForcesUniform : Bool := false
  defaultMaxOperatorShare : ℚ := 1 / 2
  serviceSelectionSettingsBy : GoMap ServiceID ServiceSelectionSettings := ∅

def selectionSettingsFor (settings : SelectionSettings) (serviceID : ServiceID) : Int × ℚ :=
  match settings.serviceSelectionSettingsBy.lookup serviceID with
  | none => (settings.backendWeightCap, settings.defaultMaxOperatorShare)
  | some s =>
    (if 0 < s.backendWeightCap then s.backendWeightCap else settings.backendWeightCap,
      s.maxOperatorShare)

def effectiveWeightCap (settings : SelectionSettings) (serviceID : ServiceID) : Int :=
  if settings.dedupeOperatorShareByBackendURL then (selectionSettingsFor settings serviceID).1
  else 0

def backendWeight (registrations : Nat) (weightCap : Int) : Nat :=
  if weightCap ≤ 0 ∨ (registrations : Int) < weightCap then registrations else weightCap.toNat

structure BackendGroup where
  key : String
  endpoints : List EndpointAddr
  weight : Nat
  deriving DecidableEq, Repr

structure OperatorPool where
  key : String
  backends : List BackendGroup
  entries : Nat
  units : Nat
  deriving DecidableEq, Repr

def OperatorPool.endpoints (p : OperatorPool) : List EndpointAddr :=
  p.backends.flatMap BackendGroup.endpoints

def operatorKey (net : NetLib) (ep : EndpointAddr) : String :=
  let k := extractTLDFromEndpointAddr net ep
  if k ≠ "" then k else ep

def backendKey (net : NetLib) (addr : EndpointAddr) : String :=
  match addr.toList.tails.find? (fun t => "http".toList.isPrefixOf t) with
  | none => addr
  | some t =>
    let url := String.ofList
      ((net.toLower (String.ofList t)).toList.reverse.dropWhile (· = '/')).reverse
    if url = "" then addr else url

def resolveOperatorKey (net : NetLib) (operatorKeys : Option (GoMap EndpointAddr String))
    (ep : EndpointAddr) : String :=
  match operatorKeys.bind (fun keys => keys.lookup ep) with
  | none => operatorKey net ep
  | some k => if k = "" then ep else k

def addToBackends (bKey : String) (ep : EndpointAddr) : List BackendGroup → List BackendGroup
  | [] => [⟨bKey, [ep], 0⟩]
  | g :: gs =>
    if g.key = bKey then { g with endpoints := g.endpoints ++ [ep] } :: gs
    else g :: addToBackends bKey ep gs

def addToPools (opKey bKey : String) (ep : EndpointAddr) : List OperatorPool → List OperatorPool
  | [] => [⟨opKey, addToBackends bKey ep [], 1, 0⟩]
  | p :: ps =>
    if p.key = opKey then
      { p with backends := addToBackends bKey ep p.backends, entries := p.entries + 1 } :: ps
    else p :: addToPools opKey bKey ep ps

def BackendGroup.weigh (weightCap : Int) (b : BackendGroup) : BackendGroup :=
  { b with weight := backendWeight b.endpoints.length weightCap }

def OperatorPool.weigh (weightCap : Int) (p : OperatorPool) : OperatorPool :=
  let backends := p.backends.map (BackendGroup.weigh weightCap)
  { p with backends := backends, units := (backends.map BackendGroup.weight).sum }

def totalUnits (pools : List OperatorPool) : Nat :=
  (pools.map OperatorPool.units).sum

def maxUnits (pools : List OperatorPool) : Nat :=
  (pools.map OperatorPool.units).foldl max 0

def groupPoolKeyed (net : NetLib) (validEndpoints : List EndpointAddr) (weightCap : Int)
    (operatorKeys : Option (GoMap EndpointAddr String)) : List OperatorPool :=
  (validEndpoints.foldl (fun pools ep =>
    addToPools (resolveOperatorKey net operatorKeys ep) (backendKey net ep) ep pools) []).map
    (OperatorPool.weigh weightCap)

section Picks

open Draws

def unitAt {α : Type} (weight : α → Nat) : List α → Nat → Option α
  | [], _ => none
  | a :: as, idx => if idx < weight a then some a else unitAt weight as (idx - weight a)

def BackendGroup.pick (b : BackendGroup) : Draws EndpointAddr := do
  let i ← intn b.endpoints.length
  pure (b.endpoints.getD i "")

def OperatorPool.pickEndpoint (p : OperatorPool) : Draws EndpointAddr :=
  match p.backends.getLast? with
  | none => pure ""
  | some last =>
    if p.units = 0 then last.pick
    else do
      let idx ← intn p.units
      ((unitAt BackendGroup.weight p.backends idx).getD last).pick

variable (net : NetLib) (settings : SelectionSettings) (pools : List OperatorPool) (maxShare w : ℚ)
  (serviceID : ServiceID) (endpoints : List EndpointAddr)

def pickUniformOverUnits (total : Nat) : Draws (EndpointAddr × String) :=
  match pools.getLast? with
  | none => pure ("", "")
  | some last =>
    if total = 0 then pure ("", "")
    else do
      let idx ← intn total
      let chosen := (unitAt OperatorPool.units pools idx).getD last
      let selected ← chosen.pickEndpoint
      pure (selected, chosen.key)

def concentrationCapEpsilon : ℚ := 1 / 10 ^ 9

def infeasibleCapFallbackShare : ℚ := 65 / 100

def defaultDisplacementCeilingMultiple : ℚ := 3

def fillLimit (entitlement : Option ℚ) (w : ℚ) : ℚ :=
  min maxShare (entitlement.elim 1 (fun e => max w (e * defaultDisplacementCeilingMultiple)))

def fillRoom (entitlement : Option ℚ) (w : ℚ) : ℚ :=
  let r := fillLimit maxShare entitlement w - w
  if concentrationCapEpsilon < r then r else 0

def isOverCap : Bool := maxShare + concentrationCapEpsilon < w

def fillPass (shares : List (ℚ × Option ℚ)) : Option (List (ℚ × Option ℚ)) :=
  let excess := ((shares.filter (fun s => isOverCap maxShare s.1)).map (·.1 - maxShare)).sum
  let below := shares.filter (fun s => !isOverCap maxShare s.1)
  let roomSum := (below.map (fun s => fillRoom maxShare s.2 s.1)).sum
  if !shares.any (fun s => isOverCap maxShare s.1) ∨ roomSum ≤ 0 then none
  else
    let absorbed := min excess roomSum
    some (shares.map (fun s =>
      if isOverCap maxShare s.1 then
        (maxShare + (s.1 - maxShare) * (excess - absorbed) / excess, s.2)
      else (s.1 + absorbed * (fillRoom maxShare s.2 s.1 / roomSum), s.2)))

def fillPasses (maxShare : ℚ) : Nat → List (ℚ × Option ℚ) → List (ℚ × Option ℚ)
  | 0, shares => shares
  | n + 1, shares =>
    match fillPass maxShare shares with
    | none => shares
    | some shares => fillPasses maxShare n shares

def waterFillToCap (shares : List (ℚ × Option ℚ)) (maxShare : ℚ) : List ℚ :=
  (fillPasses maxShare shares.length shares).map Prod.fst

def firstAbove (target : ℚ) : ℚ → Nat → List ℚ → Option Nat
  | _, _, [] => none
  | cum, i, w :: ws =>
    if target < cum + w then some i else firstAbove target (cum + w) (i + 1) ws

def weightedPick (weights : List ℚ) (N : Nat := 2 ^ 53) : Draws Nat := do
  let u ← float64 N
  pure ((firstAbove (u * weights.sum) 0 0 weights).getD (weights.length - 1))

structure WeightedPick where
  selected : EndpointAddr
  operator : String
  reshaped : Bool

def pickFromPool (weights : List ℚ) (N : Nat := 2 ^ 53) : Draws WeightedPick := do
  let i ← weightedPick weights N
  match pools[i]? with
  | none => pure ⟨"", "", true⟩
  | some chosen =>
    let selected ← chosen.pickEndpoint
    pure ⟨selected, chosen.key, true⟩

def pickWeightedFromPools
    (total maximum : Nat) (maxOperatorShare : ℚ) (N : Nat := 2 ^ 53) : Draws WeightedPick :=
  let m := pools.length
  if m = 0 ∨ total = 0 then pure ⟨"", "", false⟩
  else
    let capEnabled : Bool := 1 < m ∧ 0 < maxOperatorShare ∧ maxOperatorShare < 1
    let infeasible : Bool := capEnabled ∧ maxOperatorShare * m ≤ 1
    if infeasible && settings.capInfeasibleForcesUniform then
      pickFromPool pools (replicate m (1 / m)) N
    else
      let share := if infeasible then infeasibleCapFallbackShare else maxOperatorShare
      if !capEnabled ∨ (maximum : ℚ) ≤ share * total then do
        let (selected, key) ← pickUniformOverUnits pools total
        pure ⟨selected, key, false⟩
      else
        let registrations := (pools.map OperatorPool.entries).sum
        let shares := pools.map (fun p =>
          ((p.units : ℚ) / total,
            some (if 0 < registrations then (p.entries : ℚ) / registrations else 0)))
        pickFromPool pools (waterFillToCap shares share) N

def selectWithConcentrationCap
    (validEndpoints : List EndpointAddr) (maxOperatorShare : ℚ) : Draws EndpointAddr :=
  let n := validEndpoints.length
  if n = 0 then pure ""
  else if n = 1 ∨ maxOperatorShare ≤ 0 ∨ 1 ≤ maxOperatorShare then do
    let i ← intn n
    pure (validEndpoints.getD i "")
  else do
    let pools := groupPoolKeyed net validEndpoints (effectiveWeightCap settings serviceID) none
    let pick ← pickWeightedFromPools settings pools (totalUnits pools) (maxUnits pools)
      maxOperatorShare
    pure pick.selected

def selectOperatorUniform (validEndpoints : List EndpointAddr) : Draws EndpointAddr :=
  match validEndpoints with
  | [] => pure ""
  | [ep] => pure ep
  | eps => do
    let pools := groupPoolKeyed net eps (effectiveWeightCap settings serviceID) none
    let i ← intn pools.length
    match pools[i]? with
    | none => pure ""
    | some chosen => chosen.pickEndpoint

def pickBackend (operatorKeys : Option (GoMap EndpointAddr String))
    (applyOperatorCap : Bool) : Draws EndpointAddr :=
  if endpoints = [] then pure ""
  else do
    let maxOperatorShare : ℚ :=
      if settings.dedupeOperatorShareByBackendURL && applyOperatorCap &&
          settings.applyOperatorCapOnBackendPick then (selectionSettingsFor settings serviceID).2
      else 0
    let pools := groupPoolKeyed net endpoints (effectiveWeightCap settings serviceID) operatorKeys
    let pick ← pickWeightedFromPools settings pools (totalUnits pools) (maxUnits pools)
      maxOperatorShare
    pure pick.selected

def swapDraws : Nat → List EndpointAddr → Draws (List EndpointAddr)
  | 0, _ => pure []
  | _, [] => pure []
  | n + 1, e :: es => do
    let j ← intn (es.length + 1)
    let rest ← swapDraws n (((e :: es).set j e).tail)
    pure ((e :: es).getD j "" :: rest)

def randomSelectMultiple (numEndpoints : Nat) : Draws (List EndpointAddr) :=
  if endpoints.length ≤ numEndpoints then pure endpoints
  else swapDraws numEndpoints endpoints

def withDifferentTLD (endpointTLDs : GoMap EndpointAddr String) (usedTLDs : List String)
    (endpoints : List EndpointAddr) : List EndpointAddr :=
  endpoints.filter (fun ep =>
    (endpointTLDs.lookup ep).elim true (fun tld => !usedTLDs.contains tld))

def diversePick (endpointTLDs : GoMap EndpointAddr String)
    (first : Bool) (usedTLDs : List String) (remaining : List EndpointAddr) : Draws EndpointAddr :=
  if !first && !usedTLDs.isEmpty then
    match withDifferentTLD endpointTLDs usedTLDs remaining with
    | [] => pickBackend net settings serviceID remaining (some endpointTLDs) false
    | ep :: eps => pickBackend net settings serviceID (ep :: eps) (some endpointTLDs) false
  else pickBackend net settings serviceID remaining (some endpointTLDs) true

def diverseRounds (net : NetLib) (settings : SelectionSettings) (serviceID : ServiceID)
    (endpointTLDs : GoMap EndpointAddr String) :
    Nat → Bool → List String → List EndpointAddr → Draws (List EndpointAddr)
  | 0, _, _, _ => pure []
  | _, _, _, [] => pure []
  | n + 1, first, usedTLDs, ep :: eps => do
    let remaining := ep :: eps
    let selected ← diversePick net settings serviceID endpointTLDs first usedTLDs remaining
    let used := (endpointTLDs.lookup selected).elim usedTLDs (fun tld => tld :: usedTLDs)
    let rest ← diverseRounds net settings serviceID endpointTLDs n false used
      (remaining.filter (· ≠ selected))
    pure (selected :: rest)

/-- The rounds of a diverse selection, for a count that an `int` can hold. -/
def selectDiverse
    (availableEndpoints : List EndpointAddr) (rounds : Nat) : Draws (List EndpointAddr) :=
  diverseRounds net settings serviceID (getEndpointTLDs net availableEndpoints) rounds true []
    availableEndpoints

def selectEndpointsWithDiversity
    (availableEndpoints : List EndpointAddr) (numEndpoints : UInt64) : Draws (List EndpointAddr) :=
  -- the loop runs to `int(numEndpoints)`, which is negative from 2⁶³ on
  selectDiverse net settings serviceID availableEndpoints numEndpoints.toInt64.toInt.toNat

end Picks

section Grouping

variable {net : NetLib} {endpoints : List EndpointAddr} {weightCap : Int}
  {operatorKeys : Option (GoMap EndpointAddr String)} {opKey bKey : String} {ep : EndpointAddr}
  {pools : List OperatorPool} {p : OperatorPool} {b : BackendGroup}

def Filled (pools : List OperatorPool) : Prop :=
  ∀ p ∈ pools, p.backends ≠ [] ∧ ∀ b ∈ p.backends, b.endpoints ≠ []

theorem addToBackends_perm (bs : List BackendGroup) :
    ((addToBackends bKey ep bs).flatMap BackendGroup.endpoints).Perm
    (ep :: bs.flatMap BackendGroup.endpoints) := by
  induction bs with
  | nil => exact .refl _
  | cons b bs ih =>
    rw [addToBackends]
    split
    · simp only [flatMap_cons, append_assoc, singleton_append]
      exact perm_middle
    · rw [flatMap_cons, flatMap_cons]
      exact (ih.append_left _).trans perm_middle

theorem addToBackends_filled {bs : List BackendGroup} (h : ∀ b ∈ bs, b.endpoints ≠ []) :
    addToBackends bKey ep bs ≠ [] ∧ ∀ b ∈ addToBackends bKey ep bs, b.endpoints ≠ [] := by
  induction bs with
  | nil => simp [addToBackends]
  | cons b bs ih =>
    obtain ⟨hb, hbs⟩ := forall_mem_cons.mp h
    rw [addToBackends]
    split
    · exact ⟨by simp, forall_mem_cons.mpr ⟨by simp, hbs⟩⟩
    · exact ⟨by simp, forall_mem_cons.mpr ⟨hb, (ih hbs).2⟩⟩

theorem addToPools_perm :
    ((addToPools opKey bKey ep pools).flatMap OperatorPool.endpoints).Perm
      (ep :: pools.flatMap OperatorPool.endpoints) := by
  induction pools with
  | nil => exact .refl _
  | cons p ps ih =>
    rw [addToPools]
    split
    · rw [flatMap_cons, flatMap_cons, ← cons_append]
      exact (addToBackends_perm p.backends).append_right _
    · rw [flatMap_cons, flatMap_cons]
      exact (ih.append_left _).trans perm_middle

theorem addToPools_filled (h : Filled pools) : Filled (addToPools opKey bKey ep pools) := by
  induction pools with
  | nil =>
    intro p hp
    obtain rfl := mem_singleton.mp hp
    exact addToBackends_filled (by simp)
  | cons p ps ih =>
    obtain ⟨hp, hps⟩ := forall_mem_cons.mp h
    rw [addToPools]
    split
    · exact forall_mem_cons.mpr ⟨addToBackends_filled hp.2, hps⟩
    · exact forall_mem_cons.mpr ⟨hp, ih hps⟩

theorem endpoints_weigh : (p.weigh weightCap).endpoints = p.endpoints := by
  simp [OperatorPool.weigh, OperatorPool.endpoints, flatMap_map, BackendGroup.weigh]

theorem groupPoolKeyed_perm :
    ((groupPoolKeyed net endpoints weightCap operatorKeys).flatMap OperatorPool.endpoints).Perm
      endpoints := by
  have hfold : ∀ pools : List OperatorPool, ((endpoints.foldl (fun pools ep =>
      addToPools (resolveOperatorKey net operatorKeys ep) (backendKey net ep) ep pools)
        pools).flatMap OperatorPool.endpoints).Perm
      (endpoints ++ pools.flatMap OperatorPool.endpoints) := by
    induction endpoints with
    | nil => exact fun pools => .refl _
    | cons ep eps ih =>
      intro pools
      refine (ih _).trans ((addToPools_perm.append_left eps).trans ?_)
      exact perm_middle
  rw [groupPoolKeyed, flatMap_map]
  simp only [endpoints_weigh]
  simpa using hfold []

theorem groupPoolKeyed_filled : Filled (groupPoolKeyed net endpoints weightCap operatorKeys) := by
  have hfold : ∀ pools, Filled pools → Filled (endpoints.foldl (fun pools ep =>
      addToPools (resolveOperatorKey net operatorKeys ep) (backendKey net ep) ep pools) pools) := by
    induction endpoints with
    | nil => exact fun pools h => h
    | cons ep eps ih => exact fun pools h => ih _ (addToPools_filled h)
  intro p hp
  obtain ⟨q, hq, rfl⟩ := mem_map.mp hp
  obtain ⟨hne, hbs⟩ := hfold [] (by simp [Filled]) q hq
  refine ⟨by simpa [OperatorPool.weigh] using hne, fun b hb => ?_⟩
  obtain ⟨c, hc, rfl⟩ := mem_map.mp hb
  exact hbs c hc

theorem backendWeight_pos {registrations : Nat} (h : 0 < registrations) :
    0 < backendWeight registrations weightCap := by
  rw [backendWeight]
  split
  · exact h
  · omega

theorem units_pos (hp : p ∈ groupPoolKeyed net endpoints weightCap operatorKeys) : 0 < p.units := by
  obtain ⟨hne, hbs⟩ := groupPoolKeyed_filled p hp
  obtain ⟨q, -, rfl⟩ := mem_map.mp hp
  obtain ⟨b, hb⟩ := exists_mem_of_ne_nil _ hne
  have hpos : 0 < b.weight := by
    obtain ⟨c, hc, rfl⟩ := mem_map.mp hb
    exact backendWeight_pos (length_pos_iff.mpr (hbs (c.weigh weightCap) hb))
  exact hpos.trans_le (single_le_sum (fun _ _ => Nat.zero_le _) _ (mem_map_of_mem hb))

theorem groupPoolKeyed_ne_nil (hne : endpoints ≠ []) :
    groupPoolKeyed net endpoints weightCap operatorKeys ≠ [] := by
  intro hnil
  have hperm : ([].flatMap OperatorPool.endpoints).Perm endpoints := hnil ▸ groupPoolKeyed_perm
  exact hne hperm.nil_eq.symm

theorem totalUnits_pos (hne : endpoints ≠ []) :
    0 < totalUnits (groupPoolKeyed net endpoints weightCap operatorKeys) := by
  obtain ⟨p, hp⟩ := exists_mem_of_ne_nil _ (groupPoolKeyed_ne_nil hne)
  exact (units_pos hp).trans_le
    (single_le_sum (fun _ _ => Nat.zero_le _) _ (mem_map_of_mem hp))

end Grouping

section Members

open Draws

variable {net : NetLib} {settings : SelectionSettings} {serviceID : ServiceID}
  {endpoints : List EndpointAddr} {pools : List OperatorPool} {p : OperatorPool}
  {b : BackendGroup}

theorem always_getD_intn (hne : endpoints ≠ []) :
    Always (· ∈ endpoints) (do let i ← intn endpoints.length; pure (endpoints.getD i "")) := by
  refine (always_intn (length_pos_iff.mpr hne)).bind fun i hi => .pure ?_
  rw [getD_eq_getElem _ _ hi]
  exact getElem_mem hi

variable {α : Type} {weight : α → Nat} {as : List α} {idx : Nat}

theorem mem_of_unitAt {a : α} (h : unitAt weight as idx = some a) : a ∈ as := by
  induction as generalizing idx with
  | nil => simp [unitAt] at h
  | cons x xs ih =>
    rw [unitAt] at h
    split at h
    · exact some.inj h ▸ mem_cons_self
    · exact mem_cons_of_mem _ (ih h)

theorem getD_unitAt_mem {last : α} (h : as.getLast? = some last) :
    (unitAt weight as idx).getD last ∈ as := by
  cases hu : unitAt weight as idx with
  | none => exact mem_of_getLast? h
  | some => exact mem_of_unitAt hu

theorem always_pickEndpoint (hne : p.backends ≠ []) (hbs : ∀ b ∈ p.backends, b.endpoints ≠ []) :
    Always (· ∈ p.endpoints) p.pickEndpoint := by
  have hpick : ∀ b ∈ p.backends, Always (· ∈ p.endpoints) b.pick := fun b hb =>
    (always_getD_intn (hbs b hb)).mono fun ep hep => mem_flatMap.mpr ⟨b, hb, hep⟩
  rw [OperatorPool.pickEndpoint]
  split
  · rename_i hnone
    exact absurd (getLast?_eq_none_iff.mp hnone) hne
  · rename_i last hlast
    split
    · exact hpick last (mem_of_getLast? hlast)
    · exact (always_true _).bind fun idx _ => hpick _ (getD_unitAt_mem hlast)

theorem always_pickEndpoint_of_filled (hfilled : Filled pools) (hp : p ∈ pools) :
    Always (· ∈ pools.flatMap OperatorPool.endpoints) p.pickEndpoint :=
  (always_pickEndpoint (hfilled p hp).1 (hfilled p hp).2).mono fun _ hep =>
    mem_flatMap.mpr ⟨p, hp, hep⟩

variable {weights : List ℚ} {N : Nat}

theorem firstAbove_lt {target cum : ℚ} {i k : Nat}
    (h : firstAbove target cum i weights = some k) : k < i + weights.length := by
  induction weights generalizing cum i with
  | nil => simp [firstAbove] at h
  | cons w ws ih =>
    rw [firstAbove] at h
    rw [length_cons]
    split at h
    · have := some.inj h
      omega
    · have := ih h
      omega

theorem always_weightedPick (hne : weights ≠ []) :
    Always (· < weights.length) (weightedPick weights N) := by
  have hpos := length_pos_iff.mpr hne
  refine (always_true _).bind fun u _ => .pure ?_
  cases h : firstAbove (u * weights.sum) 0 0 weights with
  | none =>
    rw [getD_none]
    omega
  | some =>
    have := firstAbove_lt h
    rw [getD_some]
    omega

theorem always_pickFromPool (hfilled : Filled pools) (hne : pools ≠ [])
    (hlen : weights.length = pools.length) :
    Always (·.selected ∈ pools.flatMap OperatorPool.endpoints) (pickFromPool pools weights N) := by
  have hweights : weights ≠ [] := by
    rw [← length_pos_iff, hlen]
    exact length_pos_iff.mpr hne
  refine (always_weightedPick hweights).bind fun i hi => ?_
  rw [getElem?_eq_getElem (hlen ▸ hi)]
  exact (always_pickEndpoint_of_filled hfilled (getElem_mem _)).bind fun _ h => .pure h

theorem length_fillPasses {maxShare : ℚ} (n : Nat) (shares : List (ℚ × Option ℚ)) :
    (fillPasses maxShare n shares).length = shares.length := by
  induction n generalizing shares with
  | zero => rfl
  | succ n ih =>
    rw [fillPasses]
    split
    · rfl
    · rename_i shares' h
      simp only [fillPass, ite_none_left_eq_some, some.injEq] at h
      rw [ih, ← h.2, length_map]

variable {maxOperatorShare : ℚ}

variable {maximum : Nat} {operatorKeys : Option (GoMap EndpointAddr String)}

theorem always_pickWeightedFromPools {total : Nat}
    (hfilled : Filled pools) (hne : pools ≠ []) (htotal : 0 < total) :
    Always (·.selected ∈ pools.flatMap OperatorPool.endpoints)
      (pickWeightedFromPools settings pools total maximum maxOperatorShare N) := by
  have hlen : pools.length ≠ 0 := fun h => hne (length_eq_zero_iff.mp h)
  have hunits : Always (fun r : EndpointAddr × String =>
      r.1 ∈ pools.flatMap OperatorPool.endpoints) (pickUniformOverUnits pools total) := by
    rw [pickUniformOverUnits]
    split
    · rename_i hnone
      exact absurd (getLast?_eq_none_iff.mp hnone) hne
    · rename_i last hlast
      rw [if_neg htotal.ne']
      refine (always_true _).bind fun idx _ => ?_
      exact (always_pickEndpoint_of_filled hfilled (getD_unitAt_mem hlast)).bind fun _ h => .pure h
  rw [pickWeightedFromPools, if_neg (by omega)]
  extract_lets capEnabled infeasible share registrations shares
  split
  · exact always_pickFromPool hfilled hne (by simp)
  · split
    · exact hunits.bind fun _ h => .pure h
    · exact always_pickFromPool hfilled hne (by simp [shares, waterFillToCap, length_fillPasses])

theorem always_pickGrouped {weightCap : Int} (hne : endpoints ≠ []) :
    Always (·.selected ∈ endpoints) (pickWeightedFromPools settings
      (groupPoolKeyed net endpoints weightCap operatorKeys) (totalUnits
      (groupPoolKeyed net endpoints weightCap operatorKeys)) maximum maxOperatorShare N) := by
  refine (always_pickWeightedFromPools groupPoolKeyed_filled (groupPoolKeyed_ne_nil hne)
    (totalUnits_pos hne)).mono fun _ h => ?_
  exact groupPoolKeyed_perm.mem_iff.mp h

theorem always_pickBackend {applyOperatorCap : Bool} (hne : endpoints ≠ []) :
    Always (· ∈ endpoints)
      (pickBackend net settings serviceID endpoints operatorKeys applyOperatorCap) := by
  rw [pickBackend, if_neg hne]
  exact (always_pickGrouped hne).bind fun _ h => .pure h

theorem always_selectWithConcentrationCap (hne : endpoints ≠ []) :
    Always (· ∈ endpoints)
      (selectWithConcentrationCap net settings serviceID endpoints maxOperatorShare) := by
  rw [selectWithConcentrationCap, if_neg (fun h => hne (length_eq_zero_iff.mp h))]
  split
  · exact always_getD_intn hne
  · exact (always_pickGrouped hne).bind fun _ h => .pure h

theorem always_selectOperatorUniform (hne : endpoints ≠ []) :
    Always (· ∈ endpoints) (selectOperatorUniform net settings serviceID endpoints) := by
  unfold selectOperatorUniform
  split
  · exact absurd rfl hne
  · exact .pure mem_cons_self
  · refine (always_intn (length_pos_iff.mpr (groupPoolKeyed_ne_nil hne))).bind fun i hi => ?_
    rw [getElem?_eq_getElem hi]
    exact (always_pickEndpoint_of_filled groupPoolKeyed_filled (getElem_mem hi)).mono
      fun _ h => groupPoolKeyed_perm.mem_iff.mp h

variable {numEndpoints : Nat}

variable {label : EndpointAddr → String} {tlds : GoMap EndpointAddr String} {first : Bool}
  {used : List String} {ep : EndpointAddr} {k : UInt64}

/-- A pick has an unused label if an endpoint on offer has one. -/
theorem always_diversePick (hne : endpoints ≠ []) (hfirst : first = true → used = [])
    (hlabel : ∀ ep ∈ endpoints, tlds.lookup ep = some (label ep)) :
    Always (fun ep => ep ∈ endpoints ∧ (label ep ∈ used → ∀ ep ∈ endpoints, label ep ∈ used))
      (diversePick net settings serviceID tlds first used endpoints) := by
  have hfresh {ep : EndpointAddr} (hep : ep ∈ endpoints) :
      ep ∈ withDifferentTLD tlds used endpoints ↔ label ep ∉ used := by
    simp [withDifferentTLD, hep, hlabel ep hep]
  rw [diversePick]
  split
  · split
    · rename_i hnone
      refine (always_pickBackend hne).mono fun _ h => ⟨h, fun _ ep hep => ?_⟩
      by_contra hnot
      simpa [hnone] using (hfresh hep).mpr hnot
    · rename_i ep eps hsome
      refine (always_pickBackend (cons_ne_nil ep eps)).mono fun e he => ?_
      rw [← hsome] at he
      have hmem := mem_of_mem_filter he
      exact ⟨hmem, fun hused => absurd hused ((hfresh hmem).mp he)⟩
  · rename_i hused
    have hempty : used = [] := by
      cases first with
      | true => exact hfirst rfl
      | false => simpa using hused
    exact (always_pickBackend hne).mono fun _ h => ⟨h, by simp [hempty]⟩

/-- The labels that a selection adds to those used are as many as there can be. -/
structure Spread (label : EndpointAddr → String) (used : Finset String)
    (offer : Finset EndpointAddr) (numEndpoints : Nat) (selected : List EndpointAddr) : Prop where
  nodup : selected.Nodup
  subset : selected.toFinset ⊆ offer
  length : selected.length = min numEndpoints offer.card
  labels : (selected.toFinset.image label \ used).card =
    min selected.length (offer.image label \ used).card

theorem Spread.cons {used : Finset String} {offer : Finset EndpointAddr} {rest : List EndpointAddr}
    (hep : ep ∈ offer) (hfresh : label ep ∈ used → offer.image label ⊆ used)
    (h : Spread label (insert (label ep) used) (offer.erase ep) numEndpoints rest) :
    Spread label used offer (numEndpoints + 1) (ep :: rest) := by
  have hinsert := Finset.insert_erase hep
  have hsub : (ep :: rest).toFinset ⊆ offer := by
    rw [toFinset_cons, ← hinsert]
    exact Finset.insert_subset_insert ep h.subset
  refine ⟨nodup_cons.mpr ⟨fun he => ?_, h.nodup⟩, hsub, ?_, ?_⟩
  · exact Finset.notMem_erase ep offer (h.subset (mem_toFinset.mpr he))
  · rw [length_cons, h.length, ← Finset.card_erase_add_one hep, Nat.add_min_add_right]
  · by_cases hused : label ep ∈ used
    · -- a used label is picked only if no other is left
      have hall := hfresh hused
      rw [Finset.sdiff_eq_empty_iff_subset.mpr hall,
        Finset.sdiff_eq_empty_iff_subset.mpr ((Finset.image_subset_image hsub).trans hall)]
      simp
    · have hcard (labels : Finset String) : (insert (label ep) labels \ used).card =
          (labels \ insert (label ep) used).card + 1 := by
        rw [Finset.sdiff_insert, ← Finset.erase_insert_eq_erase,
          Finset.card_erase_add_one (Finset.mem_insert_self _ _),
          Finset.insert_sdiff_of_notMem _ hused]
      rw [← hinsert, toFinset_cons, Finset.image_insert, Finset.image_insert, hcard, hcard,
        h.labels, length_cons, Nat.add_min_add_right]

theorem always_diverseRounds (hfirst : first = true → used = [])
    (hlabel : ∀ ep ∈ endpoints, tlds.lookup ep = some (label ep)) :
    Always (Spread label used.toFinset endpoints.toFinset numEndpoints)
    (diverseRounds net settings serviceID tlds numEndpoints first used endpoints) := by
  induction numEndpoints generalizing endpoints first used with
  | zero => exact .pure ⟨nodup_nil, by simp, by simp, by simp⟩
  | succ n ih =>
    cases endpoints with
    | nil => exact .pure ⟨nodup_nil, by simp, by simp, by simp⟩
    | cons ep eps =>
      refine (always_diversePick (cons_ne_nil ep eps) hfirst hlabel).bind fun e he => ?_
      rw [hlabel e he.1, elim_some]
      refine (ih (by simp) fun e' he' => hlabel e' (mem_of_mem_filter he')).bind fun rest hrest =>
        .pure (.cons (mem_toFinset.mpr he.1) (fun hused => ?_) ?_)
      · simpa [Finset.subset_iff] using he.2 (mem_toFinset.mp hused)
      · simpa only [toFinset_cons, toFinset_filter, decide_eq_true_eq, Finset.filter_ne'] using
          hrest

theorem always_spread :
    Always (Spread (extractTLDFromEndpointAddr net) ∅ endpoints.toFinset numEndpoints)
      (selectDiverse net settings serviceID endpoints numEndpoints) :=
  always_diverseRounds (fun _ => rfl) (fun ep hep => by simp [getEndpointTLDs, hep])

/-- As many as wanted at most, all of them on offer, and all that are on offer if so many are
wanted. -/
theorem always_selectDiverse :
    Always (fun selected =>
        selected.length ≤ numEndpoints ∧
        (∀ ep ∈ selected, ep ∈ endpoints) ∧
        (endpoints.length ≤ numEndpoints → ∀ ep ∈ endpoints, ep ∈ selected))
      (selectDiverse net settings serviceID endpoints numEndpoints) := by
  refine always_spread.mono fun selected h => ⟨?_, ?_, fun hle => ?_⟩
  · exact h.length.trans_le (min_le_left _ _)
  · simpa [Finset.subset_iff] using h.subset
  · have hcard := toFinset_card_of_nodup h.nodup
    rw [h.length, min_eq_right ((toFinset_card_le _).trans hle)] at hcard
    simpa [Finset.subset_iff] using (Finset.eq_of_subset_of_card_le h.subset hcard.ge).ge

theorem rounds_of_lt (hlt : k.toNat < 2 ^ 63) : k.toInt64.toInt.toNat = k.toNat := by
  rw [Int64.toInt, UInt64.toBitVec_toInt64, BitVec.toInt_eq_toNat_of_lt, Int.toNat_natCast]
  · rfl
  · rw [UInt64.toNat_toBitVec]
    omega

theorem rounds_of_le (hle : 2 ^ 63 ≤ k.toNat) : k.toInt64.toInt.toNat = 0 := by
  rw [Int64.toInt, UInt64.toBitVec_toInt64, BitVec.toInt_eq_toNat_cond, UInt64.toNat_toBitVec,
    if_neg (by omega), Int.toNat_eq_zero]
  have := k.toNat_lt
  omega

/-- As many distinct members of the list as are wanted or as there are, with as many labels as
that many endpoints of the list can have. -/
def Diverse (net : NetLib) (endpoints : List EndpointAddr) (numEndpoints : UInt64)
    (selected : List EndpointAddr) : Prop :=
  selected.Nodup ∧
  (∀ ep ∈ selected, ep ∈ endpoints) ∧
  selected.length = min numEndpoints.toNat endpoints.toFinset.card ∧
  (selected.toFinset.image (extractTLDFromEndpointAddr net)).card =
    min selected.length (endpoints.toFinset.image (extractTLDFromEndpointAddr net)).card

/-- A selection is diverse exactly if an `int` can hold the number wanted, or nothing is on
offer: the loop does not run at all for a larger number. -/
theorem selection_diverse_iff (net : NetLib) (settings : SelectionSettings)
    (serviceID : ServiceID) (endpoints : List EndpointAddr) (numEndpoints : UInt64) :
    Always (Diverse net endpoints numEndpoints)
        (selectEndpointsWithDiversity net settings serviceID endpoints numEndpoints) ↔
      numEndpoints.toNat < 2 ^ 63 ∨ endpoints = [] := by
  rw [selectEndpointsWithDiversity]
  constructor
  · intro hdiverse
    by_contra hnot
    push Not at hnot
    have hlength := (hdiverse []).2.2.1
    rw [rounds_of_le hnot.1] at hlength
    have hcard : endpoints.toFinset.card ≠ 0 := by simpa using hnot.2
    have hmin : 0 < min numEndpoints.toNat endpoints.toFinset.card := by
      rw [lt_min_iff]
      omega
    exact hmin.ne hlength
  · intro h
    refine always_spread.mono fun selected hspread => ⟨hspread.nodup, ?_, ?_, ?_⟩
    · simpa [Finset.subset_iff] using hspread.subset
    · rcases h with hlt | rfl
      · rw [hspread.length, rounds_of_lt hlt]
      · rw [hspread.length]
        simp
    · simpa using hspread.labels

/-- With -1 converted to a `uint`, nothing is selected from a list of one. -/
theorem none_selected :
    ¬∀ (net : NetLib) (settings : SelectionSettings) (serviceID : ServiceID)
        (endpoints : List EndpointAddr) (numEndpoints : UInt64),
      Always (Diverse net endpoints numEndpoints)
        (selectEndpointsWithDiversity net settings serviceID endpoints numEndpoints) := by
  intro h
  obtain ⟨-, -, hlength, -⟩ := h .ascii {} "eth" [rmAddr]
    (UInt64.ofInt (-1)) []
  revert hlength
  decide

theorem always_randomSelectMultiple : Always (fun selected => selected.length ≤ numEndpoints ∧
    ∀ ep ∈ selected, ep ∈ endpoints) (randomSelectMultiple endpoints numEndpoints) := by
  rw [randomSelectMultiple]
  split
  · rename_i hle
    exact .pure ⟨hle, fun _ h => h⟩
  · rename_i hlt
    clear hlt
    induction numEndpoints generalizing endpoints with
    | zero => exact .pure (by simp)
    | succ n ih =>
      cases endpoints with
      | nil => exact .pure (by simp)
      | cons ep eps =>
        refine (always_intn (Nat.succ_pos eps.length)).bind fun j hj => ?_
        refine ih.bind fun rest hrest => .pure ⟨Nat.succ_le_succ hrest.1,
          forall_mem_cons.mpr ⟨?_, fun e he => ?_⟩⟩
        · rw [getD_eq_getElem _ _ hj]
          exact getElem_mem hj
        · rcases mem_or_eq_of_mem_set (mem_of_mem_tail (hrest.2 e he)) with h | rfl
          · exact h
          · exact mem_cons_self

theorem canReturn_randomSelectMultiple (hep : ep ∈ endpoints) :
    CanReturn (randomSelectMultiple endpoints 1) [ep] := by
  rw [randomSelectMultiple]
  split_ifs with hle
  · obtain ⟨e, rfl⟩ := length_eq_one_iff.mp (hle.antisymm (length_pos_of_mem hep))
    exact mem_singleton.mp hep ▸ .pure
  · obtain ⟨j, hj, rfl⟩ := getElem_of_mem hep
    cases endpoints with
    | nil => exact absurd hj (Nat.not_lt_zero _)
    | cons =>
      rw [← getD_eq_getElem _ "" hj]
      exact (canReturn_intn hj).bind (CanReturn.pure.bind .pure)

end Members

end Selector

end PathGateway
