import Mathlib.Data.List.TakeWhile
import PathGateway.Selector
import PathGateway.UnscoredEndpoints

/-! The endpoint of a retry, a hedge or a batch item: a random one of those whose reputation
is close to the best. -/

namespace PathGateway

namespace Selector

open Draws

inductive BandCapOutcome where
  | noCandidates
  | disabled
  | noRoom
  | noOp
  | reshaped
  deriving DecidableEq, Repr

def pickBackendUniform (net : NetLib) (settings : SelectionSettings)
    (endpoints : List EndpointAddr) : Draws EndpointAddr :=
  pickBackend net settings "" endpoints none false

def selectBandWithConcentrationCap (net : NetLib) (settings : SelectionSettings)
    (band : List EndpointAddr) (maxOperatorShare : ℚ) : Draws (EndpointAddr × BandCapOutcome) :=
  match band with
  | [] => pure ("", .noCandidates)
  | first :: rest =>
    let uniform (outcome : BandCapOutcome) : Draws (EndpointAddr × BandCapOutcome) := do
      let selected ← pickBackendUniform net settings (first :: rest)
      pure (selected, outcome)
    if maxOperatorShare ≤ 0 ∨ 1 ≤ maxOperatorShare then uniform .disabled
    else if rest = [] then pure (first, .noRoom)
    else
      -- without a service at hand the weight cap is the one of the whole process
      let pools := groupPoolKeyed net (first :: rest) (effectiveWeightCap settings "") none
      if pools.length ≤ 1 then uniform .noRoom
      else do
        let pick ← pickWeightedFromPools settings pools (totalUnits pools) (maxUnits pools)
          maxOperatorShare
        if pick.selected = "" then uniform .noRoom
        else pure (pick.selected, if pick.reshaped then .reshaped else .noOp)

section Band

variable {net : NetLib} {settings : SelectionSettings} {band : List EndpointAddr}

theorem always_selectBandWithConcentrationCap {maxOperatorShare : ℚ} (hne : band ≠ []) :
    Always (·.1 ∈ band) (selectBandWithConcentrationCap net settings band maxOperatorShare) := by
  cases band with
  | nil => exact absurd rfl hne
  | cons first rest =>
    have huniform (outcome : BandCapOutcome) : Always (·.1 ∈ first :: rest) (do
        let selected ← pickBackendUniform net settings (first :: rest)
        pure (selected, outcome)) :=
      (always_pickBackend hne).bind fun _ h => .pure h
    rw [selectBandWithConcentrationCap]
    dsimp only
    split
    · exact huniform _
    · split
      · exact .pure List.mem_cons_self
      · split
        · exact huniform _
        · refine (always_pickGrouped hne).bind fun pick hpick => ?_
          split
          · exact huniform _
          · exact .pure hpick

end Band

end Selector

structure Ranking where
  reputation : Option ReputationService
  bandCap : Option ℚ

namespace Ranking

open Selector Draws

def retryHedgeScoreEpsilon : ℚ := 2

def pickFromBand (net : NetLib) (settings : SelectionSettings) (bandCap : Option ℚ)
    (band : List EndpointAddr) : Draws EndpointAddr :=
  match bandCap with
  | none => pickBackendUniform net settings band
  | some maxOperatorShare => do
    let (selected, _) ← selectBandWithConcentrationCap net settings band maxOperatorShare
    pure selected

def topBand (svc : ReputationService) (serviceID : ServiceID) :
    List EndpointKey → List EndpointKey
  | [] => []
  | top :: rest =>
    let scoreOf (k : EndpointKey) : ℚ :=
      ((svc.getScores (top :: rest)).lookup k).elim (svc.getInitialScoreForService serviceID)
        Score.value
    top :: rest.takeWhile (fun k => scoreOf top - retryHedgeScoreEpsilon ≤ scoreOf k)

def keyToOriginalEndpoint (keyOf : EndpointAddr → EndpointKey) (endpoints : List EndpointAddr) :
    GoMap EndpointAddr EndpointAddr :=
  endpoints.foldl (fun originals ep =>
    match originals.lookup (keyOf ep).endpointAddr with
    | some _ => originals
    | none => originals.insert (keyOf ep).endpointAddr ep) ∅

def selectTopRankedEndpoint (net : NetLib) (settings : SelectionSettings) (serviceID : ServiceID)
    (rpcType : RPCType) (ranking : Ranking) (endpoints : List EndpointAddr) :
    Draws EndpointAddr :=
  match endpoints, ranking.reputation with
  | [], _ => pure ""
  | [ep], _ => pure ep
  | first :: _, none => pure first
  | first :: _, some svc => do
    let keyOf (ep : EndpointAddr) := svc.buildKey net serviceID ep rpcType
    let originals := keyToOriginalEndpoint keyOf endpoints
    let band := (topBand svc serviceID (svc.rankEndpointsByScore (endpoints.map keyOf))).filterMap
      (fun k => originals.lookup k.endpointAddr)
    let originalEndpoint ← pickFromBand net settings ranking.bandCap band
    pure (if originalEndpoint = "" then first else originalEndpoint)

section Members

variable {net : NetLib} {settings : SelectionSettings} {serviceID : ServiceID} {rpcType : RPCType}
  {ranking : Ranking} {band endpoints : List EndpointAddr} {keyOf : EndpointAddr → EndpointKey}

theorem always_pickFromBand {bandCap : Option ℚ} :
    Always (fun ep => ep ≠ "" → ep ∈ band) (pickFromBand net settings bandCap band) := by
  cases bandCap with
  | none =>
    rw [pickFromBand]
    by_cases hne : band = []
    · rw [pickBackendUniform, pickBackend, if_pos hne]
      exact .pure fun h => absurd rfl h
    · exact (always_pickBackend hne).mono fun _ h _ => h
  | some =>
    rw [pickFromBand]
    by_cases hne : band = []
    · rw [hne, selectBandWithConcentrationCap]
      exact .pure fun h => absurd rfl h
    · exact (always_selectBandWithConcentrationCap hne).bind fun _ h => .pure fun _ => h

theorem mem_of_lookup_keyToOriginalEndpoint {addr ep : EndpointAddr}
    (h : (keyToOriginalEndpoint keyOf endpoints).lookup addr = some ep) :
    ep ∈ endpoints ∧ (keyOf ep).endpointAddr = addr := by
  refine List.foldlRecOn (motive := fun originals => ∀ a e, AList.lookup a originals = some e →
    e ∈ endpoints ∧ (keyOf e).endpointAddr = a) endpoints _ (by simp) ?_ addr ep h
  intro originals ih e he a e' hlookup
  split at hlookup
  · exact ih a e' hlookup
  · rcases GoMap.lookup_insert_eq_some.mp hlookup with ⟨rfl, rfl⟩ | ⟨-, hlookup⟩
    · exact ⟨he, rfl⟩
    · exact ih a e' hlookup

theorem always_selectTopRankedEndpoint (hne : endpoints ≠ []) :
    Always (· ∈ endpoints)
      (selectTopRankedEndpoint net settings serviceID rpcType ranking endpoints) := by
  rw [selectTopRankedEndpoint.eq_def]
  split
  · exact absurd rfl hne
  · exact .pure (List.mem_singleton_self _)
  · exact .pure List.mem_cons_self
  · refine always_pickFromBand.bind fun ep hep => .pure ?_
    split_ifs with hfilled
    · exact List.mem_cons_self
    · obtain ⟨k, -, hk⟩ := List.mem_filterMap.mp (hep hfilled)
      exact (mem_of_lookup_keyToOriginalEndpoint hk).1

end Members

end Ranking

end PathGateway
