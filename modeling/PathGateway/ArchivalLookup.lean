import PathGateway.ArchivalSelection
import PathGateway.EvmRequest
import PathGateway.ItemTargets
import PathGateway.TopRanked

/-! The endpoints that a lookup of the gateway leaves to choose from, with the archival check
made and without it. -/

namespace PathGateway.Evm

open Draws Selector List

namespace ServiceState

variable {cfg : Config} {ss : ServiceState} {now : Time} {available : List EndpointAddr}
  {addr : EndpointAddr} {requiresArchival : Bool} {numEndpoints : ℕ}

def pool (cfg : Config) (ss : ServiceState) (now : Time) (requiresArchival : Bool)
    (available : List EndpointAddr) : List EndpointAddr :=
  match available.filter
      (fun addr => (ss.validateEndpoint cfg now requiresArchival addr).isOk) with
  | [] =>
    if requiresArchival then ss.filterArchivalEndpointsForFallback cfg now available
    else available
  | ep :: eps => ep :: eps

theorem pool_subset (haddr : addr ∈ ss.pool cfg now requiresArchival available) :
    addr ∈ available := by
  rw [pool] at haddr
  split at haddr
  · split at haddr
    · exact mem_of_mem_filter haddr
    · exact haddr
  · rename_i hvalid
    rw [← hvalid] at haddr
    exact mem_of_mem_filter haddr

theorem pool_ne_nil (hne : available ≠ []) : ss.pool cfg now false available ≠ [] := by
  rw [pool]
  split
  · exact hne
  · exact cons_ne_nil _ _

theorem pool_length : (ss.pool cfg now requiresArchival available).length ≤ available.length := by
  rw [pool]
  split
  · split
    · exact length_filter_le _ _
    · exact le_rfl
  · rename_i hvalid
    rw [← hvalid]
    exact length_filter_le _ _

theorem always_selectMultipleWithArchival_of {P : List EndpointAddr → Prop}
    (hdiverse : Always P (selectDiverse cfg.net cfg.settings cfg.serviceID
      (ss.pool cfg now requiresArchival available) numEndpoints))
    (hstale : Always P (ss.selectLeastStaleEndpoints cfg
      (ss.pool cfg now requiresArchival available) numEndpoints)) :
    Always (fun r => (ss.pool cfg now requiresArchival available = [] ∧
      ∀ selected, r ≠ .ok selected) ∨ ∃ selected, r = .ok selected ∧
      P selected) (ss.selectMultipleWithArchival cfg now available numEndpoints requiresArchival) :=
    by
  by_cases hnil : available = []
  · subst hnil
    refine .pure (.inl ⟨eq_nil_iff_forall_not_mem.mpr fun addr haddr => ?_, by simp⟩)
    cases pool_subset haddr
  rw [selectMultipleWithArchival, filterValidEndpointsWithDetails, if_neg hnil]
  unfold pool at hdiverse hstale ⊢
  cases hvalid : available.filter
      (fun addr => (ss.validateEndpoint cfg now requiresArchival addr).isOk) with
  | nil =>
    rw [hvalid] at hstale
    dsimp only at hstale ⊢
    cases requiresArchival with
    | false => exact hstale.bind fun picked hpicked => .pure (.inr ⟨picked, rfl, hpicked⟩)
    | true =>
      simp only [if_true] at hstale ⊢
      cases harchival : ss.filterArchivalEndpointsForFallback cfg now available with
      | nil => exact .pure (.inl ⟨rfl, by simp⟩)
      | cons =>
        rw [harchival] at hstale
        exact hstale.bind fun picked hpicked => .pure (.inr ⟨picked, rfl, hpicked⟩)
  | cons ep eps =>
    rw [hvalid] at hdiverse
    exact hdiverse.bind fun picked hpicked => .pure (.inr ⟨picked, rfl, hpicked⟩)

theorem always_selectMultipleWithArchival_subset :
    Always (fun r => ∀ selected, r = .ok selected →
      (∀ addr ∈ selected, addr ∈ ss.pool cfg now requiresArchival available) ∧
      selected.length ≤ max 1 numEndpoints)
      (ss.selectMultipleWithArchival cfg now available numEndpoints requiresArchival) :=
    by
  refine (always_selectMultipleWithArchival_of (P := fun selected =>
    (∀ addr ∈ selected, addr ∈ ss.pool cfg now requiresArchival available) ∧
      selected.length ≤ max 1 numEndpoints) ?_ ?_).mono ?_
  · intro ds
    obtain ⟨hlength, hsubset, -⟩ := always_selectDiverse ds
    exact ⟨hsubset, hlength.trans (le_max_right _ _)⟩
  · intro ds
    exact ⟨(always_selectLeastStaleEndpoints ds).1, always_length_selectLeastStaleEndpoints ds⟩
  · rintro r (⟨-, hfails⟩ | ⟨selected, rfl, hselected⟩) picked hpicked
    · exact absurd hpicked (hfails picked)
    · cases hpicked
      exact hselected

theorem always_selectMultipleWithArchival_pool :
    Always (fun r => ∀ addr, (∃ selected, r = .ok selected ∧ addr ∈ selected) ↔
      addr ∈ ss.pool cfg now requiresArchival available)
      (ss.selectMultipleWithArchival cfg now available available.length requiresArchival) := by
  refine (always_selectMultipleWithArchival_of (P := fun selected =>
    ∀ addr, addr ∈ selected ↔ addr ∈ ss.pool cfg now requiresArchival available) ?_ ?_).mono ?_
  · intro ds addr
    obtain ⟨-, hsubset, hall⟩ := always_selectDiverse ds
    exact ⟨hsubset addr, hall pool_length addr⟩
  · intro ds addr
    exact ⟨(always_selectLeastStaleEndpoints ds).1 addr,
      always_selectLeastStaleEndpoints_all pool_length ds addr⟩
  · rintro r (⟨hnil, hfails⟩ | ⟨selected, rfl, hselected⟩) addr
    · rw [hnil]
      refine iff_of_false ?_ not_mem_nil
      rintro ⟨selected, hselected, -⟩
      exact hfails selected hselected
    · simpa using hselected addr

def Admits (cfg : Config) (ss : ServiceState) (now : Time) (available : List EndpointAddr)
    (addr : EndpointAddr) : Prop :=
  ∃ ds selected,
    (ss.selectMultipleWithArchival cfg now available available.length true ds).1 = .ok selected ∧
      addr ∈ selected

theorem admits_iff : Admits cfg ss now available addr ↔ addr ∈ ss.pool cfg now true available := by
  constructor
  · rintro ⟨ds, hselected⟩
    exact (always_selectMultipleWithArchival_pool ds addr).mp hselected
  · intro hpool
    exact ⟨[], (always_selectMultipleWithArchival_pool [] addr).mpr hpool⟩

end ServiceState

structure Lookup where
  service : ServiceState
  now : Time
  available : Except GoError (List EndpointAddr)

namespace Lookup

def endpoints (l : Lookup) : List EndpointAddr :=
  l.available.toOption.getD []

def pool (cfg : Config) (requiresArchival : Bool) (l : Lookup) : List EndpointAddr :=
  l.service.pool cfg l.now requiresArchival l.endpoints

def Admits (cfg : Config) (l : Lookup) (addr : EndpointAddr) : Prop :=
  l.service.Admits cfg l.now l.endpoints addr

variable {cfg : Config} {l : Lookup} {addr : EndpointAddr} {available : List EndpointAddr}

theorem admits_iff : l.Admits cfg addr ↔ addr ∈ l.pool cfg true := ServiceState.admits_iff

theorem endpoints_eq (h : l.available = .ok available) : l.endpoints = available := by
  rw [endpoints, h]
  rfl

end Lookup

abbrev RelayLog := List (EndpointAddr × Option Lookup)

def Target (cfg : Config) (lookup : Option Lookup) (addr : EndpointAddr) : Prop :=
  ∃ l, lookup = some l ∧ l.Admits cfg addr

/-- All relays went to endpoints that a selection for archival data admits. -/
def Routed (cfg : Config) (sent : RelayLog) : Prop :=
  ∀ relay ∈ sent, Target cfg relay.2 relay.1

def newRelays (before after : List RelayStart) (lookup : Option Lookup) : RelayLog :=
  (after.drop before.length).map (fun start => (start.endpointAddr, lookup))

section Routed

variable {cfg : Config} {sent : RelayLog} {lookup : Option Lookup}
  {before new : List RelayStart}

theorem newRelays_append :
    newRelays before (before ++ new) lookup =
      new.map (fun start => (start.endpointAddr, lookup)) := by
  rw [newRelays, drop_left]

@[simp] theorem newRelays_self : newRelays before before lookup = [] := by
  rw [newRelays, drop_length, map_nil]

theorem Routed.append (h : Routed cfg sent)
    (hnew : ∀ start ∈ new, Target cfg lookup start.endpointAddr) :
    Routed cfg (sent ++ newRelays before (before ++ new) lookup) := by
  intro relay hrelay
  rw [newRelays_append, mem_append] at hrelay
  rcases hrelay with hold | hrelay
  · exact h relay hold
  · obtain ⟨start, hstart, rfl⟩ := mem_map.mp hrelay
    exact hnew start hstart

end Routed

structure BatchGateway where
  evm : Config
  archivalHeuristic : Option ArchivalHeuristic
  heur : Heuristics
  retryConfig : Option RetryConfig
  circuitBreaker : Option (List String)
  scored : EndpointAddr → Bool
  maxParallelEndpoints : ℕ
  maxBatchPayloads : Int

/-- What an attempt meets: its lookup, the scores, and the numbers that are drawn. -/
structure Attempt extends Lookup where
  selectDraws : List ℕ
  ranking : Ranking
  rankDraws : List ℕ
  buildErr : Option GoError

namespace BatchGateway

variable (gw : BatchGateway)

def rank (ranking : Ranking) (draws : List ℕ) (endpoints : List EndpointAddr) : EndpointAddr :=
  (ranking.selectTopRankedEndpoint gw.evm.net gw.evm.settings gw.evm.serviceID .jsonRPC endpoints
    draws).1

def select (l : Lookup) (requiresArchival : Bool) (draws : List ℕ) (endpoints : List EndpointAddr)
    (numEndpoints : ℕ) : Except GoError (List EndpointAddr) :=
  (l.service.selectMultipleWithArchival gw.evm l.now endpoints numEndpoints requiresArchival
    draws).1.mapError SelectionError.text

def answers (requiresArchival : Bool) (a : Attempt) : AttemptAnswers where
  available := a.available
  select endpoints := gw.select a.toLookup requiresArchival a.selectDraws endpoints endpoints.length
  rank := gw.rank a.ranking a.rankDraws
  buildErr := a.buildErr

variable {gw}

theorem picks_rank (ranking : Ranking) (draws : List ℕ) : Picks (gw.rank ranking draws) :=
  fun _ hne => Ranking.always_selectTopRankedEndpoint hne draws

theorem mem_validated {a : Attempt} {available : List EndpointAddr} {addr : EndpointAddr}
    (havailable : a.available = .ok available) :
    addr ∈ (gw.answers false a).validated available ↔ addr ∈ a.pool gw.evm false := by
  rw [Lookup.pool, Lookup.endpoints_eq havailable]
  by_cases hnil : available = []
  · subst hnil
    exact Iff.rfl
  have hpool : ∀ addr, (∃ selected, (a.service.selectMultipleWithArchival gw.evm a.now available
      available.length false a.selectDraws).1 = .ok selected ∧ addr ∈ selected) ↔
        addr ∈ a.service.pool gw.evm a.now false available :=
    ServiceState.always_selectMultipleWithArchival_pool a.selectDraws
  have hne : a.service.pool gw.evm a.now false available ≠ [] := ServiceState.pool_ne_nil hnil
  obtain ⟨ep, hep⟩ := exists_mem_of_ne_nil _ hne
  -- the selection succeeds and is not empty, so the endpoints are the selected ones
  obtain ⟨selected, hselected, hmem⟩ := (hpool ep).mpr hep
  have hvalidated : (gw.answers false a).validated available = selected := by
    simp only [AttemptAnswers.validated, BatchGateway.answers, select, hselected, Except.mapError]
    cases selected with
    | nil => cases hmem
    | cons => rfl
  rw [hvalidated, ← hpool addr, hselected]
  simp

end BatchGateway

end PathGateway.Evm
