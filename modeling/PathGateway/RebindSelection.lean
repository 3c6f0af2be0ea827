import Mathlib.Data.List.MinMax
import Mathlib.Data.Prod.Lex
import PathGateway.Selector

/-! The endpoint that a WebSocket connection is rebound to. A forced rebind first leaves out the
operator, the backend or the endpoint that the connection must get away from, in this order of
preference; what is left is ranked, and chance decides among the best. -/

namespace PathGateway.Shannon

open Draws Selector List

inductive RebindAvoidScope where
  | avoidNothing
  | avoidBoundEndpoint
  | avoidBoundBackend
  | avoidBoundOperator
  deriving DecidableEq, Repr

def RebindAvoidScope.rungs : RebindAvoidScope → List RebindAvoidScope
  | .avoidNothing => []
  | .avoidBoundEndpoint => [.avoidBoundEndpoint]
  | .avoidBoundBackend => [.avoidBoundBackend, .avoidBoundEndpoint]
  | .avoidBoundOperator => [.avoidBoundOperator, .avoidBoundBackend, .avoidBoundEndpoint]

variable (net : NetLib) (endpoints : EndpointMap) (preferredAddr : EndpointAddr)

def excludedByScope (addr preferredAddr : EndpointAddr) : RebindAvoidScope → Bool
  | .avoidBoundOperator => operatorKey net addr == operatorKey net preferredAddr
  | .avoidBoundBackend => backendKey net addr == backendKey net preferredAddr
  | .avoidBoundEndpoint => addr == preferredAddr
  | .avoidNothing => false

def outsideScope (scope : RebindAvoidScope) : EndpointMap :=
  endpoints.retain (fun addr _ => !excludedByScope net addr preferredAddr scope)

def applyAvoidScope (want : RebindAvoidScope) : EndpointMap × RebindAvoidScope :=
  match want.rungs.find? (fun scope =>
    !(outsideScope net endpoints preferredAddr scope).isEmpty) with
  | none => (endpoints, .avoidNothing)
  | some scope => (outsideScope net endpoints preferredAddr scope, scope)

section Ranking

variable (scoreOf : Endpoint → ℚ)

def betterReconnectCandidate (a b : Endpoint) : Bool :=
  if a.isFallback ≠ b.isFallback then !a.isFallback
  else if scoreOf a ≠ scoreOf b then scoreOf b < scoreOf a
  else a.addr < b.addr

def bestReconnectEndpoint (order : List ((_ : EndpointAddr) × Endpoint)) : Option Endpoint :=
  order.foldl (fun best e =>
    match best with
    | none => some e.2
    | some b => if betterReconnectCandidate scoreOf e.2 b then some e.2 else some b) none

def selectBestReconnectEndpoint (endpoints : EndpointMap) : Draws (Option Endpoint) := do
  let order ← shuffle endpoints.entries
  pure (bestReconnectEndpoint scoreOf order)

def reconnectTopBand (order : List ((_ : EndpointAddr) × Endpoint)) : List EndpointAddr :=
  let hasNonFallback := order.any (fun e => !e.2.isFallback)
  let eligible := order.filter (fun e => !(hasNonFallback && e.2.isFallback))
  let maxScore := (eligible.map (fun e => scoreOf e.2)).maximum
  (eligible.filter (fun e => maxScore ≤ scoreOf e.2)).map Sigma.fst

end Ranking

/-- What the choice reads of the service and of the process. -/
structure RebindSettings where
  net : NetLib
  selection : SelectionSettings
  serviceID : ServiceID
  maxOperatorShare : ℚ
  operatorUniform : Bool

namespace RebindSettings

variable (c : RebindSettings) (scoreOf : Endpoint → ℚ) (endpoints : EndpointMap)

def pickFromBand (select : List EndpointAddr → Draws EndpointAddr) : Draws (Option Endpoint) := do
  if endpoints.entries.length ≤ 1 then selectBestReconnectEndpoint scoreOf endpoints
  else
    let order ← shuffle endpoints.entries
    let band := reconnectTopBand scoreOf order
    if band.length ≤ 1 then selectBestReconnectEndpoint scoreOf endpoints
    else
      let chosen ← select band
      match endpoints.lookup chosen with
      | some ep => pure (some ep)
      | none => selectBestReconnectEndpoint scoreOf endpoints

def selectReconnectEndpointOperatorUniform : Draws (Option Endpoint) :=
  pickFromBand scoreOf endpoints (selectOperatorUniform c.net c.selection c.serviceID)

def selectReconnectEndpointWithCap : Draws (Option Endpoint) :=
  if c.maxOperatorShare ≤ 0 ∨ 1 ≤ c.maxOperatorShare then
    selectBestReconnectEndpoint scoreOf endpoints
  else
    pickFromBand scoreOf endpoints (fun band =>
      selectWithConcentrationCap c.net c.selection c.serviceID band c.maxOperatorShare)

def selectRebindEndpoint : Draws (Option Endpoint) :=
  if c.operatorUniform then c.selectReconnectEndpointOperatorUniform scoreOf endpoints
  else c.selectReconnectEndpointWithCap scoreOf endpoints

end RebindSettings

/-- Why an attempt to rebind failed, as the metric labels it. -/
inductive RebindFailure where
  | noEndpoints
  | sessionError
  | dial
  | select
  deriving DecidableEq, Repr

inductive RebindChoice where
  | chosen (ep : Endpoint) (differentSupplier : Bool)
  | failed (reason : RebindFailure)
  | panicked

def RebindSettings.chooseRebindEndpoint (c : RebindSettings) (endpoints : EndpointMap)
    (preferredAddr : EndpointAddr) (avoidScope : RebindAvoidScope) (scoreOf : Endpoint → ℚ) :
    Draws RebindChoice :=
  if avoidScope ≠ .avoidNothing then
    let (endpoints, applied) := applyAvoidScope c.net endpoints preferredAddr avoidScope
    if applied = .avoidNothing then pure (.failed .noEndpoints)
    else do
      let ep ← c.selectRebindEndpoint scoreOf endpoints
      pure (ep.elim .panicked (.chosen · true))
  else
    let rotate : Bool := c.operatorUniform || (0 < c.maxOperatorShare && c.maxOperatorShare < 1)
    match if rotate then none else endpoints.lookup preferredAddr with
    | some ep => pure (.chosen ep false)
    | none => do
      let ep ← c.selectRebindEndpoint scoreOf endpoints
      pure (ep.elim .panicked (fun ep => .chosen ep (ep.addr ≠ preferredAddr)))

section AvoidScope

variable {net : NetLib} {endpoints : EndpointMap} {preferredAddr addr : EndpointAddr}
  {want : RebindAvoidScope} {ep : Endpoint}

theorem lookup_outsideScope {scope : RebindAvoidScope} :
    (outsideScope net endpoints preferredAddr scope).lookup addr = some ep ↔
    endpoints.lookup addr = some ep ∧ excludedByScope net addr preferredAddr scope = false := by
  simp [outsideScope]

theorem lookup_of_applyAvoidScope
    (h : (applyAvoidScope net endpoints preferredAddr want).1.lookup addr = some ep) :
    endpoints.lookup addr = some ep := by
  rw [applyAvoidScope] at h
  split at h
  · exact h
  · exact (lookup_outsideScope.mp h).1

theorem applyAvoidScope_eq (hwant : want ≠ .avoidNothing) (hl : endpoints.lookup addr = some ep)
    (hout : excludedByScope net addr preferredAddr want = false) :
    applyAvoidScope net endpoints preferredAddr want =
    (outsideScope net endpoints preferredAddr want, want) := by
  have hsome : (outsideScope net endpoints preferredAddr want).isEmpty = false :=
    GoMap.isEmpty_eq_false.mpr ⟨addr, ep, lookup_outsideScope.mpr ⟨hl, hout⟩⟩
  cases want with
  | avoidNothing => exact absurd rfl hwant
  | _ => simp [applyAvoidScope, RebindAvoidScope.rungs, hsome]

theorem isEmpty_applyAvoidScope
    (h : (applyAvoidScope net endpoints preferredAddr want).2 ≠ .avoidNothing) :
    (applyAvoidScope net endpoints preferredAddr want).1.isEmpty = false := by
  rw [applyAvoidScope] at h ⊢
  split at h
  · exact absurd rfl h
  · rename_i scope hfind
    simpa using find?_some hfind

end AvoidScope

section Best

variable {scoreOf : Endpoint → ℚ} {order : List ((_ : EndpointAddr) × Endpoint)}
  {addr : EndpointAddr} {ep : Endpoint}

def reconnectRank (scoreOf : Endpoint → ℚ) (ep : Endpoint) : Bool ×ₗ ℚ :=
  toLex (!ep.isFallback, scoreOf ep)

theorem reconnectRank_le {a b : Endpoint} : reconnectRank scoreOf a ≤ reconnectRank scoreOf b ↔
    (a.isFallback = true ∧ b.isFallback = false) ∨ a.isFallback = b.isFallback ∧
    scoreOf a ≤ scoreOf b := by
  rw [reconnectRank, reconnectRank, Prod.Lex.toLex_le_toLex]
  cases a.isFallback <;> cases b.isFallback <;> simp

theorem rank_le_of_better {a b : Endpoint} (h : betterReconnectCandidate scoreOf a b = true) :
    reconnectRank scoreOf b ≤ reconnectRank scoreOf a := by
  rw [reconnectRank_le]
  rw [betterReconnectCandidate] at h
  split at h
  · rename_i hne
    cases ha : a.isFallback <;> cases hb : b.isFallback <;> simp_all
  · rename_i heq
    split_ifs at h with hs
    · exact .inr ⟨(not_ne_iff.mp heq).symm, (of_decide_eq_true h).le⟩
    · exact .inr ⟨(not_ne_iff.mp heq).symm, (not_ne_iff.mp hs).ge⟩

theorem rank_le_of_not_better {a b : Endpoint} (h : betterReconnectCandidate scoreOf a b = false) :
    reconnectRank scoreOf a ≤ reconnectRank scoreOf b := by
  rw [reconnectRank_le]
  rw [betterReconnectCandidate] at h
  split at h
  · rename_i hne
    cases ha : a.isFallback <;> cases hb : b.isFallback <;> simp_all
  · rename_i heq
    split_ifs at h with hs
    · exact .inr ⟨not_ne_iff.mp heq, not_lt.mp (of_decide_eq_false h)⟩
    · exact .inr ⟨not_ne_iff.mp heq, (not_ne_iff.mp hs).le⟩

theorem bestReconnectEndpoint_spec (scoreOf : Endpoint → ℚ) (hne : order ≠ []) :
    ∃ e ∈ order, bestReconnectEndpoint scoreOf order = some e.2 ∧
    ∀ e' ∈ order, reconnectRank scoreOf e'.2 ≤ reconnectRank scoreOf e.2 := by
  rw [bestReconnectEndpoint]
  induction order using reverseRecOn with
  | nil => exact absurd rfl hne
  | append_singleton order last ih =>
    rw [foldl_append]
    by_cases hnil : order = []
    · subst hnil
      exact ⟨last, by simp, rfl, by simp⟩
    · obtain ⟨best, hmem, hbest, hmax⟩ := ih hnil
      rw [hbest]
      cases hbetter : betterReconnectCandidate scoreOf last.2 best.2 with
      | true =>
        refine ⟨last, by simp, by simp [hbetter], fun e he => ?_⟩
        rcases mem_append.mp he with he | he
        · exact (hmax e he).trans (rank_le_of_better hbetter)
        · rw [mem_singleton.mp he]
      | false =>
        refine ⟨best, by simp [hmem], by simp [hbetter], fun e he => ?_⟩
        rcases mem_append.mp he with he | he
        · exact hmax e he
        · rw [mem_singleton.mp he]
          exact rank_le_of_not_better hbetter

theorem eligible_iff {e : (_ : EndpointAddr) × Endpoint} :
    (!(order.any (fun e => !e.2.isFallback) && e.2.isFallback)) = true ↔
      (e.2.isFallback = true → ∀ e' ∈ order, e'.2.isFallback = true) :=
    by
  cases e.2.isFallback <;> simp

theorem maximum_map_le {ι : Type} {l : List ι} {f : ι → ℚ} {x : ℚ} :
    (l.map f).maximum ≤ x ↔ ∀ i ∈ l, f i ≤ x := by
  rw [← forall_mem_map (P := (· ≤ x))]
  refine ⟨fun h y hy => WithBot.coe_le_coe.mp ((le_maximum_of_mem' hy).trans h), fun h => ?_⟩
  exact maximum_le_of_forall_le fun y hy => WithBot.coe_le_coe.mpr (h y hy)

theorem mem_reconnectTopBand : addr ∈ reconnectTopBand scoreOf order ↔ ∃ ep, ⟨addr, ep⟩ ∈ order ∧
    ∀ e ∈ order, reconnectRank scoreOf e.2 ≤ reconnectRank scoreOf ep := by
  simp only [reconnectTopBand, maximum_map_le, mem_map, mem_filter, decide_eq_true_eq,
    eligible_iff, and_imp]
  constructor
  · rintro ⟨⟨addr, ep⟩, ⟨⟨hmem, hkind⟩, hmax⟩, rfl⟩
    refine ⟨ep, hmem, fun e he => reconnectRank_le.mpr ?_⟩
    cases hep : ep.isFallback with
    | true =>
      have hall := hkind hep
      exact .inr ⟨hall e he, hmax e he fun _ => hall⟩
    | false =>
      cases hfb : e.2.isFallback with
      | true => exact .inl ⟨rfl, rfl⟩
      | false => exact .inr ⟨rfl, hmax e he fun h => absurd h (by simp [hfb])⟩
  · rintro ⟨ep, hmem, htop⟩
    refine ⟨⟨addr, ep⟩, ⟨⟨hmem, fun hep e he => ?_⟩, fun e he hkind => ?_⟩, rfl⟩
    · rcases reconnectRank_le.mp (htop e he) with ⟨-, hnot⟩ | ⟨hsame, -⟩
      · exact absurd hep (by simp [hnot])
      · rw [hsame, hep]
    · rcases reconnectRank_le.mp (htop e he) with ⟨hfb, hnot⟩ | ⟨-, hle⟩
      · exact absurd (hkind hfb ⟨addr, ep⟩ hmem) (by simp [hnot])
      · exact hle

end Best

section Choice

variable {c : RebindSettings} {scoreOf : Endpoint → ℚ} {endpoints : EndpointMap}
  {preferredAddr : EndpointAddr} {scope : RebindAvoidScope}

def IsBest (scoreOf : Endpoint → ℚ) (endpoints : EndpointMap) (ep : Option Endpoint) : Prop :=
  ∃ addr e, ep = some e ∧ endpoints.lookup addr = some e ∧
    addr ∈ reconnectTopBand scoreOf endpoints.entries

theorem entries_ne_nil (hne : endpoints.isEmpty = false) : endpoints.entries ≠ [] :=
  isEmpty_eq_false_iff.mp hne

theorem always_selectBestReconnectEndpoint (hne : endpoints.isEmpty = false) :
    Always (IsBest scoreOf endpoints) (selectBestReconnectEndpoint scoreOf endpoints) := by
  refine (always_shuffle _).bind fun order hperm => .pure ?_
  have horder : order ≠ [] := fun h => entries_ne_nil hne (h ▸ hperm).nil_eq.symm
  obtain ⟨⟨addr, ep⟩, hmem, hbest, htop⟩ := bestReconnectEndpoint_spec scoreOf horder
  refine ⟨addr, ep, hbest, AList.mem_lookup_iff.mpr (hperm.mem_iff.mp hmem), ?_⟩
  exact mem_reconnectTopBand.mpr
    ⟨ep, hperm.mem_iff.mp hmem, fun e he => htop e (hperm.mem_iff.mpr he)⟩

theorem always_pickFromBand {select : List EndpointAddr → Draws EndpointAddr}
    (hselect : ∀ band, band ≠ [] → Always (· ∈ band) (select band))
    (hne : endpoints.isEmpty = false) :
    Always (IsBest scoreOf endpoints) (RebindSettings.pickFromBand scoreOf endpoints select) := by
  have hbest : Always (IsBest scoreOf endpoints) (selectBestReconnectEndpoint scoreOf endpoints) :=
    always_selectBestReconnectEndpoint hne
  rw [RebindSettings.pickFromBand]
  split
  · exact hbest
  · refine (always_shuffle _).bind fun order hperm => ?_
    dsimp only
    split_ifs with hlen
    · exact hbest
    · have hband : reconnectTopBand scoreOf order ≠ [] := fun h => hlen (by simp [h])
      refine (hselect _ hband).bind fun chosen hchosen => ?_
      split
      · rename_i ep hl
        refine .pure ⟨chosen, ep, rfl, hl, ?_⟩
        simpa only [mem_reconnectTopBand, hperm.mem_iff] using hchosen
      · exact hbest

theorem always_selectRebindEndpoint (hne : endpoints.isEmpty = false) :
    Always (IsBest scoreOf endpoints) (c.selectRebindEndpoint scoreOf endpoints) := by
  rw [RebindSettings.selectRebindEndpoint]
  split
  · exact always_pickFromBand (fun _ => always_selectOperatorUniform) hne
  · rw [RebindSettings.selectReconnectEndpointWithCap]
    split
    · exact always_selectBestReconnectEndpoint hne
    · exact always_pickFromBand (fun _ => always_selectWithConcentrationCap) hne

theorem always_chooseRebindEndpoint (hscope : scope ≠ .avoidNothing) : Always
    (fun choice => choice = .failed .noEndpoints ∨ ∃ addr ep, choice = .chosen ep true ∧
    (applyAvoidScope c.net endpoints preferredAddr scope).1.lookup addr = some ep ∧
    addr ∈ reconnectTopBand scoreOf (applyAvoidScope c.net endpoints preferredAddr scope).1.entries)
    (c.chooseRebindEndpoint endpoints preferredAddr scope scoreOf) := by
  rw [RebindSettings.chooseRebindEndpoint, if_pos hscope]
  dsimp only
  split_ifs with happlied
  · exact .pure (.inl rfl)
  · refine (always_selectRebindEndpoint (isEmpty_applyAvoidScope happlied)).bind fun ep hep => ?_
    obtain ⟨addr, e, rfl, hl, hband⟩ := hep
    exact .pure (.inr ⟨addr, e, rfl, hl, hband⟩)

end Choice

end PathGateway.Shannon
