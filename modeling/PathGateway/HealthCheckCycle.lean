import Mathlib.Data.List.Rotate
import Mathlib.Order.Interval.Finset.Nat
import PathGateway.HealthCheckSchedule

/-! One cycle of health checks for a service. The endpoints of one backend URL share one relay: the
representative is checked, and what came of it is recorded for the others as well. A check that is
disabled is not relayed, and is recorded as a success all the same. -/

namespace PathGateway

open List Nat

def HealthCheckConfig.isHTTP (c : HealthCheckConfig) : Bool :=
  decide (c.type ≠ .websocket ∧ c.type ≠ .grpc)

def urlGroup (endpoints : List EndpointInfo) (url : String) : List EndpointInfo :=
  (endpoints.filter (fun e => e.httpURL = url)).mergeSort (fun a b => decide (a.addr ≤ b.addr))

/-- Endpoints without a URL are groups of their own. -/
def groupEndpointsByURL (endpoints : List EndpointInfo) : List (List EndpointInfo) :=
  ((endpoints.map EndpointInfo.httpURL).filter (· ≠ "")).dedup.mergeSort.map (urlGroup endpoints) ++
    (endpoints.filter (fun e => e.httpURL = "")).map ([·])

def representativeIndex (cycle groupSize : ℕ) : ℕ :=
  if groupSize ≤ 1 then 0 else cycle % groupSize

structure CheckRecord (ω : Type) where
  addr : EndpointAddr
  check : HealthCheckConfig
  outcome : ω

namespace HealthCheckCycle

/-- Which sessions are active, what comes of a relay with a check to an endpoint, and the outcome
of a check that is skipped: no error, and a latency of zero. -/
structure Environment (ω : Type) where
  isSessionActive : String → Bool
  execute : EndpointInfo → HealthCheckConfig → ω
  skipped : ω

def Environment.endpointSessionActive {ω : Type} (env : Environment ω) (e : EndpointInfo) : Bool :=
  e.sessionID == "" || env.isSessionActive e.sessionID

def Environment.executeCheckViaProtocol {ω : Type} (env : Environment ω) (e : EndpointInfo)
    (c : HealthCheckConfig) : ω :=
  if c.isEnabled then env.execute e c else env.skipped

variable {ω : Type} (env : Environment ω) (checks : List HealthCheckConfig) (cycle : ℕ)

variable (grp endpoints : List EndpointInfo)

/-- The member whose turn it is, or the next one that is active. -/
def repIdx : ℕ :=
  let i := representativeIndex cycle grp.length
  (((range grp.length).map (fun off => (i + off) % grp.length)).find?
    (fun j => grp[j]?.any env.endpointSessionActive)).getD i

/-- The representative goes first. -/
def members : List EndpointInfo :=
  grp[repIdx env cycle grp]?.toList ++ grp.eraseIdx (repIdx env cycle grp)

/-- The HTTP checks that are made of the representative. -/
def outcomes : List (EndpointInfo × HealthCheckConfig) :=
  (grp[repIdx env cycle grp]?.filter env.endpointSessionActive).toList.flatMap (fun rep =>
    (checks.filter HealthCheckConfig.isHTTP).map (rep, ·))

def recipients : List (EndpointInfo × List (EndpointInfo × HealthCheckConfig)) :=
  (groupEndpointsByURL endpoints).flatMap (fun grp =>
    ((members env cycle grp).filter env.endpointSessionActive).map
      (·, outcomes env checks cycle grp))

def relays : List (EndpointInfo × HealthCheckConfig) :=
  (groupEndpointsByURL endpoints).flatMap (fun grp =>
    (outcomes env checks cycle grp).filter (fun o => o.2.isEnabled))

def records : List (CheckRecord ω) :=
  (recipients env checks cycle endpoints).flatMap (fun p =>
    p.2.map (fun o => ⟨p.1.addr, o.2, env.executeCheckViaProtocol o.1 o.2⟩))

/-- Every active endpoint has one outcome recorded for each HTTP check, and it is that of a relay
to the endpoint or to one with the same URL. -/
def Covered : Prop :=
  ∀ e ∈ endpoints, env.endpointSessionActive e = true →
    ∃ r ∈ endpoints, env.endpointSessionActive r = true ∧
      (r = e ∨ r.httpURL = e.httpURL ∧ e.httpURL ≠ "") ∧
      (records env checks cycle endpoints).filter (fun x => x.addr = e.addr) =
        (checks.filter HealthCheckConfig.isHTTP).map (fun c => ⟨e.addr, c, env.execute r c⟩) ∧
      ∀ c ∈ checks, c.isHTTP = true → (r, c) ∈ relays env checks cycle endpoints

variable {env checks cycle} {endpoints grp : List EndpointInfo} {e : EndpointInfo}

theorem flatMap_filter_perm {urls : List String} (hnodup : urls.Nodup) :
    (urls.flatMap (fun url => endpoints.filter (fun e => e.httpURL = url))).Perm
    (endpoints.filter (fun e => e.httpURL ∈ urls)) := by
  induction urls with
  | nil => simp
  | cons url urls ih =>
    obtain ⟨hnot, hnodup⟩ := nodup_cons.mp hnodup
    refine ((ih hnodup).append_left _).trans ?_
    refine .trans (.of_eq ?_) (filter_append_perm (fun e => decide (e.httpURL = url)) _)
    rw [filter_filter, filter_filter]
    congr 1
    · exact filter_congr fun e _ => by by_cases h : e.httpURL = url <;> simp [h]
    · refine filter_congr fun e _ => ?_
      by_cases h : e.httpURL = url <;> simp [h, hnot]

theorem mem_urlGroup {url : String} : e ∈ urlGroup endpoints url ↔
    e ∈ endpoints ∧ e.httpURL = url := by
  simp [urlGroup, mem_mergeSort]

theorem mem_groups (h : grp ∈ groupEndpointsByURL endpoints) :
    (∃ e ∈ endpoints, e.httpURL ≠ "" ∧ grp = urlGroup endpoints e.httpURL) ∨
      ∃ e ∈ endpoints, e.httpURL = "" ∧ grp = [e] := by
  rw [groupEndpointsByURL, mem_append, mem_map, mem_map] at h
  rcases h with ⟨url, hurl, rfl⟩ | ⟨e, he, rfl⟩
  · rw [mem_mergeSort, mem_dedup, mem_filter, mem_map] at hurl
    obtain ⟨⟨e, he, rfl⟩, hne⟩ := hurl
    exact .inl ⟨e, he, by simpa using hne, rfl⟩
  · rw [mem_filter] at he
    exact .inr ⟨e, he.1, by simpa using he.2, rfl⟩

theorem length_group_pos (h : grp ∈ groupEndpointsByURL endpoints) : 0 < grp.length := by
  rcases mem_groups h with ⟨e, he, -, rfl⟩ | ⟨e, -, -, rfl⟩
  · exact length_pos_of_mem (mem_urlGroup.mpr ⟨he, rfl⟩)
  · exact Nat.one_pos

theorem groups_perm : (groupEndpointsByURL endpoints).flatten.Perm endpoints := by
  have hsplit := filter_append_perm (fun e => decide (e.httpURL = "")) endpoints
  refine .trans ?_ (perm_append_comm.trans hsplit)
  rw [groupEndpointsByURL, flatten_append, ← flatMap_def, ← flatMap_def,
    flatMap_singleton']
  refine .append_right _ ?_
  have hnodup := (mergeSort_perm ((endpoints.map EndpointInfo.httpURL).filter (· ≠ "")).dedup
    (fun a b => decide (a ≤ b))).nodup_iff.mpr (nodup_dedup _)
  refine (Perm.flatMap_left _ fun url _ => mergeSort_perm _ _).trans
    ((flatMap_filter_perm hnodup).trans (.of_eq (filter_congr fun e he => ?_)))
  by_cases hurl : e.httpURL = ""
  · simp [mem_mergeSort, hurl]
  · have hmem : ∃ e' ∈ endpoints, e'.httpURL = e.httpURL := ⟨e, he, rfl⟩
    simp [mem_mergeSort, hurl, hmem]

theorem exists_group (he : e ∈ endpoints) : ∃ grp ∈ groupEndpointsByURL endpoints, e ∈ grp :=
  mem_flatten.mp (groups_perm.mem_iff.mpr he)

theorem representativeIndex_eq {n : ℕ} (hpos : 0 < n) :
    representativeIndex cycle n = cycle % n := by
  rw [representativeIndex]
  split
  · obtain rfl : n = 1 := by omega
    exact (mod_one _).symm
  · rfl

theorem repIdx_lt (hpos : 0 < grp.length) : repIdx env cycle grp < grp.length := by
  rw [repIdx]
  cases hfind : ((range grp.length).map (fun off =>
      (representativeIndex cycle grp.length + off) % grp.length)).find?
      (fun j => grp[j]?.any env.endpointSessionActive) with
  | none =>
    rw [Option.getD_none, representativeIndex_eq hpos]
    exact mod_lt _ hpos
  | some j =>
    obtain ⟨off, -, rfl⟩ := mem_map.mp (mem_of_find?_eq_some hfind)
    exact mod_lt _ hpos

theorem active_rep (he : e ∈ grp) (hactive : env.endpointSessionActive e = true) :
    ∃ r, grp[repIdx env cycle grp]? = some r ∧ env.endpointSessionActive r = true := by
  obtain ⟨k, hk, rfl⟩ := getElem_of_mem he
  have hpos : 0 < grp.length := by omega
  rw [repIdx]
  generalize hi : representativeIndex cycle grp.length = i
  have hlt : i < grp.length := by
    rw [← hi, representativeIndex_eq hpos]
    exact mod_lt _ hpos
  cases hfind : ((range grp.length).map (fun off => (i + off) % grp.length)).find?
      (fun j => grp[j]?.any env.endpointSessionActive) with
  | none =>
    have hmem : k ∈ (range grp.length).map (fun off => (i + off) % grp.length) := by
      refine mem_map.mpr ⟨(k + (grp.length - i)) % grp.length,
        mem_range.mpr (mod_lt _ hpos), ?_⟩
      have hsum : i + (k + (grp.length - i)) = k + grp.length := by omega
      rw [add_mod_mod, hsum, add_mod_right, mod_eq_of_lt hk]
    have hnot := find?_eq_none.mp hfind k hmem
    simp [getElem?_eq_getElem hk, hactive] at hnot
  | some j =>
    have hj := find?_some hfind
    rw [Option.any_eq_true] at hj
    exact hj

theorem members_perm (hpos : 0 < grp.length) : (members env cycle grp).Perm grp := by
  have hlt := @repIdx_lt _ env cycle grp hpos
  rw [members, getElem?_eq_getElem hlt]
  exact getElem_cons_eraseIdx_perm hlt

theorem filter_flatMap_of_nodup {α β κ : Type} [DecidableEq κ] {f : α → κ} {g : α → List β}
    {k : β → κ} {l : List α} {a : α} (hnodup : (l.map f).Nodup) (ha : a ∈ l)
    (hkey : ∀ x, ∀ b ∈ g x, k b = f x) : (l.flatMap g).filter (fun b => k b = f a) = g a := by
  have hown (x : α) : (g x).filter (fun b => k b = f a) = if f x = f a then g x else [] := by
    split_ifs with h
    · exact filter_eq_self.mpr fun b hb => by simp [hkey x b hb, h]
    · exact filter_eq_nil_iff.mpr fun b hb => by simp [hkey x b hb, h]
  induction l with
  | nil => cases ha
  | cons x l ih =>
    obtain ⟨hnot, hnodup⟩ := nodup_cons.mp hnodup
    rw [flatMap_cons, filter_append, hown]
    rcases mem_cons.mp ha with rfl | ha
    · have hrest : (l.flatMap g).filter (fun b => k b = f a) = [] := by
        refine filter_eq_nil_iff.mpr fun b hb => ?_
        obtain ⟨y, hy, hb⟩ := mem_flatMap.mp hb
        have hne : f y ≠ f a := fun heq => hnot (heq ▸ mem_map_of_mem hy)
        simp [hkey y b hb, hne]
      rw [if_pos rfl, hrest, append_nil]
    · have hne : f x ≠ f a := fun heq => hnot (heq ▸ mem_map_of_mem ha)
      rw [if_neg hne, nil_append, ih hnodup ha]

theorem nodup_recipients (hnodup : (endpoints.map EndpointInfo.addr).Nodup) :
    ((recipients env checks cycle endpoints).map (fun p => p.1.addr)).Nodup := by
  have hall : ((groupEndpointsByURL endpoints).flatMap (members env cycle)).Perm endpoints := by
    refine (Perm.flatMap_left _ fun grp hgrp => members_perm (length_group_pos hgrp)).trans ?_
    rw [flatMap_id']
    exact groups_perm
  have hfst : (recipients env checks cycle endpoints).map (fun p => p.1.addr) =
      (((groupEndpointsByURL endpoints).flatMap (members env cycle)).filter
        env.endpointSessionActive).map EndpointInfo.addr := by
    simp [recipients, map_flatMap, filter_flatMap, Function.comp_def]
  rw [hfst]
  exact ((hall.map _).nodup_iff.mpr hnodup).sublist (filter_sublist.map _)

theorem records_of_active (hnodup : (endpoints.map EndpointInfo.addr).Nodup) (he : e ∈ endpoints)
    (hactive : env.endpointSessionActive e = true) :
    ∃ r ∈ endpoints, env.endpointSessionActive r = true ∧
      (r = e ∨ r.httpURL = e.httpURL ∧ e.httpURL ≠ "") ∧
      (records env checks cycle endpoints).filter (fun x => x.addr = e.addr) =
        (checks.filter HealthCheckConfig.isHTTP).map
          (fun c => ⟨e.addr, c, env.executeCheckViaProtocol r c⟩) ∧
      ∀ c ∈ checks, c.isHTTP = true → c.isEnabled = true →
        (r, c) ∈ relays env checks cycle endpoints := by
  obtain ⟨grp, hgrp, hmem⟩ := exists_group he
  obtain ⟨r, hr, hractive⟩ := @active_rep _ env cycle grp e hmem hactive
  have hrmem : r ∈ grp := mem_of_getElem? hr
  have houtcomes : outcomes env checks cycle grp =
      (checks.filter HealthCheckConfig.isHTTP).map (r, ·) := by
    simp [outcomes, hr, Option.filter_some, hractive]
  have hpair : (e, outcomes env checks cycle grp) ∈ recipients env checks cycle endpoints := by
    refine mem_flatMap.mpr ⟨grp, hgrp, mem_map_of_mem (mem_filter.mpr ⟨?_, hactive⟩)⟩
    exact (members_perm (length_group_pos hgrp)).mem_iff.mpr hmem
  refine ⟨r, groups_perm.mem_iff.mp (mem_flatten.mpr ⟨grp, hgrp, hrmem⟩), hractive, ?_, ?_, ?_⟩
  · rcases mem_groups hgrp with ⟨x, -, hne, rfl⟩ | ⟨x, -, -, rfl⟩
    · obtain ⟨-, hurl⟩ := mem_urlGroup.mp hmem
      exact .inr ⟨(mem_urlGroup.mp hrmem).2.trans hurl.symm, hurl ▸ hne⟩
    · exact .inl ((mem_singleton.mp hrmem).trans (mem_singleton.mp hmem).symm)
  · have hrecords := filter_flatMap_of_nodup
      (g := fun p : EndpointInfo × List (EndpointInfo × HealthCheckConfig) =>
        p.2.map (fun o => (⟨p.1.addr, o.2, env.executeCheckViaProtocol o.1 o.2⟩ : CheckRecord ω)))
      (k := CheckRecord.addr) (nodup_recipients hnodup) hpair
      (fun p x hx => by
        obtain ⟨o, -, rfl⟩ := mem_map.mp hx
        rfl)
    refine hrecords.trans ?_
    simp [houtcomes, Function.comp_def]
  · intro c hc hhttp henabled
    refine mem_flatMap.mpr ⟨grp, hgrp, mem_filter.mpr ⟨?_, henabled⟩⟩
    rw [houtcomes]
    exact mem_map_of_mem (mem_filter.mpr ⟨hc, hhttp⟩)

theorem covered_iff (hnodup : (endpoints.map EndpointInfo.addr).Nodup) :
    Covered env checks cycle endpoints ↔
      ((∃ e ∈ endpoints, env.endpointSessionActive e = true) →
        ∀ c ∈ checks, c.isHTTP = true → c.isEnabled = true) := by
  constructor
  · rintro hcovered ⟨e, he, hactive⟩ c hc hhttp
    obtain ⟨r, -, -, -, -, hrelays⟩ := hcovered e he hactive
    obtain ⟨grp, -, hrelay⟩ := mem_flatMap.mp (hrelays c hc hhttp)
    exact (mem_filter.mp hrelay).2
  · intro henabled e he hactive
    obtain ⟨r, hr, hractive, hshared, hrecords, hrelays⟩ :=
      @records_of_active _ env checks cycle _ _ hnodup he hactive
    have henabled := henabled ⟨e, he, hactive⟩
    refine ⟨r, hr, hractive, hshared, hrecords.trans (map_congr_left fun c hc => ?_), ?_⟩
    · obtain ⟨hc, hhttp⟩ := mem_filter.mp hc
      rw [Environment.executeCheckViaProtocol, if_pos (henabled c hc hhttp)]
    · exact fun c hc hhttp => hrelays c hc hhttp (henabled c hc hhttp)

end HealthCheckCycle

def twoSuppliers : List EndpointInfo :=
  [⟨"pokt1a-https://node.example.com", "https://node.example.com", "", ""⟩,
    ⟨"pokt1b-https://node.example.com", "https://node.example.com", "", ""⟩]

end PathGateway
