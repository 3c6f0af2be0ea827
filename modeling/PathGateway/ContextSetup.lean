import PathGateway.SingleRequest

/-! The set-up of a request, one selected endpoint after the other. Whether the context of an
endpoint can be built is asked anew each time, so an endpoint can be unavailable at one time and
available at another. -/

namespace PathGateway

open Machine List Option

/-- What the environment answers while one selected endpoint is taken up. -/
structure TakeUp where
  build : EndpointAddr → BuildOutcome
  fresh : Except GoError (List EndpointAddr)

def TakeUp.answers (a : TakeUp) : RequestAnswers :=
  ⟨.ok [], fun endpoints _ => .ok endpoints, a.build, fun _ => a.fresh⟩

structure ContextSetup where
  selected : List EndpointAddr
  contexts : List (EndpointAddr × Option EndpointAddr)
  attempted : List EndpointAddr

namespace ContextSetup

def start (selected : List EndpointAddr) : ContextSetup := ⟨selected, [], []⟩

def endpoints (s : ContextSetup) : List EndpointAddr := s.contexts.map Prod.fst

def step (s : ContextSetup) (a : TakeUp) : Option ContextSetup :=
  match s.selected with
  | [] => none
  | ep :: rest =>
    let built := buildContext a.answers (s.contexts, s.attempted) ep
    some ⟨rest, built.1, built.2⟩

inductive Moves (s : ContextSetup) (a : TakeUp) : ContextSetup → Prop where
  | built {ep rest} (hselected : s.selected = ep :: rest) (hbuild : a.build ep = .built) :
    Moves s a ⟨rest, s.contexts ++ [(ep, none)], ep :: s.attempted⟩
  | dropped {ep rest attempted} (hselected : s.selected = ep :: rest)
    (hbuild : a.build ep ≠ .built) (hattempted : ∀ e ∈ s.attempted, e ∈ attempted) :
    Moves s a ⟨rest, s.contexts, attempted⟩
  | replaced {ep rest attempted fresh new} (hselected : s.selected = ep :: rest)
    (hunavailable : a.build ep = .unavailable) (hfresh : a.fresh = .ok fresh) (hmem : new ∈ fresh)
    (hnew : new ∉ ep :: s.attempted) (hbuild : a.build new = .built)
    (hattempted : ∀ e ∈ new :: s.attempted, e ∈ attempted) :
    Moves s a ⟨rest, s.contexts ++ [(new, some ep)], attempted⟩

end ContextSetup

theorem attempted_findReplacement {answers : RequestAnswers} (attempted fresh : List EndpointAddr) :
    (∀ e ∈ attempted, e ∈ (findReplacement answers attempted fresh).2) ∧
    ∀ new, (findReplacement answers attempted fresh).1 = some new →
      new ∈ (findReplacement answers attempted fresh).2 := by
  induction fresh generalizing attempted with
  | nil => exact ⟨fun e he => he, by simp [findReplacement]⟩
  | cons ep eps ih =>
    rw [findReplacement]
    split
    · exact ih attempted
    · split
      · refine ⟨fun e he => mem_cons_of_mem _ he, fun new hnew => ?_⟩
        cases hnew
        exact mem_cons_self
      · obtain ⟨hkept, hnew⟩ := ih (ep :: attempted)
        exact ⟨fun e he => hkept e (mem_cons_of_mem _ he), hnew⟩

namespace ContextSetup

variable {s s' : ContextSetup} {a : TakeUp} {selected : List EndpointAddr}

theorem moves_of_step (h : s.step a = some s') : s.Moves a s' := by
  unfold step at h
  split at h
  · cases h
  · rename_i ep rest hselected
    cases h
    unfold buildContext
    have hgrows : ∀ e ∈ s.attempted, e ∈ ep :: s.attempted := fun e he => mem_cons_of_mem _ he
    cases hbuild : a.answers.build ep with
    | built => exact .built hselected hbuild
    | failed => exact .dropped hselected (hbuild.trans_ne (by simp)) hgrows
    | unavailable =>
      have hnot : a.build ep ≠ .built := hbuild.trans_ne (by simp)
      dsimp only
      cases hfresh : a.answers.fresh ep with
      | error => exact .dropped hselected hnot hgrows
      | ok fresh =>
        dsimp only
        obtain ⟨hkept, hnew⟩ := @attempted_findReplacement a.answers (ep :: s.attempted) fresh
        have hkept e (he : e ∈ s.attempted) := hkept e (hgrows e he)
        cases hfound : (findReplacement a.answers (ep :: s.attempted) fresh).1 with
        | none =>
          rw [toList_none, map_nil, append_nil]
          exact .dropped hselected hnot hkept
        | some new =>
          obtain ⟨hmem, hother, hbuilt⟩ := mem_of_findReplacement hfound
          exact .replaced hselected hbuild hfresh hmem hother hbuilt
            (forall_mem_cons.mpr ⟨hnew new hfound, hkept⟩)

/-- A selected endpoint that stands in for another one already is not built once more. -/
def NotTwice (s : ContextSetup) (a : TakeUp) : Prop :=
  ∀ ep ∈ s.selected.head?, (∃ ctx ∈ s.contexts, ctx.1 = ep ∧ ctx.2.isSome) → a.build ep ≠ .built

instance (s : ContextSetup) (a : TakeUp) : Decidable (s.NotTwice a) :=
  inferInstanceAs (Decidable (∀ ep ∈ s.selected.head?, _ → _))

/-- The contexts are of attempted endpoints, and those to come have none but by replacement. -/
structure Orderly (s : ContextSetup) : Prop where
  nodup : s.selected.Nodup
  attempted : ∀ ctx ∈ s.contexts, ctx.1 ∈ s.attempted
  pending : ∀ ep ∈ s.selected, (ep, none) ∉ s.contexts

theorem orderly_start (h : selected.Nodup) : (start selected).Orderly :=
  ⟨h, by simp [start], by simp [start]⟩

theorem Orderly.step (h : s.Orderly) (hstep : s.step a = some s') : s'.Orderly := by
  obtain ⟨hnodup, hattempted, hpending⟩ := h
  cases moves_of_step hstep with
  | @built ep rest hselected hbuild =>
    rw [hselected] at hnodup hpending
    obtain ⟨hnot, hrest⟩ := nodup_cons.mp hnodup
    refine ⟨hrest, ?_, fun e he hmem => ?_⟩
    · simp only [mem_append, mem_singleton]
      rintro ctx (hold | rfl)
      · exact mem_cons_of_mem _ (hattempted ctx hold)
      · exact mem_cons_self
    · rcases mem_append.mp hmem with hold | hnew
      · exact hpending e (mem_cons_of_mem _ he) hold
      · obtain rfl : e = ep := congrArg Prod.fst (mem_singleton.mp hnew)
        exact hnot he
  | dropped hselected hbuild hgrows =>
    rw [hselected] at hnodup hpending
    exact ⟨(nodup_cons.mp hnodup).2, fun ctx hctx => hgrows _ (hattempted ctx hctx),
      fun e he => hpending e (mem_cons_of_mem _ he)⟩
  | @replaced ep rest attempted fresh new hselected _ _ _ _ _ hgrows =>
    rw [hselected] at hnodup hpending
    obtain ⟨hnew, hgrows⟩ := forall_mem_cons.mp hgrows
    refine ⟨(nodup_cons.mp hnodup).2, ?_, fun e he hmem => ?_⟩
    · simp only [mem_append, mem_singleton]
      rintro ctx (hold | rfl)
      · exact hgrows _ (hattempted ctx hold)
      · exact hnew
    · rcases mem_append.mp hmem with hold | hnew
      · exact hpending e (mem_cons_of_mem _ he) hold
      · cases mem_singleton.mp hnew

theorem Orderly.mem_endpoints {ep : EndpointAddr} (h : s.Orderly) (hep : ep ∈ s.selected) :
    ep ∈ s.endpoints ↔ ∃ ctx ∈ s.contexts, ctx.1 = ep ∧ ctx.2.isSome := by
  constructor
  · intro hmem
    obtain ⟨⟨e, replaced⟩, hctx, rfl⟩ := mem_map.mp hmem
    cases replaced with
    | none => exact absurd hctx (h.pending _ hep)
    | some => exact ⟨_, hctx, rfl, rfl⟩
  · rintro ⟨ctx, hctx, rfl, -⟩
    exact mem_map_of_mem hctx

theorem Orderly.nodup_step (h : s.Orderly) (hdistinct : s.endpoints.Nodup)
    (hstep : s.step a = some s') : s'.endpoints.Nodup ↔ s.NotTwice a := by
  have hattempted : ∀ e ∈ s.endpoints, e ∈ s.attempted := by
    intro e he
    obtain ⟨ctx, hctx, rfl⟩ := mem_map.mp he
    exact h.attempted ctx hctx
  cases moves_of_step hstep with
  | @built ep rest hselected hbuild =>
    have hep : ep ∈ s.selected := hselected ▸ mem_cons_self
    have hmap : (s.contexts ++ [(ep, none)]).map Prod.fst = s.endpoints ++ [ep] := by
      simp [endpoints]
    rw [endpoints, hmap, nodup_append_comm, singleton_append, nodup_cons,
      and_iff_left hdistinct, h.mem_endpoints hep]
    simp only [NotTwice, hselected, head?_cons, mem_some_iff, forall_eq', hbuild,
      ne_eq, not_true_eq_false, imp_false]
  | dropped hselected hbuild =>
    refine iff_of_true hdistinct ?_
    simp [NotTwice, hselected, hbuild]
  | @replaced ep rest attempted fresh new hselected hunavailable _ _ hnew _ _ =>
    have hmap : (s.contexts ++ [(new, some ep)]).map Prod.fst = s.endpoints ++ [new] := by
      simp [endpoints]
    have hnew : new ∉ s.attempted := fun hmem => hnew (mem_cons_of_mem _ hmem)
    rw [endpoints, hmap, nodup_append_comm, singleton_append, nodup_cons,
      and_iff_left hdistinct]
    refine iff_of_true (fun hmem => hnew (hattempted new hmem)) ?_
    simp [NotTwice, hselected, hunavailable]

theorem endpoints_prefix_step (hstep : s.step a = some s') : s.endpoints <+: s'.endpoints := by
  cases moves_of_step hstep with
  | built | replaced => exact (prefix_append _ _).map _
  | dropped => exact prefix_rfl

theorem endpoints_prefix_run {answers : List TakeUp}
    (hrun : run step s answers = some s') : s.endpoints <+: s'.endpoints :=
  invariant_of_step (I := fun u => s.endpoints <+: u.endpoints)
    (fun _ _ _ h hstep => h.trans (endpoints_prefix_step hstep)) prefix_rfl hrun

/-- Distinct selected endpoints give contexts for distinct endpoints, where none is built in its
turn after it has replaced another one, and nowhere else. -/
theorem nodup_endpoints_iff (selected : List EndpointAddr) (hselected : selected.Nodup)
    (answers : List TakeUp) (s : ContextSetup)
    (hrun : run step (start selected) answers = some s) :
    s.endpoints.Nodup ↔ Machine.Meets step NotTwice (start selected) answers := by
  have hiff := always_iff_meets_under (I := fun u => u.endpoints.Nodup) (J := Orderly)
    (fun _ _ _ => Orderly.step) (fun _ _ _ => Orderly.nodup_step) (orderly_start hselected)
    nodup_nil hrun
  rw [← hiff]
  constructor
  · rintro hnodup pre post u rfl hpre
    rw [run_append, hpre, bind_some] at hrun
    exact hnodup.sublist (endpoints_prefix_run hrun).sublist
  · intro halways
    exact halways answers [] s (append_nil _).symm hrun

section Sample

def twoSelected : List EndpointAddr :=
  [addrA, addrB]

def firstUnavailable (fresh : List EndpointAddr) : List TakeUp :=
  replicate 2
    ⟨fun ep => if ep = addrA then .unavailable else .built, .ok fresh⟩

theorem replaced_by_another : ∃ s,
    run step (start twoSelected) (firstUnavailable [addrC]) =
        some s ∧
      s.endpoints = [addrC, addrB] ∧
      s.endpoints.Nodup := by
  refine exists_of_any (fun s => s.endpoints = [addrC,
    addrB]) (by decide +kernel) fun s hrun hendpoints => ?_
  refine ⟨hendpoints, ?_⟩
  exact (nodup_endpoints_iff twoSelected (by decide +kernel) _ s hrun).mpr (by decide +kernel)

theorem built_in_turn_as_well : ∃ s,
    run step (start twoSelected) (firstUnavailable [addrB]) =
        some s ∧
      s.selected = [] ∧
      s.endpoints = [addrB, addrB] ∧
      ¬s.endpoints.Nodup := by
  decide +kernel

end Sample

end ContextSetup

end PathGateway
