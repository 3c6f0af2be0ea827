import Mathlib.Data.List.Basic

/-! Machines with a partial step function: a run feeds a list of events to the
machine and fails at the first event that is not enabled. -/

namespace Machine

open Option

variable {σ ι : Type*} {step : σ → ι → Option σ} {C : σ → ι → Prop} {s t : σ} {e : ι}
  {es : List ι}

def run (step : σ → ι → Option σ) : σ → List ι → Option σ
  | s, [] => some s
  | s, e :: es => (step s e).bind (fun s' => run step s' es)

/-- Every event of the run meets the condition in the state it meets. -/
def Meets (step : σ → ι → Option σ) (C : σ → ι → Prop) : σ → List ι → Prop
  | _, [] => True
  | s, e :: es => C s e ∧ ∀ s', step s e = some s' → Meets step C s' es

instance Meets.decidable [∀ s e, Decidable (C s e)] : ∀ s es, Decidable (Meets step C s es)
  | _, [] => .isTrue trivial
  | s, e :: es =>
    match h : step s e with
    | none => decidable_of_iff (C s e) ⟨fun hC => ⟨hC, by simp [h]⟩, And.left⟩
    | some s' =>
      have := Meets.decidable s' es
      decidable_of_iff (C s e ∧ Meets step C s' es) (by simp [Meets, h])

variable {D : ι → Prop} {x : Option σ} {P : σ → Prop}

theorem Meets.of_forall (hall : ∀ e ∈ es, D e) : Meets step (fun _ e => D e) s es := by
  induction es generalizing s with
  | nil => trivial
  | cons e es ih =>
    obtain ⟨he, hes⟩ := List.forall_mem_cons.mp hall
    exact ⟨he, fun s' _ => ih hes⟩

theorem Meets.mono {D : σ → ι → Prop} (h : Meets step C s es) (himp : ∀ s e, C s e → D s e) :
    Meets step D s es := by
  induction es generalizing s with
  | nil => trivial
  | cons e es ih => exact ⟨himp s e h.1, fun s' hstep => ih (h.2 s' hstep)⟩

theorem Meets.and (h : Meets step C s es) (hall : ∀ e ∈ es, D e) :
    Meets step (fun s e => C s e ∧ D e) s es := by
  induction es generalizing s with
  | nil => trivial
  | cons e es ih =>
    obtain ⟨he, hes⟩ := List.forall_mem_cons.mp hall
    exact ⟨⟨h.1, he⟩, fun s' hstep => ih (h.2 s' hstep) hes⟩

theorem run_cons : run step s (e :: es) = some t ↔
    ∃ s', step s e = some s' ∧ run step s' es = some t := by
  rw [run, bind_eq_some_iff]

theorem exists_of_any (Q : σ → Prop) [DecidablePred Q] (h : x.any (fun s => decide (Q s)) = true)
    (hP : ∀ s, x = some s → Q s → P s) : ∃ s, x = some s ∧ P s := by
  cases x with
  | none => cases h
  | some s => exact ⟨s, rfl, hP s rfl (of_decide_eq_true h)⟩

theorem not_forall_of_any [DecidablePred P] (h : x.any (fun s => !decide (P s)) = true) :
    ¬∀ s, x = some s → P s := by
  cases x with
  | none => cases h
  | some s => exact fun hall => by simp [hall s rfl] at h

theorem exists₂_of_any {τ : Type*} {P : σ → τ → Prop} (Q : σ → Prop) [DecidablePred Q]
    (h : x.any (fun s => decide (Q s)) = true) (hP : ∀ s, x = some s → Q s → ∃ t, P s t) :
    ∃ s t, x = some s ∧ P s t := by
  obtain ⟨s, hs, t, ht⟩ := exists_of_any Q h hP
  exact ⟨s, t, hs, ht⟩

section Evaluation

variable {τ υ ω : Type*} {x : Option σ} {A : Prop}

/-- What a run on fixed events leads to is found by evaluation. -/
instance existsDecidable {P : σ → Prop} [DecidablePred P] : Decidable (∃ s, x = some s ∧ P s) :=
  match x with
  | none => .isFalse (by simp)
  | some s => decidable_of_iff (P s) (by simp)

instance exists₂Decidable {P : σ → τ → Prop} [∀ s, Decidable (∃ t, P s t)] :
    Decidable (∃ s t, x = some s ∧ P s t) :=
  decidable_of_iff (∃ s, x = some s ∧ ∃ t, P s t) (by simp)

instance exists₃Decidable {P : σ → τ → υ → Prop} [∀ s, Decidable (∃ t u, P s t u)] :
    Decidable (∃ s t u, x = some s ∧ P s t u) :=
  decidable_of_iff (∃ s, x = some s ∧ ∃ t u, P s t u) (by simp)

instance exists₄Decidable {P : σ → τ → υ → ω → Prop} [∀ s, Decidable (∃ t u v, P s t u v)] :
    Decidable (∃ s t u v, x = some s ∧ P s t u v) :=
  decidable_of_iff (∃ s, x = some s ∧ ∃ t u v, P s t u v) (by simp)

theorem exists₂_of_step {f : σ → Option τ}
    {P : σ → τ → Prop} (Q : σ → τ → Prop) (h : ∃ s, x = some s ∧ ∃ t, f s = some t ∧ Q s t)
    (hP : ∀ s t, x = some s → f s = some t → Q s t → P s t) :
    ∃ s t, x = some s ∧ f s = some t ∧ P s t := by
  obtain ⟨s, hs, t, ht, hq⟩ := h
  exact ⟨s, t, hs, ht, hP s t hs ht hq⟩

instance existsAndDecidable {P : σ → Prop} [Decidable A] [Decidable (∃ s, P s)] :
    Decidable (∃ s, A ∧ P s) :=
  decidable_of_iff (A ∧ ∃ s, P s) (by simp)

instance exists₂AndDecidable {P : σ → τ → Prop} [Decidable A] [Decidable (∃ s t, P s t)] :
    Decidable (∃ s t, A ∧ P s t) :=
  decidable_of_iff (A ∧ ∃ s t, P s t) (by simp)

end Evaluation

theorem run_append (s : σ) (pre post : List ι) :
    run step s (pre ++ post) = (run step s pre).bind (fun u => run step u post) := by
  induction pre generalizing s with
  | nil => rfl
  | cons e pre ih =>
    rw [List.cons_append, run, run, bind_assoc]
    exact congrArg _ (funext ih)

theorem Meets.both {D : σ → ι → Prop} (h : Meets step C s es) (h' : Meets step D s es) :
    Meets step (fun s e => C s e ∧ D s e) s es := by
  induction es generalizing s with
  | nil => trivial
  | cons e es ih => exact ⟨⟨h.1, h'.1⟩, fun s' hstep => ih (h.2 s' hstep) (h'.2 s' hstep)⟩

/-- A run that meets the condition does so up to any of its states and from there on. -/
theorem Meets.of_append {pre post : List ι} (h : Meets step C s (pre ++ post))
    (hrun : run step s pre = some t) : Meets step C s pre ∧ Meets step C t post := by
  induction pre generalizing s with
  | nil => exact some.inj hrun ▸ ⟨trivial, h⟩
  | cons e pre ih =>
    obtain ⟨s', he, hrun⟩ := run_cons.mp hrun
    obtain ⟨hpre, hpost⟩ := ih (h.2 s' he) hrun
    refine ⟨⟨h.1, fun s'' he' => ?_⟩, hpost⟩
    rw [he, some.injEq] at he'
    exact he' ▸ hpre

/-- The last event of a run meets the condition in the state that the others lead to. -/
theorem Meets.last (h : Meets step C s (es ++ [e])) (hrun : run step s es = some t) :
    Meets step C s es ∧ C t e := by
  obtain ⟨hmeets, hlast⟩ := h.of_append hrun
  exact ⟨hmeets, hlast.1⟩

def Reaches (step : σ → ι → Option σ) (s t : σ) : Prop := ∃ es, run step s es = some t

theorem Reaches.refl (s : σ) : Reaches step s s := ⟨[], rfl⟩

theorem Reaches.head {u : σ} (he : step s e = some t) (h : Reaches step t u) :
    Reaches step s u := by
  obtain ⟨es, hrun⟩ := h
  exact ⟨e :: es, run_cons.mpr ⟨t, he, hrun⟩⟩

theorem Reaches.trans {u : σ} (h : Reaches step s t) (h' : Reaches step t u) :
    Reaches step s u := by
  obtain ⟨es, hrun⟩ := h
  induction es generalizing s with
  | nil => exact some.inj hrun ▸ h'
  | cons e es ih =>
    obtain ⟨s', he, hrun⟩ := run_cons.mp hrun
    exact .head he (ih hrun)

variable {I : σ → Prop}

/-- A state with the goal is reached if, short of it, some step comes closer. -/
theorem exists_reaches (step : σ → ι → Option σ) {Q : σ → Prop} (rank : σ → ℕ)
    (hs : I s) (hmove : ∀ s, I s → ¬Q s → ∃ e s', step s e = some s' ∧ I s' ∧ rank s' < rank s) :
    ∃ t, Reaches step s t ∧ I t ∧ Q t := by
  induction hn : rank s using Nat.strongRecOn generalizing s with
  | _ n ih =>
    by_cases hQ : Q s
    · exact ⟨s, .refl s, hs, hQ⟩
    obtain ⟨e, s', he, hs', hlt⟩ := hmove s hs hQ
    obtain ⟨t, hreach, hgoal⟩ := ih _ (hn ▸ hlt) hs' rfl
    exact ⟨t, .head he hreach, hgoal⟩

theorem invariant (hstep : ∀ s e s', I s → C s e → step s e = some s' → I s') (hs : I s)
    (hmeets : Meets step C s es) (hrun : run step s es = some t) : I t := by
  induction es generalizing s with
  | nil => exact some.inj hrun ▸ hs
  | cons e es ih =>
    obtain ⟨s', he, hrun⟩ := run_cons.mp hrun
    exact ih (hstep s e s' hs hmeets.1 he) (hmeets.2 s' he) hrun

theorem invariant_of_step (hstep : ∀ s e s', I s → step s e = some s' → I s')
    (hs : I s) (hrun : run step s es = some t) : I t := by
  induction es generalizing s with
  | nil => exact some.inj hrun ▸ hs
  | cons e es ih =>
    obtain ⟨s', he, hrun⟩ := run_cons.mp hrun
    exact ih (hstep s e s' hs he) hrun

/-- The invariant may speak of how many of the events so far are of a kind. -/
theorem invariant_count {I : σ → ℕ → Prop} {p : ι → Bool} {n : ℕ}
    (hstep : ∀ s n e s', I s n → C s e → step s e = some s' → I s' (n + if p e then 1 else 0))
    (hs : I s n) (hmeets : Meets step C s es) (hrun : run step s es = some t) :
    I t (n + es.countP p) := by
  induction es generalizing s n with
  | nil => exact some.inj hrun ▸ hs
  | cons e es ih =>
    obtain ⟨s', he, hrun⟩ := run_cons.mp hrun
    have hrest := ih (hstep s n e s' hs hmeets.1 he) (hmeets.2 s' he) hrun
    rwa [List.countP_cons, Nat.add_comm (es.countP p), ← Nat.add_assoc]

/-- Under an invariant that steps meeting the condition keep, the condition may be replaced by
what it implies there. -/
theorem meets_of_invariant {D : σ → ι → Prop} (himp : ∀ s e, I s → C s e → D s e)
    (hstep : ∀ s e s', I s → C s e → step s e = some s' → I s') (hs : I s)
    (hmeets : Meets step C s es) : Meets step D s es := by
  induction es generalizing s with
  | nil => trivial
  | cons e es ih =>
    exact ⟨himp s e hs hmeets.1, fun s' he => ih (hstep s e s' hs hmeets.1 he) (hmeets.2 s' he)⟩

/-- How many steps of the run are related so. -/
def countSteps (step : σ → ι → Option σ) (r : σ → σ → Bool) : σ → List ι → ℕ
  | _, [] => 0
  | s, e :: es => (step s e).elim 0 fun s' => (if r s s' then 1 else 0) + countSteps step r s' es

/-- Where no step out of a state of a kind is related so, a run through such states has only its
first step to count. -/
theorem countSteps_le_one {r : σ → σ → Bool} {I P : σ → Prop}
    (hstep : ∀ s e s', I s → C s e → step s e = some s' → I s' ∧ (P s → r s s' = false)) (hs : I s)
    (hmeets : Meets step C s es) (hinner : ∀ front rest u, es = front ++ rest → front ≠ [] →
    rest ≠ [] → run step s front = some u → P u) : countSteps step r s es ≤ 1 := by
  -- from the second state on every step starts in such a state
  have hrest : ∀ es s, I s → Meets step C s es → (∀ front rest u, es = front ++ rest →
      rest ≠ [] → run step s front = some u → P u) → countSteps step r s es = 0 := by
    intro es
    induction es with
    | nil => exact fun _ _ _ _ => rfl
    | cons e es ih =>
      intro s hs hmeets hall
      rw [countSteps]
      cases he : step s e with
      | none => rfl
      | some s' =>
        obtain ⟨hs', hnot⟩ := hstep s e s' hs hmeets.1 he
        have hzero := ih s' hs' (hmeets.2 s' he) fun front rest u heq hne hrun =>
          hall (e :: front) rest u (congrArg _ heq) hne (run_cons.mpr ⟨s', he, hrun⟩)
        have hfirst := hnot (hall [] (e :: es) s rfl (by simp) rfl)
        rw [elim_some, hzero, hfirst]
        rfl
  cases es with
  | nil => exact Nat.zero_le _
  | cons e es =>
    rw [countSteps]
    cases he : step s e with
    | none => exact Nat.zero_le _
    | some s' =>
      have hs' := (hstep s e s' hs hmeets.1 he).1
      have hzero := hrest es s' hs' (hmeets.2 s' he) fun front rest u heq hne hrun =>
        hinner (e :: front) rest u (congrArg _ heq) (by simp) hne (run_cons.mpr ⟨s', he, hrun⟩)
      rw [elim_some, hzero]
      split <;> simp

/-- Where a step keeps the property exactly if it meets the condition, the states of a run all
have it exactly if the run meets the condition. -/
theorem always_iff_meets (hstep : ∀ s e s', I s → step s e = some s' → (I s' ↔ C s e)) (hs : I s)
    (hrun : run step s es = some t) :
    (∀ pre post u, es = pre ++ post → run step s pre = some u → I u) ↔ Meets step C s es := by
  constructor
  · intro halways
    induction es generalizing s with
    | nil => trivial
    | cons e es ih =>
      obtain ⟨s', he, hrun⟩ := run_cons.mp hrun
      have hs' : I s' := halways [e] es s' rfl (run_cons.mpr ⟨s', he, rfl⟩)
      refine ⟨(hstep s e s' hs he).mp hs', fun s'' he' => ?_⟩
      cases he.symm.trans he'
      exact ih hs' hrun fun pre post u heq hpre =>
        halways (e :: pre) post u (congrArg _ heq) (run_cons.mpr ⟨s', he, hpre⟩)
  · rintro hmeets pre post u rfl hpre
    induction pre generalizing s with
    | nil => exact some.inj hpre ▸ hs
    | cons e pre ih =>
      obtain ⟨s', he, hpre⟩ := run_cons.mp hpre
      obtain ⟨s'', he', hrun⟩ := run_cons.mp hrun
      cases he.symm.trans he'
      exact ih ((hstep s e s' hs he).mpr hmeets.1) hrun (hmeets.2 s' he) hpre

/-- The same where the property is only exact under an invariant. -/
theorem always_iff_meets_under {I J : σ → Prop} (hinv : ∀ s e s', J s → step s e = some s' → J s')
    (hstep : ∀ s e s', J s → I s → step s e = some s' → (I s' ↔ C s e)) (hJ : J s) (hs : I s)
    (hrun : run step s es = some t) :
    (∀ pre post u, es = pre ++ post → run step s pre = some u → I u) ↔ Meets step C s es := by
  have hboth := always_iff_meets (I := fun u => J u ∧ I u) (C := C)
    (fun s e s' h hse => ⟨fun h' => (hstep s e s' h.1 h.2 hse).mp h'.2,
      fun hC => ⟨hinv s e s' h.1 hse, (hstep s e s' h.1 h.2 hse).mpr hC⟩⟩) ⟨hJ, hs⟩ hrun
  rw [← hboth]
  refine ⟨fun h pre post u heq hpre => ⟨?_, h pre post u heq hpre⟩,
    fun h pre post u heq hpre => (h pre post u heq hpre).2⟩
  exact invariant_of_step hinv hJ hpre

/-- A run that does not meet the condition has a first state and event that break it. -/
theorem exists_break (hstep : ∀ s e s', I s → C s e → step s e = some s' → I s') (hs : I s)
    (hrun : run step s es = some t) (hnot : ¬Meets step C s es) :
    ∃ u e u' rest, I u ∧ ¬C u e ∧ step u e = some u' ∧ run step u' rest = some t := by
  induction es generalizing s with
  | nil => exact absurd trivial hnot
  | cons e es ih =>
    obtain ⟨s', he, hrun⟩ := run_cons.mp hrun
    by_cases hC : C s e
    · refine ih (hstep s e s' hs hC he) hrun fun hmeets => hnot ⟨hC, fun s'' he' => ?_⟩
      rw [he] at he'
      exact some.inj he' ▸ hmeets
    · exact ⟨s, e, s', es, hs, hC, he, hrun⟩

section Happens

/-- Some event of the run is as given, in the state it meets. -/
def Happens (step : σ → ι → Option σ) (P : σ → ι → Prop) : σ → List ι → Prop
  | _, [] => False
  | s, e :: es => P s e ∨ ∃ s', step s e = some s' ∧ Happens step P s' es

instance Happens.decidable {P : σ → ι → Prop} [∀ s e, Decidable (P s e)] :
    ∀ s es, Decidable (Happens step P s es)
  | _, [] => .isFalse id
  | s, e :: es =>
    match h : step s e with
    | none => decidable_of_iff (P s e) ⟨.inl, by simp [Happens, h]⟩
    | some s' =>
      have := Happens.decidable (P := P) s' es
      decidable_of_iff (P s e ∨ Happens step P s' es) (by simp [Happens, h])

theorem Happens.mono {P Q : σ → ι → Prop} (h : Happens step P s es)
    (himp : ∀ s, ∀ e ∈ es, P s e → Q s e) : Happens step Q s es := by
  induction es generalizing s with
  | nil => exact h
  | cons e es ih =>
    obtain ⟨he, hes⟩ := List.forall_mem_cons.mp (fun e he => (himp · e he))
    rcases h with h | ⟨s', hstep, h⟩
    · exact .inl (he s h)
    · exact .inr ⟨s', hstep, ih h fun u e' hmem => hes e' hmem u⟩

/-- The event, with the condition on the run up to it. -/
theorem Happens.exists_step {P : σ → ι → Prop} (h : Happens step P s es)
    (hmeets : Meets step C s es) (hrun : run step s es = some t) :
    ∃ pre e post u u', es = pre ++ e :: post ∧ run step s pre = some u ∧ Meets step C s pre ∧
    C u e ∧ P u e ∧ step u e = some u' := by
  induction es generalizing s with
  | nil => exact h.elim
  | cons e es ih =>
    obtain ⟨s', he, hrun⟩ := run_cons.mp hrun
    rcases h with h | ⟨s'', hstep, h⟩
    · exact ⟨[], e, es, s, s', rfl, rfl, trivial, hmeets.1, h, he⟩
    · cases he.symm.trans hstep
      obtain ⟨pre, e', post, u, u', heq, hpre, hmet, hC, hP, hu⟩ := ih h (hmeets.2 s' he) hrun
      refine ⟨e :: pre, e', post, u, u', congrArg _ heq, run_cons.mpr ⟨s', he, hpre⟩,
        ⟨hmeets.1, fun s'' hs'' => ?_⟩, hC, hP, hu⟩
      rw [he, some.injEq] at hs''
      exact hs'' ▸ hmet

end Happens

section Highest

variable {measure : ι → ℕ}

/-- The machine beside the highest measure of the events so far. -/
def withHighest (step : σ → ι → Option σ) (measure : ι → ℕ) (s : σ × ℕ) (e : ι) : Option (σ × ℕ) :=
  (step s.1 e).map (·, max s.2 (measure e))

theorem withHighest_eq_some {s t : σ × ℕ} : withHighest step measure s e = some t ↔
    step s.1 e = some t.1 ∧ t.2 = max s.2 (measure e) := by
  rw [withHighest, map_eq_some_iff]
  constructor
  · rintro ⟨u, hu, rfl⟩
    exact ⟨hu, rfl⟩
  · rintro ⟨hstep, heq⟩
    exact ⟨t.1, hstep, Prod.ext rfl heq.symm⟩

theorem run_withHighest (m : ℕ) (hrun : run step s es = some t) :
    run (withHighest step measure) (s, m) es = some (t, (es.map measure).foldl max m) := by
  induction es generalizing s m with
  | nil =>
    cases hrun
    rfl
  | cons e es ih =>
    obtain ⟨s', he, hrun⟩ := run_cons.mp hrun
    exact run_cons.mpr ⟨_, withHighest_eq_some.mpr ⟨he, rfl⟩, ih _ hrun⟩

end Highest

end Machine
