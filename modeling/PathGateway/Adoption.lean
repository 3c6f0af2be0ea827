import Mathlib.Data.List.Sort

/-! A state that takes over reports one after another. Whether a report is taken over depends on the
state that it meets, and a report that is taken over ranks above that state. -/

namespace Adoption

open List

variable {σ ε : Type*} (R : σ → σ → Prop) [DecidableRel R]

def adopt (p r : σ) : σ := if R p r then r else p

/-- The reports that the state would take over are all behind one of them, and none of them brings
in a report that the state itself would not take over. -/
def Settles (p : σ) (rs : List σ) : Prop :=
  (∀ g ∈ rs, ¬R p g) ∨ ∃ f ∈ rs, R p f ∧
    ∀ g ∈ rs, R p g → (g = f ∨ R g f) ∧ ∀ h ∈ rs, R g h → R p h

variable {R} {p : σ} {rs : List σ}

theorem foldl_adopt_of_not (h : ∀ r ∈ rs, ¬R p r) : rs.foldl (adopt R) p = p := by
  induction rs with
  | nil => rfl
  | cons r rs ih =>
    obtain ⟨hr, hrs⟩ := forall_mem_cons.mp h
    rw [foldl_cons, adopt, if_neg hr, ih hrs]

variable {height : σ → ℕ} (hup : ∀ p r, R p r → height p < height r)

include hup

/-- In falling order the highest report that the state takes over is the only one. -/
theorem foldl_adopt_of_falling (h : rs.Pairwise (fun a b => height b ≤ height a)) :
    (rs.foldl (adopt R) p = p ∧ ∀ r ∈ rs, ¬R p r) ∨ rs.foldl (adopt R) p ∈ rs ∧
    R p (rs.foldl (adopt R) p) ∧ ∀ r ∈ rs, R p r → height r ≤ height (rs.foldl (adopt R) p) := by
  induction rs with
  | nil => exact .inl ⟨rfl, by simp⟩
  | cons r rs ih =>
    obtain ⟨hle, hrs⟩ := pairwise_cons.mp h
    by_cases hr : R p r
    · have hstays : (r :: rs).foldl (adopt R) p = r := by
        rw [foldl_cons, adopt, if_pos hr]
        exact foldl_adopt_of_not fun g hg hadopts => (hle g hg).not_gt (hup _ _ hadopts)
      rw [hstays]
      exact .inr ⟨mem_cons_self, hr, forall_mem_cons.mpr ⟨fun _ => le_rfl, fun g hg _ => hle g hg⟩⟩
    · rw [foldl_cons, adopt, if_neg hr]
      rcases ih hrs with ⟨hsame, hnone⟩ | ⟨hmem, hadopts, hmax⟩
      · exact .inl ⟨hsame, forall_mem_cons.mpr ⟨hr, hnone⟩⟩
      · exact .inr ⟨mem_cons_of_mem _ hmem, hadopts,
          forall_mem_cons.mpr ⟨fun hr' => absurd hr' hr, hmax⟩⟩

theorem foldl_adopt_of_behind {f q : σ} {all : List σ} (hsub : rs ⊆ all) (hf : R p f)
    (hall : ∀ g ∈ all, R p g → (g = f ∨ R g f) ∧ ∀ h ∈ all, R g h → R p h)
    (hq : q = p ∨ q ∈ all ∧ R p q) (hleft : q = f ∨ f ∈ rs) : rs.foldl (adopt R) q = f := by
  induction rs generalizing q with
  | nil => exact hleft.resolve_right not_mem_nil
  | cons r rs ih =>
    obtain ⟨hr, hrs⟩ := cons_subset.mp hsub
    rw [foldl_cons, adopt]
    split_ifs with hadopts
    · have hpr : R p r := by
        rcases hq with rfl | ⟨hmem, hpq⟩
        · exact hadopts
        · exact (hall q hmem hpq).2 r hr hadopts
      refine ih hrs (.inr ⟨hr, hpr⟩) ?_
      rcases hleft with rfl | hmem
      · refine .inl (((hall r hr hpr).1).resolve_right fun hback => ?_)
        exact (hup _ _ hback).asymm (hup _ _ hadopts)
      · exact (mem_cons.mp hmem).imp_left Eq.symm
    · refine ih hrs hq ?_
      by_cases hat : q = f
      · exact .inl hat
      · have hqf : R q f := by
          rcases hq with rfl | ⟨hmem, hpq⟩
          · exact hf
          · exact (hall q hmem hpq).1.resolve_left hat
        refine .inr ((mem_cons.mp (hleft.resolve_left hat)).resolve_left ?_)
        rintro rfl
        exact hadopts hqf

theorem Settles.foldl_eq {rs' : List σ} (h : Settles R p rs) (hperm : rs'.Perm rs) :
    rs'.foldl (adopt R) p = rs.foldl (adopt R) p := by
  rcases h with hnone | ⟨f, hmem, hf, hall⟩
  · rw [foldl_adopt_of_not hnone, foldl_adopt_of_not fun r hr => hnone r (hperm.subset hr)]
  · rw [foldl_adopt_of_behind hup (Subset.refl rs) hf hall (.inl rfl) (.inr hmem),
      foldl_adopt_of_behind hup hperm.subset hf hall (.inl rfl) (.inr (hperm.mem_iff.mpr hmem))]

variable (report : ε → Option σ) {step : σ → ε → σ}
  (hstep : ∀ p e, step p e = (report e).elim p (adopt R p))

include hstep

omit hup in
theorem foldl_step (es : List ε) : es.foldl step p = (es.filterMap report).foldl (adopt R) p := by
  induction es generalizing p with
  | nil => rfl
  | cons e es ih =>
    rw [foldl_cons, ih, hstep]
    cases he : report e <;> simp [he]

omit hup hstep [DecidableRel R] in
theorem exists_perm_falling (height : σ → ℕ) (es : List ε) : ∃ es' : List ε, es'.Perm es ∧
    (es'.filterMap report).Pairwise (fun a b => height b ≤ height a) := by
  let key (e : ε) : ℕ := (report e).elim 0 height
  refine ⟨es.mergeSort (fun a b => key b ≤ key a), mergeSort_perm _ _, ?_⟩
  have hsorted : (es.mergeSort (fun a b => key b ≤ key a)).Pairwise _ :=
    pairwise_mergeSort (fun a b c hab hbc => ?_) (fun a b => ?_) es
  · refine hsorted.filterMap report fun a b hle x hx y hy => ?_
    simpa [key, hx, hy] using hle
  · simp only [decide_eq_true_eq] at hab hbc ⊢
    exact hbc.trans hab
  · simpa using le_total (key b) (key a)

/-- No order of the reports makes a difference exactly if they settle. -/
theorem foldl_perm_iff (hbetween : ∀ p g h f, R p g → R g h → R p f → height h ≤ height f → R p h)
    (es : List ε) : (∀ es' : List ε, es'.Perm es → es'.foldl step p = es.foldl step p) ↔
      Settles R p (es.filterMap report) := by
  constructor
  · intro hsame
    generalize es.foldl step p = f at hsame
    obtain ⟨falling, hperm, hfalling⟩ := exists_perm_falling report height es
    have hf := foldl_adopt_of_falling hup (p := p) hfalling
    rw [← foldl_step report hstep, hsame falling hperm] at hf
    simp only [(hperm.filterMap report).mem_iff] at hf
    rcases hf with ⟨-, hnone⟩ | ⟨hmem, hf, -⟩
    · exact .inl hnone
    -- begin with any report that the state takes over, and go on in falling order
    · refine .inr ⟨f, hmem, hf, fun g hg hpg => ?_⟩
      obtain ⟨e, he, hreport⟩ := mem_filterMap.mp hg
      obtain ⟨before, after, rfl⟩ := append_of_mem he
      obtain ⟨rest, hrest, hfalls⟩ := exists_perm_falling report height (before ++ after)
      have hperm' : (e :: rest).Perm (before ++ e :: after) := (hrest.cons e).trans perm_middle.symm
      have hreports (h : σ) (hh : h ∈ (before ++ e :: after).filterMap report) :
          h = g ∨ h ∈ rest.filterMap report := by
        rw [← (hperm'.filterMap report).mem_iff, filterMap_cons_some hreport] at hh
        exact mem_cons.mp hh
      have hnext := foldl_adopt_of_falling hup (p := g) hfalls
      have hstart : step p e = g := by rw [hstep, hreport, Option.elim_some, adopt, if_pos hpg]
      rw [← foldl_step report hstep, ← hstart, ← foldl_cons, hsame _ hperm', hstart] at hnext
      rcases hnext with ⟨rfl, hnone⟩ | ⟨-, hgf, hmax⟩
      · refine ⟨.inl rfl, fun h hh hgh => ?_⟩
        rcases hreports h hh with rfl | hin
        · exact hpg
        · exact absurd hgh (hnone h hin)
      · refine ⟨.inr hgf, fun h hh hgh => ?_⟩
        rcases hreports h hh with rfl | hin
        · exact hpg
        · exact hbetween _ _ _ _ hpg hgh hf (hmax h hin hgh)
  · intro hsettles es' hperm
    rw [foldl_step report hstep, foldl_step report hstep]
    exact hsettles.foldl_eq hup (hperm.filterMap report)

end Adoption
