import Mathlib.Algebra.GroupWithZero.Nat
import QsTie.Lib.Transition

/-!
# Runs that are paid for

A state holds some work, and a label may bring more.  When every step spends at
least one unit of it, a run is no longer than the work it starts with and the work
brought to it (`Spends.length_le`), in whatever order the steps are taken.  That a
step spends may rest on an invariant, which the steps then keep.
-/

namespace QsTie.Lib

variable {S L : Type} {step : S → L → Option S} {Inv : S → Prop} {work : S → Nat}
  {brings : L → Nat}

/-- Every step from a state of the invariant keeps it and spends at least one unit of work. -/
structure Spends (step : S → L → Option S) (Inv : S → Prop) (work : S → Nat)
    (brings : L → Nat) : Prop where
  keeps : ∀ {s l s'}, Inv s → step s l = some s' → Inv s'
  spends : ∀ {s l s'}, Inv s → step s l = some s' → work s' + 1 ≤ work s + brings l

/-- What is left at the end and the length of the run are paid from the start and from what
    the labels bring. -/
theorem Spends.length_le (hspends : Spends step Inv work brings) {ls : List L} {s s' : S}
    (hinv : Inv s) (hrun : runLabels step s ls = some s') :
    Inv s' ∧ work s' + ls.length ≤ work s + (ls.map brings).sum := by
  induction ls generalizing s with
  | nil =>
    simp only [runLabels, Option.some.injEq] at hrun
    subst hrun
    exact ⟨hinv, by simp⟩
  | cons l ls ih =>
    simp only [runLabels, Option.bind_eq_some_iff] at hrun
    obtain ⟨s₁, hs₁, hrest⟩ := hrun
    have hone := hspends.spends hinv hs₁
    obtain ⟨hinv', hmany⟩ := ih (hspends.keeps hinv hs₁) hrest
    refine ⟨hinv', ?_⟩
    simp only [List.map_cons, List.sum_cons, List.length_cons]
    omega

/-- Labels that bring nothing: the run is paid from the start alone. -/
theorem Spends.length_le_of_free (hspends : Spends step Inv work brings) {ls : List L} {s s' : S}
    (hinv : Inv s) (hfree : ∀ l ∈ ls, brings l = 0) (hrun : runLabels step s ls = some s') :
    ls.length ≤ work s := by
  have hpaid := (hspends.length_le hinv hrun).2
  have hnothing : (ls.map brings).sum = 0 := by
    clear hrun hpaid
    induction ls with
    | nil => rfl
    | cons l ls ih =>
      rw [List.map_cons, List.sum_cons, hfree l List.mem_cons_self,
        ih fun l' hl' => hfree l' (List.mem_cons_of_mem _ hl')]
  omega

end QsTie.Lib
