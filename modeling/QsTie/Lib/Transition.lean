import Mathlib.Data.List.Basic

/-!
# Runs of a labelled step function

A system is a step function on states; the label of a step says which component
moves and what its surroundings answer.  A step that is not enabled gives `none`.

`Reach step good s₀ s` says that `s` is reached from `s₀` by steps that all meet
the condition `good`.  Invariants are proved one step at a time
(`Reach.invariant`); `Reach.project` carries the runs of a product to the runs of
one of its components.
-/

namespace QsTie.Lib

variable {S L : Type}

/-- Take the labelled steps in order. -/
def runLabels (step : S → L → Option S) : S → List L → Option S
  | s, [] => some s
  | s, l :: ls => (step s l).bind fun s' => runLabels step s' ls

/-- States reached from `s₀` by steps that all meet `good`. -/
inductive Reach (step : S → L → Option S) (good : S → L → Prop) (s₀ : S) : S → Prop where
  | start : Reach step good s₀ s₀
  | next {s s' : S} {l : L} (before : Reach step good s₀ s) (hgood : good s l)
      (hstep : step s l = some s') : Reach step good s₀ s'

/-- The steps that pass a check of the state they are taken in. -/
def guarded (step : S → L → Option S) (check : S → L → Bool) (s : S) (l : L) : Option S :=
  if check s l then step s l else none

/-- Every step is allowed. -/
def anyStep : S → L → Prop := fun _ _ => True

namespace Reach

variable {step : S → L → Option S} {good : S → L → Prop} {s₀ s s' : S}

/-- A condition that holds at the start and is kept by every good step holds
    throughout. -/
theorem invariant {Inv : S → Prop} (hreach : Reach step good s₀ s) (hstart : Inv s₀)
    (hkeep : ∀ {s s' l}, Inv s → good s l → step s l = some s' → Inv s') : Inv s := by
  induction hreach with
  | start => exact hstart
  | next _ hgood hstep ih => exact hkeep ih hgood hstep

/-- The invariant may use what is already known of reachable states. -/
theorem invariant_of_reach {Inv : S → Prop} (hreach : Reach step good s₀ s) (hstart : Inv s₀)
    (hkeep : ∀ {s s' l}, Reach step good s₀ s → Inv s → good s l → step s l = some s' →
      Inv s') : Inv s := by
  induction hreach with
  | start => exact hstart
  | next before hgood hstep ih => exact hkeep before ih hgood hstep

theorem mono {good' : S → L → Prop} (himp : ∀ s l, good s l → good' s l)
    (hreach : Reach step good s₀ s) : Reach step good' s₀ s := by
  induction hreach with
  | start => exact .start
  | next _ hgood hstep ih => exact ih.next (himp _ _ hgood) hstep

/-- A component of a product: when every step of the product is a step of the
    component or leaves it alone, the component of a reached state is reached. -/
theorem project {S' L' : Type} {step' : S' → L' → Option S'} (f : S → S')
    (hstep : ∀ {s s' l}, step s l = some s' → f s' = f s ∨ ∃ l', step' (f s) l' = some (f s'))
    (hreach : Reach step good s₀ s) : Reach step' anyStep (f s₀) (f s) := by
  induction hreach with
  | start => exact .start
  | @next s s' l _ _ hs ih =>
    rcases hstep hs with hsame | ⟨l', hl'⟩
    · rwa [hsame]
    · exact ih.next trivial hl'

theorem of_guarded {check : S → L → Bool} (hcheck : ∀ s l, check s l = true → good s l)
    (hreach : Reach (guarded step check) anyStep s₀ s) : Reach step good s₀ s := by
  induction hreach with
  | start => exact .start
  | @next s s' l _ _ hstep ih =>
    simp only [guarded] at hstep
    split at hstep
    · rename_i hpass
      exact ih.next (hcheck s l hpass) hstep
    · simp at hstep

/-- A run that the step function replays, with labels that are good in every state, is a
    way to reach its last state. -/
theorem of_runLabels {ls : List L} (hgood : ∀ l ∈ ls, ∀ s, good s l)
    (hreach : Reach step good s₀ s) (hrun : runLabels step s ls = some s') :
    Reach step good s₀ s' := by
  induction ls generalizing s with
  | nil =>
    simp only [runLabels, Option.some.injEq] at hrun
    exact hrun ▸ hreach
  | cons l ls ih =>
    simp only [runLabels, Option.bind_eq_some_iff] at hrun
    obtain ⟨s₁, hs₁, hrest⟩ := hrun
    exact ih (fun l' hl' => hgood l' (List.mem_cons_of_mem _ hl'))
      (hreach.next (hgood l List.mem_cons_self s) hs₁) hrest

/-- A property that a replayed run ends with holds in some reachable state. -/
theorem exists_of_run {ls : List L} {P : S → Bool} (hgood : ∀ l ∈ ls, ∀ s, good s l)
    (hrun : (runLabels step s₀ ls).map P = some true) :
    ∃ s, Reach step good s₀ s ∧ P s = true := by
  cases hend : runLabels step s₀ ls with
  | none => rw [hend] at hrun; simp at hrun
  | some s =>
    rw [hend] at hrun
    simp only [Option.map_some, Option.some.injEq] at hrun
    exact ⟨s, of_runLabels hgood .start hend, hrun⟩

end Reach

end QsTie.Lib
