import Mathlib.Data.List.Basic

/-!
# Traces

A property of a trace that says of every entry what must stand before it.
`EachFrom P past l` grows with the trace (`eachFrom_append`), and `EachFrom.at`
reads it at a place of the trace.  `none_or_first` splits a trace at the first entry
of a kind.
-/

namespace QsTie.Lib

variable {α : Type}

/-- No entry of the kind, or a first one. -/
theorem none_or_first (p : α → Prop) (l : List α) :
    (∀ a ∈ l, ¬ p a) ∨
      ∃ before a after, l = before ++ a :: after ∧ (∀ b ∈ before, ¬ p b) ∧ p a := by
  induction l with
  | nil => exact Or.inl fun a ha => absurd ha List.not_mem_nil
  | cons a l ih =>
    by_cases ha : p a
    · exact Or.inr ⟨[], a, l, rfl, fun b hb => absurd hb List.not_mem_nil, ha⟩
    · rcases ih with hnone | ⟨before, b, after, rfl, hbefore, hb⟩
      · left
        rintro c (_ | ⟨_, hc⟩)
        · exact ha
        · exact hnone c hc
      · right
        refine ⟨a :: before, b, after, rfl, ?_, hb⟩
        rintro c (_ | ⟨_, hc⟩)
        · exact ha
        · exact hbefore c hc

/-- Every entry of `l` meets `P` of all that came before it, `past` included. -/
def EachFrom (P : List α → α → Prop) : List α → List α → Prop
  | _, [] => True
  | past, a :: l => P past a ∧ EachFrom P (past ++ [a]) l

variable {P : List α → α → Prop} {past l l' : List α}

theorem eachFrom_append :
    EachFrom P past (l ++ l') ↔ EachFrom P past l ∧ EachFrom P (past ++ l) l' := by
  induction l generalizing past with
  | nil => simp [EachFrom]
  | cons a l ih =>
    simp only [List.cons_append, EachFrom, ih, List.append_assoc, List.nil_append, and_assoc]

/-- Entries that `P` does not ask anything of. -/
theorem eachFrom_of_forall (h : ∀ before, ∀ a ∈ l, P before a) : EachFrom P past l := by
  induction l generalizing past with
  | nil => trivial
  | cons a l ih =>
    exact ⟨h past a List.mem_cons_self, ih fun before b hb => h before b (List.mem_cons_of_mem _ hb)⟩

theorem EachFrom.at {before after : List α} {a : α} (h : EachFrom P past l)
    (hl : l = before ++ a :: after) : P (past ++ before) a := by
  rw [hl, eachFrom_append] at h
  exact h.2.1

end QsTie.Lib
