import Mathlib.Algebra.GroupWithZero.Nat
import Mathlib.Data.List.Basic

/-!
# Programs that call their surroundings

A program is a finite tree of calls: it returns, raises, or calls an operation
and continues with the answer.  `raise` and `tryCatch` are the exceptions of the
host language, so a nest of `try` blocks keeps its shape here.

Three readings of a program are related below.  `run` answers every call with a
function of the history so far and gives the whole run.  `Steps` is one call at
a time, for interleaving.  `wp` is the weakest-precondition reading over a
contract: what must hold of the history whenever an operation is called, given
what the surroundings promise about the answers.  `wp_steps` and `complies_run`
say that the third bounds the other two.  `Within` bounds how often an operation is
called, `Guarded` says which comes first.
-/

namespace QsTie.Lib

/-- A program over the operations `Op`, where `op` is answered in `Ret op`. -/
inductive Prog (Op : Type) (Ret : Op → Type) (ε α : Type) where
  | ret (a : α)
  | raise (e : ε)
  | call (op : Op) (k : Ret op → Prog Op Ret ε α)

/-- One answered call. -/
structure Event (Op : Type) (Ret : Op → Type) where
  op : Op
  res : Ret op

namespace Prog

variable {Op : Type} {Ret : Op → Type} {ε α β : Type}

protected def bind (p : Prog Op Ret ε α) (f : α → Prog Op Ret ε β) : Prog Op Ret ε β :=
  match p with
  | .ret a => f a
  | .raise e => .raise e
  | .call op k => .call op fun r => (k r).bind f

/-- `try p except e: h e`. -/
def tryCatch (p : Prog Op Ret ε α) (h : ε → Prog Op Ret ε α) : Prog Op Ret ε α :=
  match p with
  | .ret a => .ret a
  | .raise e => h e
  | .call op k => .call op fun r => (k r).tryCatch h

instance : Monad (Prog Op Ret ε) where
  pure := .ret
  bind := Prog.bind

/-- Call one operation and return its answer. -/
def perform (op : Op) : Prog Op Ret ε (Ret op) := .call op .ret

/-- A computation that returns or raises without calling anything. -/
def ofExcept : Except ε α → Prog Op Ret ε α
  | .ok a => .ret a
  | .error e => .raise e

/-! ### Whole runs -/

/-- Run a program from the history `h`, answering each call by `ans`. -/
def run (ans : List (Event Op Ret) → (op : Op) → Ret op) :
    Prog Op Ret ε α → List (Event Op Ret) → Except ε α × List (Event Op Ret)
  | .ret a, h => (.ok a, h)
  | .raise e, h => (.error e, h)
  | .call op k, h => (k (ans h op)).run ans (h ++ [⟨op, ans h op⟩])

section Run

variable (ans : List (Event Op Ret) → (op : Op) → Ret op) (h : List (Event Op Ret))

@[simp] theorem run_ret (a : α) :
    (Prog.ret a : Prog Op Ret ε α).run ans h = (.ok a, h) := rfl

@[simp] theorem run_pure (a : α) :
    (pure a : Prog Op Ret ε α).run ans h = (.ok a, h) := rfl

@[simp] theorem run_raise (e : ε) :
    (Prog.raise e : Prog Op Ret ε α).run ans h = (.error e, h) := rfl

@[simp] theorem run_call (op : Op) (k : Ret op → Prog Op Ret ε α) :
    (Prog.call op k).run ans h = (k (ans h op)).run ans (h ++ [⟨op, ans h op⟩]) := rfl

@[simp] theorem run_perform (op : Op) :
    (perform op : Prog Op Ret ε (Ret op)).run ans h =
      (.ok (ans h op), h ++ [⟨op, ans h op⟩]) := rfl

theorem run_bind (p : Prog Op Ret ε α) (f : α → Prog Op Ret ε β) :
    (p >>= f).run ans h =
      match p.run ans h with
      | (.ok a, h') => (f a).run ans h'
      | (.error e, h') => (.error e, h') := by
  induction p generalizing h with
  | ret a => rfl
  | raise e => rfl
  | call op k ih => exact ih (ans h op) _

theorem run_tryCatch (p : Prog Op Ret ε α) (f : ε → Prog Op Ret ε α) :
    (p.tryCatch f).run ans h =
      match p.run ans h with
      | (.ok a, h') => (.ok a, h')
      | (.error e, h') => (f e).run ans h' := by
  induction p generalizing h with
  | ret a => rfl
  | raise e => rfl
  | call op k ih => exact ih (ans h op) _

end Run

/-! ### One call at a time -/

/-- `Steps p tr q`: the calls of `tr`, answered as recorded there, take `p` to `q`. -/
inductive Steps : Prog Op Ret ε α → List (Event Op Ret) → Prog Op Ret ε α → Prop where
  | refl (p : Prog Op Ret ε α) : Steps p [] p
  | call {op : Op} {k : Ret op → Prog Op Ret ε α} {tr : List (Event Op Ret)}
      {q : Prog Op Ret ε α} (r : Ret op) (rest : Steps (k r) tr q) :
      Steps (.call op k) (⟨op, r⟩ :: tr) q

/-- One more call at the end of a path. -/
theorem Steps.snoc {p : Prog Op Ret ε α} {tr : List (Event Op Ret)} {op : Op}
    {k : Ret op → Prog Op Ret ε α} (hs : Steps p tr (.call op k)) (r : Ret op) :
    Steps p (tr ++ [⟨op, r⟩]) (k r) := by
  generalize hq : Prog.call op k = q at hs
  induction hs with
  | refl p => subst hq; exact .call r (.refl _)
  | call r' _ ih => exact .call r' (ih hq)

theorem Steps.trans {p q r : Prog Op Ret ε α} {tr tr' : List (Event Op Ret)}
    (hs : Steps p tr q) (hs' : Steps q tr' r) : Steps p (tr ++ tr') r := by
  induction hs with
  | refl p => exact hs'
  | call a _ ih => exact .call a (ih hs')

/-- A path can be halted anywhere. -/
theorem Steps.split {p q : Prog Op Ret ε α} {tr tr' : List (Event Op Ret)}
    (hs : Steps p (tr ++ tr') q) : ∃ r, Steps p tr r ∧ Steps r tr' q := by
  induction tr generalizing p with
  | nil => exact ⟨p, .refl p, hs⟩
  | cons ev tr ih =>
    cases hs with
    | call a rest =>
      obtain ⟨r, hfirst, hsecond⟩ := ih rest
      exact ⟨r, .call a hfirst, hsecond⟩

/-- The program has returned or raised. -/
def Ended : Prog Op Ret ε α → Prop
  | .call _ _ => False
  | _ => True

theorem ended_ofExcept (result : Except ε α) : (ofExcept result : Prog Op Ret ε α).Ended := by
  cases result <;> trivial

/-- A path to the end makes the next call first. -/
theorem Steps.of_call {op : Op} {k : Ret op → Prog Op Ret ε α} {tr : List (Event Op Ret)}
    {q : Prog Op Ret ε α} (hs : Steps (.call op k) tr q) (hend : q.Ended) :
    ∃ r rest, tr = ⟨op, r⟩ :: rest ∧ Steps (k r) rest q := by
  cases hs with
  | refl => exact absurd hend id
  | call r rest => exact ⟨r, _, rfl, rest⟩

theorem Steps.eq_nil_of_ended {p q : Prog Op Ret ε α} {tr : List (Event Op Ret)}
    (hs : Steps p tr q) (hend : p.Ended) : tr = [] := by
  cases hs with
  | refl => rfl
  | call r rest => exact absurd hend id

/-- A whole run is a path that ends in the run's result. -/
theorem steps_run (ans : List (Event Op Ret) → (op : Op) → Ret op) (p : Prog Op Ret ε α)
    (h : List (Event Op Ret)) :
    ∃ tr, (p.run ans h).2 = h ++ tr ∧ Steps p tr (ofExcept (p.run ans h).1) := by
  induction p generalizing h with
  | ret a => exact ⟨[], by simp [run], .refl _⟩
  | raise e => exact ⟨[], by simp [run], .refl _⟩
  | call op k ih =>
    obtain ⟨tr, htr, hsteps⟩ := ih (ans h op) (h ++ [⟨op, ans h op⟩])
    refine ⟨⟨op, ans h op⟩ :: tr, ?_, .call _ hsteps⟩
    rw [run_call, htr, List.append_assoc]
    rfl

/-- Everything already in the history is still there after a run. -/
theorem prefix_run (ans : List (Event Op Ret) → (op : Op) → Ret op) (p : Prog Op Ret ε α)
    (h : List (Event Op Ret)) : h <+: (p.run ans h).2 := by
  obtain ⟨tr, htr, _⟩ := steps_run ans p h
  exact ⟨tr, htr.symm⟩

/-- A recorded answer was given by the surroundings. -/
theorem answer_of_mem_run (ans : List (Event Op Ret) → (op : Op) → Ret op) (p : Prog Op Ret ε α)
    {h : List (Event Op Ret)} {ev : Event Op Ret} (hmem : ev ∈ (p.run ans h).2) (hnew : ev ∉ h) :
    ∃ h', ans h' ev.op = ev.res := by
  induction p generalizing h with
  | ret a => exact absurd hmem hnew
  | raise e => exact absurd hmem hnew
  | call op k ih =>
    by_cases hev : ev = ⟨op, ans h op⟩
    · subst hev
      exact ⟨h, rfl⟩
    · apply ih (ans h op) hmem
      simp [hnew, hev]

end Prog

/-! ### Contracts -/

/-- `pre h op` must hold whenever `op` is called after the history `h`; `resp h op r`
    is what the surroundings promise about an answer `r` to `op` at that point. -/
structure Contract (Op : Type) (Ret : Op → Type) where
  pre : List (Event Op Ret) → Op → Prop
  resp : List (Event Op Ret) → (op : Op) → Ret op → Prop

namespace Prog

variable {Op : Type} {Ret : Op → Type} {ε α β : Type} (C : Contract Op Ret)

/-- Weakest precondition: started after `h`, every call meets `C.pre`, and a result
    is reached only with `Q`. -/
def wp (Q : Except ε α → List (Event Op Ret) → Prop) :
    Prog Op Ret ε α → List (Event Op Ret) → Prop
  | .ret a, h => Q (.ok a) h
  | .raise e, h => Q (.error e) h
  | .call op k, h => C.pre h op ∧ ∀ r, C.resp h op r → (k r).wp Q (h ++ [⟨op, r⟩])

variable {C}

theorem wp_mono {Q Q' : Except ε α → List (Event Op Ret) → Prop}
    (hQ : ∀ r h, Q r h → Q' r h) {p : Prog Op Ret ε α} {h : List (Event Op Ret)}
    (hp : p.wp C Q h) : p.wp C Q' h := by
  induction p generalizing h with
  | ret a => exact hQ _ _ hp
  | raise e => exact hQ _ _ hp
  | call op k ih => exact ⟨hp.1, fun r hr => ih r (hp.2 r hr)⟩

theorem wp_bind {Q : Except ε β → List (Event Op Ret) → Prop} {p : Prog Op Ret ε α}
    {f : α → Prog Op Ret ε β} {h : List (Event Op Ret)}
    (hp : p.wp C (fun r h' => match r with
      | .ok a => (f a).wp C Q h'
      | .error e => Q (.error e) h') h) :
    (p >>= f).wp C Q h := by
  induction p generalizing h with
  | ret a => exact hp
  | raise e => exact hp
  | call op k ih => exact ⟨hp.1, fun r hr => ih r (hp.2 r hr)⟩

theorem wp_tryCatch {Q : Except ε α → List (Event Op Ret) → Prop} {p : Prog Op Ret ε α}
    {f : ε → Prog Op Ret ε α} {h : List (Event Op Ret)}
    (hp : p.wp C (fun r h' => match r with
      | .ok a => Q (.ok a) h'
      | .error e => (f e).wp C Q h') h) :
    (p.tryCatch f).wp C Q h := by
  induction p generalizing h with
  | ret a => exact hp
  | raise e => exact hp
  | call op k ih => exact ⟨hp.1, fun r hr => ih r (hp.2 r hr)⟩

/-- Every call of `tr`, made after `h` and the calls before it, meets the contract. -/
def Complies (C : Contract Op Ret) (h tr : List (Event Op Ret)) : Prop :=
  ∀ before ev after, tr = before ++ ev :: after → C.pre (h ++ before) ev.op

/-- Every answer of `tr`, given after `h` and the calls before it, is as promised. -/
def Promised (C : Contract Op Ret) (h tr : List (Event Op Ret)) : Prop :=
  ∀ before ev after, tr = before ++ ev :: after → C.resp (h ++ before) ev.op ev.res

theorem Promised.cons {h tr : List (Event Op Ret)} {ev : Event Op Ret}
    (hresp : Promised C h (ev :: tr)) : C.resp h ev.op ev.res ∧ Promised C (h ++ [ev]) tr := by
  constructor
  · simpa using hresp [] ev tr rfl
  · intro before ev' after heq
    simpa using hresp (ev :: before) ev' after (by simp [heq])

theorem Promised.snoc {h tr : List (Event Op Ret)} {ev : Event Op Ret} (hresp : Promised C h tr)
    (hlast : C.resp (h ++ tr) ev.op ev.res) : Promised C h (tr ++ [ev]) := by
  intro before ev' after heq
  rcases List.eq_nil_or_concat after with rfl | ⟨front, last, rfl⟩
  · obtain ⟨rfl, hev⟩ := List.append_inj' heq rfl
    obtain rfl : ev = ev' := by simpa using hev
    exact hlast
  · rw [List.concat_eq_append, ← List.cons_append, ← List.append_assoc] at heq
    exact hresp before ev' front (List.append_inj' heq rfl).1

theorem Promised.of_append {h tr tr' : List (Event Op Ret)} (hresp : Promised C h (tr ++ tr')) :
    Promised C h tr := by
  intro before ev after heq
  exact hresp before ev (after ++ tr') (by simp [heq])

theorem Promised.append {h tr tr' : List (Event Op Ret)} (hresp : Promised C h tr)
    (hresp' : Promised C (h ++ tr) tr') : Promised C h (tr ++ tr') := by
  induction tr generalizing h with
  | nil => simpa using hresp'
  | cons first tr ih =>
    obtain ⟨hfirst, hrest⟩ := hresp.cons
    have hlater := ih hrest (by simpa using hresp')
    intro before ev after heq
    cases before with
    | nil =>
      obtain ⟨rfl, _⟩ := List.cons.inj heq
      simpa using hfirst
    | cons _ before =>
      obtain ⟨rfl, htail⟩ := List.cons.inj heq
      simpa using hlater before ev after htail

/-- **Adequacy, one call at a time.**  Along any path whose answers are as promised,
    every call meets the contract and what is left still has its precondition. -/
theorem wp_steps {Q : Except ε α → List (Event Op Ret) → Prop} {p q : Prog Op Ret ε α}
    {h tr : List (Event Op Ret)} (hp : p.wp C Q h) (hs : Steps p tr q)
    (hresp : Promised C h tr) :
    Complies C h tr ∧ q.wp C Q (h ++ tr) := by
  induction hs generalizing h with
  | refl p =>
    refine ⟨?_, by simpa using hp⟩
    intro before ev after heq
    simp at heq
  | @call op k tr q r _ ih =>
    obtain ⟨hr, hlater⟩ := hresp.cons
    obtain ⟨hrest, hq⟩ := ih (hp.2 r hr) hlater
    refine ⟨?_, by simpa using hq⟩
    intro before ev after heq
    cases before with
    | nil =>
      simp only [List.nil_append, List.cons.injEq] at heq
      obtain ⟨rfl, _⟩ := heq
      simpa using hp.1
    | cons b before =>
      simp only [List.cons_append, List.cons.injEq] at heq
      obtain ⟨rfl, htail⟩ := heq
      simpa using hrest before ev after htail

/-- **Adequacy, whole runs.**  Every call of a run meets the contract. -/
theorem complies_run {Q : Except ε α → List (Event Op Ret) → Prop} {p : Prog Op Ret ε α}
    {h before after : List (Event Op Ret)} {ev : Event Op Ret} (hp : p.wp C Q h)
    (ans : List (Event Op Ret) → (op : Op) → Ret op) (hans : ∀ h op, C.resp h op (ans h op))
    (htrace : (p.run ans h).2 = h ++ before ++ ev :: after) : C.pre (h ++ before) ev.op := by
  induction p generalizing h before with
  | ret a => simp at htrace
  | raise e => simp at htrace
  | call op k ih =>
    rw [run_call] at htrace
    obtain ⟨tr, htr⟩ := prefix_run ans (k (ans h op)) (h ++ [⟨op, ans h op⟩])
    cases before with
    | nil =>
      rw [← htr] at htrace
      simp only [List.append_assoc, List.append_nil, List.append_cancel_left_eq,
        List.singleton_append, List.cons.injEq] at htrace
      rw [← htrace.1, List.append_nil]
      exact hp.1
    | cons b before =>
      have hb : b = ⟨op, ans h op⟩ := by
        rw [← htr] at htrace
        simp only [List.append_assoc, List.append_cancel_left_eq, List.cons_append,
          List.cons.injEq] at htrace
        exact htrace.1.symm
      subst hb
      have htrace' : ((k (ans h op)).run ans (h ++ [⟨op, ans h op⟩])).2 =
          (h ++ [⟨op, ans h op⟩]) ++ before ++ ev :: after := by simpa using htrace
      simpa using ih (ans h op) (hp.2 _ (hans h op)) htrace'

/-- The answers of a run are those of the surroundings that answer it. -/
theorem promised_run {p : Prog Op Ret ε α} {h tr : List (Event Op Ret)}
    (ans : List (Event Op Ret) → (op : Op) → Ret op) (hans : ∀ h op, C.resp h op (ans h op))
    (htrace : (p.run ans h).2 = h ++ tr) : Promised C h tr := by
  induction p generalizing h tr with
  | ret a =>
    obtain rfl : tr = [] := List.append_right_eq_self.mp htrace.symm
    intro before ev after heq
    simp at heq
  | raise e =>
    obtain rfl : tr = [] := List.append_right_eq_self.mp htrace.symm
    intro before ev after heq
    simp at heq
  | call op k ih =>
    rw [run_call] at htrace
    obtain ⟨rest, hrest⟩ := prefix_run ans (k (ans h op)) (h ++ [⟨op, ans h op⟩])
    obtain rfl : ⟨op, ans h op⟩ :: rest = tr := by
      rw [← hrest, List.append_assoc] at htrace
      exact List.append_cancel_left htrace
    have hlater := ih (ans h op) hrest.symm
    intro before ev after heq
    cases before with
    | nil =>
      obtain ⟨rfl, _⟩ := List.cons.inj heq
      rw [List.append_nil]
      exact hans h op
    | cons first before =>
      obtain ⟨rfl, htail⟩ := List.cons.inj heq
      simpa using hlater before ev after htail

/-! ### Budgets -/

/-- On every path the calls of the program cost at most `n` together. -/
def Within (cost : Op → Nat) (n : Nat) : Prog Op Ret ε α → Prop
  | .ret _ => True
  | .raise _ => True
  | .call op k => cost op ≤ n ∧ ∀ r, (k r).Within cost (n - cost op)

variable {cost : Op → Nat} {n m : Nat}

theorem Within.mono {p : Prog Op Ret ε α} (h : p.Within cost n) (hle : n ≤ m) :
    p.Within cost m := by
  induction p generalizing n m with
  | ret a => trivial
  | raise e => trivial
  | call op k ih => exact ⟨Nat.le_trans h.1 hle, fun r => ih r (h.2 r) (by omega)⟩

theorem Within.bind {p : Prog Op Ret ε α} {f : α → Prog Op Ret ε β} (hp : p.Within cost n)
    (hf : ∀ a, (f a).Within cost m) : (p >>= f).Within cost (n + m) := by
  induction p generalizing n with
  | ret a => exact (hf a).mono (Nat.le_add_left m n)
  | raise e => trivial
  | call op k ih =>
    obtain ⟨hcost, hk⟩ := hp
    refine ⟨by omega, ?_⟩
    intro r
    have hrest : n - cost op + m = n + m - cost op := by omega
    exact hrest ▸ ih r (hk r)

theorem Within.tryCatch {p : Prog Op Ret ε α} {f : ε → Prog Op Ret ε α} (hp : p.Within cost n)
    (hf : ∀ e, (f e).Within cost m) : (p.tryCatch f).Within cost (n + m) := by
  induction p generalizing n with
  | ret a => trivial
  | raise e => exact (hf e).mono (Nat.le_add_left m n)
  | call op k ih =>
    obtain ⟨hcost, hk⟩ := hp
    refine ⟨by omega, ?_⟩
    intro r
    have hrest : n - cost op + m = n + m - cost op := by omega
    exact hrest ▸ ih r (hk r)

theorem Within.steps {p q : Prog Op Ret ε α} {tr : List (Event Op Ret)} (hp : p.Within cost n)
    (hs : Steps p tr q) : (tr.map fun ev => cost ev.op).sum ≤ n := by
  induction hs generalizing n with
  | refl p => exact Nat.zero_le n
  | call r _ ih =>
    have hrest := ih (hp.2 r)
    have hcost := hp.1
    simp only [List.map_cons, List.sum_cons]
    omega

/-- What is left of the budget is enough for what is left of the program. -/
theorem Within.rest {p q : Prog Op Ret ε α} {tr : List (Event Op Ret)} (hp : p.Within cost n)
    (hs : Steps p tr q) : q.Within cost (n - (tr.map fun ev => cost ev.op).sum) := by
  induction hs generalizing n with
  | refl p => exact hp
  | call r _ ih =>
    have hrest := ih (hp.2 r)
    rw [Nat.sub_sub] at hrest
    simpa only [List.map_cons, List.sum_cons] using hrest

/-! ### Order -/

/-- On no path a `later` call comes before the first that is `sooner`. -/
def Guarded (sooner later : Op → Bool) : Prog Op Ret ε α → Prop
  | .ret _ => True
  | .raise _ => True
  | .call op k => sooner op = true ∨ later op = false ∧ ∀ r, (k r).Guarded sooner later

variable {sooner later : Op → Bool}

theorem Guarded.bind {p : Prog Op Ret ε α} {f : α → Prog Op Ret ε β}
    (hp : p.Guarded sooner later) (hf : ∀ a, (f a).Guarded sooner later) :
    (p >>= f).Guarded sooner later := by
  induction p with
  | ret a => exact hf a
  | raise e => trivial
  | call op k ih =>
    rcases hp with hsooner | ⟨hlater, hk⟩
    · exact Or.inl hsooner
    · exact Or.inr ⟨hlater, fun r => ih r (hk r)⟩

theorem Guarded.tryCatch {p : Prog Op Ret ε α} {f : ε → Prog Op Ret ε α}
    (hp : p.Guarded sooner later) (hf : ∀ e, (f e).Guarded sooner later) :
    (p.tryCatch f).Guarded sooner later := by
  induction p with
  | ret a => trivial
  | raise e => exact hf e
  | call op k ih =>
    rcases hp with hsooner | ⟨hlater, hk⟩
    · exact Or.inl hsooner
    · exact Or.inr ⟨hlater, fun r => ih r (hk r)⟩

theorem Guarded.steps {p q : Prog Op Ret ε α} {tr : List (Event Op Ret)}
    (hp : p.Guarded sooner later) (hs : Steps p tr q) (hnone : ∀ ev ∈ tr, sooner ev.op = false) :
    ∀ ev ∈ tr, later ev.op = false := by
  induction hs with
  | refl p => simp
  | @call op k tr q r _ ih =>
    have hop : sooner op = false := hnone ⟨op, r⟩ List.mem_cons_self
    rcases hp with hsooner | ⟨hlater, hk⟩
    · rw [hop] at hsooner
      simp at hsooner
    · intro ev hev
      rcases List.mem_cons.mp hev with rfl | hev
      · exact hlater
      · exact ih (hk r) (fun ev' hev' => hnone ev' (List.mem_cons_of_mem _ hev')) ev hev

end Prog

end QsTie.Lib
