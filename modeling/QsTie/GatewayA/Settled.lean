import QsTie.GatewayA.Lifecycle

/-!
# How a transaction ends

The states in the journal say how a transaction ended.  One that is ACKED was set to
ACKED, one in the dead-letter store to FAILED or to POLICY_REJECTED (`dead_states`), and
none was set to two of them (`final_unique`).  A transaction in line has been set to no
such state (`not_final_of_line`).
-/

namespace QsTie.GatewayA

open QsTie.Lib

theorem mem_ackedIds {j : Journal} {id : String} :
    id ∈ ackedIds j ↔ .acked ∈ statesOf id j := by
  simp only [ackedIds, statesOf, List.mem_filterMap]
  constructor
  · rintro ⟨e, he, hacked⟩
    split at hacked
    · obtain rfl := Option.some.inj hacked
      exact ⟨_, he, by simp⟩
    · simp at hacked
  · rintro ⟨e, he, hstate⟩
    split at hstate
    · split at hstate
      · rename_i id' state hid
        obtain rfl := Option.some.inj hstate
        exact ⟨_, he, by rw [hid]⟩
      · simp at hstate
    · simp at hstate

/-- What is known of a transaction is known of one that was created. -/
theorem Known.created {p : Pipeline} {j : Journal} {x : Stage × Item} (h : Known p j x) :
    x.2.id ∈ createdIds j := by
  obtain ⟨t, hcreated, hsame⟩ := h.origin
  have hid : x.2.id = t.id := congrArg Prod.fst hsame.key
  rw [hid]
  exact mem_createdIds hcreated

/-- A state in which a dead-lettered transaction is left. -/
def TransactionState.refused (state : TransactionState) : Prop :=
  state = .failed ∨ state = .policyRejected

theorem TransactionState.refused.final {state : TransactionState} (h : state.refused) :
    state.final = true := by
  rcases h with rfl | rfl <;> rfl

/-- What is dead-lettered is set to such a state in the same step. -/
theorem refused_of_settle {s : State} {x : Stage × Item} {es : Journal} (h : Settle s x es)
    {id : String} (hid : id ∈ deadIds es) : ∃ state ∈ statesOf id es, state.refused := by
  cases h with
  | rejected it tlp recipientId reason =>
    obtain rfl : id = it.id := by simpa [deadIds] using hid
    exact ⟨.policyRejected, by simp [statesOf], Or.inr rfl⟩
  | unroutable it =>
    obtain rfl : id = it.id := by simpa [deadIds, fail] using hid
    exact ⟨.failed, by simp [statesOf, fail], Or.inl rfl⟩
  | failed it es reason hquiet =>
    rw [deadIds_append, (ids_of_quiet hquiet).2.2] at hid
    obtain rfl : id = it.id := by simpa [deadIds, fail] using hid
    exact ⟨.failed, by simp [statesOf, fail], Or.inl rfl⟩
  | acked it reason _ => simp [deadIds] at hid

/-- Only a transaction that leaves the line is dead-lettered. -/
theorem refused_of_effect {p : Pipeline} {s s' : State} {l : Label} {es : Journal}
    (h : Effect p s l s' es) {id : String} (hid : id ∈ deadIds es) :
    ∃ state ∈ statesOf id es, state.refused := by
  cases h with
  | still _ hquiet _ => simp [(ids_of_quiet hquiet).2.2] at hid
  | dequeue _ _ => simp [deadIds] at hid
  | enter it _ _ _ _ _ => simp [deadIds] at hid
  | change _ _ _ hchange => cases hchange <;> simp [deadIds] at hid
  | attempt _ _ _ hattempt _ => cases hattempt <;> simp [deadIds] at hid
  | settle _ _ _ _ hsettle => exact refused_of_settle hsettle hid
  | lose _ _ _ _ hlose _ =>
    cases hlose with
    | dropped it es hquiet => simp [(ids_of_quiet hquiet).2.2] at hid
    | _ => simp [deadIds] at hid

section Reachable

variable {p : Pipeline} {s : State} (hreach : Reach (step p) anyStep State.init s)
include hreach

/-- **A dead-lettered transaction has failed or was rejected.** -/
theorem dead_states {id : String} (hid : id ∈ deadIds s.journal) :
    ∃ state ∈ statesOf id s.journal, state.refused := by
  revert hid
  apply @Reach.invariant _ _ _ _ _ _
    (fun s => id ∈ deadIds s.journal → ∃ state ∈ statesOf id s.journal, state.refused) hreach
  · intro hid
    simp [State.init, deadIds] at hid
  · intro s s' l h _ hstep hid
    obtain ⟨es, hjournal, heffect⟩ := step_effect hstep
    rw [hjournal, deadIds_append] at hid
    rw [hjournal, statesOf_append]
    rcases List.mem_append.mp hid with hid | hid
    · obtain ⟨state, hstate, hrefused⟩ := h hid
      exact ⟨state, List.mem_append_left _ hstate, hrefused⟩
    · obtain ⟨state, hstate, hrefused⟩ := refused_of_effect heffect hid
      exact ⟨state, List.mem_append_right _ hstate, hrefused⟩

/-- **A transaction ends in one state.** -/
theorem final_unique {id : String} {state state' : TransactionState}
    (hstate : state ∈ statesOf id s.journal) (hstate' : state' ∈ statesOf id s.journal)
    (hfinal : state.final = true) (hfinal' : state'.final = true) : state = state' := by
  have hstaged := (traced_of_reach hreach).staged
  have hid : id ∈ createdIds s.journal := by
    by_contra hnone
    rw [hstaged.unknown id hnone] at hstate
    simp at hstate
  obtain ⟨before, fin, hsplit, hlen, hbefore⟩ := (hstaged.path id hid).split
  have hlast : ∀ state ∈ statesOf id s.journal, state.final = true → state ∈ fin := by
    intro state hmem hfinal
    rw [hsplit] at hmem
    rcases List.mem_append.mp hmem with hmem | hmem
    · rw [hbefore state hmem] at hfinal
      simp at hfinal
    · exact hmem
  have hone := hlast state hstate hfinal
  have hother := hlast state' hstate' hfinal'
  match fin, hlen with
  | [], _ => simp at hone
  | [_], _ => rw [List.mem_singleton.mp hone, List.mem_singleton.mp hother]

/-- **A transaction in line has not ended.** -/
theorem not_final_of_line {x : Stage × Item} (hx : x ∈ line s) {state : TransactionState}
    (hstate : state ∈ statesOf x.2.id s.journal) : state.final = false := by
  rw [(traced_of_reach hreach).staged.inLine x hx] at hstate
  obtain ⟨stage, it⟩ := x
  cases stage with
  | validated =>
    obtain rfl : state = .validated := by simpa [Stage.path] using hstate
    rfl
  | signed =>
    have hcases : state = .validated ∨ state = .signed := by simpa [Stage.path] using hstate
    rcases hcases with rfl | rfl <;> rfl
  | approved | sending =>
    simp only [Stage.path, List.mem_append, List.mem_cons, List.mem_replicate, List.not_mem_nil,
      or_false] at hstate
    rcases hstate with (rfl | rfl | rfl) | ⟨_, rfl⟩ <;> rfl

end Reachable

end QsTie.GatewayA
