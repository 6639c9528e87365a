import Mathlib.Data.List.Basic

/-!
# A producer, a queue and a consumer that stop

Two tasks hand items on through a queue.  Each reads the flag `running` only when
it is between two items; when the flag is down it leaves.  `Hop` is what keeps the
two from waiting for each other for ever: nothing is put for a consumer that has
left unless there is room for it, and a consumer that waits for a producer that
has left finds something in the queue.

What is left in the queue is a loss for some queues and none for others: `Clear`
says which contents a consumer may leave behind, `Room` when a producer may still
put once the consumer has left.
-/

namespace QsTie.Lib

/-- Where a task stands with respect to its queues. -/
inductive Stand where
  | idle
  | getting
  | putting
  | done
deriving DecidableEq

variable {α : Type} (Room Clear : List α → Prop)

structure Hop (running : Bool) (producer : Stand) (queue : List α) (consumer : Stand) : Prop where
  putting : producer = .putting → consumer = .done → Room queue
  getting : producer = .done → consumer = .getting → queue ≠ []
  done : consumer = .done → Clear queue
  stopped : producer = .done ∨ consumer = .done → running = false

/-- What can happen to the two tasks and their queue in one step. -/
inductive HopStep (running : Bool) (producer : Stand) (queue : List α) (consumer : Stand) :
    Bool → Stand → List α → Stand → Prop where
  | still : HopStep running producer queue consumer running producer queue consumer
  | stop : HopStep running producer queue consumer false producer queue consumer
  | produce {producer' : Stand} (hstays : producer' ≠ .done)
      (hput : producer' = .putting → consumer = .done → Room queue) :
      HopStep running producer queue consumer running producer' queue consumer
  | put (item : α) (hput : producer = .putting) :
      HopStep running producer queue consumer running .idle (queue ++ [item]) consumer
  | leave (hstopped : running = false) (hserved : consumer = .getting → queue ≠ []) :
      HopStep running producer queue consumer running .done queue consumer
  | consume {consumer' : Stand} (hstays : consumer' ≠ .done)
      (hget : consumer' = .getting → running = true) :
      HopStep running producer queue consumer running producer queue consumer'
  | take {item : α} {rest : List α} {consumer' : Stand} (hqueue : queue = item :: rest)
      (hstays : consumer' ≠ .done) (htaken : consumer' ≠ .getting) :
      HopStep running producer queue consumer running producer rest consumer'
  | quit (hstopped : running = false) (hclear : Clear queue)
      (hroom : producer = .putting → Room queue) :
      HopStep running producer queue consumer running producer queue .done

variable {Room Clear} {running running' : Bool} {producer producer' consumer consumer' : Stand}
  {queue queue' : List α}

/-- A producer at the top of its loop. -/
theorem HopStep.producer_loop (hserved : running = false → consumer = .getting → queue ≠ []) :
    HopStep Room Clear running producer queue consumer running
      (if running then .getting else .done) queue consumer := by
  cases running with
  | true => exact .produce (by simp) (by simp)
  | false => exact .leave rfl (hserved rfl)

/-- A consumer at the top of its loop. -/
theorem HopStep.consumer_loop
    (hquit : running = false → Clear queue ∧ (producer = .putting → Room queue)) :
    HopStep Room Clear running producer queue consumer running producer queue
      (if running then .getting else .done) := by
  cases running with
  | true => exact .consume (by simp) fun _ => rfl
  | false => exact .quit rfl (hquit rfl).1 (hquit rfl).2

/-- Every step keeps the hop, if what is put where there is room may be left behind. -/
theorem HopStep.keep (hleft : ∀ queue item, Room queue → Clear (queue ++ [item]))
    (h : Hop Room Clear running producer queue consumer)
    (hstep : HopStep Room Clear running producer queue consumer running' producer' queue'
      consumer') :
    Hop Room Clear running' producer' queue' consumer' := by
  cases hstep with
  | still => exact h
  | stop => exact ⟨h.putting, h.getting, h.done, fun _ => rfl⟩
  | produce hstays hput =>
    refine ⟨hput, fun hdone => absurd hdone hstays, h.done, ?_⟩
    rintro (hdone | hdone)
    · exact absurd hdone hstays
    · exact h.stopped (Or.inr hdone)
  | put item hput =>
    refine ⟨by simp, by simp, fun hdone => hleft _ item (h.putting hput hdone), ?_⟩
    rintro (hdone | hdone)
    · simp at hdone
    · exact h.stopped (Or.inr hdone)
  | leave hstopped hserved => exact ⟨by simp, fun _ => hserved, h.done, fun _ => hstopped⟩
  | consume hstays hget =>
    refine ⟨fun _ hdone => absurd hdone hstays, ?_, fun hdone => absurd hdone hstays, ?_⟩
    · -- a task goes to the queue only while the flag is up, and then the producer is there
      intro hdone hgetting
      have hdown := h.stopped (Or.inl hdone)
      rw [hget hgetting] at hdown
      simp at hdown
    · rintro (hdone | hdone)
      · exact h.stopped (Or.inl hdone)
      · exact absurd hdone hstays
  | take hqueue hstays htaken =>
    refine ⟨fun _ hdone => absurd hdone hstays, fun _ hgetting => absurd hgetting htaken,
      fun hdone => absurd hdone hstays, ?_⟩
    rintro (hdone | hdone)
    · exact h.stopped (Or.inl hdone)
    · exact absurd hdone hstays
  | quit hstopped hclear hroom =>
    exact ⟨fun hput _ => hroom hput, by simp, fun _ => hclear, fun _ => hstopped⟩

/-- A producer cannot be held up for ever by a consumer that waits or has left. -/
theorem Hop.not_putting (h : Hop Room Clear running producer queue consumer)
    (hfull : producer = .putting → queue ≠ [] ∧ ¬ Room queue)
    (hconsumer : consumer = .done ∨ consumer = .getting ∧ queue = []) : producer ≠ .putting := by
  intro hput
  obtain ⟨hne, hroom⟩ := hfull hput
  rcases hconsumer with hdone | ⟨_, hempty⟩
  · exact hroom (h.putting hput hdone)
  · exact hne hempty

/-- A consumer that has nothing to do leaves after its producer. -/
theorem Hop.done_of_done (h : Hop Room Clear running producer queue consumer)
    (hproducer : producer = .done)
    (hconsumer : consumer = .done ∨ consumer = .getting ∧ queue = []) : consumer = .done := by
  rcases hconsumer with hdone | ⟨hgetting, hempty⟩
  · exact hdone
  · exact absurd hempty (h.getting hproducer hgetting)

end QsTie.Lib
