import QsTie.GatewayA.Conservation
import QsTie.Lib.Handoff

/-!
# Shutdown (`handle_shutdown` in `gateway_a/main.py`)

The signal handler clears the flags and closes the listener's socket; nothing
wakes a worker that waits in `get` or `put`.  `run_pipeline` then gathers the five
tasks.  They all end, with every transaction settled, in a run whose steps are
`Orderly`: sound, such that a task that leaves its loop leaves no work behind and no
task waiting, and without a backoff that overflows into an endless sleep.  The idle
pipeline has no such run: every worker waits for an item that never comes.
-/

namespace QsTie.GatewayA

open QsTie.Lib

/-! ### The condition on a step -/

def ListenerPc.stand : ListenerPc → Stand
  | .receiving => .idle
  | .putting _ => .putting
  | .done => .done

def ExtractorPc.stand : ExtractorPc → Stand
  | .top => .idle
  | .getting => .getting
  | .converting _ _ => .idle
  | .putting _ => .putting
  | .done => .done

def WorkerPc.stand : WorkerPc → Stand
  | .top => .idle
  | .getting => .getting
  | .putting _ => .putting
  | .done => .done

def TxPc.stand : TxPc → Stand
  | .getting => .getting
  | .done => .done
  | _ => .idle

/-- The conversion gives the extractor a transaction to put. -/
def ExtractorPc.converts (conv : Converter) : ExtractorPc → Bool
  | .converting event _ =>
    match convertAndValidate conv event with
    | .ok (some _) => true
    | _ => false
  | _ => false

/-- A task leaves, or goes on to put, only where it does not strand another task or a
    transaction. -/
def LeavesOrderly (p : Pipeline) (s : State) : Label → Prop
  | .listenerStop => s.extractor.stand = .getting → s.inQueue ≠ []
  | .extractorLoop => s.running = false →
      (s.signer.stand = .getting → s.extractedQueue ≠ []) ∧
      (s.listener.stand = .putting → full p.config.ingestionQueueMaxsize s.inQueue = false)
  | .extractorConvert conv _ _ => s.signer.stand = .done → s.extractor.converts conv = false
  | .signerLoop => s.running = false →
      (s.pep.stand = .getting → s.signedQueue ≠ []) ∧ s.extractedQueue = [] ∧
      s.extractor.stand ≠ .putting
  | .signerGet _ => s.pep.stand ≠ .done
  | .pepLoop => s.running = false →
      (s.tx.stand = .getting → s.txQueue ≠ []) ∧ s.signedQueue = [] ∧ s.signer.stand ≠ .putting
  | .pepGet _ => s.tx.stand = .done → ∀ it ∈ s.signedQueue.head?,
      (p.pep.authorize it.tx.stixBundle.tlpMarking it.tx.recipientId).1 = false
  | .txLoop => s.running = false → s.txQueue = [] ∧ s.pep.stand ≠ .putting
  | _ => True

instance (p : Pipeline) (s : State) (l : Label) : Decidable (LeavesOrderly p s l) := by
  cases l <;> dsimp only [LeavesOrderly] <;> infer_instance

def Orderly (p : Pipeline) (s : State) (l : Label) : Prop :=
  Sound p s l ∧ LeavesOrderly p s l ∧ SleepsEnd p s l

/-- Every task has ended. -/
def AllDone (s : State) : Prop :=
  s.listener = .done ∧ s.extractor = .done ∧ s.signer = .done ∧ s.pep = .done ∧ s.tx = .done

/-! ### The four hops -/

/-- The transactions of a queue are lost when its consumer leaves. -/
abbrev Strict (running : Bool) (producer : Stand) (queue : List Item) (consumer : Stand) : Prop :=
  Hop (fun _ => False) (fun queue => queue = []) running producer queue consumer

/-- MISP events are not transactions yet: the listener only has to get rid of its event. -/
abbrev Lenient (p : Pipeline) (running : Bool) (producer : Stand) (queue : List PyVal)
    (consumer : Stand) : Prop :=
  Hop (fun queue => full p.config.ingestionQueueMaxsize queue = false) (fun _ => True)
    running producer queue consumer

structure Hops (p : Pipeline) (s : State) : Prop where
  listener : Lenient p s.running s.listener.stand s.inQueue s.extractor.stand
  extractor : Strict s.running s.extractor.stand s.extractedQueue s.signer.stand
  signer : Strict s.running s.signer.stand s.signedQueue s.pep.stand
  pep : Strict s.running s.pep.stand s.txQueue s.tx.stand

inductive Task where
  | listener
  | extractor
  | signer
  | pep
  | tx
  | main
deriving DecidableEq

/-- The task that takes a step. -/
def Label.task : Label → Task
  | .receive _ => .listener
  | .listenerPut => .listener
  | .listenerStop => .listener
  | .extractorLoop => .extractor
  | .extractorGet => .extractor
  | .extractorConvert _ _ _ => .extractor
  | .extractorPut => .extractor
  | .signerLoop => .signer
  | .signerGet _ => .signer
  | .signerPut => .signer
  | .pepLoop => .pep
  | .pepGet _ => .pep
  | .pepPut => .pep
  | .txLoop => .tx
  | .txGet => .tx
  | .txOpened _ => .tx
  | .txSent _ _ => .tx
  | .txClosed => .tx
  | .txWake => .tx
  | .shutdown => .main

variable {p : Pipeline} {s s' : State} {l : Label}

/-! ### A step at each hop -/

@[simp] theorem ListenerPc.stand_done {pc : ListenerPc} : pc.stand = .done ↔ pc = .done := by
  cases pc <;> simp [ListenerPc.stand]

@[simp] theorem ExtractorPc.stand_getting {pc : ExtractorPc} :
    pc.stand = .getting ↔ pc = .getting := by
  cases pc <;> simp [ExtractorPc.stand]

@[simp] theorem ExtractorPc.stand_putting {pc : ExtractorPc} :
    pc.stand = .putting ↔ ∃ it, pc = .putting it := by
  cases pc <;> simp [ExtractorPc.stand]

@[simp] theorem ExtractorPc.stand_done {pc : ExtractorPc} : pc.stand = .done ↔ pc = .done := by
  cases pc <;> simp [ExtractorPc.stand]

@[simp] theorem WorkerPc.stand_getting {pc : WorkerPc} : pc.stand = .getting ↔ pc = .getting := by
  cases pc <;> simp [WorkerPc.stand]

@[simp] theorem WorkerPc.stand_putting {pc : WorkerPc} :
    pc.stand = .putting ↔ ∃ it, pc = .putting it := by
  cases pc <;> simp [WorkerPc.stand]

@[simp] theorem WorkerPc.stand_done {pc : WorkerPc} : pc.stand = .done ↔ pc = .done := by
  cases pc <;> simp [WorkerPc.stand]

@[simp] theorem TxPc.stand_getting {pc : TxPc} : pc.stand = .getting ↔ pc = .getting := by
  cases pc <;> simp [TxPc.stand]

@[simp] theorem TxPc.stand_done {pc : TxPc} : pc.stand = .done ↔ pc = .done := by
  cases pc <;> simp [TxPc.stand]

theorem ExtractorPc.stand_loop (running : Bool) :
    (if running then ExtractorPc.getting else .done).stand =
      if running then .getting else .done := by
  cases running <;> rfl

theorem WorkerPc.stand_loop (running : Bool) :
    (if running then WorkerPc.getting else .done).stand =
      if running then .getting else .done := by
  cases running <;> rfl

theorem TxPc.stand_loop (running : Bool) :
    (if running then TxPc.getting else .done).stand = if running then .getting else .done := by
  cases running <;> rfl

/-- What the transmission does with a transaction it never does at a queue. -/
theorem stand_attempt (cfg : GatewayAConfig) (it : Item) : (attempt cfg it).1.stand = .idle := by
  rcases attempt_cases cfg it with ⟨_, h⟩ | ⟨_, h⟩ <;> rw [h] <;> rfl

theorem stand_retryOrFail (cfg : GatewayAConfig) (it : Item) :
    (retryOrFail cfg it).1.stand = .idle := by
  rcases retryOrFail_cases cfg it with ⟨_, _, _, h⟩ | h | ⟨_, h⟩ <;> rw [h] <;> rfl

theorem stand_takeTransaction (cfg : GatewayAConfig) (it : Item) :
    (takeTransaction cfg it).1.stand = .idle := by
  rcases takeTransaction_cases cfg it with h | h
  · rw [h]
    exact stand_attempt cfg it
  · rw [h]
    rfl

theorem stand_afterOpen (cfg : GatewayAConfig) (it : Item) (result : Except PyExc Unit) :
    (afterOpen cfg it result).1.stand = .idle := by
  cases result with
  | error e => exact stand_retryOrFail cfg it
  | ok _ => rfl

theorem stand_afterClose (cfg : GatewayAConfig) (it : Item) (success : Bool) (reason : PyVal) :
    (afterClose cfg it success reason).1.stand = .idle := by
  simp only [afterClose]
  split
  · rfl
  · split
    · exact stand_retryOrFail cfg it
    · rfl

/-- What a step does at each of the four queues. -/
structure Moves (p : Pipeline) (s s' : State) : Prop where
  listener : HopStep (fun queue => full p.config.ingestionQueueMaxsize queue = false)
    (fun _ => True) s.running s.listener.stand s.inQueue s.extractor.stand
    s'.running s'.listener.stand s'.inQueue s'.extractor.stand
  extractor : HopStep (fun _ => False) (fun queue => queue = [])
    s.running s.extractor.stand s.extractedQueue s.signer.stand
    s'.running s'.extractor.stand s'.extractedQueue s'.signer.stand
  signer : HopStep (fun _ => False) (fun queue => queue = [])
    s.running s.signer.stand s.signedQueue s.pep.stand
    s'.running s'.signer.stand s'.signedQueue s'.pep.stand
  pep : HopStep (fun _ => False) (fun queue => queue = [])
    s.running s.pep.stand s.txQueue s.tx.stand
    s'.running s'.pep.stand s'.txQueue s'.tx.stand

theorem moves_listener (hl : l.task = .listener)
    (hhop : Lenient p s.running s.listener.stand s.inQueue s.extractor.stand)
    (horderly : LeavesOrderly p s l) (h : step p s l = some s') : Moves p s s' := by
  cases l with
  | receive event =>
    simp only [step] at h
    split at h
    · split at h
      · rename_i hrunning
        obtain rfl : _ = s' := by simpa using h
        refine ⟨.produce (by simp [ListenerPc.stand]) ?_, .still, .still, .still⟩
        -- while the flag is up the extractor is there
        intro _ hdone
        have hdown := hhop.stopped (Or.inr hdone)
        rw [hrunning] at hdown
        simp at hdown
      · simp at h
    · simp at h
  | listenerPut =>
    simp only [step] at h
    split at h
    · rename_i event hpc
      split at h
      · simp at h
      · obtain rfl : _ = s' := by simpa using h
        exact ⟨.put event (by rw [hpc]; rfl), .still, .still, .still⟩
    · simp at h
  | listenerStop =>
    simp only [step] at h
    split at h
    · split at h
      · simp at h
      · rename_i hrunning
        obtain rfl : _ = s' := by simpa using h
        exact ⟨.leave (by simpa using hrunning) horderly, .still, .still, .still⟩
    · simp at h
  | _ => simp [Label.task] at hl

theorem moves_extractor (hl : l.task = .extractor) (horderly : LeavesOrderly p s l)
    (h : step p s l = some s') : Moves p s s' := by
  cases l with
  | extractorLoop =>
    simp only [step] at h
    split at h
    · obtain rfl : _ = s' := by simpa using h
      constructor
      · simp only [ExtractorPc.stand_loop]
        apply HopStep.consumer_loop
        intro hstopped
        exact ⟨trivial, (horderly hstopped).2⟩
      · simp only [ExtractorPc.stand_loop]
        apply HopStep.producer_loop
        intro hstopped
        exact (horderly hstopped).1
      · exact .still
      · exact .still
    · simp at h
  | extractorGet =>
    simp only [step] at h
    split at h
    · rename_i hqueue
      obtain rfl : _ = s' := by simpa using h
      exact ⟨.take hqueue (by simp) (by simp), .produce (by simp) (by simp), .still, .still⟩
    · simp at h
  | extractorConvert conv id createdAtUnixMs =>
    simp only [step] at h
    split at h
    · rename_i event seq hpc
      simp only [finishConversion] at h
      split at h
      · obtain rfl : _ = s' := by simpa using h
        exact ⟨.consume (by simp) (by simp), .produce (by simp) (by simp), .still, .still⟩
      · obtain rfl : _ = s' := by simpa using h
        exact ⟨.consume (by simp) (by simp), .produce (by simp) (by simp), .still, .still⟩
      · rename_i bundle hbundle
        split at h
        · simp at h
        · obtain rfl : _ = s' := by simpa using h
          refine ⟨.consume (by simp) (by simp), .produce (by simp) ?_, .still, .still⟩
          intro _ hdone
          have hconverts := horderly hdone
          simp [ExtractorPc.converts, hpc, hbundle] at hconverts
    · simp at h
  | extractorPut =>
    simp only [step] at h
    split at h
    · rename_i it hpc
      split at h
      · simp at h
      · obtain rfl : _ = s' := by simpa using h
        exact ⟨.consume (by simp) (by simp), .put it (by rw [hpc]; rfl), .still, .still⟩
    · simp at h
  | _ => simp [Label.task] at hl

theorem moves_signer (hl : l.task = .signer) (horderly : LeavesOrderly p s l)
    (h : step p s l = some s') : Moves p s s' := by
  cases l with
  | signerLoop =>
    simp only [step] at h
    split at h
    · obtain rfl : _ = s' := by simpa using h
      constructor
      · exact .still
      · simp only [WorkerPc.stand_loop]
        apply HopStep.consumer_loop
        intro hstopped
        exact (horderly hstopped).2
      · simp only [WorkerPc.stand_loop]
        apply HopStep.producer_loop
        intro hstopped
        exact (horderly hstopped).1
      · exact .still
    · simp at h
  | signerGet signature =>
    simp only [step] at h
    split at h
    · rename_i it rest _ hqueue
      obtain rfl : _ = s' := by simpa using h
      simp only [signTransaction]
      cases signature with
      | error e =>
        exact ⟨.still, .take hqueue (by simp) (by simp), .produce (by simp) (by simp), .still⟩
      | ok bytes =>
        refine ⟨.still, .take hqueue (by simp) (by simp), .produce (by simp) ?_, .still⟩
        intro _ hdone
        exact horderly hdone
    · simp at h
  | signerPut =>
    simp only [step] at h
    split at h
    · rename_i it hpc
      split at h
      · simp at h
      · obtain rfl : _ = s' := by simpa using h
        exact ⟨.still, .consume (by simp) (by simp), .put it (by rw [hpc]; rfl), .still⟩
    · simp at h
  | _ => simp [Label.task] at hl

theorem moves_pep (hl : l.task = .pep) (horderly : LeavesOrderly p s l)
    (h : step p s l = some s') : Moves p s s' := by
  cases l with
  | pepLoop =>
    simp only [step] at h
    split at h
    · obtain rfl : _ = s' := by simpa using h
      constructor
      · exact .still
      · exact .still
      · simp only [WorkerPc.stand_loop]
        apply HopStep.consumer_loop
        intro hstopped
        exact (horderly hstopped).2
      · simp only [WorkerPc.stand_loop]
        apply HopStep.producer_loop
        intro hstopped
        exact (horderly hstopped).1
    · simp at h
  | pepGet fault =>
    simp only [step] at h
    split at h
    · rename_i it rest _ hqueue
      obtain rfl : _ = s' := by simpa using h
      simp only [evaluatePolicy]
      split
      · exact ⟨.still, .still, .take hqueue (by simp) (by simp), .produce (by simp) (by simp)⟩
      · rename_i reason hallowed
        refine ⟨.still, .still, .take hqueue (by simp) (by simp), .produce (by simp) ?_⟩
        intro _ hdone
        -- only what the policy denies is taken from the queue then
        have hdenied := horderly hdone it (by rw [hqueue]; rfl)
        cases fault with
        | some e => simp [authorizeCall] at hallowed
        | none => simp [authorizeCall] at hallowed; simp [hallowed] at hdenied
      · exact ⟨.still, .still, .take hqueue (by simp) (by simp), .produce (by simp) (by simp)⟩
    · simp at h
  | pepPut =>
    simp only [step] at h
    split at h
    · rename_i it hpc
      split at h
      · simp at h
      · obtain rfl : _ = s' := by simpa using h
        exact ⟨.still, .still, .consume (by simp) (by simp), .put it (by rw [hpc]; rfl)⟩
    · simp at h
  | _ => simp [Label.task] at hl

/-- The transmission goes on with its transaction. -/
theorem Moves.served {next : TxPc × Journal} (hidle : next.1.stand = .idle) :
    Moves p s (s.setTx next) := by
  refine ⟨.still, .still, .still, .consume ?_ ?_⟩
  · simp [State.setTx, hidle]
  · simp [State.setTx, hidle]

theorem moves_tx (hl : l.task = .tx) (horderly : LeavesOrderly p s l)
    (h : step p s l = some s') : Moves p s s' := by
  cases l with
  | txLoop =>
    simp only [step] at h
    split at h
    · obtain rfl : _ = s' := by simpa using h
      refine ⟨.still, .still, .still, ?_⟩
      simp only [TxPc.stand_loop]
      apply HopStep.consumer_loop
      intro hstopped
      exact horderly hstopped
    · simp at h
  | txGet =>
    simp only [step] at h
    split at h
    · rename_i it rest _ hqueue
      obtain rfl : _ = s' := by simpa using h
      refine ⟨.still, .still, .still, .take hqueue ?_ ?_⟩
      · simp [State.setTx, stand_takeTransaction]
      · simp [State.setTx, stand_takeTransaction]
    · simp at h
  | txOpened result =>
    simp only [step] at h
    split at h
    · obtain rfl : _ = s' := by simpa using h
      exact .served (stand_afterOpen _ _ result)
    · simp at h
  | txSent success reason =>
    simp only [step] at h
    split at h
    · obtain rfl : _ = s' := by simpa using h
      exact ⟨.still, .still, .still, .consume (by simp) (by simp)⟩
    · simp at h
  | txClosed =>
    simp only [step] at h
    split at h
    · obtain rfl : _ = s' := by simpa using h
      exact .served (stand_afterClose _ _ _ _)
    · simp at h
  | txWake =>
    obtain ⟨_, _, _, _, rfl⟩ := wake_of_step h
    exact .served (stand_attempt _ _)
  | _ => simp [Label.task] at hl

/-- **What an orderly step does at the queues.** -/
theorem moves_of_step (hhops : Hops p s) (horderly : LeavesOrderly p s l)
    (h : step p s l = some s') : Moves p s s' := by
  cases hl : l.task with
  | listener => exact moves_listener hl hhops.listener horderly h
  | extractor => exact moves_extractor hl horderly h
  | signer => exact moves_signer hl horderly h
  | pep => exact moves_pep hl horderly h
  | tx => exact moves_tx hl horderly h
  | main =>
    cases l with
    | shutdown =>
      obtain rfl : _ = s' := by simpa [step] using h
      exact ⟨.stop, .stop, .stop, .stop⟩
    | _ => simp [Label.task] at hl

/-- An orderly step keeps the hops. -/
theorem Hops.step (h : Hops p s) (horderly : LeavesOrderly p s l) (hstep : step p s l = some s') :
    Hops p s' := by
  have hleft : ∀ (queue : List Item) (item : Item), False → queue ++ [item] = [] :=
    fun _ _ => False.elim
  have hmoves := moves_of_step h horderly hstep
  constructor
  · exact hmoves.listener.keep (fun _ _ _ => trivial) h.listener
  · exact hmoves.extractor.keep hleft h.extractor
  · exact hmoves.signer.keep hleft h.signer
  · exact hmoves.pep.keep hleft h.pep

theorem hops_init : Hops p State.init := by
  constructor <;> constructor <;>
    simp [State.init, ListenerPc.stand, ExtractorPc.stand, WorkerPc.stand, TxPc.stand]

/-! ### Tasks that cannot move -/

/-- Some task can take a step. -/
def Enabled (p : Pipeline) (s : State) : Prop :=
  ∃ l s', l.task ≠ .main ∧ step p s l = some s'

theorem step_eq_none (h : ¬ Enabled p s) {l : Label} (hl : l.task ≠ .main) :
    step p s l = none := by
  by_contra hsome
  obtain ⟨s', hs'⟩ := Option.ne_none_iff_exists'.mp hsome
  exact h ⟨l, s', hl, hs'⟩

theorem listener_stuck (h : ¬ Enabled p s) (hstopped : s.running = false) :
    s.listener = .done ∨ s.listener.stand = .putting ∧
      full p.config.ingestionQueueMaxsize s.inQueue = true := by
  cases hpc : s.listener with
  | done => left; rfl
  | receiving =>
    have hnone := step_eq_none h (l := .listenerStop) (by simp [Label.task])
    simp [step, hpc, hstopped] at hnone
  | putting event =>
    right
    refine ⟨rfl, ?_⟩
    by_contra hroom
    have hnone := step_eq_none h (l := .listenerPut) (by simp [Label.task])
    simp [step, hpc, hroom] at hnone

theorem extractor_stuck (h : ¬ Enabled p s) :
    (s.extractor.stand = .done ∨ s.extractor.stand = .getting ∧ s.inQueue = []) ∨
      s.extractor.stand = .putting ∧
        full p.config.extractedQueueMaxsize s.extractedQueue = true := by
  cases hpc : s.extractor with
  | done => left; left; rfl
  | top =>
    have hnone := step_eq_none h (l := .extractorLoop) (by simp [Label.task])
    simp [step, hpc] at hnone
  | getting =>
    left; right
    refine ⟨rfl, ?_⟩
    cases hqueue : s.inQueue with
    | nil => rfl
    | cons event rest =>
      have hnone := step_eq_none h (l := .extractorGet) (by simp [Label.task])
      simp [step, hpc, hqueue] at hnone
  | converting event seq =>
    have hnone := step_eq_none h
      (l := .extractorConvert ⟨false, fun _ => .ok none, fun _ => .ok []⟩ "" 0)
      (by simp [Label.task])
    simp [step, hpc, finishConversion, convertAndValidate] at hnone
  | putting it =>
    right
    refine ⟨rfl, ?_⟩
    by_contra hroom
    have hnone := step_eq_none h (l := .extractorPut) (by simp [Label.task])
    simp [step, hpc, hroom] at hnone

theorem signer_stuck (h : ¬ Enabled p s) :
    (s.signer.stand = .done ∨ s.signer.stand = .getting ∧ s.extractedQueue = []) ∨
      s.signer.stand = .putting ∧ full p.config.signedQueueMaxsize s.signedQueue = true := by
  cases hpc : s.signer with
  | done => left; left; rfl
  | top =>
    have hnone := step_eq_none h (l := .signerLoop) (by simp [Label.task])
    simp [step, hpc] at hnone
  | getting =>
    left; right
    refine ⟨rfl, ?_⟩
    cases hqueue : s.extractedQueue with
    | nil => rfl
    | cons it rest =>
      have hnone := step_eq_none h (l := .signerGet (.ok [])) (by simp [Label.task])
      simp [step, hpc, hqueue] at hnone
  | putting it =>
    right
    refine ⟨rfl, ?_⟩
    by_contra hroom
    have hnone := step_eq_none h (l := .signerPut) (by simp [Label.task])
    simp [step, hpc, hroom] at hnone

theorem pep_stuck (h : ¬ Enabled p s) :
    (s.pep.stand = .done ∨ s.pep.stand = .getting ∧ s.signedQueue = []) ∨
      s.pep.stand = .putting ∧ full p.config.txQueueMaxsize s.txQueue = true := by
  cases hpc : s.pep with
  | done => left; left; rfl
  | top =>
    have hnone := step_eq_none h (l := .pepLoop) (by simp [Label.task])
    simp [step, hpc] at hnone
  | getting =>
    left; right
    refine ⟨rfl, ?_⟩
    cases hqueue : s.signedQueue with
    | nil => rfl
    | cons it rest =>
      have hnone := step_eq_none h (l := .pepGet none) (by simp [Label.task])
      simp [step, hpc, hqueue] at hnone
  | putting it =>
    right
    refine ⟨rfl, ?_⟩
    by_contra hroom
    have hnone := step_eq_none h (l := .pepPut) (by simp [Label.task])
    simp [step, hpc, hroom] at hnone

theorem tx_stuck (hawake : Awake s) (h : ¬ Enabled p s) :
    s.tx.stand = .done ∨ s.tx.stand = .getting ∧ s.txQueue = [] := by
  cases hpc : s.tx with
  | done => left; rfl
  | getting =>
    right
    refine ⟨rfl, ?_⟩
    cases hqueue : s.txQueue with
    | nil => rfl
    | cons it rest =>
      have hnone := step_eq_none h (l := .txGet) (by simp [Label.task])
      simp [step, hpc, hqueue] at hnone
  | top =>
    have hnone := step_eq_none h (l := .txLoop) (by simp [Label.task])
    simp [step, hpc] at hnone
  | opening it =>
    have hnone := step_eq_none h (l := .txOpened (.ok ())) (by simp [Label.task])
    simp [step, hpc] at hnone
  | sending it =>
    have hnone := step_eq_none h (l := .txSent true .none) (by simp [Label.task])
    simp [step, hpc] at hnone
  | closing it success reason =>
    have hnone := step_eq_none h (l := .txClosed) (by simp [Label.task])
    simp [step, hpc] at hnone
  | sleeping it delay =>
    have hnone := step_eq_none h (l := .txWake) (by simp [Label.task])
    simp [step, hpc, hawake it delay hpc] at hnone

theorem ne_nil_of_full {α : Type} {maxsize : Int} {queue : List α}
    (h : full maxsize queue = true) : queue ≠ [] := by
  rintro rfl
  simp only [full, Bool.and_eq_true, decide_eq_true_eq, List.length_nil] at h
  omega

/-- The producer of a queue that loses what is left in it is not held up. -/
theorem Strict.waiting_of_stuck {running : Bool} {producer consumer : Stand} {queue : List Item}
    {maxsize : Int} {waiting : Prop} (h : Strict running producer queue consumer)
    (hconsumer : consumer = .done ∨ consumer = .getting ∧ queue = [])
    (hproducer : waiting ∨ producer = .putting ∧ full maxsize queue = true) : waiting := by
  rcases hproducer with hwaiting | ⟨hputting, hfull⟩
  · exact hwaiting
  · refine absurd hputting (h.not_putting (fun _ => ⟨ne_nil_of_full hfull, not_false⟩) hconsumer)

/-- When no task can move, all have left: nobody is held up in `put`, from the last task to
    the first, and then nobody waits in `get`, from the first to the last. -/
theorem allDone_of_stuck (hhops : Hops p s) (hawake : Awake s) (hstopped : s.running = false)
    (h : ¬ Enabled p s) : AllDone s := by
  have htx := tx_stuck hawake h
  have hpep := hhops.pep.waiting_of_stuck htx (pep_stuck h)
  have hsigner := hhops.signer.waiting_of_stuck hpep (signer_stuck h)
  have hextractor := hhops.extractor.waiting_of_stuck hsigner (extractor_stuck h)
  have hlistener : s.listener = .done := by
    rcases listener_stuck h hstopped with hdone | ⟨hputting, hfull⟩
    · exact hdone
    · refine absurd hputting (hhops.listener.not_putting (fun _ => ?_) hextractor)
      exact ⟨ne_nil_of_full hfull, by rw [hfull]; simp⟩
  have hextractorDone := hhops.listener.done_of_done (by rw [hlistener]; rfl) hextractor
  have hsignerDone := hhops.extractor.done_of_done hextractorDone hsigner
  have hpepDone := hhops.signer.done_of_done hsignerDone hpep
  have htxDone := hhops.pep.done_of_done hpepDone htx
  exact ⟨hlistener, ExtractorPc.stand_done.mp hextractorDone, WorkerPc.stand_done.mp hsignerDone,
    WorkerPc.stand_done.mp hpepDone, TxPc.stand_done.mp htxDone⟩

/-- Nothing is in line when all have left. -/
theorem line_eq_nil_of_allDone (hhops : Hops p s) (hdone : AllDone s) : line s = [] := by
  obtain ⟨_, hextractor, hsigner, hpep, htx⟩ := hdone
  have hextracted := hhops.extractor.done (WorkerPc.stand_done.mpr hsigner)
  have hsigned := hhops.signer.done (WorkerPc.stand_done.mpr hpep)
  have hqueued := hhops.pep.done (TxPc.stand_done.mpr htx)
  simp [line, behind, hextractor, hsigner, hpep, htx, hextracted, hsigned, hqueued,
    ExtractorPc.held, WorkerPc.held, TxPc.held]

/-! ### Whole runs -/

/-- **Shutdown in a run of orderly steps.**  Once the flags are down, all tasks have ended or
    one of them can move; and when all have ended, every transaction is ACKED or
    dead-lettered. -/
theorem shutdown_resolves (hreach : Reach (step p) (Orderly p) State.init s)
    (hstopped : s.running = false) :
    (AllDone s ∨ Enabled p s) ∧
      (AllDone s → ∀ id ∈ createdIds s.journal,
        id ∈ ackedIds s.journal ∨ id ∈ deadIds s.journal) := by
  have hhops : Hops p s := by
    apply hreach.invariant hops_init
    intro s s' l hhops hgood hstep
    exact hhops.step hgood.2.1 hstep
  have hawake : Awake s := hreach.invariant awake_init fun h hgood hstep => h.step hgood.2.2 hstep
  have haccount := (account_of_sound (hreach.mono fun _ _ hgood => hgood.1)).1
  constructor
  · by_cases henabled : Enabled p s
    · right
      exact henabled
    · left
      exact allDone_of_stuck hhops hawake hstopped henabled
  · intro hdone id hid
    have hone := haccount.conserved id hid
    have hline : (lineIds s).count id = 0 := by
      simp [lineIds, line_eq_nil_of_allDone hhops hdone]
    by_cases hacked : id ∈ ackedIds s.journal
    · left
      exact hacked
    · right
      rw [hline, List.count_eq_zero_of_not_mem hacked] at hone
      exact List.count_pos_iff.mp (by omega)

namespace Sample

/-- One event is in the first queue and every worker waits when the signal comes; each of
    them then has one more item to handle. -/
def drain (id : String) : List Label :=
  [.receive greenEvent, .listenerPut, .extractorLoop, .signerLoop, .pepLoop, .txLoop, .shutdown,
   .listenerStop, .extractorGet, .extractorConvert converter id 1000000, .extractorPut,
   .extractorLoop, .signerGet (.ok [1, 2, 3]), .signerPut, .signerLoop, .pepGet none, .pepPut,
   .pepLoop, .txGet, .txOpened (.ok ()), .txSent true (.str "ACK"), .txClosed, .txLoop]

/-- Nothing is on its way when the signal comes. -/
def idle : List Label :=
  [.extractorLoop, .signerLoop, .pepLoop, .txLoop, .shutdown, .listenerStop]

/-- A transaction is in the last queue when the signal comes, and every worker is at the top
    of its loop. -/
def abandon (id : String) : List Label :=
  extract id ++ [.signerGet (.ok [1, 2, 3]), .signerPut, .pepLoop, .pepGet none, .pepPut,
    .shutdown, .listenerStop, .extractorLoop, .signerLoop, .pepLoop, .txLoop]

/-- A check that is enough for a step of the sample pipeline to be orderly. -/
def checkOrderly (s : State) (l : Label) : Bool :=
  plain l && decide (LeavesOrderly pipeline s l)

theorem orderly_of_check (s : State) (l : Label) (h : checkOrderly s l = true) :
    Orderly pipeline s l := by
  simp only [checkOrderly, Bool.and_eq_true, decide_eq_true_eq] at h
  exact ⟨sound_of_plain h.1 s, h.2, timely.sleepsEnd s l⟩

/-- Every task has left, as a test. -/
def allLeft (s : State) : Bool :=
  s.listener.stand == .done && s.extractor.stand == .done && s.signer.stand == .done &&
    s.pep.stand == .done && s.tx.stand == .done

theorem allDone_of_allLeft {s : State} (h : allLeft s = true) : AllDone s := by
  simpa [allLeft, AllDone, and_assoc] using h

end Sample

/-- Each worker handles the item it waits for and leaves; the transaction is ACKED. -/
theorem sample_shutdown :
    ∃ s, Reach (step Sample.pipeline) (Orderly Sample.pipeline) State.init s ∧
      s.running = false ∧ AllDone s ∧
      createdIds s.journal = ["5d2f6645-8f64-4e20-b42e-131c950d210f"] ∧
      ∀ id ∈ createdIds s.journal, id ∈ ackedIds s.journal ∨ id ∈ deadIds s.journal := by
  have hrun : (runLabels (guarded (step Sample.pipeline) Sample.checkOrderly) State.init
      (Sample.drain "5d2f6645-8f64-4e20-b42e-131c950d210f")).map
        (fun s => decide (s.running = false ∧ Sample.allLeft s = true ∧
          createdIds s.journal = ["5d2f6645-8f64-4e20-b42e-131c950d210f"])) = some true := by
    decide +kernel
  obtain ⟨s, hguarded, hend⟩ := Reach.exists_of_run (fun _ _ _ => trivial) hrun
  obtain ⟨hstopped, hleft, hcreated⟩ := of_decide_eq_true hend
  have hreach := hguarded.of_guarded Sample.orderly_of_check
  have hdone := Sample.allDone_of_allLeft hleft
  exact ⟨s, hreach, hstopped, hdone, hcreated, (shutdown_resolves hreach hstopped).2 hdone⟩

/-- The idle pipeline: after the signal every worker waits for ever.  And with a transaction
    in the last queue, every worker leaves and nobody sends it. -/
theorem sample_shutdown_stuck :
    (∃ s, Reach (step Sample.pipeline) anyStep State.init s ∧ s.running = false ∧
      ¬ AllDone s ∧ ¬ Enabled Sample.pipeline s) ∧
    ∃ s, Reach (step Sample.pipeline) anyStep State.init s ∧ s.running = false ∧ AllDone s ∧
      createdIds s.journal = ["5d2f6645-8f64-4e20-b42e-131c950d210f"] ∧
      ackedIds s.journal = [] ∧ deadIds s.journal = [] := by
  constructor
  · have hrun : runLabels (step Sample.pipeline) State.init Sample.idle =
        some { State.init with
          running := false, listener := .done, extractor := .getting, signer := .getting
          pep := .getting, tx := .getting } := rfl
    refine ⟨_, Reach.of_runLabels (fun _ _ _ => trivial) .start hrun, rfl, ?_, ?_⟩
    · rintro ⟨_, hextractor, _⟩
      simp at hextractor
    · rintro ⟨l, s', hl, hstep⟩
      cases l <;> simp [step, State.init, Label.task] at hstep hl
  · have hrun : (runLabels (step Sample.pipeline) State.init
        (Sample.abandon "5d2f6645-8f64-4e20-b42e-131c950d210f")).map
          (fun s => decide (s.running = false ∧ Sample.allLeft s = true ∧
            createdIds s.journal = ["5d2f6645-8f64-4e20-b42e-131c950d210f"] ∧
            ackedIds s.journal = [] ∧ deadIds s.journal = [])) = some true := by
      decide +kernel
    obtain ⟨s, hreach, hend⟩ := Reach.exists_of_run (fun _ _ _ => trivial) hrun
    obtain ⟨hstopped, hleft, hrest⟩ := of_decide_eq_true hend
    exact ⟨s, hreach, hstopped, Sample.allDone_of_allLeft hleft, hrest⟩

end QsTie.GatewayA
