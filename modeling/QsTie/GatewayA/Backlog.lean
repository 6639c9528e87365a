import QsTie.GatewayA.Shutdown
import QsTie.Lib.Budget

/-!
# The backlog of Gateway A

What the tasks still have to do is a number, the workload: an event in the first queue is
worth the steps that can be made of it, its `max_attempts` sessions included.  Every
step of a task spends some of it and only `receive` brings more, so a run is bounded by the
events it receives, whatever the surroundings answer and in whatever order the tasks move
(`work_bounded`).  A pipeline that no event reaches comes to rest with nothing in it
(`drains`).  What is under way is bounded by the queues (`backlog_bounded`).
-/

namespace QsTie.GatewayA

open QsTie.Lib

/-! ### The workload -/

/-- The steps of the attempts that are left to a transaction: open, send, close and sleep. -/
def attemptWork (cfg : GatewayAConfig) (retryCount : Nat) : Nat :=
  4 * (cfg.maxAttempts - retryCount).toNat

def Item.work (cfg : GatewayAConfig) (it : Item) : Nat := attemptWork cfg it.tx.retryCount

def ListenerPc.work (cfg : GatewayAConfig) : ListenerPc → Nat
  | .receiving => 1
  | .putting _ => attemptWork cfg 0 + 14
  | .done => 0

def ExtractorPc.work (cfg : GatewayAConfig) : ExtractorPc → Nat
  | .top => 1
  | .getting => 0
  | .converting _ _ => attemptWork cfg 0 + 11
  | .putting it => it.work cfg + 10
  | .done => 0

/-- `putting` is what a worker has left to do with the transaction it holds. -/
def WorkerPc.work (cfg : GatewayAConfig) (putting : Nat) : WorkerPc → Nat
  | .top => 1
  | .getting => 0
  | .putting it => it.work cfg + putting
  | .done => 0

def TxPc.work (cfg : GatewayAConfig) : TxPc → Nat
  | .top => 1
  | .getting => 0
  | .opening it => it.work cfg + 5
  | .sending it => it.work cfg + 4
  | .closing it _ _ => it.work cfg + 3
  | .sleeping it _ => it.work cfg + 2
  | .done => 0

/-- Each transaction of a queue has `each` steps before it beside its attempts. -/
def queueWork (cfg : GatewayAConfig) (each : Nat) (queue : List Item) : Nat :=
  (queue.map fun it => it.work cfg + each).sum

def workload (p : Pipeline) (s : State) : Nat :=
  s.listener.work p.config + s.inQueue.length * (attemptWork p.config 0 + 12) +
    s.extractor.work p.config + queueWork p.config 8 s.extractedQueue +
    s.signer.work p.config 7 + queueWork p.config 5 s.signedQueue +
    s.pep.work p.config 4 + queueWork p.config 2 s.txQueue +
    s.tx.work p.config

/-- What a label brings: an event, or a signal that is handled in one step. -/
def Label.brings (p : Pipeline) : Label → Nat
  | .receive _ => attemptWork p.config 0 + 14
  | .shutdown => 1
  | _ => 0

variable {p : Pipeline} {s s' : State} {l : Label}

@[simp] theorem queueWork_nil (cfg : GatewayAConfig) (each : Nat) : queueWork cfg each [] = 0 := rfl

@[simp] theorem queueWork_cons (cfg : GatewayAConfig) (each : Nat) (it : Item)
    (queue : List Item) :
    queueWork cfg each (it :: queue) = it.work cfg + each + queueWork cfg each queue := by
  simp [queueWork]

@[simp] theorem queueWork_append_singleton (cfg : GatewayAConfig) (each : Nat) (it : Item)
    (queue : List Item) :
    queueWork cfg each (queue ++ [it]) = queueWork cfg each queue + (it.work cfg + each) := by
  simp [queueWork]

/-- The signer and the policy count no attempt. -/
@[simp] theorem work_signedBy (cfg : GatewayAConfig) (it : Item) (signature : Bytes) :
    (it.signedBy p signature).work cfg = it.work cfg := rfl

@[simp] theorem work_approved (cfg : GatewayAConfig) (it : Item) :
    it.approved.work cfg = it.work cfg := rfl

/-- An attempt costs what it takes off the count. -/
theorem work_nextAttempt {cfg : GatewayAConfig} {it : Item}
    (hleft : (it.tx.retryCount : Int) < cfg.maxAttempts) :
    it.nextAttempt.work cfg + 4 = it.work cfg := by
  simp only [Item.work, Item.nextAttempt, attemptWork]
  omega

theorem work_attempt (cfg : GatewayAConfig) (it : Item) :
    (attempt cfg it).1.work cfg ≤ it.work cfg + 1 := by
  rcases attempt_cases cfg it with ⟨hleft, hattempt⟩ | ⟨_, hattempt⟩
  · have hnext := work_nextAttempt hleft
    rw [hattempt]
    simp only [TxPc.work]
    omega
  · rw [hattempt]
    simp [TxPc.work]

theorem work_retryOrFail (cfg : GatewayAConfig) (it : Item) :
    (retryOrFail cfg it).1.work cfg ≤ it.work cfg + 2 := by
  rcases retryOrFail_cases cfg it with ⟨_, _, _, h⟩ | h | ⟨_, h⟩
  · rw [h]
    simp [TxPc.work]
  · rw [h]
    simp [TxPc.work]
  · rw [h]
    simp [TxPc.work]

theorem work_takeTransaction (cfg : GatewayAConfig) (it : Item) :
    (takeTransaction cfg it).1.work cfg ≤ it.work cfg + 1 := by
  rcases takeTransaction_cases cfg it with h | h
  · rw [h]
    exact work_attempt cfg it
  · rw [h]
    simp [TxPc.work]

theorem work_afterOpen (cfg : GatewayAConfig) (it : Item) (result : Except PyExc Unit) :
    (afterOpen cfg it result).1.work cfg ≤ it.work cfg + 4 := by
  cases result with
  | error e =>
    have hretry := work_retryOrFail cfg it
    simp only [afterOpen]
    omega
  | ok _ => simp [afterOpen, TxPc.work]

theorem work_afterClose (cfg : GatewayAConfig) (it : Item) (success : Bool) (reason : PyVal) :
    (afterClose cfg it success reason).1.work cfg ≤ it.work cfg + 2 := by
  have hretry := work_retryOrFail cfg it
  simp only [afterClose]
  split
  · simp [TxPc.work]
  · split
    · exact hretry
    · simp [TxPc.work]

/-! ### What a step spends -/

theorem spends_listener (hl : l.task = .listener) (h : step p s l = some s') :
    workload p s' + 1 ≤ workload p s + l.brings p := by
  cases l with
  | receive event =>
    simp only [step] at h
    split at h
    · rename_i hpc
      split at h
      · obtain rfl : _ = s' := by simpa using h
        simp only [workload, hpc, ListenerPc.work, Label.brings]
        omega
      · simp at h
    · simp at h
  | listenerPut =>
    simp only [step] at h
    split at h
    · rename_i event hpc
      split at h
      · simp at h
      · obtain rfl : _ = s' := by simpa using h
        simp only [workload, hpc, ListenerPc.work, Label.brings, List.length_append,
          List.length_singleton, Nat.add_mul]
        omega
    · simp at h
  | listenerStop =>
    simp only [step] at h
    split at h
    · rename_i hpc
      split at h
      · simp at h
      · obtain rfl : _ = s' := by simpa using h
        simp only [workload, hpc, ListenerPc.work, Label.brings]
        omega
    · simp at h
  | _ => simp [Label.task] at hl

theorem spends_extractor (hl : l.task = .extractor) (h : step p s l = some s') :
    workload p s' + 1 ≤ workload p s + l.brings p := by
  cases l with
  | extractorLoop =>
    simp only [step] at h
    split at h
    · rename_i hpc
      obtain rfl : _ = s' := by simpa using h
      cases hrun : s.running <;>
        simp only [workload, hpc, ExtractorPc.work, Label.brings, Bool.false_eq_true, if_true,
          if_false] <;> omega
    · simp at h
  | extractorGet =>
    simp only [step] at h
    split at h
    · rename_i event rest hpc hqueue
      obtain rfl : _ = s' := by simpa using h
      simp only [workload, hpc, hqueue, ExtractorPc.work, Label.brings, List.length_cons,
        Nat.add_mul]
      omega
    · simp at h
  | extractorConvert conv id createdAtUnixMs =>
    simp only [step] at h
    split at h
    · rename_i event seq hpc
      simp only [finishConversion] at h
      split at h
      · obtain rfl : _ = s' := by simpa using h
        simp only [workload, hpc, ExtractorPc.work, Label.brings]
        omega
      · obtain rfl : _ = s' := by simpa using h
        simp only [workload, hpc, ExtractorPc.work, Label.brings]
        omega
      · rename_i bundle _
        split at h
        · simp at h
        · obtain rfl : _ = s' := by simpa using h
          -- a new transaction has all its attempts before it
          have hnew : Item.work p.config ⟨newTransaction id bundle createdAtUnixMs, seq⟩ =
              attemptWork p.config 0 := rfl
          simp only [workload, hpc, ExtractorPc.work, Label.brings, hnew]
          omega
    · simp at h
  | extractorPut =>
    simp only [step] at h
    split at h
    · rename_i it hpc
      split at h
      · simp at h
      · obtain rfl : _ = s' := by simpa using h
        simp only [workload, hpc, ExtractorPc.work, Label.brings, queueWork_append_singleton]
        omega
    · simp at h
  | _ => simp [Label.task] at hl

theorem spends_signer (hl : l.task = .signer) (h : step p s l = some s') :
    workload p s' + 1 ≤ workload p s + l.brings p := by
  cases l with
  | signerLoop =>
    simp only [step] at h
    split at h
    · rename_i hpc
      obtain rfl : _ = s' := by simpa using h
      cases hrun : s.running <;>
        simp only [workload, hpc, WorkerPc.work, Label.brings, Bool.false_eq_true, if_true,
          if_false] <;> omega
    · simp at h
  | signerGet signature =>
    simp only [step] at h
    split at h
    · rename_i it rest hpc hqueue
      obtain rfl : _ = s' := by simpa using h
      cases signature with
      | error e =>
        simp only [signTransaction, workload, hpc, hqueue, WorkerPc.work, Label.brings,
          queueWork_cons]
        omega
      | ok bytes =>
        simp only [signTransaction, workload, hpc, hqueue, WorkerPc.work, Label.brings,
          queueWork_cons, work_signedBy]
        omega
    · simp at h
  | signerPut =>
    simp only [step] at h
    split at h
    · rename_i it hpc
      split at h
      · simp at h
      · obtain rfl : _ = s' := by simpa using h
        simp only [workload, hpc, WorkerPc.work, Label.brings, queueWork_append_singleton]
        omega
    · simp at h
  | _ => simp [Label.task] at hl

theorem spends_pep (hl : l.task = .pep) (h : step p s l = some s') :
    workload p s' + 1 ≤ workload p s + l.brings p := by
  cases l with
  | pepLoop =>
    simp only [step] at h
    split at h
    · rename_i hpc
      obtain rfl : _ = s' := by simpa using h
      cases hrun : s.running <;>
        simp only [workload, hpc, WorkerPc.work, Label.brings, Bool.false_eq_true, if_true,
          if_false] <;> omega
    · simp at h
  | pepGet fault =>
    simp only [step] at h
    split at h
    · rename_i it rest hpc hqueue
      obtain rfl : _ = s' := by simpa using h
      simp only [evaluatePolicy]
      split
      · simp only [workload, hpc, hqueue, WorkerPc.work, Label.brings, queueWork_cons]
        omega
      · simp only [workload, hpc, hqueue, WorkerPc.work, Label.brings, queueWork_cons,
          work_approved]
        omega
      · simp only [workload, hpc, hqueue, WorkerPc.work, Label.brings, queueWork_cons]
        omega
    · simp at h
  | pepPut =>
    simp only [step] at h
    split at h
    · rename_i it hpc
      split at h
      · simp at h
      · obtain rfl : _ = s' := by simpa using h
        simp only [workload, hpc, WorkerPc.work, Label.brings, queueWork_append_singleton]
        omega
    · simp at h
  | _ => simp [Label.task] at hl

/-- The transmission goes on with its transaction. -/
theorem spends_setTx {next : TxPc × Journal}
    (hspent : next.1.work p.config + 1 ≤ s.tx.work p.config) :
    workload p (s.setTx next) + 1 ≤ workload p s + l.brings p := by
  simp only [workload, State.setTx]
  omega

theorem spends_tx (hl : l.task = .tx) (h : step p s l = some s') :
    workload p s' + 1 ≤ workload p s + l.brings p := by
  cases l with
  | txLoop =>
    simp only [step] at h
    split at h
    · rename_i hpc
      obtain rfl : _ = s' := by simpa using h
      cases hrun : s.running <;> simp [workload, hpc, TxPc.work, Label.brings]
    · simp at h
  | txGet =>
    simp only [step] at h
    split at h
    · rename_i it rest hpc hqueue
      obtain rfl : _ = s' := by simpa using h
      have htake := work_takeTransaction p.config it
      have hwaits : s.tx.work p.config = 0 := by rw [hpc]; rfl
      simp only [workload, State.setTx, hqueue, Label.brings, queueWork_cons, hwaits]
      omega
    · simp at h
  | txOpened result =>
    simp only [step] at h
    split at h
    · rename_i it hpc
      obtain rfl : _ = s' := by simpa using h
      have hopened := work_afterOpen p.config it result
      apply spends_setTx
      rw [hpc]
      exact Nat.add_le_add_right hopened 1
    · simp at h
  | txSent success reason =>
    simp only [step] at h
    split at h
    · rename_i it hpc
      obtain rfl : _ = s' := by simpa using h
      simp only [workload, hpc, TxPc.work, Label.brings]
      omega
    · simp at h
  | txClosed =>
    simp only [step] at h
    split at h
    · rename_i it success reason hpc
      obtain rfl : _ = s' := by simpa using h
      have hclosed := work_afterClose p.config it success reason
      apply spends_setTx
      rw [hpc]
      exact Nat.add_le_add_right hclosed 1
    · simp at h
  | txWake =>
    obtain ⟨it, _, hpc, _, rfl⟩ := wake_of_step h
    have hwake := work_attempt p.config it
    apply spends_setTx
    rw [hpc]
    exact Nat.add_le_add_right hwake 1
  | _ => simp [Label.task] at hl

/-- **What a step spends.** -/
theorem spends_of_step (h : step p s l = some s') :
    workload p s' + 1 ≤ workload p s + l.brings p := by
  cases hl : l.task with
  | listener => exact spends_listener hl h
  | extractor => exact spends_extractor hl h
  | signer => exact spends_signer hl h
  | pep => exact spends_pep hl h
  | tx => exact spends_tx hl h
  | main =>
    cases l with
    | shutdown =>
      obtain rfl : _ = s' := by simpa [step] using h
      simp [workload, Label.brings]
    | _ => simp [Label.task] at hl

theorem spends : Spends (step p) (fun _ => True) (workload p) (Label.brings p) :=
  ⟨fun _ _ => trivial, fun _ h => spends_of_step h⟩

/-! ### The length of a run -/

def Label.isReceive : Label → Bool
  | .receive _ => true
  | _ => false

def Label.isShutdown : Label → Bool
  | .shutdown => true
  | _ => false

theorem sum_brings (ls : List Label) :
    (ls.map (Label.brings p)).sum =
      (attemptWork p.config 0 + 14) * ls.countP Label.isReceive + ls.countP Label.isShutdown := by
  induction ls with
  | nil => simp
  | cons l ls ih =>
    rw [List.map_cons, List.sum_cons, ih]
    cases l with
    | receive event =>
      simp only [Label.brings, List.countP_cons, Label.isReceive, Label.isShutdown, if_true,
        Bool.false_eq_true, if_false, Nat.mul_add]
      omega
    | shutdown =>
      simp only [Label.brings, List.countP_cons, Label.isReceive, Label.isShutdown, if_true,
        Bool.false_eq_true, if_false, Nat.add_zero]
      omega
    | _ =>
      simp only [Label.brings, List.countP_cons, Label.isReceive, Label.isShutdown,
        Bool.false_eq_true, if_false, Nat.add_zero]
      omega

theorem workload_init : workload p State.init = 5 := by
  simp [workload, State.init, ListenerPc.work, ExtractorPc.work, WorkerPc.work, TxPc.work]

/-- **The work of a run is bounded by the events it receives.**  The answers of the
    surroundings and the order of the tasks do not matter. -/
theorem work_bounded {ls : List Label} (hrun : runLabels (step p) State.init ls = some s) :
    ls.length ≤ 5 + (4 * p.config.maxAttempts.toNat + 14) * ls.countP Label.isReceive +
      ls.countP Label.isShutdown := by
  have hpaid := (spends.length_le trivial hrun).2
  have hfresh : attemptWork p.config 0 = 4 * p.config.maxAttempts.toNat := by
    simp [attemptWork]
  rw [workload_init, sum_brings, hfresh] at hpaid
  omega

/-! ### Coming to rest -/

/-- The step of a task that receives no event. -/
def Label.isInner (l : Label) : Prop := l.isReceive = false ∧ l.task ≠ .main

/-- Nothing is in a queue or a hand, and every task waits for its next item. -/
structure Idle (s : State) : Prop where
  listener : s.listener = .receiving
  inQueue : s.inQueue = []
  extractor : s.extractor = .getting
  extractedQueue : s.extractedQueue = []
  signer : s.signer = .getting
  signedQueue : s.signedQueue = []
  pep : s.pep = .getting
  txQueue : s.txQueue = []
  tx : s.tx = .getting

/-- The listener plays no part in the steps of the other tasks. -/
theorem step_listener (pc : ListenerPc) (hl : l.task ≠ .listener) :
    step p { s with listener := pc } l =
      (step p s l).map fun s' => { s' with listener := pc } := by
  cases l with
  | receive event | listenerPut | listenerStop => simp [Label.task] at hl
  | extractorConvert conv id createdAtUnixMs =>
    simp only [step]
    split
    · simp only [finishConversion]
      repeat' split
      all_goals rfl
    · rfl
  | signerGet signature =>
    simp only [step]
    split
    · cases signature <;> rfl
    · rfl
  | pepGet fault =>
    simp only [step]
    split
    · simp only [Option.map_some, evaluatePolicy]
      split <;> rfl
    · rfl
  | shutdown => rfl
  | _ =>
    simp only [step]
    repeat' split
    all_goals rfl

/-- Without a listener, a task can move only if it can move here. -/
theorem not_enabled_of_inner (hstuck : ∀ l, l.isInner → step p s l = none) :
    ¬ Enabled p { s with listener := .done } := by
  rintro ⟨l, s', hmain, hstep⟩
  by_cases hl : l.task = .listener
  · cases l with
    | receive event | listenerPut | listenerStop => simp [step] at hstep
    | _ => simp [Label.task] at hl
  · have hinner : l.isInner := by
      refine ⟨?_, hmain⟩
      cases l with
      | receive event => simp [Label.task] at hl
      | _ => rfl
    rw [step_listener .done hl, hstuck l hinner] at hstep
    simp at hstep

/-- No task leaves while the flag is up. -/
structure Present (s : State) : Prop where
  listener : s.listener = .done → s.running = false
  extractor : s.extractor = .done → s.running = false
  signer : s.signer = .done → s.running = false
  pep : s.pep = .done → s.running = false
  tx : s.tx = .done → s.running = false

theorem present_init : Present State.init := by
  constructor <;> simp [State.init]

/-- The transmission is still there when it stands at no queue. -/
theorem Present.setTx {next : TxPc × Journal} (h : Present s) (hidle : next.1.stand = .idle) :
    Present (s.setTx next) := by
  refine { h with tx := ?_ }
  intro hdone
  rw [State.setTx] at hdone
  rw [TxPc.stand_done.mpr hdone] at hidle
  simp at hidle

theorem Present.step (h : Present s) (hstep : step p s l = some s') : Present s' := by
  cases l with
  | receive event | listenerPut =>
    simp only [GatewayA.step] at hstep
    repeat' split at hstep
    all_goals cases hstep
    all_goals exact { h with listener := by simp }
  | listenerStop =>
    simp only [GatewayA.step] at hstep
    repeat' split at hstep
    all_goals cases hstep
    rename_i hrun
    exact { h with listener := fun _ => by simpa using hrun }
  | extractorLoop =>
    simp only [GatewayA.step] at hstep
    split at hstep
    · obtain rfl : _ = s' := by simpa using hstep
      exact { h with extractor := by cases hrun : s.running <;> simp }
    · simp at hstep
  | extractorConvert conv id createdAtUnixMs =>
    simp only [GatewayA.step, finishConversion] at hstep
    repeat' split at hstep
    all_goals cases hstep
    all_goals exact { h with extractor := by simp }
  | extractorGet | extractorPut =>
    simp only [GatewayA.step] at hstep
    repeat' split at hstep
    all_goals cases hstep
    all_goals exact { h with extractor := by simp }
  | signerLoop =>
    simp only [GatewayA.step] at hstep
    split at hstep
    · obtain rfl : _ = s' := by simpa using hstep
      exact { h with signer := by cases hrun : s.running <;> simp }
    · simp at hstep
  | signerGet signature =>
    simp only [GatewayA.step] at hstep
    split at hstep
    · obtain rfl : _ = s' := by simpa using hstep
      cases signature <;> exact { h with signer := by simp [signTransaction] }
    · simp at hstep
  | signerPut =>
    simp only [GatewayA.step] at hstep
    repeat' split at hstep
    all_goals cases hstep
    exact { h with signer := by simp }
  | pepLoop =>
    simp only [GatewayA.step] at hstep
    split at hstep
    · obtain rfl : _ = s' := by simpa using hstep
      exact { h with pep := by cases hrun : s.running <;> simp }
    · simp at hstep
  | pepGet fault =>
    simp only [GatewayA.step] at hstep
    split at hstep
    · obtain rfl : _ = s' := by simpa using hstep
      simp only [evaluatePolicy]
      split <;> exact { h with pep := by simp }
    · simp at hstep
  | pepPut =>
    simp only [GatewayA.step] at hstep
    repeat' split at hstep
    all_goals cases hstep
    exact { h with pep := by simp }
  | txLoop =>
    simp only [GatewayA.step] at hstep
    split at hstep
    · obtain rfl : _ = s' := by simpa using hstep
      exact { h with tx := by cases hrun : s.running <;> simp }
    · simp at hstep
  | txGet =>
    simp only [GatewayA.step] at hstep
    split at hstep
    · rename_i it rest _ _
      obtain rfl : _ = s' := by simpa using hstep
      have hrest : Present { s with txQueue := rest } := { h with }
      exact hrest.setTx (stand_takeTransaction _ it)
    · simp at hstep
  | txOpened result =>
    simp only [GatewayA.step] at hstep
    split at hstep
    · obtain rfl : _ = s' := by simpa using hstep
      exact h.setTx (stand_afterOpen _ _ result)
    · simp at hstep
  | txSent success reason =>
    simp only [GatewayA.step] at hstep
    split at hstep
    · obtain rfl : _ = s' := by simpa using hstep
      exact { h with tx := by simp }
    · simp at hstep
  | txClosed =>
    simp only [GatewayA.step] at hstep
    split at hstep
    · obtain rfl : _ = s' := by simpa using hstep
      exact h.setTx (stand_afterClose _ _ _ _)
    · simp at hstep
  | txWake =>
    obtain ⟨_, _, _, _, rfl⟩ := wake_of_step hstep
    exact h.setTx (stand_attempt _ _)
  | shutdown =>
    obtain rfl : _ = s' := by simpa [GatewayA.step] using hstep
    constructor <;> intro _ <;> rfl

/-- A task that is there and stands at a full queue has a task behind it that can move. -/
theorem getting_of_stuck {α : Type} {stand : Stand} {waiting : Prop} {maxsize : Int}
    {queue : List α} (hpresent : stand ≠ .done) (hempty : queue = [])
    (hstuck : (stand = .done ∨ stand = .getting ∧ waiting) ∨
      stand = .putting ∧ full maxsize queue = true) : stand = .getting ∧ waiting := by
  rcases hstuck with (hdone | hgetting) | ⟨_, hfull⟩
  · exact absurd hdone hpresent
  · exact hgetting
  · exact absurd hempty (ne_nil_of_full hfull)

/-- **Nobody waits for somebody who waits.**  When no task can move and the flag is up, there
    is nothing left to move: from the last task to the first, each finds its queue empty. -/
theorem idle_of_stuck (hpresent : Present s) (hawake : Awake s) (hrunning : s.running = true)
    (hstuck : ∀ l, l.isInner → step p s l = none) : Idle s := by
  have habsent := not_enabled_of_inner hstuck
  have hup : ¬ s.running = false := by simp [hrunning]
  have htx : s.tx.stand = .getting ∧ s.txQueue = [] := by
    rcases tx_stuck (s := { s with listener := .done }) hawake habsent with hdone | hgetting
    · exact absurd (hpresent.tx (TxPc.stand_done.mp hdone)) hup
    · exact hgetting
  have hpep : s.pep.stand = .getting ∧ s.signedQueue = [] :=
    getting_of_stuck (fun hdone => hup (hpresent.pep (WorkerPc.stand_done.mp hdone))) htx.2
      (pep_stuck (s := { s with listener := .done }) habsent)
  have hsigner : s.signer.stand = .getting ∧ s.extractedQueue = [] :=
    getting_of_stuck (fun hdone => hup (hpresent.signer (WorkerPc.stand_done.mp hdone))) hpep.2
      (signer_stuck (s := { s with listener := .done }) habsent)
  have hextractor : s.extractor.stand = .getting ∧ s.inQueue = [] :=
    getting_of_stuck (fun hdone => hup (hpresent.extractor (ExtractorPc.stand_done.mp hdone)))
      hsigner.2 (extractor_stuck (s := { s with listener := .done }) habsent)
  have hlistener : s.listener = .receiving := by
    cases hpc : s.listener with
    | receiving => rfl
    | done => exact absurd (hpresent.listener hpc) hup
    | putting event =>
      have hnone := hstuck .listenerPut ⟨rfl, by simp [Label.task]⟩
      have hroom : full p.config.ingestionQueueMaxsize s.inQueue = false := by
        rw [hextractor.2]
        simp [full]
      simp [step, hpc, hroom] at hnone
  exact {
    listener := hlistener
    inQueue := hextractor.2
    extractor := ExtractorPc.stand_getting.mp hextractor.1
    extractedQueue := hsigner.2
    signer := WorkerPc.stand_getting.mp hsigner.1
    signedQueue := hpep.2
    pep := WorkerPc.stand_getting.mp hpep.1
    txQueue := htx.2
    tx := TxPc.stand_getting.mp htx.1 }

theorem stuck_of_idle (h : Idle s) (hrunning : s.running = true) (hl : l.isInner) :
    step p s l = none := by
  cases l with
  | receive event => simp [Label.isInner, Label.isReceive] at hl
  | shutdown => simp [Label.isInner, Label.task] at hl
  | listenerPut | listenerStop => simp [step, h.listener, hrunning]
  | extractorLoop | extractorConvert | extractorPut => simp [step, h.extractor]
  | extractorGet => simp [step, h.extractor, h.inQueue]
  | signerLoop | signerPut => simp [step, h.signer]
  | signerGet signature => simp [step, h.signer, h.extractedQueue]
  | pepLoop | pepPut => simp [step, h.pep]
  | pepGet fault => simp [step, h.pep, h.signedQueue]
  | txLoop | txOpened | txSent | txClosed | txWake => simp [step, h.tx]
  | txGet => simp [step, h.tx, h.txQueue]

theorem line_of_idle (h : Idle s) : line s = [] := by
  simp [line, behind, h.extractor, h.extractedQueue, h.signer, h.signedQueue, h.pep, h.txQueue,
    h.tx, ExtractorPc.held, WorkerPc.held, TxPc.held]

theorem running_of_step (hl : l.task ≠ .main) (hstep : step p s l = some s') :
    s'.running = s.running := by
  cases l with
  | shutdown => simp [Label.task] at hl
  | extractorConvert conv id createdAtUnixMs =>
    simp only [step, finishConversion] at hstep
    repeat' split at hstep
    all_goals cases hstep
    all_goals rfl
  | signerGet signature =>
    simp only [step] at hstep
    split at hstep
    · obtain rfl : _ = s' := by simpa using hstep
      cases signature <;> rfl
    · simp at hstep
  | pepGet fault =>
    simp only [step] at hstep
    split at hstep
    · obtain rfl : _ = s' := by simpa using hstep
      simp only [evaluatePolicy]
      split <;> rfl
    · simp at hstep
  | _ =>
    simp only [step] at hstep
    repeat' split at hstep
    all_goals cases hstep
    all_goals rfl

/-- Inner steps do not take the flag down. -/
theorem running_of_runLabels {ls : List Label} (hinner : ∀ l ∈ ls, l.isInner)
    (hrunning : s.running = true) (hrun : runLabels (step p) s ls = some s') :
    s'.running = true := by
  induction ls generalizing s with
  | nil =>
    simp only [runLabels, Option.some.injEq] at hrun
    exact hrun ▸ hrunning
  | cons l ls ih =>
    simp only [runLabels, Option.bind_eq_some_iff] at hrun
    obtain ⟨s₁, hs₁, hrest⟩ := hrun
    have hl := hinner l List.mem_cons_self
    apply ih (fun l' hl' => hinner l' (List.mem_cons_of_mem _ hl')) _ hrest
    rw [running_of_step hl.2 hs₁, hrunning]

theorem brings_of_inner (hl : l.isInner) : l.brings p = 0 := by
  cases l with
  | receive event => simp [Label.isInner, Label.isReceive] at hl
  | shutdown => simp [Label.isInner, Label.task] at hl
  | _ => rfl

/-- **A running pipeline that no event reaches comes to rest.**  From every state it can be in,
    its tasks take at most `workload` steps, in any order and with any answers.  Where every
    sleep ends, they stop exactly when nothing is in a queue or a hand, and if no step met an
    exception, every transaction is then ACKED or dead-lettered, once. -/
theorem drains (htimely : p.config.Timely) (hreach : Reach (step p) anyStep State.init s)
    (hrunning : s.running = true) {ls : List Label} (hinner : ∀ l ∈ ls, l.isInner)
    (hrun : runLabels (step p) s ls = some s') :
    ls.length ≤ workload p s ∧
      ((∀ l, l.isInner → step p s' l = none) ↔ Idle s') ∧
      (Idle s' → Reach (step p) (Sound p) State.init s' → ∀ id ∈ createdIds s'.journal,
        (ackedIds s'.journal).count id + (deadIds s'.journal).count id = 1) := by
  have hreach' := hreach.of_runLabels (fun _ _ _ => trivial) hrun
  have hpresent : Present s' := hreach'.invariant present_init fun h _ hstep => h.step hstep
  have hawake : Awake s' := hreach'.invariant awake_init fun h _ hstep =>
    h.step (htimely.sleepsEnd _ _) hstep
  have hrunning' := running_of_runLabels hinner hrunning hrun
  refine ⟨?_, ⟨?_, ?_⟩, ?_⟩
  · exact spends.length_le_of_free trivial (fun l hl => brings_of_inner (hinner l hl)) hrun
  · exact idle_of_stuck hpresent hawake hrunning'
  · intro hidle l hl
    exact stuck_of_idle hidle hrunning' hl
  · intro hidle hsound id hid
    have hone := conserved_of_sound hsound id hid
    have hline : (lineIds s').count id = 0 := by
      simp [lineIds, line_of_idle hidle]
    omega

namespace Sample

/-- The rest of the way to an ACK, until every worker waits again. -/
def rest : List Label :=
  deliver ++ [.extractorLoop, .signerLoop, .pepLoop, .txLoop]

/-- A state in which every task waits and every queue is empty, as a test. -/
def atRest (s : State) : Bool :=
  s.listener.stand == .idle && s.inQueue.isEmpty && s.extractor.stand == .getting &&
    s.extractedQueue.isEmpty && s.signer.stand == .getting && s.signedQueue.isEmpty &&
    s.pep.stand == .getting && s.txQueue.isEmpty && s.tx.stand == .getting

theorem idle_of_atRest {s : State} (h : atRest s = true) : Idle s := by
  simp only [atRest, Bool.and_eq_true, beq_iff_eq, List.isEmpty_iff] at h
  obtain ⟨⟨⟨⟨⟨⟨⟨⟨hlistener, hin⟩, hextractor⟩, hextracted⟩, hsigner⟩, hsigned⟩, hpep⟩, hqueue⟩,
    htx⟩ := h
  refine ⟨?_, hin, ExtractorPc.stand_getting.mp hextractor, hextracted,
    WorkerPc.stand_getting.mp hsigner, hsigned, WorkerPc.stand_getting.mp hpep, hqueue,
    TxPc.stand_getting.mp htx⟩
  cases hpc : s.listener with
  | receiving => rfl
  | putting event => simp [hpc, ListenerPc.stand] at hlistener
  | done => simp [hpc, ListenerPc.stand] at hlistener

end Sample

/-- The steps of one event up to its ACK, and what they are bounded by. -/
theorem sample_work_bounded :
    ∃ s, runLabels (step Sample.pipeline) State.init
        (Sample.extract "5d2f6645-8f64-4e20-b42e-131c950d210f" ++ Sample.rest) = some s ∧
      (Sample.extract "5d2f6645-8f64-4e20-b42e-131c950d210f" ++ Sample.rest).length ≤
        5 + (4 * 3 + 14) * 1 + 0 := by
  have hrun : (runLabels (step Sample.pipeline) State.init
      (Sample.extract "5d2f6645-8f64-4e20-b42e-131c950d210f" ++ Sample.rest)).isSome = true := by
    decide +kernel
  obtain ⟨s, hs⟩ := Option.isSome_iff_exists.mp hrun
  exact ⟨s, hs, work_bounded hs⟩

/-- A transaction on its way to the signer is ACKED when the pipeline comes to rest. -/
theorem sample_drains :
    ∃ s s', Reach (step Sample.pipeline) anyStep State.init s ∧
      runLabels (step Sample.pipeline) s Sample.rest = some s' ∧
      Sample.rest.length ≤ workload Sample.pipeline s ∧ Idle s' ∧
      (∀ l, l.isInner → step Sample.pipeline s' l = none) ∧
      createdIds s'.journal = ["5d2f6645-8f64-4e20-b42e-131c950d210f"] ∧
      ∀ id ∈ createdIds s'.journal,
        (ackedIds s'.journal).count id + (deadIds s'.journal).count id = 1 := by
  have hfirst : (runLabels (step Sample.pipeline) State.init
      (Sample.extract "5d2f6645-8f64-4e20-b42e-131c950d210f")).map
        (fun s => s.running && ((runLabels (step Sample.pipeline) s Sample.rest).map
          (fun s' => Sample.atRest s' && decide (createdIds s'.journal =
            ["5d2f6645-8f64-4e20-b42e-131c950d210f"]))).getD false) = some true := by
    decide +kernel
  have hplain : ∀ l ∈ Sample.extract "5d2f6645-8f64-4e20-b42e-131c950d210f",
      Sample.plain l = true := by decide
  have hplain' : ∀ l ∈ Sample.rest, Sample.plain l = true := by decide
  have hinner : ∀ l ∈ Sample.rest, l.isInner := by
    simp [Sample.rest, Sample.deliver, Label.isInner, Label.isReceive, Label.task]
  obtain ⟨s, hreach, hend⟩ := Reach.exists_of_run
    (fun l hl s => Sample.sound_of_plain (hplain l hl) s) hfirst
  rw [Bool.and_eq_true] at hend
  obtain ⟨hrunning, hend⟩ := hend
  cases hrun : runLabels (step Sample.pipeline) s Sample.rest with
  | none => simp [hrun] at hend
  | some s' =>
    rw [hrun] at hend
    simp only [Option.map_some, Option.getD_some, Bool.and_eq_true, decide_eq_true_eq] at hend
    have hidle := Sample.idle_of_atRest hend.1
    have hsound := Reach.of_runLabels
      (fun l hl s => Sample.sound_of_plain (hplain' l hl) s) hreach hrun
    have hany := hreach.mono (fun _ _ _ => trivial : ∀ s l, _ → anyStep s l)
    obtain ⟨hlength, hrest, hsettled⟩ :=
      drains Sample.timely hany hrunning hinner hrun
    exact ⟨s, s', hany, hrun, hlength, hidle, hrest.mpr hidle, hend.2, hsettled hidle hsound⟩

/-! ### What is under way -/

/-- A bounded queue holds no more than its size. -/
def Within {α : Type} (maxsize : Int) (queue : List α) : Prop :=
  0 < maxsize → (queue.length : Int) ≤ maxsize

structure Capacity (p : Pipeline) (s : State) : Prop where
  inQueue : Within p.config.ingestionQueueMaxsize s.inQueue
  extractedQueue : Within p.config.extractedQueueMaxsize s.extractedQueue
  signedQueue : Within p.config.signedQueueMaxsize s.signedQueue
  txQueue : Within p.config.txQueueMaxsize s.txQueue

theorem Within.put {α : Type} {maxsize : Int} {queue : List α} {item : α}
    (hroom : ¬ full maxsize queue = true) : Within maxsize (queue ++ [item]) := by
  intro hbounded
  simp only [full, Bool.and_eq_true, decide_eq_true_eq] at hroom
  simp only [List.length_append, List.length_singleton]
  omega

theorem Within.get {α : Type} {maxsize : Int} {queue rest : List α} {item : α}
    (h : Within maxsize queue) (hqueue : queue = item :: rest) : Within maxsize rest := by
  intro hbounded
  have hbound := h hbounded
  rw [hqueue] at hbound
  simp only [List.length_cons] at hbound
  omega

theorem capacity_init : Capacity p State.init := by
  constructor <;> intro hbounded <;> simp [State.init] <;> omega

theorem Capacity.step (h : Capacity p s) (hstep : step p s l = some s') : Capacity p s' := by
  cases l with
  | receive event | listenerStop =>
    simp only [GatewayA.step] at hstep
    repeat' split at hstep
    all_goals cases hstep
    all_goals exact { h with }
  | extractorLoop | signerLoop | pepLoop | txLoop | txSent | shutdown =>
    simp only [GatewayA.step] at hstep
    repeat' split at hstep
    all_goals cases hstep
    all_goals exact { h with }
  | listenerPut =>
    simp only [GatewayA.step] at hstep
    repeat' split at hstep
    all_goals cases hstep
    rename_i hroom
    exact { h with inQueue := .put hroom }
  | extractorGet =>
    simp only [GatewayA.step] at hstep
    split at hstep
    · rename_i hqueue
      obtain rfl : _ = s' := by simpa using hstep
      exact { h with inQueue := h.inQueue.get hqueue }
    · simp at hstep
  | extractorConvert conv id createdAtUnixMs =>
    simp only [GatewayA.step, finishConversion] at hstep
    repeat' split at hstep
    all_goals cases hstep
    all_goals exact { h with }
  | extractorPut =>
    simp only [GatewayA.step] at hstep
    repeat' split at hstep
    all_goals cases hstep
    rename_i hroom
    exact { h with extractedQueue := .put hroom }
  | signerGet signature =>
    simp only [GatewayA.step] at hstep
    split at hstep
    · rename_i hqueue
      obtain rfl : _ = s' := by simpa using hstep
      have hrest := h.extractedQueue.get hqueue
      cases signature <;> exact { h with extractedQueue := hrest }
    · simp at hstep
  | signerPut =>
    simp only [GatewayA.step] at hstep
    repeat' split at hstep
    all_goals cases hstep
    rename_i hroom
    exact { h with signedQueue := .put hroom }
  | pepGet fault =>
    simp only [GatewayA.step] at hstep
    split at hstep
    · rename_i hqueue
      obtain rfl : _ = s' := by simpa using hstep
      have hrest := h.signedQueue.get hqueue
      simp only [evaluatePolicy]
      split <;> exact { h with signedQueue := hrest }
    · simp at hstep
  | pepPut =>
    simp only [GatewayA.step] at hstep
    repeat' split at hstep
    all_goals cases hstep
    rename_i hroom
    exact { h with txQueue := .put hroom }
  | txGet =>
    simp only [GatewayA.step] at hstep
    split at hstep
    · rename_i hqueue
      obtain rfl : _ = s' := by simpa using hstep
      exact { h with txQueue := h.txQueue.get hqueue }
    · simp at hstep
  | txOpened result =>
    simp only [GatewayA.step] at hstep
    split at hstep
    · obtain rfl : _ = s' := by simpa using hstep
      exact { h with }
    · simp at hstep
  | txClosed =>
    simp only [GatewayA.step] at hstep
    split at hstep
    · obtain rfl : _ = s' := by simpa using hstep
      exact { h with }
    · simp at hstep
  | txWake =>
    obtain ⟨_, _, _, _, rfl⟩ := wake_of_step hstep
    exact { h with }

theorem WorkerPc.held_length (pc : WorkerPc) : pc.held.length ≤ 1 := by
  cases pc <;> simp [WorkerPc.held]

theorem ExtractorPc.held_length (pc : ExtractorPc) : pc.held.length ≤ 1 := by
  cases pc <;> simp [ExtractorPc.held]

theorem TxPc.held_length (pc : TxPc) : pc.held.length ≤ 1 := by
  cases pc <;> simp [TxPc.held]

theorem length_line (s : State) : (line s).length =
    s.tx.held.length + (s.txQueue.length + s.pep.held.length) +
      (s.signedQueue.length + s.signer.held.length) +
      (s.extractedQueue.length + s.extractor.held.length) := by
  simp only [line, behind, List.length_append, List.length_map]
  omega

/-- The created transactions are counted by where they are. -/
theorem Account.length (h : Account s) : (createdIds s.journal).length =
    (line s).length + ((ackedIds s.journal).length + (deadIds s.journal).length) := by
  have hperm : (createdIds s.journal).Perm (lineIds s ++ settledIds s.journal) := by
    rw [List.perm_iff_count]
    intro id
    rw [List.count_append]
    exact h.balance id
  rw [hperm.length_eq]
  simp [lineIds, settledIds]

/-- **Back pressure.**  No bounded queue holds more than its size.  With all four bounded, and
    as long as no step meets an exception, the transactions that are neither ACKED nor
    dead-lettered are at most what the queues behind the extractor hold and one in the hands of
    each of the four workers. -/
theorem backlog_bounded (hreach : Reach (step p) (Sound p) State.init s)
    (hin : 0 < p.config.ingestionQueueMaxsize) (hextracted : 0 < p.config.extractedQueueMaxsize)
    (hsigned : 0 < p.config.signedQueueMaxsize) (htx : 0 < p.config.txQueueMaxsize) :
    (s.inQueue.length : Int) ≤ p.config.ingestionQueueMaxsize ∧
      (s.extractedQueue.length : Int) ≤ p.config.extractedQueueMaxsize ∧
      (s.signedQueue.length : Int) ≤ p.config.signedQueueMaxsize ∧
      (s.txQueue.length : Int) ≤ p.config.txQueueMaxsize ∧
      ((createdIds s.journal).length : Int) ≤
        (ackedIds s.journal).length + (deadIds s.journal).length +
          (p.config.extractedQueueMaxsize + p.config.signedQueueMaxsize +
            p.config.txQueueMaxsize + 4) := by
  have hcapacity : Capacity p s := hreach.invariant capacity_init fun h _ hstep => h.step hstep
  have haccount := (account_of_sound hreach).1.length
  have hline := length_line s
  have h₁ := hcapacity.extractedQueue hextracted
  have h₂ := hcapacity.signedQueue hsigned
  have h₃ := hcapacity.txQueue htx
  have h₄ := s.extractor.held_length
  have h₅ := s.signer.held_length
  have h₆ := s.pep.held_length
  have h₇ := s.tx.held_length
  refine ⟨hcapacity.inQueue hin, h₁, h₂, h₃, ?_⟩
  omega

/-- One transaction is under way, in a pipeline of the default sizes. -/
theorem sample_backlog_bounded :
    ∃ s, Reach (step Sample.pipeline) (Sound Sample.pipeline) State.init s ∧
      createdIds s.journal = ["5d2f6645-8f64-4e20-b42e-131c950d210f"] ∧
      (s.inQueue.length : Int) ≤ 100 ∧ (s.extractedQueue.length : Int) ≤ 50 ∧
      (s.signedQueue.length : Int) ≤ 50 ∧ (s.txQueue.length : Int) ≤ 20 ∧
      ((createdIds s.journal).length : Int) ≤
        (ackedIds s.journal).length + (deadIds s.journal).length + (50 + 50 + 20 + 4) := by
  have hrun : (runLabels (step Sample.pipeline) State.init
      (Sample.extract "5d2f6645-8f64-4e20-b42e-131c950d210f")).map
        (fun s => decide (createdIds s.journal = ["5d2f6645-8f64-4e20-b42e-131c950d210f"])) =
      some true := by decide +kernel
  have hplain : ∀ l ∈ Sample.extract "5d2f6645-8f64-4e20-b42e-131c950d210f",
      Sample.plain l = true := by decide
  obtain ⟨s, hreach, hcreated⟩ := Reach.exists_of_run
    (fun l hl s => Sample.sound_of_plain (hplain l hl) s) hrun
  have hbounded := backlog_bounded hreach (by decide) (by decide) (by decide) (by decide)
  exact ⟨s, hreach, by simpa using hcreated, hbounded⟩

end QsTie.GatewayA
