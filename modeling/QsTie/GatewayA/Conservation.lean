import Mathlib.Data.List.Nodup
import QsTie.GatewayA.Line
import QsTie.Lib.Transition

/-!
# No transaction is lost

Every transaction the extractor made is in one place: in line (a queue or a
hand), acknowledged, or dead-lettered.  The account holds along every run whose
steps are `Sound`.  Where a step is not, the exception is only logged: a signer
that raises, a routing entry without a port, a bound of no attempts at all lose
the transaction they hold.
-/

namespace QsTie.GatewayA

open QsTie.Lib

def ackedIds (j : Journal) : List String :=
  j.filterMap fun
    | .setState id .acked => some id
    | _ => none

def deadIds (j : Journal) : List String :=
  j.filterMap fun
    | .deadLetter id _ => some id
    | _ => none

def lineIds (s : State) : List String := (line s).map fun x => x.2.id

/-- Each transaction created is in exactly one place: once in one queue or one hand, or once
    ACKED, or once in the dead-letter store. -/
def Conserved (s : State) : Prop :=
  ∀ id ∈ createdIds s.journal,
    (lineIds s).count id + (ackedIds s.journal).count id + (deadIds s.journal).count id = 1

/-! ### The account of a journal -/

@[simp] theorem createdIds_append (j es : Journal) :
    createdIds (j ++ es) = createdIds j ++ createdIds es :=
  List.filterMap_append

@[simp] theorem ackedIds_append (j es : Journal) :
    ackedIds (j ++ es) = ackedIds j ++ ackedIds es :=
  List.filterMap_append

@[simp] theorem deadIds_append (j es : Journal) : deadIds (j ++ es) = deadIds j ++ deadIds es :=
  List.filterMap_append

/-- The ids a piece of the journal creates, and those it settles. -/
def settledIds (j : Journal) : List String := ackedIds j ++ deadIds j

theorem ids_of_quiet {es : Journal} (hquiet : ∀ e ∈ es, e.quiet = true) :
    createdIds es = [] ∧ ackedIds es = [] ∧ deadIds es = [] := by
  induction es with
  | nil => exact ⟨rfl, rfl, rfl⟩
  | cons e es ih =>
    obtain ⟨hcreated, hacked, hdead⟩ := ih fun e he => hquiet e (List.mem_cons_of_mem _ he)
    have he := hquiet e List.mem_cons_self
    cases e with
    | sessionOpened _ | sessionClosed _ | sleep _ | logTelemetry _ _ =>
      exact ⟨hcreated, hacked, hdead⟩
    | _ => simp [Entry.quiet] at he

theorem ids_of_change {p : Pipeline} {x y : Stage × Item} {es : Journal}
    (h : Change p x y es) :
    createdIds es = [] ∧ settledIds es = [] ∧ y.2.id = x.2.id := by
  cases h <;> exact ⟨rfl, rfl, rfl⟩

theorem ids_of_attempt {x : Stage × Item} {it : Item} {es : Journal} (h : Attempt x it es) :
    createdIds es = [] ∧ settledIds es = [] ∧ it.nextAttempt.id = x.2.id := by
  cases h <;> exact ⟨rfl, rfl, rfl⟩

theorem ids_of_settle {s : State} {x : Stage × Item} {es : Journal} (h : Settle s x es) :
    createdIds es = [] ∧ settledIds es = [x.2.id] := by
  cases h with
  | rejected it tlp recipientId reason => exact ⟨rfl, rfl⟩
  | unroutable it => exact ⟨rfl, rfl⟩
  | acked it reason _ => exact ⟨rfl, rfl⟩
  | failed it es reason hquiet =>
    obtain ⟨hcreated, hacked, hdead⟩ := ids_of_quiet hquiet
    refine ⟨by rw [createdIds_append, hcreated]; rfl, ?_⟩
    simp only [settledIds]
    rw [ackedIds_append, deadIds_append, hacked, hdead]
    rfl

/-- Only a session that succeeded makes a transaction ACKED. -/
theorem acked_of_step {p : Pipeline} {s s' : State} {l : Label} {id : String}
    (hstep : step p s l = some s') (hid : id ∈ ackedIds s'.journal) :
    id ∈ ackedIds s.journal ∨ ∃ it reason, s.tx = .closing it true reason ∧ it.id = id := by
  obtain ⟨es, hjournal, heffect⟩ := step_effect hstep
  rw [hjournal, ackedIds_append] at hid
  rcases List.mem_append.mp hid with hid | hid
  · exact Or.inl hid
  · cases heffect with
    | still _ hquiet _ => simp [(ids_of_quiet hquiet).2.1] at hid
    | dequeue _ _ => simp [ackedIds] at hid
    | enter it _ _ _ _ _ => simp [ackedIds] at hid
    | change _ _ _ hchange => cases hchange <;> simp [ackedIds] at hid
    | attempt _ _ _ hattempt _ => cases hattempt <;> simp [ackedIds] at hid
    | settle _ _ _ _ hsettle =>
      cases hsettle with
      | acked it reason hclosing =>
        right
        exact ⟨it, reason, hclosing, by simpa [ackedIds, eq_comm] using hid⟩
      | failed it es reason hquiet =>
        rw [ackedIds_append, (ids_of_quiet hquiet).2.1] at hid
        simp [ackedIds, fail] at hid
      | _ => simp [ackedIds, fail] at hid
    | lose _ _ _ _ hlose _ =>
      cases hlose with
      | dropped it es hquiet => simp [(ids_of_quiet hquiet).2.1] at hid
      | _ => simp [ackedIds] at hid

/-- The created transactions are those in line and those settled, each once. -/
structure Account (s : State) : Prop where
  distinct : (createdIds s.journal).Nodup
  balance : ∀ id, (createdIds s.journal).count id =
    (lineIds s).count id + (settledIds s.journal).count id

theorem Account.conserved {s : State} (h : Account s) : Conserved s := by
  intro id hid
  have hone : (createdIds s.journal).count id = 1 :=
    List.count_eq_one_of_mem h.distinct hid
  have hbalance := h.balance id
  simp only [settledIds] at hbalance
  rw [List.count_append] at hbalance
  omega

theorem settledIds_append (j es : Journal) (id : String) :
    (settledIds (j ++ es)).count id = (settledIds j).count id + (settledIds es).count id := by
  simp only [settledIds]
  simp only [ackedIds_append, deadIds_append, List.count_append]
  omega

/-- A sound step keeps the account. -/
theorem Account.step {p : Pipeline} {s s' : State} {l : Label} (h : Account s)
    (hcounted : Counted p s) (hsound : Sound p s l) (hstep : step p s l = some s') :
    Account s' := by
  obtain ⟨es, hjournal, heffect⟩ := step_effect hstep
  have keep : createdIds es = [] → (∀ id, (lineIds s).count id =
      (lineIds s').count id + (settledIds es).count id) → Account s' := by
    intro hcreated hcount
    refine ⟨by rw [hjournal, createdIds_append, hcreated, List.append_nil]; exact h.distinct, ?_⟩
    intro id
    rw [hjournal, createdIds_append, hcreated, List.append_nil, h.balance id, settledIds_append,
      hcount id]
    omega
  cases heffect with
  | still hline hquiet _ =>
    obtain ⟨hcreated, hacked, hdead⟩ := ids_of_quiet hquiet
    apply keep hcreated
    intro id
    simp [lineIds, hline, settledIds, hacked, hdead]
  | dequeue hline _ =>
    apply keep rfl
    intro id
    simp [lineIds, hline, settledIds, ackedIds, deadIds]
  | enter it _ _ hfresh _ hline =>
    have hcreated : createdIds s'.journal = createdIds s.journal ++ [it.id] := by
      rw [hjournal, createdIds_append]; rfl
    constructor
    · rw [hcreated]
      exact List.nodup_append.mpr ⟨h.distinct, by simp, by
        rintro a ha b hb rfl
        exact hfresh (List.mem_singleton.mp hb ▸ ha)⟩
    · intro id
      have hline' : lineIds s' = lineIds s ++ [it.id] := by
        simp [lineIds, hline]
      rw [hcreated, hline', List.count_append, List.count_append, h.balance id, hjournal,
        settledIds_append]
      simp [settledIds, ackedIds, deadIds]
      omega
  | change hline hline' _ hchange =>
    obtain ⟨hcreated, hsettled, hsame⟩ := ids_of_change hchange
    apply keep hcreated
    intro id
    simp [lineIds, hline, hline', hsettled, hsame]
  | attempt hline hline' _ hattempt _ =>
    obtain ⟨hcreated, hsettled, hsame⟩ := ids_of_attempt hattempt
    apply keep hcreated
    intro id
    simp [lineIds, hline, hline', hsettled, hsame]
  | settle hline hline' _ _ hsettle =>
    obtain ⟨hcreated, hsettled⟩ := ids_of_settle hsettle
    apply keep hcreated
    intro id
    simp only [lineIds, hline, hline', hsettled, List.map_append, List.map_cons,
      List.count_append, List.count_cons, List.count_nil]
    omega
  | lose _ _ _ _ _ hunsound => exact absurd hsound (hunsound hcounted)

/-! ### Attempts -/

/-- A transaction goes to sleep only while an attempt is left, for as long as the backoff
    says. -/
theorem left_of_retryOrFail {cfg : GatewayAConfig} {it it' : Item} {delay : Rounded}
    (h : (retryOrFail cfg it).1 = .sleeping it' delay) :
    it = it' ∧ (it.tx.retryCount : Int) < cfg.maxAttempts ∧
      cfg.backoffDelay it.tx.retryCount = .ok delay := by
  rcases retryOrFail_cases cfg it with ⟨_, hleft, hdelay, hretry⟩ | hretry | ⟨_, hretry⟩
  · rw [hretry] at h
    obtain ⟨rfl, rfl⟩ : it = it' ∧ _ = delay := by simpa using h
    exact ⟨rfl, hleft, hdelay⟩
  · rw [hretry] at h; simp at h
  · rw [hretry] at h; simp at h

theorem attempt_ne_sleeping (cfg : GatewayAConfig) (it it' : Item) (delay : Rounded) :
    (attempt cfg it).1 ≠ .sleeping it' delay := by
  rcases attempt_cases cfg it with ⟨_, h⟩ | ⟨_, h⟩ <;> simp [h]

/-- The attempt of the transaction has failed, in one of the two places where the worker
    backs off. -/
inductive Fails (it : Item) : Label → TxPc → Prop where
  | opening (e : PyExc) : Fails it (.txOpened (.error e)) (.opening it)
  | closing (reason : PyVal) (htransport : isTransportFailure reason = true) :
      Fails it .txClosed (.closing it false reason)

theorem TxMove.sleeping {cfg : GatewayAConfig} {l : Label} {pc pc' : TxPc} {es : Journal}
    {it : Item} {delay : Rounded} (h : TxMove cfg l pc pc' es)
    (hsleep : pc' = .sleeping it delay) :
    pc = .sleeping it delay ∨ Fails it l pc ∧ (it.tx.retryCount : Int) < cfg.maxAttempts ∧
      cfg.backoffDelay it.tx.retryCount = .ok delay := by
  cases h with
  | other hl => exact Or.inl hsleep
  | loop hpc => rcases hpc with rfl | rfl <;> simp at hsleep
  | take it₀ =>
    rcases takeTransaction_cases cfg it₀ with htake | htake
    · rw [htake] at hsleep
      exact absurd hsleep (attempt_ne_sleeping _ _ _ _)
    · rw [htake] at hsleep
      simp at hsleep
  | opened it₀ result =>
    right
    cases result with
    | error e =>
      obtain ⟨rfl, hdelay⟩ := left_of_retryOrFail hsleep
      exact ⟨.opening e, hdelay⟩
    | ok _ => simp [afterOpen] at hsleep
  | sent => simp at hsleep
  | closed it₀ success reason =>
    right
    simp only [afterClose] at hsleep
    split at hsleep
    · simp at hsleep
    · rename_i hsuccess
      obtain rfl : success = false := by simpa using hsuccess
      split at hsleep
      · rename_i htransport
        obtain ⟨rfl, hdelay⟩ := left_of_retryOrFail hsleep
        exact ⟨.closing reason htransport, hdelay⟩
      · simp at hsleep
  | wake it₀ _ => exact absurd hsleep (attempt_ne_sleeping _ _ _ _)

theorem Counted.step {p : Pipeline} {s s' : State} {l : Label} (h : Counted p s)
    (hstep : step p s l = some s') : Counted p s' := by
  constructor
  · obtain ⟨es, _, heffect⟩ := step_effect hstep
    intro y hy hwaiting
    rcases heffect.mem_line hy with hold | ⟨it, rfl, hnew, _⟩ | ⟨x, hx, hchange⟩ |
      ⟨_, _, _, _, rfl⟩
    · exact h.waiting y hold hwaiting
    · exact hnew
    · -- neither the signer nor the policy counts an attempt
      have hzero : x.2.tx.retryCount = 0 := h.waiting x hx (by cases hchange <;> simp)
      cases hchange <;> exact hzero
    · exact absurd rfl hwaiting
  · intro it delay hsleep
    obtain ⟨_, _, hmove⟩ := step_tx hstep
    rcases hmove.sleeping hsleep with hbefore | ⟨-, hleft, -⟩
    · exact h.sleeping it delay hbefore
    · exact hleft

/-- The transmission is not asleep for ever. -/
def Awake (s : State) : Prop :=
  ∀ it delay, s.tx = .sleeping it delay → sleepReturns delay = true

theorem Awake.step {p : Pipeline} {s s' : State} {l : Label} (h : Awake s)
    (hends : SleepsEnd p s l) (hstep : step p s l = some s') : Awake s' := by
  intro it delay hsleep
  obtain ⟨_, _, hmove⟩ := step_tx hstep
  rcases hmove.sleeping hsleep with hbefore | ⟨hfails, hleft, hdelay⟩
  · exact h it delay hbefore
  · have hwakes : p.config.Wakes it.tx.retryCount := by
      generalize hpc : s.tx = pc at hfails
      cases hfails with
      | opening e => exact hends it (by simp [hpc, TxPc.held])
      | closing reason htransport => exact hends it reason hpc htransport
    exact hwakes hleft delay hdelay

theorem awake_init : Awake State.init := by
  intro it delay hsleep
  simp [State.init] at hsleep

/-! ### Whole runs -/

theorem account_of_sound {p : Pipeline} {s : State}
    (hreach : Reach (step p) (Sound p) State.init s) : Account s ∧ Counted p s := by
  apply hreach.invariant
  · refine ⟨⟨List.nodup_nil, fun _ => rfl⟩, ⟨?_, ?_⟩⟩
    · intro x hx
      simp [State.init, line, behind, TxPc.held, WorkerPc.held, ExtractorPc.held] at hx
    · intro it delay hsleep
      simp [State.init] at hsleep
  · intro s s' l hinv hsound hstep
    exact ⟨hinv.1.step hinv.2 hsound hstep, hinv.2.step hstep⟩

/-- **No transaction is lost in a run of sound steps.** -/
theorem conserved_of_sound {p : Pipeline} {s : State}
    (hreach : Reach (step p) (Sound p) State.init s) : Conserved s :=
  (account_of_sound hreach).1.conserved

namespace Sample

def greenEvent : PyVal :=
  .dict [(.str "Event", .dict [(.str "uuid", .str "5d2f6645-8f64-4e20-b42e-131c950d210f"),
    (.str "Tag", .list [.dict [(.str "name", .str "tlp:green")]])])]

def pipeline : Pipeline where
  config := {
    recipients := [("NIA", [("host", "gateway-b"), ("port", "8443")])]
    backoffFactor := 1 }
  pep := pep
  compress := id
  certFingerprint := "mock_fingerprint"

/-- One event, up to the queue in front of the signer. -/
def extract (id : String) : List Label :=
  [.receive greenEvent, .listenerPut, .extractorLoop, .extractorGet,
   .extractorConvert converter id 1000000, .extractorPut, .signerLoop]

/-- The rest of the way to an ACK. -/
def deliver : List Label :=
  [.signerGet (.ok [1, 2, 3]), .signerPut, .pepLoop, .pepGet none, .pepPut, .txLoop, .txGet,
   .txOpened (.ok ()), .txSent true (.str "ACK"), .txClosed]

theorem baseDelay_ok : ∃ base, pipeline.config.baseDelay = .ok base := by
  have hfloat := floatOf_eq_ok (n := pipeline.config.baseBackoffMs)
    (isFloat_of_small (by decide))
  simp only [GatewayAConfig.baseDelay, hfloat]
  exact ⟨_, rfl⟩

theorem routes (recipientId : String) : pipeline.config.Routes recipientId := by
  simp only [GatewayAConfig.Routes]
  by_cases hnia : recipientId = "NIA"
  · subst hnia
    right
    exact ⟨⟨("gateway-b", 8443), by decide⟩, baseDelay_ok, by decide⟩
  · left
    have hother : (recipientId == "NIA") = false := by simpa using hnia
    have hnone : pipeline.config.recipients.lookup recipientId = none := by
      simp [pipeline, List.lookup_cons, hother]
    simp [GatewayAConfig.route, hnone]

theorem backoff_ok (retryCount : Nat) :
    ∃ delay, pipeline.config.backoffDelay retryCount = .ok delay := by
  obtain ⟨base, hbase⟩ := baseDelay_ok
  have hone : pipeline.config.backoffFactor ^ (retryCount - 1) = 1 := Int.one_pow
  have hfloat := floatOf_eq_ok (n := 1) (isFloat_of_small (by decide))
  simp only [GatewayAConfig.backoffDelay, hone, hbase, hfloat]
  exact ⟨_, rfl⟩

theorem timely : pipeline.config.Timely := by
  intro retryCount _ delay hdelay
  have hone : pipeline.config.backoffFactor ^ (retryCount - 1) = 1 := Int.one_pow
  have hfloat := floatOf_eq_ok (n := 1) (isFloat_of_small (by decide))
  have hbase := floatOf_eq_ok (n := pipeline.config.baseBackoffMs)
    (isFloat_of_small (by decide))
  simp only [GatewayAConfig.backoffDelay, GatewayAConfig.baseDelay, hone, hbase, hfloat,
    Except.ok.injEq] at hdelay
  rw [← hdelay]
  decide +kernel

/-- Labels that are sound in every state of the sample pipeline. -/
def plain : Label → Bool
  | .signerGet (.error _) => false
  | .pepGet (some _) => false
  | _ => true

theorem sound_of_plain {l : Label} (hl : plain l = true) (s : State) : Sound pipeline s l := by
  cases l with
  | signerGet signature =>
    cases signature with
    | error e => simp [plain] at hl
    | ok bytes => exact ⟨bytes, rfl⟩
  | pepGet fault =>
    cases fault with
    | none => rfl
    | some e => simp [plain] at hl
  | txGet => exact fun it _ => routes _
  | txOpened result =>
    cases result with
    | error e => exact fun it _ _ => backoff_ok _
    | ok _ => trivial
  | txClosed => exact fun it _ _ _ _ => backoff_ok _
  | _ => trivial

end Sample

/-- The state after a run of the sample pipeline, with the transaction acknowledged. -/
theorem sample_conserved :
    ∃ s, Reach (step Sample.pipeline) (Sound Sample.pipeline) State.init s ∧
      ackedIds s.journal = ["5d2f6645-8f64-4e20-b42e-131c950d210f"] ∧ Conserved s := by
  have hrun : (runLabels (step Sample.pipeline) State.init
      (Sample.extract "5d2f6645-8f64-4e20-b42e-131c950d210f" ++ Sample.deliver)).map
        (fun s => decide (ackedIds s.journal = ["5d2f6645-8f64-4e20-b42e-131c950d210f"])) =
      some true := by decide +kernel
  have hplain : ∀ l ∈ Sample.extract "5d2f6645-8f64-4e20-b42e-131c950d210f" ++ Sample.deliver,
      Sample.plain l = true := by decide
  obtain ⟨s, hreach, hacked⟩ := Reach.exists_of_run
    (fun l hl s => Sample.sound_of_plain (hplain l hl) s) hrun
  exact ⟨s, hreach, by simpa using hacked, conserved_of_sound hreach⟩

/-- A signer that raises: the transaction is nowhere. -/
theorem sample_unsigned_lost :
    ∃ s, Reach (step Sample.pipeline) anyStep State.init s ∧ ¬ Conserved s := by
  have hrun : (runLabels (step Sample.pipeline) State.init
      (Sample.extract "5d2f6645-8f64-4e20-b42e-131c950d210f" ++
        [.signerGet (.error ⟨.other "RuntimeError", "Private key not loaded"⟩)])).map
        (fun s => decide (createdIds s.journal = ["5d2f6645-8f64-4e20-b42e-131c950d210f"] ∧
          lineIds s = [] ∧ ackedIds s.journal = [] ∧ deadIds s.journal = [])) =
      some true := by decide +kernel
  obtain ⟨s, hreach, hlost⟩ := Reach.exists_of_run (fun _ _ _ => trivial) hrun
  obtain ⟨hcreated, hline, hacked, hdead⟩ := of_decide_eq_true hlost
  refine ⟨s, hreach, ?_⟩
  intro hconserved
  have hone := hconserved "5d2f6645-8f64-4e20-b42e-131c950d210f" (by simp [hcreated])
  rw [hline, hacked, hdead] at hone
  simp at hone

end QsTie.GatewayA
