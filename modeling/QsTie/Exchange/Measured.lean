import QsTie.Benchmark.Telemetry
import QsTie.Exchange.Integrity
import QsTie.GatewayB.Service

/-!
# What the benchmark counts

Gateway A logs a transaction when it is ACKED, with the number of its attempts
(`telemetry_of_acked`).  Gateway B logs a bundle that was taken in and acknowledged,
whoever sent it.  The collector joins the two files, so of a run of both gateways it
counts the transactions that were ACKED, each at most once and once more for each of its
sessions that was interrupted and each connection from elsewhere that brought it
(`counted_of_run`).
-/

namespace QsTie.Exchange

open QsTie.Lib QsTie.GatewayA QsTie.GatewayB

/-! ### The telemetry of Gateway A -/

/-- The id and the `retry_count` of each record, in order. -/
def telemetryA (j : Journal) : List (String × Nat) :=
  j.filterMap fun e => match e with
    | .logTelemetry id retryCount => some (id, retryCount)
    | _ => none

@[simp] theorem telemetryA_append (j es : Journal) :
    telemetryA (j ++ es) = telemetryA j ++ telemetryA es :=
  List.filterMap_append

section Logged

variable {p : Pipeline} {s s' : State} {l : Label}

/-- Entries that neither log a transaction nor make it ACKED. -/
def Unlogged (es : Journal) : Prop := telemetryA es = [] ∧ ackedIds es = []

theorem unlogged_fail (it : Item) (reason : DeadReason) : Unlogged (fail it reason) := ⟨rfl, rfl⟩

theorem unlogged_attempt (cfg : GatewayAConfig) (it : Item) : Unlogged (attempt cfg it).2 := by
  rcases attempt_cases cfg it with ⟨_, h⟩ | ⟨_, h⟩ <;> rw [h] <;> exact ⟨rfl, rfl⟩

theorem unlogged_takeTransaction (cfg : GatewayAConfig) (it : Item) :
    Unlogged (takeTransaction cfg it).2 := by
  simp only [takeTransaction]
  split
  · exact ⟨rfl, rfl⟩
  · exact unlogged_fail it _
  · split
    · exact ⟨rfl, rfl⟩
    · exact unlogged_attempt cfg it

theorem unlogged_retryOrFail (cfg : GatewayAConfig) (it : Item) :
    Unlogged (retryOrFail cfg it).2 := by
  rcases retryOrFail_cases cfg it with ⟨_, _, _, h⟩ | h | ⟨_, h⟩ <;> rw [h] <;> exact ⟨rfl, rfl⟩

/-- The other tasks log nothing. -/
theorem unlogged_of_other (hl : l.isTx = false) (hstep : GatewayA.step p s l = some s') :
    ∃ es, s'.journal = s.journal ++ es ∧ Unlogged es := by
  cases l with
  | txLoop | txGet | txClosed | txWake => simp [Label.isTx] at hl
  | txOpened _ => simp [Label.isTx] at hl
  | txSent _ _ => simp [Label.isTx] at hl
  | signerGet signature =>
    simp only [GatewayA.step] at hstep
    split at hstep
    · obtain rfl : _ = s' := by simpa using hstep
      cases signature with
      | error e => exact ⟨_, rfl, rfl, rfl⟩
      | ok bytes => exact ⟨_, rfl, rfl, rfl⟩
    · simp at hstep
  | pepGet fault =>
    simp only [GatewayA.step] at hstep
    split at hstep
    · obtain rfl : _ = s' := by simpa using hstep
      simp only [evaluatePolicy]
      split
      · exact ⟨_, rfl, rfl, rfl⟩
      · exact ⟨_, rfl, rfl, rfl⟩
      · exact ⟨_, rfl, rfl, rfl⟩
    · simp at hstep
  | extractorConvert conv id createdAtUnixMs =>
    simp only [GatewayA.step, finishConversion] at hstep
    repeat' split at hstep
    all_goals cases hstep
    all_goals first
      | exact ⟨[], (List.append_nil _).symm, rfl, rfl⟩
      | exact ⟨_, rfl, rfl, rfl⟩
  | extractorGet =>
    simp only [GatewayA.step] at hstep
    split at hstep
    · cases hstep
      exact ⟨_, rfl, rfl, rfl⟩
    · simp at hstep
  | _ =>
    simp only [GatewayA.step] at hstep
    repeat' split at hstep
    all_goals cases hstep
    all_goals exact ⟨[], (List.append_nil _).symm, rfl, rfl⟩

/-- A step logs what it makes ACKED. -/
theorem logged_of_step (hstep : GatewayA.step p s l = some s') :
    ∃ es, s'.journal = s.journal ++ es ∧
      (Unlogged es ∨ ∃ it reason, s.tx = .closing it true reason ∧
        es = [.sessionClosed it.id, .setState it.id .acked,
          .logTelemetry it.id it.tx.retryCount]) := by
  cases hl : l.isTx with
  | false =>
    obtain ⟨es, hjournal, hnone⟩ := unlogged_of_other hl hstep
    exact ⟨es, hjournal, Or.inl hnone⟩
  | true =>
    obtain ⟨es, hjournal, hmove⟩ := step_tx hstep
    refine ⟨es, hjournal, ?_⟩
    generalize hpc : s.tx = pc at hmove
    generalize s'.tx = pc' at hmove
    cases hmove with
    | other hother => rw [hl] at hother; simp at hother
    | loop _ => left; exact ⟨rfl, rfl⟩
    | take it => left; exact unlogged_takeTransaction p.config it
    | opened it result =>
      left
      cases result with
      | error e => exact unlogged_retryOrFail p.config it
      | ok _ => exact ⟨rfl, rfl⟩
    | sent it success reason => left; exact ⟨rfl, rfl⟩
    | closed it success reason =>
      cases success with
      | true => right; exact ⟨it, reason, rfl, rfl⟩
      | false =>
        left
        simp only [afterClose, Bool.false_eq_true, if_false]
        split
        · exact unlogged_retryOrFail p.config it
        · exact unlogged_fail it (.nack reason)
    | wake it => left; exact unlogged_attempt p.config it

end Logged

/-! ### Logged when ACKED -/

theorem count_ackedIds (j : Journal) (id : String) :
    (ackedIds j).count id = (statesOf id j).count .acked := by
  induction j with
  | nil => rfl
  | cons e j ih =>
    cases e with
    | setState id' state =>
      by_cases hid : id' = id
      · cases state <;> simp_all [ackedIds, statesOf]
      · cases state <;> simp_all [ackedIds, statesOf]
    | _ => exact ih

/-- A transaction in transmission has been attempted. -/
def Attempted (pc : TxPc) : Prop := ∀ it ∈ pc.held, 1 ≤ it.tx.retryCount

theorem attempted_attempt (cfg : GatewayAConfig) (it : Item) :
    Attempted (attempt cfg it).1 := by
  rcases attempt_cases cfg it with ⟨_, h⟩ | ⟨_, h⟩ <;> rw [h] <;>
    simp [Attempted, TxPc.held, Item.nextAttempt]

theorem attempted_takeTransaction (cfg : GatewayAConfig) (it : Item) :
    Attempted (takeTransaction cfg it).1 := by
  simp only [takeTransaction]
  split
  · simp [Attempted, TxPc.held]
  · simp [Attempted, TxPc.held]
  · split
    · simp [Attempted, TxPc.held]
    · exact attempted_attempt cfg it

theorem attempted_retryOrFail (cfg : GatewayAConfig) {it : Item} (h : 1 ≤ it.tx.retryCount) :
    Attempted (retryOrFail cfg it).1 := by
  rcases retryOrFail_cases cfg it with ⟨_, _, _, heq⟩ | heq | ⟨_, heq⟩ <;> rw [heq] <;>
    simp [Attempted, TxPc.held, h]

theorem attempted_of_move {cfg : GatewayAConfig} {l : Label} {pc pc' : TxPc} {es : Journal}
    (hmove : TxMove cfg l pc pc' es) (h : Attempted pc) : Attempted pc' := by
  cases hmove with
  | other _ => exact h
  | loop hpc => rcases hpc with rfl | rfl <;> simp [Attempted, TxPc.held]
  | take it => exact attempted_takeTransaction cfg it
  | opened it result =>
    have hcount : 1 ≤ it.tx.retryCount := h it (by simp [TxPc.held])
    cases result with
    | error e => exact attempted_retryOrFail cfg hcount
    | ok _ => simp [afterOpen, Attempted, TxPc.held, hcount]
  | sent it success reason => exact h
  | closed it success reason =>
    have hcount : 1 ≤ it.tx.retryCount := h it (by simp [TxPc.held])
    simp only [afterClose]
    split
    · simp [Attempted, TxPc.held]
    · split
      · exact attempted_retryOrFail cfg hcount
      · simp [Attempted, TxPc.held]
  | wake it => exact attempted_attempt cfg it

section Counted

variable {p : Pipeline} {s s' : State} (hreach : Reach (GatewayA.step p) anyStep State.init s)
include hreach

theorem attempted_of_reach : Attempted s.tx := by
  apply @Reach.invariant _ _ _ _ _ _ (fun s => Attempted s.tx) hreach
  · simp [Attempted, State.init, TxPc.held]
  · intro s s' l h _ hstep
    obtain ⟨_, _, hmove⟩ := step_tx hstep
    exact attempted_of_move hmove h

/-- A transaction that is ACKED is attempted no more. -/
theorem attempts_of_acked {l : Label} {es : Journal} (heffect : Effect p s l s' es) {id : String}
    (hacked : id ∈ ackedIds s.journal) : attempts id es = 0 := by
  rcases attempts_of_effect heffect id with hnone | ⟨_, stage, it, hline, _, rfl, _⟩
  · exact hnone
  · have hopen := not_final_of_line hreach hline (mem_ackedIds.mp hacked)
    simp [TransactionState.final] at hopen

/-- The attempts of a transaction that is being sent are the ones it counts. -/
theorem attempts_of_held {it : Item} (hheld : it ∈ s.tx.held) :
    attempts it.id s.journal = it.tx.retryCount := by
  have hline : (Stage.sending, it) ∈ line s :=
    List.mem_append_left _ (List.mem_map_of_mem hheld)
  rw [attempts, (traced_of_reach hreach).staged.inLine _ hline]
  simp [Stage.path]

/-- No transaction is ACKED twice. -/
theorem ackedIds_nodup : (ackedIds s.journal).Nodup := by
  rw [List.nodup_iff_count_le_one]
  intro id
  by_cases hid : id ∈ createdIds s.journal
  · obtain ⟨before, fin, hsplit, hlen, hbefore⟩ :=
      ((traced_of_reach hreach).staged.path id hid).split
    have hnone : before.count .acked = 0 := by
      rw [List.count_eq_zero]
      intro hmem
      have hopen := hbefore _ hmem
      simp [TransactionState.final] at hopen
    rw [count_ackedIds, hsplit, List.count_append, hnone, Nat.zero_add]
    exact List.count_le_length.trans hlen
  · rw [count_ackedIds, (traced_of_reach hreach).staged.unknown id hid]
    exact Nat.zero_le 1

/-- What a record of Gateway A says. -/
structure Tallied (p : Pipeline) (s : State) : Prop where
  ids : (telemetryA s.journal).map Prod.fst = ackedIds s.journal
  counts : ∀ record ∈ telemetryA s.journal,
    record.2 = attempts record.1 s.journal ∧ 1 ≤ record.2

theorem Tallied.step {l : Label} (h : Tallied p s) (hstep : GatewayA.step p s l = some s') :
    Tallied p s' := by
  obtain ⟨es, hjournal, hlogged⟩ := logged_of_step hstep
  obtain ⟨es', hjournal', heffect⟩ := step_effect hstep
  obtain rfl : es = es' := List.append_cancel_left (hjournal.symm.trans hjournal')
  have hold : ∀ record ∈ telemetryA s.journal,
      record.2 = attempts record.1 s'.journal ∧ 1 ≤ record.2 := by
    intro record hrecord
    have hacked : record.1 ∈ ackedIds s.journal := by
      rw [← h.ids]
      exact List.mem_map_of_mem hrecord
    rw [hjournal, attempts_append, attempts_of_acked hreach heffect hacked, Nat.add_zero]
    exact h.counts record hrecord
  rcases hlogged with ⟨htelemetry, hacked⟩ | ⟨it, reason, hclosing, rfl⟩
  · refine ⟨?_, ?_⟩
    · rw [hjournal, telemetryA_append, ackedIds_append, htelemetry, hacked, List.append_nil,
        List.append_nil, h.ids]
    · intro record hrecord
      rw [hjournal, telemetryA_append, htelemetry, List.append_nil] at hrecord
      exact hold record hrecord
  · refine ⟨?_, ?_⟩
    · rw [hjournal, telemetryA_append, ackedIds_append, List.map_append, h.ids]
      rfl
    · intro record hrecord
      rw [hjournal, telemetryA_append] at hrecord
      rcases List.mem_append.mp hrecord with hrecord | hrecord
      · exact hold record hrecord
      · obtain rfl : record = (it.id, it.tx.retryCount) := by simpa [telemetryA] using hrecord
        have hheld : it ∈ s.tx.held := by simp [hclosing, TxPc.held]
        refine ⟨?_, attempted_of_reach hreach it hheld⟩
        rw [hjournal, attempts_append, attempts_of_held hreach hheld]
        simp [attempts, statesOf]

theorem tallied_of_reach : Tallied p s := by
  apply @Reach.invariant_of_reach _ _ _ _ _ _ (Tallied p) hreach
  · exact ⟨rfl, by simp [telemetryA, State.init]⟩
  · intro s s' l hbefore h _ hstep
    exact h.step hbefore hstep

end Counted

/-- **The telemetry of Gateway A** is one record for each transaction that is ACKED, in the order
    in which they were, with the number of its attempts. -/
theorem telemetry_of_acked {p : Pipeline} {s : State}
    (hreach : Reach (GatewayA.step p) anyStep State.init s) :
    (telemetryA s.journal).map Prod.fst = ackedIds s.journal ∧ (ackedIds s.journal).Nodup ∧
      ∀ record ∈ telemetryA s.journal, record.2 = attempts record.1 s.journal ∧ 1 ≤ record.2 ∧
        (record.2 : Int) ≤ p.config.maxAttempts := by
  have htallied := tallied_of_reach hreach
  refine ⟨htallied.ids, ackedIds_nodup hreach, ?_⟩
  intro record hrecord
  obtain ⟨hcount, hone⟩ := htallied.counts record hrecord
  refine ⟨hcount, hone, ?_⟩
  rcases attempts_bounded hreach record.1 with hzero | hbound
  · omega
  · rwa [hcount]

/-- The sample transaction, which is sent twice. -/
theorem sample_telemetry_of_acked :
    ∃ s, Reach (GatewayA.step Sample.relay.pipeline) anyStep State.init s ∧
      telemetryA s.journal = [(GatewayB.Sample.txId, 2)] ∧
      attempts GatewayB.Sample.txId s.journal = 2 := by
  have hrun : (runLabels Sample.relay.step (Sample.relay.start GatewayB.Sample.peers)
      (Sample.labels.map .pipeline ++ Sample.sendTwice)).map (fun w =>
        telemetryA w.a.journal == [(GatewayB.Sample.txId, 2)]) = some true := by
    decide +kernel
  obtain ⟨w, hreach, hend⟩ := Reach.exists_of_run (fun _ _ _ => trivial) hrun
  have hrecords := eq_of_beq hend
  have hpipeline := Relay.reach_pipeline hreach
  obtain ⟨_, _, hcounts⟩ := telemetry_of_acked hpipeline
  obtain ⟨hcount, _⟩ := hcounts (GatewayB.Sample.txId, 2)
    (by rw [hrecords]; exact List.mem_cons_self)
  exact ⟨w.a, hpipeline, hrecords, hcount.symm⟩

/-! ### The telemetry of Gateway B -/

/-- An ACK says what it acknowledges. -/
theorem ackFrame_inj {txId txId' : String} (h : ackFrame txId = ackFrame txId') :
    txId = txId' := by
  simp only [ackFrame, FrameCodec.frameBytes, List.cons.injEq, true_and] at h
  have hlen : (ackPayload txId).length = (ackPayload txId').length := by
    simpa [packLength] using congrArg List.length h
  have hpayload := List.append_inj_right' h hlen
  have hentries := congrArg jsonObject hpayload
  simp only [ackPayload, jsonObject_jsonDumps] at hentries
  simpa using hentries

/-- The records of Gateway B, of all its connections. -/
def telemetryB {Key : Type} (srv : Server Key) : List TelemetryB :=
  srv.tasks.flatMap fun task => telemetry task.history

section Recorded

variable {Key : Type} {relay : Relay Key} {peers : List Peer} {w : Joint Key}

/-- A connection logs no more than it takes in. -/
theorem telemetry_le_taken {site : Site Key} {peer : Peer} {history : History} {prog : Conn Unit}
    (hpath : OnPath site peer history prog) :
    Prog.Complies accounting [] history ∧ (telemetry history).length ≤ ingestedTrue history := by
  have hcomplies : Prog.Complies accounting [] history :=
    (Prog.wp_steps (accounting_finish _ _ _) hpath.1 fun _ _ _ _ => trivial).1
  refine ⟨hcomplies, ?_⟩
  cases hrecords : telemetry history with
  | nil => exact Nat.zero_le _
  | cons record rest =>
    have hmem : record ∈ telemetry history := by rw [hrecords]; exact List.mem_cons_self
    obtain ⟨before, after, hsplit⟩ := exists_log_of_mem hmem
    obtain ⟨b, hb⟩ := (hcomplies before _ after hsplit).ingested
    have hlen := telemetry_length_le hcomplies
    rw [hrecords] at hlen
    refine hlen.trans (List.countP_pos_iff.mpr ⟨⟨.ingestBundle b, true⟩, ?_, rfl⟩)
    rw [hsplit]
    exact List.mem_append_left _ hb

/-- A record says whose ACK was written. -/
theorem acked_of_record {history : History} (hcomplies : Prog.Complies accounting [] history)
    {record : TelemetryB} (hrecord : record ∈ telemetry history) :
    ackFrame record.txId ∈ written history := by
  obtain ⟨before, after, hsplit⟩ := exists_log_of_mem hrecord
  have hwritten := (hcomplies before _ after hsplit).written
  rw [List.nil_append] at hwritten
  rw [hsplit, written_append, hwritten]
  exact List.mem_append_left _ List.mem_cons_self

/-- The records of a connection are of the transaction it brings, which was taken in. -/
theorem records_of_task (hpaths : relay.site.EqualPathsSameFile) {srv : Server Key}
    {task : GatewayB.Task} (hreach : Reach relay.site.step anyStep (relay.site.start peers) srv)
    (htask : task ∈ srv.tasks) :
    (telemetry task.history).length ≤ ingestedTrue task.history ∧
      ∀ record ∈ telemetry task.history, relay.brings task.peer = some record.txId := by
  obtain ⟨prog, hpath⟩ := ((sound_of_reach hpaths hreach).tasks task htask).onPath
  obtain ⟨hcomplies, htaken⟩ := telemetry_le_taken hpath
  refine ⟨htaken, ?_⟩
  intro record hrecord
  obtain ⟨_, _, payload, env, _, hframe, henv, _, _, _, hack⟩ :=
    acknowledges_of_ack hpaths hreach htask (acked_of_record hcomplies hrecord) rfl
  simp only [Relay.brings, hframe, henv, Except.toOption, Option.map_some, ackFrame_inj hack]

/-- Gateway B has logged a transaction no more often than it took it in. -/
theorem count_telemetryB (hpaths : relay.site.EqualPathsSameFile)
    (hreach : Reach relay.site.step anyStep (relay.site.start peers) w.srv) (id : String) :
    ((telemetryB w.srv).map TelemetryB.txId).count id ≤ relay.accepted w id := by
  have hrecords := fun task htask => @records_of_task _ _ _ hpaths w.srv task hreach htask
  rw [telemetryB, Relay.accepted_eq]
  generalize w.srv.tasks = tasks at hrecords
  induction tasks with
  | nil => simp
  | cons task tasks ih =>
    have hrest := ih fun task' htask' => hrecords task' (List.mem_cons_of_mem _ htask')
    obtain ⟨hlen, hids⟩ := hrecords task List.mem_cons_self
    rw [List.flatMap_cons, List.map_append, List.count_append]
    by_cases hbrings : relay.brings task.peer = some id
    · have hcount : ((telemetry task.history).map TelemetryB.txId).count id ≤
          ingestedTrue task.history := List.count_le_length.trans (by rwa [List.length_map])
      rw [List.filter_cons_of_pos (by simpa using hbrings), List.map_cons, List.sum_cons]
      exact Nat.add_le_add hcount hrest
    · have hnone : ((telemetry task.history).map TelemetryB.txId).count id = 0 := by
        rw [List.count_eq_zero, List.mem_map]
        rintro ⟨record, hrecord, rfl⟩
        exact hbrings (hids record hrecord)
      rw [List.filter_cons_of_neg (by simpa using hbrings), hnone, Nat.zero_add]
      exact hrest

end Recorded

/-! ### The files -/

open Benchmark (TextFile FileShaped MergeLaws ColumnsClash Logged logRecord collect)

/-- What `transaction.telemetry` holds when it is logged. -/
def stampsA : List String := ["t_received", "t_extracted", "t_signed", "t_acked", "retry_count"]

def stampsB : List String := ["t_received_b", "t_verified_b", "t_ingested_b"]

/-- The `ACKED` records of the file are of these transactions: each that was logged, unless it
    could not be written. -/
structure Holds (loads : String → Except PyExc PyVal) (file : TextFile) (state : String)
    (stamps ids : List String) : Prop where
  shaped : FileShaped loads file
  records : ∃ kept : List (String × PyDict), (kept.map Prod.fst).Subperm ids ∧
    (∀ record ∈ kept, record.2.map Prod.fst = stamps.map .str) ∧
    Benchmark.acked loads file = kept.map fun record => logRecord record.1 state record.2

/-- The rows with the id. -/
def rowsWith (rows : List PyDict) (id : String) : Nat :=
  rows.countP fun row => (row.get? "tx_id").any (·.isStr id)

section Files

variable {loads : String → Except PyExc PyVal} {file : TextFile} {state : String}
  {stamps ids : List String}

theorem get?_of_stamps {telemetry : PyDict} (h : telemetry.map Prod.fst = stamps.map .str)
    {name : String} (hname : name ∉ stamps) : telemetry.get? name = none := by
  simp only [PyDict.get?, Option.map_eq_none_iff, List.find?_eq_none]
  intro entry hentry
  have hmem : entry.1 ∈ stamps.map PyVal.str := by
    rw [← h]
    exact List.mem_map_of_mem hentry
  obtain ⟨stamp, hstamp, heq⟩ := List.mem_map.mp hmem
  rw [← heq]
  simp only [PyVal.isStr_iff, PyVal.str.injEq]
  rintro rfl
  exact hname hstamp

/-- The rows of the file, their keys and their columns. -/
theorem Holds.rows (h : Holds loads file state stamps ids) (hkey : "tx_id" ∉ stamps) :
    (∀ event ∈ Benchmark.acked loads file, Logged event) ∧
      (((Benchmark.acked loads file).map Benchmark.rowOf).map Benchmark.keyText).Subperm ids ∧
      Benchmark.columns ((Benchmark.acked loads file).map Benchmark.rowOf) ⊆ stamps := by
  obtain ⟨kept, hkept, hstamps, hrecords⟩ := h.records
  rw [hrecords]
  refine ⟨?_, ?_, ?_⟩
  · intro event hevent
    obtain ⟨record, hrecord, rfl⟩ := List.mem_map.mp hevent
    exact ⟨record.1, state, record.2, rfl, get?_of_stamps (hstamps record hrecord) hkey⟩
  · have hkeys : ((kept.map fun record => logRecord record.1 state record.2).map
        Benchmark.rowOf).map Benchmark.keyText = kept.map Prod.fst := by
      rw [List.map_map, List.map_map]
      apply List.map_congr_left
      intro record hrecord
      have hrow := @Benchmark.get?_rowOf (logRecord record.1 state record.2) _ _ rfl rfl
      rw [get?_of_stamps (hstamps record hrecord) hkey] at hrow
      simp only [Function.comp_apply, Benchmark.keyText, hrow, Option.getD_none]
    rw [hkeys]
    exact hkept
  · intro name hname
    simp only [Benchmark.columns, List.mem_flatMap, List.mem_filterMap] at hname
    obtain ⟨row, hrow, entry, hentry, hcolumn⟩ := hname
    obtain ⟨event, hevent, rfl⟩ := List.mem_map.mp hrow
    obtain ⟨record, hrecord, rfl⟩ := List.mem_map.mp hevent
    have hentry : entry ∈ record.2 ++ [(.str "tx_id", .str record.1)] := hentry
    split at hcolumn
    · rename_i column hcolumn'
      split at hcolumn
      · simp at hcolumn
      · rename_i hother
        obtain rfl := Option.some.inj hcolumn
        rcases List.mem_append.mp hentry with hentry | hentry
        · have hmem : entry.1 ∈ stamps.map PyVal.str := by
            rw [← hstamps record hrecord]
            exact List.mem_map_of_mem hentry
          rw [hcolumn'] at hmem
          obtain ⟨stamp, hstamp, heq⟩ := List.mem_map.mp hmem
          rwa [← PyVal.str.inj heq]
        · rw [List.mem_singleton.mp hentry] at hcolumn'
          exact absurd (PyVal.str.inj hcolumn').symm hother
    · simp at hcolumn

/-- Frames under different columns can be merged. -/
theorem not_columnsClash {dfA dfB : List PyDict} {namesA namesB : List String}
    (hA : Benchmark.columns dfA ⊆ namesA) (hB : Benchmark.columns dfB ⊆ namesB)
    (hdisjoint : namesA.Disjoint namesB) : ¬ ColumnsClash dfA dfB := by
  have hboth : ∀ name, ¬ (name ∈ Benchmark.columns dfA ∧ name ∈ Benchmark.columns dfB) :=
    fun name h => hdisjoint (hA h.1) (hB h.2)
  rintro (⟨c, _, c', _, hne, heq⟩ | ⟨c, _, c', _, hne, heq⟩) <;>
    simp only [Benchmark.mergedName, if_neg (hboth _)] at heq
  · exact hne heq
  · exact hne heq

end Files

/-- The rows of a merge with the id. -/
theorem rowsWith_of_perm {rows : List PyDict} {keys : List String} {id : String}
    (h : (rows.map (·.get? "tx_id")).Perm (keys.map fun key => some (.str key))) :
    rowsWith rows id = keys.count id := by
  have hcount := h.countP_eq fun key => key.any (·.isStr id)
  rw [List.countP_map, List.countP_map] at hcount
  exact hcount

/-- **What the benchmark counts** of a run of both gateways, whatever was interrupted and whatever
    records could not be written: transactions that are ACKED, each once, and once more at most
    for each of its sessions that was interrupted and each connection from elsewhere. -/
theorem counted_of_run {Key : Type} (relay : Relay Key) (peers : List Peer)
    (htrusts : relay.Trusts) {w : Joint Key}
    (hreach : Reach relay.step anyStep (relay.start peers) w)
    (hfit : ∀ id ∈ createdIds w.a.journal, ResponsesFit id)
    {loads : String → Except PyExc PyVal}
    {merge : List PyDict → List PyDict → Except PyExc (List PyDict)} (hmerge : MergeLaws merge)
    {fileA fileB : TextFile}
    (hfileA : Holds loads fileA TransactionState.acked.value stampsA
      ((telemetryA w.a.journal).map Prod.fst))
    (hfileB : Holds loads fileB "ACKED" stampsB ((telemetryB w.srv).map TelemetryB.txId)) :
    ∃ rows, collect loads merge fileA fileB = .ok rows ∧
      (∀ row ∈ rows, ∃ id ∈ ackedIds w.a.journal, row.get? "tx_id" = some (.str id)) ∧
      ∀ id, rowsWith rows id ≤ 1 + w.interruptions id + relay.foreign w id := by
  obtain ⟨hloggedA, hkeysA, hcolumnsA⟩ := hfileA.rows (by decide)
  obtain ⟨hloggedB, hkeysB, hcolumnsB⟩ := hfileB.rows (by decide)
  by_cases hempty : Benchmark.acked loads fileA = [] ∨ Benchmark.acked loads fileB = []
  · refine ⟨[], ?_, by simp, fun id => Nat.zero_le _⟩
    rw [Benchmark.collect_eq_ok, if_pos hempty]
    exact ⟨hfileA.shaped, hfileB.shaped, rfl⟩
  · have hcompleteA := fun event hevent => (hloggedA event hevent).complete
    have hcompleteB := fun event hevent => (hloggedB event hevent).complete
    obtain ⟨rows, hok, hperm, -⟩ := hmerge.inner _ _
      (Benchmark.stringKeyed_rows (Benchmark.textIds_of_logged hloggedA) hcompleteA)
      (Benchmark.stringKeyed_rows (Benchmark.textIds_of_logged hloggedB) hcompleteB)
      (not_columnsClash hcolumnsA hcolumnsB (by simp [List.Disjoint, stampsA, stampsB]))
    rw [(telemetry_of_acked (Relay.reach_pipeline hreach)).1] at hkeysA
    refine ⟨rows, ?_, ?_, ?_⟩
    · rw [Benchmark.collect_eq_ok, if_neg hempty]
      exact ⟨hfileA.shaped, hfileB.shaped, hcompleteA, hcompleteB, hok⟩
    · intro row hrow
      obtain ⟨key, hkey, heq⟩ := List.mem_map.mp (hperm.subset (List.mem_map_of_mem hrow))
      exact ⟨key, hkeysA.subset (mem_joinKeys.mp hkey).1, heq.symm⟩
    · intro id
      rw [rowsWith_of_perm hperm, count_joinKeys]
      have hone := (hkeysA.count_le id).trans
        (List.nodup_iff_count_le_one.mp (ackedIds_nodup (Relay.reach_pipeline hreach)) id)
      have htaken := (hkeysB.count_le id).trans
        (count_telemetryB htrusts.paths (Relay.reach_server hreach) id)
      calc _ ≤ 1 * relay.accepted w id := Nat.mul_le_mul hone htaken
        _ = relay.accepted w id := Nat.one_mul _
        _ ≤ 1 + w.interruptions id + relay.foreign w id := htrusts.accepted_le hreach hfit id

namespace Sample

def recordA : PyDict :=
  logRecord GatewayB.Sample.txId TransactionState.acked.value
    [(.str "t_received", .int 1000), (.str "t_extracted", .int 2000), (.str "t_signed", .int 3000),
     (.str "t_acked", .int 9000), (.str "retry_count", .int 2)]

def recordB : PyDict :=
  logRecord GatewayB.Sample.txId "ACKED" [(.str "t_received_b", .int 4000),
    (.str "t_verified_b", .int 5000), (.str "t_ingested_b", .int 6000)]

/-- `json.loads` on the two texts. -/
def loadsRecord (text : String) : Except PyExc PyVal :=
  if text = "A" then .ok (.dict recordA) else .ok (.dict recordB)

def fileA : TextFile := some (.ok ["A"])

/-- Both deliveries were logged. -/
def fileB : TextFile := some (.ok ["B", "B"])

theorem holdsA :
    Holds loadsRecord fileA TransactionState.acked.value stampsA [GatewayB.Sample.txId] where
  shaped := by
    refine ⟨Or.inr ⟨_, rfl, ?_⟩, ?_⟩
    · intro line hline
      obtain rfl := List.mem_singleton.mp hline
      exact Or.inr (Or.inr ⟨.dict recordA, rfl⟩)
    · intro event hevent
      obtain rfl : event = .dict recordA := List.mem_singleton.mp hevent
      exact ⟨_, _, rfl, rfl⟩
  records := ⟨[(GatewayB.Sample.txId, _)], List.Subperm.refl _, by simp [stampsA], rfl⟩

theorem holdsB : Holds loadsRecord fileB "ACKED" stampsB
    [GatewayB.Sample.txId, GatewayB.Sample.txId] where
  shaped := by
    have hevents : Benchmark.events loadsRecord fileB = [.dict recordB, .dict recordB] := rfl
    refine ⟨Or.inr ⟨_, rfl, ?_⟩, ?_⟩
    · intro line hline
      obtain rfl : line = "B" := by simpa using hline
      exact Or.inr (Or.inr ⟨.dict recordB, rfl⟩)
    · intro event hevent
      obtain rfl : event = .dict recordB := by simpa [hevents] using hevent
      exact ⟨_, _, rfl, rfl⟩
  records := ⟨[(GatewayB.Sample.txId, _), (GatewayB.Sample.txId, _)], List.Subperm.refl _,
    by simp [stampsB], rfl⟩

end Sample

/-- The transaction that was taken in twice, after one interruption, is counted twice. -/
theorem sample_counted_of_run :
    ∃ w rows, Reach Sample.relay.step anyStep (Sample.relay.start GatewayB.Sample.peers) w ∧
      collect Sample.loadsRecord Benchmark.innerMerge Sample.fileA Sample.fileB = .ok rows ∧
      w.interruptions GatewayB.Sample.txId = 1 ∧ rowsWith rows GatewayB.Sample.txId = 2 ∧
      rowsWith rows GatewayB.Sample.txId ≤
        1 + w.interruptions GatewayB.Sample.txId + Sample.relay.foreign w GatewayB.Sample.txId := by
  have hrun : (runLabels Sample.relay.step (Sample.relay.start GatewayB.Sample.peers)
      (Sample.labels.map .pipeline ++ Sample.sendTwice)).map (fun w =>
        createdIds w.a.journal == [GatewayB.Sample.txId] &&
        (telemetryA w.a.journal).map Prod.fst == [GatewayB.Sample.txId] &&
        (telemetryB w.srv).map TelemetryB.txId ==
          [GatewayB.Sample.txId, GatewayB.Sample.txId] &&
        w.interruptions GatewayB.Sample.txId == 1) = some true := by
    decide +kernel
  obtain ⟨w, hreach, hend⟩ := Reach.exists_of_run (fun _ _ _ => trivial) hrun
  simp only [Bool.and_eq_true, beq_iff_eq] at hend
  obtain ⟨⟨⟨hcreated, hloggedA⟩, hloggedB⟩, hinterrupted⟩ := hend
  obtain ⟨rows, hok, -, hcounted⟩ := counted_of_run Sample.relay _ Sample.trusts hreach
    (Sample.responsesFit_of_created hcreated) Benchmark.innerMerge_laws
    (by rw [hloggedA]; exact Sample.holdsA) (by rw [hloggedB]; exact Sample.holdsB)
  have hrows : (collect Sample.loadsRecord Benchmark.innerMerge Sample.fileA
      Sample.fileB).toOption.map (rowsWith · GatewayB.Sample.txId) = some 2 := by
    decide +kernel
  rw [hok] at hrows
  exact ⟨w, rows, hreach, hok, hinterrupted, Option.some.inj hrows,
    hcounted GatewayB.Sample.txId⟩

end QsTie.Exchange
