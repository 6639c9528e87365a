import QsTie.GatewayA.Framing
import QsTie.GatewayA.Pipeline

/-!
# The retry loop (`gateway_a/pipeline/transmission_worker.py`)

One call of `_process_transaction`, on its own.  The surroundings give each
attempt its outcome: `open_session` raises, or a session is opened and
`send_envelope` returns.  `next` moves from one `await` to the next with the
functions the pipeline uses, so that every move is a step of the pipeline's
transmission worker (`step_of_next`).

The loop keeps to its specification as long as the delays are finite floats.  An
`OverflowError` leaves the function, and the transaction is neither ACKED nor
dead-lettered; a product that overflows to `inf` is slept for without end.
-/

namespace QsTie.GatewayA

open Lib

/-! ### Outcomes -/

/-- What comes of an attempt. -/
inductive Outcome where
  | openRaises (e : PyExc)
  | answered (success : Bool) (reason : PyVal)

namespace Outcome

def opened : Outcome → Except PyExc Unit
  | .openRaises e => .error e
  | .answered _ _ => .ok ()

/-- An ACK, or a reason that is none of the transport's own. -/
def final : Outcome → Bool
  | .openRaises _ => false
  | .answered success reason => success || !isTransportFailure reason

end Outcome

/-! ### One call of `_process_transaction` -/

/-- The next `await` and the entries on the way; `none` when there is nothing to wait for, or
    the sleep does not end.  Attempts are numbered by `retry_count`. -/
def next (cfg : GatewayAConfig) (outcomes : Nat → Outcome) : TxPc → Option (TxPc × Journal)
  | .opening it => some (afterOpen cfg it (outcomes it.tx.retryCount).opened)
  | .sending it =>
    match outcomes it.tx.retryCount with
    | .answered success reason => some (.closing it success reason, [])
    | .openRaises _ => none
  | .closing it success reason =>
    let after := afterClose cfg it success reason
    some (after.1, .sessionClosed it.id :: after.2)
  | .sleeping it delay => if sleepReturns delay then some (attempt cfg it) else none
  | _ => none

/-- A call under way, with the transaction it was given: the caller keeps the object when
    the call has returned. -/
structure Processing where
  pc : TxPc
  item : Item
  journal : Journal

namespace Processing

def goto (call : Processing) (after : TxPc × Journal) : Processing where
  pc := after.1
  item := after.1.held.headD call.item
  journal := call.journal ++ after.2

def start (cfg : GatewayAConfig) (it : Item) : Processing :=
  Processing.goto ⟨.getting, it, []⟩ (takeTransaction cfg it)

def advance (cfg : GatewayAConfig) (outcomes : Nat → Outcome) (call : Processing) : Processing :=
  match next cfg outcomes call.pc with
  | none => call
  | some after => call.goto after

/-- The call comes to `call'`. -/
def Leads (cfg : GatewayAConfig) (outcomes : Nat → Outcome) (call call' : Processing) : Prop :=
  ∃ n, (advance cfg outcomes)^[n] call = call'

end Processing

/-- Every move of a call is a step of the transmission worker. -/
theorem step_of_next {p : Pipeline} {outcomes : Nat → Outcome} {s : State}
    {after : TxPc × Journal} (h : next p.config outcomes s.tx = some after) :
    ∃ l, step p s l = some (s.setTx after) := by
  cases htx : s.tx with
  | top => rw [htx] at h; simp [next] at h
  | getting => rw [htx] at h; simp [next] at h
  | done => rw [htx] at h; simp [next] at h
  | opening it =>
    rw [htx] at h
    obtain rfl : _ = after := Option.some.inj h
    refine ⟨.txOpened (outcomes it.tx.retryCount).opened, ?_⟩
    simp only [step, htx]
  | sending it =>
    rw [htx] at h
    simp only [next] at h
    split at h
    · rename_i success reason _
      obtain rfl : _ = after := Option.some.inj h
      refine ⟨.txSent success reason, ?_⟩
      simp only [step, htx, State.setTx, List.append_nil]
    · simp at h
  | closing it success reason =>
    rw [htx] at h
    obtain rfl : _ = after := Option.some.inj h
    refine ⟨.txClosed, ?_⟩
    simp only [step, htx]
  | sleeping it delay =>
    rw [htx] at h
    simp only [next] at h
    split at h
    · rename_i hreturns
      obtain rfl : _ = after := Option.some.inj h
      refine ⟨.txWake, ?_⟩
      simp only [step, htx, hreturns, if_true]
    · simp at h

namespace Processing

variable {cfg : GatewayAConfig} {outcomes : Nat → Outcome} {call call' call'' : Processing}

theorem Leads.refl : Leads cfg outcomes call call := ⟨0, rfl⟩

theorem Leads.trans (h : Leads cfg outcomes call call') (h' : Leads cfg outcomes call' call'') :
    Leads cfg outcomes call call'' := by
  obtain ⟨n, rfl⟩ := h
  obtain ⟨m, rfl⟩ := h'
  exact ⟨m + n, Function.iterate_add_apply _ m n call⟩

theorem leads_of_next {after : TxPc × Journal} (h : next cfg outcomes call.pc = some after) :
    Leads cfg outcomes call (call.goto after) := by
  refine ⟨1, ?_⟩
  simp only [Function.iterate_one, advance, h]

/-- A call that has returned stays as it is. -/
theorem iterate_of_returned (h : next cfg outcomes call.pc = none) (n : Nat) :
    (advance cfg outcomes)^[n] call = call := by
  apply Function.iterate_fixed
  simp only [advance, h]

/-- It returns in one way only. -/
theorem Leads.unique (h : Leads cfg outcomes call call') (h' : Leads cfg outcomes call call'')
    (hend : next cfg outcomes call'.pc = none) (hend' : next cfg outcomes call''.pc = none) :
    call' = call'' := by
  obtain ⟨n, rfl⟩ := h
  obtain ⟨m, rfl⟩ := h'
  rw [← iterate_of_returned hend m, ← iterate_of_returned hend' n,
    ← Function.iterate_add_apply, ← Function.iterate_add_apply, Nat.add_comm]

end Processing

/-! ### One attempt -/

/-- The transaction in attempt `i`. -/
def Item.atAttempt (it : Item) (i : Nat) : Item :=
  { it with tx := { it.tx with retryCount := i, state := .sending } }

/-- A session that is opened is closed before anything else is decided. -/
def sessionEntries (id : String) : Outcome → Journal
  | .openRaises _ => []
  | .answered _ _ => [.sessionOpened id, .sessionClosed id]

/-- What is decided when the session is closed, or could not be opened. -/
def afterAttempt (cfg : GatewayAConfig) (it : Item) : Outcome → TxPc × Journal
  | .openRaises _ => retryOrFail cfg it
  | .answered success reason => afterClose cfg it success reason

/-- The end of a call whose last attempt had this outcome. -/
def ending (it : Item) (k : Nat) : Outcome → Journal
  | .openRaises _ => fail it .maxRetriesExceeded
  | .answered true _ => [.setState it.id .acked, .logTelemetry it.id k]
  | .answered false reason =>
    if isTransportFailure reason then fail it .maxRetriesExceeded else fail it (.nack reason)

theorem afterAttempt_of_final {cfg : GatewayAConfig} {it : Item} {o : Outcome}
    (h : o.final = true) : afterAttempt cfg it o = (.top, ending it it.tx.retryCount o) := by
  cases o with
  | openRaises e => simp [Outcome.final] at h
  | answered success reason =>
    cases success with
    | true => rfl
    | false =>
      have hreason : isTransportFailure reason = false := by simpa [Outcome.final] using h
      simp only [afterAttempt, afterClose, ending, hreason, Bool.false_eq_true, if_false]

theorem afterAttempt_of_not_final {cfg : GatewayAConfig} {it : Item} {o : Outcome}
    (h : o.final = false) : afterAttempt cfg it o = retryOrFail cfg it := by
  cases o with
  | openRaises e => rfl
  | answered success reason =>
    obtain ⟨rfl, hreason⟩ : success = false ∧ isTransportFailure reason = true := by
      simpa [Outcome.final] using h
    simp only [afterAttempt, afterClose, hreason, Bool.false_eq_true, if_false, if_true]

theorem ending_of_not_final {it : Item} {k : Nat} {o : Outcome} (h : o.final = false) :
    ending it k o = fail it .maxRetriesExceeded := by
  cases o with
  | openRaises e => rfl
  | answered success reason =>
    obtain ⟨rfl, hreason⟩ : success = false ∧ isTransportFailure reason = true := by
      simpa [Outcome.final] using h
    simp only [ending, hreason, if_true]

namespace Processing

variable {cfg : GatewayAConfig} {outcomes : Nat → Outcome}

/-- From `open_session` to the decision. -/
theorem leads_afterAttempt (it : Item) (j : Journal) :
    Leads cfg outcomes ⟨.opening it, it, j⟩
      (goto ⟨.opening it, it, j ++ sessionEntries it.id (outcomes it.tx.retryCount)⟩
        (afterAttempt cfg it (outcomes it.tx.retryCount))) := by
  cases ho : outcomes it.tx.retryCount with
  | openRaises e =>
    have hopening : next cfg outcomes (.opening it) = some (retryOrFail cfg it) := by
      simp only [next, ho]
      rfl
    rw [sessionEntries, List.append_nil]
    exact leads_of_next hopening
  | answered success reason =>
    have hopening : Leads cfg outcomes ⟨.opening it, it, j⟩
        (goto ⟨.opening it, it, j⟩ (.sending it, [.sessionOpened it.id])) := by
      apply leads_of_next
      simp only [next, ho]
      rfl
    have hsending : Leads cfg outcomes
        (goto ⟨.opening it, it, j⟩ (.sending it, [.sessionOpened it.id]))
        (goto ⟨.sending it, it, j ++ [.sessionOpened it.id]⟩ (.closing it success reason, [])) := by
      apply leads_of_next
      simp only [goto, next, ho]
    apply (hopening.trans hsending).trans
    have hclosing : next cfg outcomes (.closing it success reason) =
        some ((afterClose cfg it success reason).1,
          .sessionClosed it.id :: (afterClose cfg it success reason).2) := rfl
    refine ⟨1, ?_⟩
    simp [advance, goto, hclosing, TxPc.held, sessionEntries, afterAttempt]

end Processing

/-! ### The specification -/

/-- The smaller of `maxAttempts` and the number of the first attempt with a final outcome. -/
def attemptsMade (maxAttempts : Nat) (outcomes : Nat → Outcome) : Nat :=
  match (List.range maxAttempts).find? fun i => (outcomes (i + 1)).final with
  | some i => i + 1
  | none => maxAttempts

/-- The product of the floats `base_backoff_ms / 1000` and `backoff_factor ** (i - 1)`, before
    it is rounded itself. -/
def GatewayAConfig.product (cfg : GatewayAConfig) (i : Nat) : ℚ :=
  binary64.nearest (binary64.nearest cfg.baseBackoffMs / 1000) *
    binary64.nearest ((cfg.backoffFactor ^ (i - 1) : Int) : ℚ)

/-- `base_backoff_ms / 1000 * backoff_factor ** (i - 1)`, in floats. -/
def GatewayAConfig.delay (cfg : GatewayAConfig) (i : Nat) : Rounded :=
  binary64.round (cfg.product i)

/-- The sleep after attempt `i` is computed, and ends. -/
structure GatewayAConfig.HasDelay (cfg : GatewayAConfig) (i : Nat) : Prop where
  factor : IsFloat (cfg.backoffFactor ^ (i - 1))
  finite : cfg.product i < floatLimit 53 1024

def attemptEntries (it : Item) (i : Nat) : Journal :=
  [.setState it.id .sending, .openSession (it.atAttempt i)]

/-- An attempt that is followed by another: its session, if any, is closed, and the worker
    sleeps. -/
def retriedEntries (cfg : GatewayAConfig) (it : Item) (outcomes : Nat → Outcome) (i : Nat) :
    Journal :=
  attemptEntries it i ++ sessionEntries it.id (outcomes i) ++ [.sleep (cfg.delay i)]

def retried (cfg : GatewayAConfig) (it : Item) (outcomes : Nat → Outcome) (n : Nat) : Journal :=
  (List.range n).flatMap fun i => retriedEntries cfg it outcomes (i + 1)

/-- The journal of a call that makes `k` attempts. -/
def retryJournal (cfg : GatewayAConfig) (it : Item) (outcomes : Nat → Outcome) (k : Nat) :
    Journal :=
  retried cfg it outcomes (k - 1) ++ attemptEntries it k ++ sessionEntries it.id (outcomes k) ++
    ending it k (outcomes k)

/-- The call returns after `k` attempts, with the journal they make. -/
def MakesAttempts (cfg : GatewayAConfig) (it : Item) (outcomes : Nat → Outcome) (k : Nat) : Prop :=
  ∃ call, Processing.Leads cfg outcomes (Processing.start cfg it) call ∧ call.pc = .top ∧
    call.item.tx.retryCount = k ∧ call.journal = retryJournal cfg it outcomes k

theorem one_le_attemptsMade {maxAttempts : Nat} (hmax : 1 ≤ maxAttempts)
    (outcomes : Nat → Outcome) : 1 ≤ attemptsMade maxAttempts outcomes := by
  simp only [attemptsMade]
  split
  · omega
  · exact hmax

theorem attemptsMade_le (maxAttempts : Nat) (outcomes : Nat → Outcome) :
    attemptsMade maxAttempts outcomes ≤ maxAttempts := by
  simp only [attemptsMade]
  split
  · rename_i i hfind
    have hmem := List.mem_of_find?_eq_some hfind
    rw [List.mem_range] at hmem
    omega
  · exact Nat.le_refl _

theorem not_final_of_lt {maxAttempts i : Nat} {outcomes : Nat → Outcome}
    (hi : 1 ≤ i) (hlt : i < attemptsMade maxAttempts outcomes) : (outcomes i).final = false := by
  obtain ⟨i, rfl⟩ : ∃ i', i = i' + 1 := ⟨i - 1, by omega⟩
  have hle := attemptsMade_le maxAttempts outcomes
  simp only [attemptsMade] at hlt
  split at hlt
  · rename_i first hfind
    have hnone := (List.find?_range_eq_some.mp hfind).2.2 i (by omega)
    simpa using hnone
  · rename_i hfind
    have hnone := List.find?_range_eq_none.mp hfind i (by omega)
    simpa using hnone

/-- The last attempt is final, or no other is left. -/
theorem final_or_last (maxAttempts : Nat) (outcomes : Nat → Outcome) :
    (outcomes (attemptsMade maxAttempts outcomes)).final = true ∨
      attemptsMade maxAttempts outcomes = maxAttempts := by
  simp only [attemptsMade]
  split
  · rename_i i hfind
    left
    have hfinal := List.find?_some hfind
    simpa using hfinal
  · right
    rfl

theorem backoffDelay_eq_ok {cfg : GatewayAConfig} {i : Nat} (hbase : IsFloat cfg.baseBackoffMs)
    (hfactor : IsFloat (cfg.backoffFactor ^ (i - 1))) : cfg.backoffDelay i = .ok (cfg.delay i) := by
  simp only [GatewayAConfig.backoffDelay, GatewayAConfig.baseDelay, floatOf_eq_ok hbase,
    floatOf_eq_ok hfactor]
  rfl

theorem backoffDelay_eq_error {cfg : GatewayAConfig} {i : Nat}
    (hfactor : ¬ IsFloat (cfg.backoffFactor ^ (i - 1))) : ∃ e, cfg.backoffDelay i = .error e := by
  obtain ⟨e, he⟩ := floatOf_eq_error hfactor
  simp only [GatewayAConfig.backoffDelay, he]
  split
  · exact ⟨_, rfl⟩
  · exact ⟨_, rfl⟩

/-! ### The loop meets it -/

section Loop

variable {cfg : GatewayAConfig} {it : Item} {outcomes : Nat → Outcome}

theorem retried_succ (n : Nat) :
    retried cfg it outcomes (n + 1) =
      retried cfg it outcomes n ++ retriedEntries cfg it outcomes (n + 1) := by
  simp [retried, List.range_succ]

/-- The call in attempt `i`, after the attempts before it. -/
def inAttempt (cfg : GatewayAConfig) (it : Item) (outcomes : Nat → Outcome) (i : Nat) :
    Processing where
  pc := .opening (it.atAttempt i)
  item := it.atAttempt i
  journal := retried cfg it outcomes (i - 1) ++ attemptEntries it i

theorem start_eq_inAttempt (hmax : 1 ≤ cfg.maxAttempts)
    (hroute : ∃ address, cfg.route it.tx.recipientId = .ok (some address))
    (hfresh : it.tx.retryCount = 0) (hbase : IsFloat cfg.baseBackoffMs) :
    Processing.start cfg it = inAttempt cfg it outcomes 1 := by
  obtain ⟨address, haddress⟩ := hroute
  have hnext : it.nextAttempt = it.atAttempt 1 := by
    simp only [Item.nextAttempt, Item.atAttempt, hfresh]
  have hlt : (it.tx.retryCount : Int) < cfg.maxAttempts := by omega
  simp only [Processing.start, takeTransaction, haddress, GatewayAConfig.baseDelay,
    floatOf_eq_ok hbase, attempt, hlt, if_true, hnext]
  rfl

/-- An attempt that is not final and not the last sleeps into the next. -/
theorem leads_next_attempt {i : Nat} (hi : 1 ≤ i) (hlt : (i : Int) < cfg.maxAttempts)
    (hretry : (outcomes i).final = false) (hbase : IsFloat cfg.baseBackoffMs)
    (hdelay : cfg.HasDelay i) :
    Processing.Leads cfg outcomes (inAttempt cfg it outcomes i)
      (inAttempt cfg it outcomes (i + 1)) := by
  have hattempt := @Processing.leads_afterAttempt cfg outcomes
    (it.atAttempt i) (retried cfg it outcomes (i - 1) ++ attemptEntries it i)
  have hcount : (it.atAttempt i).tx.retryCount = i := rfl
  have hsleep : retryOrFail cfg (it.atAttempt i) =
      (.sleeping (it.atAttempt i) (cfg.delay i), [.sleep (cfg.delay i)]) := by
    simp only [retryOrFail, hcount, hlt, if_true, backoffDelay_eq_ok hbase hdelay.factor]
  rw [hcount, afterAttempt_of_not_final hretry, hsleep] at hattempt
  apply hattempt.trans
  have hreturns : sleepReturns (cfg.delay i) = true := sleepReturns_round_iff.mpr hdelay.finite
  have hwake : attempt cfg (it.atAttempt i) =
      (.opening (it.atAttempt (i + 1)), attemptEntries it (i + 1)) := by
    simp only [attempt, hcount, hlt, if_true]
    rfl
  refine ⟨1, ?_⟩
  obtain ⟨n, rfl⟩ : ∃ n, i = n + 1 := ⟨i - 1, by omega⟩
  simp only [Function.iterate_one, Processing.advance, Processing.goto, next, hreturns, if_true,
    hwake, inAttempt, Nat.add_sub_cancel, retried_succ, retriedEntries, List.append_assoc]
  rfl

theorem leads_inAttempt {k i : Nat} (hk : k = attemptsMade cfg.maxAttempts.toNat outcomes)
    (hmax : 1 ≤ cfg.maxAttempts)
    (hroute : ∃ address, cfg.route it.tx.recipientId = .ok (some address))
    (hfresh : it.tx.retryCount = 0) (hbase : IsFloat cfg.baseBackoffMs) (hi : 1 ≤ i)
    (hle : i ≤ k) (hdelay : ∀ i', 1 ≤ i' → i' < i → cfg.HasDelay i') :
    Processing.Leads cfg outcomes (Processing.start cfg it) (inAttempt cfg it outcomes i) := by
  -- one attempt after the other
  induction i, hi using Nat.le_induction with
  | base =>
    rw [start_eq_inAttempt hmax hroute hfresh hbase]
    exact Processing.Leads.refl
  | succ i hi ih =>
    have hbound := attemptsMade_le cfg.maxAttempts.toNat outcomes
    apply (ih (by omega) fun i' hi' hlt => hdelay i' hi' (by omega)).trans
    have hlt : i < attemptsMade cfg.maxAttempts.toNat outcomes := by omega
    exact leads_next_attempt hi (by omega) (not_final_of_lt hi hlt) hbase
      (hdelay i hi (by omega))

/-- The last attempt ends the call. -/
theorem leads_ending {k : Nat} (hk : k = attemptsMade cfg.maxAttempts.toNat outcomes)
    (hmax : 1 ≤ cfg.maxAttempts) :
    Processing.Leads cfg outcomes (inAttempt cfg it outcomes k)
      ⟨.top, it.atAttempt k, retryJournal cfg it outcomes k⟩ := by
  have hattempt := @Processing.leads_afterAttempt cfg outcomes
    (it.atAttempt k) (retried cfg it outcomes (k - 1) ++ attemptEntries it k)
  have hcount : (it.atAttempt k).tx.retryCount = k := rfl
  have hend : afterAttempt cfg (it.atAttempt k) (outcomes k) =
      (.top, ending (it.atAttempt k) k (outcomes k)) := by
    cases hfinal : (outcomes k).final with
    | true => exact afterAttempt_of_final hfinal
    | false =>
      have hlast : ¬ ((k : Int) < cfg.maxAttempts) := by
        rcases final_or_last cfg.maxAttempts.toNat outcomes with hyes | hlast
        · rw [← hk, hfinal] at hyes
          simp at hyes
        · omega
      rw [afterAttempt_of_not_final hfinal, ending_of_not_final hfinal]
      simp only [retryOrFail, hcount, hlast, if_false]
  rw [hcount, hend] at hattempt
  exact hattempt

/-- An attempt whose delay is no float: the exception leaves the call. -/
theorem leads_raise {i : Nat} (hlt : (i : Int) < cfg.maxAttempts)
    (hretry : (outcomes i).final = false) (hfactor : ¬ IsFloat (cfg.backoffFactor ^ (i - 1))) :
    Processing.Leads cfg outcomes (inAttempt cfg it outcomes i)
      ⟨.top, it.atAttempt i, retried cfg it outcomes (i - 1) ++ attemptEntries it i ++
        sessionEntries it.id (outcomes i)⟩ := by
  have hattempt := @Processing.leads_afterAttempt cfg outcomes
    (it.atAttempt i) (retried cfg it outcomes (i - 1) ++ attemptEntries it i)
  have hcount : (it.atAttempt i).tx.retryCount = i := rfl
  obtain ⟨e, hraise⟩ := backoffDelay_eq_error hfactor
  have hlost : retryOrFail cfg (it.atAttempt i) = (.top, []) := by
    simp only [retryOrFail, hcount, hlt, if_true, hraise]
  rw [hcount, afterAttempt_of_not_final hretry, hlost] at hattempt
  simp only [Processing.goto, TxPc.held, List.headD_nil, List.append_nil] at hattempt
  exact hattempt

/-- An attempt whose delay is infinite: the call sleeps on. -/
theorem leads_asleep {i : Nat} (hlt : (i : Int) < cfg.maxAttempts)
    (hretry : (outcomes i).final = false) (hbase : IsFloat cfg.baseBackoffMs)
    (hfactor : IsFloat (cfg.backoffFactor ^ (i - 1))) :
    ∃ journal, Processing.Leads cfg outcomes (inAttempt cfg it outcomes i)
      ⟨.sleeping (it.atAttempt i) (cfg.delay i), it.atAttempt i, journal⟩ := by
  have hattempt := @Processing.leads_afterAttempt cfg outcomes
    (it.atAttempt i) (retried cfg it outcomes (i - 1) ++ attemptEntries it i)
  have hcount : (it.atAttempt i).tx.retryCount = i := rfl
  have hsleep : retryOrFail cfg (it.atAttempt i) =
      (.sleeping (it.atAttempt i) (cfg.delay i), [.sleep (cfg.delay i)]) := by
    simp only [retryOrFail, hcount, hlt, if_true, backoffDelay_eq_ok hbase hfactor]
  rw [hcount, afterAttempt_of_not_final hretry, hsleep] at hattempt
  exact ⟨_, hattempt⟩

/-- The entries that end a call. -/
def Entry.settles : Entry → Bool
  | .deadLetter _ _ => true
  | .logTelemetry _ _ => true
  | _ => false

theorem settles_ending (it : Item) (k : Nat) (o : Outcome) :
    (ending it k o).any Entry.settles = true := by
  cases o with
  | openRaises e => rfl
  | answered success reason =>
    cases success with
    | true => rfl
    | false =>
      simp only [ending]
      split <;> rfl

theorem settles_retryJournal (k : Nat) :
    (retryJournal cfg it outcomes k).any Entry.settles = true := by
  simp only [retryJournal, List.any_append, settles_ending, Bool.or_true]

theorem settles_sessionEntries (id : String) (o : Outcome) :
    (sessionEntries id o).any Entry.settles = false := by
  cases o <;> rfl

theorem settles_retried (n : Nat) : (retried cfg it outcomes n).any Entry.settles = false := by
  induction n with
  | zero => rfl
  | succ n ih =>
    rw [retried_succ, List.any_append, ih]
    simp [retriedEntries, attemptEntries, settles_sessionEntries, Entry.settles]

/-- A call that returns without settling the transaction does not make its attempts. -/
theorem not_makesAttempts {call : Processing} {k : Nat}
    (hleads : Processing.Leads cfg outcomes (Processing.start cfg it) call) (htop : call.pc = .top)
    (hsettles : call.journal.any Entry.settles = false) : ¬ MakesAttempts cfg it outcomes k := by
  rintro ⟨call', hleads', htop', -, hjournal⟩
  obtain rfl := hleads.unique hleads' (by rw [htop]; rfl) (by rw [htop']; rfl)
  rw [hjournal, settles_retryJournal] at hsettles
  simp at hsettles

/-- A call that sleeps for ever does not make its attempts. -/
theorem not_makesAttempts_of_asleep {call : Processing} {k : Nat} {delay : Rounded}
    (hleads : Processing.Leads cfg outcomes (Processing.start cfg it) call)
    (hpc : call.pc = .sleeping call.item delay) (hasleep : ¬ sleepReturns delay = true) :
    ¬ MakesAttempts cfg it outcomes k := by
  rintro ⟨call', hleads', htop', -, -⟩
  have hend : next cfg outcomes call.pc = none := by
    rw [hpc]
    exact if_neg hasleep
  obtain rfl := hleads.unique hleads' hend (by rw [htop']; rfl)
  rw [hpc] at htop'
  simp at htop'

theorem not_makesAttempts_of_base {k : Nat} (hbase : ¬ IsFloat cfg.baseBackoffMs)
    (hroute : ∃ address, cfg.route it.tx.recipientId = .ok (some address)) :
    ¬ MakesAttempts cfg it outcomes k := by
  obtain ⟨address, haddress⟩ := hroute
  obtain ⟨e, he⟩ := floatOf_eq_error hbase
  have htake : takeTransaction cfg it = (.top, []) := by
    simp only [takeTransaction, haddress, GatewayAConfig.baseDelay, he]
  apply not_makesAttempts Processing.Leads.refl
  · simp only [Processing.start, htake, Processing.goto]
  · simp [Processing.start, htake, Processing.goto]

theorem hasDelay_of_makesAttempts {k : Nat}
    (hk : k = attemptsMade cfg.maxAttempts.toNat outcomes) (hmax : 1 ≤ cfg.maxAttempts)
    (hroute : ∃ address, cfg.route it.tx.recipientId = .ok (some address))
    (hfresh : it.tx.retryCount = 0) (hmakes : MakesAttempts cfg it outcomes k) :
    IsFloat cfg.baseBackoffMs ∧ ∀ i, 1 ≤ i → i < k → cfg.HasDelay i := by
  have hle : k ≤ cfg.maxAttempts.toNat := hk ▸ attemptsMade_le _ outcomes
  have hbase : IsFloat cfg.baseBackoffMs := by
    by_contra hbase
    exact not_makesAttempts_of_base hbase hroute hmakes
  refine ⟨hbase, ?_⟩
  intro i
  induction i using Nat.strong_induction_on with
  | _ i ih =>
    intro hi hlt
    have hreach := leads_inAttempt hk hmax hroute hfresh hbase hi (by omega)
      fun i' hi' hlt' => ih i' hlt' hi' (by omega)
    have hretry : (outcomes i).final = false := not_final_of_lt hi (hk ▸ hlt)
    -- at the first factor that is no float the call would raise
    have hfactor : IsFloat (cfg.backoffFactor ^ (i - 1)) := by
      by_contra hfactor
      have hraise := @leads_raise cfg it outcomes i (by omega) hretry hfactor
      apply not_makesAttempts (hreach.trans hraise) rfl _ hmakes
      simp [settles_retried, attemptEntries, settles_sessionEntries, Entry.settles]
    -- and at the first product that is infinite it would sleep on
    refine ⟨hfactor, ?_⟩
    by_contra hinfinite
    obtain ⟨journal, hasleep⟩ := @leads_asleep cfg it outcomes i (by omega) hretry hbase hfactor
    exact not_makesAttempts_of_asleep (hreach.trans hasleep) rfl
      (fun hreturns => hinfinite (sleepReturns_round_iff.mp hreturns)) hmakes

theorem makesAttempts_of_hasDelay {k : Nat}
    (hk : k = attemptsMade cfg.maxAttempts.toNat outcomes) (hmax : 1 ≤ cfg.maxAttempts)
    (hroute : ∃ address, cfg.route it.tx.recipientId = .ok (some address))
    (hfresh : it.tx.retryCount = 0) (hbase : IsFloat cfg.baseBackoffMs)
    (hdelay : ∀ i, 1 ≤ i → i < k → cfg.HasDelay i) :
    MakesAttempts cfg it outcomes k := by
  have hone : 1 ≤ k := hk ▸ one_le_attemptsMade (by omega) outcomes
  have hreach := leads_inAttempt hk hmax hroute hfresh hbase hone (Nat.le_refl k) hdelay
  exact ⟨_, hreach.trans (leads_ending hk hmax), rfl, rfl, rfl⟩

/-- **The retry loop.**  It makes exactly `k` attempts, with the sleeps between them and the
    end that the outcomes ask for, if and only if the base delay and the factors of the
    sleeps before attempt `k` can be converted to floats and their products are not
    rounded up to infinity. -/
theorem makesAttempts_iff (hmax : 1 ≤ cfg.maxAttempts)
    (hroute : ∃ address, cfg.route it.tx.recipientId = .ok (some address))
    (hfresh : it.tx.retryCount = 0) :
    MakesAttempts cfg it outcomes (attemptsMade cfg.maxAttempts.toNat outcomes) ↔
      IsFloat cfg.baseBackoffMs ∧
        ∀ i, 1 ≤ i → i < attemptsMade cfg.maxAttempts.toNat outcomes → cfg.HasDelay i := by
  constructor
  · intro hmakes
    exact hasDelay_of_makesAttempts rfl hmax hroute hfresh hmakes
  · rintro ⟨hbase, hdelay⟩
    exact makesAttempts_of_hasDelay rfl hmax hroute hfresh hbase hdelay

end Loop

namespace Retry

def config : GatewayAConfig where
  recipients := [("NIA", [("host", "gateway-b"), ("port", "8443")])]

/-- 1100 attempts without a pause. -/
def patient : GatewayAConfig := { config with maxAttempts := 1100, baseBackoffMs := 0 }

/-- Two seconds, and then twice `1e308`. -/
def endless : GatewayAConfig := { config with baseBackoffMs := 2000, backoffFactor := 10 ^ 308 }

def item : Item where
  tx := {
    transactionId := "5d2f6645-8f64-4e20-b42e-131c950d210f"
    stixBundle := { bundleId := .none, rawJson := [], tlpMarking := .green, mispEventUuid := .none }
    stixBundleCompressed := some [120, 156]
    createdAtUnixMs := 0 }
  seq := 0

def refused : Outcome :=
  .openRaises ⟨.connectionRefusedError, "[Errno 111] Connect call failed"⟩

/-- No connection, then a timeout, then an ACK. -/
def outcomes (i : Nat) : Outcome :=
  if i = 1 then refused
  else if i = 2 then .answered false (.str "TIMEOUT") else .answered true (.str "ACK")

theorem routed : ∃ address, config.route item.tx.recipientId = .ok (some address) :=
  ⟨("gateway-b", 8443), by decide⟩

end Retry

/-- Three attempts, with the sleeps of 0.2 and 0.4 seconds between them. -/
theorem sample_makesAttempts : MakesAttempts Retry.config Retry.item Retry.outcomes 3 := by
  have hthree : attemptsMade Retry.config.maxAttempts.toNat Retry.outcomes = 3 := by decide
  have hmakes := (@makesAttempts_iff Retry.config Retry.item Retry.outcomes
    (by decide) Retry.routed rfl).mpr
  rw [hthree] at hmakes
  apply hmakes
  refine ⟨isFloat_of_small (by decide), ?_⟩
  intro i hi hlt
  interval_cases i
  · exact ⟨isFloat_of_small (by decide), by decide +kernel⟩
  · exact ⟨isFloat_of_small (by decide), by decide +kernel⟩

theorem attemptsMade_refused (n : Nat) : attemptsMade n (fun _ => Retry.refused) = n := by
  have hnone : (List.range n).find? (fun _ => Retry.refused.final) = none :=
    List.find?_range_eq_none.mpr fun _ _ => by simp [Retry.refused, Outcome.final]
  simp only [attemptsMade, hnone]

/-- Without a connection, the 1025th attempt of 1100 ends in an `OverflowError`, and the
    transaction in no dead-letter store; and with a large factor the second attempt of three
    is the last, since the sleep after it does not end. -/
theorem sample_overflow :
    (attemptsMade 1100 (fun _ => Retry.refused) = 1100 ∧
      ¬ MakesAttempts Retry.patient Retry.item (fun _ => Retry.refused) 1100) ∧
    attemptsMade 3 (fun _ => Retry.refused) = 3 ∧
      ¬ MakesAttempts Retry.endless Retry.item (fun _ => Retry.refused) 3 := by
  refine ⟨⟨attemptsMade_refused 1100, ?_⟩, attemptsMade_refused 3, ?_⟩
  · intro hmakes
    have hk : 1100 = attemptsMade Retry.patient.maxAttempts.toNat (fun _ => Retry.refused) :=
      (attemptsMade_refused 1100).symm
    have hroute : ∃ address, Retry.patient.route Retry.item.tx.recipientId = .ok (some address) :=
      Retry.routed
    have hfactor := ((hasDelay_of_makesAttempts hk (by decide) hroute rfl hmakes).2
      1025 (by omega) (by omega)).factor
    simp only [IsFloat, Retry.patient, Retry.config, Int.natAbs_pow] at hfactor
    exact absurd hfactor (by decide +kernel)
  · intro hmakes
    have hk : 3 = attemptsMade Retry.endless.maxAttempts.toNat (fun _ => Retry.refused) :=
      (attemptsMade_refused 3).symm
    have hroute : ∃ address, Retry.endless.route Retry.item.tx.recipientId = .ok (some address) :=
      Retry.routed
    have hfinite := ((hasDelay_of_makesAttempts hk (by decide) hroute rfl hmakes).2
      2 (by omega) (by omega)).finite
    exact absurd hfinite (by decide +kernel)

end QsTie.GatewayA
