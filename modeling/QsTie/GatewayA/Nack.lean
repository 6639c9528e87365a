import QsTie.GatewayA.Retry

/-!
# A NACK and the retry decision

The retry decision is made on a reason: a code of the transport's own, or the
text of a NACK.  A NACK whose body does not parse, or whose reason is spelled like
a code of the transport, cannot be told from a network fault; every other NACK
ends the call at once.
-/

namespace QsTie.GatewayA

/-- The reason `DeadLetterStore.add` is given; `format` is the text of a value in an f-string. -/
def DeadReason.text (format : PyVal → String) : DeadReason → Option String
  | .policy reason => reason
  | .unknownRecipientRouting => some "UNKNOWN_RECIPIENT_ROUTING"
  | .maxRetriesExceeded => some "MAX_RETRIES_EXCEEDED"
  | .nack reason => some ("NACK_" ++ format reason)

/-- The call with the result of `send_envelope`, before the session is closed. -/
def withResult (it : Item) (result : Bool × PyVal) : Processing :=
  ⟨.closing it result.1 result.2, it, []⟩

/-- The call returns without another attempt, with the transaction FAILED and dead-lettered
    once, under a reason that starts with `NACK_`. -/
def SettledByNack (format : PyVal → String) (cfg : GatewayAConfig) (outcomes : Nat → Outcome)
    (it : Item) (result : Bool × PyVal) : Prop :=
  ∃ call reason text, Processing.Leads cfg outcomes (withResult it result) call ∧
    call.pc = .top ∧
    call.journal = [.sessionClosed it.id, .setState it.id .failed, .deadLetter it.id reason] ∧
    reason.text format = some text ∧ "NACK_".toList <+: text.toList

/-! ### The reason of a NACK -/

theorem isTransportFailure_failed (e : PyExc) : isTransportFailure (failed e).2 = true := by
  simp only [failed]
  split <;> rfl

/-- The result of a NACK: a failure, with the transport's own code when the body is no
    object. -/
theorem readResponse_nack (loads : Bytes → Except PyExc PyVal) (transactionId : String)
    (payload : Bytes) :
    (readResponse loads transactionId (UInt8.ofNat MessageType.nack.value) payload).1 = false ∧
    (isTransportFailure
        (readResponse loads transactionId (UInt8.ofNat MessageType.nack.value) payload).2 = false ↔
      ∃ items, loads payload = .ok (.dict items) ∧
        isTransportFailure ((PyDict.get? items "reason").getD (.str "UNKNOWN_NACK")) = false) := by
  have hack : (UInt8.ofNat MessageType.nack.value).toNat ≠ MessageType.ack.value := by decide
  have hnack : (UInt8.ofNat MessageType.nack.value).toNat = MessageType.nack.value := by decide
  simp only [readResponse, if_neg hack, if_pos hnack]
  cases hloads : loads payload with
  | error e => simp [failed_fst, isTransportFailure_failed]
  | ok v =>
    cases v with
    | dict items => simp
    | _ => simp [failed_fst, isTransportFailure_failed]

/-! ### The call after the result -/

namespace Processing

variable {cfg : GatewayAConfig} {outcomes : Nat → Outcome} {call call' : Processing}

theorem Leads.cases_head (h : Leads cfg outcomes call call') {after : TxPc × Journal}
    (hnext : next cfg outcomes call.pc = some after) :
    call' = call ∨ Leads cfg outcomes (call.goto after) call' := by
  obtain ⟨n, rfl⟩ := h
  cases n with
  | zero => left; rfl
  | succ n =>
    right
    refine ⟨n, ?_⟩
    simp only [Function.iterate_succ_apply, advance, hnext]

theorem journal_advance : call.journal <+: (advance cfg outcomes call).journal := by
  simp only [advance]
  split
  · exact List.prefix_rfl
  · exact List.prefix_append _ _

/-- A journal only grows. -/
theorem Leads.journal (h : Leads cfg outcomes call call') : call.journal <+: call'.journal := by
  obtain ⟨n, rfl⟩ := h
  induction n with
  | zero => exact List.prefix_rfl
  | succ n ih =>
    rw [Function.iterate_succ_apply']
    exact ih.trans journal_advance

end Processing

section AfterResult

variable {format : PyVal → String} {cfg : GatewayAConfig} {outcomes : Nat → Outcome} {it : Item}
  {reason : PyVal}

theorem settled_of_nack (hreason : isTransportFailure reason = false) :
    SettledByNack format cfg outcomes it (false, reason) := by
  have hafter : afterClose cfg it false reason = (.top, fail it (.nack reason)) := by
    simp only [afterClose, hreason, Bool.false_eq_true, if_false]
  have hnext : next cfg outcomes (withResult it (false, reason)).pc =
      some (.top, .sessionClosed it.id :: fail it (.nack reason)) := by
    simp only [withResult, next, hafter]
  refine ⟨_, .nack reason, _, Processing.leads_of_next hnext, rfl, rfl, rfl, ?_⟩
  rw [String.toList_append]
  exact List.prefix_append _ _

/-- A transport failure is retried, or given up under another reason. -/
theorem not_settled_of_transport (hreason : isTransportFailure reason = true) :
    ¬ SettledByNack format cfg outcomes it (false, reason) := by
  rintro ⟨call, why, text, hleads, htop, hjournal, htext, hprefix⟩
  have hnext : next cfg outcomes (withResult it (false, reason)).pc =
      some ((retryOrFail cfg it).1, .sessionClosed it.id :: (retryOrFail cfg it).2) := by
    simp only [withResult, next, afterClose, hreason, Bool.false_eq_true, if_false, if_true]
  rcases hleads.cases_head hnext with rfl | hlater
  · simp [withResult] at htop
  have hgrown := hlater.journal
  simp only [retryOrFail] at hlater hgrown
  split at hgrown
  · rename_i hmore
    rw [if_pos hmore] at hlater
    split at hgrown
    · -- the delay is no float: the call has returned, and nothing more is written
      rename_i e hdelay
      simp only [hdelay] at hlater
      obtain rfl := Processing.Leads.unique hlater Processing.Leads.refl
        (by rw [htop]; rfl) rfl
      simp [Processing.goto, withResult] at hjournal
    · rename_i delay hdelay
      rw [hjournal] at hgrown
      simp [Processing.goto, withResult] at hgrown
  · rename_i hlast
    rw [hjournal] at hgrown
    simp only [Processing.goto, withResult, fail, List.nil_append, List.cons_prefix_cons,
      Entry.deadLetter.injEq, true_and, List.nil_prefix, and_true] at hgrown
    rw [← hgrown] at htext
    obtain rfl := Option.some.inj htext
    exact absurd hprefix (by decide)

end AfterResult

/-- **A NACK is not retried exactly when** its body is a JSON object whose reason is none of
    the transport's own codes. -/
theorem settledByNack_iff (format : PyVal → String) (loads : Bytes → Except PyExc PyVal)
    (cfg : GatewayAConfig) (outcomes : Nat → Outcome) (it : Item) {payload rest : Bytes}
    {result : Bool × PyVal} (hlen : payload.length < 2 ^ 32)
    (hreceived : Session.receive loads it.id (FrameCodec.frameBytes .nack payload) =
      (.returned result, rest)) :
    SettledByNack format cfg outcomes it result ↔
      ∃ items, loads payload = .ok (.dict items) ∧
        isTransportFailure ((PyDict.get? items "reason").getD (.str "UNKNOWN_NACK")) = false := by
  rw [Session.receive_frameBytes .nack hlen] at hreceived
  obtain ⟨hfailed, hreason⟩ := readResponse_nack loads it.id payload
  have hresult := Session.returned.inj (Prod.mk.inj hreceived).1
  rw [← hreason, hresult]
  rw [hresult] at hfailed
  obtain ⟨success, reason⟩ := result
  obtain rfl : success = false := hfailed
  constructor
  · intro hsettled
    by_contra htransport
    exact not_settled_of_transport (by simpa using htransport) hsettled
  · intro hother
    exact settled_of_nack hother

/-! ### Two NACKs -/

namespace Nack

def invalidSignature : Bytes := utf8 "\x7b\"reason\": \"SIG_INVALID\"\x7d"

def timeout : Bytes := utf8 "\x7b\"reason\": \"TIMEOUT\"\x7d"

/-- `json.loads` on the bodies of the two. -/
def loads (payload : Bytes) : Except PyExc PyVal :=
  if payload = invalidSignature then .ok (.dict [(.str "reason", .str "SIG_INVALID")])
  else if payload = timeout then .ok (.dict [(.str "reason", .str "TIMEOUT")])
  else .error ⟨.valueError, "Expecting value: line 1 column 1 (char 0)"⟩

def format : PyVal → String
  | .str s => s
  | _ => ""

end Nack

/-- A bad signature is not retried. -/
theorem sample_settledByNack :
    SettledByNack Nack.format Retry.config Retry.outcomes (Retry.item.atAttempt 1)
      (false, .str "SIG_INVALID") := by
  have hlen : Nack.invalidSignature.length < 2 ^ 32 := by decide
  have hloads : Nack.loads Nack.invalidSignature =
      .ok (.dict [(.str "reason", .str "SIG_INVALID")]) := rfl
  have hreceived : Session.receive Nack.loads Retry.item.id
      (FrameCodec.frameBytes .nack Nack.invalidSignature) =
      (.returned (false, .str "SIG_INVALID"), []) := by
    rw [Session.receive_frameBytes .nack hlen]
    rfl
  apply (settledByNack_iff Nack.format Nack.loads Retry.config Retry.outcomes
    (Retry.item.atAttempt 1) hlen hreceived).mpr
  exact ⟨_, hloads, by decide⟩

/-- A NACK for the reason `TIMEOUT` is. -/
theorem sample_nack_retried :
    Session.receive Nack.loads Retry.item.id (FrameCodec.frameBytes .nack Nack.timeout) =
      (.returned (false, .str "TIMEOUT"), []) ∧
    ¬ SettledByNack Nack.format Retry.config Retry.outcomes (Retry.item.atAttempt 1)
      (false, .str "TIMEOUT") := by
  constructor
  · have hlen : Nack.timeout.length < 2 ^ 32 := by decide
    rw [Session.receive_frameBytes .nack hlen]
    rfl
  · exact not_settled_of_transport (by decide)

end QsTie.GatewayA
