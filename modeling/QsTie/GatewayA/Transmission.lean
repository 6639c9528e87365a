import QsTie.Common.Integer
import QsTie.GatewayA.Models

/-!
# Transmission (`gateway_a/config.py`, `gateway_a/pipeline/transmission_worker.py`)

`_process_transaction` runs from one `await` to the next: the session that is
opened, the envelope that is sent, the session that is closed, and the sleep
before a retry.  What it does in between is a function here, from the transaction
it holds to its next place and the entries it adds to the journal.

The journal is the record of a whole run of Gateway A: every change of state of a
transaction, every call of the signer, the policy and the dead-letter store, and
every session.  It is what the properties of a run are stated over.
-/

namespace QsTie.GatewayA

open Lib

/-! ### Configuration -/

structure GatewayAConfig where
  recipients : List (String × List (String × String))
  ingestionQueueMaxsize : Int := 100
  extractedQueueMaxsize : Int := 50
  signedQueueMaxsize : Int := 50
  txQueueMaxsize : Int := 20
  maxAttempts : Int := 3
  baseBackoffMs : Int := 200
  backoffFactor : Int := 2

namespace GatewayAConfig

variable (cfg : GatewayAConfig)

/-- The routing of a recipient: `none` when it has no entry, or an empty one.  An entry
    without `host` or `port`, or with a port that is no number, raises. -/
def route (recipientId : String) : Except PyExc (Option (String × Int)) :=
  match cfg.recipients.lookup recipientId with
  | none => .ok none
  | some [] => .ok none
  | some (field :: fields) =>
    match (field :: fields).lookup "host" with
    | none => .error ⟨.keyError, "host"⟩
    | some host =>
      match (field :: fields).lookup "port" with
      | none => .error ⟨.keyError, "port"⟩
      | some port =>
        match pyInt port with
        | .error e => .error e
        | .ok port => .ok (some (host, port))

/-- `self.config.base_backoff_ms / 1000.0`; the quotient of a float by 1000 is finite. -/
def baseDelay : Except PyExc ℚ :=
  match floatOf cfg.baseBackoffMs with
  | .error e => .error e
  | .ok ms => .ok (binary64.nearest (ms / 1000))

/-- `base_delay * (self.config.backoff_factor ** (transaction.retry_count - 1))`.  The power
    is an integer; a product beyond the largest float is an infinity. -/
def backoffDelay (retryCount : Nat) : Except PyExc Rounded :=
  match cfg.baseDelay with
  | .error e => .error e
  | .ok base =>
    match floatOf (cfg.backoffFactor ^ (retryCount - 1)) with
    | .error e => .error e
    | .ok factor => .ok (binary64.round (base * factor))

end GatewayAConfig

/-- `asyncio.sleep` returns from every sleep but one without end; a delay that is not
    positive only lets the other tasks run. -/
def sleepReturns : Rounded → Bool
  | .finite _ => true
  | .infinite negative => negative

/-- A computed delay ends unless it is rounded up to infinity. -/
theorem sleepReturns_round_iff {q : ℚ} :
    sleepReturns (binary64.round q) = true ↔ q < floatLimit 53 1024 := by
  rcases lt_or_ge |q| (floatLimit 53 1024) with hlt | hle
  · rw [round_of_lt_floatLimit hlt]
    exact ⟨fun _ => (le_abs_self q).trans_lt hlt, fun _ => rfl⟩
  · have hpos : (0 : ℚ) ≤ floatLimit 53 1024 := Nat.cast_nonneg _
    rw [round_of_floatLimit_le hle]
    simp only [sleepReturns, decide_eq_true_eq]
    constructor
    · exact fun hneg => hneg.trans_le hpos
    · intro hlt
      by_contra hnonneg
      rw [abs_of_nonneg (not_lt.mp hnonneg)] at hle
      exact absurd hlt (not_lt.mpr hle)

/-! ### The journal -/

/-- A transaction on its way, with the place of its MISP event in the order in which the
    extractor took events. -/
structure Item where
  tx : GatewayATransaction
  seq : Nat

abbrev Item.id (it : Item) : String := it.tx.transactionId

/-- The reasons of `DeadLetterStore.add`. -/
inductive DeadReason where
  | policy (reason : Option String)
  | unknownRecipientRouting
  | maxRetriesExceeded
  | nack (reason : PyVal)

inductive Entry where
  | dequeued
  | created (it : Item)
  | setState (id : String) (state : TransactionState)
  | sign (id : String) (payload : Bytes) (result : Except PyExc Bytes)
  | authorize (id : String) (tlp : TlpMarking) (recipientId : String)
      (result : Except PyExc (Bool × Option String))
  | deadLetter (id : String) (reason : DeadReason)
  | taken (it : Item)
  | openSession (it : Item)
  | sessionOpened (id : String)
  | sessionClosed (id : String)
  | sleep (delay : Rounded)
  | logTelemetry (id : String) (retryCount : Nat)

abbrev Journal := List Entry

/-! ### The worker between two awaits -/

inductive TxPc where
  | top
  | getting
  | opening (it : Item)
  | sending (it : Item)
  | closing (it : Item) (success : Bool) (reason : PyVal)
  | sleeping (it : Item) (delay : Rounded)
  | done

/-- `transaction.state = FAILED` and `dead_letter_store.add(transaction, reason)`. -/
def fail (it : Item) (reason : DeadReason) : Journal :=
  [.setState it.id .failed, .deadLetter it.id reason]

def Item.nextAttempt (it : Item) : Item :=
  { it with tx := { it.tx with retryCount := it.tx.retryCount + 1, state := .sending } }

/-- The head of the loop.  When no attempt is left the function returns, and the
    transaction with it. -/
def attempt (cfg : GatewayAConfig) (it : Item) : TxPc × Journal :=
  if (it.tx.retryCount : Int) < cfg.maxAttempts then
    (.opening it.nextAttempt, [.setState it.id .sending, .openSession it.nextAttempt])
  else (.top, [])

/-- From `tx_queue.get()` to the first attempt.  An exception is logged by the loop of
    `start`, which goes on with the next transaction. -/
def takeTransaction (cfg : GatewayAConfig) (it : Item) : TxPc × Journal :=
  match cfg.route it.tx.recipientId with
  | .error _ => (.top, [])
  | .ok none => (.top, fail it .unknownRecipientRouting)
  | .ok (some _) =>
    match cfg.baseDelay with
    | .error _ => (.top, [])
    | .ok _ => attempt cfg it

/-- A failed attempt: back off, or give up after the last. -/
def retryOrFail (cfg : GatewayAConfig) (it : Item) : TxPc × Journal :=
  if (it.tx.retryCount : Int) < cfg.maxAttempts then
    match cfg.backoffDelay it.tx.retryCount with
    | .error _ => (.top, [])
    | .ok delay => (.sleeping it delay, [.sleep delay])
  else (.top, fail it .maxRetriesExceeded)

/-- After `open_session`. -/
def afterOpen (cfg : GatewayAConfig) (it : Item) : Except PyExc Unit → TxPc × Journal
  | .error _ => retryOrFail cfg it
  | .ok () => (.sending it, [.sessionOpened it.id])

/-- `reason in ["TIMEOUT", "TRANSPORT_ERROR", "CONNECTION_REFUSED"]`. -/
def isTransportFailure (reason : PyVal) : Bool :=
  reason.isStr "TIMEOUT" || reason.isStr "TRANSPORT_ERROR" || reason.isStr "CONNECTION_REFUSED"

/-- After `session.close()`, with what `send_envelope` returned. -/
def afterClose (cfg : GatewayAConfig) (it : Item) (success : Bool) (reason : PyVal) :
    TxPc × Journal :=
  if success then (.top, [.setState it.id .acked, .logTelemetry it.id it.tx.retryCount])
  else if isTransportFailure reason then retryOrFail cfg it
  else (.top, fail it (.nack reason))

/-- The transaction the worker holds. -/
def TxPc.held : TxPc → List Item
  | .opening it => [it]
  | .sending it => [it]
  | .closing it _ _ => [it]
  | .sleeping it _ => [it]
  | _ => []

end QsTie.GatewayA
