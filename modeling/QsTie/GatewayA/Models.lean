import QsTie.Common.Enums

/-!
# The transaction of Gateway A (`gateway_a/models.py`)

`stix_bundle_compressed` is no field of the dataclass: the signer attaches it, so
it is `none` before.  The extractor never builds a transaction without a bundle.
The telemetry dict holds time stamps that no decision reads and is left out.
-/

namespace QsTie.GatewayA

inductive TransactionState where
  | received
  | validated
  | signed
  | policyApproved
  | policyRejected
  | sending
  | acked
  | failed
  | deadLettered
deriving DecidableEq, Repr

def TransactionState.value : TransactionState → String
  | .received => "received"
  | .validated => "validated"
  | .signed => "signed"
  | .policyApproved => "policy_approved"
  | .policyRejected => "policy_rejected"
  | .sending => "sending"
  | .acked => "acked"
  | .failed => "failed"
  | .deadLettered => "dead_lettered"

structure StixBundle where
  bundleId : PyVal
  rawJson : Bytes
  tlpMarking : TlpMarking
  mispEventUuid : PyVal

structure GatewayATransaction where
  /-- `str(transaction_id)`. -/
  transactionId : String
  senderId : String := "RAW"
  recipientId : String := "NIA"
  stixBundle : StixBundle
  stixBundleCompressed : Option Bytes := none
  signature : Bytes := []
  signerCertFingerprint : String := ""
  state : TransactionState := .received
  createdAtUnixMs : Int
  retryCount : Nat := 0

end QsTie.GatewayA
