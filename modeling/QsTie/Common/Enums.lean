import QsTie.Common.Python

/-!
# The enumerations of the protocol (`qstie_common/enums/protocol_enums.py`)

Each member carries the value it has on the wire.
-/

namespace QsTie

/-! ### Message types -/

inductive MessageType where
  | signedBundle
  | ack
  | nack
deriving DecidableEq, Repr

namespace MessageType

def value : MessageType → Nat
  | .signedBundle => 0x01
  | .ack => 0x02
  | .nack => 0x03

/-- `MessageType(value)`; `none` is the `ValueError`. -/
def ofValue? : Nat → Option MessageType
  | 0x01 => some .signedBundle
  | 0x02 => some .ack
  | 0x03 => some .nack
  | _ => none

@[simp] theorem ofValue?_value (t : MessageType) : ofValue? t.value = some t := by
  cases t <;> rfl

theorem value_lt (t : MessageType) : t.value < 256 := by
  cases t <;> decide

theorem ofValue?_eq_some {n : Nat} {t : MessageType} (h : ofValue? n = some t) :
    n = t.value := by
  unfold ofValue? at h
  split at h <;> simp only [Option.some.injEq, reduceCtorEq] at h <;> subst h <;> rfl

theorem ofNat_value_of_ofValue? {b : UInt8} {t : MessageType}
    (h : ofValue? b.toNat = some t) : UInt8.ofNat t.value = b := by
  rw [← ofValue?_eq_some h, UInt8.ofNat_toNat]

end MessageType

/-! ### Reasons of a NACK -/

inductive NackReason where
  | sigInvalid
  | policyDenied
  | malformed
  | unknownSender
  | ingestFailed
  | identityMismatch
  | revokedCert
deriving DecidableEq, Repr

def NackReason.value : NackReason → String
  | .sigInvalid => "SIG_INVALID"
  | .policyDenied => "POLICY_DENIED"
  | .malformed => "MALFORMED"
  | .unknownSender => "UNKNOWN_SENDER"
  | .ingestFailed => "INGEST_FAILED"
  | .identityMismatch => "IDENTITY_MISMATCH"
  | .revokedCert => "REVOKED_CERT"

/-! ### TLP markings -/

inductive TlpMarking where
  | green
  | amber
  | amberStrict
deriving DecidableEq, Repr

namespace TlpMarking

def value : TlpMarking → String
  | .green => "tlp:green"
  | .amber => "tlp:amber"
  | .amberStrict => "tlp:amber+strict"

/-- `TlpMarking(value)`; `none` is the `ValueError`. -/
def ofValue? (s : String) : Option TlpMarking :=
  if s = "tlp:green" then some .green
  else if s = "tlp:amber" then some .amber
  else if s = "tlp:amber+strict" then some .amberStrict
  else none

@[simp] theorem ofValue?_value (m : TlpMarking) : ofValue? m.value = some m := by
  cases m <;> decide

theorem value_ne_empty (m : TlpMarking) : m.value ≠ "" := by
  cases m <;> decide

end TlpMarking

end QsTie
