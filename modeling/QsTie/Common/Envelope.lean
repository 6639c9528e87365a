import QsTie.Common.Enums

/-!
# The transaction envelope (`qstie_common/models/envelope.py`)

The generated protobuf class is outside the repository: `Protobuf` is its parser
and its serialiser.  The model class adds the conversion of the marking, an
absent or empty one being read as `GREEN`.
-/

namespace QsTie

/-- The fields of the generated class (`proto/qstie.proto`), at their proto3 types. -/
structure ProtoEnvelope where
  transactionId : String
  senderId : String
  recipientId : String
  tlpMarking : String
  stixBundleCompressed : Bytes
  signature : Bytes
  signerCertFingerprint : String
  createdAtUnixMs : Int
deriving DecidableEq

/-- `ParseFromString` and `SerializeToString` of the generated class. -/
structure Protobuf where
  parseFromString : Bytes → Except PyExc ProtoEnvelope
  serializeToString : ProtoEnvelope → Except PyExc Bytes

/-- What is serialised is parsed back. -/
def Protobuf.RoundTrips (pb : Protobuf) : Prop :=
  ∀ env data, pb.serializeToString env = .ok data → pb.parseFromString data = .ok env

structure TransactionEnvelope where
  transactionId : String
  senderId : String
  recipientId : String
  tlpMarking : TlpMarking
  stixBundleCompressed : Bytes
  signature : Bytes
  signerCertFingerprint : String
  createdAtUnixMs : Int
deriving DecidableEq

namespace TransactionEnvelope

/-- `TlpMarking(proto_env.tlp_marking) if proto_env.tlp_marking else TlpMarking.GREEN`. -/
def readMarking (s : String) : Except PyExc TlpMarking :=
  if s = "" then .ok .green
  else
    match TlpMarking.ofValue? s with
    | some m => .ok m
    | none =>
      .error ⟨.envelopeError, "Invalid field in envelope: '" ++ s ++ "' is not a valid TlpMarking"⟩

def fromProto (env : ProtoEnvelope) : Except PyExc TransactionEnvelope :=
  match readMarking env.tlpMarking with
  | .error e => .error e
  | .ok marking =>
    .ok { transactionId := env.transactionId
          senderId := env.senderId
          recipientId := env.recipientId
          tlpMarking := marking
          stixBundleCompressed := env.stixBundleCompressed
          signature := env.signature
          signerCertFingerprint := env.signerCertFingerprint
          createdAtUnixMs := env.createdAtUnixMs }

def toProto (env : TransactionEnvelope) : ProtoEnvelope where
  transactionId := env.transactionId
  senderId := env.senderId
  recipientId := env.recipientId
  tlpMarking := env.tlpMarking.value
  stixBundleCompressed := env.stixBundleCompressed
  signature := env.signature
  signerCertFingerprint := env.signerCertFingerprint
  createdAtUnixMs := env.createdAtUnixMs

def fromBytes (pb : Protobuf) (data : Bytes) : Except PyExc TransactionEnvelope :=
  match pb.parseFromString data with
  | .error e => .error ⟨.envelopeError, "Failed to parse protobuf: " ++ e.msg⟩
  | .ok env => fromProto env

def toBytes (pb : Protobuf) (env : TransactionEnvelope) : Except PyExc Bytes :=
  pb.serializeToString env.toProto

@[simp] theorem fromProto_toProto (env : TransactionEnvelope) :
    fromProto env.toProto = .ok env := by
  simp [fromProto, toProto, readMarking, TlpMarking.value_ne_empty]

/-- The envelope a sender writes is the one the receiver reads. -/
theorem fromBytes_toBytes {pb : Protobuf} (hpb : pb.RoundTrips) {env : TransactionEnvelope}
    {data : Bytes} (h : env.toBytes pb = .ok data) : fromBytes pb data = .ok env := by
  rw [fromBytes, hpb _ _ h]
  exact env.fromProto_toProto

end TransactionEnvelope

end QsTie
