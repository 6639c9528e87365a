import QsTie.Common.Envelope
import QsTie.Common.FrameCodec
import QsTie.Common.JsonText
import QsTie.GatewayB.InboundPep
import QsTie.GatewayB.TrustStore
import QsTie.Lib.Program

/-!
# The connection handler of Gateway B (`gateway_b/transport/protocol.py`)

The handler is a program over the calls it makes on its surroundings: the clock,
the verifier, zlib, the ingestor, the stream writer and the telemetry log.
Everything between two calls is computed here.  The nine stages of
`process_transaction` are one definition each, the later ones first; a `return`
after a NACK is the branch that does not go on to the next stage.

The read loop makes no other call, so it is the function `readFrame` of the
reads; the end of the reads is the end of the stream, or a failed read, after
which the handler only closes.
-/

namespace QsTie.GatewayB

open QsTie.Lib

/-! ### The calls -/

inductive Call where
  | timeNs
  | verifySignature (compressedPayload signature : Bytes) (pubkeyPath : PyVal)
  | decompress (data : Bytes)
  | ingestBundle (stixBundle : PyVal)
  | write (frame : Bytes)
  | drain
  | logTelemetryB (txId : String) (tReceived tVerified tIngested : Nat) (state : String)
  | close
  | waitClosed

/-- What each call is answered with.  `verify_signature` and `ingest_bundle` catch their
    own exceptions; zlib, `drain` and `wait_closed` may raise. -/
abbrev Call.Ret : Call → Type
  | .timeNs => Nat
  | .verifySignature _ _ _ => Bool
  | .decompress _ => Except PyExc Bytes
  | .ingestBundle _ => Bool
  | .write _ => Unit
  | .drain => Except PyExc Unit
  | .logTelemetryB _ _ _ _ _ => Unit
  | .close => Unit
  | .waitClosed => Except PyExc Unit

abbrev Conn := Prog Call Call.Ret PyExc

/-- The answered calls of one connection, oldest first. -/
abbrev History := List (Event Call Call.Ret)

/-! ### Responses -/

def frameCodec : FrameCodec := {}

def nackPayload (txId : String) (reason : NackReason) : Bytes :=
  jsonDumps [("transaction_id", txId), ("reason", reason.value)]

def ackPayload (txId : String) : Bytes := jsonDumps [("transaction_id", txId)]

/-- `encode_frame`, `writer.write`, `await writer.drain()`. -/
@[irreducible] def respond (t : MessageType) (payload : Bytes) : Conn Unit :=
  match frameCodec.encodeFrame t payload with
  | .error e => .raise e
  | .ok frame =>
    .call (.write frame) fun _ => .call .drain fun drained => Prog.ofExcept drained

def sendNack (txId : String) (reason : NackReason) : Conn Unit :=
  respond .nack (nackPayload txId reason)

def sendAck (txId : String) : Conn Unit := respond .ack (ackPayload txId)

def NackFits (txId : String) (reason : NackReason) : Prop :=
  frameCodec.Fits (nackPayload txId reason)

def AckFits (txId : String) : Prop := frameCodec.Fits (ackPayload txId)

instance (txId : String) (reason : NackReason) : Decidable (NackFits txId reason) :=
  inferInstanceAs (Decidable (frameCodec.Fits _))

instance (txId : String) : Decidable (AckFits txId) :=
  inferInstanceAs (Decidable (frameCodec.Fits _))

def nackFrame (txId : String) (reason : NackReason) : Bytes :=
  FrameCodec.frameBytes .nack (nackPayload txId reason)

def ackFrame (txId : String) : Bytes := FrameCodec.frameBytes .ack (ackPayload txId)

/-! ### The stages of `process_transaction` -/

/-- The parts of a `GatewayProtocol` that decide without a call, with the libraries
    behind `from_bytes` and `json.loads`. -/
structure GatewayProtocol where
  trustStore : TrustStore
  rules : List PyVal
  protobuf : Protobuf
  /-- `json.loads(data.decode('utf-8'))`. -/
  loads : Bytes → Except PyExc PyVal

namespace GatewayProtocol

variable (proto : GatewayProtocol)

/-- 9. ACK, then the telemetry record. -/
def ackStage (env : TransactionEnvelope) (tReceived tVerified tIngested : Nat) : Conn Unit := do
  sendAck env.transactionId
  Prog.perform (Call.logTelemetryB env.transactionId tReceived tVerified tIngested "ACKED")

/-- 8. OpenCTI ingestion. -/
def ingestStage (env : TransactionEnvelope) (tReceived tVerified : Nat) (stixBundle : PyVal) :
    Conn Unit :=
  .call (.ingestBundle stixBundle) fun ingested =>
    if !ingested then sendNack env.transactionId .ingestFailed
    else .call .timeNs fun tIngested => ackStage env tReceived tVerified tIngested

/-- `stix_bundle.get('type') != 'bundle' or 'objects' not in stix_bundle`, negated; only a
    dict has `get`. -/
def isBundle (stixBundle : PyVal) : Except PyExc Bool :=
  match stixBundle with
  | .dict items =>
    .ok ((match PyDict.get? items "type" with
      | none => false
      | some v => v.isStr "bundle") && PyDict.contains items "objects")
  | _ => .error ⟨.attributeError, "object has no attribute 'get'"⟩

/-- 7. STIX validation.  The NACK of a non-bundle is sent inside the `try`, so a failed
    `drain` sends it again. -/
def validateStage (env : TransactionEnvelope) (tReceived tVerified : Nat) (stixBytes : Bytes) :
    Conn Unit :=
  match proto.loads stixBytes with
  | .error _ => sendNack env.transactionId .malformed
  | .ok stixBundle =>
    match isBundle stixBundle with
    | .error _ => sendNack env.transactionId .malformed
    | .ok false =>
      (sendNack env.transactionId .malformed).tryCatch fun _ =>
        sendNack env.transactionId .malformed
    | .ok true => ingestStage env tReceived tVerified stixBundle

/-- 6. Decompression. -/
def decompressStage (env : TransactionEnvelope) (tReceived tVerified : Nat) : Conn Unit :=
  .call (.decompress env.stixBundleCompressed) fun decompressed =>
    match decompressed with
    | .error _ => sendNack env.transactionId .malformed
    | .ok stixBytes => proto.validateStage env tReceived tVerified stixBytes

/-- 5. Inbound PEP. -/
def policyStage (env : TransactionEnvelope) (tReceived tVerified : Nat) : Conn Unit :=
  match InboundPep.evaluate proto.rules env.senderId env.recipientId env.tlpMarking.value with
  | .error e => .raise e
  | .ok (false, _) => sendNack env.transactionId .policyDenied
  | .ok (true, _) => proto.decompressStage env tReceived tVerified

/-- 4. Signature verification under the key path of the agency. -/
def verifyStage (env : TransactionEnvelope) (agency : PyDict) (tReceived : Nat) : Conn Unit :=
  match agency.getItem "payload_signing_public_key_path" with
  | .error e => .raise e
  | .ok pubkeyPath =>
    .call (.verifySignature env.stixBundleCompressed env.signature pubkeyPath) fun isValid =>
      if !isValid then sendNack env.transactionId .sigInvalid
      else .call .timeNs fun tVerified => proto.policyStage env tReceived tVerified

/-- `is_revoked(peer) or is_revoked(agency['payload_signing_public_key_fingerprint'])`. -/
def revoked (peerFingerprint : String) (agency : PyDict) : Except PyExc Bool :=
  match proto.trustStore.isRevoked (.str peerFingerprint) with
  | .error e => .error e
  | .ok true => .ok true
  | .ok false =>
    match agency.getItem "payload_signing_public_key_fingerprint" with
    | .error e => .error e
    | .ok fingerprint => proto.trustStore.isRevoked fingerprint

/-- 3. Identity cross-check and revocation. -/
def identityStage (env : TransactionEnvelope) (peerFingerprint : String) (tReceived : Nat) :
    Conn Unit :=
  match proto.trustStore.getAgency env.senderId with
  | none => sendNack env.transactionId .unknownSender
  | some agency =>
    if agency.isEmpty then sendNack env.transactionId .unknownSender
    else
      match agency.getItem "tls_certificate_fingerprint" with
      | .error e => .raise e
      | .ok expectedTlsFp =>
        if !expectedTlsFp.isStr peerFingerprint then
          sendNack env.transactionId .identityMismatch
        else
          match proto.revoked peerFingerprint agency with
          | .error e => .raise e
          | .ok true => sendNack env.transactionId .revokedCert
          | .ok false => proto.verifyStage env agency tReceived

/-- The required fields of stage 2. -/
def missingField (env : TransactionEnvelope) : Bool :=
  env.transactionId == "" || env.senderId == "" || env.signature.isEmpty ||
    env.stixBundleCompressed.isEmpty

/-- 2. onwards, once the envelope is decoded and `tx_id` is its id.  The NACK of a missing
    field is sent inside the inner `try`. -/
def envelopeStages (env : TransactionEnvelope) (peerFingerprint : String) (tReceived : Nat) :
    Conn Unit :=
  if missingField env then
    (sendNack env.transactionId .malformed).tryCatch fun _ =>
      sendNack env.transactionId .malformed
  else proto.identityStage env peerFingerprint tReceived

/-- `process_transaction`.  The outer handler answers under the current `tx_id`: `"0"` until
    the envelope is decoded, the envelope's id from then on. -/
def processTransaction (payload : Bytes) (peerFingerprint : String) : Conn Unit :=
  .call .timeNs fun tReceived =>
    match TransactionEnvelope.fromBytes proto.protobuf payload with
    | .error _ => (sendNack "0" .malformed).tryCatch fun _ => sendNack "0" .malformed
    | .ok env =>
      (proto.envelopeStages env peerFingerprint tReceived).tryCatch fun _ =>
        sendNack env.transactionId .malformed

/-! ### The connection -/

end GatewayProtocol

/-- Where the read loop stops. -/
inductive ReadEnd where
  | eof
  | frameError (e : PyExc)
  | frame (t : MessageType) (payload remaining : Bytes)
deriving DecidableEq

/-- One `reader.read(4096)`: go on with a longer buffer, or stop. -/
def readStep (buffer data : Bytes) : Bytes ⊕ ReadEnd :=
  if data.isEmpty then .inr .eof
  else
    match frameCodec.decodeFrameStream (buffer ++ data) with
    | .error e => .inr (.frameError e)
    | .ok none => .inl (buffer ++ data)
    | .ok (some ((t, payload), remaining)) => .inr (.frame t payload remaining)

/-- The read loop over the reads of a connection. -/
def readFrame (buffer : Bytes) : List Bytes → ReadEnd
  | [] => .eof
  | data :: reads =>
    match readStep buffer data with
    | .inr stop => stop
    | .inl buffer => readFrame buffer reads

theorem readStep_eq_inl {buffer data longer : Bytes} :
    readStep buffer data = .inl longer ↔
      data ≠ [] ∧ frameCodec.decodeFrameStream (buffer ++ data) = .ok none ∧
        longer = buffer ++ data := by
  unfold readStep
  cases data with
  | nil => simp
  | cons b data =>
    simp only [List.isEmpty_cons, Bool.false_eq_true, if_false]
    split
    · rename_i hdecode; simp [hdecode]
    · rename_i hdecode; simpa [hdecode] using eq_comm
    · rename_i hdecode; simp [hdecode]

theorem readStep_eq_frame {buffer data payload remaining : Bytes} {t : MessageType} :
    readStep buffer data = .inr (.frame t payload remaining) ↔
      data ≠ [] ∧ frameCodec.decodeFrameStream (buffer ++ data) =
        .ok (some ((t, payload), remaining)) := by
  unfold readStep
  cases data with
  | nil => simp
  | cons b data =>
    simp only [List.isEmpty_cons, Bool.false_eq_true, if_false]
    split
    · rename_i hdecode; simp [hdecode]
    · rename_i hdecode; simp [hdecode]
    · rename_i hdecode; simp [hdecode, and_assoc]

namespace GatewayProtocol

variable (proto : GatewayProtocol)

/-- The frame-error handler: other exceptions go on to the outer handler. -/
def catchFrameError (body : Conn Unit) : Conn Unit :=
  body.tryCatch fun e => if e.isFrameError then sendNack "0" .malformed else .raise e

/-- What the loop body does with what it read. -/
def handleRead (peerFingerprint : String) : ReadEnd → Conn Unit
  | .eof => pure ()
  | .frameError _ => sendNack "0" .malformed
  | .frame t payload remaining =>
    catchFrameError
      (if !remaining.isEmpty then sendNack "0" .malformed
      else if t != .signedBundle then sendNack "0" .malformed
      else proto.processTransaction payload peerFingerprint)

/-- The rest of a connection once the loop has stopped: the outer handler only logs, and
    the writer is closed on every path. -/
def finish (peerFingerprint : String) (stop : ReadEnd) : Conn Unit := do
  (proto.handleRead peerFingerprint stop).tryCatch fun _ => pure ()
  Prog.perform Call.close
  let closed ← Prog.perform Call.waitClosed
  Prog.ofExcept closed

/-- `handle_connection` on the reads of the connection. -/
def handleConnection (peerFingerprint : String) (reads : List Bytes) : Conn Unit :=
  proto.finish peerFingerprint (readFrame [] reads)

end GatewayProtocol

/-! ### Fixed surroundings -/

/-- Surroundings whose answers are functions of the arguments; the `n`-th `drain` of the
    connection may fail. -/
structure Outside where
  verifySignature : Bytes → Bytes → PyVal → Bool
  decompress : Bytes → Except PyExc Bytes
  ingestBundle : PyVal → Bool
  drain : Nat → Except PyExc Unit
  clock : Nat → Nat
  waitClosed : Except PyExc Unit

def Call.isDrain : Call → Bool
  | .drain => true
  | _ => false

def Outside.answer (out : Outside) (h : History) : (op : Call) → op.Ret
  | .timeNs => out.clock h.length
  | .verifySignature compressed signature pubkeyPath =>
    out.verifySignature compressed signature pubkeyPath
  | .decompress data => out.decompress data
  | .ingestBundle stixBundle => out.ingestBundle stixBundle
  | .write _ => ()
  | .drain => out.drain (h.countP fun ev => ev.op.isDrain)
  | .logTelemetryB _ _ _ _ _ => ()
  | .close => ()
  | .waitClosed => out.waitClosed

/-- The frames written, in order. -/
def written (h : History) : List Bytes :=
  h.filterMap fun ev => match ev with
    | ⟨.write frame, _⟩ => some frame
    | _ => none

/-- The bundles handed to the ingestor, in order. -/
def ingested (h : History) : List PyVal :=
  h.filterMap fun ev => match ev with
    | ⟨.ingestBundle b, _⟩ => some b
    | _ => none

theorem exists_call_of_mem_ingested {h : History} {b : PyVal} (hb : b ∈ ingested h) :
    ∃ before r after, h = before ++ ⟨.ingestBundle b, r⟩ :: after := by
  obtain ⟨ev, hev, hop⟩ := List.mem_filterMap.mp hb
  obtain ⟨before, after, rfl⟩ := List.append_of_mem hev
  split at hop
  · rename_i b' r
    obtain rfl : b' = b := by simpa using hop
    exact ⟨before, r, after, rfl⟩
  · simp at hop

end QsTie.GatewayB
