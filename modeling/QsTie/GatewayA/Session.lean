import QsTie.Common.Envelope
import QsTie.Common.FrameCodec
import QsTie.GatewayA.Transmission

/-!
# The session of Gateway A (`gateway_a/transport/protocol.py`)

`send_envelope` writes one frame and reads one: a byte of type, four of length,
then the payload, each under a timeout of its own.  A `Session` is the `await`
it stands at.  `resume` goes on with the bytes that were awaited; an exception
at any of them ends the session with a reason that depends on its class.
-/

namespace QsTie.GatewayA

/-- The envelope of a transaction; before the signer there is no compressed bundle to read. -/
def GatewayATransaction.envelope (tx : GatewayATransaction) : Except PyExc TransactionEnvelope :=
  match tx.stixBundleCompressed with
  | none => .error ⟨.attributeError,
      "'GatewayATransaction' object has no attribute 'stix_bundle_compressed'"⟩
  | some compressed =>
    .ok { transactionId := tx.transactionId
          senderId := tx.senderId
          recipientId := tx.recipientId
          tlpMarking := tx.stixBundle.tlpMarking
          stixBundleCompressed := compressed
          signature := tx.signature
          signerCertFingerprint := tx.signerCertFingerprint
          createdAtUnixMs := tx.createdAtUnixMs }

/-- The frame of the envelope.  This side has no limit of its own but the four bytes of the
    length. -/
def envelopeFrame (pb : Protobuf) (tx : GatewayATransaction) : Except PyExc Bytes :=
  match tx.envelope with
  | .error e => .error e
  | .ok env =>
    match env.toBytes pb with
    | .error e => .error e
    | .ok payload =>
      match packHeader .signedBundle payload.length with
      | .error e => .error e
      | .ok header => .ok (header ++ payload)

/-- The handlers of `send_envelope`. -/
def failed (e : PyExc) : Bool × PyVal :=
  match e.cls with
  | .timeoutError => (false, .str "TIMEOUT")
  | .connectionRefusedError => (false, .str "CONNECTION_REFUSED")
  | _ => (false, .str "TRANSPORT_ERROR")

/-- The response, read to its end.  `loads` is `json.loads(payload.decode('utf-8'))`. -/
def readResponse (loads : Bytes → Except PyExc PyVal) (transactionId : String) (msgType : UInt8)
    (payload : Bytes) : Bool × PyVal :=
  if msgType.toNat = MessageType.ack.value then
    match loads payload with
    | .error e => failed e
    | .ok (.dict items) =>
      match PyDict.get? items "transaction_id" with
      | some v =>
        if v.isStr transactionId then (true, .str "ACK") else (false, .str "ACK_ID_MISMATCH")
      | none => (false, .str "ACK_ID_MISMATCH")
    | .ok _ => failed ⟨.attributeError, "object has no attribute 'get'"⟩
  else if msgType.toNat = MessageType.nack.value then
    match loads payload with
    | .error e => failed e
    | .ok (.dict items) => (false, (PyDict.get? items "reason").getD (.str "UNKNOWN_NACK"))
    | .ok _ => failed ⟨.attributeError, "object has no attribute 'get'"⟩
  else (false, .str "UNKNOWN_RESPONSE_TYPE")

/-- Where `send_envelope` waits, or what it has returned. -/
inductive Session where
  | draining
  | readingType
  | readingLength (msgType : UInt8)
  | readingPayload (msgType : UInt8) (payloadLen : Nat)
  | returned (result : Bool × PyVal)

namespace Session

/-- Up to the first `await`: the session and the bytes written. -/
def start (pb : Protobuf) (tx : GatewayATransaction) : Session × Bytes :=
  match envelopeFrame pb tx with
  | .error e => (.returned (failed e), [])
  | .ok frame => (.draining, frame)

/-- The bytes the session waits for; `none` when it has returned. -/
def awaited : Session → Option Nat
  | .draining => some 0
  | .readingType => some 1
  | .readingLength _ => some 4
  | .readingPayload _ payloadLen => some payloadLen
  | .returned _ => none

/-- Go on with the bytes awaited. -/
def resume (loads : Bytes → Except PyExc PyVal) (transactionId : String) :
    Session → Bytes → Session
  | .draining, _ => .readingType
  | .readingType, [msgType] => .readingLength msgType
  | .readingLength msgType, [a, b, c, d] => .readingPayload msgType (unpackLength a b c d)
  | .readingPayload msgType _, payload =>
    .returned (readResponse loads transactionId msgType payload)
  | session, _ => session

end Session

/-! ### What a session writes -/

theorem envelopeFrame_eq_ok {pb : Protobuf} {tx : GatewayATransaction} {frame : Bytes}
    (h : envelopeFrame pb tx = .ok frame) :
    ∃ env payload, tx.envelope = .ok env ∧ env.toBytes pb = .ok payload ∧
      payload.length < 2 ^ 32 ∧ frame = FrameCodec.frameBytes .signedBundle payload := by
  simp only [envelopeFrame] at h
  split at h
  · simp at h
  · rename_i env henv
    split at h
    · simp at h
    · rename_i payload hpayload
      simp only [packHeader] at h
      by_cases hlt : payload.length < 2 ^ 32
      · rw [if_pos hlt] at h
        obtain rfl : _ = frame := by simpa using h
        exact ⟨env, payload, henv, hpayload, hlt, rfl⟩
      · rw [if_neg hlt] at h
        simp at h

theorem envelope_transactionId {tx : GatewayATransaction} {env : TransactionEnvelope}
    (h : tx.envelope = .ok env) : env.transactionId = tx.transactionId := by
  simp only [GatewayATransaction.envelope] at h
  split at h
  · simp at h
  · obtain rfl : _ = env := by simpa using h
    rfl

theorem envelope_of_compressed {tx : GatewayATransaction} {env : TransactionEnvelope}
    {compressed : Bytes} (h : tx.envelope = .ok env)
    (hcompressed : tx.stixBundleCompressed = some compressed) :
    env.senderId = tx.senderId ∧ env.recipientId = tx.recipientId ∧
      env.tlpMarking = tx.stixBundle.tlpMarking ∧ env.stixBundleCompressed = compressed := by
  simp only [GatewayATransaction.envelope] at h
  rw [hcompressed] at h
  obtain rfl : _ = env := by simpa using h
  exact ⟨rfl, rfl, rfl, rfl⟩

/-! ### What a session has read -/

theorem failed_fst (e : PyExc) : (failed e).1 = false := by
  simp only [failed]
  split <;> rfl

/-- Only an ACK makes a session succeed. -/
theorem ack_of_readResponse {loads : Bytes → Except PyExc PyVal} {transactionId : String}
    {msgType : UInt8} {payload : Bytes}
    (h : (readResponse loads transactionId msgType payload).1 = true) :
    msgType = UInt8.ofNat MessageType.ack.value := by
  simp only [readResponse] at h
  by_cases hack : msgType.toNat = MessageType.ack.value
  · rw [← hack, UInt8.ofNat_toNat]
  · rw [if_neg hack] at h
    split at h
    · split at h
      · simp [failed_fst] at h
      · simp at h
      · simp [failed_fst] at h
    · simp at h

namespace Session

/-- What the bytes read so far are, for a session that has not failed. -/
def Heard (received : Bytes) : Session → Prop
  | .draining => received = []
  | .readingType => received = []
  | .readingLength msgType => received = [msgType]
  | .readingPayload msgType payloadLen =>
    payloadLen < 2 ^ 32 ∧ received = msgType :: packLength payloadLen
  | .returned result => result.1 = true → ∃ payload, payload.length < 2 ^ 32 ∧
      received = FrameCodec.frameBytes .ack payload

theorem heard_failed (e : PyExc) (received : Bytes) :
    (Session.returned (failed e)).Heard received := by
  intro hsuccess
  rw [failed_fst] at hsuccess
  simp at hsuccess

theorem Heard.resume {loads : Bytes → Except PyExc PyVal} {transactionId : String}
    {session : Session} {received data : Bytes} (h : session.Heard received)
    (hlen : session.awaited = some data.length) :
    (session.resume loads transactionId data).Heard (received ++ data) := by
  cases session with
  | draining =>
    have hdata : data = [] := List.length_eq_zero_iff.mp (Option.some.inj hlen).symm
    rw [hdata, List.append_nil]
    exact h
  | readingType =>
    obtain ⟨msgType, rfl⟩ := List.length_eq_one_iff.mp (Option.some.inj hlen).symm
    have hempty : received = [] := h
    rw [hempty]
    rfl
  | readingLength msgType =>
    have hone : received = [msgType] := h
    match data, Option.some.inj hlen with
    | [a, b, c, d], _ =>
      refine ⟨unpackLength_lt a b c d, ?_⟩
      rw [hone, packLength_unpackLength]
      rfl
  | readingPayload msgType payloadLen =>
    obtain ⟨hlt, hheader⟩ := h
    obtain rfl : payloadLen = data.length := Option.some.inj hlen
    intro hsuccess
    refine ⟨data, hlt, ?_⟩
    rw [hheader, ack_of_readResponse hsuccess]
    rfl
  | returned result => simp [awaited] at hlen

end Session

end QsTie.GatewayA
