import QsTie.Common.EnvelopeWire
import QsTie.Common.FrameGrammar
import QsTie.GatewayA.Session

/-!
# The framing of Gateway A against the shared codec

`send_envelope` packs and unpacks its frames by hand; Gateway B goes through
`FrameCodec`.  The two write the same bytes and read the same pair as long as the
payload and the declared length keep to the limit of the codec and the type byte
is a known one.  The session has no limit and looks at the type last, so outside
of these it writes, and waits for, what the codec refuses.
-/

namespace QsTie.GatewayA

/-- `FrameCodec()`. -/
def sharedCodec : FrameCodec := {}

/-- `proto_env.to_bytes()`. -/
def envelopePayload (pb : Protobuf) (tx : GatewayATransaction) : Except PyExc Bytes :=
  match tx.envelope with
  | .error e => .error e
  | .ok env => env.toBytes pb

namespace Session

variable (loads : Bytes → Except PyExc PyVal) (transactionId : String)

/-- One `await`, answered from the bytes the peer has sent when there are enough. -/
def pull : Session × Bytes → Session × Bytes
  | (session, stream) =>
    match session.awaited with
    | none => (session, stream)
    | some n =>
      if n ≤ stream.length then (session.resume loads transactionId (stream.take n), stream.drop n)
      else (session, stream)

/-- The session after its frame is written, as far as the bytes of the peer carry it, and
    the bytes it has not read.  There are four awaits. -/
def receive (stream : Bytes) : Session × Bytes :=
  (pull loads transactionId)^[4] (.draining, stream)

end Session

/-! ### Agreement with the codec -/

/-- The bytes of `send_envelope` are those of `encode_frame`, and none when it raises. -/
def WritesAs (pb : Protobuf) (tx : GatewayATransaction) (payload : Bytes) : Prop :=
  match sharedCodec.encodeFrame .signedBundle payload with
  | .ok frame => (Session.start pb tx).2 = frame
  | .error _ => (Session.start pb tx).2 = []

/-- The session acts on the pair of `decode_frame_stream`, on nothing while there is none,
    and rejects a header that is refused when it has read the five bytes of it. -/
def ReadsAs (loads : Bytes → Except PyExc PyVal) (transactionId : String) (stream : Bytes) : Prop :=
  match sharedCodec.decodeFrameStream stream with
  | .ok (some ((t, payload), remaining)) =>
    Session.receive loads transactionId stream =
      (.returned (readResponse loads transactionId (UInt8.ofNat t.value) payload), remaining)
  | .ok none => ∀ result, (Session.receive loads transactionId stream).1 ≠ .returned result
  | .error _ => ∃ reason,
    (Session.receive loads transactionId (stream.take HEADER_SIZE)).1 = .returned (false, reason)

/-- The payloads on which the two writers agree: those the codec takes, and those too long
    even for the four bytes of the length. -/
def WriteAgrees (payload : Bytes) : Prop :=
  (payload.length : Int) ≤ DEFAULT_MAX_PAYLOAD_SIZE ∨ 2 ^ 32 ≤ payload.length

/-- The streams on which the two readers agree: a header, if there is one, declares nothing to
    wait for or is one the codec takes. -/
def ReadAgrees (stream : Bytes) : Prop :=
  ∀ typeByte declared body, FrameCodec.Header stream typeByte declared body →
    declared = 0 ∨ (∃ t, MessageType.ofValue? typeByte.toNat = some t) ∧
      (declared : Int) ≤ DEFAULT_MAX_PAYLOAD_SIZE

/-! ### The written frame -/

theorem start_written {pb : Protobuf} {tx : GatewayATransaction} {payload : Bytes}
    (hpayload : envelopePayload pb tx = .ok payload) :
    (Session.start pb tx).2 =
      if payload.length < 2 ^ 32 then FrameCodec.frameBytes .signedBundle payload else [] := by
  simp only [envelopePayload] at hpayload
  cases henv : tx.envelope with
  | error e => rw [henv] at hpayload; simp at hpayload
  | ok env =>
    rw [henv] at hpayload
    simp only at hpayload
    simp only [Session.start, envelopeFrame, henv, hpayload, packHeader]
    by_cases hlt : payload.length < 2 ^ 32
    · simp only [hlt, if_true]
      rfl
    · simp only [hlt, if_false]

theorem writesAs_iff {pb : Protobuf} {tx : GatewayATransaction} {payload : Bytes}
    (hpayload : envelopePayload pb tx = .ok payload) :
    WritesAs pb tx payload ↔ WriteAgrees payload := by
  simp only [WritesAs, WriteAgrees, start_written hpayload]
  by_cases hfits : sharedCodec.Fits payload
  · rw [sharedCodec.encodeFrame_of_fits hfits]
    simp only [hfits.2, if_true, true_iff]
    left
    exact hfits.1
  · cases hencode : sharedCodec.encodeFrame .signedBundle payload with
    | ok frame => exact absurd (sharedCodec.encodeFrame_eq_ok.mp hencode).1 hfits
    | error e =>
      have hmax : sharedCodec.maxPayloadSize = DEFAULT_MAX_PAYLOAD_SIZE := rfl
      have hlimit : DEFAULT_MAX_PAYLOAD_SIZE = 10485760 := by decide
      simp only [FrameCodec.Fits, hmax, hlimit] at hfits
      rw [hlimit]
      by_cases hlt : payload.length < 2 ^ 32
      · -- the frame is written although the codec refuses it
        simp only [hlt, if_true, FrameCodec.frameBytes, reduceCtorEq, false_iff]
        omega
      · simp only [hlt, if_false, true_iff]
        omega

/-! ### The response -/

namespace Session

variable {loads : Bytes → Except PyExc PyVal} {transactionId : String}

/-- Without a header the session waits. -/
theorem receive_of_short {stream : Bytes} (h : stream.length < HEADER_SIZE)
    (result : Bool × PyVal) : (receive loads transactionId stream).1 ≠ .returned result := by
  match stream with
  | [] => simp [receive, pull, awaited, resume]
  | [_] | [_, _] | [_, _, _] | [_, _, _, _] => simp [receive, pull, awaited, resume]
  | _ :: _ :: _ :: _ :: _ :: _ => simp only [List.length_cons, HEADER_SIZE] at h; omega

/-- With one it waits for the declared bytes, whatever the type and the length. -/
theorem receive_header {stream body : Bytes} {typeByte : UInt8} {declared : Nat}
    (h : FrameCodec.Header stream typeByte declared body) :
    receive loads transactionId stream =
      if declared ≤ body.length then
        (.returned (readResponse loads transactionId typeByte (body.take declared)),
          body.drop declared)
      else (.readingPayload typeByte declared, body) := by
  obtain ⟨a, b, c, d, rfl, rfl⟩ := h
  generalize hdeclared : unpackLength a b c d = declared
  have hthree : (pull loads transactionId)^[3] (.draining, typeByte :: a :: b :: c :: d :: body) =
      (.readingPayload typeByte declared, body) := by
    simp [pull, awaited, resume, hdeclared]
  rw [receive, Function.iterate_succ_apply', hthree]
  rfl

/-- A whole frame is read to its end. -/
theorem receive_frameBytes (t : MessageType) {payload : Bytes} (hlen : payload.length < 2 ^ 32) :
    receive loads transactionId (FrameCodec.frameBytes t payload) =
      (.returned (readResponse loads transactionId (UInt8.ofNat t.value) payload), []) := by
  rw [receive_header (FrameCodec.header_frameBytes t hlen), if_pos (Nat.le_refl _),
    List.take_length, List.drop_length]

end Session

theorem readResponse_unknown {loads : Bytes → Except PyExc PyVal} {transactionId : String}
    {typeByte : UInt8} (payload : Bytes) (h : MessageType.ofValue? typeByte.toNat = none) :
    readResponse loads transactionId typeByte payload = (false, .str "UNKNOWN_RESPONSE_TYPE") := by
  have hne : ∀ t : MessageType, typeByte.toNat ≠ t.value := by
    intro t heq
    rw [heq, MessageType.ofValue?_value] at h
    simp at h
  simp only [readResponse, if_neg (hne .ack), if_neg (hne .nack)]

theorem header_take {stream body : Bytes} {typeByte : UInt8} {declared : Nat}
    (h : FrameCodec.Header stream typeByte declared body) :
    FrameCodec.Header (stream.take HEADER_SIZE) typeByte declared [] := by
  obtain ⟨a, b, c, d, rfl, rfl⟩ := h
  exact ⟨a, b, c, d, rfl, rfl⟩

theorem readAgrees_header {stream body : Bytes} {typeByte : UInt8} {declared : Nat}
    (h : FrameCodec.Header stream typeByte declared body) :
    ReadAgrees stream ↔ declared = 0 ∨ (∃ t, MessageType.ofValue? typeByte.toNat = some t) ∧
      (declared : Int) ≤ DEFAULT_MAX_PAYLOAD_SIZE := by
  constructor
  · intro hagrees
    exact hagrees typeByte declared body h
  · intro hcond typeByte' declared' body' h'
    obtain ⟨rfl, rfl, rfl⟩ := h.unique h'
    exact hcond

/-- A refused header is rejected at once exactly when there is nothing to wait for. -/
theorem rejected_at_once_iff {loads : Bytes → Except PyExc PyVal} {transactionId : String}
    {stream body : Bytes} {typeByte : UInt8} {declared : Nat}
    (h : FrameCodec.Header stream typeByte declared body)
    (hrefused : declared = 0 → MessageType.ofValue? typeByte.toNat = none) :
    (∃ reason, (Session.receive loads transactionId (stream.take HEADER_SIZE)).1 =
      .returned (false, reason)) ↔ declared = 0 := by
  rw [Session.receive_header (header_take h)]
  by_cases hzero : declared = 0
  · subst hzero
    simp only [List.length_nil, Nat.le_refl, if_true, iff_true]
    exact ⟨_, by rw [readResponse_unknown _ (hrefused rfl)]⟩
  · have hwait : ¬ declared ≤ ([] : Bytes).length := by
      simp only [List.length_nil]
      omega
    simp only [hwait, hzero, if_false, reduceCtorEq, exists_false]

theorem readsAs_iff (loads : Bytes → Except PyExc PyVal) (transactionId : String)
    (stream : Bytes) : ReadsAs loads transactionId stream ↔ ReadAgrees stream := by
  rcases FrameCodec.short_or_header stream with hshort | ⟨typeByte, declared, body, hheader⟩
  · simp only [ReadsAs, sharedCodec.decodeFrameStream_of_short hshort]
    constructor
    · intro _ typeByte declared body hheader
      have hlen := hheader.length
      omega
    · intro _ result
      exact Session.receive_of_short hshort result
  · have hmaximum : sharedCodec.maxPayloadSize = DEFAULT_MAX_PAYLOAD_SIZE := rfl
    rw [readAgrees_header hheader]
    simp only [ReadsAs, sharedCodec.decodeFrameStream_header hheader, hmaximum]
    cases htype : MessageType.ofValue? typeByte.toNat with
    | none =>
      simp only [reduceCtorEq, exists_false, false_and, or_false]
      exact rejected_at_once_iff hheader fun _ => htype
    | some t =>
      by_cases hmax : DEFAULT_MAX_PAYLOAD_SIZE < declared
      · simp only [hmax, if_true, Option.some.injEq, exists_eq', true_and]
        have hpos : declared ≠ 0 := by
          rintro rfl
          exact absurd hmax (by decide)
        rw [rejected_at_once_iff hheader fun hzero => absurd hzero hpos]
        omega
      · have hcond : declared = 0 ∨ (∃ t', some t = some t') ∧
            (declared : Int) ≤ DEFAULT_MAX_PAYLOAD_SIZE := by
          right
          exact ⟨⟨t, rfl⟩, by omega⟩
        simp only [hmax, if_false, hcond, iff_true, Session.receive_header hheader]
        by_cases hpart : body.length < declared
        · simp only [hpart, if_true, if_neg (Nat.not_le.mpr hpart), ne_eq, reduceCtorEq,
            not_false_eq_true, implies_true]
        · simp only [hpart, if_false, if_pos (Nat.not_lt.mp hpart),
            MessageType.ofNat_value_of_ofValue? htype]

/-- **The framing agrees with the codec exactly** on payloads within its limit (or beyond
    2^32 bytes) and on responses whose header it takes or that declare no payload. -/
theorem framing_agrees_iff (loads : Bytes → Except PyExc PyVal) {pb : Protobuf}
    {tx : GatewayATransaction} {payload : Bytes} (hpayload : envelopePayload pb tx = .ok payload)
    (stream : Bytes) :
    WritesAs pb tx payload ∧ ReadsAs loads tx.transactionId stream ↔
      WriteAgrees payload ∧ ReadAgrees stream := by
  rw [writesAs_iff hpayload, readsAs_iff]

/-! ### A transaction with a bundle of any size -/

namespace Framing

def sampleTx (size : Nat) : GatewayATransaction where
  transactionId := "5d2f6645-8f64-4e20-b42e-131c950d210f"
  stixBundle := { bundleId := .none, rawJson := [], tlpMarking := .green, mispEventUuid := .none }
  stixBundleCompressed := some (List.replicate size 120)
  createdAtUnixMs := 0

/-- The fields of its envelope before the bundle. -/
def sampleFields : List Lib.Wire.Field :=
  [⟨1, .bytes (utf8 "5d2f6645-8f64-4e20-b42e-131c950d210f")⟩, ⟨2, .bytes (utf8 "RAW")⟩,
    ⟨3, .bytes (utf8 "NIA")⟩, ⟨4, .bytes (utf8 "tlp:green")⟩]

def samplePayload (size : Nat) : Bytes :=
  Lib.Wire.putFields (sampleFields ++ [⟨5, .bytes (List.replicate size 120)⟩])

theorem envelopePayload_sample {size : Nat} (hsize : 0 < size) :
    envelopePayload wireProtobuf (sampleTx size) = .ok (samplePayload size) := by
  have hint : IsInt64 0 := by decide
  have hne : size ≠ 0 := by omega
  simp [envelopePayload, GatewayATransaction.envelope, sampleTx, TransactionEnvelope.toBytes,
    TransactionEnvelope.toProto, wireProtobuf, hint, ProtoEnvelope.fields, ProtoEnvelope.stringField,
    ProtoEnvelope.bytesField, ProtoEnvelope.int64Field, hne, samplePayload, sampleFields,
    TlpMarking.value]

theorem length_samplePayload (size : Nat) :
    (samplePayload size).length = size + (Lib.Wire.putVarint size).length + 60 := by
  have hfields : (Lib.Wire.putFields sampleFields).length = 59 := by decide +kernel
  have htag : (Lib.Wire.putTag 5 2).length = 1 := by decide
  have hsplit : samplePayload size = Lib.Wire.putFields sampleFields ++
      (Lib.Wire.putTag 5 2 ++ Lib.Wire.putVarint size ++ List.replicate size 120) := by
    simp [samplePayload, Lib.Wire.putFields, Lib.Wire.putField]
  rw [hsplit]
  simp only [List.length_append, List.length_replicate, hfields, htag]
  omega

theorem header_response (typeByte a b c d : UInt8) (body : Bytes) :
    FrameCodec.Header (typeByte :: a :: b :: c :: d :: body) typeByte (unpackLength a b c d) body :=
  ⟨a, b, c, d, rfl, rfl⟩

end Framing

/-- A bundle of two bytes, answered by an ACK with an empty object. -/
theorem sample_framing_agrees :
    ∃ loads : Bytes → Except PyExc PyVal, loads [123, 125] = .ok (.dict []) ∧
      WritesAs wireProtobuf (Framing.sampleTx 2) (Framing.samplePayload 2) ∧
      ReadsAs loads (Framing.sampleTx 2).transactionId [2, 0, 0, 0, 2, 123, 125] := by
  refine ⟨fun _ => .ok (.dict []), rfl, ?_⟩
  apply (framing_agrees_iff _ (Framing.envelopePayload_sample (by decide)) _).mpr
  constructor
  · left
    rw [Framing.length_samplePayload]
    decide
  · rw [readAgrees_header (Framing.header_response 2 0 0 0 2 [123, 125])]
    right
    exact ⟨⟨.ack, rfl⟩, by decide⟩

/-- A bundle of 10 MiB is written although the codec refuses its envelope, and neither an
    unknown type nor an ACK that declares 10 MiB and one byte is rejected at its header. -/
theorem sample_framing_differs :
    envelopePayload wireProtobuf (Framing.sampleTx 10485760) =
      .ok (Framing.samplePayload 10485760) ∧
    ¬ WritesAs wireProtobuf (Framing.sampleTx 10485760) (Framing.samplePayload 10485760) ∧
    (¬ ∃ loads, ReadsAs loads (Framing.sampleTx 10485760).transactionId [7, 0, 0, 0, 1]) ∧
    ¬ ∃ loads, ReadsAs loads (Framing.sampleTx 10485760).transactionId [2, 0, 160, 0, 1] := by
  have hpayload := Framing.envelopePayload_sample (show 0 < 10485760 by decide)
  refine ⟨hpayload, ?_, ?_, ?_⟩
  · rw [writesAs_iff hpayload, WriteAgrees, Framing.length_samplePayload]
    decide
  · rintro ⟨loads, hreads⟩
    rw [readsAs_iff, readAgrees_header (Framing.header_response 7 0 0 0 1 [])] at hreads
    rcases hreads with hzero | ⟨⟨t, htype⟩, _⟩
    · exact absurd hzero (by decide)
    · simp [MessageType.ofValue?] at htype
  · rintro ⟨loads, hreads⟩
    rw [readsAs_iff, readAgrees_header (Framing.header_response 2 0 160 0 1 [])] at hreads
    rcases hreads with hzero | ⟨_, hmax⟩
    · exact absurd hzero (by decide)
    · exact absurd hmax (by decide)

end QsTie.GatewayA
