import QsTie.Common.FrameGrammar
import QsTie.Common.JsonRead
import QsTie.GatewayB.Segmentation

/-!
# One terminal response

Responses are sent from the stages, from the handlers around them and from the
frame-error handler, and a response that does not fit raises into the next
handler out.  `outcome_handleConnection` has followed all these paths to the one
frame that is written; what remains is that this frame is a response the codec
and a JSON reader accept, and that it is written exactly when a read has completed
a frame or shown a bad header.
-/

namespace QsTie.GatewayB

open QsTie.Lib

/-- A buffer the handler answers: it holds a complete frame, or a header with an unknown
    type or a declared length above the maximum. -/
def Answerable (buffer : Bytes) : Prop :=
  (∃ t payload rest, frameCodec.Fits payload ∧
    buffer = FrameCodec.frameBytes t payload ++ rest) ∨
  ∃ typeByte declared body, FrameCodec.Header buffer typeByte declared body ∧
    (MessageType.ofValue? typeByte.toNat = none ∨ frameCodec.maxPayloadSize < declared)

/-- A frame that is an ACK with a transaction id, or a NACK with one and a reason. -/
def IsResponse (frame : Bytes) : Prop :=
  ∃ payload txId,
    (frameCodec.decodeFrame frame = .ok (.ack, payload) ∧
      jsonObject payload = some [("transaction_id", txId)]) ∨
    ∃ reason : NackReason, frameCodec.decodeFrame frame = .ok (.nack, payload) ∧
      jsonObject payload = some [("transaction_id", txId), ("reason", reason.value)]

/-! ### The frames that are written -/

theorem isResponse_ack {txId : String} (hfits : AckFits txId) : IsResponse (ackFrame txId) := by
  refine ⟨ackPayload txId, txId, Or.inl ⟨?_, jsonObject_jsonDumps _⟩⟩
  exact frameCodec.decodeFrame_eq_ok.mpr ⟨hfits.1, hfits.2, rfl⟩

theorem isResponse_nack {txId : String} {reason : NackReason} (hfits : NackFits txId reason) :
    IsResponse (nackFrame txId reason) := by
  refine ⟨nackPayload txId reason, txId, Or.inr ⟨reason, ?_, jsonObject_jsonDumps _⟩⟩
  exact frameCodec.decodeFrame_eq_ok.mpr ⟨hfits.1, hfits.2, rfl⟩

theorem isResponse_zero : IsResponse (nackFrame "0" .malformed) := isResponse_nack nackFits_zero

theorem isResponse_responseTo {out : Outside} {txId : String} {v : Except NackReason PyVal}
    (hfits : frameCodec.Fits (responseTo out txId v).2) :
    IsResponse (FrameCodec.frameBytes (responseTo out txId v).1 (responseTo out txId v).2) := by
  cases v with
  | error reason => exact isResponse_nack hfits
  | ok b =>
    cases hb : out.ingestBundle b with
    | false =>
      simp only [responseTo, hb, Bool.false_eq_true, if_false] at hfits ⊢
      exact isResponse_nack hfits
    | true =>
      simp only [responseTo, hb, if_true] at hfits ⊢
      exact isResponse_ack hfits

/-- Whatever the decision, the frame that is written in the end is a response. -/
theorem isResponse_answered (out : Outside) (txId : String) (v : Except NackReason PyVal) :
    IsResponse (answered txId (responseTo out txId v)) := by
  simp only [answered]
  by_cases hfits : frameCodec.Fits (responseTo out txId v).2
  · rw [if_pos hfits]
    exact isResponse_responseTo hfits
  · rw [if_neg hfits]
    by_cases hnack : NackFits txId .malformed
    · rw [if_pos hnack]
      exact isResponse_nack hnack
    · rw [if_neg hnack]
      exact isResponse_zero

theorem isResponse_outcome (proto : GatewayProtocol) (out : Outside) (peerFingerprint : String)
    {stop : ReadEnd} (hstop : stop ≠ .eof) :
    ∃ frame, (outcome proto out peerFingerprint stop).1 = [frame] ∧ IsResponse frame := by
  cases stop with
  | eof => exact absurd rfl hstop
  | frameError e => exact ⟨_, rfl, isResponse_zero⟩
  | frame t payload remaining =>
    simp only [outcome]
    split
    · exact ⟨_, rfl, isResponse_zero⟩
    · split
      · exact ⟨_, rfl, isResponse_zero⟩
      · simp only [payloadOutcome]
        cases TransactionEnvelope.fromBytes proto.protobuf payload with
        | error e => exact ⟨_, rfl, isResponse_zero⟩
        | ok env => exact ⟨_, rfl, isResponse_answered out env.transactionId _⟩

/-! ### When the loop stops at a frame -/

/-- The decoder asks for more exactly while the buffer is not to be answered. -/
theorem decodeFrameStream_eq_none {buffer : Bytes} :
    frameCodec.decodeFrameStream buffer = .ok none ↔ ¬ Answerable buffer := by
  constructor
  · rintro hnone (⟨t, payload, rest, hfits, rfl⟩ | ⟨typeByte, declared, body, hheader, hbad⟩)
    · rw [frameCodec.decode_frameBytes_append hfits] at hnone
      simp at hnone
    · rw [frameCodec.decodeFrameStream_header hheader] at hnone
      split at hnone
      · simp at hnone
      · rename_i t htype
        rcases hbad with hunknown | hmax
        · rw [htype] at hunknown
          simp at hunknown
        · rw [if_pos hmax] at hnone
          simp at hnone
  · intro hnot
    rcases FrameCodec.short_or_header buffer with hshort | ⟨typeByte, declared, body, hheader⟩
    · exact frameCodec.decodeFrameStream_of_short hshort
    · cases hdecode : frameCodec.decodeFrameStream buffer with
      | error e =>
        refine absurd (Or.inr ⟨typeByte, declared, body, hheader, ?_⟩) hnot
        rw [frameCodec.decodeFrameStream_header hheader] at hdecode
        split at hdecode
        · left; assumption
        · split at hdecode
          · right; assumption
          · split at hdecode <;> simp at hdecode
      | ok found =>
        cases found with
        | none => rfl
        | some found =>
          obtain ⟨⟨t, payload⟩, rest⟩ := found
          obtain ⟨hfits, hbuffer⟩ := frameCodec.decodeFrameStream_eq_some.mp hdecode
          exact absurd (Or.inl ⟨t, payload, rest, hfits, hbuffer⟩) hnot

/-- A buffer that is answered is still answered when more has come. -/
theorem Answerable.append {buffer : Bytes} (h : Answerable buffer) (more : Bytes) :
    Answerable (buffer ++ more) := by
  rcases h with ⟨t, payload, rest, hfits, rfl⟩ | ⟨typeByte, declared, body, hheader, hbad⟩
  · left
    exact ⟨t, payload, rest ++ more, hfits, List.append_assoc _ _ _⟩
  · right
    obtain ⟨a, b, c, d, rfl, hdeclared⟩ := hheader
    exact ⟨typeByte, declared, body ++ more, ⟨a, b, c, d, rfl, hdeclared⟩, hbad⟩

/-- The read loop ends without a frame exactly when no read completes one. -/
theorem readFrame_eq_eof {reads : List Bytes} (hne : ∀ data ∈ reads, data ≠ []) :
    readFrame [] reads = .eof ↔ ¬ ∃ n, Answerable (reads.take n).flatten := by
  have hstop := @readFrame_of_decode [] reads hne rfl
  rw [List.nil_append] at hstop
  have hsome : (∃ n, Answerable (reads.take n).flatten) ↔ Answerable reads.flatten := by
    constructor
    · rintro ⟨n, hn⟩
      have hall := hn.append (reads.drop n).flatten
      rwa [← List.flatten_append, List.take_append_drop] at hall
    · intro hall
      exact ⟨reads.length, by rwa [List.take_length]⟩
  rw [hsome, ← decodeFrameStream_eq_none]
  cases hdecode : frameCodec.decodeFrameStream reads.flatten with
  | error e =>
    rw [hdecode] at hstop
    simp only at hstop
    simp [hstop]
  | ok found =>
    rw [hdecode] at hstop
    cases found with
    | none => simpa using hstop
    | some found =>
      obtain ⟨⟨t, payload⟩, rest⟩ := found
      obtain ⟨remaining, hframe, _⟩ := hstop
      simp [hframe]

/-- **Exactly one terminal response.**  Over a transport that takes what is written, a
    connection whose reads complete a frame or show a bad header is answered by one ACK or
    NACK and closed; any other is closed without a word. -/
theorem exactly_one_response (proto : GatewayProtocol) (out : Outside) (hout : out.Healthy)
    (peerFingerprint : String) (stream : Bytes) (reads : List Bytes) (hreads : Reads stream reads) :
    let h := ((proto.handleConnection peerFingerprint reads).run out.answer []).2
    let closing : History := [⟨.close, ()⟩, ⟨.waitClosed, out.waitClosed⟩]
    ((∃ n, Answerable (reads.take n).flatten) →
      ∃ body frame, h = body ++ closing ∧ written body = [frame] ∧ IsResponse frame) ∧
    ((¬ ∃ n, Answerable (reads.take n).flatten) → h = closing) := by
  intro h closing
  have hne : ∀ data ∈ reads, data ≠ [] := fun data hdata => (hreads.sizes data hdata).1
  have hclose : h = ((proto.handleRead peerFingerprint (readFrame [] reads)).run out.answer []).2 ++
      closing := @shown_finish out proto peerFingerprint (readFrame [] reads)
  obtain ⟨body, hrun, hshown⟩ := run_handleRead hout proto peerFingerprint (readFrame [] reads)
  rw [hrun] at hclose
  constructor
  · intro hanswer
    have hstop : readFrame [] reads ≠ .eof := by
      intro heof
      exact (readFrame_eq_eof hne).mp heof hanswer
    obtain ⟨frame, hframe, hresponse⟩ := isResponse_outcome proto out peerFingerprint hstop
    refine ⟨body, frame, hclose, ?_, hresponse⟩
    rw [← hframe, ← hshown]
  · intro hsilent
    have heof : readFrame [] reads = .eof := (readFrame_eq_eof hne).mpr hsilent
    rw [heof] at hrun
    obtain rfl : [] = body := by simpa [GatewayProtocol.handleRead] using hrun.symm
    exact hclose

/-- The sample frame in two reads is answered; the first read alone is not. -/
theorem sample_one_response :
    (∃ body frame, ((Sample.gateway.handleConnection "9f86d081884c7d65"
        [[1, 0, 0], [0, 196] ++ Sample.payload]).run Sample.outside.answer []).2 =
          body ++ [⟨.close, ()⟩, ⟨.waitClosed, .ok ()⟩] ∧
      written body = [frame] ∧ IsResponse frame) ∧
    ((Sample.gateway.handleConnection "9f86d081884c7d65" [[1, 0, 0]]).run
      Sample.outside.answer []).2 = [⟨.close, ()⟩, ⟨.waitClosed, .ok ()⟩] := by
  have hout : Sample.outside.Healthy := fun _ => rfl
  constructor
  · have hreads : Reads ([1, 0, 0, 0, 196] ++ Sample.payload)
        [[1, 0, 0], [0, 196] ++ Sample.payload] := ⟨by simp, by decide +kernel⟩
    apply (exactly_one_response Sample.gateway Sample.outside hout "9f86d081884c7d65" _ _ hreads).1
    refine ⟨2, Or.inl ⟨.signedBundle, Sample.payload, [], by decide +kernel, ?_⟩⟩
    have hlen : packLength Sample.payload.length = [0, 0, 0, 196] := by decide +kernel
    simp [FrameCodec.frameBytes, hlen, MessageType.value]
  · have hreads : Reads [1, 0, 0] [[1, 0, 0]] := ⟨rfl, by decide +kernel⟩
    apply (exactly_one_response Sample.gateway Sample.outside hout "9f86d081884c7d65" _ _ hreads).2
    rw [← readFrame_eq_eof (by decide)]
    rfl

end QsTie.GatewayB
