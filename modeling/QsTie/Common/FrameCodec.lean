import QsTie.Common.Enums
import QsTie.Lib.Stream
import Mathlib.Tactic.IntervalCases

/-!
# The frame codec (`qstie_common/protocol/frame_codec.py`)

A frame is one byte of message type, a big-endian 32-bit length and the payload
(`struct` format `>BI`).  `decodeFrameStream` splits the first frame off a
buffer, `decodeFrame` wants exactly one.  A result `(None, None, buffer)` of the
source is `none` here.

The facts the receivers rest on: a decoded frame or an error stands in every
extension of the buffer (`decodeFrameStream_incremental`), and encoded frames
are read back (`frame_framing`).
-/

namespace QsTie

open QsTie.Lib

/-! ### The header -/

def HEADER_SIZE : Nat := 5

def DEFAULT_MAX_PAYLOAD_SIZE : Int := 10 * 1024 * 1024

/-- The four bytes of `>I`. -/
def packLength (n : Nat) : Bytes :=
  [UInt8.ofNat (n / 2 ^ 24 % 256), UInt8.ofNat (n / 2 ^ 16 % 256),
   UInt8.ofNat (n / 2 ^ 8 % 256), UInt8.ofNat (n % 256)]

def unpackLength (a b c d : UInt8) : Nat :=
  a.toNat * 2 ^ 24 + b.toNat * 2 ^ 16 + c.toNat * 2 ^ 8 + d.toNat

/-- `struct.unpack(">BI", buffer[:5])`; `none` when the buffer is shorter. -/
def unpackHeader : Bytes → Option (Nat × Nat)
  | t :: a :: b :: c :: d :: _ => some (t.toNat, unpackLength a b c d)
  | _ => none

/-- `struct.pack(">BI", type, n)`, which refuses a length of 2^32 or more. -/
def packHeader (t : MessageType) (n : Nat) : Except PyExc Bytes :=
  if n < 2 ^ 32 then .ok (UInt8.ofNat t.value :: packLength n)
  else .error ⟨.structError, "'I' format requires 0 <= number <= 4294967295"⟩

theorem unpackLength_lt (a b c d : UInt8) : unpackLength a b c d < 2 ^ 32 := by
  have ha := a.toNat_lt
  have hb := b.toNat_lt
  have hc := c.toNat_lt
  have hd := d.toNat_lt
  simp only [unpackLength]
  omega

theorem packLength_unpackLength (a b c d : UInt8) :
    packLength (unpackLength a b c d) = [a, b, c, d] := by
  have ha := a.toNat_lt
  have hb := b.toNat_lt
  have hc := c.toNat_lt
  have hd := d.toNat_lt
  simp only [packLength, unpackLength, List.cons.injEq, and_true]
  refine ⟨?_, ?_, ?_, ?_⟩ <;>
    (rw [← UInt8.toNat_inj, UInt8.toNat_ofNat']; omega)

@[simp] theorem length_packLength (n : Nat) : (packLength n).length = 4 := rfl

theorem unpackHeader_eq_some {buffer : Bytes} {typeVal n : Nat}
    (h : unpackHeader buffer = some (typeVal, n)) :
    ∃ tb body, typeVal = tb.toNat ∧ n < 2 ^ 32 ∧ buffer = tb :: (packLength n ++ body) := by
  match buffer with
  | [] | [_] | [_, _] | [_, _, _] | [_, _, _, _] => simp [unpackHeader] at h
  | tb :: a :: b :: c :: d :: body =>
    simp only [unpackHeader, Option.some.injEq, Prod.mk.injEq] at h
    obtain ⟨rfl, rfl⟩ := h
    exact ⟨tb, body, rfl, unpackLength_lt a b c d, by rw [packLength_unpackLength]; rfl⟩

theorem unpackHeader_pack (t : MessageType) {n : Nat} (hn : n < 2 ^ 32) (more : Bytes) :
    unpackHeader (UInt8.ofNat t.value :: (packLength n ++ more)) = some (t.value, n) := by
  have ht := t.value_lt
  simp only [packLength, List.cons_append, List.nil_append, unpackHeader, unpackLength,
    UInt8.toNat_ofNat', Option.some.injEq, Prod.mk.injEq]
  constructor <;> omega

theorem unpackHeader_append {buffer : Bytes} {header : Nat × Nat}
    (h : unpackHeader buffer = some header) (more : Bytes) :
    unpackHeader (buffer ++ more) = some header := by
  match buffer with
  | [] | [_] | [_, _] | [_, _, _] | [_, _, _, _] => simp [unpackHeader] at h
  | _ :: _ :: _ :: _ :: _ :: rest => simpa [unpackHeader] using h

/-! ### The codec -/

structure FrameCodec where
  maxPayloadSize : Int := DEFAULT_MAX_PAYLOAD_SIZE

namespace FrameCodec

variable (codec : FrameCodec)

def encodeFrame (t : MessageType) (payload : Bytes) : Except PyExc Bytes :=
  let size := payload.length
  let maximum := codec.maxPayloadSize
  if maximum < size then
    .error ⟨.oversizedFrameError, s!"Payload size {size} exceeds maximum {maximum}"⟩
  else
    match packHeader t size with
    | .error e => .error e
    | .ok header => .ok (header ++ payload)

def decodeFrameStream (buffer : Bytes) :
    Except PyExc (Option ((MessageType × Bytes) × Bytes)) :=
  match unpackHeader buffer with
  | none => .ok none
  | some (typeVal, payloadLen) =>
    match MessageType.ofValue? typeVal with
    | none => .error ⟨.invalidMessageTypeError, s!"Unknown message type: {typeVal}"⟩
    | some t =>
      let maximum := codec.maxPayloadSize
      if maximum < payloadLen then
        .error ⟨.oversizedFrameError,
          s!"Declared payload length {payloadLen} exceeds maximum {maximum}"⟩
      else if buffer.length < HEADER_SIZE + payloadLen then .ok none
      else
        .ok (some ((t, (buffer.drop HEADER_SIZE).take payloadLen),
          buffer.drop (HEADER_SIZE + payloadLen)))

def decodeFrame (data : Bytes) : Except PyExc (MessageType × Bytes) :=
  match codec.decodeFrameStream data with
  | .error e => .error e
  | .ok none => .error ⟨.malformedFrameError, "Incomplete frame data."⟩
  | .ok (some (frame, remaining)) =>
    if remaining.length > 0 then
      .error ⟨.malformedFrameError, "Trailing data after frame."⟩
    else .ok frame

/-! ### What a decoding step can do -/

/-- A frame that fits the codec: the condition under which `encodeFrame` succeeds. -/
def Fits (payload : Bytes) : Prop :=
  (payload.length : Int) ≤ codec.maxPayloadSize ∧ payload.length < 2 ^ 32

instance (payload : Bytes) : Decidable (codec.Fits payload) := by
  unfold Fits; infer_instance

/-- The bytes of a frame whose payload fits. -/
def frameBytes (t : MessageType) (payload : Bytes) : Bytes :=
  UInt8.ofNat t.value :: (packLength payload.length ++ payload)

@[simp] theorem length_frameBytes (t : MessageType) (payload : Bytes) :
    (frameBytes t payload).length = HEADER_SIZE + payload.length := by
  simp only [frameBytes, packLength, HEADER_SIZE, List.length_cons, List.length_append,
    List.length_nil]
  omega

theorem encodeFrame_eq_ok {t : MessageType} {payload frame : Bytes} :
    codec.encodeFrame t payload = .ok frame ↔
      codec.Fits payload ∧ frame = frameBytes t payload := by
  simp only [encodeFrame, packHeader, Fits, frameBytes]
  by_cases hmax : codec.maxPayloadSize < payload.length
  · simp only [hmax, if_true, reduceCtorEq, false_iff]
    omega
  · by_cases hlen : payload.length < 2 ^ 32
    · simp only [hmax, hlen, if_false, if_true, Except.ok.injEq, List.cons_append]
      constructor
      · intro h; exact ⟨⟨by omega, trivial⟩, h.symm⟩
      · intro h; exact h.2.symm
    · simp only [hmax, hlen, if_false, reduceCtorEq, and_false, false_and]

theorem encodeFrame_of_fits {payload : Bytes} (h : codec.Fits payload) (t : MessageType) :
    codec.encodeFrame t payload = .ok (frameBytes t payload) :=
  codec.encodeFrame_eq_ok.mpr ⟨h, rfl⟩

/-- A frame decoded from a buffer is the buffer's first bytes, re-encoded. -/
theorem eq_frameBytes_of_decode {buffer payload rest : Bytes} {t : MessageType}
    (h : codec.decodeFrameStream buffer = .ok (some ((t, payload), rest))) :
    codec.Fits payload ∧ buffer = frameBytes t payload ++ rest := by
  simp only [decodeFrameStream] at h
  cases hheader : unpackHeader buffer with
  | none => rw [hheader] at h; simp at h
  | some header =>
    obtain ⟨typeVal, len⟩ := header
    obtain ⟨tb, body, rfl, hlt, rfl⟩ := unpackHeader_eq_some hheader
    rw [hheader] at h
    simp only at h
    split at h
    · simp at h
    · rename_i t' ht'
      split at h
      · simp at h
      · split at h
        · simp at h
        · rename_i hmax hlen
          have hdrop : (tb :: (packLength len ++ body)).drop HEADER_SIZE = body := by
            simp [HEADER_SIZE, packLength]
          simp only [← List.drop_drop, hdrop, Except.ok.injEq, Option.some.injEq,
            Prod.mk.injEq] at h
          obtain ⟨⟨rfl, rfl⟩, rfl⟩ := h
          have hsize : (body.take len).length = len := by
            simp only [HEADER_SIZE, List.length_cons, List.length_append,
              length_packLength] at hlen
            rw [List.length_take]; omega
          refine ⟨⟨by rw [hsize]; omega, by rw [hsize]; exact hlt⟩, ?_⟩
          simp [frameBytes, hsize, MessageType.ofNat_value_of_ofValue? ht']

/-- A whole frame at the front of a buffer is decoded, and the rest is left. -/
theorem decode_frameBytes_append {t : MessageType} {payload : Bytes}
    (hfits : codec.Fits payload) (rest : Bytes) :
    codec.decodeFrameStream (frameBytes t payload ++ rest) =
      .ok (some ((t, payload), rest)) := by
  obtain ⟨hmax, hlt⟩ := hfits
  have hnot : ¬ codec.maxPayloadSize < payload.length := by omega
  have hlen : ¬ (frameBytes t payload ++ rest).length < HEADER_SIZE + payload.length := by
    rw [List.length_append, length_frameBytes]; omega
  have hheader : unpackHeader (frameBytes t payload ++ rest) = some (t.value, payload.length) := by
    rw [frameBytes, List.cons_append, List.append_assoc, unpackHeader_pack t hlt]
  have hbody : (frameBytes t payload ++ rest).drop HEADER_SIZE = payload ++ rest := by
    simp [frameBytes, packLength, HEADER_SIZE]
  simp only [decodeFrameStream]
  rw [hheader]
  simp only [MessageType.ofValue?_value, hnot, if_false, hlen, ← List.drop_drop, hbody,
    List.take_left, List.drop_left]

/-- **The decoder finds a frame exactly when the buffer starts with one.** -/
theorem decodeFrameStream_eq_some {buffer payload rest : Bytes} {t : MessageType} :
    codec.decodeFrameStream buffer = .ok (some ((t, payload), rest)) ↔
      codec.Fits payload ∧ buffer = frameBytes t payload ++ rest := by
  constructor
  · exact codec.eq_frameBytes_of_decode
  · rintro ⟨hfits, rfl⟩
    exact codec.decode_frameBytes_append hfits rest

/-- Two frames at the start of one stream are the same frame. -/
theorem frameBytes_append_inj {t t' : MessageType} {payload payload' rest rest' : Bytes}
    (hlen : payload.length < 2 ^ 32) (hlen' : payload'.length < 2 ^ 32)
    (heq : frameBytes t payload ++ rest = frameBytes t' payload' ++ rest') :
    t = t' ∧ payload = payload' ∧ rest = rest' := by
  -- a codec whose only limit is the length field decodes both
  have hfirst := FrameCodec.decode_frameBytes_append ⟨2 ^ 32⟩ (t := t)
    (⟨by simp only; omega, hlen⟩ : Fits ⟨2 ^ 32⟩ payload) rest
  have hsecond := FrameCodec.decode_frameBytes_append ⟨2 ^ 32⟩ (t := t')
    (⟨by simp only; omega, hlen'⟩ : Fits ⟨2 ^ 32⟩ payload') rest'
  rw [heq, hsecond] at hfirst
  simp only [Except.ok.injEq, Option.some.injEq, Prod.mk.injEq] at hfirst
  obtain ⟨⟨ht, hpayload⟩, hrest⟩ := hfirst
  exact ⟨ht.symm, hpayload.symm, hrest.symm⟩

/-- An error depends only on the header, so it stands in every extension. -/
theorem decodeFrameStream_append_error {buffer : Bytes} {e : PyExc}
    (h : codec.decodeFrameStream buffer = .error e) (more : Bytes) :
    codec.decodeFrameStream (buffer ++ more) = .error e := by
  simp only [decodeFrameStream] at h ⊢
  cases hheader : unpackHeader buffer with
  | none => rw [hheader] at h; simp at h
  | some header =>
    obtain ⟨typeVal, payloadLen⟩ := header
    rw [unpackHeader_append hheader more]
    rw [hheader] at h
    simp only at h ⊢
    cases htype : MessageType.ofValue? typeVal with
    | none => rw [htype] at h; exact h
    | some t =>
      rw [htype] at h
      simp only at h ⊢
      split at h
      · rename_i hmax
        rw [if_pos hmax]; exact h
      · split at h <;> simp at h

theorem decodeFrameStream_incremental : Incremental codec.decodeFrameStream where
  empty := rfl
  progress := by
    rintro buffer ⟨t, payload⟩ rest h
    obtain ⟨_, rfl⟩ := codec.decodeFrameStream_eq_some.mp h
    simp only [List.length_append, length_frameBytes, HEADER_SIZE]
    omega
  extend_frame := by
    rintro buffer ⟨t, payload⟩ rest more h
    obtain ⟨hfits, rfl⟩ := codec.decodeFrameStream_eq_some.mp h
    rw [List.append_assoc]
    exact codec.decode_frameBytes_append hfits _
  extend_error := by
    intro buffer e more h
    exact codec.decodeFrameStream_append_error h more

/-- A proper part of a frame that fits is not decoded: the decoder asks for more. -/
theorem decode_part {t : MessageType} {payload part : Bytes} (hfits : codec.Fits payload)
    (hpart : part <+: frameBytes t payload)
    (hlen : part.length < (frameBytes t payload).length) :
    codec.decodeFrameStream part = .ok none := by
  obtain ⟨tail, htail⟩ := hpart
  have hwhole := codec.decode_frameBytes_append (t := t) hfits []
  rw [List.append_nil, ← htail] at hwhole
  cases hdec : codec.decodeFrameStream part with
  | error e =>
    rw [codec.decodeFrameStream_append_error hdec tail] at hwhole
    simp at hwhole
  | ok answer =>
    cases answer with
    | none => rfl
    | some found =>
      obtain ⟨⟨t', payload'⟩, rest⟩ := found
      -- a frame inside the part would leave the tail over in the whole frame
      rw [codec.decodeFrameStream_incremental.extend_frame tail hdec] at hwhole
      simp only [Except.ok.injEq, Option.some.injEq, Prod.mk.injEq, List.append_eq_nil_iff] at hwhole
      have hnil : tail = [] := hwhole.2.2
      rw [hnil, List.append_nil] at htail
      rw [htail] at hlen
      omega

theorem frame_framing : Framing codec.decodeFrameStream
    (fun frame : MessageType × Bytes => frameBytes frame.1 frame.2)
    (fun frame => codec.Fits frame.2) where
  whole := by
    rintro ⟨t, payload⟩ more hfits
    exact codec.decode_frameBytes_append hfits more
  part := by
    rintro ⟨t, payload⟩ part hfits hpart hlen
    exact codec.decode_part hfits hpart hlen

/-! ### Chunked streams -/

/-- The bytes that `encodeFrame` writes for a list of frames that fit. -/
theorem mapM_encodeFrame {frames : List (MessageType × Bytes)}
    (hfits : ∀ frame ∈ frames, codec.Fits frame.2) :
    frames.mapM (fun frame => codec.encodeFrame frame.1 frame.2) =
      .ok (frames.map fun frame => frameBytes frame.1 frame.2) := by
  induction frames with
  | nil => rfl
  | cons frame frames ih =>
    rw [List.mapM_cons, codec.encodeFrame_of_fits (hfits frame (by simp)),
      ih fun f hf => hfits f (by simp [hf])]
    rfl

/-- **Stream decoding is chunk-invariant and lossless.**  The consumer that appends each
    chunk to its buffer and decodes until it needs more or fails depends only on the
    bytes; encoded frames come back in order with nothing left over, and a stream cut
    at `n` bytes delivers the `k` frames it holds whole. -/
theorem consume_chunk_invariant_lossless :
    (∀ first second : List Bytes, first.flatten = second.flatten →
      consume codec.decodeFrameStream first = consume codec.decodeFrameStream second) ∧
    ∀ frames : List (MessageType × Bytes),
      (∀ frame ∈ frames, (frame.2.length : Int) ≤ min codec.maxPayloadSize (2 ^ 32 - 1)) →
      ∃ encoded : List Bytes,
        frames.mapM (fun frame => codec.encodeFrame frame.1 frame.2) = .ok encoded ∧
        (∀ chunks : List Bytes, chunks.flatten = encoded.flatten →
          consume codec.decodeFrameStream chunks = (frames, .ok [])) ∧
        ∀ (n : Nat) (chunks : List Bytes), n < encoded.flatten.length →
          chunks.flatten = encoded.flatten.take n →
          ∃ k < frames.length,
            (encoded.take k).flatten.length ≤ n ∧ n < (encoded.take (k + 1)).flatten.length ∧
            consume codec.decodeFrameStream chunks =
              (frames.take k,
                .ok ((encoded.flatten.take n).drop (encoded.take k).flatten.length)) := by
  have hinc := codec.decodeFrameStream_incremental
  constructor
  · intro first second heq
    rw [consume_eq_drain hinc, consume_eq_drain hinc, heq]
  intro frames hlen
  have hfits : ∀ frame ∈ frames, codec.Fits frame.2 := by
    intro frame hframe
    have hle := hlen frame hframe
    exact ⟨by omega, by omega⟩
  refine ⟨_, codec.mapM_encodeFrame hfits, ?_, ?_⟩
  · intro chunks heq
    have hall := drain_frames hinc codec.frame_framing frames hfits []
    rw [List.append_nil, drain_nil hinc, List.append_nil] at hall
    rw [consume_eq_drain hinc, heq, ← List.flatMap_def]
    exact hall
  · intro n chunks hn heq
    rw [← List.flatMap_def] at hn heq
    obtain ⟨whole, next, others, rfl, hle, hlt⟩ := exists_whole_part frames n hn
    have htake : (whole ++ next :: others).take (whole.length + 1) = whole ++ [next] := by
      rw [List.take_append, List.take_of_length_le (by omega)]
      simp
    refine ⟨whole.length, by simp, ?_, ?_, ?_⟩
    · rw [← List.map_take, List.take_left, ← List.flatMap_def]
      exact hle
    · rw [← List.map_take, htake, ← List.flatMap_def]
      exact hlt
    · rw [consume_eq_drain hinc, heq, drain_take hinc codec.frame_framing hfits hle hlt,
        ← List.map_take, List.take_left, ← List.flatMap_def, ← List.flatMap_def,
        List.flatMap_append, List.take_append, List.take_of_length_le hle,
        List.drop_left, List.flatMap_cons, List.take_append_of_le_length]
      simp only [List.flatMap_append, List.flatMap_cons, List.flatMap_nil, List.append_nil,
        List.length_append] at hlt
      omega

/-- Two frames, the second cut in its payload, fed byte by byte and then all at once. -/
theorem consume_two_frames_cut :
    consume (FrameCodec.decodeFrameStream {})
        [[2], [0, 0, 0], [], [1, 65], [3, 0, 0, 0, 2, 66]] = ([(.ack, [65])], .ok [3, 0, 0, 0, 2, 66]) ∧
      ∃ k < 2, consume (FrameCodec.decodeFrameStream {}) [[2, 0, 0, 0, 1, 65, 3, 0, 0, 0, 2, 66]] =
        ([(.ack, [65]), (.nack, [66, 67])].take k, .ok [3, 0, 0, 0, 2, 66]) := by
  have hinv := consume_chunk_invariant_lossless {}
  have hsplit := hinv.1 [[2], [0, 0, 0], [], [1, 65], [3, 0, 0, 0, 2, 66]]
    [[2, 0, 0, 0, 1, 65, 3, 0, 0, 0, 2, 66]] (by decide)
  obtain ⟨encoded, henc, _, hcut⟩ := hinv.2 [(.ack, [65]), (.nack, [66, 67])] (by decide)
  obtain rfl : [[2, 0, 0, 0, 1, 65], [3, 0, 0, 0, 2, 66, 67]] = encoded :=
    Except.ok.inj henc
  obtain ⟨k, hk, hle, hlt, hres⟩ := hcut 12 [[2, 0, 0, 0, 1, 65, 3, 0, 0, 0, 2, 66]]
    (by decide) (by decide)
  obtain rfl : k = 1 := by
    simp only [List.length_cons, List.length_nil] at hk
    interval_cases k
    · simp at hlt
    · rfl
  exact ⟨hsplit.trans hres, 1, by decide, hres⟩

end FrameCodec

end QsTie
