import QsTie.Common.FrameCodec

/-!
# The grammar of a frame

`decode_frame` wants exactly one frame.  A string of at least five bytes is read
by its header: the type byte first, then the declared length against the limit,
then the length of the body.  `decodeFrameStream_header` and `decodeFrame_header`
say so in one equation each; the grammar and the order of the error classes are
read off them.
-/

namespace QsTie

namespace FrameCodec

variable (codec : FrameCodec)

/-- Five bytes or more: the type byte, the declared length and what follows the header. -/
def Header (data : Bytes) (typeByte : UInt8) (declared : Nat) (body : Bytes) : Prop :=
  ∃ a b c d, data = typeByte :: a :: b :: c :: d :: body ∧ declared = unpackLength a b c d

theorem short_or_header (data : Bytes) :
    data.length < HEADER_SIZE ∨ ∃ typeByte declared body, Header data typeByte declared body := by
  match data with
  | [] | [_] | [_, _] | [_, _, _] | [_, _, _, _] => left; simp [HEADER_SIZE]
  | t :: a :: b :: c :: d :: body => right; exact ⟨t, _, body, a, b, c, d, rfl, rfl⟩

theorem Header.length {data body : Bytes} {typeByte : UInt8} {declared : Nat}
    (h : Header data typeByte declared body) : data.length = HEADER_SIZE + body.length := by
  obtain ⟨a, b, c, d, rfl, _⟩ := h
  simp only [List.length_cons, HEADER_SIZE]
  omega

theorem Header.unique {data body body' : Bytes} {typeByte typeByte' : UInt8}
    {declared declared' : Nat} (h : Header data typeByte declared body)
    (h' : Header data typeByte' declared' body') :
    typeByte = typeByte' ∧ declared = declared' ∧ body = body' := by
  obtain ⟨a, b, c, d, rfl, rfl⟩ := h
  obtain ⟨a', b', c', d', heq, rfl⟩ := h'
  simp only [List.cons.injEq] at heq
  obtain ⟨rfl, rfl, rfl, rfl, rfl, rfl⟩ := heq
  exact ⟨rfl, rfl, rfl⟩

/-- The bytes of a frame are a header that declares the length of its body. -/
theorem header_frameBytes (t : MessageType) {payload : Bytes} (hlen : payload.length < 2 ^ 32) :
    Header (frameBytes t payload) (UInt8.ofNat t.value) payload.length payload := by
  have hheader := unpackHeader_pack t hlen payload
  simp only [packLength, List.cons_append, List.nil_append, unpackHeader, Option.some.injEq,
    Prod.mk.injEq] at hheader
  exact ⟨_, _, _, _, rfl, hheader.2.symm⟩

theorem eq_frameBytes_of_header {data body : Bytes} {t : MessageType} {typeByte : UInt8}
    (h : Header data typeByte body.length body)
    (htype : MessageType.ofValue? typeByte.toNat = some t) : data = frameBytes t body := by
  obtain ⟨a, b, c, d, rfl, hlen⟩ := h
  rw [frameBytes, hlen, packLength_unpackLength, MessageType.ofNat_value_of_ofValue? htype]
  rfl

theorem decodeFrameStream_of_short {data : Bytes} (h : data.length < HEADER_SIZE) :
    codec.decodeFrameStream data = .ok none := by
  have hheader : unpackHeader data = none := by
    match data with
    | [] | [_] | [_, _] | [_, _, _] | [_, _, _, _] => rfl
    | _ :: _ :: _ :: _ :: _ :: _ => simp only [List.length_cons, HEADER_SIZE] at h; omega
  simp only [decodeFrameStream, hheader]

/-- What the stream decoder makes of a buffer with a header, in the order of its checks. -/
theorem decodeFrameStream_header {data body : Bytes} {typeByte : UInt8} {declared : Nat}
    (h : Header data typeByte declared body) :
    codec.decodeFrameStream data =
      match MessageType.ofValue? typeByte.toNat with
      | none =>
        .error ⟨.invalidMessageTypeError, s!"Unknown message type: {typeByte.toNat}"⟩
      | some t =>
        if codec.maxPayloadSize < declared then
          .error ⟨.oversizedFrameError,
            s!"Declared payload length {declared} exceeds maximum {codec.maxPayloadSize}"⟩
        else if body.length < declared then .ok none
        else .ok (some ((t, body.take declared), body.drop declared)) := by
  have hsize := h.length
  obtain ⟨a, b, c, d, rfl, rfl⟩ := h
  simp only [decodeFrameStream, unpackHeader, hsize, Nat.add_lt_add_iff_left, ← List.drop_drop]
  rfl

theorem decodeFrame_of_short {data : Bytes} (h : data.length < HEADER_SIZE) :
    codec.decodeFrame data = .error ⟨.malformedFrameError, "Incomplete frame data."⟩ := by
  simp only [decodeFrame, codec.decodeFrameStream_of_short h]

/-- What `decode_frame` makes of a string with a header. -/
theorem decodeFrame_header {data body : Bytes} {typeByte : UInt8} {declared : Nat}
    (h : Header data typeByte declared body) :
    codec.decodeFrame data =
      match MessageType.ofValue? typeByte.toNat with
      | none =>
        .error ⟨.invalidMessageTypeError, s!"Unknown message type: {typeByte.toNat}"⟩
      | some t =>
        if codec.maxPayloadSize < declared then
          .error ⟨.oversizedFrameError,
            s!"Declared payload length {declared} exceeds maximum {codec.maxPayloadSize}"⟩
        else if body.length < declared then
          .error ⟨.malformedFrameError, "Incomplete frame data."⟩
        else if declared < body.length then
          .error ⟨.malformedFrameError, "Trailing data after frame."⟩
        else .ok (t, body) := by
  simp only [decodeFrame, codec.decodeFrameStream_header h]
  cases MessageType.ofValue? typeByte.toNat with
  | none => rfl
  | some t =>
    simp only
    by_cases hmax : codec.maxPayloadSize < declared
    · simp only [hmax, if_true]
    · by_cases hpart : body.length < declared
      · simp only [hmax, hpart, if_false, if_true]
      · simp only [hmax, hpart, if_false, List.length_drop]
        by_cases htrail : declared < body.length
        · rw [if_pos (by omega), if_pos htrail]
        · rw [if_neg (by omega), if_neg htrail, List.take_of_length_le (by omega)]

/-! ### Accepted strings and error classes -/

theorem decodeFrame_eq_ok {data payload : Bytes} {t : MessageType} :
    codec.decodeFrame data = .ok (t, payload) ↔
      (payload.length : Int) ≤ codec.maxPayloadSize ∧ payload.length < 2 ^ 32 ∧
        data = frameBytes t payload := by
  constructor
  · intro h
    rcases short_or_header data with hshort | ⟨typeByte, declared, body, hheader⟩
    · rw [codec.decodeFrame_of_short hshort] at h
      simp at h
    · rw [codec.decodeFrame_header hheader] at h
      split at h
      · simp at h
      · rename_i t' htype
        split at h
        · simp at h
        · split at h
          · simp at h
          · split at h
            · simp at h
            · rename_i hmax hpart htrail
              obtain ⟨rfl, rfl⟩ : t' = t ∧ body = payload := by simpa using h
              obtain rfl : declared = body.length := by omega
              have hlt : body.length < 2 ^ 32 := by
                obtain ⟨a, b, c, d, _, hlen⟩ := hheader
                rw [hlen]
                exact unpackLength_lt a b c d
              exact ⟨by omega, hlt, eq_frameBytes_of_header hheader htype⟩
  · rintro ⟨hmax, hlt, rfl⟩
    have htype : (UInt8.ofNat t.value).toNat = t.value := by
      have hvalue := t.value_lt
      rw [UInt8.toNat_ofNat']
      omega
    have hfits : ¬ codec.maxPayloadSize < payload.length := by omega
    rw [codec.decodeFrame_header (header_frameBytes t hlt), htype, MessageType.ofValue?_value]
    simp only [hfits, if_false, Nat.lt_irrefl]

/-- The unknown type byte comes before everything else. -/
theorem decodeFrame_invalidType {data : Bytes} :
    (∃ msg, codec.decodeFrame data = .error ⟨.invalidMessageTypeError, msg⟩) ↔
      ∃ typeByte declared body, Header data typeByte declared body ∧
        MessageType.ofValue? typeByte.toNat = none := by
  constructor
  · rintro ⟨msg, h⟩
    rcases short_or_header data with hshort | ⟨typeByte, declared, body, hheader⟩
    · rw [codec.decodeFrame_of_short hshort] at h
      simp at h
    · refine ⟨typeByte, declared, body, hheader, ?_⟩
      rw [codec.decodeFrame_header hheader] at h
      split at h
      · assumption
      · repeat' split at h
        all_goals simp at h
  · rintro ⟨typeByte, declared, body, hheader, htype⟩
    rw [codec.decodeFrame_header hheader, htype]
    exact ⟨_, rfl⟩

/-- The declared length is held against the limit before the body is looked at. -/
theorem decodeFrame_oversized {data : Bytes} :
    (∃ msg, codec.decodeFrame data = .error ⟨.oversizedFrameError, msg⟩) ↔
      ∃ typeByte declared body t, Header data typeByte declared body ∧
        MessageType.ofValue? typeByte.toNat = some t ∧ codec.maxPayloadSize < declared := by
  constructor
  · rintro ⟨msg, h⟩
    rcases short_or_header data with hshort | ⟨typeByte, declared, body, hheader⟩
    · rw [codec.decodeFrame_of_short hshort] at h
      simp at h
    · rw [codec.decodeFrame_header hheader] at h
      split at h
      · simp at h
      · rename_i t htype
        split at h
        · rename_i hmax
          exact ⟨typeByte, declared, body, t, hheader, htype, hmax⟩
        · repeat' split at h
          all_goals simp at h
  · rintro ⟨typeByte, declared, body, t, hheader, htype, hmax⟩
    rw [codec.decodeFrame_header hheader, htype]
    simp only [hmax, if_true]
    exact ⟨_, rfl⟩

/-- The remaining failures: no header, or a body that is not of the declared length. -/
theorem decodeFrame_malformed {data : Bytes} :
    (∃ msg, codec.decodeFrame data = .error ⟨.malformedFrameError, msg⟩) ↔
      data.length < HEADER_SIZE ∨
      ∃ typeByte declared body t, Header data typeByte declared body ∧
        MessageType.ofValue? typeByte.toNat = some t ∧ declared ≤ codec.maxPayloadSize ∧
        body.length ≠ declared := by
  constructor
  · rintro ⟨msg, h⟩
    rcases short_or_header data with hshort | ⟨typeByte, declared, body, hheader⟩
    · left; exact hshort
    · right
      rw [codec.decodeFrame_header hheader] at h
      split at h
      · simp at h
      · rename_i t htype
        split at h
        · simp at h
        · rename_i hmax
          refine ⟨typeByte, declared, body, t, hheader, htype, by omega, ?_⟩
          intro hlen
          simp [hlen] at h
  · rintro (hshort | ⟨typeByte, declared, body, t, hheader, htype, hmax, hlen⟩)
    · exact ⟨_, codec.decodeFrame_of_short hshort⟩
    · have hfits : ¬ codec.maxPayloadSize < declared := by omega
      rw [codec.decodeFrame_header hheader, htype]
      simp only [hfits, if_false]
      by_cases hpart : body.length < declared
      · rw [if_pos hpart]; exact ⟨_, rfl⟩
      · rw [if_neg hpart, if_pos (by omega)]; exact ⟨_, rfl⟩

theorem decodeFrame_error_class {data : Bytes} {e : PyExc} (h : codec.decodeFrame data = .error e) :
    e.cls = .invalidMessageTypeError ∨ e.cls = .oversizedFrameError ∨
      e.cls = .malformedFrameError := by
  rcases short_or_header data with hshort | ⟨typeByte, declared, body, hheader⟩
  · rw [codec.decodeFrame_of_short hshort] at h
    obtain rfl := Except.error.inj h
    right; right; rfl
  · rw [codec.decodeFrame_header hheader] at h
    repeat' split at h
    all_goals simp only [Except.error.injEq, reduceCtorEq] at h
    all_goals subst h; simp

theorem encodeFrame_oversized {t : MessageType} {payload : Bytes} :
    (∃ msg, codec.encodeFrame t payload = .error ⟨.oversizedFrameError, msg⟩) ↔
      codec.maxPayloadSize < payload.length := by
  simp only [encodeFrame, packHeader]
  by_cases hmax : codec.maxPayloadSize < payload.length
  · simp only [hmax, if_true, iff_true]
    exact ⟨_, rfl⟩
  · simp only [hmax, if_false, iff_false]
    rintro ⟨msg, h⟩
    by_cases hlt : payload.length < 2 ^ 32
    · rw [if_pos hlt] at h
      simp at h
    · rw [if_neg hlt] at h
      simp at h

/-- **The decoder accepts exactly the frame grammar**, and the class of the error says
    which part of it a string misses. -/
theorem decodeFrame_grammar :
    (∀ data t payload, codec.decodeFrame data = .ok (t, payload) ↔
      (payload.length : Int) ≤ codec.maxPayloadSize ∧ payload.length < 2 ^ 32 ∧
        codec.encodeFrame t payload = .ok data) ∧
    (∀ t payload data, codec.encodeFrame t payload = .ok data →
      data = UInt8.ofNat t.value :: (packLength payload.length ++ payload)) ∧
    (∀ data data' frame, codec.decodeFrame data = .ok frame → codec.decodeFrame data' = .ok frame →
      data = data') ∧
    (∀ data e, codec.decodeFrame data = .error e →
      e.cls = .invalidMessageTypeError ∨ e.cls = .oversizedFrameError ∨
        e.cls = .malformedFrameError) ∧
    (∀ data, (∃ msg, codec.decodeFrame data = .error ⟨.invalidMessageTypeError, msg⟩) ↔
      ∃ typeByte declared body, Header data typeByte declared body ∧
        MessageType.ofValue? typeByte.toNat = none) ∧
    (∀ data, (∃ msg, codec.decodeFrame data = .error ⟨.oversizedFrameError, msg⟩) ↔
      ∃ typeByte declared body t, Header data typeByte declared body ∧
        MessageType.ofValue? typeByte.toNat = some t ∧ codec.maxPayloadSize < declared) ∧
    (∀ data, (∃ msg, codec.decodeFrame data = .error ⟨.malformedFrameError, msg⟩) ↔
      data.length < HEADER_SIZE ∨
      ∃ typeByte declared body t, Header data typeByte declared body ∧
        MessageType.ofValue? typeByte.toNat = some t ∧ declared ≤ codec.maxPayloadSize ∧
        body.length ≠ declared) ∧
    (∀ t payload, (∃ msg, codec.encodeFrame t payload = .error ⟨.oversizedFrameError, msg⟩) ↔
      codec.maxPayloadSize < payload.length) := by
  have hok : ∀ data t payload, codec.decodeFrame data = .ok (t, payload) ↔
      (payload.length : Int) ≤ codec.maxPayloadSize ∧ payload.length < 2 ^ 32 ∧
        codec.encodeFrame t payload = .ok data := by
    intro data t payload
    rw [codec.decodeFrame_eq_ok, codec.encodeFrame_eq_ok]
    constructor
    · rintro ⟨hmax, hlt, hdata⟩; exact ⟨hmax, hlt, ⟨hmax, hlt⟩, hdata⟩
    · rintro ⟨hmax, hlt, _, hdata⟩; exact ⟨hmax, hlt, hdata⟩
  refine ⟨hok, ?_, ?_, fun _ _ => codec.decodeFrame_error_class,
    fun _ => codec.decodeFrame_invalidType, fun _ => codec.decodeFrame_oversized,
    fun _ => codec.decodeFrame_malformed, fun _ _ => codec.encodeFrame_oversized⟩
  · intro t payload data h
    exact (codec.encodeFrame_eq_ok.mp h).2
  · rintro data data' ⟨t, payload⟩ h h'
    have hsame := ((hok data t payload).mp h).2.2.symm.trans ((hok data' t payload).mp h').2.2
    exact Except.ok.inj hsame

end FrameCodec

end QsTie
