import Mathlib.Data.List.Basic

/-!
# Incremental decoding of a stream

A one-frame decoder looks at a buffer and asks for more, fails, or splits off
one frame.  The consumer of a stream appends each chunk it receives to its
buffer and decodes until the decoder asks for more or fails.

`Incremental` states what makes the consumer independent of the chunking: a
frame or an error found in a buffer is found, unchanged, in every extension of
the buffer.  Under it `feed_eq_drain` reduces any sequence of chunks to one
decoding of their concatenation.
-/

namespace QsTie.Lib

variable {β F E : Type}

/-- The decoder's answer: an error, "more bytes needed", or a frame and what follows it. -/
abbrev Decoder (β F E : Type) := List β → Except E (Option (F × List β))

/-- Decode frames off the front of a buffer until the decoder asks for more or fails.
    Each frame costs one unit of `fuel`. -/
def drainFuel (decode : Decoder β F E) : Nat → List β → List F × Except E (List β)
  | 0, buffer => ([], .ok buffer)
  | fuel + 1, buffer =>
    match decode buffer with
    | .error e => ([], .error e)
    | .ok none => ([], .ok buffer)
    | .ok (some (frame, rest)) =>
      (frame :: (drainFuel decode fuel rest).1, (drainFuel decode fuel rest).2)

/-- The inner loop of the consumer.  A buffer of `n` bytes holds at most `n` frames. -/
def drain (decode : Decoder β F E) (buffer : List β) : List F × Except E (List β) :=
  drainFuel decode (buffer.length + 1) buffer

/-- The consumer's state: the frames delivered, and the residual buffer or the error. -/
abbrev Consumer (β F E : Type) := List F × Except E (List β)

/-- One received chunk.  After an error the consumer has stopped. -/
def feed (decode : Decoder β F E) (s : Consumer β F E) (chunk : List β) : Consumer β F E :=
  match s.2 with
  | .error e => (s.1, .error e)
  | .ok buffer =>
    (s.1 ++ (drain decode (buffer ++ chunk)).1, (drain decode (buffer ++ chunk)).2)

/-- The consumer over a whole sequence of chunks, from the empty buffer. -/
def consume (decode : Decoder β F E) (chunks : List (List β)) : Consumer β F E :=
  chunks.foldl (feed decode) ([], .ok [])

/-- What makes a decoder safe to use incrementally. -/
structure Incremental (decode : Decoder β F E) : Prop where
  empty : decode [] = .ok none
  progress : ∀ {buffer frame rest}, decode buffer = .ok (some (frame, rest)) →
    rest.length < buffer.length
  extend_frame : ∀ {buffer frame rest} (more : List β),
    decode buffer = .ok (some (frame, rest)) →
    decode (buffer ++ more) = .ok (some (frame, rest ++ more))
  extend_error : ∀ {buffer e} (more : List β), decode buffer = .error e →
    decode (buffer ++ more) = .error e

section Incremental

variable {decode : Decoder β F E}

theorem drainFuel_of_lt (hd : Incremental decode) {n m : Nat} {buffer : List β}
    (hn : buffer.length < n) (hm : buffer.length < m) :
    drainFuel decode n buffer = drainFuel decode m buffer := by
  induction n generalizing m buffer with
  | zero => omega
  | succ n ih =>
    cases m with
    | zero => omega
    | succ m =>
      simp only [drainFuel]
      split
      · rfl
      · rfl
      · rename_i frame rest heq
        have hlt := hd.progress heq
        rw [ih (m := m) (by omega) (by omega)]

/-- One turn of the inner loop. -/
theorem drain_eq (hd : Incremental decode) (buffer : List β) :
    drain decode buffer =
      match decode buffer with
      | .error e => ([], .error e)
      | .ok none => ([], .ok buffer)
      | .ok (some (frame, rest)) =>
        (frame :: (drain decode rest).1, (drain decode rest).2) := by
  rw [drain, drainFuel]
  split
  · rfl
  · rfl
  · rename_i frame rest heq
    have hlt := hd.progress heq
    simp only [drain]
    rw [drainFuel_of_lt hd (n := buffer.length) (m := rest.length + 1) (by omega) (by omega)]

theorem drain_nil (hd : Incremental decode) : drain decode [] = ([], .ok []) := by
  rw [drain_eq hd, hd.empty]

/-- Decoding a longer buffer is decoding the shorter one and then what it left over. -/
theorem drain_append (hd : Incremental decode) (buffer more : List β) :
    drain decode (buffer ++ more) = feed decode (drain decode buffer) more := by
  -- on the length of the buffer: a frame found in it is found in the longer one too
  induction hlen : buffer.length using Nat.strongRecOn generalizing buffer with
  | ind n ih =>
    subst hlen
    rw [drain_eq hd buffer]
    cases hdec : decode buffer with
    | error e => rw [drain_eq hd, hd.extend_error more hdec]; rfl
    | ok answer =>
      cases answer with
      | none => simp [feed]
      | some found =>
        obtain ⟨frame, rest⟩ := found
        rw [drain_eq hd, hd.extend_frame more hdec]
        simp only
        rw [ih rest.length (hd.progress hdec) rest rfl]
        cases hrest : (drain decode rest).2 with
        | error e => simp [feed, hrest]
        | ok left => simp [feed, hrest]

theorem feed_foldl_eq (hd : Incremental decode) (seen : List β) (chunks : List (List β)) :
    chunks.foldl (feed decode) (drain decode seen) =
      drain decode (seen ++ chunks.flatten) := by
  induction chunks generalizing seen with
  | nil => simp
  | cons chunk chunks ih =>
    rw [List.foldl_cons, ← drain_append hd, ih, List.flatten_cons, List.append_assoc]

/-- **Chunk invariance.**  The consumer delivers what one decoding of the whole
    stream delivers. -/
theorem consume_eq_drain (hd : Incremental decode) (chunks : List (List β)) :
    consume decode chunks = drain decode chunks.flatten := by
  have h := feed_foldl_eq hd [] chunks
  rwa [drain_nil hd] at h

end Incremental

/-! ### Encoded frames -/

/-- `encode` writes frames the decoder reads back: whole ones exactly, and no frame
    out of a proper part of one. -/
structure Framing (decode : Decoder β F E) (encode : F → List β) (good : F → Prop) : Prop where
  whole : ∀ {frame} (more : List β), good frame →
    decode (encode frame ++ more) = .ok (some (frame, more))
  part : ∀ {frame part}, good frame → part <+: encode frame →
    part.length < (encode frame).length → decode part = .ok none

section Framing

variable {decode : Decoder β F E} {encode : F → List β} {good : F → Prop}

theorem drain_frames (hd : Incremental decode) (hf : Framing decode encode good)
    (frames : List F) (hgood : ∀ f ∈ frames, good f) (more : List β) :
    drain decode (frames.flatMap encode ++ more) =
      (frames ++ (drain decode more).1, (drain decode more).2) := by
  induction frames with
  | nil => simp
  | cons frame frames ih =>
    rw [List.flatMap_cons, List.append_assoc, drain_eq hd,
      hf.whole _ (hgood frame (by simp))]
    simp only
    rw [ih fun f hf => hgood f (by simp [hf])]
    rfl

/-- The first `n` bytes of encoded frames hold some leading frames whole and a proper
    part of the next one. -/
theorem exists_whole_part (frames : List F) (n : Nat)
    (hn : n < (frames.flatMap encode).length) :
    ∃ whole next others, frames = whole ++ next :: others ∧
      (whole.flatMap encode).length ≤ n ∧
      n < ((whole ++ [next]).flatMap encode).length := by
  induction frames generalizing n with
  | nil => simp at hn
  | cons frame frames ih =>
    by_cases hlt : n < (encode frame).length
    · exact ⟨[], frame, frames, by simp, by simp, by simpa using hlt⟩
    · simp only [List.flatMap_cons, List.length_append] at hn
      obtain ⟨whole, next, others, heq, hle, hlt'⟩ :=
        ih (n - (encode frame).length) (by omega)
      refine ⟨frame :: whole, next, others, by simp [heq], ?_, ?_⟩
      · simp only [List.flatMap_cons, List.length_append]; omega
      · simp only [List.cons_append, List.flatMap_cons, List.length_append] at hlt' ⊢
        omega

/-- What a cut stream delivers: exactly the frames it holds whole. -/
theorem drain_take (hd : Incremental decode) (hf : Framing decode encode good)
    {whole others : List F} {next : F} {n : Nat}
    (hgood : ∀ f ∈ whole ++ next :: others, good f)
    (hle : (whole.flatMap encode).length ≤ n)
    (hlt : n < ((whole ++ [next]).flatMap encode).length) :
    drain decode (((whole ++ next :: others).flatMap encode).take n) =
      (whole, .ok (((encode next).take (n - (whole.flatMap encode).length)))) := by
  have hpart : n - (whole.flatMap encode).length < (encode next).length := by
    simp only [List.flatMap_append, List.flatMap_cons, List.flatMap_nil, List.length_append,
      List.append_nil] at hlt
    omega
  have htake : ((whole ++ next :: others).flatMap encode).take n =
      whole.flatMap encode ++ (encode next).take (n - (whole.flatMap encode).length) := by
    rw [List.flatMap_append, List.take_append, List.take_of_length_le hle,
      List.flatMap_cons, List.take_append_of_le_length (by omega)]
  have hnone : decode ((encode next).take (n - (whole.flatMap encode).length)) = .ok none :=
    hf.part (hgood next (by simp)) (List.take_prefix _ _)
      (by rw [List.length_take]; omega)
  rw [htake, drain_frames hd hf whole fun f hfm => hgood f (by simp [hfm]),
    drain_eq hd, hnone]
  simp

end Framing

end QsTie.Lib
