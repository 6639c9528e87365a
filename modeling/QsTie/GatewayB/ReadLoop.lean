import QsTie.Common.FrameGrammar
import QsTie.GatewayB.Outcome
import QsTie.Lib.Transition

/-!
# The read loop, one read at a time

`ReadLoop` is the loop of `handle_connection` between two reads: what is buffered,
what of the stream is still to come, the reads so far and, once the loop is left,
what it stopped at.  A step is one `reader.read(4096)`, of any size the transport
chooses; an empty read is the end of the stream.

While the loop is open its buffer holds no frame and no bad header, so it is
shorter than the largest frame (`length_of_open`) and, when the stream starts with
a bad header, shorter than a header (`length_of_badHeader`).  One read more adds at
most 4096 bytes.  Every read but the last takes at least one byte off the stream.
-/

namespace QsTie.GatewayB

open QsTie.Lib

structure ReadLoop where
  buffer : Bytes
  left : Bytes
  taken : List Bytes
  stop : Option ReadEnd

namespace ReadLoop

def start (stream : Bytes) : ReadLoop := ⟨[], stream, [], none⟩

/-- What a read of `n` bytes may return: at most 4096 of the bytes to come, none of them only
    at the end. -/
def Readable (left : Bytes) (n : Nat) : Prop :=
  n ≤ 4096 ∧ n ≤ left.length ∧ (n = 0 → left = [])

instance (left : Bytes) (n : Nat) : Decidable (Readable left n) :=
  inferInstanceAs (Decidable (_ ∧ _ ∧ (_ → _)))

/-- What the loop body leaves the loop with, if it does. -/
def stopOf (buffer data : Bytes) : Option ReadEnd :=
  match readStep buffer data with
  | .inl _ => none
  | .inr stop => some stop

/-- One round of the loop, with a read of `n` bytes. -/
def step (s : ReadLoop) (n : Nat) : Option ReadLoop :=
  if s.stop.isNone && decide (Readable s.left n) then
    some { buffer := s.buffer ++ s.left.take n
           left := s.left.drop n
           taken := s.taken ++ [s.left.take n]
           stop := stopOf s.buffer (s.left.take n) }
  else none

/-- The loops a connection with this stream can be in. -/
def Reached (stream : Bytes) : ReadLoop → Prop := Reach step anyStep (start stream)

theorem step_eq_some {s s' : ReadLoop} {n : Nat} (h : step s n = some s') :
    s.stop = none ∧ Readable s.left n ∧
      s' = { buffer := s.buffer ++ s.left.take n
             left := s.left.drop n
             taken := s.taken ++ [s.left.take n]
             stop := stopOf s.buffer (s.left.take n) } := by
  unfold step at h
  split at h
  · rename_i hcond
    simp only [Bool.and_eq_true, Option.isNone_iff_eq_none, decide_eq_true_eq] at hcond
    exact ⟨hcond.1, hcond.2, (Option.some.inj h).symm⟩
  · simp at h

theorem stopOf_eq_none {buffer data : Bytes} (h : stopOf buffer data = none) :
    data ≠ [] ∧ frameCodec.decodeFrameStream (buffer ++ data) = .ok none := by
  unfold stopOf at h
  split at h
  · rename_i longer hstep
    obtain ⟨hne, hdecode, -⟩ := readStep_eq_inl.mp hstep
    exact ⟨hne, hdecode⟩
  · simp at h

/-- The read loop goes on behind an open round, and ends with a closing one. -/
theorem readFrame_cons {buffer data : Bytes} (reads : List Bytes) :
    readFrame buffer (data :: reads) =
      (stopOf buffer data).getD (readFrame (buffer ++ data) reads) := by
  rw [readFrame, stopOf]
  cases hstep : readStep buffer data with
  | inr stop => rfl
  | inl longer =>
    obtain ⟨-, -, rfl⟩ := readStep_eq_inl.mp hstep
    rfl

/-! ### What holds between two reads -/

/-- The reads and the bytes to come make up the stream, the buffer holds the reads, and the
    loop is left where `readFrame` stops. -/
structure Consistent (stream : Bytes) (s : ReadLoop) : Prop where
  stream_eq : s.taken.flatten ++ s.left = stream
  buffer_eq : s.buffer = s.taken.flatten
  undecided : s.stop = none → frameCodec.decodeFrameStream s.buffer = .ok none
  goes_on : s.stop = none → ∀ more, readFrame [] (s.taken ++ more) = readFrame s.buffer more
  stopped : ∀ stop, s.stop = some stop → readFrame [] s.taken = stop

theorem Consistent.start (stream : Bytes) : Consistent stream (start stream) where
  stream_eq := rfl
  buffer_eq := rfl
  undecided := fun _ => rfl
  goes_on := fun _ _ => rfl
  stopped := by simp [ReadLoop.start]

theorem Consistent.step {stream : Bytes} {s s' : ReadLoop} {n : Nat} (h : Consistent stream s)
    (hstep : s.step n = some s') : Consistent stream s' := by
  obtain ⟨hopen, -, rfl⟩ := step_eq_some hstep
  constructor
  · simpa using h.stream_eq
  · simp [h.buffer_eq]
  · intro hstop
    exact (stopOf_eq_none hstop).2
  · intro hstop more
    simp only at hstop
    rw [List.append_assoc, h.goes_on hopen, List.singleton_append, readFrame_cons, hstop]
    rfl
  · intro stop hstop
    simp only at hstop
    rw [h.goes_on hopen, readFrame_cons, hstop]
    rfl

theorem Reached.consistent {stream : Bytes} {s : ReadLoop} (h : Reached stream s) :
    Consistent stream s :=
  Reach.invariant h (Consistent.start stream) fun hs _ hstep => hs.step hstep

theorem Consistent.buffer_starts {stream : Bytes} {s : ReadLoop} (h : Consistent stream s) :
    s.buffer <+: stream := by
  rw [h.buffer_eq, ← h.stream_eq]
  exact List.prefix_append _ _

/-! ### The buffer -/

/-- A buffer the decoder cannot decide is shorter than the largest frame. -/
theorem length_of_open {buffer : Bytes}
    (h : frameCodec.decodeFrameStream buffer = .ok none) :
    (buffer.length : Int) < HEADER_SIZE + frameCodec.maxPayloadSize := by
  have hmax : (0 : Int) < frameCodec.maxPayloadSize := by decide
  rcases FrameCodec.short_or_header buffer with hshort | ⟨typeByte, declared, body, hheader⟩
  · omega
  · have hlen := hheader.length
    rw [frameCodec.decodeFrameStream_header hheader] at h
    split at h
    · simp at h
    · split at h
      · simp at h
      · split at h
        · omega
        · simp at h

/-- The stream starts with five bytes that carry an unknown type or too large a length. -/
def BadHeader (stream : Bytes) : Prop :=
  ∃ typeByte declared body, FrameCodec.Header stream typeByte declared body ∧
    (MessageType.ofValue? typeByte.toNat = none ∨ frameCodec.maxPayloadSize < declared)

theorem BadHeader.error {stream : Bytes} (h : BadHeader stream) :
    ∃ e, frameCodec.decodeFrameStream stream = .error e := by
  obtain ⟨typeByte, declared, body, hheader, hbad⟩ := h
  rw [frameCodec.decodeFrameStream_header hheader]
  split
  · exact ⟨_, rfl⟩
  · rename_i t htype
    rcases hbad with hbad | hbad
    · rw [htype] at hbad
      simp at hbad
    · rw [if_pos hbad]
      exact ⟨_, rfl⟩

/-- The header of a stream is the header of a prefix that has five bytes. -/
theorem BadHeader.of_starts {buffer stream : Bytes} (h : BadHeader stream)
    (hstarts : buffer <+: stream) (hlen : HEADER_SIZE ≤ buffer.length) : BadHeader buffer := by
  obtain ⟨typeByte, declared, body, hheader, hbad⟩ := h
  rcases FrameCodec.short_or_header buffer with hshort | ⟨t, n, rest, a, b, c, d, rfl, rfl⟩
  · omega
  · obtain ⟨more, rfl⟩ := hstarts
    have hsame : FrameCodec.Header (t :: a :: b :: c :: d :: rest ++ more) t
        (unpackLength a b c d) (rest ++ more) := ⟨a, b, c, d, rfl, rfl⟩
    obtain ⟨rfl, rfl, rfl⟩ := hheader.unique hsame
    exact ⟨typeByte, _, rest, ⟨a, b, c, d, rfl, rfl⟩, hbad⟩

/-- Behind a bad header an undecided buffer is shorter than a header. -/
theorem length_of_badHeader {buffer stream : Bytes} (hbad : BadHeader stream)
    (hstarts : buffer <+: stream) (h : frameCodec.decodeFrameStream buffer = .ok none) :
    buffer.length < HEADER_SIZE := by
  by_contra hlong
  obtain ⟨e, he⟩ := (hbad.of_starts hstarts (by omega)).error
  rw [he] at h
  simp at h

/-- One read more than an open buffer of less than `bound` bytes. -/
theorem Reached.buffer_le {stream : Bytes} {s : ReadLoop} (hreach : Reached stream s) {bound : Int}
    (hpos : 0 < bound)
    (hopen : ∀ s, Reached stream s → s.stop = none → (s.buffer.length : Int) < bound) :
    (s.buffer.length : Int) ≤ bound + 4095 := by
  cases hreach with
  | start => simp only [ReadLoop.start, List.length_nil]; omega
  | next before _ hstep =>
    obtain ⟨hstop, hread, rfl⟩ := step_eq_some hstep
    have hbefore := hopen _ before hstop
    have hsize := hread.1
    simp only [List.length_append, List.length_take]
    omega

theorem Reached.length_le {stream : Bytes} {s : ReadLoop} (h : Reached stream s) :
    (s.buffer.length : Int) ≤ HEADER_SIZE + frameCodec.maxPayloadSize + 4095 := by
  refine h.buffer_le (by decide) ?_
  intro s hs hstop
  exact length_of_open (hs.consistent.undecided hstop)

theorem Reached.length_le_of_badHeader {stream : Bytes} {s : ReadLoop} (h : Reached stream s)
    (hbad : BadHeader stream) : s.buffer.length ≤ 4100 := by
  have hle : (s.buffer.length : Int) ≤ HEADER_SIZE + 4095 := by
    refine h.buffer_le (by decide) ?_
    intro s hs hstop
    have hshort := length_of_badHeader hbad hs.consistent.buffer_starts (hs.consistent.undecided hstop)
    omega
  simp only [HEADER_SIZE] at hle
  omega

/-! ### The end of the loop -/

/-- The three ways out of the loop. -/
theorem stopOf_eq_some {buffer data : Bytes} {stop : ReadEnd}
    (h : stopOf buffer data = some stop) :
    data = [] ∧ stop = .eof ∨
    (∃ e, frameCodec.decodeFrameStream (buffer ++ data) = .error e ∧ stop = .frameError e) ∨
    ∃ found, frameCodec.decodeFrameStream (buffer ++ data) = .ok (some found) := by
  unfold stopOf at h
  split at h
  · simp at h
  · rename_i stop' hstep
    obtain rfl := Option.some.inj h
    unfold readStep at hstep
    split at hstep
    · rename_i hempty
      obtain rfl := Sum.inr.inj hstep
      exact Or.inl ⟨by simpa using hempty, rfl⟩
    · split at hstep
      · rename_i e hdecode
        obtain rfl := Sum.inr.inj hstep
        exact Or.inr (Or.inl ⟨e, hdecode, rfl⟩)
      · simp at hstep
      · rename_i hdecode
        exact Or.inr (Or.inr ⟨_, hdecode⟩)

/-- A stream with a bad header leaves the loop with a frame error. -/
theorem Reached.frameError {stream : Bytes} {s : ReadLoop} (hreach : Reached stream s)
    (hbad : BadHeader stream) {stop : ReadEnd} (hstop : s.stop = some stop) :
    ∃ e, stop = .frameError e := by
  have hstarts := hreach.consistent.buffer_starts
  cases hreach with
  | start => simp [ReadLoop.start] at hstop
  | @next s s' n before _ hstep =>
    have hbefore := Reached.consistent before
    obtain ⟨hopen, hread, rfl⟩ := step_eq_some hstep
    rcases stopOf_eq_some hstop with ⟨hempty, -⟩ | ⟨e, -, rfl⟩ | ⟨found, hfound⟩
    · -- the end of the stream: all of it is buffered, and it is decided
      have hleft : s.left = [] := by
        rcases List.take_eq_nil_iff.mp hempty with hzero | hnil
        · exact hread.2.2 hzero
        · exact hnil
      have hbuffer : s.buffer = stream := by
        rw [hbefore.buffer_eq, ← hbefore.stream_eq, hleft, List.append_nil]
      obtain ⟨e, he⟩ := hbad.error
      rw [← hbuffer, hbefore.undecided hopen] at he
      simp at he
    · exact ⟨e, rfl⟩
    · rcases Nat.lt_or_ge (s.buffer ++ s.left.take n).length HEADER_SIZE with hshort | hlong
      · rw [frameCodec.decodeFrameStream_of_short hshort] at hfound
        simp at hfound
      · obtain ⟨e, he⟩ := (hbad.of_starts hstarts hlong).error
        simp only at he
        rw [he] at hfound
        simp at hfound

/-- The reads so far, and what is to come of the stream, fit its length. -/
def Counted (stream : Bytes) (s : ReadLoop) : Prop :=
  s.taken.length + s.left.length ≤ stream.length + (if s.stop = none then 0 else 1)

/-- Every read but the one at the end of the stream takes a byte off it. -/
theorem Counted.step {stream : Bytes} {s s' : ReadLoop} {n : Nat} (h : Counted stream s)
    (hstep : s.step n = some s') : Counted stream s' := by
  obtain ⟨hopen, hread, rfl⟩ := step_eq_some hstep
  unfold Counted at h ⊢
  rw [if_pos hopen] at h
  simp only [List.length_append, List.length_singleton, List.length_drop]
  split
  · rename_i hstop
    have hne := (stopOf_eq_none hstop).1
    have hpos : 0 < n := by
      rcases Nat.eq_zero_or_pos n with rfl | hpos
      · simp at hne
      · exact hpos
    have hle := hread.2.1
    omega
  · omega

theorem Reached.reads_le {stream : Bytes} {s : ReadLoop} (h : Reached stream s) :
    s.taken.length ≤ stream.length + 1 := by
  have hcounted : Counted stream s :=
    Reach.invariant h (by simp [Counted, ReadLoop.start]) fun hs _ hstep => hs.step hstep
  unfold Counted at hcounted
  split at hcounted <;> omega

/-- An open loop can read on. -/
theorem exists_step {s : ReadLoop} (hopen : s.stop = none) : ∃ n s', s.step n = some s' := by
  have hreadable : Readable s.left (min 1 s.left.length) := by
    refine ⟨by omega, by omega, ?_⟩
    intro hzero
    exact List.eq_nil_of_length_eq_zero (by omega)
  exact ⟨min 1 s.left.length, _, by simp [step, hopen, hreadable]; rfl⟩

end ReadLoop

/-- A frame error is answered with `MALFORMED`, whatever the transport does. -/
theorem written_finish_frameError (proto : GatewayProtocol) (peerFingerprint : String)
    (e : PyExc) (ans : History → (op : Call) → op.Ret) :
    written ((proto.finish peerFingerprint (.frameError e)).run ans []).2 =
      [nackFrame "0" .malformed] := by
  have hwrites : ∃ r h, (respond .nack (nackPayload "0" .malformed)).run ans [] = (r, h) ∧
      written h = [nackFrame "0" .malformed] := by
    simp only [respond]
    rw [frameCodec.encodeFrame_of_fits nackFits_zero]
    simp only [Prog.run_call]
    cases ans _ Call.drain <;> exact ⟨_, _, rfl, rfl⟩
  obtain ⟨r, h, hrun, hwritten⟩ := hwrites
  have hcaught : ((sendNack "0" .malformed).tryCatch fun _ => pure ()).run ans [] =
      (.ok (), h) := by
    rw [Prog.run_tryCatch, sendNack, hrun]
    cases r <;> rfl
  simp only [GatewayProtocol.finish, GatewayProtocol.handleRead]
  rw [Prog.run_bind, hcaught]
  simp only [Prog.run_bind, Prog.run_perform]
  -- closing writes nothing, whatever it is answered
  cases ans _ Call.waitClosed with
  | ok _ =>
    rw [Prog.ofExcept, Prog.run_ret, List.append_assoc, written_append, hwritten]
    rfl
  | error _ =>
    rw [Prog.ofExcept, Prog.run_raise, List.append_assoc, written_append, hwritten]
    rfl

/-- **The receive buffer stays bounded, bad headers are refused early, and the loop ends.**
    In every state of the read loop, whatever the stream and the sizes of its reads. -/
theorem readLoop_bounded (stream : Bytes) (s : ReadLoop) (h : ReadLoop.Reached stream s) :
    (s.buffer.length : Int) ≤ HEADER_SIZE + frameCodec.maxPayloadSize + 4095 ∧
    (ReadLoop.BadHeader stream → s.buffer.length ≤ 4100 ∧
      ∀ stop, s.stop = some stop → ∀ proto peerFingerprint ans,
        written ((GatewayProtocol.handleConnection proto peerFingerprint s.taken).run ans []).2 =
          [nackFrame "0" .malformed]) ∧
    s.taken.length ≤ stream.length + 1 ∧
    (s.stop = none → ∃ n s', s.step n = some s') ∧
    ∀ stop, s.stop = some stop → readFrame [] s.taken = stop := by
  have hconsistent := h.consistent
  refine ⟨h.length_le, ?_, h.reads_le, ReadLoop.exists_step, hconsistent.stopped⟩
  intro hbad
  refine ⟨h.length_le_of_badHeader hbad, ?_⟩
  intro stop hstop proto peerFingerprint ans
  obtain ⟨e, rfl⟩ := h.frameError hbad hstop
  rw [GatewayProtocol.handleConnection, hconsistent.stopped _ hstop]
  exact written_finish_frameError proto peerFingerprint e ans

/-- A header that declares 2³² - 1 bytes, in two reads, is refused with nine bytes read. -/
theorem readLoop_bounded_oversized :
    ∃ s, ReadLoop.Reached [1, 255, 255, 255, 255, 7, 7, 7, 7] s ∧ s.buffer.length = 9 ∧
      s.stop.isSome = true ∧
      written ((Sample.gateway.handleConnection "9f86d081884c7d65" s.taken).run
        Sample.outside.answer []).2 = [nackFrame "0" .malformed] := by
  have hrun : (runLabels ReadLoop.step (ReadLoop.start [1, 255, 255, 255, 255, 7, 7, 7, 7])
      [3, 6]).map (fun s => s.buffer.length == 9 && s.stop.isSome) = some true := by
    decide +kernel
  obtain ⟨s, hs, hend⟩ := Reach.exists_of_run (fun _ _ _ => trivial) hrun
  simp only [Bool.and_eq_true, beq_iff_eq] at hend
  have hbad : ReadLoop.BadHeader [1, 255, 255, 255, 255, 7, 7, 7, 7] :=
    ⟨1, _, [7, 7, 7, 7], ⟨255, 255, 255, 255, rfl, rfl⟩, Or.inr (by decide)⟩
  obtain ⟨stop, hstop⟩ := Option.isSome_iff_exists.mp hend.2
  have hbounded := readLoop_bounded _ s hs
  exact ⟨s, hs, hend.1, hend.2, (hbounded.2.1 hbad).2 stop hstop _ _ _⟩

end QsTie.GatewayB
