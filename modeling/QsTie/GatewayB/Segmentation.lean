import QsTie.GatewayB.Outcome

/-!
# Reads and what the peer sees

TCP may cut a stream anywhere, so what a connection shows should be a function of
the bytes.  The read loop is one up to the point where it stops: whatever the
reads, it stops at the same frame or with an error (`readFrame_of_decode`).  What
it does next also looks at the bytes that happen to be buffered behind the frame,
and that is where the cuts show: the frame is refused when they are there and
processed when they are still to come.
-/

namespace QsTie.GatewayB

open QsTie.Lib

/-- Ways to receive a stream: non-empty reads of at most 4096 bytes. -/
structure Reads (stream : Bytes) (reads : List Bytes) : Prop where
  flatten : reads.flatten = stream
  sizes : ∀ data ∈ reads, data ≠ [] ∧ data.length ≤ 4096

/-- The response frames and the ingestor calls of a connection. -/
def shown (proto : GatewayProtocol) (out : Outside) (peerFingerprint : String)
    (reads : List Bytes) : List Bytes × List PyVal :=
  let h := ((proto.handleConnection peerFingerprint reads).run out.answer []).2
  (written h, ingested h)

/-! ### Where the read loop stops -/

theorem readFrame_of_none {buffer : Bytes} {reads : List Bytes} (hne : ∀ data ∈ reads, data ≠ [])
    (hdecode : frameCodec.decodeFrameStream (buffer ++ reads.flatten) = .ok none)
    (more : List Bytes) :
    readFrame buffer (reads ++ more) = readFrame (buffer ++ reads.flatten) more := by
  induction reads generalizing buffer with
  | nil => simp
  | cons data reads ih =>
    rw [List.flatten_cons, ← List.append_assoc] at hdecode
    -- the first read cannot stop the loop: what it found would stand in the whole
    have hfirst : frameCodec.decodeFrameStream (buffer ++ data) = .ok none := by
      cases hdata : frameCodec.decodeFrameStream (buffer ++ data) with
      | error e =>
        rw [frameCodec.decodeFrameStream_append_error hdata] at hdecode
        simp at hdecode
      | ok found =>
        cases found with
        | none => rfl
        | some found =>
          rw [frameCodec.decodeFrameStream_incremental.extend_frame reads.flatten hdata] at hdecode
          simp at hdecode
    have hstep : readStep buffer data = .inl (buffer ++ data) :=
      readStep_eq_inl.mpr ⟨hne data (by simp), hfirst, rfl⟩
    rw [List.cons_append, readFrame, hstep]
    simp only
    rw [ih (fun d hd => hne d (by simp [hd])) hdecode, List.flatten_cons, List.append_assoc]

/-- Whatever the reads, the loop stops at the first frame of the stream with some of the
    bytes behind it, or with an error, or not at all. -/
theorem readFrame_of_decode {buffer : Bytes} {reads : List Bytes}
    (hne : ∀ data ∈ reads, data ≠ []) (hbuffer : frameCodec.decodeFrameStream buffer = .ok none) :
    match frameCodec.decodeFrameStream (buffer ++ reads.flatten) with
    | .error e => readFrame buffer reads = .frameError e
    | .ok none => readFrame buffer reads = .eof
    | .ok (some ((t, payload), rest)) =>
      ∃ remaining, readFrame buffer reads = .frame t payload remaining ∧ remaining <+: rest := by
  induction reads generalizing buffer with
  | nil => simp [hbuffer, readFrame]
  | cons data reads ih =>
    have hdata : data ≠ [] := hne data (by simp)
    have hnonempty : data.isEmpty = false := by simpa using hdata
    rw [List.flatten_cons, ← List.append_assoc, readFrame]
    cases hfirst : frameCodec.decodeFrameStream (buffer ++ data) with
    | error e =>
      rw [frameCodec.decodeFrameStream_append_error hfirst]
      simp [readStep, hnonempty, hfirst]
    | ok found =>
      cases found with
      | none =>
        have hstep : readStep buffer data = .inl (buffer ++ data) :=
          readStep_eq_inl.mpr ⟨hdata, hfirst, rfl⟩
        rw [hstep]
        exact ih (fun d hd => hne d (by simp [hd])) hfirst
      | some found =>
        obtain ⟨⟨t, payload⟩, remaining⟩ := found
        have hstep := readStep_eq_frame.mpr ⟨hdata, hfirst⟩
        rw [frameCodec.decodeFrameStream_incremental.extend_frame reads.flatten hfirst, hstep]
        exact ⟨remaining, rfl, List.prefix_append _ _⟩

/-! ### The text of a NACK -/

def nackHead : Bytes := asciiBytes "\x7b\"transaction_id\": \""
def nackTail (reason : NackReason) : Bytes :=
  asciiBytes "\", \"reason\": \"" ++ escapeString reason.value ++ asciiBytes "\"\x7d"

theorem nackPayload_eq (txId : String) (reason : NackReason) :
    nackPayload txId reason = nackHead ++ escapeString txId ++ nackTail reason := by
  have hid : escapeString "transaction_id" = asciiBytes "transaction_id" := by decide
  have hreason : escapeString "reason" = asciiBytes "reason" := by decide
  simp only [nackPayload, jsonDumps, jsonMember, jsonString, List.map_cons, List.map_nil, hid,
    hreason, nackHead, nackTail, List.intercalate, List.intersperse, List.flatten_cons,
    List.flatten_nil]
  simp [asciiBytes]

/-- `MALFORMED` is the shortest reason. -/
theorem nackTail_length (reason : NackReason) :
    (nackTail .malformed).length ≤ (nackTail reason).length := by
  cases reason <;> decide

theorem nackFits_malformed_of_fits {txId : String} {reason : NackReason}
    (h : NackFits txId reason) : NackFits txId .malformed := by
  have hlen := nackTail_length reason
  simp only [NackFits, FrameCodec.Fits] at h ⊢
  rw [nackPayload_eq] at h ⊢
  simp only [List.length_append] at h ⊢
  omega

/-- The NACK of the connection itself is no NACK of an envelope. -/
theorem nackFrame_eq_zero {txId : String} {reason : NackReason}
    (h : nackFrame txId reason = nackFrame "0" .malformed) :
    txId = "0" ∧ reason = .malformed := by
  have hpayload : nackPayload txId reason = nackPayload "0" .malformed := by
    simpa [nackFrame, FrameCodec.frameBytes, packLength] using congrArg (List.drop 5) h
  rw [nackPayload_eq, nackPayload_eq] at hpayload
  have hreason : reason = .malformed := by
    have htail : nackTail reason <:+ nackHead ++ escapeString "0" ++ nackTail .malformed := by
      rw [← hpayload]; exact List.suffix_append _ _
    have hsuffix : nackTail .malformed <:+ nackTail reason :=
      List.suffix_of_suffix_length_le (List.suffix_append _ _) htail (nackTail_length reason)
    revert hsuffix
    cases reason <;> decide
  subst hreason
  have hescape : escapeString txId = [48] := by
    have hzero : escapeString "0" = [48] := by decide
    rw [hzero] at hpayload
    exact List.append_cancel_left (List.append_cancel_right hpayload)
  exact ⟨escapeString_eq_zero hescape, rfl⟩

/-! ### What is shown for it -/

section Shown

variable {proto : GatewayProtocol} {out : Outside} {peerFingerprint : String}

theorem shown_of_run {reads : List Bytes} {stop : ReadEnd} {r : Except PyExc Unit} {h : History}
    (hstop : readFrame [] reads = stop)
    (hrun : (proto.handleRead peerFingerprint stop).run out.answer [] = (r, h)) :
    shown proto out peerFingerprint reads = (written h, ingested h) := by
  have hclose := @shown_finish out proto peerFingerprint stop
  rw [hrun] at hclose
  simp only [shown, GatewayProtocol.handleConnection, hstop]
  rw [hclose, written_append, ingested_append]
  simp [written, ingested]

/-- A `drain` raises errors of the transport, never one of the frame codec. -/
def Outside.Plain (out : Outside) : Prop := ∀ n e, out.drain n = .error e → e.isFrameError = false

theorem run_sendNack_of_fits {txId : String} {reason : NackReason} (hfits : NackFits txId reason)
    (h : History) :
    (sendNack txId reason).run out.answer h =
      (out.drain (h.countP fun ev => ev.op.isDrain),
        h ++ [⟨.write (nackFrame txId reason), ()⟩,
          ⟨.drain, out.drain (h.countP fun ev => ev.op.isDrain)⟩]) := by
  simp only [sendNack]
  exact run_respond_of_fits out h hfits .nack

/-- A frame that is not processed is refused once, whatever `drain` does. -/
theorem run_refuse (hplain : out.Plain) {t : MessageType} {payload remaining : Bytes}
    (hrefused : remaining ≠ [] ∨ t ≠ .signedBundle) :
    ∃ r h, (proto.handleRead peerFingerprint (.frame t payload remaining)).run out.answer [] =
      (r, h) ∧ written h = [nackFrame "0" .malformed] ∧ ingested h = [] := by
  have hbody : proto.handleRead peerFingerprint (.frame t payload remaining) =
      GatewayProtocol.catchFrameError (sendNack "0" .malformed) := by
    simp only [GatewayProtocol.handleRead]
    rcases hrefused with hremaining | htype
    · simp [hremaining]
    · simp [htype]
  rw [hbody]
  simp only [GatewayProtocol.catchFrameError]
  rw [Prog.run_tryCatch, run_sendNack_of_fits nackFits_zero]
  cases hdrain : out.drain (List.countP (fun ev : Event Call Call.Ret => ev.op.isDrain) []) with
  | ok _ => exact ⟨_, _, rfl, rfl, rfl⟩
  | error e =>
    simp only [hplain _ e hdrain, Bool.false_eq_true, if_false]
    exact ⟨_, _, rfl, rfl, rfl⟩

/-- An envelope whose id no NACK can carry, and which is not ingested, is answered by the
    frame-error handler alone. -/
theorem run_unanswerable {payload : Bytes} {env : TransactionEnvelope}
    (henv : TransactionEnvelope.fromBytes proto.protobuf payload = .ok env)
    (hno : ¬ NackFits env.transactionId .malformed)
    (hbundle : GatewayProtocol.missingField env = false →
      ∀ b, bundleVerdict proto out env.stixBundleCompressed ≠ .ok b) :
    ∃ r h, (proto.handleRead peerFingerprint (.frame .signedBundle payload [])).run out.answer [] =
      (r, h) ∧ written h = [nackFrame "0" .malformed] ∧ ingested h = [] := by
  have hnone : ∀ reason, ¬ NackFits env.transactionId reason := fun reason hfits =>
    hno (nackFits_malformed_of_fits hfits)
  have hdecides : Decides out (proto.envelopeStages env peerFingerprint (out.clock 0))
      [⟨.timeNs, out.clock 0⟩] env.transactionId (verdict proto out peerFingerprint env) := by
    apply decides_envelopeStages (sends_of_not_fits hnone)
    intro hcomplete h tReceived tVerified b hb
    exact absurd hb (hbundle hcomplete b)
  cases hverdict : verdict proto out peerFingerprint env with
  | ok b =>
    have hadmitted := verdict_eq_ok.mp hverdict
    exact absurd (bundleVerdict_eq_ok.mpr hadmitted.bundle) (hbundle hadmitted.complete b)
  | error reason =>
    rw [hverdict] at hdecides
    rcases hdecides with ⟨hfits, _⟩ | ⟨_, e, h', hrun, hw, hi⟩
    · exact absurd hfits (hnone reason)
    · obtain ⟨e', hframe, hrun'⟩ := run_respond_of_not_fits out.answer h' hno .nack
      have hsend : (sendNack env.transactionId .malformed).run out.answer h' = (.error e', h') := by
        unfold sendNack; exact hrun'
      have hfirst : (GatewayProtocol.catchFrameError
          (proto.processTransaction payload peerFingerprint)).run out.answer [] =
          (sendNack "0" .malformed).run out.answer h' := by
        simp only [GatewayProtocol.catchFrameError, GatewayProtocol.processTransaction]
        rw [Prog.run_tryCatch, Prog.run_call, henv]
        simp only
        rw [Prog.run_tryCatch]
        have hclock : out.answer [] .timeNs = out.clock 0 := rfl
        rw [hclock, List.nil_append, hrun]
        simp only [hsend, hframe, if_true]
      have hread : proto.handleRead peerFingerprint (.frame .signedBundle payload []) =
          GatewayProtocol.catchFrameError (proto.processTransaction payload peerFingerprint) := by
        simp [GatewayProtocol.handleRead]
      rw [hread, hfirst]
      refine ⟨_, _, run_sendNack_of_fits nackFits_zero h', ?_, ?_⟩
      · rw [written_append, hw]; rfl
      · rw [ingested_append, hi]; rfl

end Shown

/-! ### Two ways to cut a frame from what follows it -/

theorem reads_singletons {data : Bytes} :
    ∀ read ∈ data.map ([·]), read ≠ [] ∧ read.length ≤ 4096 := by
  intro read hread
  obtain ⟨b, _, rfl⟩ := List.mem_map.mp hread
  simp

theorem flatten_singletons (data : Bytes) : (data.map ([·])).flatten = data := by
  rw [← List.flatMap_def, List.flatMap_singleton']

/-- The end of the frame can be the end of a read, or can be read with the next byte. -/
theorem exists_cuts {t : MessageType} {payload rest : Bytes} (hfits : frameCodec.Fits payload)
    (hrest : rest ≠ []) :
    ∃ aligned straddling byte,
      Reads (FrameCodec.frameBytes t payload ++ rest) aligned ∧
      Reads (FrameCodec.frameBytes t payload ++ rest) straddling ∧
      readFrame [] aligned = .frame t payload [] ∧
      readFrame [] straddling = .frame t payload [byte] := by
  obtain ⟨byte, tail, rfl⟩ := List.exists_cons_of_ne_nil hrest
  obtain ⟨start, last, hframe⟩ : ∃ start last, FrameCodec.frameBytes t payload = start ++ [last] :=
    ⟨_, _, (List.dropLast_append_getLast (List.cons_ne_nil _ _)).symm⟩
  have hpart : frameCodec.decodeFrameStream start = .ok none := by
    apply frameCodec.decode_part (t := t) hfits
    · rw [hframe]; exact List.prefix_append _ _
    · rw [hframe]; simp
  -- both lists read the start byte by byte, and part at the last byte of the frame
  have hskip : ∀ more, readFrame [] (start.map ([·]) ++ more) = readFrame start more := by
    intro more
    have hnone := @readFrame_of_none [] (start.map ([·])) (fun d hd => (reads_singletons d hd).1)
      (by rw [flatten_singletons]; exact hpart) more
    rwa [flatten_singletons] at hnone
  refine ⟨start.map ([·]) ++ [last] :: (byte :: tail).map ([·]),
    start.map ([·]) ++ [last, byte] :: tail.map ([·]), byte, ⟨?_, ?_⟩, ⟨?_, ?_⟩, ?_, ?_⟩
  · rw [hframe]
    simp [flatten_singletons]
  · intro read hread
    rcases List.mem_append.mp hread with hread | hread
    · exact reads_singletons read hread
    · rcases List.mem_cons.mp hread with rfl | hread
      · simp
      · exact reads_singletons read hread
  · rw [hframe]
    simp [flatten_singletons]
  · intro read hread
    rcases List.mem_append.mp hread with hread | hread
    · exact reads_singletons read hread
    · rcases List.mem_cons.mp hread with rfl | hread
      · simp
      · exact reads_singletons read hread
  · rw [hskip, readFrame]
    have hstep : readStep start [last] = .inr (.frame t payload []) := by
      apply readStep_eq_frame.mpr
      refine ⟨by simp, ?_⟩
      rw [← hframe]
      simpa using frameCodec.decode_frameBytes_append (t := t) hfits []
    rw [hstep]
  · rw [hskip, readFrame]
    have hstep : readStep start [last, byte] = .inr (.frame t payload [byte]) := by
      apply readStep_eq_frame.mpr
      refine ⟨by simp, ?_⟩
      have hsplit : start ++ [last, byte] = FrameCodec.frameBytes t payload ++ [byte] := by
        rw [hframe]; simp
      rw [hsplit]
      exact frameCodec.decode_frameBytes_append hfits [byte]
    rw [hstep]

/-! ### Surroundings that tell the two apart -/

/-- Everything is verified and ingested; every `drain` ends in `drained`. -/
def surroundings (decompress : Bytes → Except PyExc Bytes) (drained : Except PyExc Unit) :
    Outside where
  verifySignature := fun _ _ _ => true
  decompress := decompress
  ingestBundle := fun _ => true
  drain := fun _ => drained
  clock := fun _ => 0
  waitClosed := .ok ()

def connectionReset : PyExc := ⟨.other "ConnectionResetError", "Connection lost"⟩

/-- Over a broken transport the NACK of an unreadable payload is sent twice, that of an
    incomplete envelope three times. -/
theorem run_resend {proto : GatewayProtocol} {decompress : Bytes → Except PyExc Bytes}
    {peerFingerprint : String} {payload : Bytes}
    (hbad : (∃ e, TransactionEnvelope.fromBytes proto.protobuf payload = .error e) ∨
      ∃ env, TransactionEnvelope.fromBytes proto.protobuf payload = .ok env ∧
        NackFits env.transactionId .malformed ∧ GatewayProtocol.missingField env = true) :
    ∃ r h, (proto.handleRead peerFingerprint (.frame .signedBundle payload [])).run
      (surroundings decompress (.error connectionReset)).answer [] = (r, h) ∧
      1 < (written h).length := by
  have hsend : ∀ {txId reason}, NackFits txId reason → ∀ h, (sendNack txId reason).run
      (surroundings decompress (.error connectionReset)).answer h =
      (.error connectionReset, h ++ [⟨.write (nackFrame txId reason), ()⟩,
        ⟨.drain, .error connectionReset⟩]) := fun hfits h => run_sendNack_of_fits hfits h
  have hother : connectionReset.isFrameError = false := rfl
  have hread : proto.handleRead peerFingerprint (.frame .signedBundle payload []) =
      GatewayProtocol.catchFrameError (proto.processTransaction payload peerFingerprint) := by
    simp [GatewayProtocol.handleRead]
  rw [hread]
  simp only [GatewayProtocol.catchFrameError, GatewayProtocol.processTransaction]
  rw [Prog.run_tryCatch, Prog.run_call]
  rcases hbad with ⟨e, henv⟩ | ⟨env, henv, hfits, hmissing⟩
  · rw [henv]
    simp only [Prog.run_tryCatch, hsend nackFits_zero, hother, Bool.false_eq_true, if_false,
      Prog.run_raise]
    exact ⟨_, _, rfl, by simp [written]⟩
  · rw [henv]
    simp only [GatewayProtocol.envelopeStages, hmissing, if_true, Prog.run_tryCatch, hsend hfits,
      hother, Bool.false_eq_true, if_false, Prog.run_raise]
    exact ⟨_, _, rfl, by simp [written]⟩

def welcomed : PyDict :=
  [(.str "tls_certificate_fingerprint", .str "9f86d081884c7d65"),
   (.str "payload_signing_public_key_fingerprint", .str "cc63c28b1571645e"),
   (.str "payload_signing_public_key_path", .str "gateway_raw/raw_ecdsa256.pub")]

def allowAny : PyDict :=
  [(.str "sender", .str "*"), (.str "recipient", .str "*"), (.str "tlp", .str "*"),
   (.str "action", .str "ALLOW")]

/-- A receiver that trusts the sender of the envelope and allows everything. -/
def welcoming (protobuf : Protobuf) (loads : Bytes → Except PyExc PyVal)
    (env : TransactionEnvelope) : GatewayProtocol where
  trustStore := ⟨[(.str env.senderId, welcomed)], []⟩
  rules := [.dict allowAny]
  protobuf := protobuf
  loads := loads

theorem verdict_welcoming {protobuf : Protobuf} {loads : Bytes → Except PyExc PyVal}
    {decompress : Bytes → Except PyExc Bytes} {drained : Except PyExc Unit}
    {env : TransactionEnvelope} {stixBytes : Bytes} {b : PyVal}
    (hcomplete : GatewayProtocol.missingField env = false)
    (hinflate : decompress env.stixBundleCompressed = .ok stixBytes)
    (hloads : loads stixBytes = .ok b) (hbundle : GatewayProtocol.isBundle b = .ok true) :
    verdict (welcoming protobuf loads env) (surroundings decompress drained) "9f86d081884c7d65"
      env = .ok b := by
  have hcertificate : welcomed.get? "tls_certificate_fingerprint" =
      some (.str "9f86d081884c7d65") := rfl
  have hpath : welcomed.get? "payload_signing_public_key_path" =
      some (.str "gateway_raw/raw_ecdsa256.pub") := rfl
  have hknown : (welcoming protobuf loads env).trustStore.getAgency env.senderId =
      some welcomed := by
    simp [TrustStore.getAgency, welcoming, PyVal.isStr]
  have hrevoked : (welcoming protobuf loads env).revoked "9f86d081884c7d65" welcomed =
      .ok false := rfl
  have hallowed : InboundPep.evaluate [.dict allowAny] env.senderId env.recipientId
      env.tlpMarking.value = .ok (true, "Explicit ALLOW rule matched") := by
    have hmatch : InboundPep.ruleMatches allowAny env.senderId env.recipientId
        env.tlpMarking.value = true := rfl
    simp only [InboundPep.evaluate, hmatch, if_true]
    rfl
  apply verdict_eq_ok.mpr
  exact ⟨hcomplete, ⟨welcomed, _, ⟨hknown, hcertificate, hrevoked⟩, hpath, rfl⟩,
    ⟨_, hallowed⟩, stixBytes, hinflate, hloads, hbundle⟩

/-! ### When the cuts do not show -/

/-- A complete `SIGNED_BUNDLE` frame with at least one byte behind it. -/
def FollowedFrame (stream payload : Bytes) : Prop :=
  frameCodec.Fits payload ∧
    ∃ rest, rest ≠ [] ∧ stream = FrameCodec.frameBytes .signedBundle payload ++ rest

section Invariance

variable (protobuf : Protobuf) (loads : Bytes → Except PyExc PyVal)
  (decompress : Bytes → Except PyExc Bytes)

/-- Whatever the configuration of the receiver and the answers of its surroundings, all ways
    to read the stream show the same, and a followed frame is refused. -/
def SegmentationInvariant (stream : Bytes) : Prop :=
  ∀ (proto : GatewayProtocol) (out : Outside) (peerFingerprint : String),
    proto.protobuf = protobuf → proto.loads = loads → out.decompress = decompress → out.Plain →
    ∀ reads reads', Reads stream reads → Reads stream reads' →
      shown proto out peerFingerprint reads = shown proto out peerFingerprint reads' ∧
      ∀ payload, FollowedFrame stream payload →
        ∃ txId, shown proto out peerFingerprint reads = ([nackFrame txId .malformed], [])

/-- Processing the payload can be told from refusing it: it is no envelope, or some NACK can
    carry the id of its envelope, or its bundle can be ingested. -/
def ShowsProcessing (payload : Bytes) : Prop :=
  ∀ env, TransactionEnvelope.fromBytes protobuf payload = .ok env →
    NackFits env.transactionId .malformed ∨
      GatewayProtocol.missingField env = false ∧
        ∃ stixBytes b, decompress env.stixBundleCompressed = .ok stixBytes ∧
          loads stixBytes = .ok b ∧ GatewayProtocol.isBundle b = .ok true

variable {protobuf loads decompress}

/-- Processing the payload shows the same as refusing it. -/
def LooksRefused (proto : GatewayProtocol) (out : Outside) (peerFingerprint : String)
    (payload : Bytes) : Prop :=
  ∀ r h, (proto.handleRead peerFingerprint (.frame .signedBundle payload [])).run out.answer [] =
    (r, h) → written h = [nackFrame "0" .malformed] ∧ ingested h = []

/-- The cut behind the frame and the cut one byte later must show the same. -/
theorem looksRefused_of_invariant {stream payload : Bytes} {proto : GatewayProtocol} {out : Outside}
    (hinv : SegmentationInvariant protobuf loads decompress stream)
    (hfollowed : FollowedFrame stream payload) (hprotobuf : proto.protobuf = protobuf)
    (hloads : proto.loads = loads) (hdecompress : out.decompress = decompress)
    (hplain : out.Plain) (peerFingerprint : String) :
    LooksRefused proto out peerFingerprint payload := by
  intro r h hrun
  obtain ⟨hfits, rest, hrest, rfl⟩ := hfollowed
  obtain ⟨aligned, straddling, byte, haligned, hstraddling, hstop, hstop'⟩ :=
    exists_cuts (t := .signedBundle) hfits hrest
  obtain ⟨r', h', hrun', hw, hi⟩ := @run_refuse proto out peerFingerprint hplain .signedBundle
    payload [byte] (Or.inl (by simp))
  have heq := (hinv proto out peerFingerprint hprotobuf hloads hdecompress hplain _ _ haligned
    hstraddling).1
  rw [shown_of_run hstop hrun, shown_of_run hstop' hrun', hw, hi] at heq
  exact Prod.mk.inj heq

theorem surroundings_plain {drained : Except PyExc Unit}
    (hdrained : ∀ e, drained = .error e → e.isFrameError = false) :
    (surroundings decompress drained).Plain := by
  intro n e he
  exact hdrained e he

/-- A receiver that knows no sender. -/
def stranger (protobuf : Protobuf) (loads : Bytes → Except PyExc PyVal) : GatewayProtocol :=
  ⟨⟨[], []⟩, [], protobuf, loads⟩

theorem verdict_stranger {out : Outside} {peerFingerprint : String} {env : TransactionEnvelope}
    (hcomplete : GatewayProtocol.missingField env = false) :
    verdict (stranger protobuf loads) out peerFingerprint env = .error .unknownSender := by
  simp [verdict, hcomplete, identityVerdict, stranger, TrustStore.getAgency]

/-- Over a broken transport a malformed payload is answered more than once. -/
theorem not_looksRefused_of_resend {proto : GatewayProtocol} {peerFingerprint : String}
    {payload : Bytes}
    (hbad : (∃ e, TransactionEnvelope.fromBytes proto.protobuf payload = .error e) ∨
      ∃ env, TransactionEnvelope.fromBytes proto.protobuf payload = .ok env ∧
        NackFits env.transactionId .malformed ∧ GatewayProtocol.missingField env = true) :
    ¬ LooksRefused proto (surroundings decompress (.error connectionReset)) peerFingerprint
      payload := by
  intro hlooks
  obtain ⟨r, h, hrun, htwo⟩ := @run_resend proto decompress peerFingerprint payload hbad
  rw [(hlooks r h hrun).1] at htwo
  simp at htwo

/-- An unknown sender is told so under its own id, or at least told under its own id. -/
theorem not_looksRefused_of_unknown {peerFingerprint : String} {payload : Bytes}
    {env : TransactionEnvelope} (henv : TransactionEnvelope.fromBytes protobuf payload = .ok env)
    (hcomplete : GatewayProtocol.missingField env = false)
    (hnack : NackFits env.transactionId .malformed) :
    ¬ LooksRefused (stranger protobuf loads) (surroundings decompress (.ok ())) peerFingerprint
      payload := by
  intro hlooks
  obtain ⟨h, hrun, hshown⟩ := @run_handleRead (surroundings decompress (.ok ())) (fun _ => rfl)
    (stranger protobuf loads) peerFingerprint (.frame .signedBundle payload [])
  have henv' : TransactionEnvelope.fromBytes (stranger protobuf loads).protobuf payload =
    .ok env := henv
  rw [(hlooks _ h hrun).1, (hlooks _ h hrun).2] at hshown
  have hframe : nackFrame "0" .malformed =
      answered env.transactionId (.nack, nackPayload env.transactionId .unknownSender) := by
    simpa [outcome, payloadOutcome, henv', verdict_stranger hcomplete, responseTo] using
      (Prod.mk.inj hshown).1
  by_cases hunknown : frameCodec.Fits (nackPayload env.transactionId .unknownSender)
  · have hanswer : answered env.transactionId (.nack, nackPayload env.transactionId .unknownSender) =
        nackFrame env.transactionId .unknownSender := if_pos hunknown
    rw [hanswer] at hframe
    exact absurd (nackFrame_eq_zero hframe.symm).2 (by decide)
  · have hanswer : answered env.transactionId (.nack, nackPayload env.transactionId .unknownSender) =
        nackFrame env.transactionId .malformed := (if_neg hunknown).trans (if_pos hnack)
    rw [hanswer] at hframe
    -- the id is `"0"`, which every reason fits
    rw [(nackFrame_eq_zero hframe.symm).1] at hunknown
    exact hunknown (by decide +kernel)

/-- An admitted bundle is ingested. -/
theorem not_looksRefused_of_ingestible {payload stixBytes : Bytes} {b : PyVal}
    {env : TransactionEnvelope} (henv : TransactionEnvelope.fromBytes protobuf payload = .ok env)
    (hcomplete : GatewayProtocol.missingField env = false)
    (hinflate : decompress env.stixBundleCompressed = .ok stixBytes)
    (hloads : loads stixBytes = .ok b) (hbundle : GatewayProtocol.isBundle b = .ok true) :
    ¬ LooksRefused (welcoming protobuf loads env) (surroundings decompress (.ok ()))
      "9f86d081884c7d65" payload := by
  intro hlooks
  obtain ⟨h, hrun, hshown⟩ := @run_handleRead (surroundings decompress (.ok ())) (fun _ => rfl)
    (welcoming protobuf loads env) "9f86d081884c7d65" (.frame .signedBundle payload [])
  have henv' : TransactionEnvelope.fromBytes (welcoming protobuf loads env).protobuf payload =
    .ok env := henv
  have hverdict : verdict (welcoming protobuf loads env) (surroundings decompress (.ok ()))
      "9f86d081884c7d65" env = .ok b := verdict_welcoming hcomplete hinflate hloads hbundle
  rw [(hlooks _ h hrun).1, (hlooks _ h hrun).2] at hshown
  simp [outcome, payloadOutcome, henv', hverdict, handedOver] at hshown

/-- Some receiver and surroundings tell the processing of the payload from its refusal. -/
theorem exists_not_looksRefused {payload : Bytes}
    (hshows : ShowsProcessing protobuf loads decompress payload) :
    ∃ proto out peerFingerprint, proto.protobuf = protobuf ∧ proto.loads = loads ∧
      out.decompress = decompress ∧ out.Plain ∧
      ¬ LooksRefused proto out peerFingerprint payload := by
  have hreset : (surroundings decompress (.error connectionReset)).Plain := by
    apply surroundings_plain
    rintro e ⟨⟩
    rfl
  have hhealthy : (surroundings decompress (.ok ())).Plain := by
    apply surroundings_plain
    rintro e ⟨⟩
  cases henv : TransactionEnvelope.fromBytes protobuf payload with
  | error e =>
    exact ⟨stranger protobuf loads, _, "", rfl, rfl, rfl, hreset,
      not_looksRefused_of_resend (Or.inl ⟨e, henv⟩)⟩
  | ok env =>
    rcases hshows env henv with hnack | ⟨hcomplete, stixBytes, b, hinflate, hloads, hbundle⟩
    · cases hmissing : GatewayProtocol.missingField env with
      | true =>
        exact ⟨stranger protobuf loads, _, "", rfl, rfl, rfl, hreset,
          not_looksRefused_of_resend (Or.inr ⟨env, henv, hnack, hmissing⟩)⟩
      | false =>
        exact ⟨stranger protobuf loads, _, "", rfl, rfl, rfl, hhealthy,
          not_looksRefused_of_unknown henv hmissing hnack⟩
    · exact ⟨welcoming protobuf loads env, _, _, rfl, rfl, rfl, hhealthy,
        not_looksRefused_of_ingestible henv hcomplete hinflate hloads hbundle⟩

theorem FollowedFrame.decode {stream payload : Bytes} (hfollowed : FollowedFrame stream payload) :
    ∃ rest, rest ≠ [] ∧
      frameCodec.decodeFrameStream stream = .ok (some ((.signedBundle, payload), rest)) := by
  obtain ⟨hfits, rest, hrest, rfl⟩ := hfollowed
  exact ⟨rest, hrest, frameCodec.decode_frameBytes_append hfits rest⟩

/-- Where every way to read the stream stops at one place, all show the same. -/
theorem shown_eq_of_stop {stream : Bytes} {proto : GatewayProtocol} {out : Outside}
    {peerFingerprint : String} {stop : ReadEnd}
    (hstop : ∀ reads, Reads stream reads → readFrame [] reads = stop)
    (hfollowed : ∀ payload, ¬ FollowedFrame stream payload) :
    ∃ result,
      (∀ payload, FollowedFrame stream payload → result = ([nackFrame "0" .malformed], [])) ∧
      ∀ reads, Reads stream reads → shown proto out peerFingerprint reads = result :=
  ⟨_, fun payload h => absurd h (hfollowed payload), fun reads hreads =>
    shown_of_run (hstop reads hreads) rfl⟩

/-- Without a followed frame whose processing shows, all ways to read the stream show the
    same. -/
theorem shown_eq_of_reads {stream : Bytes} {proto : GatewayProtocol} {out : Outside}
    (hplain : out.Plain) (peerFingerprint : String)
    (hquiet : ∀ payload, FollowedFrame stream payload →
      ¬ ShowsProcessing proto.protobuf proto.loads out.decompress payload) :
    ∃ result,
      (∀ payload, FollowedFrame stream payload → result = ([nackFrame "0" .malformed], [])) ∧
      ∀ reads, Reads stream reads → shown proto out peerFingerprint reads = result := by
  have hstop : ∀ reads, Reads stream reads →
      match frameCodec.decodeFrameStream stream with
      | .error e => readFrame [] reads = .frameError e
      | .ok none => readFrame [] reads = .eof
      | .ok (some ((t, payload), rest)) => ∃ remaining,
          readFrame [] reads = .frame t payload remaining ∧ remaining <+: rest := by
    intro reads hreads
    have hread := @readFrame_of_decode [] reads (fun d hd => (hreads.sizes d hd).1) rfl
    rwa [List.nil_append, hreads.flatten] at hread
  cases hdecode : frameCodec.decodeFrameStream stream with
  | error e =>
    apply @shown_eq_of_stop stream proto out peerFingerprint (.frameError e)
    · intro reads hreads
      have hread := hstop reads hreads
      rwa [hdecode] at hread
    · intro payload hfollowed
      obtain ⟨rest, _, hsome⟩ := hfollowed.decode
      rw [hdecode] at hsome
      simp at hsome
  | ok found =>
    cases found with
    | none =>
      apply @shown_eq_of_stop stream proto out peerFingerprint .eof
      · intro reads hreads
        have hread := hstop reads hreads
        rwa [hdecode] at hread
      · intro payload hfollowed
        obtain ⟨rest, _, hsome⟩ := hfollowed.decode
        rw [hdecode] at hsome
        simp at hsome
    | some found =>
      obtain ⟨⟨t, payload⟩, rest⟩ := found
      simp only [hdecode] at hstop
      obtain ⟨hfits, hstream⟩ := frameCodec.decodeFrameStream_eq_some.mp hdecode
      by_cases hplace : t = .signedBundle ∧ rest = []
      · obtain ⟨rfl, rfl⟩ := hplace
        apply @shown_eq_of_stop stream proto out peerFingerprint (.frame .signedBundle payload [])
        · intro reads hreads
          obtain ⟨remaining, hread, hremaining⟩ := hstop reads hreads
          rwa [List.prefix_nil.mp hremaining] at hread
        · intro payload' hfollowed
          obtain ⟨rest', hrest', hsome⟩ := hfollowed.decode
          rw [hdecode] at hsome
          simp only [Except.ok.injEq, Option.some.injEq, Prod.mk.injEq] at hsome
          exact hrest' hsome.2.symm
      · -- the frame is refused, or processing it looks the same
        refine ⟨_, fun _ _ => rfl, ?_⟩
        intro reads hreads
        obtain ⟨remaining, hread, _⟩ := hstop reads hreads
        by_cases hrefused : remaining ≠ [] ∨ t ≠ .signedBundle
        · obtain ⟨r, h, hrun, hw, hi⟩ := @run_refuse proto out peerFingerprint hplain t payload
            remaining hrefused
          rw [shown_of_run hread hrun, hw, hi]
        · obtain ⟨rfl, rfl⟩ : remaining = [] ∧ t = .signedBundle := by
            simpa using hrefused
          have hrest : rest ≠ [] := fun hnil => hplace ⟨rfl, hnil⟩
          have hno := hquiet payload ⟨hfits, rest, hrest, hstream⟩
          simp only [ShowsProcessing] at hno
          push Not at hno
          obtain ⟨env, henv, hnack, hbundle⟩ := hno
          obtain ⟨r, h, hrun, hw, hi⟩ := @run_unanswerable proto out peerFingerprint payload env
            henv hnack (by
              intro hcomplete b hb
              obtain ⟨stixBytes, hinflate, hloads, hisBundle⟩ := bundleVerdict_eq_ok.mp hb
              exact hbundle hcomplete stixBytes b hinflate hloads hisBundle)
          rw [shown_of_run hread hrun, hw, hi]

/-- **When the outcome is independent of the segmentation.** -/
theorem segmentation_invariant_iff (protobuf : Protobuf) (loads : Bytes → Except PyExc PyVal)
    (decompress : Bytes → Except PyExc Bytes) (stream : Bytes) :
    SegmentationInvariant protobuf loads decompress stream ↔
      ∀ payload, FollowedFrame stream payload →
        ¬ ShowsProcessing protobuf loads decompress payload := by
  constructor
  · intro hinv payload hfollowed hshows
    obtain ⟨proto, out, peerFingerprint, hp, hl, hd, hplain, hnot⟩ := exists_not_looksRefused hshows
    exact hnot (looksRefused_of_invariant hinv hfollowed hp hl hd hplain peerFingerprint)
  · rintro hquiet proto out peerFingerprint rfl rfl rfl hplain reads reads' hreads hreads'
    obtain ⟨result, hresult, hshown⟩ := shown_eq_of_reads hplain peerFingerprint hquiet
    rw [hshown reads hreads, hshown reads' hreads']
    exact ⟨rfl, fun payload hfollowed => ⟨"0", hresult payload hfollowed⟩⟩

end Invariance

/-- The sample frame and one more byte: refused when they arrive in one read, ingested when
    the byte comes later. -/
theorem sample_followed_frame_ingested :
    ¬ SegmentationInvariant Sample.protobuf Sample.loads Sample.decompress
      ([1, 0, 0, 0, 196] ++ Sample.payload ++ [0]) := by
  intro hinv
  have hplain : Sample.outside.Plain := by
    rintro n e ⟨⟩
  have htogether : Reads ([1, 0, 0, 0, 196] ++ Sample.payload ++ [0])
      [[1, 0, 0, 0, 196] ++ Sample.payload ++ [0]] :=
    ⟨by simp, by decide +kernel⟩
  have hapart : Reads ([1, 0, 0, 0, 196] ++ Sample.payload ++ [0])
      [[1, 0, 0, 0, 196] ++ Sample.payload, [0]] :=
    ⟨by simp, by decide +kernel⟩
  have heq := (hinv Sample.gateway Sample.outside "9f86d081884c7d65" rfl rfl rfl hplain _ _
    htogether hapart).1
  have hdiffer : (shown Sample.gateway Sample.outside "9f86d081884c7d65"
      [[1, 0, 0, 0, 196] ++ Sample.payload ++ [0]]).2.length ≠
      (shown Sample.gateway Sample.outside "9f86d081884c7d65"
        [[1, 0, 0, 0, 196] ++ Sample.payload, [0]]).2.length := by decide +kernel
  rw [heq] at hdiffer
  exact hdiffer rfl

end QsTie.GatewayB
