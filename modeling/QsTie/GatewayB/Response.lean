import QsTie.GatewayB.Outcome

/-!
# Responses and the ingestor

A response should agree with what happened to the bundle: an ACK follows a
successful ingestion and no NACK does.  The first half holds by the contract of
the handler.  The second fails where the ACK itself fails: the id of the envelope
may be too long, once escaped, for a frame, and `drain` may raise after the ACK is
written.  Both exceptions reach the handler that answers a malformed request.
-/

namespace QsTie.GatewayB

open QsTie.Lib

/-- An ACK under `txId` comes after an ingestion that succeeded, and no NACK does. -/
structure Consistent (txId : String) (h : History) : Prop where
  ack : ∀ before after, h = before ++ ⟨.write (ackFrame txId), ()⟩ :: after →
    ∃ b, ⟨.ingestBundle b, true⟩ ∈ before
  noNack : ∀ before b after, h = before ++ ⟨.ingestBundle b, true⟩ :: after →
    ∀ payload, ⟨.write (FrameCodec.frameBytes .nack payload), ()⟩ ∉ after

theorem frameBytes_ack_ne_nack (payload payload' : Bytes) :
    FrameCodec.frameBytes .ack payload ≠ FrameCodec.frameBytes .nack payload' := by
  intro h
  have htype := List.head_eq_of_cons_eq h
  revert htype
  decide

/-! ### The run of an admitted envelope -/

section Admitted

variable {proto : GatewayProtocol} {out : Outside} {peerFingerprint : String}
  {env : TransactionEnvelope} {b : PyVal}

/-- The checks make three calls, none of them on the writer, and hand over the bundle. -/
theorem run_envelopeStages_of_admitted
    (hverdict : verdict proto out peerFingerprint env = .ok b) (tReceived : Nat) (h : History) :
    ∃ pubkeyPath tVerified stixBytes,
      (proto.envelopeStages env peerFingerprint tReceived).run out.answer h =
        (GatewayProtocol.ingestStage env tReceived tVerified b).run out.answer
          (h ++ [⟨.verifySignature env.stixBundleCompressed env.signature pubkeyPath, true⟩,
            ⟨.timeNs, tVerified⟩, ⟨.decompress env.stixBundleCompressed, .ok stixBytes⟩]) := by
  obtain ⟨hcomplete, ⟨agency, pubkeyPath, htrusted, hpath, hverify⟩, ⟨reason, hallowed⟩,
    ⟨stixBytes, hinflate, hloads, hbundle⟩⟩ := verdict_eq_ok.mp hverdict
  refine ⟨pubkeyPath, out.clock (h.length + 1), stixBytes, ?_⟩
  have hne : agency.isEmpty = false := by
    cases agency with
    | nil => simp [PyDict.get?] at hpath
    | cons _ _ => rfl
  have hcertificate := PyDict.getItem_eq_ok.mpr htrusted.certificate
  have hkey := PyDict.getItem_eq_ok.mpr hpath
  have hpeer : (PyVal.str peerFingerprint).isStr peerFingerprint = true := PyVal.isStr_iff.mpr rfl
  have hidentity : proto.envelopeStages env peerFingerprint tReceived =
      proto.verifyStage env agency tReceived := by
    simp only [GatewayProtocol.envelopeStages, hcomplete, Bool.false_eq_true, if_false,
      GatewayProtocol.identityStage, htrusted.known, hne, hcertificate, hpeer, Bool.not_true,
      htrusted.unrevoked]
  have hverify' : out.answer h (.verifySignature env.stixBundleCompressed env.signature
      pubkeyPath) = true := hverify
  have hinflate' : ∀ h', out.answer h' (.decompress env.stixBundleCompressed) =
      .ok stixBytes := fun _ => hinflate
  rw [hidentity]
  simp only [GatewayProtocol.verifyStage, hkey]
  rw [Prog.run_call, hverify']
  simp only [Bool.not_true, Bool.false_eq_true, if_false]
  rw [Prog.run_call]
  simp only [GatewayProtocol.policyStage, hallowed, GatewayProtocol.decompressStage]
  rw [Prog.run_call, hinflate']
  simp only [GatewayProtocol.validateStage, hloads, hbundle]
  simp [Outside.answer]

/-! ### After the ingestion -/

/-- An exception after the envelope is decoded is answered by a NACK. -/
theorem run_handler_nack {p : Conn Unit} {h h' : History} {e : PyExc} (txId : String)
    (hrun : p.run out.answer h = (.error e, h')) :
    ∃ r tr payload, (GatewayProtocol.catchFrameError
        (p.tryCatch fun _ => sendNack txId .malformed)).run out.answer h = (r, h' ++ tr) ∧
      ⟨.write (FrameCodec.frameBytes .nack payload), ()⟩ ∈ tr := by
  unfold GatewayProtocol.catchFrameError
  rw [Prog.run_tryCatch, Prog.run_tryCatch, hrun]
  simp only
  by_cases hfits : NackFits txId .malformed
  · have hsend := run_respond_of_fits out h' hfits .nack
    unfold sendNack
    rw [hsend]
    cases out.drain (h'.countP fun ev => ev.op.isDrain) with
    | ok _ => exact ⟨_, _, _, rfl, List.mem_cons_self⟩
    | error e' =>
      simp only
      split
      · obtain ⟨tr, htr⟩ := Prog.prefix_run out.answer (respond .nack (nackPayload "0" .malformed))
          (h' ++ [⟨.write (FrameCodec.frameBytes .nack (nackPayload txId .malformed)), ()⟩,
            ⟨.drain, .error e'⟩])
        rw [List.append_assoc] at htr
        exact ⟨_, _, nackPayload txId .malformed, Prod.ext rfl htr.symm,
          List.mem_append_left _ List.mem_cons_self⟩
      · exact ⟨_, _, _, rfl, List.mem_cons_self⟩
  · obtain ⟨e', hframe, hsend⟩ := run_respond_of_not_fits out.answer h' hfits .nack
    unfold sendNack
    rw [hsend]
    simp only [hframe, if_true]
    have hzero := run_respond_of_fits out h' nackFits_zero .nack
    rw [hzero]
    exact ⟨_, _, _, rfl, List.mem_cons_self⟩

/-- Up to the ACK, an admitted envelope whose bundle is ingested makes no other call on the
    writer. -/
theorem run_envelopeStages_of_ingested
    (hverdict : verdict proto out peerFingerprint env = .ok b)
    (hingest : out.ingestBundle b = true) (tReceived : Nat) :
    ∃ before tVerified tIngested,
      (proto.envelopeStages env peerFingerprint tReceived).run out.answer
          [⟨.timeNs, tReceived⟩] =
        (GatewayProtocol.ackStage env tReceived tVerified tIngested).run out.answer
          (before ++ [⟨.ingestBundle b, true⟩, ⟨.timeNs, tIngested⟩]) ∧
      written before = [] ∧ before.countP (fun ev => ev.op.isDrain) = 0 := by
  obtain ⟨pubkeyPath, tVerified, stixBytes, hrun⟩ :=
    run_envelopeStages_of_admitted hverdict tReceived [⟨.timeNs, tReceived⟩]
  have hanswer : ∀ h, out.answer h (.ingestBundle b) = true := fun _ => hingest
  rw [hrun]
  unfold GatewayProtocol.ingestStage
  rw [Prog.run_call, hanswer]
  simp only [Bool.not_true, Bool.false_eq_true, if_false]
  rw [Prog.run_call, List.append_assoc]
  refine ⟨[⟨.timeNs, tReceived⟩] ++
    [⟨.verifySignature env.stixBundleCompressed env.signature pubkeyPath, true⟩,
      ⟨.timeNs, tVerified⟩, ⟨.decompress env.stixBundleCompressed, .ok stixBytes⟩],
    tVerified, _, rfl, ?_, ?_⟩
  · simp [written]
  · simp [Call.isDrain]

/-- The ACK is written, or nothing is and the run goes on to the handler. -/
theorem run_ackStage {h : History} (hnone : h.countP (fun ev => ev.op.isDrain) = 0)
    (tReceived tVerified tIngested : Nat) :
    (AckFits env.transactionId ∧ out.drain 0 = .ok () ∧
      ∃ h', (GatewayProtocol.ackStage env tReceived tVerified tIngested).run out.answer h =
        (.ok (), h') ∧ written h' = written h ++ [ackFrame env.transactionId]) ∨
    ¬ (AckFits env.transactionId ∧ out.drain 0 = .ok ()) ∧
      ∃ e tr, (GatewayProtocol.ackStage env tReceived tVerified tIngested).run out.answer h =
        (.error e, h ++ tr) := by
  unfold GatewayProtocol.ackStage sendAck
  rw [Prog.run_bind]
  by_cases hfits : AckFits env.transactionId
  · rw [run_respond_of_fits out h hfits .ack, hnone]
    cases hdrain : out.drain 0 with
    | ok _ =>
      left
      refine ⟨hfits, rfl, _, rfl, ?_⟩
      rw [written_append, written_append]
      simp [written, ackFrame]
    | error e =>
      right
      exact ⟨fun hgood => by simp at hgood, e, _, rfl⟩
  · obtain ⟨e, _, hrun⟩ := run_respond_of_not_fits out.answer h hfits .ack
    rw [hrun]
    right
    exact ⟨fun hgood => hfits hgood.1, e, [], by simp⟩

/-- What becomes of a connection whose bundle is ingested. -/
theorem run_of_ingested {payload : Bytes}
    (henv : TransactionEnvelope.fromBytes proto.protobuf payload = .ok env)
    (hverdict : verdict proto out peerFingerprint env = .ok b)
    (hingest : out.ingestBundle b = true) :
    let h := ((proto.handleRead peerFingerprint (.frame .signedBundle payload [])).run
      out.answer []).2
    (AckFits env.transactionId ∧ out.drain 0 = .ok () ∧ written h = [ackFrame env.transactionId]) ∨
    ¬ (AckFits env.transactionId ∧ out.drain 0 = .ok ()) ∧
      ∃ before after payload, h = before ++ ⟨.ingestBundle b, true⟩ :: after ∧
        ⟨.write (FrameCodec.frameBytes .nack payload), ()⟩ ∈ after := by
  intro h
  have hfirst : (proto.handleRead peerFingerprint (.frame .signedBundle payload [])).run
      out.answer [] = (GatewayProtocol.catchFrameError
        ((proto.envelopeStages env peerFingerprint (out.clock 0)).tryCatch fun _ =>
          sendNack env.transactionId .malformed)).run out.answer [⟨.timeNs, out.clock 0⟩] := by
    simp only [GatewayProtocol.handleRead, List.isEmpty_nil, Bool.not_true, Bool.false_eq_true,
      if_false, bne_self_eq_false, GatewayProtocol.processTransaction, henv]
    rfl
  obtain ⟨before, tVerified, tIngested, hstages, hwritten, hdrains⟩ :=
    run_envelopeStages_of_ingested hverdict hingest (out.clock 0)
  have hnone : (before ++ [⟨.ingestBundle b, true⟩, ⟨.timeNs, tIngested⟩] : History).countP
      (fun ev => ev.op.isDrain) = 0 := by
    rw [List.countP_append, hdrains]; rfl
  simp only [h, hfirst]
  rcases @run_ackStage out env _ hnone (out.clock 0) tVerified tIngested with
    ⟨hfits, hdrain, h', hack, hw⟩ | ⟨hbad, e, tr, hack⟩
  · left
    have hok : ((proto.envelopeStages env peerFingerprint (out.clock 0)).tryCatch fun _ =>
        sendNack env.transactionId .malformed).run out.answer [⟨.timeNs, out.clock 0⟩] =
        (.ok (), h') := by
      rw [Prog.run_tryCatch, hstages, hack]
    rw [run_catchFrameError_of_ok hok]
    refine ⟨hfits, hdrain, ?_⟩
    rw [hw, written_append, hwritten]
    rfl
  · right
    refine ⟨hbad, ?_⟩
    obtain ⟨r, tr', payload', hrun, hnack⟩ :=
      run_handler_nack env.transactionId (hstages.trans hack)
    rw [hrun]
    refine ⟨before, ⟨.timeNs, tIngested⟩ :: (tr ++ tr'), payload', by simp, ?_⟩
    exact List.mem_cons_of_mem _ (List.mem_append_right _ hnack)

end Admitted

/-! ### When responses agree with the ingestion -/

section Consistency

variable {proto : GatewayProtocol} {out : Outside} {peerFingerprint : String}
  {reads : List Bytes} {payload remaining : Bytes} {env : TransactionEnvelope}

/-- A successful ingestion is that of an admitted envelope. -/
theorem verdict_of_ingested (hstop : readFrame [] reads = .frame .signedBundle payload remaining)
    (henv : TransactionEnvelope.fromBytes proto.protobuf payload = .ok env)
    {before after : History} {b : PyVal}
    (htrace : ((proto.handleConnection peerFingerprint reads).run out.answer []).2 =
      before ++ ⟨.ingestBundle b, true⟩ :: after) :
    remaining = [] ∧ verdict proto out peerFingerprint env = .ok b ∧
      out.ingestBundle b = true := by
  have hgate := gate_finish proto peerFingerprint (readFrame [] reads) []
  obtain ⟨payload', env', hstop', henv', hadmitted⟩ :=
    Prog.complies_run hgate out.answer (fun _ _ => trivial) htrace
  rw [hstop] at hstop'
  obtain ⟨rfl, rfl⟩ : payload = payload' ∧ remaining = [] := by simpa using hstop'
  obtain rfl : env = env' := by
    rw [henv] at henv'
    simpa using henv'
  -- every recorded answer is the one the surroundings give
  have hrecorded : ∀ ev ∈ before ++ ⟨.ingestBundle b, true⟩ :: after,
      ∃ h', out.answer h' ev.op = ev.res := by
    intro ev hev
    rw [← htrace] at hev
    exact Prog.answer_of_mem_run out.answer _ hev (by simp)
  refine ⟨rfl, verdict_eq_ok.mpr ?_, ?_⟩
  · obtain ⟨hcomplete, ⟨agency, pubkeyPath, htrusted, hpath, hverified⟩, hallowed,
      ⟨stixBytes, hinflated, hbundle⟩⟩ := hadmitted
    obtain ⟨_, hverify⟩ := hrecorded _ (List.mem_append_left _ hverified)
    obtain ⟨_, hinflate⟩ := hrecorded _ (List.mem_append_left _ hinflated)
    exact ⟨hcomplete, ⟨agency, pubkeyPath, htrusted, hpath, hverify⟩, hallowed,
      ⟨stixBytes, hinflate, hbundle⟩⟩
  · obtain ⟨_, hingest⟩ := hrecorded ⟨.ingestBundle b, true⟩ (by simp)
    exact hingest

theorem mem_written {h : History} {frame : Bytes} (hmem : ⟨.write frame, ()⟩ ∈ h) :
    frame ∈ written h :=
  List.mem_filterMap.mpr ⟨_, hmem, rfl⟩

/-- An ACK is always preceded by a successful ingestion. -/
theorem ack_after_ingestion {txId : String} {before after : History}
    (htrace : ((proto.handleConnection peerFingerprint reads).run out.answer []).2 =
      before ++ ⟨.write (ackFrame txId), ()⟩ :: after) :
    ∃ b, ⟨.ingestBundle b, true⟩ ∈ before := by
  have hgate := gate_finish proto peerFingerprint (readFrame [] reads) []
  rcases Prog.complies_run hgate out.answer (fun _ _ => trivial) htrace with
    ⟨txId', reason, hframe⟩ | ⟨_, _, b, _, _, _, hb, _⟩
  · exact absurd hframe (frameBytes_ack_ne_nack _ _)
  · exact ⟨b, hb⟩

/-- An ACK that fails after the ingestion is followed by a NACK. -/
theorem not_consistent_of_ingested {b : PyVal} (txId : String)
    (hstop : readFrame [] reads = .frame .signedBundle payload [])
    (henv : TransactionEnvelope.fromBytes proto.protobuf payload = .ok env)
    (hverdict : verdict proto out peerFingerprint env = .ok b)
    (hingest : out.ingestBundle b = true)
    (hfails : ¬ (AckFits env.transactionId ∧ out.drain 0 = .ok ())) :
    ¬ Consistent txId ((proto.handleConnection peerFingerprint reads).run out.answer []).2 := by
  intro hconsistent
  rcases run_of_ingested henv hverdict hingest with
    ⟨hfits, hdrain, _⟩ | ⟨_, before, after, nack, htrace, hnack⟩
  · exact hfails ⟨hfits, hdrain⟩
  · have hwhole : ((proto.handleConnection peerFingerprint reads).run out.answer []).2 =
        before ++ ⟨.ingestBundle b, true⟩ ::
          (after ++ [⟨.close, ()⟩, ⟨.waitClosed, out.waitClosed⟩]) := by
      rw [GatewayProtocol.handleConnection, hstop, shown_finish, htrace, List.append_assoc]
      rfl
    exact hconsistent.noNack before b _ hwhole nack (List.mem_append_left _ hnack)

/-- **When a response never contradicts the ingestion.**  For a connection whose frame holds
    an envelope, exactly when the envelope is not admitted or not ingested, or else its ACK
    fits a frame and the first `drain` succeeds. -/
theorem response_consistent_iff
    (hstop : readFrame [] reads = .frame .signedBundle payload remaining)
    (henv : TransactionEnvelope.fromBytes proto.protobuf payload = .ok env) :
    Consistent env.transactionId
        ((proto.handleConnection peerFingerprint reads).run out.answer []).2 ↔
      (remaining = [] → ∀ b,
        Admitted proto (fun c s path => out.verifySignature c s path = true)
          (fun data stixBytes => out.decompress data = .ok stixBytes) peerFingerprint env b →
        out.ingestBundle b = true → AckFits env.transactionId ∧ out.drain 0 = .ok ()) := by
  constructor
  · rintro hconsistent rfl b hadmitted hingest
    by_contra hfails
    exact not_consistent_of_ingested env.transactionId hstop henv (verdict_eq_ok.mpr hadmitted)
      hingest hfails hconsistent
  · intro hgood
    refine ⟨fun before after htrace => ack_after_ingestion htrace, ?_⟩
    intro before b after htrace nack hnack
    obtain ⟨hremaining, hverdict, hingest⟩ := verdict_of_ingested hstop henv htrace
    subst hremaining
    have hboth := hgood rfl b (verdict_eq_ok.mp hverdict) hingest
    rcases run_of_ingested henv hverdict hingest with ⟨_, _, hwritten⟩ | ⟨hbad, _⟩
    · -- the ACK is all that is written
      have hmem : FrameCodec.frameBytes .nack nack ∈
          written (before ++ ⟨.ingestBundle b, true⟩ :: after) :=
        mem_written (List.mem_append_right _ (List.mem_cons_of_mem _ hnack))
      rw [← htrace, GatewayProtocol.handleConnection, hstop, shown_finish, written_append,
        hwritten] at hmem
      have hframe : FrameCodec.frameBytes .nack nack = ackFrame env.transactionId := by
        simpa [written] using hmem
      exact frameBytes_ack_ne_nack _ _ hframe.symm
    · exact absurd hboth hbad

end Consistency

/-- The sample connection, whose ACK goes out. -/
theorem sample_response_consistent :
    Consistent Sample.txId ((Sample.gateway.handleConnection "9f86d081884c7d65"
      [[1, 0, 0], [0, 196] ++ Sample.payload]).run Sample.outside.answer []).2 := by
  have hstop : readFrame [] [[1, 0, 0], [0, 196] ++ Sample.payload] =
      .frame .signedBundle Sample.payload [] := by decide +kernel
  have henv : TransactionEnvelope.fromBytes Sample.gateway.protobuf Sample.payload =
      .ok Sample.envelope := by decide +kernel
  apply (response_consistent_iff hstop henv).mpr
  intro _ b _ _
  exact ⟨by decide +kernel, rfl⟩

/-- The sample connection, reset when the ACK is drained: the bundle is ingested, then a
    NACK is written. -/
theorem sample_nack_after_ingestion :
    ¬ Consistent Sample.txId ((Sample.gateway.handleConnection "9f86d081884c7d65"
      [[1, 0, 0, 0, 196] ++ Sample.payload]).run
        { Sample.outside with
          drain := fun _ => .error ⟨.other "ConnectionResetError", "Connection lost"⟩ }.answer
        []).2 := by
  have hstop : readFrame [] [[1, 0, 0, 0, 196] ++ Sample.payload] =
      .frame .signedBundle Sample.payload [] := by decide +kernel
  have henv : TransactionEnvelope.fromBytes Sample.gateway.protobuf Sample.payload =
      .ok Sample.envelope := by decide +kernel
  have hverdict : verdict Sample.gateway
      { Sample.outside with
        drain := fun _ => .error ⟨.other "ConnectionResetError", "Connection lost"⟩ }
      "9f86d081884c7d65" Sample.envelope = .ok Sample.bundle := by rfl
  apply not_consistent_of_ingested Sample.txId hstop henv hverdict rfl
  rintro ⟨_, ⟨⟩⟩

end QsTie.GatewayB
