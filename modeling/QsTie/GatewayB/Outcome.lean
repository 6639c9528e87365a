import QsTie.GatewayB.Admission

/-!
# What a connection is answered

`verdict` is the decision of the receiver on a decoded envelope, free of calls and
of exceptions: a reason to reject it, or the bundle to ingest.  `outcome` is what
the connection then shows: the frames written and the bundles ingested.  The
theorem `outcome_handleConnection` says that the handler, over a transport that
takes what is written, does exactly that.

A response that is too large for a frame is not sent.  The outer handler then
tries a `MALFORMED` under the same id and the frame-error handler one under the
id `"0"`; `answered` is the frame that results.
-/

namespace QsTie.GatewayB

open QsTie.Lib

/-! ### The decision -/

def identityVerdict (proto : GatewayProtocol) (peerFingerprint senderId : String) :
    Except NackReason PyDict :=
  match proto.trustStore.getAgency senderId with
  | none => .error .unknownSender
  | some agency =>
    if agency.isEmpty then .error .unknownSender
    else
      match agency.getItem "tls_certificate_fingerprint" with
      | .error _ => .error .malformed
      | .ok expectedTlsFp =>
        if !expectedTlsFp.isStr peerFingerprint then .error .identityMismatch
        else
          match proto.revoked peerFingerprint agency with
          | .error _ => .error .malformed
          | .ok true => .error .revokedCert
          | .ok false => .ok agency

def bundleVerdict (proto : GatewayProtocol) (out : Outside) (compressed : Bytes) :
    Except NackReason PyVal :=
  match out.decompress compressed with
  | .error _ => .error .malformed
  | .ok stixBytes =>
    match proto.loads stixBytes with
    | .error _ => .error .malformed
    | .ok stixBundle =>
      match GatewayProtocol.isBundle stixBundle with
      | .error _ => .error .malformed
      | .ok false => .error .malformed
      | .ok true => .ok stixBundle

def signedVerdict (proto : GatewayProtocol) (out : Outside) (env : TransactionEnvelope)
    (agency : PyDict) : Except NackReason PyVal :=
  match agency.getItem "payload_signing_public_key_path" with
  | .error _ => .error .malformed
  | .ok pubkeyPath =>
    if !out.verifySignature env.stixBundleCompressed env.signature pubkeyPath then
      .error .sigInvalid
    else
      match InboundPep.evaluate proto.rules env.senderId env.recipientId env.tlpMarking.value with
      | .error _ => .error .malformed
      | .ok (false, _) => .error .policyDenied
      | .ok (true, _) => bundleVerdict proto out env.stixBundleCompressed

def verdict (proto : GatewayProtocol) (out : Outside) (peerFingerprint : String)
    (env : TransactionEnvelope) : Except NackReason PyVal :=
  if GatewayProtocol.missingField env then .error .malformed
  else
    match identityVerdict proto peerFingerprint env.senderId with
    | .error reason => .error reason
    | .ok agency => signedVerdict proto out env agency

theorem identityVerdict_eq_ok {proto : GatewayProtocol} {peerFingerprint senderId : String}
    {agency : PyDict} :
    identityVerdict proto peerFingerprint senderId = .ok agency ↔
      Trusted proto peerFingerprint senderId agency := by
  constructor
  · intro h
    simp only [identityVerdict] at h
    split at h
    · simp at h
    · rename_i agency' hknown
      split at h
      · simp at h
      · split at h
        · simp at h
        · rename_i expectedTlsFp hexpected
          split at h
          · simp at h
          · rename_i hmatch
            split at h
            · simp at h
            · simp at h
            · rename_i hrevoked
              obtain rfl : agency' = agency := by simpa using h
              have hfp : expectedTlsFp = .str peerFingerprint := by simpa using hmatch
              rw [hfp] at hexpected
              exact ⟨hknown, PyDict.getItem_eq_ok.mp hexpected, hrevoked⟩
  · rintro ⟨hknown, hcertificate, hrevoked⟩
    have hne : agency.isEmpty = false := by
      cases agency with
      | nil => simp [PyDict.get?] at hcertificate
      | cons _ _ => rfl
    have hitem : agency.getItem "tls_certificate_fingerprint" = .ok (.str peerFingerprint) :=
      PyDict.getItem_eq_ok.mpr hcertificate
    simp [identityVerdict, hknown, hne, hitem, hrevoked]

theorem bundleVerdict_eq_ok {proto : GatewayProtocol} {out : Outside} {compressed : Bytes}
    {b : PyVal} :
    bundleVerdict proto out compressed = .ok b ↔
      ∃ stixBytes, out.decompress compressed = .ok stixBytes ∧
        proto.loads stixBytes = .ok b ∧ GatewayProtocol.isBundle b = .ok true := by
  constructor
  · intro h
    simp only [bundleVerdict] at h
    split at h
    · simp at h
    · rename_i stixBytes hinflate
      split at h
      · simp at h
      · rename_i stixBundle hloads
        split at h
        · simp at h
        · simp at h
        · rename_i hbundle
          obtain rfl : stixBundle = b := by simpa using h
          exact ⟨stixBytes, hinflate, hloads, hbundle⟩
  · rintro ⟨stixBytes, hinflate, hloads, hbundle⟩
    simp [bundleVerdict, hinflate, hloads, hbundle]

/-- **The decision admits exactly what the receiver is for.** -/
theorem verdict_eq_ok {proto : GatewayProtocol} {out : Outside} {peerFingerprint : String}
    {env : TransactionEnvelope} {b : PyVal} :
    verdict proto out peerFingerprint env = .ok b ↔
      Admitted proto (fun c s path => out.verifySignature c s path = true)
        (fun data stixBytes => out.decompress data = .ok stixBytes) peerFingerprint env b := by
  constructor
  · intro h
    simp only [verdict] at h
    split at h
    · simp at h
    · rename_i hcomplete
      split at h
      · simp at h
      · rename_i agency hidentity
        simp only [signedVerdict] at h
        split at h
        · simp at h
        · rename_i pubkeyPath hpath
          split at h
          · simp at h
          · rename_i hverify
            split at h
            · simp at h
            · simp at h
            · rename_i reason hpolicy
              refine ⟨by simpa using hcomplete, ⟨agency, pubkeyPath,
                identityVerdict_eq_ok.mp hidentity, PyDict.getItem_eq_ok.mp hpath,
                by simpa using hverify⟩, ⟨reason, hpolicy⟩, bundleVerdict_eq_ok.mp h⟩
  · rintro ⟨hcomplete, ⟨agency, pubkeyPath, htrusted, hpath, hverify⟩, ⟨reason, hallowed⟩, hbundle⟩
    simp [verdict, signedVerdict, hcomplete, identityVerdict_eq_ok.mpr htrusted,
      PyDict.getItem_eq_ok.mpr hpath, hverify, hallowed, bundleVerdict_eq_ok.mpr hbundle]

/-! ### What the peer sees -/

/-- The response that shows the decision `v` under the id `txId`. -/
def responseTo (out : Outside) (txId : String) : Except NackReason PyVal → MessageType × Bytes
  | .error reason => (.nack, nackPayload txId reason)
  | .ok b =>
    if out.ingestBundle b then (.ack, ackPayload txId) else (.nack, nackPayload txId .ingestFailed)

def handedOver : Except NackReason PyVal → List PyVal
  | .error _ => []
  | .ok b => [b]

/-- The frame that is written for a response to a decoded envelope. -/
def answered (txId : String) (response : MessageType × Bytes) : Bytes :=
  if frameCodec.Fits response.2 then FrameCodec.frameBytes response.1 response.2
  else if NackFits txId .malformed then nackFrame txId .malformed
  else nackFrame "0" .malformed

/-- The frames written and the bundles ingested for the payload of a `SIGNED_BUNDLE`. -/
def payloadOutcome (proto : GatewayProtocol) (out : Outside) (peerFingerprint : String)
    (payload : Bytes) : List Bytes × List PyVal :=
  match TransactionEnvelope.fromBytes proto.protobuf payload with
  | .error _ => ([nackFrame "0" .malformed], [])
  | .ok env =>
    let decision := verdict proto out peerFingerprint env
    ([answered env.transactionId (responseTo out env.transactionId decision)],
      handedOver decision)

def outcome (proto : GatewayProtocol) (out : Outside) (peerFingerprint : String) :
    ReadEnd → List Bytes × List PyVal
  | .eof => ([], [])
  | .frameError _ => ([nackFrame "0" .malformed], [])
  | .frame t payload remaining =>
    if !remaining.isEmpty then ([nackFrame "0" .malformed], [])
    else if t != .signedBundle then ([nackFrame "0" .malformed], [])
    else payloadOutcome proto out peerFingerprint payload

theorem outcome_handed_le_one (proto : GatewayProtocol) (out : Outside) (peerFingerprint : String)
    (stop : ReadEnd) : (outcome proto out peerFingerprint stop).2.length ≤ 1 := by
  have hhanded : ∀ v : Except NackReason PyVal, (handedOver v).length ≤ 1 := by
    intro v
    cases v <;> simp [handedOver]
  cases stop with
  | eof => simp [outcome]
  | frameError e => simp [outcome]
  | frame t payload remaining =>
    simp only [outcome, payloadOutcome]
    split
    · simp
    · split
      · simp
      · split
        · simp
        · exact hhanded _

/-! ### Runs over a transport that takes what is written -/

/-- No `drain` fails. -/
def Outside.Healthy (out : Outside) : Prop := ∀ n, out.drain n = .ok ()

@[simp] theorem written_append (h h' : History) : written (h ++ h') = written h ++ written h' :=
  List.filterMap_append

@[simp] theorem ingested_append (h h' : History) :
    ingested (h ++ h') = ingested h ++ ingested h' :=
  List.filterMap_append

theorem countP_drain_write (h : History) (frame : Bytes) :
    List.countP (fun ev : Event Call Call.Ret => ev.op.isDrain) (h ++ [⟨.write frame, ()⟩]) =
      h.countP fun ev => ev.op.isDrain := by
  rw [List.countP_append]
  simp [Call.isDrain]

/-- A response that fits is written and drained. -/
theorem run_respond_of_fits (out : Outside) (h : History) {payload : Bytes}
    (hfits : frameCodec.Fits payload) (t : MessageType) :
    (respond t payload).run out.answer h =
      (out.drain (h.countP fun ev => ev.op.isDrain),
        h ++ [⟨.write (FrameCodec.frameBytes t payload), ()⟩,
          ⟨.drain, out.drain (h.countP fun ev => ev.op.isDrain)⟩]) := by
  simp only [respond]
  rw [frameCodec.encodeFrame_of_fits hfits]
  simp only [Prog.run_call, Outside.answer, countP_drain_write, List.append_assoc,
    List.singleton_append]
  cases out.drain (h.countP fun ev => ev.op.isDrain) <;> rfl

/-- A response that does not fit raises the frame error of the codec. -/
theorem run_respond_of_not_fits (ans : History → (op : Call) → op.Ret) (h : History)
    {payload : Bytes} (hfits : ¬ frameCodec.Fits payload) (t : MessageType) :
    ∃ e, e.isFrameError = true ∧ (respond t payload).run ans h = (.error e, h) := by
  have hmax : frameCodec.maxPayloadSize < payload.length := by
    have hdefault : frameCodec.maxPayloadSize = 10485760 := rfl
    simp only [FrameCodec.Fits] at hfits
    omega
  simp only [respond, FrameCodec.encodeFrame]
  simp only [hmax, if_true, Prog.run_raise]
  exact ⟨_, rfl, rfl⟩

/-- The run of `p` either writes the response, which then fits, or raises without writing,
    when it does not fit or `raises`; it ingests `bs`. -/
def Replies (out : Outside) (p : Conn Unit) (h : History) (response : MessageType × Bytes)
    (raises : Prop) (bs : List PyVal) : Prop :=
  (frameCodec.Fits response.2 ∧ ∃ h', p.run out.answer h = (.ok (), h') ∧
    written h' = written h ++ [FrameCodec.frameBytes response.1 response.2] ∧
    ingested h' = ingested h ++ bs) ∨
  ((frameCodec.Fits response.2 → raises) ∧ ∃ e h', p.run out.answer h = (.error e, h') ∧
    written h' = written h ∧ ingested h' = ingested h ++ bs)

/-- The run of `p` shows the decision `v`.  Only a malformed request may also raise: the
    outer handler then sends the same NACK. -/
def Decides (out : Outside) (p : Conn Unit) (h : History) (txId : String)
    (v : Except NackReason PyVal) : Prop :=
  Replies out p h (responseTo out txId v) (v = .error .malformed) (handedOver v)

section Runs

variable {out : Outside} {h : History} {response : MessageType × Bytes} {raises : Prop}
  {bs : List PyVal} {txId : String} {reason : NackReason} {v : Except NackReason PyVal}

theorem replies_respond (hout : out.Healthy) (t : MessageType) (payload : Bytes) :
    Replies out (respond t payload) h (t, payload) raises [] := by
  by_cases hfits : frameCodec.Fits payload
  · left
    have hrun := run_respond_of_fits out h hfits t
    rw [hout] at hrun
    refine ⟨hfits, _, hrun, ?_, ?_⟩
    · rw [written_append]; rfl
    · rw [ingested_append]; rfl
  · right
    obtain ⟨e, _, hrun⟩ := run_respond_of_not_fits out.answer h hfits t
    exact ⟨fun hf => absurd hf hfits, e, h, hrun, rfl, by simp⟩

/-- A call that does not write, with what it hands over in front of the rest. -/
theorem replies_call {op : Call} {k : op.Ret → Conn Unit}
    (hw : written [⟨op, out.answer h op⟩] = [])
    (hk : Replies out (k (out.answer h op)) (h ++ [⟨op, out.answer h op⟩]) response raises bs) :
    Replies out (.call op k) h response raises (ingested [⟨op, out.answer h op⟩] ++ bs) := by
  have hw' : written (h ++ [⟨op, out.answer h op⟩]) = written h := by
    rw [written_append, hw, List.append_nil]
  simp only [Replies] at hk ⊢
  rw [hw', ingested_append, List.append_assoc] at hk
  exact hk

theorem decides_call {op : Call} {k : op.Ret → Conn Unit}
    (hw : written [⟨op, out.answer h op⟩] = []) (hi : ingested [⟨op, out.answer h op⟩] = [])
    (hk : Decides out (k (out.answer h op)) (h ++ [⟨op, out.answer h op⟩]) txId v) :
    Decides out (.call op k) h txId v := by
  have hcall := replies_call hw hk
  rw [hi] at hcall
  exact hcall

theorem decides_raise (e : PyExc) : Decides out (.raise e) h txId (.error .malformed) :=
  Or.inr ⟨fun _ => rfl, e, h, rfl, rfl, by simp [handedOver]⟩

/-- Every NACK under `txId` is sent or, when it does not fit, raises. -/
def Sends (out : Outside) (txId : String) : Prop :=
  ∀ h reason, Decides out (sendNack txId reason) h txId (.error reason)

theorem sends_of_healthy (hout : out.Healthy) : Sends out txId := by
  intro h reason
  simp only [sendNack]
  exact replies_respond hout .nack _

/-- Where no NACK fits, nothing depends on the transport. -/
theorem sends_of_not_fits (hno : ∀ reason, ¬ NackFits txId reason) : Sends out txId := by
  intro h reason
  right
  obtain ⟨e, _, hrun⟩ := run_respond_of_not_fits out.answer h (hno reason) .nack
  refine ⟨fun hfits => absurd hfits (hno reason), e, h, ?_, rfl, by simp [handedOver]⟩
  simp only [sendNack]
  exact hrun

/-- The NACK sent inside a `try` whose handler sends it again. -/
theorem decides_resend (hsend : Sends out txId) :
    Decides out ((sendNack txId .malformed).tryCatch fun _ => sendNack txId .malformed) h txId
      (.error .malformed) := by
  rcases hsend h .malformed with ⟨hfits, h', hrun, hw, hi⟩ | ⟨_, e, h', hrun, hw, hi⟩
  · left
    exact ⟨hfits, h', by rw [Prog.run_tryCatch, hrun], hw, hi⟩
  · -- the first attempt raised after writing nothing
    have hagain := hsend h' .malformed
    simp only [Decides, Replies] at hagain ⊢
    rw [Prog.run_tryCatch, hrun]
    rw [hw, hi] at hagain
    simpa [handedOver] using hagain

/-! ### The stages -/

/-- The telemetry record after the ACK writes nothing. -/
theorem replies_ackStage (hout : out.Healthy) (env : TransactionEnvelope)
    (tReceived tVerified tIngested : Nat) :
    Replies out (GatewayProtocol.ackStage env tReceived tVerified tIngested) h
      (.ack, ackPayload env.transactionId) raises [] := by
  have hsend : Replies out (sendAck env.transactionId) h (.ack, ackPayload env.transactionId)
      raises [] := replies_respond hout .ack _
  simp only [GatewayProtocol.ackStage]
  rcases hsend with ⟨hfits, h', hrun, hw, hi⟩ | ⟨hraises, e, h', hrun, hw, hi⟩
  · left
    refine ⟨hfits, _, by rw [Prog.run_bind, hrun]; rfl, ?_, ?_⟩
    · rw [written_append, hw]; simp [written]
    · rw [ingested_append, hi]; simp [ingested]
  · right
    exact ⟨hraises, e, h', by rw [Prog.run_bind, hrun], hw, hi⟩

/-- After the bundle is handed over, the answer of the ingestor decides. -/
theorem decides_ingestStage (hout : out.Healthy) (env : TransactionEnvelope)
    (tReceived tVerified : Nat) (b : PyVal) :
    Decides out (GatewayProtocol.ingestStage env tReceived tVerified b) h env.transactionId
      (.ok b) := by
  apply replies_call rfl
  have hanswer : out.answer h (.ingestBundle b) = out.ingestBundle b := rfl
  rw [hanswer]
  cases hb : out.ingestBundle b with
  | false =>
    simp only [responseTo, hb, Bool.false_eq_true, if_false, Bool.not_false, if_true]
    simp only [sendNack]
    exact replies_respond hout .nack _
  | true =>
    simp only [responseTo, hb, if_true, Bool.not_true, Bool.false_eq_true, if_false]
    exact replies_call rfl (replies_ackStage hout env tReceived tVerified _)

section Stages

variable {proto : GatewayProtocol} {env : TransactionEnvelope}

/-- The last two stages show the answer of the ingestor, if the bundle can be read. -/
def Ingests (proto : GatewayProtocol) (out : Outside) (env : TransactionEnvelope) : Prop :=
  ∀ h tReceived tVerified b, bundleVerdict proto out env.stixBundleCompressed = .ok b →
    Decides out (GatewayProtocol.ingestStage env tReceived tVerified b) h env.transactionId (.ok b)

theorem ingests_of_healthy (hout : out.Healthy) : Ingests proto out env := by
  intro h tReceived tVerified b _
  exact decides_ingestStage hout env tReceived tVerified b

theorem decides_decompressStage (hsend : Sends out env.transactionId)
    (hingest : Ingests proto out env) (tReceived tVerified : Nat) :
    Decides out (proto.decompressStage env tReceived tVerified) h env.transactionId
      (bundleVerdict proto out env.stixBundleCompressed) := by
  apply decides_call rfl rfl
  have hanswer : out.answer h (.decompress env.stixBundleCompressed) =
      out.decompress env.stixBundleCompressed := rfl
  rw [hanswer]
  simp only [bundleVerdict]
  cases hinflate : out.decompress env.stixBundleCompressed with
  | error e => exact hsend _ _
  | ok stixBytes =>
    simp only [GatewayProtocol.validateStage]
    cases hloads : proto.loads stixBytes with
    | error e => exact hsend _ _
    | ok stixBundle =>
      simp only
      cases hbundle : GatewayProtocol.isBundle stixBundle with
      | error e => exact hsend _ _
      | ok isBundle =>
        cases isBundle with
        | false => exact decides_resend hsend
        | true =>
          exact hingest _ _ _ stixBundle
            (bundleVerdict_eq_ok.mpr ⟨stixBytes, hinflate, hloads, hbundle⟩)

/-- The decision from the signature on. -/
theorem decides_verifyStage (hsend : Sends out env.transactionId)
    (hingest : Ingests proto out env) (agency : PyDict) (tReceived : Nat) :
    Decides out (proto.verifyStage env agency tReceived) h env.transactionId
      (signedVerdict proto out env agency) := by
  simp only [signedVerdict, GatewayProtocol.verifyStage]
  cases agency.getItem "payload_signing_public_key_path" with
  | error e => exact decides_raise e
  | ok pubkeyPath =>
    apply decides_call rfl rfl
    have hanswer : out.answer h (.verifySignature env.stixBundleCompressed env.signature
        pubkeyPath) = out.verifySignature env.stixBundleCompressed env.signature pubkeyPath := rfl
    rw [hanswer]
    simp only
    cases out.verifySignature env.stixBundleCompressed env.signature pubkeyPath with
    | false => exact hsend _ _
    | true =>
      simp only [Bool.not_true, Bool.false_eq_true, if_false]
      apply decides_call rfl rfl
      simp only [GatewayProtocol.policyStage]
      cases InboundPep.evaluate proto.rules env.senderId env.recipientId
          env.tlpMarking.value with
      | error e => exact decides_raise e
      | ok decision =>
        obtain ⟨allow, reason⟩ := decision
        cases allow with
        | false => exact hsend _ _
        | true => exact decides_decompressStage hsend hingest tReceived _

theorem decides_identityStage (hsend : Sends out env.transactionId)
    (hingest : Ingests proto out env) (peerFingerprint : String) (tReceived : Nat) :
    Decides out (proto.identityStage env peerFingerprint tReceived) h env.transactionId
      (match identityVerdict proto peerFingerprint env.senderId with
      | .error reason => .error reason
      | .ok agency => signedVerdict proto out env agency) := by
  simp only [GatewayProtocol.identityStage, identityVerdict]
  cases proto.trustStore.getAgency env.senderId with
  | none => exact hsend _ _
  | some agency =>
    simp only
    cases agency.isEmpty with
    | true => exact hsend _ _
    | false =>
      simp only [Bool.false_eq_true, if_false]
      cases agency.getItem "tls_certificate_fingerprint" with
      | error e => exact decides_raise e
      | ok expectedTlsFp =>
        simp only
        cases expectedTlsFp.isStr peerFingerprint with
        | false => exact hsend _ _
        | true =>
          simp only [Bool.not_true, Bool.false_eq_true, if_false]
          cases proto.revoked peerFingerprint agency with
          | error e => exact decides_raise e
          | ok revoked =>
            cases revoked with
            | true => exact hsend _ _
            | false => exact decides_verifyStage hsend hingest agency tReceived

theorem decides_envelopeStages (hsend : Sends out env.transactionId)
    (hingest : GatewayProtocol.missingField env = false → Ingests proto out env)
    (peerFingerprint : String) (tReceived : Nat) :
    Decides out (proto.envelopeStages env peerFingerprint tReceived) h env.transactionId
      (verdict proto out peerFingerprint env) := by
  simp only [GatewayProtocol.envelopeStages, verdict]
  cases hmissing : GatewayProtocol.missingField env with
  | true => exact decides_resend hsend
  | false => exact decides_identityStage hsend (hingest hmissing) peerFingerprint tReceived

end Stages

/-! ### The connection -/

theorem nackFits_zero : NackFits "0" .malformed := by decide +kernel

theorem run_sendNack_zero (hout : out.Healthy) :
    ∃ h', (sendNack "0" .malformed).run out.answer h = (.ok (), h') ∧
      written h' = written h ++ [nackFrame "0" .malformed] ∧ ingested h' = ingested h := by
  have hsend : Replies out (respond .nack (nackPayload "0" .malformed)) h
      (.nack, nackPayload "0" .malformed) False [] := replies_respond hout .nack _
  rcases hsend with ⟨_, h', hrun, hw, hi⟩ | ⟨hno, _⟩
  · exact ⟨h', by unfold sendNack; exact hrun, hw, by simpa using hi⟩
  · exact absurd (hno nackFits_zero) id

/-- A response that cannot be sent is replaced twice over, and the last replacement fits. -/
theorem run_recover (hout : out.Healthy) {p : Conn Unit} (hp : Decides out p h txId v) :
    ∃ h', (GatewayProtocol.catchFrameError
        (p.tryCatch fun _ => sendNack txId .malformed)).run out.answer h = (.ok (), h') ∧
      written h' = written h ++ [answered txId (responseTo out txId v)] ∧
      ingested h' = ingested h ++ handedOver v := by
  simp only [GatewayProtocol.catchFrameError, answered]
  rw [Prog.run_tryCatch, Prog.run_tryCatch]
  rcases hp with ⟨hfits, h', hrun, hw, hi⟩ | ⟨hraises, e, h', hrun, hw, hi⟩
  · rw [if_pos hfits, hrun]
    exact ⟨h', rfl, hw, hi⟩
  · rw [hrun]
    simp only
    have hframe : (if frameCodec.Fits (responseTo out txId v).2 then
          FrameCodec.frameBytes (responseTo out txId v).1 (responseTo out txId v).2
        else if NackFits txId .malformed then nackFrame txId .malformed
        else nackFrame "0" .malformed) =
        if NackFits txId .malformed then nackFrame txId .malformed
        else nackFrame "0" .malformed := by
      by_cases hfits : frameCodec.Fits (responseTo out txId v).2
      · -- only a malformed request raises although its NACK fits
        have hv : v = .error .malformed := hraises hfits
        subst hv
        have hnack : NackFits txId .malformed := hfits
        rw [if_pos hfits, if_pos hnack]
        rfl
      · rw [if_neg hfits]
    rw [hframe]
    by_cases hfits : NackFits txId .malformed
    · have hsend : Replies out (respond .nack (nackPayload txId .malformed)) h'
          (.nack, nackPayload txId .malformed) False [] := replies_respond hout .nack _
      rcases hsend with ⟨_, h'', hrun', hw', hi'⟩ | ⟨hno, _⟩
      · refine ⟨h'', by unfold sendNack; rw [hrun'], ?_, by rw [hi', hi, List.append_nil]⟩
        rw [hw', hw, if_pos hfits]
        rfl
      · exact absurd (hno hfits) id
    · obtain ⟨e', hframeError, hrun'⟩ := run_respond_of_not_fits out.answer h' hfits .nack
      obtain ⟨h'', hzero, hw', hi'⟩ := run_sendNack_zero hout
      refine ⟨h'', ?_, ?_, by rw [hi', hi]⟩
      · have hsend : (sendNack txId .malformed).run out.answer h' = (.error e', h') := by
          unfold sendNack; exact hrun'
        rw [hsend]
        simp only [hframeError, if_true]
        exact hzero
      · rw [hw', hw, if_neg hfits]

theorem run_catchFrameError_of_ok {p : Conn Unit} {h' : History}
    (hrun : p.run out.answer h = (.ok (), h')) :
    (GatewayProtocol.catchFrameError p).run out.answer h = (.ok (), h') := by
  simp only [GatewayProtocol.catchFrameError]
  rw [Prog.run_tryCatch, hrun]

/-- A payload that is no envelope is answered under the id `"0"`. -/
theorem run_processTransaction (hout : out.Healthy) (proto : GatewayProtocol)
    (peerFingerprint : String) (payload : Bytes) :
    ∃ h', (GatewayProtocol.catchFrameError
        (proto.processTransaction payload peerFingerprint)).run out.answer [] = (.ok (), h') ∧
      (written h', ingested h') = payloadOutcome proto out peerFingerprint payload := by
  simp only [GatewayProtocol.processTransaction, payloadOutcome]
  -- the clock is read first
  have hfirst : ∀ k : Nat → Conn Unit,
      (GatewayProtocol.catchFrameError (.call .timeNs k)).run out.answer [] =
        (GatewayProtocol.catchFrameError (k (out.clock 0))).run out.answer
          [⟨.timeNs, out.clock 0⟩] := fun _ => rfl
  rw [hfirst]
  cases TransactionEnvelope.fromBytes proto.protobuf payload with
  | error e =>
    obtain ⟨h', hrun, hw, hi⟩ := run_sendNack_zero (h := [⟨.timeNs, out.clock 0⟩]) hout
    refine ⟨h', run_catchFrameError_of_ok ?_, by rw [hw, hi]; rfl⟩
    rw [Prog.run_tryCatch, hrun]
  | ok env =>
    have hdecides : Decides out (proto.envelopeStages env peerFingerprint (out.clock 0))
        [⟨.timeNs, out.clock 0⟩] env.transactionId (verdict proto out peerFingerprint env) :=
      decides_envelopeStages (sends_of_healthy hout) (fun _ => ingests_of_healthy hout) _ _
    obtain ⟨h', hrun, hw, hi⟩ := run_recover hout hdecides
    exact ⟨h', hrun, by rw [hw, hi]; rfl⟩

/-- The loop body shows the outcome of what was read. -/
theorem run_handleRead (hout : out.Healthy) (proto : GatewayProtocol) (peerFingerprint : String)
    (stop : ReadEnd) :
    ∃ h', (proto.handleRead peerFingerprint stop).run out.answer [] = (.ok (), h') ∧
      (written h', ingested h') = outcome proto out peerFingerprint stop := by
  obtain ⟨h', hrun, hw, hi⟩ := run_sendNack_zero (h := []) hout
  have hshown : (written h', ingested h') = ([nackFrame "0" .malformed], []) := by
    rw [hw, hi]; rfl
  cases stop with
  | eof => exact ⟨[], rfl, rfl⟩
  | frameError e => exact ⟨h', hrun, hshown⟩
  | frame t payload remaining =>
    simp only [GatewayProtocol.handleRead, outcome]
    split
    · exact ⟨h', run_catchFrameError_of_ok hrun, hshown⟩
    · split
      · exact ⟨h', run_catchFrameError_of_ok hrun, hshown⟩
      · exact run_processTransaction hout proto peerFingerprint payload

/-- Closing writes and ingests nothing. -/
theorem shown_finish (proto : GatewayProtocol) (peerFingerprint : String) (stop : ReadEnd) :
    let h := ((proto.handleRead peerFingerprint stop).run out.answer []).2
    let h' := ((proto.finish peerFingerprint stop).run out.answer []).2
    h' = h ++ [⟨.close, ()⟩, ⟨.waitClosed, out.waitClosed⟩] := by
  intro h h'
  have hread : ((proto.handleRead peerFingerprint stop).tryCatch fun _ => pure ()).run
      out.answer [] = (.ok (), h) := by
    rw [Prog.run_tryCatch]
    cases hrun : (proto.handleRead peerFingerprint stop).run out.answer [] with
    | mk r hist => cases r <;> simp [h, hrun]
  simp only [h', GatewayProtocol.finish]
  rw [Prog.run_bind, hread]
  simp only [Prog.run_bind, Prog.run_perform, Outside.answer, List.append_assoc]
  cases out.waitClosed <;> rfl

/-- **What a connection shows.**  Over a transport that takes what is written, the handler
    writes and ingests exactly the outcome of what it read. -/
theorem outcome_handleConnection (hout : out.Healthy) (proto : GatewayProtocol)
    (peerFingerprint : String) (reads : List Bytes) :
    let h := ((proto.handleConnection peerFingerprint reads).run out.answer []).2
    (written h, ingested h) = outcome proto out peerFingerprint (readFrame [] reads) := by
  obtain ⟨h', hrun, hshown⟩ := run_handleRead hout proto peerFingerprint (readFrame [] reads)
  have hclose := @shown_finish out proto peerFingerprint (readFrame [] reads)
  rw [hrun] at hclose
  simp only [GatewayProtocol.handleConnection]
  rw [hclose, ← hshown, written_append, ingested_append]
  simp [written, ingested]

end Runs

end QsTie.GatewayB
