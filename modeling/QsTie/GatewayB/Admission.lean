import QsTie.GatewayB.Protocol

/-!
# What Gateway B ingests

`Admitted` states what the receiver is for: a bundle is handed to OpenCTI only for
a complete envelope of a known, unrevoked sender on its own TLS certificate,
verified under that sender's key, allowed by the inbound policy, and holding a
STIX bundle.  It is relative to what counts as verified and as decompressed, so
that the same conditions can be read off the calls of a connection or off fixed
answers.

The handler meets the contract `gate`: every call of the ingestor is for an
admitted bundle, every decompression follows a verification of the same bytes,
and an ACK follows a successful ingestion.  It calls the ingestor at most once.
-/

namespace QsTie.GatewayB

open QsTie.Lib

/-- Stage 3 passes: the sender is known under the peer's certificate and neither its
    certificate nor its signing key is revoked. -/
structure Trusted (proto : GatewayProtocol) (peerFingerprint senderId : String)
    (agency : PyDict) : Prop where
  known : proto.trustStore.getAgency senderId = some agency
  certificate : agency.get? "tls_certificate_fingerprint" = some (.str peerFingerprint)
  unrevoked : proto.revoked peerFingerprint agency = .ok false

/-- All checks before ingestion pass for the envelope and give the bundle `b`. -/
structure Admitted (proto : GatewayProtocol) (verified : Bytes → Bytes → PyVal → Prop)
    (inflated : Bytes → Bytes → Prop) (peerFingerprint : String) (env : TransactionEnvelope)
    (b : PyVal) : Prop where
  complete : GatewayProtocol.missingField env = false
  signed : ∃ agency pubkeyPath, Trusted proto peerFingerprint env.senderId agency ∧
    agency.get? "payload_signing_public_key_path" = some pubkeyPath ∧
    verified env.stixBundleCompressed env.signature pubkeyPath
  allowed : InboundPep.Allows proto.rules env.senderId env.recipientId env.tlpMarking.value
  bundle : ∃ stixBytes, inflated env.stixBundleCompressed stixBytes ∧
    proto.loads stixBytes = .ok b ∧ GatewayProtocol.isBundle b = .ok true

/-! ### What the conditions say -/

theorem GatewayProtocol.missingField_eq_false {env : TransactionEnvelope} :
    missingField env = false ↔ env.transactionId ≠ "" ∧ env.senderId ≠ "" ∧
      env.signature ≠ [] ∧ env.stixBundleCompressed ≠ [] := by
  simp only [missingField, Bool.or_eq_false_iff, beq_eq_false_iff_ne, List.isEmpty_eq_false_iff,
    and_assoc]

/-- Not revoked: neither the peer's fingerprint nor the key's is in the set. -/
theorem Trusted.not_revoked {proto : GatewayProtocol} {peerFingerprint senderId : String}
    {agency : PyDict} (h : Trusted proto peerFingerprint senderId agency) :
    PyVal.str peerFingerprint ∉ proto.trustStore.revokedFingerprints ∧
    ∃ keyFingerprint,
      agency.get? "payload_signing_public_key_fingerprint" = some keyFingerprint ∧
      ∀ revoked ∈ proto.trustStore.revokedFingerprints,
        revoked.scalarEq keyFingerprint = false := by
  have hrev := h.unrevoked
  simp only [GatewayProtocol.revoked] at hrev
  split at hrev
  · simp at hrev
  · simp at hrev
  · rename_i hpeer
    constructor
    · intro hmem
      have htrue := (proto.trustStore.isRevoked_str peerFingerprint).mpr hmem
      rw [htrue] at hpeer
      simp at hpeer
    · split at hrev
      · simp at hrev
      · rename_i keyFingerprint hkey
        exact ⟨keyFingerprint, PyDict.getItem_eq_ok.mp hkey,
          proto.trustStore.not_mem_of_isRevoked_false hrev⟩

theorem GatewayProtocol.isBundle_eq_true {b : PyVal} (h : isBundle b = .ok true) :
    ∃ items, b = .dict items ∧ PyDict.get? items "type" = some (.str "bundle") ∧
      PyDict.contains items "objects" = true := by
  cases b with
  | dict items =>
    simp only [isBundle, Except.ok.injEq, Bool.and_eq_true] at h
    obtain ⟨htype, hobjects⟩ := h
    refine ⟨items, rfl, ?_, hobjects⟩
    cases hget : PyDict.get? items "type" with
    | none => rw [hget] at htype; simp at htype
    | some v =>
      rw [hget] at htype
      simp only [PyVal.isStr_iff] at htype
      rw [htype]
  | _ => simp [isBundle] at h

/-! ### The contract of the handler -/

def verifiedIn (h : History) (compressed signature : Bytes) (pubkeyPath : PyVal) : Prop :=
  ⟨.verifySignature compressed signature pubkeyPath, true⟩ ∈ h

def inflatedIn (h : History) (data stixBytes : Bytes) : Prop :=
  ⟨.decompress data, .ok stixBytes⟩ ∈ h

/-- The payload a frame carries, and what may be ingested for it. -/
def admits (proto : GatewayProtocol) (peerFingerprint : String) (stop : ReadEnd) (h : History)
    (b : PyVal) : Prop :=
  ∃ payload env, stop = .frame .signedBundle payload [] ∧
    TransactionEnvelope.fromBytes proto.protobuf payload = .ok env ∧
    Admitted proto (verifiedIn h) (inflatedIn h) peerFingerprint env b

/-- An ACK is for an envelope that is admitted and whose bundle is ingested. -/
def acknowledges (proto : GatewayProtocol) (peerFingerprint : String) (stop : ReadEnd)
    (h : History) (frame : Bytes) : Prop :=
  ∃ payload env b, stop = .frame .signedBundle payload [] ∧
    TransactionEnvelope.fromBytes proto.protobuf payload = .ok env ∧
    Admitted proto (verifiedIn h) (inflatedIn h) peerFingerprint env b ∧
    ⟨.ingestBundle b, true⟩ ∈ h ∧ AckFits env.transactionId ∧
    frame = ackFrame env.transactionId

/-- Ingest only what is admitted, decompress only what is verified, acknowledge only what
    is ingested. -/
def gate (proto : GatewayProtocol) (peerFingerprint : String) (stop : ReadEnd) :
    Contract Call Call.Ret where
  pre := fun h op =>
    match op with
    | .ingestBundle b => admits proto peerFingerprint stop h b
    | .decompress data => ∃ signature pubkeyPath, verifiedIn h data signature pubkeyPath
    | .write frame =>
      (∃ txId reason, frame = nackFrame txId reason) ∨
        acknowledges proto peerFingerprint stop h frame
    | _ => True
  resp := fun _ _ _ => True

theorem verifiedIn.mono {h h' : History} (hle : h <+: h') {compressed signature : Bytes}
    {pubkeyPath : PyVal} (hv : verifiedIn h compressed signature pubkeyPath) :
    verifiedIn h' compressed signature pubkeyPath :=
  hle.subset hv

/-- What is admitted stays admitted as the history grows. -/
theorem Admitted.mono {proto : GatewayProtocol} {peerFingerprint : String}
    {env : TransactionEnvelope} {b : PyVal} {h h' : History} (hle : h <+: h')
    (hadmitted : Admitted proto (verifiedIn h) (inflatedIn h) peerFingerprint env b) :
    Admitted proto (verifiedIn h') (inflatedIn h') peerFingerprint env b := by
  obtain ⟨hcomplete, ⟨agency, pubkeyPath, htrusted, hpath, hverified⟩, hallowed,
    ⟨stixBytes, hinflated, hbundle⟩⟩ := hadmitted
  exact ⟨hcomplete, ⟨agency, pubkeyPath, htrusted, hpath, hverified.mono hle⟩, hallowed,
    ⟨stixBytes, hle.subset hinflated, hbundle⟩⟩

section Gate

variable {proto : GatewayProtocol} {peerFingerprint : String} {stop : ReadEnd} {h : History}

/-- A response calls neither zlib nor the ingestor. -/
theorem gate_respond {t : MessageType} {payload : Bytes}
    (hwrite : frameCodec.Fits payload →
      (gate proto peerFingerprint stop).pre h (.write (FrameCodec.frameBytes t payload))) :
    (respond t payload).wp (gate proto peerFingerprint stop) (fun _ _ => True) h := by
  simp only [respond]
  split
  · trivial
  · rename_i frame hencode
    obtain ⟨hfits, rfl⟩ := frameCodec.encodeFrame_eq_ok.mp hencode
    refine ⟨hwrite hfits, ?_⟩
    intro _ _
    refine ⟨trivial, ?_⟩
    intro drained _
    cases drained <;> trivial

theorem gate_sendNack (txId : String) (reason : NackReason) :
    (sendNack txId reason).wp (gate proto peerFingerprint stop) (fun _ _ => True) h := by
  simp only [sendNack]
  exact gate_respond fun _ => Or.inl ⟨txId, reason, rfl⟩

theorem gate_tryCatch {p : Conn Unit} {f : PyExc → Conn Unit}
    (hp : p.wp (gate proto peerFingerprint stop) (fun _ _ => True) h)
    (hf : ∀ e h', (f e).wp (gate proto peerFingerprint stop) (fun _ _ => True) h') :
    (p.tryCatch f).wp (gate proto peerFingerprint stop) (fun _ _ => True) h := by
  apply Prog.wp_tryCatch
  apply Prog.wp_mono _ hp
  intro r h' _
  cases r with
  | ok _ => trivial
  | error e => exact hf e h'

theorem gate_bind {p : Conn Unit} {f : Unit → Conn Unit}
    (hp : p.wp (gate proto peerFingerprint stop) (fun _ _ => True) h)
    (hf : ∀ a h', (f a).wp (gate proto peerFingerprint stop) (fun _ _ => True) h') :
    (p >>= f).wp (gate proto peerFingerprint stop) (fun _ _ => True) h := by
  apply Prog.wp_bind
  apply Prog.wp_mono _ hp
  intro r h' _
  cases r with
  | ok a => exact hf a h'
  | error e => trivial

theorem gate_ackStage {env : TransactionEnvelope} {tReceived tVerified tIngested : Nat}
    (hack : AckFits env.transactionId →
      acknowledges proto peerFingerprint stop h (ackFrame env.transactionId)) :
    (GatewayProtocol.ackStage env tReceived tVerified tIngested).wp
      (gate proto peerFingerprint stop) (fun _ _ => True) h := by
  apply gate_bind (gate_respond fun hfits => Or.inr (hack hfits))
  intro _ h'
  exact ⟨trivial, fun _ _ => trivial⟩

theorem gate_ingestStage {env : TransactionEnvelope} {payload : Bytes}
    {tReceived tVerified : Nat} {b : PyVal} (hstop : stop = .frame .signedBundle payload [])
    (henv : TransactionEnvelope.fromBytes proto.protobuf payload = .ok env)
    (hadmitted : Admitted proto (verifiedIn h) (inflatedIn h) peerFingerprint env b) :
    (GatewayProtocol.ingestStage env tReceived tVerified b).wp
      (gate proto peerFingerprint stop) (fun _ _ => True) h := by
  refine ⟨⟨payload, env, hstop, henv, hadmitted⟩, ?_⟩
  intro ingested _
  cases ingested with
  | false => exact gate_sendNack _ _
  | true =>
    refine ⟨trivial, ?_⟩
    intro tIngested _
    apply gate_ackStage
    intro hfits
    refine ⟨payload, env, b, hstop, henv, hadmitted.mono ⟨_, (List.append_assoc _ _ _).symm⟩, ?_,
      hfits, rfl⟩
    simp

/-- Once the payload's envelope has passed the checks up to the policy, the remaining
    stages keep the gate. -/
theorem gate_decompressStage {env : TransactionEnvelope} {payload : Bytes}
    {tReceived tVerified : Nat} (hstop : stop = .frame .signedBundle payload [])
    (henv : TransactionEnvelope.fromBytes proto.protobuf payload = .ok env)
    (hcomplete : GatewayProtocol.missingField env = false)
    (hsigned : ∃ agency pubkeyPath, Trusted proto peerFingerprint env.senderId agency ∧
      agency.get? "payload_signing_public_key_path" = some pubkeyPath ∧
      verifiedIn h env.stixBundleCompressed env.signature pubkeyPath)
    (hallowed : InboundPep.Allows proto.rules env.senderId env.recipientId
      env.tlpMarking.value) :
    (proto.decompressStage env tReceived tVerified).wp
      (gate proto peerFingerprint stop) (fun _ _ => True) h := by
  obtain ⟨agency, pubkeyPath, htrusted, hpath, hverified⟩ := hsigned
  refine ⟨⟨_, _, hverified⟩, ?_⟩
  intro decompressed _
  cases decompressed with
  | error e => exact gate_sendNack _ _
  | ok stixBytes =>
    simp only [GatewayProtocol.validateStage]
    cases hloads : proto.loads stixBytes with
    | error e => exact gate_sendNack _ _
    | ok b =>
      simp only
      split
      · exact gate_sendNack _ _
      · exact gate_tryCatch (gate_sendNack _ _) fun _ _ => gate_sendNack _ _
      · rename_i hbundle
        apply gate_ingestStage hstop henv
        refine ⟨hcomplete, ?_, hallowed, ?_⟩
        · exact ⟨agency, pubkeyPath, htrusted, hpath, List.mem_append_left _ hverified⟩
        · exact ⟨stixBytes, List.mem_append_right _ (by simp), hloads, hbundle⟩

theorem gate_verifyStage {env : TransactionEnvelope} {payload : Bytes} {agency : PyDict}
    {tReceived : Nat} (hstop : stop = .frame .signedBundle payload [])
    (henv : TransactionEnvelope.fromBytes proto.protobuf payload = .ok env)
    (hcomplete : GatewayProtocol.missingField env = false)
    (htrusted : Trusted proto peerFingerprint env.senderId agency) :
    (proto.verifyStage env agency tReceived).wp
      (gate proto peerFingerprint stop) (fun _ _ => True) h := by
  simp only [GatewayProtocol.verifyStage]
  split
  · trivial
  · rename_i pubkeyPath hpath
    refine ⟨trivial, ?_⟩
    intro isValid _
    cases isValid with
    | false => exact gate_sendNack _ _
    | true =>
      refine ⟨trivial, ?_⟩
      intro tVerified _
      simp only [GatewayProtocol.policyStage]
      split
      · trivial
      · exact gate_sendNack _ _
      · rename_i reason hpolicy
        apply gate_decompressStage hstop henv hcomplete
        · refine ⟨agency, pubkeyPath, htrusted, PyDict.getItem_eq_ok.mp hpath, ?_⟩
          simp [verifiedIn]
        · exact ⟨reason, hpolicy⟩

theorem gate_identityStage {env : TransactionEnvelope} {payload : Bytes} {tReceived : Nat}
    (hstop : stop = .frame .signedBundle payload [])
    (henv : TransactionEnvelope.fromBytes proto.protobuf payload = .ok env)
    (hcomplete : GatewayProtocol.missingField env = false) :
    (proto.identityStage env peerFingerprint tReceived).wp
      (gate proto peerFingerprint stop) (fun _ _ => True) h := by
  simp only [GatewayProtocol.identityStage]
  split
  · exact gate_sendNack _ _
  · rename_i agency hknown
    split
    · exact gate_sendNack _ _
    · split
      · trivial
      · rename_i expectedTlsFp hexpected
        split
        · exact gate_sendNack _ _
        · rename_i hmatch
          split
          · trivial
          · exact gate_sendNack _ _
          · rename_i hrevoked
            have hfp : expectedTlsFp = .str peerFingerprint := by simpa using hmatch
            rw [hfp] at hexpected
            exact gate_verifyStage hstop henv hcomplete
              ⟨hknown, PyDict.getItem_eq_ok.mp hexpected, hrevoked⟩

theorem gate_processTransaction {payload : Bytes}
    (hstop : stop = .frame .signedBundle payload []) :
    (proto.processTransaction payload peerFingerprint).wp
      (gate proto peerFingerprint stop) (fun _ _ => True) h := by
  refine ⟨trivial, ?_⟩
  intro tReceived _
  cases henv : TransactionEnvelope.fromBytes proto.protobuf payload with
  | error e => exact gate_tryCatch (gate_sendNack _ _) fun _ _ => gate_sendNack _ _
  | ok env =>
    apply gate_tryCatch _ fun _ _ => gate_sendNack _ _
    simp only [GatewayProtocol.envelopeStages]
    split
    · exact gate_tryCatch (gate_sendNack _ _) fun _ _ => gate_sendNack _ _
    · rename_i hcomplete
      exact gate_identityStage hstop henv (by simpa using hcomplete)

/-- **The handler keeps the gate**, whatever its calls are answered. -/
theorem gate_finish (proto : GatewayProtocol) (peerFingerprint : String) (stop : ReadEnd)
    (h : History) :
    (proto.finish peerFingerprint stop).wp (gate proto peerFingerprint stop)
      (fun _ _ => True) h := by
  have hread : (proto.handleRead peerFingerprint stop).wp (gate proto peerFingerprint stop)
      (fun _ _ => True) h := by
    simp only [GatewayProtocol.handleRead]
    split
    · trivial
    · exact gate_sendNack _ _
    · rename_i t payload remaining
      apply gate_tryCatch
      · split
        · exact gate_sendNack _ _
        · split
          · exact gate_sendNack _ _
          · rename_i hremaining htype
            apply gate_processTransaction
            have hr : remaining = [] := by simpa using hremaining
            have ht : t = .signedBundle := by simpa using htype
            rw [hr, ht]
      · intro e h'
        split
        · exact gate_sendNack _ _
        · trivial
  apply gate_bind
  · apply gate_tryCatch hread
    intro e h'
    trivial
  intro _ h'
  refine ⟨trivial, ?_⟩
  intro _ _
  refine ⟨trivial, ?_⟩
  intro closed _
  cases closed <;> trivial

end Gate

/-! ### One ingestion for each connection -/

def ingestCost : Call → Nat
  | .ingestBundle _ => 1
  | _ => 0

section Budget

variable {proto : GatewayProtocol} {peerFingerprint : String} {env : TransactionEnvelope}

theorem within_respond (t : MessageType) (payload : Bytes) (n : Nat) :
    (respond t payload).Within ingestCost n := by
  simp only [respond]
  split
  · trivial
  · refine ⟨Nat.zero_le n, ?_⟩
    intro _
    refine ⟨Nat.zero_le n, ?_⟩
    intro drained
    cases drained <;> trivial

theorem within_sendNack (txId : String) (reason : NackReason) (n : Nat) :
    (sendNack txId reason).Within ingestCost n :=
  within_respond _ _ n

theorem within_resend (txId txId' : String) (reason reason' : NackReason) :
    ((sendNack txId reason).tryCatch fun _ => sendNack txId' reason').Within ingestCost 1 :=
  Prog.Within.tryCatch (within_sendNack txId reason 0) fun _ => within_sendNack txId' reason' 1

theorem within_ingestStage (tReceived tVerified : Nat) (b : PyVal) :
    (GatewayProtocol.ingestStage env tReceived tVerified b).Within ingestCost 1 := by
  refine ⟨Nat.le_refl 1, ?_⟩
  intro ingested
  cases ingested with
  | false => exact within_sendNack _ _ _
  | true =>
    refine ⟨Nat.zero_le _, ?_⟩
    intro tIngested
    refine Prog.Within.bind (m := 0) (within_respond _ _ 0) fun _ => ?_
    exact ⟨Nat.zero_le _, fun _ => trivial⟩

theorem within_validateStage (tReceived tVerified : Nat) (stixBytes : Bytes) :
    (proto.validateStage env tReceived tVerified stixBytes).Within ingestCost 1 := by
  simp only [GatewayProtocol.validateStage]
  split
  · exact within_sendNack _ _ _
  · split
    · exact within_sendNack _ _ _
    · exact within_resend _ _ _ _
    · exact within_ingestStage _ _ _

theorem within_policyStage (tReceived tVerified : Nat) :
    (proto.policyStage env tReceived tVerified).Within ingestCost 1 := by
  simp only [GatewayProtocol.policyStage]
  split
  · trivial
  · exact within_sendNack _ _ _
  · refine ⟨Nat.zero_le 1, ?_⟩
    intro decompressed
    cases decompressed with
    | error e => exact within_sendNack _ _ _
    | ok stixBytes => exact within_validateStage _ _ _

theorem within_verifyStage (agency : PyDict) (tReceived : Nat) :
    (proto.verifyStage env agency tReceived).Within ingestCost 1 := by
  simp only [GatewayProtocol.verifyStage]
  split
  · trivial
  · refine ⟨Nat.zero_le 1, ?_⟩
    intro isValid
    cases isValid with
    | false => exact within_sendNack _ _ _
    | true => exact ⟨Nat.zero_le 1, fun tVerified => within_policyStage _ _⟩

theorem within_identityStage (tReceived : Nat) :
    (proto.identityStage env peerFingerprint tReceived).Within ingestCost 1 := by
  simp only [GatewayProtocol.identityStage]
  split
  · exact within_sendNack _ _ _
  · split
    · exact within_sendNack _ _ _
    · split
      · trivial
      · split
        · exact within_sendNack _ _ _
        · split
          · trivial
          · exact within_sendNack _ _ _
          · exact within_verifyStage _ _

theorem within_processTransaction (payload : Bytes) :
    (proto.processTransaction payload peerFingerprint).Within ingestCost 1 := by
  refine ⟨Nat.zero_le 1, ?_⟩
  intro tReceived
  cases TransactionEnvelope.fromBytes proto.protobuf payload with
  | error e => exact within_resend _ _ _ _
  | ok env =>
    refine Prog.Within.tryCatch ?_ fun _ => within_sendNack _ _ 0
    simp only [GatewayProtocol.envelopeStages]
    split
    · exact within_resend _ _ _ _
    · exact within_identityStage tReceived

/-- **A connection ingests at most once.** -/
theorem within_finish (proto : GatewayProtocol) (peerFingerprint : String) (stop : ReadEnd) :
    (proto.finish peerFingerprint stop).Within ingestCost 1 := by
  have hread : (proto.handleRead peerFingerprint stop).Within ingestCost 1 := by
    simp only [GatewayProtocol.handleRead]
    split
    · trivial
    · exact within_sendNack _ _ _
    · refine Prog.Within.tryCatch (m := 0) ?_ fun e => ?_
      · split
        · exact within_sendNack _ _ _
        · split
          · exact within_sendNack _ _ _
          · exact within_processTransaction _
      · split
        · exact within_sendNack _ _ _
        · trivial
  have htry : ((proto.handleRead peerFingerprint stop).tryCatch fun _ => pure ()).Within
      ingestCost 1 := Prog.Within.tryCatch (m := 0) hread fun _ => trivial
  refine Prog.Within.bind (m := 0) htry fun _ => ?_
  refine ⟨Nat.zero_le _, ?_⟩
  intro _
  refine ⟨Nat.zero_le _, ?_⟩
  intro closed
  cases closed <;> trivial

end Budget

/-! ### No unauthorized ingestion -/

/-- The frame the read loop stops at is the start of the stream. -/
theorem stream_of_readFrame {buffer payload remaining : Bytes} {reads : List Bytes}
    {t : MessageType} (h : readFrame buffer reads = .frame t payload remaining) :
    ∃ rest, buffer ++ reads.flatten = FrameCodec.frameBytes t payload ++ rest := by
  induction reads generalizing buffer with
  | nil => simp [readFrame] at h
  | cons data reads ih =>
    rw [readFrame] at h
    split at h
    · rename_i stop hstop
      subst h
      obtain ⟨_, hdecode⟩ := readStep_eq_frame.mp hstop
      obtain ⟨_, hbuffer⟩ := frameCodec.decodeFrameStream_eq_some.mp hdecode
      refine ⟨remaining ++ reads.flatten, ?_⟩
      rw [List.flatten_cons, ← List.append_assoc, hbuffer, List.append_assoc]
    · rename_i longer hmore
      obtain ⟨_, _, rfl⟩ := readStep_eq_inl.mp hmore
      obtain ⟨rest, hrest⟩ := ih h
      refine ⟨rest, ?_⟩
      rw [List.flatten_cons, ← List.append_assoc, hrest]

/-- **No unauthorized ingestion, and verify before decompress.**  Whatever the reads of a
    connection and whatever its calls are answered, a call of the ingestor is preceded
    by every check on the envelope the stream starts with, and a decompression by a
    successful verification of the same bytes. -/
theorem ingestion_authorized (proto : GatewayProtocol) (peerFingerprint : String)
    (reads : List Bytes) (ans : History → (op : Call) → op.Ret) :
    (∀ before b r after,
      ((proto.handleConnection peerFingerprint reads).run ans []).2 =
        before ++ ⟨.ingestBundle b, r⟩ :: after →
      ∃ payload rest env agency keyFingerprint pubkeyPath stixBytes items,
        reads.flatten = FrameCodec.frameBytes .signedBundle payload ++ rest ∧
        TransactionEnvelope.fromBytes proto.protobuf payload = .ok env ∧
        (env.transactionId ≠ "" ∧ env.senderId ≠ "" ∧ env.signature ≠ [] ∧
          env.stixBundleCompressed ≠ []) ∧
        proto.trustStore.getAgency env.senderId = some agency ∧
        agency.get? "tls_certificate_fingerprint" = some (.str peerFingerprint) ∧
        agency.get? "payload_signing_public_key_fingerprint" = some keyFingerprint ∧
        PyVal.str peerFingerprint ∉ proto.trustStore.revokedFingerprints ∧
        (∀ revoked ∈ proto.trustStore.revokedFingerprints,
          revoked.scalarEq keyFingerprint = false) ∧
        agency.get? "payload_signing_public_key_path" = some pubkeyPath ∧
        ⟨.verifySignature env.stixBundleCompressed env.signature pubkeyPath, true⟩ ∈ before ∧
        InboundPep.Allows proto.rules env.senderId env.recipientId env.tlpMarking.value ∧
        ⟨.decompress env.stixBundleCompressed, .ok stixBytes⟩ ∈ before ∧
        proto.loads stixBytes = .ok b ∧ b = .dict items ∧
        PyDict.get? items "type" = some (.str "bundle") ∧
        PyDict.contains items "objects" = true) ∧
    ∀ before data r after,
      ((proto.handleConnection peerFingerprint reads).run ans []).2 =
        before ++ ⟨.decompress data, r⟩ :: after →
      ∃ signature pubkeyPath, ⟨.verifySignature data signature pubkeyPath, true⟩ ∈ before := by
  have hgate := gate_finish proto peerFingerprint (readFrame [] reads) []
  constructor
  · intro before b r after htrace
    have hpre := Prog.complies_run hgate ans (fun _ _ => trivial) htrace
    obtain ⟨payload, env, hstop, henv, hadmitted⟩ := hpre
    obtain ⟨rest, hstream⟩ := stream_of_readFrame hstop
    obtain ⟨agency, pubkeyPath, htrusted, hpath, hverified⟩ := hadmitted.signed
    obtain ⟨hpeer, keyFingerprint, hkey, hkeyRevoked⟩ := htrusted.not_revoked
    obtain ⟨stixBytes, hinflated, hloads, hbundle⟩ := hadmitted.bundle
    obtain ⟨items, hitems, htype, hobjects⟩ := GatewayProtocol.isBundle_eq_true hbundle
    exact ⟨payload, rest, env, agency, keyFingerprint, pubkeyPath, stixBytes, items,
      hstream, henv, GatewayProtocol.missingField_eq_false.mp hadmitted.complete,
      htrusted.known, htrusted.certificate, hkey, hpeer, hkeyRevoked, hpath, hverified,
      hadmitted.allowed, hinflated, hloads, hitems, htype, hobjects⟩
  · intro before data r after htrace
    exact Prog.complies_run hgate ans (fun _ _ => trivial) htrace

/-! ### One admitted envelope

A signed bundle of `RAW` for `NIA`: the protobuf and zlib bytes are those of the real
libraries, the signature is an ECDSA one over the compressed bytes. -/

namespace Sample

def txId : String := "5d2f6645-8f64-4e20-b42e-131c950d210f"

def rawJson : Bytes := asciiBytes "\x7b\"type\": \"bundle\", \"objects\": []\x7d"

def compressed : Bytes :=
  [120, 156, 171, 86, 42, 169, 44, 72, 85, 178, 82, 80, 74, 42, 205, 75, 201, 73, 85, 210,
   81, 80, 202, 79, 202, 74, 77, 46, 41, 6, 10, 70, 199, 214, 2, 0, 181, 59, 10, 163]

def signature : Bytes :=
  [48, 69, 2, 33, 0, 228, 158, 158, 131, 160, 97, 245, 117, 158, 67, 126, 215, 57, 109, 146,
   9, 229, 157, 226, 182, 67, 212, 107, 116, 21, 113, 158, 235, 110, 64, 130, 167, 2, 32, 43,
   62, 213, 91, 63, 231, 40, 139, 38, 199, 216, 225, 95, 38, 127, 21, 201, 30, 86, 147, 87,
   194, 19, 180, 63, 120, 1, 156, 181, 106, 126, 96]

def envelope : TransactionEnvelope where
  transactionId := txId
  senderId := "RAW"
  recipientId := "NIA"
  tlpMarking := .green
  stixBundleCompressed := compressed
  signature := signature
  signerCertFingerprint := "mock_fingerprint"
  createdAtUnixMs := 1000000

def payload : Bytes :=
  [0x0a, 36] ++ asciiBytes txId ++ [0x12, 3] ++ asciiBytes "RAW" ++ [0x1a, 3] ++
    asciiBytes "NIA" ++ [0x22, 9] ++ asciiBytes "tlp:green" ++ [0x2a, 40] ++ compressed ++
    [0x32, 71] ++ signature ++ [0x3a, 16] ++ asciiBytes "mock_fingerprint" ++
    [0x40, 192, 132, 61]

def bundle : PyVal := .dict [(.str "type", .str "bundle"), (.str "objects", .list [])]

/-- The generated class on this one envelope. -/
def protobuf : Protobuf where
  parseFromString := fun data =>
    if data = payload then .ok envelope.toProto
    else .error ⟨.other "DecodeError", "Error parsing message"⟩
  serializeToString := fun env =>
    if env = envelope.toProto then .ok payload
    else .error ⟨.valueError, "Value out of range"⟩

def loads (data : Bytes) : Except PyExc PyVal :=
  if data = rawJson then .ok bundle else .error ⟨.valueError, "Expecting value"⟩

def decompress (data : Bytes) : Except PyExc Bytes :=
  if data = compressed then .ok rawJson else .error ⟨.other "zlib.error", "incorrect header check"⟩

def agency : PyDict :=
  [(.str "agency_id", .str "RAW"),
   (.str "payload_signing_public_key_path", .str "gateway_raw/raw_ecdsa256.pub"),
   (.str "payload_signing_public_key_fingerprint", .str "cc63c28b1571645e"),
   (.str "tls_certificate_fingerprint", .str "9f86d081884c7d65")]

def allowRule : PyDict :=
  [(.str "sender", .str "RAW"), (.str "recipient", .str "NIA"), (.str "tlp", .str "tlp:green"),
   (.str "action", .str "ALLOW")]

def gateway : GatewayProtocol where
  trustStore := ⟨[(.str "RAW", agency)], []⟩
  rules := [.dict allowRule]
  protobuf := protobuf
  loads := loads

def outside : Outside where
  verifySignature := fun c s path =>
    decide (c = compressed) && decide (s = signature) && path.isStr "gateway_raw/raw_ecdsa256.pub"
  decompress := decompress
  ingestBundle := fun _ => true
  drain := fun _ => .ok ()
  clock := id
  waitClosed := .ok ()

end Sample

/-- The sample frame, in two reads, is ingested after the checks of its envelope. -/
theorem sample_ingestion_authorized :
    ∃ b ∈ ingested ((Sample.gateway.handleConnection "9f86d081884c7d65"
        [[1, 0, 0], [0, 196] ++ Sample.payload]).run Sample.outside.answer []).2,
      ∃ payload rest env agency pubkeyPath,
        [1, 0, 0, 0, 196] ++ Sample.payload = FrameCodec.frameBytes .signedBundle payload ++ rest ∧
        TransactionEnvelope.fromBytes Sample.protobuf payload = .ok env ∧
        Sample.gateway.trustStore.getAgency env.senderId = some agency ∧
        agency.get? "payload_signing_public_key_path" = some pubkeyPath ∧
        Sample.outside.verifySignature env.stixBundleCompressed env.signature pubkeyPath = true ∧
        ∃ items, b = .dict items ∧ PyDict.contains items "objects" = true := by
  have hne : (ingested ((Sample.gateway.handleConnection "9f86d081884c7d65"
      [[1, 0, 0], [0, 196] ++ Sample.payload]).run Sample.outside.answer []).2).isEmpty = false := by
    decide +kernel
  obtain ⟨b, hb⟩ := List.exists_mem_of_ne_nil _ (List.isEmpty_eq_false_iff.mp hne)
  obtain ⟨before, r, after, htrace⟩ := exists_call_of_mem_ingested hb
  obtain ⟨payload, rest, env, agency, _, pubkeyPath, _, items, hstream, henv, _, hknown, _, _, _, _,
    hpath, hverified, _, _, _, hitems, _, hobjects⟩ :=
    (ingestion_authorized Sample.gateway _ _ Sample.outside.answer).1 before b r after htrace
  refine ⟨b, hb, payload, rest, env, agency, pubkeyPath, by simpa using hstream, henv, hknown,
    hpath, ?_, items, hitems, hobjects⟩
  -- the recorded answer is the one the surroundings give
  have hmem := List.mem_append_left (⟨.ingestBundle b, r⟩ :: after) hverified
  rw [← htrace] at hmem
  obtain ⟨h', hans⟩ := Prog.answer_of_mem_run Sample.outside.answer _ hmem (by simp)
  exact hans

end QsTie.GatewayB
