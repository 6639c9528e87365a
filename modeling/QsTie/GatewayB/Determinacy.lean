import QsTie.GatewayB.Outcome

/-!
# What a connection depends on

The clock is read three times and its readings go into the telemetry record only.
Apart from it every answer a handler gets is fixed by its own connection, so two
runs of the handler on the same reads write the same frames and hand over the same
bundles, whatever the clock says and however the transport fails.

`answers` is the contract under which this holds: the answers are those of fixed
surroundings, and the verifier is asked only for key paths of the trust store.
-/

namespace QsTie.GatewayB

open QsTie.Lib

/-- The path of a signing key in the trust store. -/
def TrustStore.KeyPath (ts : TrustStore) (pubkeyPath : PyVal) : Prop :=
  ∃ id agency, ts.getAgency id = some agency ∧
    agency.get? "payload_signing_public_key_path" = some pubkeyPath

/-- Every answer but the clock's is that of `out`. -/
def answers (proto : GatewayProtocol) (out : Outside) : Contract Call Call.Ret where
  pre := fun _ op =>
    match op with
    | .verifySignature _ _ pubkeyPath => proto.trustStore.KeyPath pubkeyPath
    | _ => True
  resp := fun h op r => op = .timeNs ∨ r = out.answer h op

/-- The bundles handed over, each with the answer. -/
def ingestions (h : History) : List (PyVal × Bool) :=
  h.filterMap fun ev => match ev with
    | ⟨.ingestBundle b, r⟩ => some (b, r)
    | _ => none

/-- The envelope of the connection passes every check before ingestion. -/
def passesChecks (proto : GatewayProtocol) (out : Outside) (peerFingerprint : String) :
    ReadEnd → Bool
  | .frame .signedBundle payload [] =>
    match TransactionEnvelope.fromBytes proto.protobuf payload with
    | .error _ => false
    | .ok env =>
      match verdict proto out peerFingerprint env with
      | .error _ => false
      | .ok _ => true
  | _ => false

theorem passesChecks_iff {proto : GatewayProtocol} {out : Outside} {peerFingerprint : String}
    {stop : ReadEnd} :
    passesChecks proto out peerFingerprint stop = true ↔
      ∃ payload env b, stop = .frame .signedBundle payload [] ∧
        TransactionEnvelope.fromBytes proto.protobuf payload = .ok env ∧
        Admitted proto (fun c s path => out.verifySignature c s path = true)
          (fun data stixBytes => out.decompress data = .ok stixBytes) peerFingerprint env b := by
  constructor
  · intro h
    unfold passesChecks at h
    split at h
    · rename_i payload
      split at h
      · simp at h
      · rename_i env henv
        split at h
        · simp at h
        · rename_i b hverdict
          exact ⟨payload, env, b, rfl, henv, verdict_eq_ok.mp hverdict⟩
    · simp at h
  · rintro ⟨payload, env, b, rfl, henv, hadmitted⟩
    simp only [passesChecks, henv, verdict_eq_ok.mpr hadmitted]

/-! ### What is handed over -/

/-- On every path `p` hands over `bs`, and it keeps the contract. -/
def Hands (proto : GatewayProtocol) (out : Outside) (p : Conn Unit) (bs : List PyVal) : Prop :=
  ∀ h, p.wp (answers proto out) (fun _ h' => ingested h' = ingested h ++ bs) h

section Hands

variable {proto : GatewayProtocol} {out : Outside} {env : TransactionEnvelope} {p : Conn Unit}
  {bs : List PyVal}

theorem hands_ret : Hands proto out (.ret ()) [] := by
  intro h
  simp [Prog.wp]

theorem hands_raise (e : PyExc) : Hands proto out (.raise e) [] := by
  intro h
  simp [Prog.wp]

theorem hands_ofExcept (r : Except PyExc Unit) : Hands proto out (Prog.ofExcept r) [] := by
  cases r with
  | ok _ => exact hands_ret
  | error e => exact hands_raise e

theorem hands_call {op : Call} {k : op.Ret → Conn Unit}
    (hpre : ∀ h, (answers proto out).pre h op) (hquiet : ∀ r, ingested [⟨op, r⟩] = [])
    (hk : ∀ h r, (answers proto out).resp h op r → Hands proto out (k r) bs) :
    Hands proto out (.call op k) bs := by
  intro h
  refine ⟨hpre h, ?_⟩
  intro r hr
  have hrest := hk h r hr (h ++ [⟨op, r⟩])
  rw [ingested_append, hquiet, List.append_nil] at hrest
  exact hrest

theorem hands_tryCatch {f : PyExc → Conn Unit} (hp : Hands proto out p bs)
    (hf : ∀ e, Hands proto out (f e) []) : Hands proto out (p.tryCatch f) bs := by
  intro h
  apply Prog.wp_tryCatch
  apply Prog.wp_mono _ (hp h)
  intro r h' hh'
  cases r with
  | ok _ => exact hh'
  | error e =>
    apply Prog.wp_mono _ (hf e h')
    intro _ h'' hh''
    rw [hh'', hh', List.append_nil]

theorem hands_bind {f : Unit → Conn Unit} (hp : Hands proto out p bs)
    (hf : Hands proto out (f ()) []) : Hands proto out (p >>= f) bs := by
  intro h
  apply Prog.wp_bind
  apply Prog.wp_mono _ (hp h)
  intro r h' hh'
  cases r with
  | ok a =>
    apply Prog.wp_mono _ (hf h')
    intro _ h'' hh''
    rw [hh'', hh', List.append_nil]
  | error e => exact hh'

theorem hands_respond (t : MessageType) (payload : Bytes) :
    Hands proto out (respond t payload) [] := by
  unfold respond
  split
  · exact hands_raise _
  · refine hands_call (fun _ => trivial) (fun _ => rfl) ?_
    intro _ _ _
    refine hands_call (fun _ => trivial) (fun _ => rfl) ?_
    intro _ drained _
    exact hands_ofExcept drained

theorem hands_sendNack (txId : String) (reason : NackReason) :
    Hands proto out (sendNack txId reason) [] := hands_respond _ _

theorem hands_resend (txId : String) (reason : NackReason) :
    Hands proto out ((sendNack txId reason).tryCatch fun _ => sendNack txId reason) [] :=
  hands_tryCatch (hands_sendNack _ _) fun _ => hands_sendNack _ _

/-- The only stage that hands anything over. -/
theorem hands_ingestStage (tReceived tVerified : Nat) (b : PyVal) :
    Hands proto out (GatewayProtocol.ingestStage env tReceived tVerified b) [b] := by
  intro h
  refine ⟨trivial, ?_⟩
  intro ingested' _
  have hrest : Hands proto out (if !ingested' then sendNack env.transactionId .ingestFailed
      else .call .timeNs fun tIngested =>
        GatewayProtocol.ackStage env tReceived tVerified tIngested) [] := by
    cases ingested' with
    | false => exact hands_sendNack _ _
    | true =>
      refine hands_call (fun _ => trivial) (fun _ => rfl) ?_
      intro _ tIngested _
      apply hands_bind (hands_respond _ _)
      exact hands_call (fun _ => trivial) (fun _ => rfl) fun _ _ _ => hands_ret
  have hafter := hrest (h ++ [⟨.ingestBundle b, ingested'⟩])
  rw [ingested_append, List.append_nil] at hafter
  exact hafter

theorem hands_decompressStage (tReceived tVerified : Nat) :
    Hands proto out (proto.decompressStage env tReceived tVerified)
      (handedOver (bundleVerdict proto out env.stixBundleCompressed)) := by
  refine hands_call (fun _ => trivial) (fun _ => rfl) ?_
  intro h decompressed hresp
  obtain rfl : decompressed = out.decompress env.stixBundleCompressed := by
    simpa [answers, Outside.answer] using hresp
  simp only [bundleVerdict]
  cases out.decompress env.stixBundleCompressed with
  | error e => exact hands_sendNack _ _
  | ok stixBytes =>
    simp only [GatewayProtocol.validateStage]
    cases proto.loads stixBytes with
    | error e => exact hands_sendNack _ _
    | ok stixBundle =>
      simp only
      cases GatewayProtocol.isBundle stixBundle with
      | error e => exact hands_sendNack _ _
      | ok isBundle =>
        cases isBundle with
        | false => exact hands_resend _ _
        | true => exact hands_ingestStage _ _ _

theorem hands_verifyStage {agency : PyDict}
    (hknown : proto.trustStore.getAgency env.senderId = some agency) (tReceived : Nat) :
    Hands proto out (proto.verifyStage env agency tReceived)
      (handedOver (signedVerdict proto out env agency)) := by
  simp only [GatewayProtocol.verifyStage, signedVerdict]
  cases hpath : agency.getItem "payload_signing_public_key_path" with
  | error e => exact hands_raise e
  | ok pubkeyPath =>
    have hkey : proto.trustStore.KeyPath pubkeyPath :=
      ⟨env.senderId, agency, hknown, PyDict.getItem_eq_ok.mp hpath⟩
    refine hands_call (fun _ => hkey) (fun _ => rfl) ?_
    intro h isValid hresp
    obtain rfl : isValid =
        out.verifySignature env.stixBundleCompressed env.signature pubkeyPath := by
      simpa [answers, Outside.answer] using hresp
    simp only
    cases out.verifySignature env.stixBundleCompressed env.signature pubkeyPath with
    | false => exact hands_sendNack _ _
    | true =>
      simp only [Bool.not_true, Bool.false_eq_true, if_false]
      refine hands_call (fun _ => trivial) (fun _ => rfl) ?_
      intro _ tVerified _
      simp only [GatewayProtocol.policyStage]
      cases InboundPep.evaluate proto.rules env.senderId env.recipientId env.tlpMarking.value with
      | error e => exact hands_raise e
      | ok decision =>
        obtain ⟨allow, reason⟩ := decision
        cases allow with
        | false => exact hands_sendNack _ _
        | true => exact hands_decompressStage tReceived _

theorem hands_identityStage (peerFingerprint : String) (tReceived : Nat) :
    Hands proto out (proto.identityStage env peerFingerprint tReceived)
      (handedOver (match identityVerdict proto peerFingerprint env.senderId with
        | .error reason => .error reason
        | .ok agency => signedVerdict proto out env agency)) := by
  simp only [GatewayProtocol.identityStage, identityVerdict]
  cases hknown : proto.trustStore.getAgency env.senderId with
  | none => exact hands_sendNack _ _
  | some agency =>
    simp only
    cases agency.isEmpty with
    | true => exact hands_sendNack _ _
    | false =>
      simp only [Bool.false_eq_true, if_false]
      cases agency.getItem "tls_certificate_fingerprint" with
      | error e => exact hands_raise e
      | ok expectedTlsFp =>
        simp only
        cases expectedTlsFp.isStr peerFingerprint with
        | false => exact hands_sendNack _ _
        | true =>
          simp only [Bool.not_true, Bool.false_eq_true, if_false]
          cases proto.revoked peerFingerprint agency with
          | error e => exact hands_raise e
          | ok revoked =>
            cases revoked with
            | true => exact hands_sendNack _ _
            | false => exact hands_verifyStage hknown tReceived

theorem hands_processTransaction (payload : Bytes) (peerFingerprint : String) :
    Hands proto out (proto.processTransaction payload peerFingerprint)
      (payloadOutcome proto out peerFingerprint payload).2 := by
  refine hands_call (fun _ => trivial) (fun _ => rfl) ?_
  intro _ tReceived _
  simp only [payloadOutcome]
  cases TransactionEnvelope.fromBytes proto.protobuf payload with
  | error e => exact hands_resend _ _
  | ok env =>
    apply hands_tryCatch _ fun _ => hands_sendNack _ _
    simp only [GatewayProtocol.envelopeStages, verdict]
    cases GatewayProtocol.missingField env with
    | true => exact hands_resend _ _
    | false => exact hands_identityStage peerFingerprint tReceived

end Hands

/-- **A connection hands over what its outcome says**, also when the transport fails. -/
theorem hands_finish (proto : GatewayProtocol) (out : Outside) (peerFingerprint : String)
    (stop : ReadEnd) :
    Hands proto out (proto.finish peerFingerprint stop)
      (outcome proto out peerFingerprint stop).2 := by
  have hread : Hands proto out (proto.handleRead peerFingerprint stop)
      (outcome proto out peerFingerprint stop).2 := by
    cases stop with
    | eof => exact hands_ret
    | frameError e => exact hands_sendNack _ _
    | frame t payload remaining =>
      simp only [GatewayProtocol.handleRead, outcome]
      apply hands_tryCatch
      · split
        · exact hands_sendNack _ _
        · split
          · exact hands_sendNack _ _
          · exact hands_processTransaction payload peerFingerprint
      · intro e
        split
        · exact hands_sendNack _ _
        · exact hands_raise e
  apply hands_bind
  · apply hands_tryCatch hread
    intro e
    exact hands_ret
  · refine hands_call (fun _ => trivial) (fun _ => rfl) ?_
    intro _ _ _
    refine hands_call (fun _ => trivial) (fun _ => rfl) ?_
    intro _ closed _
    exact hands_ofExcept closed

/-- One bundle for an envelope that passes the checks, none for any other. -/
theorem length_handed (proto : GatewayProtocol) (out : Outside) (peerFingerprint : String)
    (stop : ReadEnd) :
    (outcome proto out peerFingerprint stop).2.length =
      if passesChecks proto out peerFingerprint stop then 1 else 0 := by
  cases stop with
  | eof => rfl
  | frameError e => rfl
  | frame t payload remaining =>
    cases remaining with
    | cons b remaining => cases t <;> rfl
    | nil =>
      cases t with
      | signedBundle =>
        change (payloadOutcome proto out peerFingerprint payload).2.length = _
        cases henv : TransactionEnvelope.fromBytes proto.protobuf payload with
        | error e => simp [passesChecks, payloadOutcome, henv]
        | ok env =>
          cases hverdict : verdict proto out peerFingerprint env with
          | error reason => simp [passesChecks, payloadOutcome, henv, hverdict, handedOver]
          | ok b => simp [passesChecks, payloadOutcome, henv, hverdict, handedOver]
      | _ => rfl

/-! ### The clock decides nothing -/

/-- Programs that make the same calls, whatever the clock has said or says; only the times in
    a telemetry record may differ. -/
inductive SameCalls : Conn Unit → Conn Unit → Prop where
  | ret : SameCalls (.ret ()) (.ret ())
  | raise (e : PyExc) : SameCalls (.raise e) (.raise e)
  | clock {k k' : Nat → Conn Unit} (rest : ∀ t t', SameCalls (k t) (k' t')) :
      SameCalls (.call .timeNs k) (.call .timeNs k')
  | telemetry {txId state : String} {a b c a' b' c' : Nat} {k k' : Unit → Conn Unit}
      (rest : SameCalls (k ()) (k' ())) :
      SameCalls (.call (.logTelemetryB txId a b c state) k)
        (.call (.logTelemetryB txId a' b' c' state) k')
  | call {op : Call} {k k' : op.Ret → Conn Unit} (hclock : op ≠ .timeNs)
      (rest : ∀ r, SameCalls (k r) (k' r)) : SameCalls (.call op k) (.call op k')

namespace SameCalls

variable {p p' : Conn Unit}

theorem bind {f f' : Unit → Conn Unit} (hp : SameCalls p p') (hf : SameCalls (f ()) (f' ())) :
    SameCalls (p >>= f) (p' >>= f') := by
  induction hp with
  | ret => exact hf
  | raise e => exact .raise e
  | clock _ ih => exact .clock ih
  | telemetry _ ih => exact .telemetry ih
  | call hclock _ ih => exact .call hclock ih

theorem tryCatch {f f' : PyExc → Conn Unit} (hp : SameCalls p p')
    (hf : ∀ e, SameCalls (f e) (f' e)) : SameCalls (p.tryCatch f) (p'.tryCatch f') := by
  induction hp with
  | ret => exact .ret
  | raise e => exact hf e
  | clock _ ih => exact .clock ih
  | telemetry _ ih => exact .telemetry ih
  | call hclock _ ih => exact .call hclock ih

theorem ofExcept (r : Except PyExc Unit) : SameCalls (Prog.ofExcept r) (Prog.ofExcept r) := by
  cases r with
  | ok _ => exact .ret
  | error e => exact .raise e

theorem respond (t : MessageType) (payload : Bytes) :
    SameCalls (GatewayB.respond t payload) (GatewayB.respond t payload) := by
  unfold GatewayB.respond
  split
  · exact .raise _
  · refine .call (by simp) ?_
    intro _
    refine .call (by simp) ?_
    intro drained
    exact .ofExcept drained

theorem sendNack (txId : String) (reason : NackReason) :
    SameCalls (GatewayB.sendNack txId reason) (GatewayB.sendNack txId reason) := .respond _ _

theorem resend (txId : String) (reason : NackReason) :
    SameCalls ((GatewayB.sendNack txId reason).tryCatch fun _ => GatewayB.sendNack txId reason)
      ((GatewayB.sendNack txId reason).tryCatch fun _ => GatewayB.sendNack txId reason) :=
  .tryCatch (.sendNack _ _) fun _ => .sendNack _ _

section Stages

variable {proto : GatewayProtocol} {env : TransactionEnvelope}

theorem ingestStage (a b a' b' : Nat) (stixBundle : PyVal) :
    SameCalls (GatewayProtocol.ingestStage env a b stixBundle)
      (GatewayProtocol.ingestStage env a' b' stixBundle) := by
  refine .call (by simp) ?_
  intro ingested
  cases ingested with
  | false => exact .sendNack _ _
  | true =>
    refine .clock ?_
    intro c c'
    exact .bind (.respond _ _) (.telemetry .ret)

theorem policyStage (a b a' b' : Nat) :
    SameCalls (proto.policyStage env a b) (proto.policyStage env a' b') := by
  simp only [GatewayProtocol.policyStage]
  split
  · exact .raise _
  · exact .sendNack _ _
  · refine .call (by simp) ?_
    intro decompressed
    cases decompressed with
    | error e => exact .sendNack _ _
    | ok stixBytes =>
      simp only [GatewayProtocol.validateStage]
      split
      · exact .sendNack _ _
      · split
        · exact .sendNack _ _
        · exact .resend _ _
        · exact .ingestStage _ _ _ _ _

theorem identityStage (peerFingerprint : String) (a a' : Nat) :
    SameCalls (proto.identityStage env peerFingerprint a)
      (proto.identityStage env peerFingerprint a') := by
  simp only [GatewayProtocol.identityStage]
  split
  · exact .sendNack _ _
  · split
    · exact .sendNack _ _
    · split
      · exact .raise _
      · split
        · exact .sendNack _ _
        · split
          · exact .raise _
          · exact .sendNack _ _
          · simp only [GatewayProtocol.verifyStage]
            split
            · exact .raise _
            · refine .call (by simp) ?_
              intro isValid
              cases isValid with
              | false => exact .sendNack _ _
              | true => exact .clock fun b b' => .policyStage a b a' b'

theorem processTransaction (payload : Bytes) (peerFingerprint : String) :
    SameCalls (proto.processTransaction payload peerFingerprint)
      (proto.processTransaction payload peerFingerprint) := by
  refine .clock ?_
  intro a a'
  split
  · exact .resend _ _
  · refine .tryCatch ?_ fun _ => .sendNack _ _
    simp only [GatewayProtocol.envelopeStages]
    split
    · exact .resend _ _
    · exact .identityStage peerFingerprint a a'

end Stages

theorem finish (proto : GatewayProtocol) (peerFingerprint : String) (stop : ReadEnd) :
    SameCalls (proto.finish peerFingerprint stop) (proto.finish peerFingerprint stop) := by
  have hread : SameCalls (proto.handleRead peerFingerprint stop)
      (proto.handleRead peerFingerprint stop) := by
    cases stop with
    | eof => exact .ret
    | frameError e => exact .sendNack _ _
    | frame t payload remaining =>
      refine .tryCatch ?_ ?_
      · split
        · exact .sendNack _ _
        · split
          · exact .sendNack _ _
          · exact .processTransaction payload peerFingerprint
      · intro e
        split
        · exact .sendNack _ _
        · exact .raise e
  refine .bind (.tryCatch hread fun _ => .ret) ?_
  refine .call (by simp) ?_
  intro _
  refine .call (by simp) ?_
  intro closed
  exact .ofExcept closed

variable {proto : GatewayProtocol} {out : Outside}

/-- Apart from the clock, an answer depends on the history by its drains only. -/
theorem answer_congr {h h' : History} {op : Call} (hclock : op ≠ .timeNs)
    (hdrains : h.countP (fun ev => ev.op.isDrain) = h'.countP fun ev => ev.op.isDrain) :
    out.answer h op = out.answer h' op := by
  cases op with
  | timeNs => exact absurd rfl hclock
  | drain => simp only [Outside.answer, hdrains]
  | _ => rfl

/-- **Two runs show the same.**  Runs of programs that make the same calls, with the answers
    of the same surroundings, write the same frames and get the same bundles ingested. -/
theorem shown (hsame : SameCalls p p') {q q' : Conn Unit} {h h' tr tr' : History}
    (hsteps : Prog.Steps p tr q) (hsteps' : Prog.Steps p' tr' q') (hend : q.Ended)
    (hend' : q'.Ended) (hresp : Prog.Promised (answers proto out) h tr)
    (hresp' : Prog.Promised (answers proto out) h' tr')
    (hdrains : h.countP (fun ev => ev.op.isDrain) = h'.countP fun ev => ev.op.isDrain) :
    written tr = written tr' ∧ ingestions tr = ingestions tr' := by
  induction hsame generalizing h h' tr tr' with
  | ret =>
    rw [hsteps.eq_nil_of_ended trivial, hsteps'.eq_nil_of_ended trivial]
    exact ⟨rfl, rfl⟩
  | raise e =>
    rw [hsteps.eq_nil_of_ended trivial, hsteps'.eq_nil_of_ended trivial]
    exact ⟨rfl, rfl⟩
  | clock _ ih =>
    obtain ⟨t, rest, rfl, hrest⟩ := hsteps.of_call hend
    obtain ⟨t', rest', rfl, hrest'⟩ := hsteps'.of_call hend'
    change written rest = written rest' ∧ ingestions rest = ingestions rest'
    exact ih t t' hrest hrest' hresp.cons.2 hresp'.cons.2
      (by simpa [List.countP_append, Call.isDrain] using hdrains)
  | telemetry _ ih =>
    obtain ⟨r, rest, rfl, hrest⟩ := hsteps.of_call hend
    obtain ⟨r', rest', rfl, hrest'⟩ := hsteps'.of_call hend'
    change written rest = written rest' ∧ ingestions rest = ingestions rest'
    exact ih hrest hrest' hresp.cons.2 hresp'.cons.2
      (by simpa [List.countP_append, Call.isDrain] using hdrains)
  | @call op k k' hclock _ ih =>
    obtain ⟨r, rest, rfl, hrest⟩ := hsteps.of_call hend
    obtain ⟨r', rest', rfl, hrest'⟩ := hsteps'.of_call hend'
    obtain ⟨hr, hlater⟩ := hresp.cons
    obtain ⟨hr', hlater'⟩ := hresp'.cons
    have hequal : r = r' := by
      calc r = out.answer h op := hr.resolve_left hclock
        _ = out.answer h' op := answer_congr hclock hdrains
        _ = r' := (hr'.resolve_left hclock).symm
    subst hequal
    obtain ⟨hwritten, hingestions⟩ := ih r hrest hrest' hlater hlater'
      (by simpa [List.countP_append] using hdrains)
    constructor
    · simp only [written, List.filterMap_cons] at hwritten ⊢
      rw [hwritten]
    · simp only [ingestions, List.filterMap_cons] at hingestions ⊢
      rw [hingestions]

end SameCalls

end QsTie.GatewayB
