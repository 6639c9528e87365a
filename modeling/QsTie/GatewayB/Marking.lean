import QsTie.Common.EnvelopeWire
import QsTie.GatewayB.Admission

/-!
# The marking a policy decision is made on

The marking a payload carries reaches the inbound policy through `from_proto`,
which reads an absent or empty one as `tlp:green` and refuses any text that is no
marking.  So the policy allowed an ingested bundle either for exactly the marking
it carries, or, where it carries none, for `tlp:green`; a policy that does not
allow `tlp:green` never lets an unmarked bundle in.
-/

namespace QsTie

/-! ### The conversion of the marking -/

theorem TlpMarking.value_of_ofValue? {s : String} {m : TlpMarking}
    (h : TlpMarking.ofValue? s = some m) : m.value = s := by
  unfold TlpMarking.ofValue? at h
  split at h
  · rename_i hs
    obtain rfl := Option.some.inj h
    exact hs.symm
  · split at h
    · rename_i hs
      obtain rfl := Option.some.inj h
      exact hs.symm
    · split at h
      · rename_i hs
        obtain rfl := Option.some.inj h
        exact hs.symm
      · simp at h

/-- A marking is read as itself, or as `GREEN` where there is none. -/
theorem TransactionEnvelope.value_of_readMarking {s : String} {m : TlpMarking}
    (h : readMarking s = .ok m) : s ≠ "" ∧ m.value = s ∨ s = "" ∧ m.value = "tlp:green" := by
  unfold readMarking at h
  split at h
  · rename_i hs
    obtain rfl := Except.ok.inj h
    exact Or.inr ⟨hs, rfl⟩
  · rename_i hs
    split at h
    · rename_i m' hm
      obtain rfl := Except.ok.inj h
      exact Or.inl ⟨hs, TlpMarking.value_of_ofValue? hm⟩
    · simp at h

/-- What the envelope keeps of the message it is read from. -/
theorem TransactionEnvelope.fromBytes_eq_ok {pb : Protobuf} {data : Bytes}
    {env : TransactionEnvelope} (h : fromBytes pb data = .ok env) :
    ∃ message, pb.parseFromString data = .ok message ∧
      env.senderId = message.senderId ∧ env.recipientId = message.recipientId ∧
      readMarking message.tlpMarking = .ok env.tlpMarking := by
  unfold fromBytes at h
  split at h
  · simp at h
  · rename_i message hparse
    refine ⟨message, hparse, ?_⟩
    unfold fromProto at h
    split at h
    · simp at h
    · rename_i marking hmarking
      obtain rfl := Except.ok.inj h
      exact ⟨rfl, rfl, hmarking⟩

namespace GatewayB

open QsTie.Lib

/-- An admitted bundle was allowed for the marking its payload carries or defaults to. -/
theorem Admitted.allowed_marking {proto : GatewayProtocol}
    {verified : Bytes → Bytes → PyVal → Prop} {inflated : Bytes → Bytes → Prop}
    {peerFingerprint : String} {payload : Bytes} {env : TransactionEnvelope} {b : PyVal}
    (hadmitted : Admitted proto verified inflated peerFingerprint env b)
    (henv : TransactionEnvelope.fromBytes proto.protobuf payload = .ok env) :
    ∃ message, proto.protobuf.parseFromString payload = .ok message ∧
      (message.tlpMarking ≠ "" ∧ InboundPep.Allows proto.rules message.senderId
          message.recipientId message.tlpMarking ∨
        message.tlpMarking = "" ∧ InboundPep.Allows proto.rules message.senderId
          message.recipientId "tlp:green") := by
  obtain ⟨message, hparse, hsender, hrecipient, hmarking⟩ :=
    TransactionEnvelope.fromBytes_eq_ok henv
  refine ⟨message, hparse, ?_⟩
  have hallowed := hadmitted.allowed
  rw [hsender, hrecipient] at hallowed
  rcases TransactionEnvelope.value_of_readMarking hmarking with ⟨hs, hvalue⟩ | ⟨hs, hvalue⟩
  · rw [hvalue] at hallowed
    exact Or.inl ⟨hs, hallowed⟩
  · rw [hvalue] at hallowed
    exact Or.inr ⟨hs, hallowed⟩

/-- **An ingested bundle was allowed for its marking, an unmarked one for `tlp:green`.** -/
theorem ingestion_marking (proto : GatewayProtocol) (peerFingerprint : String)
    (reads : List Bytes) (ans : History → (op : Call) → op.Ret) (before after : History)
    (b : PyVal) (r : Bool)
    (htrace : ((proto.handleConnection peerFingerprint reads).run ans []).2 =
      before ++ ⟨.ingestBundle b, r⟩ :: after) :
    ∃ payload rest message,
      reads.flatten = FrameCodec.frameBytes .signedBundle payload ++ rest ∧
      proto.protobuf.parseFromString payload = .ok message ∧
      (message.tlpMarking ≠ "" ∧ InboundPep.Allows proto.rules message.senderId
          message.recipientId message.tlpMarking ∨
        message.tlpMarking = "" ∧ InboundPep.Allows proto.rules message.senderId
          message.recipientId "tlp:green") := by
  have hgate := gate_finish proto peerFingerprint (readFrame [] reads) []
  obtain ⟨payload, env, hstop, henv, hadmitted⟩ :=
    Prog.complies_run hgate ans (fun _ _ => trivial) htrace
  obtain ⟨rest, hstream⟩ := stream_of_readFrame hstop
  obtain ⟨message, hparse, hallowed⟩ := hadmitted.allowed_marking henv
  exact ⟨payload, rest, message, hstream, hparse, hallowed⟩

/-! ### An unmarked bundle -/

namespace Sample

/-- The sample payload without its field 4. -/
def unmarkedPayload : Bytes :=
  [0x0a, 36] ++ asciiBytes txId ++ [0x12, 3] ++ asciiBytes "RAW" ++ [0x1a, 3] ++
    asciiBytes "NIA" ++ [0x2a, 40] ++ compressed ++
    [0x32, 71] ++ signature ++ [0x3a, 16] ++ asciiBytes "mock_fingerprint" ++
    [0x40, 192, 132, 61]

/-- The sample gateway with the wire format of the generated class. -/
def wireGateway : GatewayProtocol := { gateway with protobuf := wireProtobuf }

end Sample

/-- The unmarked bundle is ingested under a policy whose one rule is for the explicit
    marking `tlp:green`. -/
theorem unmarked_bundle_ingested :
    wireProtobuf.parseFromString Sample.unmarkedPayload =
      .ok { Sample.envelope.toProto with tlpMarking := "" } ∧
    Sample.wireGateway.rules = [.dict Sample.allowRule] ∧
    InboundPep.fieldMatches Sample.allowRule "tlp" "tlp:green" = true ∧
    InboundPep.fieldMatches Sample.allowRule "tlp" "" = false ∧
    (ingested ((Sample.wireGateway.handleConnection "9f86d081884c7d65"
      [[1, 0, 0, 0, 185] ++ Sample.unmarkedPayload]).run Sample.outside.answer []).2).length =
        1 := by
  refine ⟨?_, rfl, ?_, ?_, ?_⟩ <;> decide +kernel

/-- The unmarked bundle was allowed for `tlp:green`. -/
theorem unmarked_ingestion_marking :
    ∃ b ∈ ingested ((Sample.wireGateway.handleConnection "9f86d081884c7d65"
        [[1, 0, 0, 0, 185] ++ Sample.unmarkedPayload]).run Sample.outside.answer []).2,
      ∃ payload rest message,
        [1, 0, 0, 0, 185] ++ Sample.unmarkedPayload =
          FrameCodec.frameBytes .signedBundle payload ++ rest ∧
        wireProtobuf.parseFromString payload = .ok message ∧
        (message.tlpMarking ≠ "" ∧ InboundPep.Allows [.dict Sample.allowRule] message.senderId
            message.recipientId message.tlpMarking ∨
          message.tlpMarking = "" ∧ InboundPep.Allows [.dict Sample.allowRule]
            message.senderId message.recipientId "tlp:green") := by
  have hne : (ingested ((Sample.wireGateway.handleConnection "9f86d081884c7d65"
      [[1, 0, 0, 0, 185] ++ Sample.unmarkedPayload]).run Sample.outside.answer []).2).isEmpty =
        false := by
    decide +kernel
  obtain ⟨b, hb⟩ := List.exists_mem_of_ne_nil _ (List.isEmpty_eq_false_iff.mp hne)
  obtain ⟨before, r, after, htrace⟩ := exists_call_of_mem_ingested hb
  obtain ⟨payload, rest, message, hstream, hrest⟩ :=
    ingestion_marking Sample.wireGateway _ _ Sample.outside.answer before after b r htrace
  exact ⟨b, hb, payload, rest, message, by simpa using hstream, hrest⟩

end GatewayB

end QsTie
