import QsTie.Common.JsonRead
import QsTie.Exchange.Agreement
import QsTie.GatewayA.Framing
import QsTie.GatewayB.Segmentation
import QsTie.GatewayB.Served

/-!
# What Gateway A is told

The pair that `send_envelope` returns decides what becomes of a transaction.  On its
way from one gateway to the other the envelope is cut into reads, its connection is
one of many that the server of Gateway B turns to, and the answer is a JSON text
behind a header.  What the session makes of it is still the decision of Gateway B on
the envelope that was sent, and nothing else (`told_decision`).
-/

namespace QsTie.Exchange

open QsTie.Lib QsTie.GatewayA QsTie.GatewayB

/-- `json.loads` of a text that is one object of strings under different keys. -/
def LoadsObjects (loads : Bytes → Except PyExc PyVal) : Prop :=
  ∀ text entries, jsonObject text = some entries → (entries.map Prod.fst).Nodup →
    loads text = .ok (.dict (entries.map fun entry => (.str entry.1, .str entry.2)))

/-- Every response under the id fits a frame. -/
structure ResponsesFit (txId : String) : Prop where
  ack : AckFits txId
  nack : ∀ reason, NackFits txId reason

/-- The result of a session for a decision of Gateway B. -/
def told (ingestSync : PyVal → Bool) : Except NackReason PyVal → Bool × PyVal
  | .error reason => (false, .str reason.value)
  | .ok b =>
    if ingestSync b then (true, .str "ACK") else (false, .str NackReason.ingestFailed.value)

/-- Success is told of a bundle that the ingestor takes, and of nothing else. -/
theorem toNat_told (ingestSync : PyVal → Bool) (v : Except NackReason PyVal) :
    (told ingestSync v).1.toNat = (handedOver v).countP ingestSync := by
  cases v with
  | error reason => rfl
  | ok b => cases hb : ingestSync b <;> simp [told, handedOver, hb]

/-- What is told is no failure of the transport. -/
theorem isTransportFailure_told (ingestSync : PyVal → Bool) (v : Except NackReason PyVal) :
    isTransportFailure (told ingestSync v).2 = false := by
  cases v with
  | error reason => cases reason <;> rfl
  | ok b => cases hb : ingestSync b <;> simp only [told, hb] <;> rfl

/-! ### The response -/

section Response

variable {loads : Bytes → Except PyExc PyVal} {transactionId : String}

theorem readResponse_ack (hloads : LoadsObjects loads) (txId : String) :
    readResponse loads transactionId (UInt8.ofNat MessageType.ack.value) (ackPayload txId) =
      if txId = transactionId then (true, .str "ACK") else (false, .str "ACK_ID_MISMATCH") := by
  have hloaded := hloads (ackPayload txId) _ (jsonObject_jsonDumps _) (by simp)
  have hget : PyDict.get? [(PyVal.str "transaction_id", .str txId)] "transaction_id" =
      some (.str txId) := rfl
  simp only [readResponse, hloaded, List.map_cons, List.map_nil, hget]
  by_cases hid : txId = transactionId
  · simp [hid, PyVal.isStr, MessageType.value]
  · simp [hid, PyVal.isStr, MessageType.value]

theorem readResponse_nack (hloads : LoadsObjects loads) (txId : String) (reason : NackReason) :
    readResponse loads transactionId (UInt8.ofNat MessageType.nack.value)
      (nackPayload txId reason) = (false, .str reason.value) := by
  have hloaded := hloads (nackPayload txId reason) _ (jsonObject_jsonDumps _) (by simp)
  have hget : PyDict.get? [(PyVal.str "transaction_id", .str txId),
      (.str "reason", .str reason.value)] "reason" = some (.str reason.value) := rfl
  simp only [readResponse, hloaded, List.map_cons, List.map_nil, hget]
  rfl

/-- A NACK that fits is read to its reason, under whatever id it was sent. -/
theorem receive_nackFrame (hloads : LoadsObjects loads) {txId : String} {reason : NackReason}
    (hfits : NackFits txId reason) :
    Session.receive loads transactionId (nackFrame txId reason) =
      (.returned (false, .str reason.value), []) := by
  rw [nackFrame, Session.receive_frameBytes _ hfits.2, readResponse_nack hloads]

/-- The response to the envelope of the session is read to the decision it shows. -/
theorem receive_answered (hloads : LoadsObjects loads) (hfit : ResponsesFit transactionId)
    (out : Outside) (v : Except NackReason PyVal) :
    Session.receive loads transactionId
        (answered transactionId (responseTo out transactionId v)) =
      (.returned (told out.ingestBundle v), []) := by
  cases v with
  | error reason =>
    have hfits : frameCodec.Fits (nackPayload transactionId reason) := hfit.nack reason
    simp only [answered, responseTo, told, hfits, if_true]
    exact receive_nackFrame hloads hfits
  | ok b =>
    cases hb : out.ingestBundle b with
    | true =>
      have hfits : frameCodec.Fits (ackPayload transactionId) := hfit.ack
      simp only [answered, responseTo, told, hb, hfits, if_true]
      rw [Session.receive_frameBytes _ hfits.2, readResponse_ack hloads, if_pos rfl]
    | false =>
      have hfits : frameCodec.Fits (nackPayload transactionId .ingestFailed) := hfit.nack _
      simp only [answered, responseTo, told, hb, hfits, Bool.false_eq_true, if_false, if_true]
      exact receive_nackFrame hloads hfits

end Response

section Answer

variable {loads : Bytes → Except PyExc PyVal} {transactionId : String} {stream : Bytes}
  {result : Bool × PyVal}

/-- A session that has returned has read a header and what it declares. -/
theorem header_of_receive
    (h : (Session.receive loads transactionId stream).1 = .returned result) :
    ∃ typeByte declared body, FrameCodec.Header stream typeByte declared body ∧
      declared ≤ body.length ∧
      result = readResponse loads transactionId typeByte (body.take declared) := by
  rcases FrameCodec.short_or_header stream with hshort | ⟨typeByte, declared, body, hheader⟩
  · exact absurd h (Session.receive_of_short hshort result)
  · rw [Session.receive_header hheader] at h
    split at h
    · rename_i hlen
      exact ⟨typeByte, declared, body, hheader, hlen, (Session.returned.inj h).symm⟩
    · simp at h

/-- What follows the response is not read. -/
theorem receive_append (h : (Session.receive loads transactionId stream).1 = .returned result)
    (more : Bytes) :
    (Session.receive loads transactionId (stream ++ more)).1 = .returned result := by
  obtain ⟨typeByte, declared, body, ⟨a, b, c, d, rfl, rfl⟩, hlen, rfl⟩ := header_of_receive h
  have hlonger : FrameCodec.Header (typeByte :: a :: b :: c :: d :: body ++ more) typeByte
      (unpackLength a b c d) (body ++ more) := ⟨a, b, c, d, rfl, rfl⟩
  rw [Session.receive_header hlonger,
    if_pos (hlen.trans (by simp)), List.take_append_of_le_length hlen]

/-- A session that succeeds has read something that starts like an ACK. -/
theorem ack_of_receive (h : (Session.receive loads transactionId stream).1 = .returned result)
    (hsuccess : result.1 = true) : stream.head? = some (UInt8.ofNat MessageType.ack.value) := by
  obtain ⟨typeByte, declared, body, ⟨a, b, c, d, rfl, rfl⟩, _, rfl⟩ := header_of_receive h
  rw [ack_of_readResponse hsuccess]
  rfl

end Answer

/-! ### The frame -/

/-- Where the read loop stops on the reads of one frame: at the frame, or at a length that it
    refuses. -/
theorem readFrame_frame {payload : Bytes} {reads : List Bytes} (hlen : payload.length < 2 ^ 32)
    (hreads : Reads (FrameCodec.frameBytes .signedBundle payload) reads) :
    (frameCodec.Fits payload ∧ readFrame [] reads = .frame .signedBundle payload []) ∨
      (¬ frameCodec.Fits payload ∧ ∃ e, readFrame [] reads = .frameError e) := by
  have hempty : frameCodec.decodeFrameStream [] = .ok none :=
    frameCodec.decodeFrameStream_of_short (by decide)
  have hstop := readFrame_of_decode (fun data hdata => (hreads.sizes data hdata).1) hempty
  rw [List.nil_append, hreads.flatten] at hstop
  by_cases hfits : frameCodec.Fits payload
  · left
    have hdecode := frameCodec.decode_frameBytes_append (t := .signedBundle) hfits []
    rw [List.append_nil] at hdecode
    rw [hdecode] at hstop
    obtain ⟨remaining, hframe, hremaining⟩ := hstop
    rw [List.prefix_nil.mp hremaining] at hframe
    exact ⟨hfits, hframe⟩
  · right
    have hmax : frameCodec.maxPayloadSize < payload.length := by
      simp only [FrameCodec.Fits] at hfits
      omega
    rw [frameCodec.decodeFrameStream_header (FrameCodec.header_frameBytes _ hlen)] at hstop
    have htype : MessageType.ofValue? (UInt8.ofNat MessageType.signedBundle.value).toNat =
        some .signedBundle := rfl
    simp only [htype, hmax, if_true] at hstop
    exact ⟨hfits, _, hstop⟩

/-- On the reads of a frame that is cut it stops there too, or at the end of the stream. -/
theorem readFrame_cut {payload : Bytes} {reads : List Bytes} (hlen : payload.length < 2 ^ 32)
    (hsizes : ∀ data ∈ reads, data ≠ [] ∧ data.length ≤ 4096)
    (hcut : reads.flatten <+: FrameCodec.frameBytes .signedBundle payload) :
    readFrame [] reads = .eof ∨
      (frameCodec.Fits payload ∧ readFrame [] reads = .frame .signedBundle payload []) ∨
      (¬ frameCodec.Fits payload ∧ ∃ e, readFrame [] reads = .frameError e) := by
  by_cases hwhole : reads.flatten = FrameCodec.frameBytes .signedBundle payload
  · exact Or.inr (readFrame_frame hlen ⟨hwhole, hsizes⟩)
  have hempty : frameCodec.decodeFrameStream [] = .ok none :=
    frameCodec.decodeFrameStream_of_short (by decide)
  have hstop := readFrame_of_decode (fun data hdata => (hsizes data hdata).1) hempty
  rw [List.nil_append] at hstop
  cases hdecode : frameCodec.decodeFrameStream reads.flatten with
  | error e =>
    rw [hdecode] at hstop
    right; right
    refine ⟨?_, e, hstop⟩
    intro hfits
    have hshort : reads.flatten.length < _ :=
      lt_of_le_of_ne hcut.length_le fun hsame => hwhole (hcut.eq_of_length hsame)
    rw [frameCodec.decode_part hfits hcut hshort] at hdecode
    simp at hdecode
  | ok found =>
    rw [hdecode] at hstop
    cases found with
    | none => exact Or.inl hstop
    | some found =>
      -- a frame in the part is the whole frame
      obtain ⟨⟨t, payload'⟩, rest⟩ := found
      obtain ⟨tail, htail⟩ := hcut
      obtain ⟨hfits', hpart⟩ := frameCodec.decodeFrameStream_eq_some.mp hdecode
      rw [hpart, List.append_assoc, ← List.append_nil (FrameCodec.frameBytes .signedBundle _)]
        at htail
      obtain ⟨rfl, rfl, hrest⟩ := FrameCodec.frameBytes_append_inj hfits'.2 hlen htail
      rw [(List.append_eq_nil_iff.mp hrest).1, List.append_nil] at hpart
      exact absurd hpart hwhole

/-! ### The exchange -/

section Exchange

variable {Key : Type} (site : Site Key)

/-- The decision of Gateway B on an envelope with these bytes: more of them than its codec takes
    are refused before they are read. -/
def decision (peer : Peer) (env : TransactionEnvelope) (payload : Bytes) :
    Except NackReason PyVal :=
  if frameCodec.Fits payload then verdict site.proto (site.outside peer) peer.fingerprint env
  else .error .malformed

variable {site} {loads : Bytes → Except PyExc PyVal} {peers : List Peer} {srv : Server Key}
  {task : GatewayB.Task}

/-- The one response to an envelope that arrives in one frame, and what its sender reads of it. -/
theorem outcome_of_stop (hpb : site.proto.protobuf.RoundTrips) (hloads : LoadsObjects loads)
    {env : TransactionEnvelope} {payload : Bytes}
    (hpayload : env.toBytes site.proto.protobuf = .ok payload)
    (hfit : ResponsesFit env.transactionId) {stop : ReadEnd}
    (hstop : (frameCodec.Fits payload ∧ stop = .frame .signedBundle payload []) ∨
      (¬ frameCodec.Fits payload ∧ ∃ e, stop = .frameError e)) (peer : Peer) :
    ∃ response, outcome site.proto (site.outside peer) peer.fingerprint stop =
        ([response], handedOver (decision site peer env payload)) ∧
      Session.receive loads env.transactionId response =
        (.returned (told site.ingestSync (decision site peer env payload)), []) := by
  rcases hstop with ⟨hfits, rfl⟩ | ⟨hfits, e, rfl⟩
  · have hdecode := TransactionEnvelope.fromBytes_toBytes hpb hpayload
    simp only [outcome, payloadOutcome, hdecode, List.isEmpty_nil, Bool.not_true,
      Bool.false_eq_true, if_false, bne_self_eq_false, decision, hfits, if_true]
    exact ⟨_, rfl, receive_answered hloads hfit (site.outside peer) _⟩
  · simp only [outcome, decision, hfits, if_false]
    exact ⟨_, rfl, receive_nackFrame hloads nackFits_zero⟩

/-- What is handed over of an envelope that arrives in one frame, and what its sender reads. -/
theorem reply_of_done (hpaths : site.EqualPathsSameFile) (hpb : site.proto.protobuf.RoundTrips)
    (hloads : LoadsObjects loads) (hreach : Reach site.step anyStep (site.start peers) srv)
    (htask : task ∈ srv.tasks) (hdone : task.done = true)
    {env : TransactionEnvelope} {payload : Bytes}
    (hpayload : env.toBytes site.proto.protobuf = .ok payload) (hlen : payload.length < 2 ^ 32)
    (hreads : Reads (FrameCodec.frameBytes .signedBundle payload) task.peer.reads)
    (hfit : ResponsesFit env.transactionId) :
    ingested task.history = handedOver (decision site task.peer env payload) ∧
      (Session.receive loads env.transactionId (written task.history).flatten).1 =
        .returned (told site.ingestSync (decision site task.peer env payload)) := by
  obtain ⟨response, houtcome, hreceive⟩ := outcome_of_stop hpb hloads hpayload hfit
    (readFrame_frame hlen hreads) task.peer
  obtain ⟨⟨more, hwritten⟩, hingested⟩ := answered_of_done hpaths hreach htask hdone houtcome
  refine ⟨hingested, ?_⟩
  rw [hwritten, List.flatten_cons]
  exact receive_append (by rw [hreceive]) more.flatten

/-- **Gateway A is told the decision of Gateway B.**  Whatever connections the server turns to
    and in whatever order, however the frame is cut, and whatever drains fail: when the
    connection of a session is done, the bundle it was decided to take in was handed over, and
    what Gateway B wrote makes the session return exactly that decision. -/
theorem told_decision (hpaths : site.EqualPathsSameFile)
    (hpb : site.proto.protobuf.RoundTrips) (hloads : LoadsObjects loads)
    (hreach : Reach site.step anyStep (site.start peers) srv) (htask : task ∈ srv.tasks)
    (hdone : task.done = true) {tx : GatewayATransaction} {frame : Bytes}
    (hframe : envelopeFrame site.proto.protobuf tx = .ok frame)
    (hreads : Reads frame task.peer.reads) (hfit : ResponsesFit tx.transactionId) :
    ∃ env payload, tx.envelope = .ok env ∧ env.toBytes site.proto.protobuf = .ok payload ∧
      ingested task.history = handedOver (decision site task.peer env payload) ∧
      (Session.receive loads tx.transactionId (written task.history).flatten).1 =
        .returned (told site.ingestSync (decision site task.peer env payload)) := by
  obtain ⟨env, payload, henv, hpayload, hlen, rfl⟩ := envelopeFrame_eq_ok hframe
  refine ⟨env, payload, henv, hpayload, ?_⟩
  rw [← envelope_transactionId henv] at hfit ⊢
  exact reply_of_done hpaths hpb hloads hreach htask hdone hpayload hlen hreads hfit

end Exchange

/-! ### A session of the sample agency -/

namespace Sample

/-- The transaction of the sample envelope. -/
def sent : GatewayATransaction where
  transactionId := GatewayB.Sample.txId
  stixBundle := { bundleId := .none, rawJson := GatewayB.Sample.rawJson, tlpMarking := .green,
                  mispEventUuid := .none }
  stixBundleCompressed := some GatewayB.Sample.compressed
  signature := GatewayB.Sample.signature
  signerCertFingerprint := "mock_fingerprint"
  createdAtUnixMs := 1000000

/-- A JSON reader of objects of strings. -/
def loadsObject (text : Bytes) : Except PyExc PyVal :=
  match jsonObject text with
  | some entries => .ok (.dict (entries.map fun entry => (.str entry.1, .str entry.2)))
  | none => .error ⟨.valueError, "Expecting value"⟩

theorem loadsObjects_loadsObject : LoadsObjects loadsObject := by
  intro text entries htext _
  simp only [loadsObject, htext]

theorem keyPaths_str {path : PyVal}
    (hkey : GatewayB.Sample.site.proto.trustStore.KeyPath path) : ∃ text, path = .str text := by
  obtain ⟨id, agency, hknown, hpath⟩ := hkey
  have hagency : GatewayB.Sample.agency = agency := by
    simp only [GatewayB.Sample.site, GatewayB.Sample.gateway, TrustStore.getAgency,
      List.find?_cons, List.find?_nil] at hknown
    split at hknown <;> simp_all
  subst hagency
  exact ⟨_, (Option.some.inj hpath).symm⟩

theorem envelopeFrame_sent : envelopeFrame GatewayB.Sample.site.proto.protobuf sent =
    .ok ([1, 0, 0, 0, 196] ++ GatewayB.Sample.payload) := by
  have henv : sent.envelope = .ok GatewayB.Sample.envelope := rfl
  have hpayload : GatewayB.Sample.envelope.toBytes GatewayB.Sample.site.proto.protobuf =
      .ok GatewayB.Sample.payload := by
    change GatewayB.Sample.protobuf.serializeToString GatewayB.Sample.envelope.toProto = _
    simp only [GatewayB.Sample.protobuf, if_true]
  have hheader : packHeader .signedBundle GatewayB.Sample.payload.length =
      .ok [1, 0, 0, 0, 196] := by
    have hlen : GatewayB.Sample.payload.length = 196 := by decide +kernel
    rw [hlen]
    rfl
  simp only [envelopeFrame, henv, hpayload, hheader]

theorem responsesFit : ResponsesFit sent.transactionId := by
  constructor
  · decide +kernel
  · intro reason
    cases reason <;> decide +kernel

end Sample

/-- Two connections of the agency at once: the sender of the second, whose frame came in two
    reads, is told. -/
theorem sample_told_decision :
    ∃ srv task env payload, Reach GatewayB.Sample.site.step anyStep
        (GatewayB.Sample.site.start GatewayB.Sample.peers) srv ∧ task ∈ srv.tasks ∧
      Sample.sent.envelope = .ok env ∧
      (Session.receive Sample.loadsObject GatewayB.Sample.txId
        (written task.history).flatten).1 =
          .returned (told GatewayB.Sample.site.ingestSync
            (decision GatewayB.Sample.site task.peer env payload)) := by
  have hrun : (runLabels GatewayB.Sample.site.step
      (GatewayB.Sample.site.start GatewayB.Sample.peers) GatewayB.Sample.turns).map
        (fun srv => srv.tasks.any fun task => task.done &&
          task.peer.reads == [[1, 0, 0], [0, 196] ++ GatewayB.Sample.payload]) = some true := by
    decide +kernel
  obtain ⟨srv, hreach, hend⟩ := Reach.exists_of_run (fun _ _ _ => trivial) hrun
  obtain ⟨task, htask, hcheck⟩ := List.any_eq_true.mp hend
  obtain ⟨hdone, hcut⟩ := (Bool.and_eq_true _ _).mp hcheck
  have hreads : Reads ([1, 0, 0, 0, 196] ++ GatewayB.Sample.payload) task.peer.reads := by
    rw [eq_of_beq hcut]
    exact ⟨rfl, by decide +kernel⟩
  obtain ⟨env, payload, henv, _, _, hreceive⟩ := told_decision
    (equalPathsSameFile_of_str fun _ hkey => Sample.keyPaths_str hkey) Sample.roundTrips
    Sample.loadsObjects_loadsObject hreach htask hdone Sample.envelopeFrame_sent hreads
    Sample.responsesFit
  exact ⟨srv, task, env, payload, hreach, htask, henv, hreceive⟩

end QsTie.Exchange
