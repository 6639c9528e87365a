import QsTie.GatewayA.Pipeline
import QsTie.GatewayA.Session
import QsTie.GatewayB.Outcome

/-!
# One connection between the gateways

A link holds the session of Gateway A, the handler of Gateway B and the bytes
between them.  Each side writes to the end of its direction and the other reads
from the front, in pieces of any size and as late as it likes.  A tail that is
never read is lost; nothing is changed on the way and nothing is made up.

The handler of Gateway B is the program of `GatewayB/Protocol.lean`, one call at
a time.
-/

namespace QsTie.Exchange

open QsTie.Lib QsTie.GatewayA QsTie.GatewayB

/-- Both gateways, with the zlib behind them. -/
structure System where
  pipeline : Pipeline
  gateway : GatewayProtocol
  decompress : Bytes → Except PyExc Bytes

/-- `handle_connection` in its read loop, or after it. -/
inductive Handler where
  | reading
  | running (rest : Conn Unit)

structure Link where
  item : Item
  peerFingerprint : String
  session : Session
  /-- What Gateway A wrote, and how much of it Gateway B has read. -/
  sent : Bytes
  delivered : Bytes := []
  handler : Handler := .reading
  history : History := []
  /-- What Gateway A has read. -/
  received : Bytes := []

namespace Link

/-- What Gateway B wrote. -/
def responses (link : Link) : Bytes := (written link.history).flatten

variable (sys : System)

/-- `open_session` has returned and `send_envelope` runs to its first `await`. -/
def connect (it : Item) (peerFingerprint : String) : Link :=
  let started := Session.start sys.gateway.protobuf it.tx
  { item := it, peerFingerprint := peerFingerprint, session := started.1, sent := started.2 }

/-- `send_envelope` goes on when the bytes it waits for are there. -/
def resume (link : Link) : Option Link :=
  match link.session.awaited with
  | none => none
  | some n =>
    let data := (link.responses.drop link.received.length).take n
    if data.length = n then
      some { link with
        session := link.session.resume sys.gateway.loads link.item.id data
        received := link.received ++ data }
    else none

/-- The `await` of `send_envelope` raises: a timeout, a reset, the end of the stream. -/
def interrupt (e : PyExc) (link : Link) : Option Link :=
  match link.session.awaited with
  | none => none
  | some _ => some { link with session := .returned (failed e) }

/-- `reader.read(4096)` returns up to `n` bytes. -/
def read (n : Nat) (link : Link) : Option Link :=
  match link.handler with
  | .reading =>
    let data := (link.sent.drop link.delivered.length).take (min n 4096)
    if data.isEmpty then none
    else
      some { link with
        delivered := link.delivered ++ data
        handler := match readStep link.delivered data with
          | .inl _ => .reading
          | .inr stop => .running (sys.gateway.finish link.peerFingerprint stop) }
  | .running _ => none

/-- The read loop ends without a frame: end of stream, or a read that raises. -/
def endRead (link : Link) : Option Link :=
  match link.handler with
  | .reading =>
    some { link with handler := .running (sys.gateway.finish link.peerFingerprint .eof) }
  | .running _ => none

/-- The answers of the surroundings of Gateway B; zlib is the one of the system. -/
def answerOf (ans : (op : Call) → op.Ret) : (op : Call) → op.Ret
  | .decompress data => sys.decompress data
  | op => ans op

/-- The next call of the handler is answered. -/
def answer (ans : (op : Call) → op.Ret) (link : Link) : Option Link :=
  match link.handler with
  | .running (.call op k) =>
    some { link with
      handler := .running (k (answerOf sys ans op))
      history := link.history ++ [⟨op, answerOf sys ans op⟩] }
  | _ => none

/-! ### What holds of every connection -/

/-- The frame a read loop stopped at is what was delivered. -/
def StoppedAt (delivered : Bytes) (stop : ReadEnd) : Prop :=
  ∀ t payload remaining, stop = .frame t payload remaining →
    frameCodec.decodeFrameStream delivered = .ok (some ((t, payload), remaining))

structure Valid (link : Link) : Prop where
  sent : link.sent = [] ∨ envelopeFrame sys.gateway.protobuf link.item.tx = .ok link.sent
  delivered : link.delivered <+: link.sent
  idle : link.handler = .reading → link.history = []
  running : ∀ rest, link.handler = .running rest → ∃ stop, StoppedAt link.delivered stop ∧
    Prog.Steps (sys.gateway.finish link.peerFingerprint stop) link.history rest
  inflated : ∀ data result, ⟨.decompress data, result⟩ ∈ link.history →
    result = sys.decompress data
  received : link.received <+: link.responses
  heard : link.session.Heard link.received

variable {sys} {link link' : Link}

theorem valid_connect (it : Item) (peerFingerprint : String) :
    (connect sys it peerFingerprint).Valid sys := by
  refine ⟨?_, List.nil_prefix, fun _ => rfl, ?_, ?_, List.nil_prefix, ?_⟩
  · simp only [connect, Session.start]
    cases hframe : envelopeFrame sys.gateway.protobuf it.tx with
    | error e => left; rfl
    | ok frame => right; rfl
  · intro rest hrest
    simp [connect] at hrest
  · intro data result hmem
    simp [connect] at hmem
  · simp only [connect, Session.start]
    cases hframe : envelopeFrame sys.gateway.protobuf it.tx with
    | error e => exact Session.heard_failed e []
    | ok frame => rfl

theorem Valid.resume (h : link.Valid sys) (hstep : link.resume sys = some link') :
    link'.Valid sys := by
  unfold Link.resume at hstep
  split at hstep
  · simp at hstep
  · rename_i n hawaited
    simp only at hstep
    split at hstep
    · rename_i hlen
      obtain rfl : _ = link' := by simpa using hstep
      refine ⟨h.sent, h.delivered, h.idle, h.running, h.inflated, ?_, ?_⟩
      · -- the bytes read next are the next bytes written
        obtain ⟨tail, htail⟩ := h.received
        have hdrop : link.responses.drop link.received.length = tail := by
          rw [← htail, List.drop_left]
        simp only [hdrop]
        change link.received ++ tail.take n <+: link.responses
        rw [← htail]
        exact (List.prefix_append_right_inj _).mpr (List.take_prefix n tail)
      · exact h.heard.resume (by rw [hlen]; exact hawaited)
    · simp at hstep

theorem Valid.interrupt {e : PyExc} (h : link.Valid sys)
    (hstep : link.interrupt e = some link') : link'.Valid sys := by
  simp only [Link.interrupt] at hstep
  split at hstep
  · simp at hstep
  · obtain rfl : _ = link' := by simpa using hstep
    exact ⟨h.sent, h.delivered, h.idle, h.running, h.inflated, h.received,
      Session.heard_failed e _⟩

theorem Valid.read {n : Nat} (h : link.Valid sys) (hstep : link.read sys n = some link') :
    link'.Valid sys := by
  unfold Link.read at hstep
  split at hstep
  · rename_i hreading
    simp only at hstep
    split at hstep
    · simp at hstep
    · obtain rfl : _ = link' := by simpa using hstep
      have hnone := h.idle hreading
      refine ⟨h.sent, ?_, fun _ => hnone, ?_, h.inflated, h.received, h.heard⟩
      · obtain ⟨tail, htail⟩ := h.delivered
        have hdrop : link.sent.drop link.delivered.length = tail := by
          rw [← htail, List.drop_left]
        simp only [hdrop]
        rw [← htail]
        exact (List.prefix_append_right_inj _).mpr (List.take_prefix _ tail)
      · intro rest hrest
        simp only at hrest
        split at hrest
        · simp at hrest
        · rename_i stop hstop
          obtain rfl : _ = rest := by simpa using hrest
          refine ⟨stop, ?_, by rw [hnone]; exact .refl _⟩
          rintro t payload remaining rfl
          exact (readStep_eq_frame.mp hstop).2
  · simp at hstep

theorem Valid.endRead (h : link.Valid sys) (hstep : link.endRead sys = some link') :
    link'.Valid sys := by
  simp only [Link.endRead] at hstep
  split at hstep
  · rename_i hreading
    obtain rfl : _ = link' := by simpa using hstep
    refine ⟨h.sent, h.delivered, fun hidle => by simp at hidle, ?_, h.inflated, h.received,
      h.heard⟩
    intro rest hrest
    obtain rfl : _ = rest := by simpa using hrest
    refine ⟨.eof, ?_, by rw [h.idle hreading]; exact .refl _⟩
    intro t payload remaining heq
    simp at heq
  · simp at hstep

theorem Valid.answer {ans : (op : Call) → op.Ret} (h : link.Valid sys)
    (hstep : link.answer sys ans = some link') : link'.Valid sys := by
  simp only [Link.answer] at hstep
  split at hstep
  · rename_i op k hrunning
    obtain rfl : _ = link' := by simpa using hstep
    refine ⟨h.sent, h.delivered, fun hidle => by simp at hidle, ?_, ?_, ?_, h.heard⟩
    · intro rest hrest
      obtain rfl : _ = rest := by simpa using hrest
      obtain ⟨stop, hstop, hsteps⟩ := h.running _ hrunning
      exact ⟨stop, hstop, hsteps.snoc _⟩
    · intro data result hmem
      rcases List.mem_append.mp hmem with hmem | hmem
      · exact h.inflated data result hmem
      · cases List.mem_singleton.mp hmem
        rfl
    · apply h.received.trans
      simp only [responses, written_append, List.flatten_append]
      exact List.prefix_append _ _
  · simp at hstep

/-! ### What an ACK says -/

theorem exists_first_write {h : History} {frame : Bytes} {frames : List Bytes}
    (hwritten : written h = frame :: frames) :
    ∃ before after, h = before ++ ⟨.write frame, ()⟩ :: after := by
  have hmem : frame ∈ written h := by rw [hwritten]; exact List.mem_cons_self
  obtain ⟨ev, hev, hop⟩ := List.mem_filterMap.mp hmem
  obtain ⟨before, after, rfl⟩ := List.append_of_mem hev
  split at hop
  · rename_i frame' _
    obtain rfl : frame' = frame := by simpa using hop
    exact ⟨before, after, rfl⟩
  · simp at hop

/-- Every call of the handler keeps the gate. -/
theorem Valid.gate (h : link.Valid sys) {before after : History} {ev : Event Call Call.Ret}
    (hhistory : link.history = before ++ ev :: after) :
    ∃ stop, StoppedAt link.delivered stop ∧
      (GatewayB.gate sys.gateway link.peerFingerprint stop).pre before ev.op := by
  cases hhandler : link.handler with
  | reading =>
    rw [h.idle hhandler] at hhistory
    simp at hhistory
  | running rest =>
    obtain ⟨stop, hstop, hsteps⟩ := h.running rest hhandler
    have hgate := gate_finish sys.gateway link.peerFingerprint stop []
    have hcomplies := (Prog.wp_steps hgate hsteps fun _ _ _ _ => trivial).1
    exact ⟨stop, hstop, by simpa using hcomplies before ev after hhistory⟩

/-- The frame the handler decoded is the one the session wrote. -/
theorem Valid.payload (h : link.Valid sys) {stop : ReadEnd} {payload : Bytes}
    (hstop : StoppedAt link.delivered stop) (hframe : stop = .frame .signedBundle payload []) :
    ∃ env, link.item.tx.envelope = .ok env ∧ env.toBytes sys.gateway.protobuf = .ok payload := by
  obtain ⟨hfits, hdelivered⟩ :=
    frameCodec.decodeFrameStream_eq_some.mp (hstop _ _ _ hframe)
  obtain ⟨tail, htail⟩ := h.delivered
  rcases h.sent with hnone | hsent
  · rw [hnone, hdelivered] at htail
    simp [FrameCodec.frameBytes] at htail
  · obtain ⟨env, payload', henv, hbytes, hlt, hframe'⟩ := envelopeFrame_eq_ok hsent
    have heq : FrameCodec.frameBytes .signedBundle payload ++ tail =
        FrameCodec.frameBytes .signedBundle payload' ++ [] := by
      rw [List.append_nil, ← hframe', ← htail, hdelivered, List.append_nil]
    obtain ⟨_, rfl, _⟩ := FrameCodec.frameBytes_append_inj hfits.2 hlt heq
    exact ⟨env, henv, hbytes⟩

/-- A session that succeeded has read an ACK, and before Gateway B wrote it the envelope of
    the session was admitted and its bundle ingested. -/
theorem Valid.acknowledged (h : link.Valid sys) (hpb : sys.gateway.protobuf.RoundTrips)
    {result : Bool × PyVal} (hsession : link.session = .returned result)
    (hsuccess : result.1 = true) :
    ∃ env b before after, link.item.tx.envelope = .ok env ∧
      link.history = before ++ ⟨.write (ackFrame env.transactionId), ()⟩ :: after ∧
      ⟨.ingestBundle b, true⟩ ∈ before ∧
      Admitted sys.gateway (verifiedIn before) (inflatedIn before) link.peerFingerprint env b ∧
      link.received = ackFrame env.transactionId := by
  have hheard := h.heard
  rw [hsession] at hheard
  obtain ⟨payload, hlt, hreceived⟩ := hheard hsuccess
  obtain ⟨tail, htail⟩ := h.received
  rw [hreceived] at htail
  cases hwritten : written link.history with
  | nil =>
    rw [responses, hwritten] at htail
    simp [FrameCodec.frameBytes] at htail
  | cons frame frames =>
    obtain ⟨before, after, hhistory⟩ := exists_first_write hwritten
    obtain ⟨stop, hstop, hpre⟩ := h.gate hhistory
    rw [responses, hwritten, List.flatten_cons] at htail
    rcases hpre with ⟨txId, reason, rfl⟩ |
      ⟨payload', env, b, hframe, henv, hadmitted, hingested, hfits, rfl⟩
    · -- a NACK starts with another byte
      have htype := List.head_eq_of_cons_eq htail
      exact absurd htype (by decide)
    · obtain ⟨_, hpayload, _⟩ := FrameCodec.frameBytes_append_inj hlt hfits.2 htail
      obtain ⟨env', henv', hbytes⟩ := h.payload hstop hframe
      have hsame := TransactionEnvelope.fromBytes_toBytes hpb hbytes
      rw [henv] at hsame
      obtain rfl : env = env' := by simpa using hsame
      refine ⟨env, b, before, after, henv', hhistory, hingested, hadmitted, ?_⟩
      rw [hreceived, hpayload]
      rfl

end Link

end QsTie.Exchange
