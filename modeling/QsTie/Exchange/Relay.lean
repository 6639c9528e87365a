import Mathlib.Data.List.Sigma
import QsTie.Exchange.Attempts
import QsTie.Exchange.Reply
import QsTie.GatewayA.Settled

/-!
# Both gateways at work

Gateway A with all its workers runs beside the server of Gateway B with all its
connections.  A session of Gateway A is one of these connections.  It brings the
frame of the session, or is cut somewhere in it; the answer is read as it is
written, or Gateway A stops waiting for it.

Gateway B takes a transaction in at most once, and once more for each session that
was interrupted and each connection from elsewhere that brings it; when it is ACKED
it was taken in, and when it is dead-lettered it was not, unless in a session that
was interrupted (`taken_in_once`).
-/

namespace QsTie.Exchange

open QsTie.Lib QsTie.GatewayA QsTie.GatewayB

/-- Gateway A and the server of Gateway B. -/
structure Relay (Key : Type) where
  pipeline : Pipeline
  site : Site Key
  /-- `json.loads(payload.decode('utf-8'))` of Gateway A. -/
  loads : Bytes → Except PyExc PyVal

/-- A session of Gateway A: its transaction, the place of its connection among those of the
    server, what `send_envelope` has returned, and whether an exception ended it. -/
structure Contact where
  item : Item
  conn : Nat
  result : Option (Bool × PyVal) := none
  interrupted : Bool := false

structure Joint (Key : Type) where
  a : State
  srv : Server Key
  /-- The newest first. -/
  contacts : List Contact

inductive Hop where
  /-- A step of Gateway A that needs no connection. -/
  | pipeline (l : Label)
  | connect (conn : Nat)
  /-- `send_envelope` has read the response. -/
  | returned
  /-- An `await` of `send_envelope` raises, after the frame has been written. -/
  | interrupt (e : PyExc)
  | turn (t : Turn)

namespace Relay

variable {Key : Type} (relay : Relay Key)

abbrev protobuf : Protobuf := relay.site.proto.protobuf

/-- The connection brings what the session writes, or the beginning of it. -/
def carries (it : Item) (peer : Peer) : Bool :=
  peer.reads.flatten.isPrefixOf (Session.start relay.protobuf it.tx).2 &&
    peer.reads.all fun data => !data.isEmpty && decide (data.length ≤ 4096)

/-- What `send_envelope` returns on what Gateway B has written so far. -/
def reply (it : Item) (task : GatewayB.Task) : Option (Bool × PyVal) :=
  match (Session.start relay.protobuf it.tx).1 with
  | .returned result => some result
  | _ =>
    match (Session.receive relay.loads it.id (written task.history).flatten).1 with
    | .returned result => some result
    | _ => none

/-- `send_envelope` writes a frame. -/
def framed (it : Item) : Bool := (envelopeFrame relay.protobuf it.tx).toOption.isSome

/-- The newest session ends, and the transmission goes on. -/
def conclude (w : Joint Key) (c : Contact) (rest : List Contact) (result : Bool × PyVal)
    (interrupted : Bool) : Option (Joint Key) :=
  (GatewayA.step relay.pipeline w.a (.txSent result.1 result.2)).map fun a =>
    { w with
      a := a
      contacts := { c with result := some result, interrupted := interrupted } :: rest }

def step (w : Joint Key) : Hop → Option (Joint Key)
  | .pipeline l =>
    if overLink l then none
    else (GatewayA.step relay.pipeline w.a l).map fun a => { w with a := a }
  | .connect conn =>
    match w.a.tx, w.srv.tasks[conn]? with
    | .opening it, some task =>
      if relay.carries it task.peer && w.contacts.all (fun c => c.conn != conn) then
        (GatewayA.step relay.pipeline w.a (.txOpened (.ok ()))).map fun a =>
          { w with a := a, contacts := { item := it, conn := conn } :: w.contacts }
      else none
    | _, _ => none
  | .returned =>
    match w.contacts with
    | [] => none
    | c :: rest =>
      match (w.srv.tasks[c.conn]?).bind (relay.reply c.item) with
      | none => none
      | some result => relay.conclude w c rest result false
  | .interrupt e =>
    match w.contacts with
    | [] => none
    | c :: rest =>
      if relay.framed c.item then relay.conclude w c rest (failed e) true else none
  | .turn t => (relay.site.step w.srv t).map fun srv => { w with srv := srv }

/-- Nothing has happened; the connections that will come stand ready. -/
def start (peers : List Peer) : Joint Key := ⟨State.init, relay.site.start peers, []⟩

/-! ### What a connection is told -/

/-- What Gateway B decides about a session on a connection like this one, as the session is
    told it. -/
def conclusion (it : Item) (peer : Peer) : Bool × PyVal :=
  match it.tx.envelope with
  | .error e => failed e
  | .ok env =>
    match env.toBytes relay.protobuf with
    | .error e => failed e
    | .ok payload =>
      match packHeader .signedBundle payload.length with
      | .error e => failed e
      | .ok _ => told relay.site.ingestSync (decision relay.site peer env payload)

variable {relay} {it : Item} {peer : Peer}

theorem conclusion_of_error {e : PyExc} (h : envelopeFrame relay.protobuf it.tx = .error e) :
    relay.conclusion it peer = failed e := by
  cases henv : it.tx.envelope with
  | error e' =>
    simp only [envelopeFrame, henv, Except.error.injEq] at h
    simp only [conclusion, henv, h]
  | ok env =>
    cases hpayload : env.toBytes relay.protobuf with
    | error e' =>
      simp only [envelopeFrame, henv, hpayload, Except.error.injEq] at h
      simp only [conclusion, henv, hpayload, h]
    | ok payload =>
      cases hheader : packHeader .signedBundle payload.length with
      | error e' =>
        simp only [envelopeFrame, henv, hpayload, hheader, Except.error.injEq] at h
        simp only [conclusion, henv, hpayload, hheader, h]
      | ok header => simp [envelopeFrame, henv, hpayload, hheader] at h

theorem conclusion_of_frame {frame : Bytes}
    (h : envelopeFrame relay.protobuf it.tx = .ok frame) :
    ∃ env payload, it.tx.envelope = .ok env ∧ env.toBytes relay.protobuf = .ok payload ∧
      payload.length < 2 ^ 32 ∧ frame = FrameCodec.frameBytes .signedBundle payload ∧
      relay.conclusion it peer =
        told relay.site.ingestSync (decision relay.site peer env payload) := by
  obtain ⟨env, payload, henv, hpayload, hlen, hframe⟩ := envelopeFrame_eq_ok h
  refine ⟨env, payload, henv, hpayload, hlen, hframe, ?_⟩
  simp only [conclusion, henv, hpayload, packHeader, if_pos hlen]

theorem carries_iff : relay.carries it peer = true ↔
    peer.reads.flatten <+: (Session.start relay.protobuf it.tx).2 ∧
      ∀ data ∈ peer.reads, data ≠ [] ∧ data.length ≤ 4096 := by
  simp [carries]

/-- A session without a frame has written nothing, and its connection brings nothing. -/
theorem reads_of_error {e : PyExc} (h : envelopeFrame relay.protobuf it.tx = .error e)
    (hcarries : relay.carries it peer = true) : peer.reads = [] := by
  obtain ⟨hcut, hsizes⟩ := carries_iff.mp hcarries
  simp only [Session.start, h, List.prefix_nil] at hcut
  cases hreads : peer.reads with
  | nil => rfl
  | cons data reads =>
    rw [hreads, List.flatten_cons, List.append_eq_nil_iff] at hcut
    exact absurd hcut.1 (hsizes data (by rw [hreads]; exact List.mem_cons_self)).1

/-- **What a connection of a session shows in the end**: nothing at all, or the one response to
    its envelope. -/
theorem outcome_of_carries (hpb : relay.protobuf.RoundTrips) (hloads : LoadsObjects relay.loads)
    (hfit : ResponsesFit it.id) (hcarries : relay.carries it peer = true) :
    outcome relay.site.proto (relay.site.outside peer) peer.fingerprint
        (readFrame [] peer.reads) = ([], []) ∨
      ∃ response handed, outcome relay.site.proto (relay.site.outside peer) peer.fingerprint
          (readFrame [] peer.reads) = ([response], handed) ∧
        handed.countP relay.site.ingestSync = (relay.conclusion it peer).1.toNat ∧
        Session.receive relay.loads it.id response =
          (.returned (relay.conclusion it peer), []) := by
  cases hframe : envelopeFrame relay.protobuf it.tx with
  | error e =>
    left
    rw [reads_of_error hframe hcarries]
    rfl
  | ok frame =>
    obtain ⟨hcut, hsizes⟩ := carries_iff.mp hcarries
    simp only [Session.start, hframe] at hcut
    obtain ⟨env, payload, henv, hpayload, hlen, rfl, htold⟩ := conclusion_of_frame hframe
    rcases readFrame_cut hlen hsizes hcut with heof | hstop
    · left
      rw [heof]
      rfl
    · right
      rw [htold, toNat_told]
      have hid := envelope_transactionId henv
      rw [Item.id, ← hid] at hfit ⊢
      obtain ⟨response, houtcome, hreceive⟩ :=
        outcome_of_stop hpb hloads hpayload hfit hstop peer
      exact ⟨response, _, houtcome, rfl, hreceive⟩

/-- A session that was told of success has sent a frame. -/
theorem framed_of_conclusion (h : (relay.conclusion it peer).1 = true) :
    relay.framed it = true := by
  cases hframe : envelopeFrame relay.protobuf it.tx with
  | error e => rw [conclusion_of_error hframe, failed_fst] at h; simp at h
  | ok frame => simp [framed, hframe, Except.toOption]

/-- The only envelope on the connection of a session is the one of its transaction. -/
theorem envelope_of_carries (hpb : relay.protobuf.RoundTrips)
    (hcarries : relay.carries it peer = true) {payload : Bytes}
    (hframe : readFrame [] peer.reads = .frame .signedBundle payload [])
    {env : TransactionEnvelope}
    (henv : TransactionEnvelope.fromBytes relay.protobuf payload = .ok env) :
    it.tx.envelope = .ok env := by
  cases hown : envelopeFrame relay.protobuf it.tx with
  | error e =>
    rw [reads_of_error hown hcarries] at hframe
    simp [readFrame] at hframe
  | ok frame =>
    obtain ⟨hcut, hsizes⟩ := carries_iff.mp hcarries
    simp only [Session.start, hown] at hcut
    obtain ⟨own, payload', howned, hpayload, hlen, rfl⟩ := envelopeFrame_eq_ok hown
    rcases readFrame_cut hlen hsizes hcut with heof | ⟨_, hwhole⟩ | ⟨_, e, herror⟩
    · rw [heof] at hframe
      simp at hframe
    · rw [hwhole] at hframe
      obtain rfl : payload' = payload := by simpa using hframe
      rw [TransactionEnvelope.fromBytes_toBytes hpb hpayload] at henv
      rw [howned, Except.ok.inj henv]
    · rw [herror] at hframe
      simp at hframe

end Relay

/-! ### The connections of the server -/

section Connections

variable {Key : Type} {relay : Relay Key} {peers : List Peer} {srv : Server Key}
  {task : GatewayB.Task} {it : Item}

/-- On the path of a handler the ingestor answers for itself. -/
theorem ingestedTrue_of_onPath {site : Site Key} {peer : Peer} {history : History}
    {prog : Conn Unit} (hpath : OnPath site peer history prog) :
    ingestedTrue history = (ingested history).countP site.ingestSync := by
  have hanswers : ∀ b r, ⟨.ingestBundle b, r⟩ ∈ history → r = site.ingestSync b := by
    intro b r hmem
    obtain ⟨_, hanswer⟩ := hpath.answer hmem (by simp)
    exact hanswer
  clear hpath
  induction history with
  | nil => rfl
  | cons ev history ih =>
    have hrest := ih fun b r hmem => hanswers b r (List.mem_cons_of_mem _ hmem)
    obtain ⟨op, r⟩ := ev
    simp only [ingestedTrue, ingested, List.countP_cons, List.filterMap_cons] at hrest ⊢
    cases op with
    | ingestBundle b =>
      obtain rfl := hanswers b r List.mem_cons_self
      rw [hrest, List.countP_cons]
      rfl
    | _ => exact hrest

/-- Whether it has ended or not, a connection has taken in no more than its session is told. -/
theorem taken_le (hpaths : relay.site.EqualPathsSameFile) (hpb : relay.protobuf.RoundTrips)
    (hloads : LoadsObjects relay.loads)
    (hreach : Reach relay.site.step anyStep (relay.site.start peers) srv)
    (htask : task ∈ srv.tasks) (hfit : ResponsesFit it.id)
    (hcarries : relay.carries it task.peer = true) :
    ingestedTrue task.history ≤ (relay.conclusion it task.peer).1.toNat := by
  obtain ⟨prog, hpath⟩ := ((sound_of_reach hpaths hreach).tasks task htask).onPath
  obtain ⟨later, hhanded⟩ := hpath.handed
  have hgrow : (ingested task.history).countP relay.site.ingestSync ≤
      (ingested (task.history ++ later)).countP relay.site.ingestSync := by
    rw [ingested_append, List.countP_append]
    exact Nat.le_add_right _ _
  rw [ingestedTrue_of_onPath hpath]
  rw [hhanded] at hgrow
  rcases Relay.outcome_of_carries hpb hloads hfit hcarries with houtcome |
    ⟨response, handed, houtcome, hcount, _⟩
  · rw [houtcome] at hgrow
    exact hgrow.trans (Nat.zero_le _)
  · rwa [houtcome, hcount] at hgrow

/-- **What a session reads of its connection** is what Gateway B decided; and success is read
    when the bundle has been taken in. -/
theorem reply_eq (hpaths : relay.site.EqualPathsSameFile) (hpb : relay.protobuf.RoundTrips)
    (hloads : LoadsObjects relay.loads)
    (hreach : Reach relay.site.step anyStep (relay.site.start peers) srv)
    (htask : task ∈ srv.tasks) (hfit : ResponsesFit it.id)
    (hcarries : relay.carries it task.peer = true)
    {result : Bool × PyVal} (hreply : relay.reply it task = some result) :
    result = relay.conclusion it task.peer ∧
      (result.1 = true → 0 < ingestedTrue task.history) := by
  cases hframe : envelopeFrame relay.protobuf it.tx with
  | error e =>
    simp only [Relay.reply, Session.start, hframe, Option.some.injEq] at hreply
    subst hreply
    refine ⟨(Relay.conclusion_of_error hframe).symm, ?_⟩
    intro hsuccess
    rw [failed_fst] at hsuccess
    simp at hsuccess
  | ok frame =>
    have hreceived : (Session.receive relay.loads it.id (written task.history).flatten).1 =
        .returned result := by
      simp only [Relay.reply, Session.start, hframe] at hreply
      split at hreply
      · rename_i hreturned
        rw [hreturned, Option.some.inj hreply]
      · simp at hreply
    obtain ⟨prog, hpath⟩ := ((sound_of_reach hpaths hreach).tasks task htask).onPath
    cases hwritten : written task.history with
    | nil =>
      rw [hwritten] at hreceived
      exact absurd hreceived (Session.receive_of_short (by simp [HEADER_SIZE]) result)
    | cons first more =>
      -- what was written first is the response
      obtain ⟨rest, hfirst⟩ := hpath.first_shown hwritten
      rcases Relay.outcome_of_carries hpb hloads hfit hcarries with houtcome |
        ⟨response, handed, houtcome, _, hreceive⟩
      · simp [houtcome] at hfirst
      · obtain ⟨rfl, _⟩ : response = first ∧ [] = rest := by simpa [houtcome] using hfirst
        have hreturned : (Session.receive relay.loads it.id response).1 =
            .returned (relay.conclusion it task.peer) := by rw [hreceive]
        have hresult : result = relay.conclusion it task.peer := by
          rw [hwritten, List.flatten_cons, receive_append hreturned] at hreceived
          exact (Session.returned.inj hreceived).symm
        refine ⟨hresult, ?_⟩
        intro hsuccess
        rw [hresult] at hsuccess
        obtain ⟨b, hb⟩ := ingested_of_ack hpaths hreach htask
          (by rw [hwritten]; exact List.mem_cons_self) (ack_of_receive hreturned hsuccess)
        exact List.countP_pos_iff.mpr ⟨_, hb, rfl⟩

end Connections

/-! ### What a hop can do -/

section Steps

variable {Key : Type} {relay : Relay Key} {w w' : Joint Key}

inductive Hopped (relay : Relay Key) (w w' : Joint Key) : Hop → Prop where
  | pipeline (l : Label) (hl : overLink l = false)
      (hstep : GatewayA.step relay.pipeline w.a l = some w'.a) (hsrv : w'.srv = w.srv)
      (hcontacts : w'.contacts = w.contacts) : Hopped relay w w' (.pipeline l)
  | connect (it : Item) (conn : Nat) (task : GatewayB.Task) (hopening : w.a.tx = .opening it)
      (htask : w.srv.tasks[conn]? = some task) (hcarries : relay.carries it task.peer = true)
      (hstep : GatewayA.step relay.pipeline w.a (.txOpened (.ok ())) = some w'.a)
      (hsrv : w'.srv = w.srv)
      (hcontacts : w'.contacts = { item := it, conn := conn } :: w.contacts) :
      Hopped relay w w' (.connect conn)
  | returned (c : Contact) (rest : List Contact) (result : Bool × PyVal) (task : GatewayB.Task)
      (hbefore : w.contacts = c :: rest) (htask : w.srv.tasks[c.conn]? = some task)
      (hreply : relay.reply c.item task = some result)
      (hstep : GatewayA.step relay.pipeline w.a (.txSent result.1 result.2) = some w'.a)
      (hsrv : w'.srv = w.srv)
      (hcontacts : w'.contacts = { c with result := some result, interrupted := false } :: rest) :
      Hopped relay w w' .returned
  | interrupt (c : Contact) (rest : List Contact) (e : PyExc) (hbefore : w.contacts = c :: rest)
      (hstep : GatewayA.step relay.pipeline w.a (.txSent (failed e).1 (failed e).2) = some w'.a)
      (hsrv : w'.srv = w.srv)
      (hcontacts : w'.contacts =
        { c with result := some (failed e), interrupted := true } :: rest) :
      Hopped relay w w' (.interrupt e)
  | turn (t : Turn) (hstep : relay.site.step w.srv t = some w'.srv) (ha : w'.a = w.a)
      (hcontacts : w'.contacts = w.contacts) : Hopped relay w w' (.turn t)

/-- **What a hop can do.** -/
theorem hopped_of_step {h : Hop} (hstep : relay.step w h = some w') : Hopped relay w w' h := by
  cases h with
  | pipeline l =>
    simp only [Relay.step] at hstep
    split at hstep
    · simp at hstep
    · rename_i hl
      obtain ⟨a, ha, rfl⟩ := Option.map_eq_some_iff.mp hstep
      exact .pipeline l (by simpa using hl) ha rfl rfl
  | connect conn =>
    simp only [Relay.step] at hstep
    split at hstep
    · rename_i it task hopening htask
      split at hstep
      · rename_i hnew
        obtain ⟨hcarries, _⟩ := (Bool.and_eq_true _ _).mp hnew
        obtain ⟨a, ha, rfl⟩ := Option.map_eq_some_iff.mp hstep
        exact .connect it conn task hopening htask hcarries ha rfl rfl
      · simp at hstep
    · simp at hstep
  | returned =>
    simp only [Relay.step] at hstep
    split at hstep
    · simp at hstep
    · rename_i c rest hbefore
      split at hstep
      · simp at hstep
      · rename_i result hreply
        obtain ⟨task, htask, hresult⟩ := Option.bind_eq_some_iff.mp hreply
        obtain ⟨a, ha, rfl⟩ := Option.map_eq_some_iff.mp hstep
        exact .returned c rest result task hbefore htask hresult ha rfl rfl
  | interrupt e =>
    simp only [Relay.step] at hstep
    split at hstep
    · simp at hstep
    · rename_i c rest hbefore
      split at hstep
      · obtain ⟨a, ha, rfl⟩ := Option.map_eq_some_iff.mp hstep
        exact .interrupt c rest e hbefore ha rfl rfl
      · simp at hstep
  | turn t =>
    simp only [Relay.step] at hstep
    obtain ⟨srv, hsrv, rfl⟩ := Option.map_eq_some_iff.mp hstep
    exact .turn t hsrv rfl rfl

/-- **One of the two gateways takes a step**, Gateway A the one of the hop or one over the link. -/
theorem Hopped.moves {h : Hop} (hhop : Hopped relay w w' h) :
    (∃ l, (h = .pipeline l ∨ overLink l = true) ∧
      GatewayA.step relay.pipeline w.a l = some w'.a ∧ w'.srv = w.srv) ∨
    ∃ t, relay.site.step w.srv t = some w'.srv ∧ w'.a = w.a := by
  cases hhop with
  | pipeline l _ hstep hsrv _ => exact Or.inl ⟨l, Or.inl rfl, hstep, hsrv⟩
  | connect _ _ _ _ _ _ hstep hsrv _ => exact Or.inl ⟨_, Or.inr rfl, hstep, hsrv⟩
  | returned _ _ _ _ _ _ _ hstep hsrv _ => exact Or.inl ⟨_, Or.inr rfl, hstep, hsrv⟩
  | interrupt _ _ _ _ hstep hsrv _ => exact Or.inl ⟨_, Or.inr rfl, hstep, hsrv⟩
  | turn t hstep ha _ => exact Or.inr ⟨t, hstep, ha⟩

variable {peers : List Peer}

/-- Gateway A runs in it as it does alone, and so does the server. -/
theorem Relay.reach_pipeline (hreach : Reach relay.step anyStep (relay.start peers) w) :
    Reach (GatewayA.step relay.pipeline) anyStep State.init w.a := by
  apply hreach.project Joint.a
  intro w w' h hstep
  rcases (hopped_of_step hstep).moves with ⟨l, _, ha, _⟩ | ⟨_, _, ha⟩
  · right; exact ⟨l, ha⟩
  · left; exact ha

theorem Relay.reach_server (hreach : Reach relay.step anyStep (relay.start peers) w) :
    Reach relay.site.step anyStep (relay.site.start peers) w.srv := by
  apply hreach.project Joint.srv
  intro w w' h hstep
  rcases (hopped_of_step hstep).moves with ⟨_, _, _, hsrv⟩ | ⟨t, hsrv, _⟩
  · left; exact hsrv
  · right; exact ⟨t, hsrv⟩

end Steps

/-! ### The sessions so far -/

/-- A session and its connection. -/
structure Meets {Key : Type} (relay : Relay Key) (c : Contact) (task : GatewayB.Task) : Prop where
  carries : relay.carries c.item task.peer = true
  told : ∀ result, c.result = some result → c.interrupted = false →
    result = relay.conclusion c.item task.peer ∧
      (result.1 = true → 0 < ingestedTrue task.history)
  broken : ∀ result, c.result = some result → c.interrupted = true → result.1 = false

/-- A session that sent its frame and was not interrupted decides about its transaction. -/
def Relay.counts {Key : Type} (relay : Relay Key) (c : Contact) : Bool :=
  relay.framed c.item && !c.interrupted

/-- The session is over, and its transaction is settled if that decides about it. -/
def Over {Key : Type} (relay : Relay Key) (j : Journal) (c : Contact) : Prop :=
  ∃ result, c.result = some result ∧ (relay.counts c = true →
    (if result.1 then TransactionState.acked else .failed) ∈ statesOf c.item.id j)

/-- All sessions are over but the one the transmission is in. -/
def Stand {Key : Type} (relay : Relay Key) (j : Journal) (contacts : List Contact) :
    TxPc → Prop
  | .sending it => ∃ conn rest, contacts = { item := it, conn := conn } :: rest ∧
      ∀ c ∈ rest, Over relay j c
  | .closing it success reason => ∃ conn interrupted rest,
      contacts = ⟨it, conn, some (success, reason), interrupted⟩ :: rest ∧
      ∀ c ∈ rest, Over relay j c
  | _ => ∀ c ∈ contacts, Over relay j c

structure Joined {Key : Type} (relay : Relay Key) (w : Joint Key) : Prop where
  meets : ∀ c ∈ w.contacts, ∃ task, w.srv.tasks[c.conn]? = some task ∧ Meets relay c task
  known : ∀ c ∈ w.contacts, Known relay.pipeline w.a.journal (.sending, c.item)
  stand : Stand relay w.a.journal w.contacts w.a.tx
  acked : ∀ id ∈ ackedIds w.a.journal, ∃ c ∈ w.contacts, c.item.id = id ∧
    c.interrupted = false ∧ ∃ reason, c.result = some (true, reason)
  once : ((w.contacts.filter relay.counts).map fun c => c.item.id).Nodup

section Invariant

variable {Key : Type} {relay : Relay Key} {w w' : Joint Key}

theorem Over.mono {j : Journal} {c : Contact} (h : Over relay j c) (es : Journal) :
    Over relay (j ++ es) c := by
  obtain ⟨result, hresult, hsettled⟩ := h
  refine ⟨result, hresult, ?_⟩
  intro hcounts
  rw [statesOf_append]
  exact List.mem_append_left _ (hsettled hcounts)

theorem Stand.mono {j : Journal} {contacts : List Contact} {pc : TxPc}
    (h : Stand relay j contacts pc) (es : Journal) : Stand relay (j ++ es) contacts pc := by
  cases pc with
  | sending it =>
    obtain ⟨conn, rest, hcontacts, hrest⟩ := h
    exact ⟨conn, rest, hcontacts, fun c hc => (hrest c hc).mono es⟩
  | closing it success reason =>
    obtain ⟨conn, interrupted, rest, hcontacts, hrest⟩ := h
    exact ⟨conn, interrupted, rest, hcontacts, fun c hc => (hrest c hc).mono es⟩
  | _ => exact fun c hc => (h c hc).mono es

theorem stand_of_apart {j : Journal} {contacts : List Contact} {pc : TxPc}
    (hapart : pc.apart = true) : Stand relay j contacts pc ↔ ∀ c ∈ contacts, Over relay j c := by
  cases pc with
  | sending it => simp [TxPc.apart] at hapart
  | closing it success reason => simp [TxPc.apart] at hapart
  | _ => exact Iff.rfl

/-- How the transmission leaves a session: acknowledged, retried, or given up. -/
theorem states_of_afterClose {cfg : GatewayAConfig} {it : Item} {success : Bool} {reason : PyVal}
    (hreason : success = false → isTransportFailure reason = false) :
    (if success then TransactionState.acked else .failed) ∈
      statesOf it.id (.sessionClosed it.id :: (afterClose cfg it success reason).2) := by
  cases success with
  | true => simp [afterClose, statesOf]
  | false => simp [afterClose, hreason rfl, fail, statesOf]

/-- The session that is closed settles its transaction. -/
theorem over_of_close {cfg : GatewayAConfig} {c : Contact} {task : GatewayB.Task}
    {success : Bool} {reason : PyVal} (hmeets : Meets relay c task)
    (hresult : c.result = some (success, reason)) (j : Journal) :
    Over relay (j ++ .sessionClosed c.item.id :: (afterClose cfg c.item success reason).2) c := by
  refine ⟨_, hresult, ?_⟩
  intro hcounts
  obtain ⟨hframed, hwhole⟩ := (Bool.and_eq_true _ _).mp hcounts
  rw [statesOf_append]
  apply List.mem_append_right
  apply states_of_afterClose
  intro _
  obtain ⟨htold, _⟩ := hmeets.told _ hresult (by simpa using hwhole)
  cases hframe : envelopeFrame relay.protobuf c.item.tx with
  | error e => simp [Relay.framed, hframe, Except.toOption] at hframed
  | ok frame =>
    obtain ⟨env, payload, _, _, _, _, hconclusion⟩ := Relay.conclusion_of_frame hframe
    have hreason : reason = (told relay.site.ingestSync
        (decision relay.site task.peer env payload)).2 :=
      congrArg Prod.snd (htold.trans hconclusion)
    rw [hreason]
    exact isTransportFailure_told _ _

/-- A step of Gateway A that needs no connection leaves no session. -/
theorem Joined.stand_pipeline {l : Label} (h : Joined relay w) (hl : overLink l = false)
    (hstep : GatewayA.step relay.pipeline w.a l = some w'.a) :
    Stand relay w'.a.journal w.contacts w'.a.tx := by
  obtain ⟨es, hjournal, hmove⟩ := step_tx hstep
  rw [hjournal]
  cases hafter : w'.a.tx.apart with
  | false =>
    rcases hmove.session hafter with hsame | ⟨_, rfl, _⟩ | ⟨_, _, _, rfl, _⟩
    · rw [hsame]
      exact h.stand.mono es
    · simp [overLink] at hl
    · simp [overLink] at hl
  | true =>
    rw [stand_of_apart hafter]
    cases hbefore : w.a.tx.apart with
    | true =>
      have hover := (stand_of_apart hbefore).mp h.stand
      exact fun c hc => (hover c hc).mono es
    | false =>
      have hstand := h.stand
      generalize hpc : w.a.tx = pc at hmove hbefore hstand
      generalize hpc' : w'.a.tx = pc' at hmove hafter
      cases hmove with
      | other _ => rw [hbefore] at hafter; simp at hafter
      | sent => simp [TxPc.apart] at hafter
      | closed it success reason =>
        obtain ⟨conn, interrupted, rest, hcontacts, hrest⟩ := hstand
        intro c hc
        rw [hcontacts] at hc
        rcases List.mem_cons.mp hc with rfl | hc
        · obtain ⟨task, _, hmeets⟩ := h.meets _ (by rw [hcontacts]; exact List.mem_cons_self)
          exact over_of_close hmeets rfl _
        · exact (hrest c hc).mono _
      | _ => simp [TxPc.apart] at hbefore

/-- A session is over, or its transaction is the one that is being sent. -/
theorem Joined.over_or_sending (h : Joined relay w) {c : Contact} (hc : c ∈ w.contacts) :
    Over relay w.a.journal c ∨ (.sending, c.item) ∈ line w.a := by
  have hstand := h.stand
  have hline : c.item ∈ w.a.tx.held → (.sending, c.item) ∈ line w.a := by
    intro hheld
    exact List.mem_append_left _ (List.mem_map_of_mem hheld)
  generalize w.a.tx = pc at hstand hline
  cases pc with
  | sending it =>
    obtain ⟨conn, rest, hcontacts, hrest⟩ := hstand
    rw [hcontacts] at hc
    rcases List.mem_cons.mp hc with rfl | hc
    · right; exact hline (by simp [TxPc.held])
    · left; exact hrest c hc
  | closing it success reason =>
    obtain ⟨conn, interrupted, rest, hcontacts, hrest⟩ := hstand
    rw [hcontacts] at hc
    rcases List.mem_cons.mp hc with rfl | hc
    · right; exact hline (by simp [TxPc.held])
    · left; exact hrest c hc
  | _ => left; exact hstand c hc

/-- What is known of the sessions stays so, and what is ACKED has a session that succeeded, as long
    as no session that is over is changed. -/
theorem Joined.after {l : Label} (h : Joined relay w)
    (hstep : GatewayA.step relay.pipeline w.a l = some w'.a)
    (hcontacts : ∀ c ∈ w.contacts, c.result ≠ none → c ∈ w'.contacts) :
    (∀ c ∈ w.contacts, Known relay.pipeline w'.a.journal (.sending, c.item)) ∧
      ∀ id ∈ ackedIds w'.a.journal, ∃ c ∈ w'.contacts, c.item.id = id ∧
        c.interrupted = false ∧ ∃ reason, c.result = some (true, reason) := by
  constructor
  · obtain ⟨es, hjournal, _⟩ := step_tx hstep
    intro c hc
    rw [hjournal]
    exact (h.known c hc).mono es
  · intro id hid
    rcases acked_of_step hstep hid with hold | ⟨it, reason, hclosing, rfl⟩
    · obtain ⟨c, hc, hid, hwhole, reason, hresult⟩ := h.acked id hold
      exact ⟨c, hcontacts c hc (by simp [hresult]), hid, hwhole, reason, hresult⟩
    · have hstand := h.stand
      rw [hclosing] at hstand
      obtain ⟨conn, interrupted, rest, hhead, _⟩ := hstand
      have hmem : ⟨it, conn, some (true, reason), interrupted⟩ ∈ w.contacts := by
        rw [hhead]
        exact List.mem_cons_self
      refine ⟨_, hcontacts _ hmem (by simp), rfl, ?_, reason, rfl⟩
      -- an interrupted session has failed
      obtain ⟨task, _, hmeets⟩ := h.meets _ hmem
      cases interrupted with
      | false => rfl
      | true => exact absurd (hmeets.broken _ rfl rfl) (by simp)

theorem Joined.pipeline {l : Label} (h : Joined relay w) (hl : overLink l = false)
    (hstep : GatewayA.step relay.pipeline w.a l = some w'.a) (hsrv : w'.srv = w.srv)
    (hcontacts : w'.contacts = w.contacts) : Joined relay w' := by
  obtain ⟨hknown, hacked⟩ := h.after hstep (by rw [hcontacts]; exact fun _ hc _ => hc)
  refine ⟨by rw [hcontacts, hsrv]; exact h.meets, by rw [hcontacts]; exact hknown, ?_, hacked,
    by rw [hcontacts]; exact h.once⟩
  rw [hcontacts]
  exact h.stand_pipeline hl hstep

/-- A new session, for a transaction that no session has settled. -/
theorem Joined.connect {it : Item} {conn : Nat} {task : GatewayB.Task} (h : Joined relay w)
    (hreach : Reach (GatewayA.step relay.pipeline) anyStep State.init w.a)
    (hopening : w.a.tx = .opening it) (htask : w.srv.tasks[conn]? = some task)
    (hcarries : relay.carries it task.peer = true)
    (hstep : GatewayA.step relay.pipeline w.a (.txOpened (.ok ())) = some w'.a)
    (hsrv : w'.srv = w.srv)
    (hcontacts : w'.contacts = { item := it, conn := conn } :: w.contacts) : Joined relay w' := by
  obtain ⟨hknown, hacked⟩ := h.after hstep (by
    rw [hcontacts]; exact fun _ hc _ => List.mem_cons_of_mem _ hc)
  have hover : ∀ c ∈ w.contacts, Over relay w.a.journal c := by
    have hstand := h.stand
    rwa [hopening] at hstand
  have hline : (.sending, it) ∈ line w.a := by simp [line, hopening, TxPc.held]
  obtain ⟨es, hjournal, hmove⟩ := step_tx hstep
  refine ⟨?_, ?_, ?_, hacked, ?_⟩
  · rw [hcontacts, hsrv]
    intro c hc
    rcases List.mem_cons.mp hc with rfl | hc
    · exact ⟨task, htask, hcarries, by simp, by simp⟩
    · exact h.meets c hc
  · rw [hcontacts]
    intro c hc
    rcases List.mem_cons.mp hc with rfl | hc
    · rw [hjournal]
      exact ((traced_of_reach hreach).checked.inLine _ hline).mono es
    · exact hknown c hc
  · have hafter : w'.a.tx = .sending it := by
      simp only [GatewayA.step, hopening] at hstep
      rw [← Option.some.inj hstep]
      rfl
    rw [hafter, hjournal]
    exact ⟨conn, w.contacts, hcontacts, fun c hc => (hover c hc).mono es⟩
  · rw [hcontacts, List.filter_cons]
    split
    · rw [List.map_cons, List.nodup_cons]
      refine ⟨?_, h.once⟩
      -- a session that counted has settled its transaction
      intro hmem
      obtain ⟨c, hc, hid⟩ := List.mem_map.mp hmem
      obtain ⟨hc, hcounts⟩ := List.mem_filter.mp hc
      obtain ⟨result, _, hsettled⟩ := hover c hc
      have hstate := hsettled hcounts
      rw [hid] at hstate
      have hopen := not_final_of_line hreach hline hstate
      cases hsuccess : result.1 <;> simp [hsuccess, TransactionState.final] at hopen
    · exact h.once

/-- The session of the newest connection ends. -/
theorem Joined.concluded {c : Contact} {rest : List Contact} {result : Bool × PyVal}
    {interrupted : Bool} (h : Joined relay w) (hbefore : w.contacts = c :: rest)
    (hmeets : ∃ task, w.srv.tasks[c.conn]? = some task ∧
      Meets relay { c with result := some result, interrupted := interrupted } task)
    (hstep : GatewayA.step relay.pipeline w.a (.txSent result.1 result.2) = some w'.a)
    (hsrv : w'.srv = w.srv)
    (hcontacts : w'.contacts =
      { c with result := some result, interrupted := interrupted } :: rest) : Joined relay w' := by
  obtain ⟨it, hsending, hclosing, hjournal⟩ : ∃ it, w.a.tx = .sending it ∧
      w'.a.tx = .closing it result.1 result.2 ∧ w'.a.journal = w.a.journal := by
    simp only [GatewayA.step] at hstep
    split at hstep
    · rename_i it hpc
      exact ⟨it, hpc, by rw [← Option.some.inj hstep], by rw [← Option.some.inj hstep]⟩
    · simp at hstep
  have hstand := h.stand
  rw [hsending] at hstand
  obtain ⟨conn, rest', hhead, hrest⟩ := hstand
  rw [hbefore] at hhead
  obtain ⟨rfl, rfl⟩ := List.cons.inj hhead
  have hknown := h.known
  rw [hbefore] at hknown
  refine ⟨?_, ?_, ?_, ?_, ?_⟩
  · rw [hcontacts, hsrv]
    intro other hother
    rcases List.mem_cons.mp hother with rfl | hother
    · exact hmeets
    · exact h.meets other (by rw [hbefore]; exact List.mem_cons_of_mem _ hother)
  · rw [hcontacts, hjournal]
    intro other hother
    rcases List.mem_cons.mp hother with rfl | hother
    · exact hknown { item := it, conn := conn } List.mem_cons_self
    · exact hknown other (List.mem_cons_of_mem _ hother)
  · rw [hclosing, hjournal]
    exact ⟨conn, interrupted, rest, hcontacts, hrest⟩
  · rw [hjournal, hcontacts]
    intro id hid
    obtain ⟨other, hother, hid, hwhole, reason, hresult⟩ := h.acked id hid
    rw [hbefore] at hother
    rcases List.mem_cons.mp hother with rfl | hother
    · simp at hresult
    · exact ⟨other, List.mem_cons_of_mem _ hother, hid, hwhole, reason, hresult⟩
  · -- a session that is interrupted no longer counts
    refine List.Nodup.sublist ?_ h.once
    rw [hbefore, hcontacts]
    by_cases hcounts : relay.counts ⟨it, conn, some result, interrupted⟩ = true
    · have hcounted : relay.counts { item := it, conn := conn } = true := by
        simp only [Relay.counts, Bool.and_eq_true] at hcounts ⊢
        exact ⟨hcounts.1, rfl⟩
      rw [List.filter_cons_of_pos hcounts, List.filter_cons_of_pos hcounted]
      exact List.Sublist.refl _
    · rw [List.filter_cons_of_neg hcounts]
      exact ((List.sublist_cons_self _ _).filter _).map _

/-- A connection goes on. -/
theorem Joined.turn {t : Turn} (h : Joined relay w) (hstep : relay.site.step w.srv t = some w'.srv)
    (ha : w'.a = w.a) (hcontacts : w'.contacts = w.contacts) : Joined relay w' := by
  refine ⟨?_, by rw [ha, hcontacts]; exact h.known, by rw [ha, hcontacts]; exact h.stand,
    by rw [ha, hcontacts]; exact h.acked, by rw [hcontacts]; exact h.once⟩
  rw [hcontacts]
  intro c hc
  obtain ⟨task, htask, hmeets⟩ := h.meets c hc
  obtain ⟨task', htask', hpeer, hgrown⟩ := grown_of_step hstep htask
  refine ⟨task', htask', by rw [hpeer]; exact hmeets.carries, ?_, hmeets.broken⟩
  intro result hresult hwhole
  obtain ⟨htold, htaken⟩ := hmeets.told result hresult hwhole
  refine ⟨by rw [hpeer]; exact htold, ?_⟩
  intro hsuccess
  exact (htaken hsuccess).trans_le (hgrown.sublist.countP_le)

end Invariant

section Reachable

variable {Key : Type} {relay : Relay Key} {peers : List Peer} {w w' : Joint Key}

/-- A hop forgets no transaction. -/
theorem Hopped.created {h : Hop} (hhop : Hopped relay w w' h) :
    createdIds w.a.journal ⊆ createdIds w'.a.journal := by
  rcases hhop.moves with ⟨l, _, hstep, _⟩ | ⟨_, _, ha⟩
  · obtain ⟨es, hjournal, _⟩ := step_tx hstep
    rw [hjournal, createdIds_append]
    exact List.subset_append_left _ _
  · rw [ha]
    exact List.Subset.refl _

/-- What both gateways rest on: the paths of the trust store name files, and protobuf and JSON
    read what they have written. -/
structure Relay.Trusts (relay : Relay Key) : Prop where
  paths : relay.site.EqualPathsSameFile
  protobuf : relay.protobuf.RoundTrips
  loads : LoadsObjects relay.loads

variable (htrusts : relay.Trusts)
include htrusts

theorem Joined.hopped {hop : Hop} (hreach : Reach relay.step anyStep (relay.start peers) w)
    (hfit : ∀ id ∈ createdIds w.a.journal, ResponsesFit id) (h : Joined relay w)
    (hhop : Hopped relay w w' hop) : Joined relay w' := by
  cases hhop with
  | pipeline l hl hstep hsrv hcontacts => exact h.pipeline hl hstep hsrv hcontacts
  | connect it conn task hopening htask hcarries hstep hsrv hcontacts =>
    exact h.connect (Relay.reach_pipeline hreach) hopening htask hcarries hstep hsrv hcontacts
  | turn t hstep ha hcontacts => exact h.turn hstep ha hcontacts
  | returned c rest result task hbefore htask hreply hstep hsrv hcontacts =>
    have hc : c ∈ w.contacts := by rw [hbefore]; exact List.mem_cons_self
    obtain ⟨task', htask', hmeets⟩ := h.meets c hc
    obtain rfl : task' = task := Option.some.inj (htask'.symm.trans htask)
    have htold := reply_eq htrusts.paths htrusts.protobuf htrusts.loads (Relay.reach_server hreach)
      (List.mem_of_getElem? htask) (hfit _ (h.known c hc).created) hmeets.carries hreply
    refine h.concluded hbefore ⟨task', htask, hmeets.carries, ?_, by simp⟩ hstep hsrv hcontacts
    intro result' hresult' _
    obtain rfl : result = result' := Option.some.inj hresult'
    exact htold
  | interrupt c rest e hbefore hstep hsrv hcontacts =>
    have hc : c ∈ w.contacts := by rw [hbefore]; exact List.mem_cons_self
    obtain ⟨task, htask, hmeets⟩ := h.meets c hc
    refine h.concluded hbefore ⟨task, htask, hmeets.carries, by simp, ?_⟩ hstep hsrv hcontacts
    intro result' hresult' _
    obtain rfl : failed e = result' := Option.some.inj hresult'
    exact failed_fst e

theorem joined_of_reach (hreach : Reach relay.step anyStep (relay.start peers) w)
    (hfit : ∀ id ∈ createdIds w.a.journal, ResponsesFit id) : Joined relay w := by
  revert hfit
  apply @Reach.invariant_of_reach _ _ _ _ _ _
    (fun w => (∀ id ∈ createdIds w.a.journal, ResponsesFit id) → Joined relay w) hreach
  · intro _
    refine ⟨?_, ?_, ?_, ?_, List.nodup_nil⟩
    · intro c hc
      simp [Relay.start] at hc
    · intro c hc
      simp [Relay.start] at hc
    · intro c hc
      simp [Relay.start] at hc
    · intro id hid
      simp [Relay.start, State.init, ackedIds] at hid
  · intro w w' h hbefore ih _ hstep hfit
    have hhop := hopped_of_step hstep
    have hknown : ∀ id ∈ createdIds w.a.journal, ResponsesFit id :=
      fun id hid => hfit id (hhop.created hid)
    exact (ih hknown).hopped htrusts hbefore hknown hhop

end Reachable

/-! ### Taken in once -/

namespace Joint

variable {Key : Type} (w : Joint Key)

/-- How often the ingestor has returned `True` on the connection of a session. -/
def taken (c : Contact) : Nat :=
  match w.srv.tasks[c.conn]? with
  | some task => ingestedTrue task.history
  | none => 0

/-- The sessions of a transaction. -/
def sessions (id : String) : List Contact := w.contacts.filter fun c => c.item.id == id

def interruptions (id : String) : Nat := (w.sessions id).countP Contact.interrupted

theorem mem_sessions {id : String} {c : Contact} :
    c ∈ w.sessions id ↔ c ∈ w.contacts ∧ c.item.id = id := by
  simp [sessions]

end Joint

namespace Relay

variable {Key : Type} (relay : Relay Key) (w : Joint Key)

/-- The transaction of a connection: the id in the envelope of the frame that is read of it. -/
def brings (peer : Peer) : Option String :=
  match readFrame [] peer.reads with
  | .frame .signedBundle payload [] =>
    (TransactionEnvelope.fromBytes relay.protobuf payload).toOption.map (·.transactionId)
  | _ => none

/-- The connections that bring a transaction, each with its place. -/
def bringing (id : String) : List (GatewayB.Task × Nat) :=
  w.srv.tasks.zipIdx.filter fun entry => relay.brings entry.1.peer == some id

/-- How often Gateway B has taken a transaction in, whoever connected. -/
def accepted (id : String) : Nat :=
  ((relay.bringing w id).map fun entry => ingestedTrue entry.1.history).sum

/-- The connections that bring it and belong to no session of Gateway A. -/
def foreign (id : String) : Nat :=
  (relay.bringing w id).countP fun entry => !w.contacts.any fun c => c.conn == entry.2

variable {relay w}

theorem mem_bringing {id : String} {entry : GatewayB.Task × Nat} :
    entry ∈ relay.bringing w id ↔
      w.srv.tasks[entry.2]? = some entry.1 ∧ relay.brings entry.1.peer = some id := by
  rw [bringing, List.mem_filter, beq_iff_eq, List.mem_zipIdx_iff_getElem?]

theorem accepted_eq (id : String) :
    relay.accepted w id = ((w.srv.tasks.filter fun task => relay.brings task.peer == some id).map
      fun task => ingestedTrue task.history).sum := by
  have htasks : w.srv.tasks = w.srv.tasks.zipIdx.map Prod.fst := by rw [List.zipIdx_map_fst]
  rw [accepted, bringing]
  conv_rhs => rw [htasks, List.filter_map, List.map_map]
  rfl

/-- A connection brings the transaction of its session, if any. -/
theorem id_of_brings {it : Item} {peer : Peer} (hpb : relay.protobuf.RoundTrips)
    (hcarries : relay.carries it peer = true) {id : String} (h : relay.brings peer = some id) :
    it.id = id := by
  simp only [brings] at h
  split at h
  · rename_i payload hframe
    cases henv : TransactionEnvelope.fromBytes relay.protobuf payload with
    | error e => simp [henv, Except.toOption] at h
    | ok env =>
      have hid : env.transactionId = id := by simpa [henv, Except.toOption] using h
      rw [Item.id, ← hid]
      exact (envelope_transactionId (envelope_of_carries hpb hcarries hframe henv)).symm
  · simp at h

end Relay

/-- Items that each have one place at most are found in no more places than there are items. -/
theorem countP_any_le {α β : Type} {places : List α} {items : List β} {isAt : β → α → Bool}
    {p : β → Bool} (hone : ∀ b, places.countP (isAt b) ≤ 1) :
    places.countP (fun a => items.any fun b => isAt b a && p b) ≤ items.countP p := by
  induction items with
  | nil => simp
  | cons b items ih =>
    have hsplit : ∀ places : List α,
        places.countP (fun a => (b :: items).any fun b => isAt b a && p b) ≤
          places.countP (fun a => isAt b a && p b) +
            places.countP fun a => items.any fun b => isAt b a && p b := by
      intro places
      induction places with
      | nil => simp
      | cons a places ih =>
        simp only [List.countP_cons, List.any_cons] at ih ⊢
        cases isAt b a && p b <;> simp <;> omega
    have hhead : places.countP (fun a => isAt b a && p b) ≤ if p b then 1 else 0 := by
      cases hp : p b with
      | true => simpa using hone b
      | false => simp
    rw [List.countP_cons]
    exact (hsplit places).trans ((Nat.add_le_add hhead ih).trans_eq (Nat.add_comm _ _))

theorem sum_le_countP {α : Type} {items : List α} {f : α → Nat} {p q r : α → Bool}
    (h : ∀ a ∈ items, f a ≤ (p a).toNat + (q a).toNat + (r a).toNat) :
    (items.map f).sum ≤ items.countP p + items.countP q + items.countP r := by
  induction items with
  | nil => exact Nat.le_refl 0
  | cons a items ih =>
    have hhead := h a List.mem_cons_self
    have hrest := ih fun a' ha' => h a' (List.mem_cons_of_mem _ ha')
    rw [List.map_cons, List.sum_cons, List.countP_cons, List.countP_cons, List.countP_cons]
    cases hp : p a <;> cases hq : q a <;> cases hr : r a <;> simp [hp, hq, hr] at hhead ⊢ <;> omega

section Once

variable {Key : Type} {relay : Relay Key} {peers : List Peer} {w : Joint Key}

/-- Of the sessions of a transaction at most one counts. -/
theorem Joined.counted_le_one (h : Joined relay w) (id : String) :
    (w.sessions id).countP relay.counts ≤ 1 := by
  have hone := List.nodup_iff_count_le_one.mp h.once id
  rw [List.count, List.countP_map, List.countP_filter] at hone
  rw [Joint.sessions, List.countP_filter]
  exact (List.countP_congr fun c _ => by simp [and_comm]).trans_le hone

/-- A connection that belongs to a session of the transaction with this property. -/
def Joint.ownedBy (w : Joint Key) (id : String) (p : Contact → Bool)
    (entry : GatewayB.Task × Nat) : Bool :=
  (w.sessions id).any fun c => c.conn == entry.2 && p c

/-- There are no more of them than such sessions. -/
theorem Relay.countP_ownedBy (id : String) (p : Contact → Bool) :
    (relay.bringing w id).countP (w.ownedBy id p) ≤ (w.sessions id).countP p := by
  apply countP_any_le
  intro c
  have hbringing : ((relay.bringing w id).map Prod.snd).Nodup :=
    (List.nodup_zipIdx_map_snd w.srv.tasks).sublist (List.filter_sublist.map _)
  have hone := List.nodup_iff_count_le_one.mp hbringing c.conn
  rw [List.count, List.countP_map] at hone
  refine (List.countP_congr fun entry _ => ?_).trans_le hone
  rw [Function.comp_apply, beq_iff_eq, beq_iff_eq]
  exact eq_comm

/-- Whatever a connection brings, it hands over one bundle at most. -/
theorem taken_le_one (hpaths : relay.site.EqualPathsSameFile) {srv : Server Key}
    {task : GatewayB.Task} (hreach : Reach relay.site.step anyStep (relay.site.start peers) srv)
    (htask : task ∈ srv.tasks) : ingestedTrue task.history ≤ 1 := by
  obtain ⟨prog, hpath⟩ := ((sound_of_reach hpaths hreach).tasks task htask).onPath
  obtain ⟨later, hhanded⟩ := hpath.handed
  have hlen := outcome_handed_le_one relay.site.proto (relay.site.outside task.peer)
    task.peer.fingerprint (readFrame [] task.peer.reads)
  rw [← hhanded, ingested_append, List.length_append] at hlen
  rw [ingestedTrue_of_onPath hpath]
  exact List.countP_le_length.trans (by omega)

variable (htrusts : relay.Trusts)
  (hreach : Reach relay.step anyStep (relay.start peers) w)
  (hfit : ∀ id ∈ createdIds w.a.journal, ResponsesFit id)
include htrusts hreach hfit

/-- What is taken in on a connection its session is told of. -/
theorem Relay.Trusts.taken_le {c : Contact} (hc : c ∈ w.contacts) :
    ∃ task, w.srv.tasks[c.conn]? = some task ∧ Meets relay c task ∧
      w.taken c ≤ (relay.conclusion c.item task.peer).1.toNat := by
  have hjoined := joined_of_reach htrusts hreach hfit
  obtain ⟨task, htask, hmeets⟩ := hjoined.meets c hc
  refine ⟨task, htask, hmeets, ?_⟩
  rw [Joint.taken, htask]
  exact Exchange.taken_le htrusts.paths htrusts.protobuf htrusts.loads (Relay.reach_server hreach)
    (List.mem_of_getElem? htask) (hfit _ (hjoined.known c hc).created) hmeets.carries

/-- A transaction that was dead-lettered was taken in on interrupted sessions only. -/
theorem Relay.Trusts.taken_of_dead {c : Contact} (hc : c ∈ w.contacts)
    (hdead : c.item.id ∈ deadIds w.a.journal) : w.taken c ≤ c.interrupted.toNat := by
  have hjoined := joined_of_reach htrusts hreach hfit
  have hpipeline := Relay.reach_pipeline hreach
  obtain ⟨task, _, hmeets, htaken⟩ := htrusts.taken_le hreach hfit hc
  obtain ⟨state, hstate, hrefused⟩ := dead_states hpipeline hdead
  cases hwhole : c.interrupted with
  | true => exact htaken.trans (Bool.toNat_le _)
  | false =>
    cases hconclusion : (relay.conclusion c.item task.peer).1 with
    | false => simpa [hconclusion] using htaken
    | true =>
      -- it would have been ACKED
      rcases hjoined.over_or_sending hc with ⟨result, hresult, hsettled⟩ | hline
      · obtain ⟨htold, _⟩ := hmeets.told result hresult hwhole
        have hframed := Relay.framed_of_conclusion hconclusion
        have hacked := hsettled (by simp [Relay.counts, hframed, hwhole])
        rw [htold, hconclusion, if_pos rfl] at hacked
        obtain rfl := final_unique hpipeline hacked hstate rfl hrefused.final
        rcases hrefused with hrefused | hrefused <;> simp at hrefused
      · have hopen := not_final_of_line hpipeline hline hstate
        rw [hrefused.final] at hopen
        simp at hopen

/-- A connection that brings a transaction is one of its sessions, or comes from elsewhere. -/
theorem Relay.Trusts.owner {id : String} {entry : GatewayB.Task × Nat}
    (hentry : entry ∈ relay.bringing w id) :
    (∃ c ∈ w.sessions id, c.conn = entry.2 ∧ w.taken c = ingestedTrue entry.1.history) ∨
      (!w.contacts.any fun c => c.conn == entry.2) = true := by
  obtain ⟨htask, hbrings⟩ := Relay.mem_bringing.mp hentry
  cases howned : w.contacts.any fun c => c.conn == entry.2 with
  | false => right; rfl
  | true =>
    left
    obtain ⟨c, hc, hconn⟩ := List.any_eq_true.mp howned
    have hconn := eq_of_beq hconn
    obtain ⟨task, htask', hmeets⟩ := (joined_of_reach htrusts hreach hfit).meets c hc
    rw [hconn, htask] at htask'
    obtain rfl := Option.some.inj htask'
    have hid := Relay.id_of_brings htrusts.protobuf hmeets.carries hbrings
    exact ⟨c, w.mem_sessions.mpr ⟨hc, hid⟩, hconn, by rw [Joint.taken, hconn, htask]⟩

/-- What the sessions take in, and one for each connection from elsewhere. -/
theorem Relay.Trusts.accepted_le_of (id : String) (p q : Contact → Bool)
    (hown : ∀ c ∈ w.sessions id, w.taken c ≤ (p c).toNat + (q c).toNat) :
    relay.accepted w id ≤
      (w.sessions id).countP p + (w.sessions id).countP q + relay.foreign w id := by
  calc relay.accepted w id
      ≤ (relay.bringing w id).countP (w.ownedBy id p) +
          (relay.bringing w id).countP (w.ownedBy id q) + relay.foreign w id := by
        apply sum_le_countP
        intro entry hentry
        rcases htrusts.owner hreach hfit hentry with ⟨c, hc, hconn, htaken⟩ | hforeign
        · -- the session that owns it answers for it
          have howned : ∀ p : Contact → Bool, (p c).toNat ≤ (w.ownedBy id p entry).toNat := by
            intro p
            cases hp : p c with
            | false => exact Nat.zero_le _
            | true =>
              have hany : w.ownedBy id p entry = true :=
                List.any_eq_true.mpr ⟨c, hc, by simp [hconn, hp]⟩
              rw [hany]
          have hle := hown c hc
          have hp := howned p
          have hq := howned q
          omega
        · obtain ⟨htask, _⟩ := Relay.mem_bringing.mp hentry
          have hone := taken_le_one htrusts.paths (Relay.reach_server hreach)
            (List.mem_of_getElem? htask)
          rw [hforeign, Bool.toNat_true]
          omega
    _ ≤ _ := Nat.add_le_add_right
        (Nat.add_le_add (Relay.countP_ownedBy id p) (Relay.countP_ownedBy id q)) _

theorem Relay.Trusts.accepted_le (id : String) :
    relay.accepted w id ≤ 1 + w.interruptions id + relay.foreign w id := by
  have hjoined := joined_of_reach htrusts hreach hfit
  have hone := hjoined.counted_le_one id
  have hown : ∀ c ∈ w.sessions id,
      w.taken c ≤ (relay.counts c).toNat + c.interrupted.toNat := by
    intro c hc
    obtain ⟨hc, _⟩ := w.mem_sessions.mp hc
    obtain ⟨task, _, _, htaken⟩ := htrusts.taken_le hreach hfit hc
    refine htaken.trans ?_
    cases hconclusion : (relay.conclusion c.item task.peer).1 with
    | false => exact Nat.zero_le _
    | true =>
      rw [Relay.counts, Relay.framed_of_conclusion hconclusion]
      cases c.interrupted <;> simp
  have hle := htrusts.accepted_le_of hreach hfit id relay.counts Contact.interrupted hown
  rw [Joint.interruptions]
  omega

/-- Some session that was not interrupted took in what is ACKED. -/
theorem Relay.Trusts.taken_of_acked {id : String} (hacked : id ∈ ackedIds w.a.journal) :
    ∃ c ∈ w.sessions id, c.interrupted = false ∧ w.taken c = 1 := by
  have hjoined := joined_of_reach htrusts hreach hfit
  obtain ⟨c, hc, hid, hwhole, reason, hresult⟩ := hjoined.acked id hacked
  obtain ⟨task, htask, hmeets, hle⟩ := htrusts.taken_le hreach hfit hc
  obtain ⟨_, htaken⟩ := hmeets.told _ hresult hwhole
  have hone : 1 ≤ w.taken c := by
    rw [Joint.taken, htask]
    exact htaken rfl
  exact ⟨c, w.mem_sessions.mpr ⟨hc, hid⟩, hwhole,
    Nat.le_antisymm (hle.trans (Bool.toNat_le _)) hone⟩

/-- What a session takes in Gateway B has taken in. -/
theorem Relay.Trusts.taken_le_accepted {id : String} {c : Contact} (hc : c ∈ w.sessions id) :
    w.taken c ≤ relay.accepted w id := by
  obtain ⟨hc, hid⟩ := w.mem_sessions.mp hc
  have hserver := Relay.reach_server hreach
  obtain ⟨task, htask, hmeets⟩ := (joined_of_reach htrusts hreach hfit).meets c hc
  have htaken : w.taken c = ingestedTrue task.history := by rw [Joint.taken, htask]
  rcases Nat.eq_zero_or_pos (ingestedTrue task.history) with hnone | hsome
  · rw [htaken, hnone]
    exact Nat.zero_le _
  · obtain ⟨prog, hpath⟩ :=
      ((sound_of_reach htrusts.paths hserver).tasks task (List.mem_of_getElem? htask)).onPath
    rw [ingestedTrue_of_onPath hpath] at hsome
    obtain ⟨b, hb, _⟩ := List.countP_pos_iff.mp hsome
    obtain ⟨payload, env, hframe, henv, _⟩ := admitted_of_ingested htrusts.paths hserver
      (List.mem_of_getElem? htask) hb
    have hbrings : relay.brings task.peer = some id := by
      have hown := Relay.envelope_of_carries htrusts.protobuf hmeets.carries hframe henv
      simp only [Relay.brings, hframe, henv, Except.toOption, Option.map_some,
        envelope_transactionId hown]
      rw [← hid]
    rw [htaken]
    exact List.le_sum_of_mem (List.mem_map_of_mem (f := fun entry => ingestedTrue entry.1.history)
      (Relay.mem_bringing.mpr ⟨htask, hbrings⟩ : (task, c.conn) ∈ _))

theorem Relay.Trusts.interrupted_of_dead {id : String} (hdead : id ∈ deadIds w.a.journal)
    {c : Contact} (hc : c ∈ w.sessions id) (htaken : 0 < w.taken c) : c.interrupted = true := by
  obtain ⟨hc, hid⟩ := w.mem_sessions.mp hc
  have hle := htrusts.taken_of_dead hreach hfit hc (hid ▸ hdead)
  cases hwhole : c.interrupted with
  | true => rfl
  | false =>
    rw [hwhole, Bool.toNat_false] at hle
    omega

theorem Relay.Trusts.accepted_of_dead {id : String} (hdead : id ∈ deadIds w.a.journal) :
    relay.accepted w id ≤ w.interruptions id + relay.foreign w id := by
  have hown : ∀ c ∈ w.sessions id, w.taken c ≤ false.toNat + c.interrupted.toNat := by
    intro c hc
    obtain ⟨hc, hid⟩ := w.mem_sessions.mp hc
    rw [Bool.toNat_false, Nat.zero_add]
    exact htrusts.taken_of_dead hreach hfit hc (hid ▸ hdead)
  have hle := htrusts.accepted_le_of hreach hfit id (fun _ => false) Contact.interrupted hown
  simpa [Joint.interruptions] using hle

end Once

/-- **Gateway B takes a transaction in once**, and once more at most for each of its sessions
    that was interrupted and for each connection from elsewhere that brings it.  When Gateway A
    has it ACKED, a session that was not interrupted took it in; when Gateway A has it
    dead-lettered, every session that took it in was interrupted. -/
theorem taken_in_once {Key : Type} (relay : Relay Key) (peers : List Peer)
    (htrusts : relay.Trusts) {w : Joint Key}
    (hreach : Reach relay.step anyStep (relay.start peers) w)
    (hfit : ∀ id ∈ createdIds w.a.journal, ResponsesFit id) (id : String) :
    relay.accepted w id ≤ 1 + w.interruptions id + relay.foreign w id ∧
      (∀ c ∈ w.sessions id, w.taken c ≤ relay.accepted w id) ∧
      (id ∈ ackedIds w.a.journal →
        ∃ c ∈ w.sessions id, c.interrupted = false ∧ w.taken c = 1) ∧
      (id ∈ deadIds w.a.journal →
        relay.accepted w id ≤ w.interruptions id + relay.foreign w id ∧
        ∀ c ∈ w.sessions id, 0 < w.taken c → c.interrupted = true) := by
  refine ⟨htrusts.accepted_le hreach hfit id, ?_, htrusts.taken_of_acked hreach hfit, ?_⟩
  · exact fun c hc => htrusts.taken_le_accepted hreach hfit hc
  · intro hdead
    exact ⟨htrusts.accepted_of_dead hreach hfit hdead,
      fun c hc => htrusts.interrupted_of_dead hreach hfit hdead hc⟩

/-! ### A session that is interrupted too late -/

namespace Sample

def relay : Relay Bytes where
  pipeline := { GatewayA.Sample.pipeline with compress := compress }
  site := { GatewayB.Sample.site with decompress := decompress }
  loads := loadsObject

theorem responsesFit_of_created {j : Journal} (h : createdIds j = [GatewayB.Sample.txId]) :
    ∀ id ∈ createdIds j, ResponsesFit id := by
  intro id hid
  rw [h, List.mem_singleton] at hid
  rw [hid]
  exact responsesFit

theorem trusts : relay.Trusts where
  paths := equalPathsSameFile_of_str fun _ hkey => keyPaths_str hkey
  protobuf := roundTrips
  loads := loadsObjects_loadsObject

/-- Gateway B takes the transaction in on the first connection, Gateway A stops waiting for it,
    and sends again. -/
def sendTwice : List Hop :=
  [.connect 0] ++ List.replicate 15 (.turn ⟨0, 0⟩) ++
    [.interrupt ⟨.timeoutError, ""⟩, .pipeline .txClosed, .pipeline .txWake, .connect 1] ++
    List.replicate 16 (.turn ⟨1, 0⟩) ++ [.returned, .pipeline .txClosed]

end Sample

/-- It is ACKED, and was taken in twice, after one interruption; nobody else connected. -/
theorem sample_taken_in_once :
    ∃ w, Reach Sample.relay.step anyStep (Sample.relay.start GatewayB.Sample.peers) w ∧
      GatewayB.Sample.txId ∈ ackedIds w.a.journal ∧
      Sample.relay.accepted w GatewayB.Sample.txId = 2 ∧
      w.interruptions GatewayB.Sample.txId = 1 ∧
      Sample.relay.foreign w GatewayB.Sample.txId = 0 ∧
      Sample.relay.accepted w GatewayB.Sample.txId ≤
        1 + w.interruptions GatewayB.Sample.txId + Sample.relay.foreign w GatewayB.Sample.txId ∧
      ∃ c ∈ w.sessions GatewayB.Sample.txId, c.interrupted = false ∧ w.taken c = 1 := by
  have hrun : (runLabels Sample.relay.step (Sample.relay.start GatewayB.Sample.peers)
      (Sample.labels.map .pipeline ++ Sample.sendTwice)).map (fun w =>
        createdIds w.a.journal == [GatewayB.Sample.txId] &&
        decide (GatewayB.Sample.txId ∈ ackedIds w.a.journal) &&
        Sample.relay.accepted w GatewayB.Sample.txId == 2 &&
        w.interruptions GatewayB.Sample.txId == 1 &&
        Sample.relay.foreign w GatewayB.Sample.txId == 0) = some true := by
    decide +kernel
  obtain ⟨w, hreach, hend⟩ := Reach.exists_of_run (fun _ _ _ => trivial) hrun
  simp only [Bool.and_eq_true, beq_iff_eq, decide_eq_true_eq] at hend
  obtain ⟨⟨⟨⟨hcreated, hacked⟩, htwice⟩, hinterrupted⟩, hforeign⟩ := hend
  obtain ⟨hle, _, htaken, _⟩ := taken_in_once Sample.relay _ Sample.trusts hreach
    (Sample.responsesFit_of_created hcreated) GatewayB.Sample.txId
  exact ⟨w, hreach, hacked, htwice, hinterrupted, hforeign, hle, htaken hacked⟩

end QsTie.Exchange
