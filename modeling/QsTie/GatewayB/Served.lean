import QsTie.GatewayB.Concurrency

/-!
# What a connection of the server has shown

Connections are served side by side, but what each of them shows is what is said
of one handler alone.  One that is done has answered what it read, whatever becomes
of the answer on the way (`answered_of_done`); and whatever one has handed to the
ingestor so far, done or not, it was the bundle of an admitted envelope
(`admitted_of_ingested`).
-/

namespace QsTie.GatewayB

open QsTie.Lib

/-! ### Written before it is drained -/

def Call.isWrite : Call → Bool
  | .write _ => true
  | _ => false

section Flushed

variable {proto : GatewayProtocol} {peerFingerprint : String} {env : TransactionEnvelope}

theorem guarded_respond (t : MessageType) (payload : Bytes) :
    (respond t payload).Guarded Call.isWrite Call.isDrain := by
  simp only [respond]
  split
  · trivial
  · exact Or.inl rfl

theorem guarded_resend (txId txId' : String) (reason reason' : NackReason) :
    ((sendNack txId reason).tryCatch fun _ => sendNack txId' reason').Guarded
      Call.isWrite Call.isDrain :=
  (guarded_respond _ _).tryCatch fun _ => guarded_respond _ _

theorem guarded_ingestStage (tReceived tVerified : Nat) (b : PyVal) :
    (GatewayProtocol.ingestStage env tReceived tVerified b).Guarded Call.isWrite Call.isDrain := by
  refine Or.inr ⟨rfl, ?_⟩
  intro ingested
  cases ingested with
  | false => exact guarded_respond _ _
  | true =>
    refine Or.inr ⟨rfl, ?_⟩
    intro tIngested
    exact (guarded_respond _ _).bind fun _ => Or.inr ⟨rfl, fun _ => trivial⟩

theorem guarded_policyStage (tReceived tVerified : Nat) :
    (proto.policyStage env tReceived tVerified).Guarded Call.isWrite Call.isDrain := by
  simp only [GatewayProtocol.policyStage]
  split
  · trivial
  · exact guarded_respond _ _
  · refine Or.inr ⟨rfl, ?_⟩
    intro decompressed
    cases decompressed with
    | error e => exact guarded_respond _ _
    | ok stixBytes =>
      simp only [GatewayProtocol.validateStage]
      split
      · exact guarded_respond _ _
      · split
        · exact guarded_respond _ _
        · exact guarded_resend _ _ _ _
        · exact guarded_ingestStage _ _ _

theorem guarded_verifyStage (agency : PyDict) (tReceived : Nat) :
    (proto.verifyStage env agency tReceived).Guarded Call.isWrite Call.isDrain := by
  simp only [GatewayProtocol.verifyStage]
  split
  · trivial
  · refine Or.inr ⟨rfl, ?_⟩
    intro isValid
    cases isValid with
    | false => exact guarded_respond _ _
    | true => exact Or.inr ⟨rfl, fun tVerified => guarded_policyStage _ _⟩

theorem guarded_identityStage (tReceived : Nat) :
    (proto.identityStage env peerFingerprint tReceived).Guarded Call.isWrite Call.isDrain := by
  simp only [GatewayProtocol.identityStage]
  split
  · exact guarded_respond _ _
  · split
    · exact guarded_respond _ _
    · split
      · trivial
      · split
        · exact guarded_respond _ _
        · split
          · trivial
          · exact guarded_respond _ _
          · exact guarded_verifyStage _ _

theorem guarded_processTransaction (payload : Bytes) :
    (proto.processTransaction payload peerFingerprint).Guarded Call.isWrite Call.isDrain := by
  refine Or.inr ⟨rfl, ?_⟩
  intro tReceived
  cases TransactionEnvelope.fromBytes proto.protobuf payload with
  | error e => exact guarded_resend _ _ _ _
  | ok env =>
    have hstages : (proto.envelopeStages env peerFingerprint tReceived).Guarded
        Call.isWrite Call.isDrain := by
      simp only [GatewayProtocol.envelopeStages]
      split
      · exact guarded_resend _ _ _ _
      · exact guarded_identityStage tReceived
    exact hstages.tryCatch fun _ => guarded_respond _ _

/-- **A handler drains nothing before it has written.** -/
theorem guarded_finish (proto : GatewayProtocol) (peerFingerprint : String) (stop : ReadEnd) :
    (proto.finish peerFingerprint stop).Guarded Call.isWrite Call.isDrain := by
  have hread : (proto.handleRead peerFingerprint stop).Guarded Call.isWrite Call.isDrain := by
    simp only [GatewayProtocol.handleRead]
    split
    · trivial
    · exact guarded_respond _ _
    · refine Prog.Guarded.tryCatch ?_ ?_
      · split
        · exact guarded_respond _ _
        · split
          · exact guarded_respond _ _
          · exact guarded_processTransaction _
      · intro e
        split
        · exact guarded_respond _ _
        · trivial
  refine Prog.Guarded.bind (hread.tryCatch fun _ => trivial) fun _ => ?_
  refine Or.inr ⟨rfl, fun _ => Or.inr ⟨rfl, ?_⟩⟩
  intro closed
  cases closed <;> trivial

end Flushed

/-! ### The path of a handler -/

variable {Key : Type} {site : Site Key}

/-- The calls of a task are a path of its handler. -/
theorem Task.Sound.onPath {task : Task} (hsound : task.Sound site) :
    ∃ prog, OnPath site task.peer task.history prog := by
  cases hphase : task.phase with
  | waiting =>
    have hempty : task.history = [] := by simpa only [Task.Sound, hphase] using hsound
    exact ⟨_, OnPath.start hempty rfl⟩
  | reading buffer reads =>
    obtain ⟨hempty, _⟩ : task.history = [] ∧
        readFrame buffer reads = readFrame [] task.peer.reads := by
      simpa only [Task.Sound, hphase] using hsound
    exact ⟨_, OnPath.start hempty rfl⟩
  | running prog => exact ⟨prog, hsound.running hphase⟩
  | ingesting stixBundle k =>
    have hpath : OnPath site task.peer task.history (.call (.ingestBundle stixBundle) k) := by
      simpa only [Task.Sound, hphase] using hsound
    exact ⟨_, hpath⟩
  | done =>
    obtain ⟨prog, hpath, _⟩ : ∃ prog, OnPath site task.peer task.history prog ∧ prog.Ended := by
      simpa only [Task.Sound, hphase] using hsound
    exact ⟨prog, hpath⟩

/-- An answer that is no time was given by the surroundings of the connection alone. -/
theorem OnPath.answer {peer : Peer} {history : History} {prog : Conn Unit}
    (hpath : OnPath site peer history prog) {ev : Event Call Call.Ret} (hev : ev ∈ history)
    (hclock : ev.op ≠ .timeNs) : ∃ before, ev.res = (site.outside peer).answer before ev.op := by
  obtain ⟨before, after, rfl⟩ := List.append_of_mem hev
  have hresp := hpath.2 before ev after rfl
  rcases hresp with htime | hanswer
  · exact absurd htime hclock
  · exact ⟨_, hanswer⟩

/-- What the calls so far admit, the surroundings admit. -/
theorem OnPath.admitted {peer : Peer} {history before : History} {prog : Conn Unit}
    (hpath : OnPath site peer history prog) (hbefore : before <+: history)
    {env : TransactionEnvelope} {b : PyVal}
    (hadmitted : Admitted site.proto (verifiedIn before) (inflatedIn before) peer.fingerprint
      env b) :
    verdict site.proto (site.outside peer) peer.fingerprint env = .ok b := by
  obtain ⟨hcomplete, ⟨agency, pubkeyPath, htrusted, hkey, hverified⟩, hallowed,
    stixBytes, hinflated, hbundle⟩ := hadmitted
  apply verdict_eq_ok.mpr
  refine ⟨hcomplete, ⟨agency, pubkeyPath, htrusted, hkey, ?_⟩, hallowed, stixBytes, ?_, hbundle⟩
  · obtain ⟨_, hanswer⟩ := hpath.answer (hbefore.subset hverified) (by simp)
    exact hanswer.symm
  · obtain ⟨_, hanswer⟩ := hpath.answer (hbefore.subset hinflated) (by simp)
    exact hanswer.symm

/-- The handler can run on to its end. -/
theorem OnPath.finished {peer : Peer} {history : History} {prog : Conn Unit}
    (hpath : OnPath site peer history prog) :
    ∃ later prog', OnPath site peer (history ++ later) prog' ∧ prog'.Ended := by
  obtain ⟨later, hlater, hsteps⟩ := Prog.steps_run (site.outside peer).answer prog history
  have hpromised : Prog.Promised (answers site.proto (site.outside peer)) history later :=
    Prog.promised_run _ (fun _ _ => Or.inr rfl) hlater
  exact ⟨later, _, ⟨hpath.1.trans hsteps, hpath.2.append hpromised⟩, Prog.ended_ofExcept _⟩

/-- A handler at its end has shown the outcome. -/
theorem OnPath.shown {peer : Peer} {history : History} {prog : Conn Unit}
    (hpath : OnPath site peer history prog) (hend : prog.Ended)
    (hdrain : ∀ n, peer.drain n = .ok ()) :
    (written history, ingested history) =
      outcome site.proto (site.outside peer) peer.fingerprint (readFrame [] peer.reads) := by
  have hhealthy : (site.outside peer).Healthy := hdrain
  have houtcome := outcome_handleConnection hhealthy site.proto peer.fingerprint peer.reads
  -- the same handler, run by itself
  obtain ⟨tr, htr, hsteps⟩ := Prog.steps_run (site.outside peer).answer
    (site.proto.finish peer.fingerprint (readFrame [] peer.reads)) []
  have hpromised : Prog.Promised (answers site.proto (site.outside peer)) [] tr :=
    Prog.promised_run _ (fun _ _ => Or.inr rfl) htr
  have hsame := ((SameCalls.finish _ _ _).shown hpath.1 hsteps hend (Prog.ended_ofExcept _)
    hpath.2 hpromised rfl).1
  rw [hpath.ingested_eq hend, hsame, ← houtcome]
  simp only [GatewayProtocol.handleConnection, htr, List.nil_append]

/-- What is handed to the ingestor does not depend on the transport. -/
theorem OnPath.handed {peer : Peer} {history : History} {prog : Conn Unit}
    (hpath : OnPath site peer history prog) :
    ∃ later, ingested (history ++ later) =
      (outcome site.proto (site.outside peer) peer.fingerprint (readFrame [] peer.reads)).2 := by
  obtain ⟨later, prog', hwhole, hend⟩ := hpath.finished
  exact ⟨later, hwhole.ingested_eq hend⟩

/-- Up to the first frame nothing is drained. -/
theorem OnPath.first_write {peer : Peer} {history : History} {prog : Conn Unit}
    (hpath : OnPath site peer history prog) {frame : Bytes} {more : List Bytes}
    (hwritten : written history = frame :: more) :
    ∃ before prog', OnPath site peer (before ++ [⟨.write frame, ()⟩]) prog' ∧
      written before = [] ∧ ∀ ev ∈ before, ev.op.isDrain = false := by
  obtain ⟨before, ev, after, rfl, hbefore, hev, _⟩ := List.filterMap_eq_cons_iff.mp hwritten
  obtain rfl : ev = ⟨.write frame, ()⟩ := by
    split at hev
    · rw [Option.some.inj hev]
    · simp at hev
  rw [← List.singleton_append, ← List.append_assoc] at hpath
  obtain ⟨prog', hsteps, _⟩ := hpath.1.split
  obtain ⟨_, hbeforeSteps, _⟩ := hsteps.split
  refine ⟨before, prog', ⟨hsteps, hpath.2.of_append⟩,
    List.filterMap_eq_nil_iff.mpr hbefore, ?_⟩
  apply (guarded_finish _ _ _).steps hbeforeSteps
  intro ev hev
  have hnone := hbefore ev hev
  obtain ⟨op, r⟩ := ev
  cases op with
  | write frame => simp at hnone
  | _ => rfl

/-- As long as nothing is drained, a transport that takes what is written sees the same calls. -/
theorem OnPath.calm {peer : Peer} {history : History} {prog : Conn Unit}
    (hpath : OnPath site peer history prog) (hdry : ∀ ev ∈ history, ev.op.isDrain = false) :
    OnPath site { peer with drain := fun _ => .ok () } history prog := by
  refine ⟨hpath.1, ?_⟩
  intro earlier ev later heq
  rcases hpath.2 earlier ev later heq with hclock | hanswer
  · exact Or.inl hclock
  · right
    rw [hanswer]
    have hdrain := hdry ev (by rw [heq]; exact List.mem_append_right _ List.mem_cons_self)
    obtain ⟨op, r⟩ := ev
    cases op with
    | drain => simp [Call.isDrain] at hdrain
    | _ => rfl

/-- **What is written first is the outcome**, whatever becomes of it on the way. -/
theorem OnPath.first_shown {peer : Peer} {history : History} {prog : Conn Unit}
    (hpath : OnPath site peer history prog) {frame : Bytes} {more : List Bytes}
    (hwritten : written history = frame :: more) :
    ∃ rest, (outcome site.proto (site.outside peer) peer.fingerprint
      (readFrame [] peer.reads)).1 = frame :: rest := by
  obtain ⟨before, prog', hfirst, hnone, hdry⟩ := hpath.first_write hwritten
  have hcalm := hfirst.calm (by
    intro ev hev
    rcases List.mem_append.mp hev with hev | hev
    · exact hdry ev hev
    · rw [List.mem_singleton.mp hev]
      rfl)
  obtain ⟨later, _, hwhole, hend⟩ := hcalm.finished
  have hshown := congrArg Prod.fst (hwhole.shown hend fun _ => rfl)
  rw [written_append, written_append, hnone] at hshown
  exact ⟨written later, hshown.symm⟩

/-- A handler at its end has written if the outcome says so. -/
theorem OnPath.written_ne_nil {peer : Peer} {history : History} {prog : Conn Unit}
    (hpath : OnPath site peer history prog) (hend : prog.Ended)
    (houtcome : (outcome site.proto (site.outside peer) peer.fingerprint
      (readFrame [] peer.reads)).1 ≠ []) : written history ≠ [] := by
  intro hnone
  have hwrites : ∀ ev ∈ history, ev.op.isWrite = false := by
    intro ev hev
    have hskipped := List.filterMap_eq_nil_iff.mp hnone ev hev
    obtain ⟨op, r⟩ := ev
    cases op with
    | write frame => simp at hskipped
    | _ => rfl
  have hcalm := hpath.calm ((guarded_finish _ _ _).steps hpath.1 hwrites)
  have hshown := congrArg Prod.fst (hcalm.shown hend fun _ => rfl)
  exact houtcome (hshown.symm.trans hnone)

/-- A turn adds to what has been called. -/
theorem advance_grows {free : Bool} {shared shared' : Shared Key} {task task' : Task} {now : Nat}
    (hstep : site.advance free shared task now = some (shared', task')) :
    task.history <+: task'.history := by
  rcases advance_cases hstep with ⟨_, _, rfl⟩ | ⟨_, _, _, _, hread⟩ | ⟨op, k, _, hcall⟩ |
    ⟨_, _, _, _, rfl⟩ | ⟨_, _, _, _, rfl⟩
  · exact List.prefix_rfl
  · rcases hread with ⟨_, _, _, rfl⟩ | rfl
    · exact List.prefix_rfl
    · exact List.prefix_rfl
  · rw [(Prod.mk.inj hcall).2]
    cases op with
    | ingestBundle _ => exact List.prefix_rfl
    | _ => exact List.prefix_append _ _
  · exact List.prefix_rfl
  · exact List.prefix_append _ _

/-- A step of the server leaves every connection in its place. -/
theorem grown_of_step {srv srv' : Server Key} {turn : Turn} (hstep : site.step srv turn = some srv')
    {conn : Nat} {task : Task} (htask : srv.tasks[conn]? = some task) :
    ∃ task', srv'.tasks[conn]? = some task' ∧ task'.peer = task.peer ∧
      task.history <+: task'.history := by
  obtain ⟨moved, free, shared', moved', hmoved, hadvance, rfl⟩ := step_cases hstep
  by_cases hconn : turn.conn = conn
  · subst hconn
    obtain rfl : moved = task := Option.some.inj (hmoved.symm.trans htask)
    have hlt := (List.getElem?_eq_some_iff.mp htask).1
    exact ⟨moved', List.getElem?_set_self hlt, advance_peer hadvance, advance_grows hadvance⟩
  · exact ⟨task, by rw [List.getElem?_set_ne hconn, htask], rfl, List.prefix_rfl⟩

theorem exists_write_of_mem {h : History} {frame : Bytes} (hmem : frame ∈ written h) :
    ∃ before after, h = before ++ ⟨.write frame, ()⟩ :: after := by
  obtain ⟨ev, hev, hop⟩ := List.mem_filterMap.mp hmem
  obtain ⟨before, after, rfl⟩ := List.append_of_mem hev
  split at hop
  · obtain rfl := Option.some.inj hop
    exact ⟨before, after, rfl⟩
  · simp at hop

section Reachable

variable {peers : List Peer} {srv : Server Key} {task : Task}

/-- **What a connection hands to the ingestor is admitted**: it is the bundle of the envelope in
    the one frame it read. -/
theorem admitted_of_ingested (hpaths : site.EqualPathsSameFile)
    (hreach : Reach site.step anyStep (site.start peers) srv) (htask : task ∈ srv.tasks)
    {b : PyVal} (hb : b ∈ ingested task.history) :
    ∃ payload env, readFrame [] task.peer.reads = .frame .signedBundle payload [] ∧
      TransactionEnvelope.fromBytes site.proto.protobuf payload = .ok env ∧
      verdict site.proto (site.outside task.peer) task.peer.fingerprint env = .ok b := by
  obtain ⟨before, r, after, hsplit⟩ := exists_call_of_mem_ingested hb
  obtain ⟨prog, hpath⟩ := ((sound_of_reach hpaths hreach).tasks task htask).onPath
  have hgate := gate_finish site.proto task.peer.fingerprint (readFrame [] task.peer.reads) []
  obtain ⟨hcomplies, _⟩ := Prog.wp_steps hgate hpath.1 fun _ _ _ _ => trivial
  have hadmits := hcomplies before _ after hsplit
  obtain ⟨payload, env, hstop, henv, hadmitted⟩ := hadmits
  exact ⟨payload, env, hstop, henv, hpath.admitted ⟨_, hsplit.symm⟩ hadmitted⟩

/-- What starts like an ACK is written for the envelope that was read, after its bundle was
    ingested. -/
theorem acknowledges_of_ack (hpaths : site.EqualPathsSameFile)
    (hreach : Reach site.step anyStep (site.start peers) srv) (htask : task ∈ srv.tasks)
    {frame : Bytes} (hwritten : frame ∈ written task.history)
    (hack : frame.head? = some (UInt8.ofNat MessageType.ack.value)) :
    ∃ before, before <+: task.history ∧ acknowledges site.proto task.peer.fingerprint
      (readFrame [] task.peer.reads) before frame := by
  obtain ⟨before, after, hsplit⟩ := exists_write_of_mem hwritten
  obtain ⟨prog, hpath⟩ := ((sound_of_reach hpaths hreach).tasks task htask).onPath
  have hgate := gate_finish site.proto task.peer.fingerprint (readFrame [] task.peer.reads) []
  obtain ⟨hcomplies, _⟩ := Prog.wp_steps hgate hpath.1 fun _ _ _ _ => trivial
  rcases hcomplies before _ after hsplit with ⟨_, reason, rfl⟩ | hacknowledges
  · exact absurd (Option.some.inj hack) (by decide)
  · exact ⟨before, ⟨_, hsplit.symm⟩, hacknowledges⟩

theorem ingested_of_ack (hpaths : site.EqualPathsSameFile)
    (hreach : Reach site.step anyStep (site.start peers) srv) (htask : task ∈ srv.tasks)
    {frame : Bytes} (hwritten : frame ∈ written task.history)
    (hack : frame.head? = some (UInt8.ofNat MessageType.ack.value)) :
    ∃ b, ⟨.ingestBundle b, true⟩ ∈ task.history := by
  obtain ⟨before, hbefore, _, _, b, _, _, _, hb, _⟩ :=
    acknowledges_of_ack hpaths hreach htask hwritten hack
  exact ⟨b, hbefore.subset hb⟩

/-- **A connection that is done has answered what it read**, whatever the other connections did,
    in whatever order they took their turns, and whatever became of the answer on the way: the
    response came first, and the bundle was handed over. -/
theorem answered_of_done (hpaths : site.EqualPathsSameFile)
    (hreach : Reach site.step anyStep (site.start peers) srv) (htask : task ∈ srv.tasks)
    (hdone : task.done = true) {response : Bytes} {handed : List PyVal}
    (houtcome : outcome site.proto (site.outside task.peer) task.peer.fingerprint
      (readFrame [] task.peer.reads) = ([response], handed)) :
    (∃ more, written task.history = response :: more) ∧ ingested task.history = handed := by
  obtain ⟨prog, hpath, hend⟩ := done_sound ((sound_of_reach hpaths hreach).tasks task htask) hdone
  constructor
  · cases hwritten : written task.history with
    | nil => exact absurd hwritten (hpath.written_ne_nil hend (by simp [houtcome]))
    | cons first more =>
      obtain ⟨rest, hfirst⟩ := hpath.first_shown hwritten
      obtain ⟨rfl, _⟩ : response = first ∧ [] = rest := by simpa [houtcome] using hfirst
      exact ⟨more, rfl⟩
  · rw [hpath.ingested_eq hend, houtcome]

end Reachable

/-- The one connection of a server is done in some state that is reached. -/
theorem exists_done_alone (hopen : 0 < site.maxConcurrent) (peer : Peer) :
    ∃ srv task, Reach site.step anyStep (site.start [peer]) srv ∧ task ∈ srv.tasks ∧
      task.peer = peer ∧ task.done = true := by
  obtain ⟨srv, hreach, hfinished⟩ := exists_served_alone hopen peer
  have hpeers := peers_of_reach hreach
  obtain ⟨task, htasks, hpeer⟩ := List.map_eq_singleton_iff.mp hpeers
  have htask : task ∈ srv.tasks := by simp [htasks]
  exact ⟨srv, task, hreach, htask, hpeer, List.all_eq_true.mp hfinished task htask⟩

end QsTie.GatewayB
