import QsTie.Common.Sha256
import QsTie.GatewayB.Determinacy
import QsTie.GatewayB.Verifier
import QsTie.Lib.Transition

/-!
# Connections served side by side (`gateway_b/transport/tls_server.py`)

All connections share one protocol object, and with it the key cache of the
verifier and the counter of the ingestor.  A turn of a connection is one read, one
call of its handler, or the return of its bundle from the executor; the turns of
different connections come in any order.  That is finer than the event loop, which
changes connections only at an `await`, so every order of the loop is among them.

`handle_client` waits for the semaphore first.  What all connections use and none
changes, the trust store and the key files among it, is a `Site`.
-/

namespace QsTie.GatewayB

open QsTie.Lib

/-! ### The server -/

/-- The other end of a connection. -/
structure Peer where
  fingerprint : String
  reads : List Bytes
  drain : Nat → Except PyExc Unit
  waitClosed : Except PyExc Unit

structure Site (Key : Type) where
  proto : GatewayProtocol
  keys : KeyLibrary Key
  pkiBaseDir : String
  decompress : Bytes → Except PyExc Bytes
  ingestSync : PyVal → Bool
  maxConcurrent : Nat

/-- What the connections change together. -/
structure Shared (Key : Type) where
  verifier : MLDSAVerifier Key
  invocationCount : Nat

inductive Phase where
  | waiting
  | reading (buffer : Bytes) (reads : List Bytes)
  | running (prog : Conn Unit)
  | ingesting (stixBundle : PyVal) (k : Bool → Conn Unit)
  | done

structure Task where
  peer : Peer
  phase : Phase
  history : History

structure Server (Key : Type) where
  shared : Shared Key
  tasks : List Task

/-- A turn of one connection, with what the clock says in it. -/
structure Turn where
  conn : Nat
  now : Nat

namespace Task

def done (task : Task) : Bool :=
  match task.phase with
  | .done => true
  | _ => false

/-- It holds the semaphore. -/
def active (task : Task) : Bool :=
  match task.phase with
  | .waiting => false
  | .done => false
  | _ => true

/-- The call `op` is answered `r`. -/
def answered (task : Task) (op : Call) (r : op.Ret) (prog : Conn Unit) : Task :=
  { task with phase := .running prog, history := task.history ++ [⟨op, r⟩] }

end Task

namespace Site

variable {Key : Type} (site : Site Key)

/-- The surroundings of a connection that is alone: its verifier has loaded nothing. -/
def outside (peer : Peer) : Outside where
  verifySignature := fun compressed signature pubkeyPath =>
    ((MLDSAVerifier.mk site.pkiBaseDir []).verifySignature site.keys compressed signature
      pubkeyPath).1
  decompress := site.decompress
  ingestBundle := site.ingestSync
  drain := peer.drain
  clock := fun _ => 0
  waitClosed := peer.waitClosed

/-- The handler makes a call.  A bundle is counted and goes to the executor. -/
def callStep (shared : Shared Key) (task : Task) (now : Nat) :
    (op : Call) → (op.Ret → Conn Unit) → Shared Key × Task
  | .timeNs, k => (shared, task.answered .timeNs now (k now))
  | .verifySignature compressed signature pubkeyPath, k =>
    let (isValid, verifier) :=
      shared.verifier.verifySignature site.keys compressed signature pubkeyPath
    ({ shared with verifier := verifier },
      task.answered (.verifySignature compressed signature pubkeyPath) isValid (k isValid))
  | .ingestBundle stixBundle, k =>
    ({ shared with invocationCount := shared.invocationCount + 1 },
      { task with phase := .ingesting stixBundle k })
  | op, k =>
    let r := (site.outside task.peer).answer task.history op
    (shared, task.answered op r (k r))

/-- One turn of a connection; `free` says whether the semaphore lets it in. -/
def advance (free : Bool) (shared : Shared Key) (task : Task) (now : Nat) :
    Option (Shared Key × Task) :=
  match task.phase with
  | .waiting =>
    if free then some (shared, { task with phase := .reading [] task.peer.reads }) else none
  | .reading _ [] =>
    some (shared, { task with phase := .running (site.proto.finish task.peer.fingerprint .eof) })
  | .reading buffer (data :: reads) =>
    match readStep buffer data with
    | .inl buffer => some (shared, { task with phase := .reading buffer reads })
    | .inr stop =>
      some (shared, { task with phase := .running (site.proto.finish task.peer.fingerprint stop) })
  | .running (.call op k) => some (site.callStep shared task now op k)
  | .running (.ret _) => some (shared, { task with phase := .done })
  | .running (.raise _) => some (shared, { task with phase := .done })
  | .ingesting stixBundle k =>
    let ingested := site.ingestSync stixBundle
    some (shared, task.answered (.ingestBundle stixBundle) ingested (k ingested))
  | .done => none

def step (srv : Server Key) (turn : Turn) : Option (Server Key) :=
  match srv.tasks[turn.conn]? with
  | none => none
  | some task =>
    (site.advance (srv.tasks.countP Task.active < site.maxConcurrent) srv.shared task
      turn.now).map fun (shared, task) => ⟨shared, srv.tasks.set turn.conn task⟩

/-- A fresh instance, and the connections that will come. -/
def start (peers : List Peer) : Server Key where
  shared := ⟨⟨site.pkiBaseDir, []⟩, 0⟩
  tasks := peers.map fun peer => ⟨peer, .waiting, []⟩

end Site

def Server.finished {Key : Type} (srv : Server Key) : Bool := srv.tasks.all Task.done

/-- The envelope of the connection passes every check before ingestion. -/
def Site.passes {Key : Type} (site : Site Key) (peer : Peer) : Bool :=
  passesChecks site.proto (site.outside peer) peer.fingerprint (readFrame [] peer.reads)

/-- The connections of a server do not affect each other: each that is done has shown what it
    shows when it is served alone, every cached key is the one in its file, and in the end
    the ingestor has been called once for each envelope that passed the checks. -/
structure Isolated {Key : Type} (site : Site Key) (peers : List Peer) (srv : Server Key) :
    Prop where
  same : ∀ task ∈ srv.tasks, task.done = true →
    ∀ alone, Reach site.step anyStep (site.start [task.peer]) alone →
      ∀ task' ∈ alone.tasks, task'.done = true →
        written task.history = written task'.history ∧
          ingestions task.history = ingestions task'.history
  alone : 0 < site.maxConcurrent → ∀ peer ∈ peers,
    ∃ alone, Reach site.step anyStep (site.start [peer]) alone ∧ alone.finished = true
  cached : srv.shared.verifier.CacheValid site.keys
  counted : srv.finished = true → srv.shared.invocationCount = peers.countP site.passes

/-! ### What a turn keeps -/

section Sound

variable {Key : Type} {site : Site Key}

/-- The calls of a handler so far, answered as if it were alone. -/
def OnPath (site : Site Key) (peer : Peer) (history : History) (prog : Conn Unit) : Prop :=
  Prog.Steps (site.proto.finish peer.fingerprint (readFrame [] peer.reads)) history prog ∧
    Prog.Promised (answers site.proto (site.outside peer)) [] history

def Task.Sound (site : Site Key) (task : Task) : Prop :=
  match task.phase with
  | .waiting => task.history = []
  | .reading buffer reads =>
    task.history = [] ∧ readFrame buffer reads = readFrame [] task.peer.reads
  | .running prog => OnPath site task.peer task.history prog
  | .ingesting stixBundle k =>
    OnPath site task.peer task.history (.call (.ingestBundle stixBundle) k)
  | .done => ∃ prog, OnPath site task.peer task.history prog ∧ prog.Ended

/-- Keys of the trust store only, each as its file has it. -/
structure Shared.Sound (site : Site Key) (shared : Shared Key) : Prop where
  base : shared.verifier.pkiBaseDir = site.pkiBaseDir
  valid : shared.verifier.CacheValid site.keys
  paths : ∀ entry ∈ shared.verifier.publicKeys, site.proto.trustStore.KeyPath entry.1

/-- The bundles of a connection that the ingestor has counted. -/
def Task.started (task : Task) : Nat :=
  (ingested task.history).length +
    match task.phase with
    | .ingesting _ _ => 1
    | _ => 0

theorem Task.Sound.running {task : Task} {prog : Conn Unit} (hsound : task.Sound site)
    (hphase : task.phase = .running prog) : OnPath site task.peer task.history prog := by
  simpa only [Task.Sound, hphase] using hsound

/-- The handler starts when the read loop has stopped. -/
theorem OnPath.start {peer : Peer} {history : History} {stop : ReadEnd} (hempty : history = [])
    (hstop : stop = readFrame [] peer.reads) :
    OnPath site peer history (site.proto.finish peer.fingerprint stop) := by
  subst hempty hstop
  refine ⟨.refl _, ?_⟩
  intro before ev after heq
  simp at heq

theorem OnPath.snoc {peer : Peer} {history : History} {op : Call} {k : op.Ret → Conn Unit}
    (hpath : OnPath site peer history (.call op k)) (r : op.Ret)
    (hr : op = .timeNs ∨ r = (site.outside peer).answer history op) :
    OnPath site peer (history ++ [⟨op, r⟩]) (k r) :=
  ⟨hpath.1.snoc r, hpath.2.snoc hr⟩

/-- The verifier is asked for key paths of the trust store. -/
theorem OnPath.keyPath {peer : Peer} {history : History} {compressed signature : Bytes}
    {pubkeyPath : PyVal} {k : Bool → Conn Unit}
    (hpath : OnPath site peer history
      (.call (.verifySignature compressed signature pubkeyPath) k)) :
    site.proto.trustStore.KeyPath pubkeyPath := by
  have hwp := hands_finish site.proto (site.outside peer) peer.fingerprint
    (readFrame [] peer.reads) []
  obtain ⟨_, hnext⟩ := Prog.wp_steps hwp hpath.1 hpath.2
  exact hnext.1

/-- A connection that has ended has handed over its outcome. -/
theorem OnPath.ingested_eq {peer : Peer} {history : History} {prog : Conn Unit}
    (hpath : OnPath site peer history prog) (hend : prog.Ended) :
    ingested history =
      (outcome site.proto (site.outside peer) peer.fingerprint (readFrame [] peer.reads)).2 := by
  have hwp := hands_finish site.proto (site.outside peer) peer.fingerprint
    (readFrame [] peer.reads) []
  obtain ⟨_, hpost⟩ := Prog.wp_steps hwp hpath.1 hpath.2
  cases prog with
  | ret _ => simpa [Prog.wp, ingested] using hpost
  | raise e => simpa [Prog.wp, ingested] using hpost
  | call op k => exact absurd hend id

/-- Key paths that are equal as keys of a dict name the same file. -/
def Site.EqualPathsSameFile (site : Site Key) : Prop :=
  ∀ path path', site.proto.trustStore.KeyPath path → site.proto.trustStore.KeyPath path' →
    MLDSAVerifier.SameFile site.keys path path'

variable {shared shared' : Shared Key} {task task' : Task} {free : Bool} {now : Nat}

/-- What a turn keeps: the shared state and the task stay sound, and the counter grows with
    the bundles the task has started. -/
structure Keeps (site : Site Key) (shared shared' : Shared Key) (task task' : Task) : Prop where
  soundShared : shared'.Sound site
  soundTask : task'.Sound site
  counted : shared'.invocationCount + task.started = shared.invocationCount + task'.started

/-- The shared state of a verification. -/
theorem Shared.Sound.verified (hshared : shared.Sound site) {pubkeyPath : PyVal}
    (hkey : site.proto.trustStore.KeyPath pubkeyPath) (compressed signature : Bytes) :
    Shared.Sound site { shared with verifier :=
      (shared.verifier.verifySignature site.keys compressed signature pubkeyPath).2 } := by
  rcases MLDSAVerifier.verifySignature_cache compressed signature with
    hkept | ⟨pubkey, hfile, hfilled⟩
  · rw [hkept]
    exact hshared
  · rw [hfilled]
    refine ⟨hshared.base, ?_, ?_⟩
    · intro entry hentry
      rcases List.mem_cons.mp hentry with rfl | hentry
      · exact hfile
      · exact hshared.valid entry hentry
    · intro entry hentry
      rcases List.mem_cons.mp hentry with rfl | hentry
      · exact hkey
      · exact hshared.paths entry hentry

/-- A call that is answered at once, and is no ingestion. -/
theorem Keeps.answered (hshared : shared'.Sound site) {op : Call} {k : op.Ret → Conn Unit}
    (hphase : task.phase = .running (.call op k)) (htask : task.Sound site) (r : op.Ret)
    (hr : op = .timeNs ∨ r = (site.outside task.peer).answer task.history op)
    (hquiet : ingested [⟨op, r⟩] = [])
    (hcount : shared'.invocationCount = shared.invocationCount) :
    Keeps site shared shared' task (task.answered op r (k r)) := by
  have hpath := htask.running hphase
  refine ⟨hshared, hpath.snoc r hr, ?_⟩
  simp only [Task.started, Task.answered, hphase, ingested_append, hquiet, List.append_nil, hcount]

theorem callStep_keeps (hpaths : site.EqualPathsSameFile) (hshared : shared.Sound site)
    {op : Call} {k : op.Ret → Conn Unit} (hphase : task.phase = .running (.call op k))
    (htask : task.Sound site) :
    Keeps site shared (site.callStep shared task now op k).1 task
      (site.callStep shared task now op k).2 := by
  have hpath := htask.running hphase
  cases op with
  | timeNs => exact .answered hshared hphase htask now (Or.inl rfl) rfl rfl
  | verifySignature compressed signature pubkeyPath =>
    have hkey := hpath.keyPath
    have hsame : ∀ entry ∈ shared.verifier.publicKeys,
        MLDSAVerifier.SameFile site.keys entry.1 pubkeyPath := by
      intro entry hentry
      exact hpaths _ _ (hshared.paths entry hentry) hkey
    have hverdict := MLDSAVerifier.verifySignature_fresh hshared.valid hsame compressed signature
    rw [hshared.base] at hverdict
    exact .answered (hshared.verified hkey compressed signature) hphase htask
      (shared.verifier.verifySignature site.keys compressed signature pubkeyPath).1
      (Or.inr hverdict) rfl rfl
  | ingestBundle stixBundle =>
    refine ⟨⟨hshared.base, hshared.valid, hshared.paths⟩, hpath, ?_⟩
    simp only [Site.callStep, Task.started, hphase]
    omega
  | _ => exact .answered hshared hphase htask _ (Or.inr rfl) rfl rfl

/-- A turn that only changes the phase, between phases that count nothing. -/
theorem Keeps.moved (hshared : shared.Sound site) {phase : Phase}
    (htask : Task.Sound site { task with phase := phase })
    (hcount : task.started = Task.started { task with phase := phase }) :
    Keeps site shared shared task { task with phase := phase } :=
  ⟨hshared, htask, by rw [hcount]⟩

/-- What a turn can be: entering, a read, a call, the end of the handler, or the return of
    its bundle. -/
theorem advance_cases (hstep : site.advance free shared task now = some (shared', task')) :
    (task.phase = .waiting ∧ shared' = shared ∧
      task' = { task with phase := .reading [] task.peer.reads }) ∨
    (∃ buffer reads, task.phase = .reading buffer reads ∧ shared' = shared ∧
      ((∃ longer rest, readFrame buffer reads = readFrame longer rest ∧
          task' = { task with phase := .reading longer rest }) ∨
        task' = { task with
          phase := .running (site.proto.finish task.peer.fingerprint (readFrame buffer reads)) })) ∨
    (∃ op k, task.phase = .running (.call op k) ∧
      (shared', task') = site.callStep shared task now op k) ∨
    (∃ prog, task.phase = .running prog ∧ prog.Ended ∧ shared' = shared ∧
      task' = { task with phase := .done }) ∨
    ∃ stixBundle k, task.phase = .ingesting stixBundle k ∧ shared' = shared ∧
      task' = task.answered (.ingestBundle stixBundle) (site.ingestSync stixBundle)
        (k (site.ingestSync stixBundle)) := by
  unfold Site.advance at hstep
  split at hstep
  · rename_i hphase
    split at hstep
    · obtain ⟨rfl, rfl⟩ := Prod.mk.inj (Option.some.inj hstep)
      left
      exact ⟨hphase, rfl, rfl⟩
    · simp at hstep
  · rename_i buffer hphase
    obtain ⟨rfl, rfl⟩ := Prod.mk.inj (Option.some.inj hstep)
    right; left
    exact ⟨buffer, [], hphase, rfl, Or.inr rfl⟩
  · rename_i buffer data reads hphase
    right; left
    split at hstep
    · rename_i longer hmore
      obtain ⟨rfl, rfl⟩ := Prod.mk.inj (Option.some.inj hstep)
      refine ⟨buffer, data :: reads, hphase, rfl, Or.inl ⟨longer, reads, ?_, rfl⟩⟩
      rw [readFrame, hmore]
    · rename_i stop hstop
      obtain ⟨rfl, rfl⟩ := Prod.mk.inj (Option.some.inj hstep)
      refine ⟨buffer, data :: reads, hphase, rfl, Or.inr ?_⟩
      rw [readFrame, hstop]
  · rename_i op k hphase
    right; right; left
    exact ⟨op, k, hphase, (Option.some.inj hstep).symm⟩
  · rename_i hphase
    obtain ⟨rfl, rfl⟩ := Prod.mk.inj (Option.some.inj hstep)
    right; right; right; left
    exact ⟨_, hphase, trivial, rfl, rfl⟩
  · rename_i e hphase
    obtain ⟨rfl, rfl⟩ := Prod.mk.inj (Option.some.inj hstep)
    right; right; right; left
    exact ⟨_, hphase, trivial, rfl, rfl⟩
  · rename_i stixBundle k hphase
    obtain ⟨rfl, rfl⟩ := Prod.mk.inj (Option.some.inj hstep)
    right; right; right; right
    exact ⟨stixBundle, k, hphase, rfl, rfl⟩
  · simp at hstep

theorem advance_peer (hstep : site.advance free shared task now = some (shared', task')) :
    task'.peer = task.peer := by
  rcases advance_cases hstep with ⟨_, _, rfl⟩ | ⟨_, _, _, _, hread⟩ | ⟨op, k, _, hcall⟩ |
    ⟨_, _, _, _, rfl⟩ | ⟨_, _, _, _, rfl⟩
  · rfl
  · rcases hread with ⟨_, _, _, rfl⟩ | rfl
    · rfl
    · rfl
  · rw [(Prod.mk.inj hcall).2]
    cases op <;> rfl
  · rfl
  · rfl

/-- **One turn.** -/
theorem advance_keeps (hpaths : site.EqualPathsSameFile) (hshared : shared.Sound site)
    (htask : task.Sound site)
    (hstep : site.advance free shared task now = some (shared', task')) :
    Keeps site shared shared' task task' := by
  rcases advance_cases hstep with ⟨hphase, rfl, rfl⟩ | ⟨buffer, reads, hphase, rfl, hread⟩ |
    ⟨op, k, hphase, hcall⟩ | ⟨prog, hphase, hend, rfl, rfl⟩ | ⟨stixBundle, k, hphase, rfl, rfl⟩
  · have hempty : task.history = [] := by simpa only [Task.Sound, hphase] using htask
    refine .moved hshared ⟨hempty, rfl⟩ ?_
    simp only [Task.started, hphase]
  · obtain ⟨hempty, hstop⟩ : task.history = [] ∧
        readFrame buffer reads = readFrame [] task.peer.reads := by
      simpa only [Task.Sound, hphase] using htask
    rcases hread with ⟨longer, rest, hsame, rfl⟩ | rfl
    · refine .moved hshared ⟨hempty, hsame.symm.trans hstop⟩ ?_
      simp only [Task.started, hphase]
    · refine .moved hshared (OnPath.start hempty hstop) ?_
      simp only [Task.started, hphase]
  · obtain ⟨rfl, rfl⟩ := Prod.mk.inj hcall
    exact callStep_keeps hpaths hshared hphase htask
  · refine .moved hshared ⟨prog, htask.running hphase, hend⟩ ?_
    simp only [Task.started, hphase]
  · have hpath : OnPath site task.peer task.history (.call (.ingestBundle stixBundle) k) := by
      simpa only [Task.Sound, hphase] using htask
    refine ⟨hshared, hpath.snoc (site.ingestSync stixBundle) (Or.inr rfl), ?_⟩
    have hone : (ingested [⟨.ingestBundle stixBundle, site.ingestSync stixBundle⟩]).length = 1 :=
      rfl
    simp only [Task.started, Task.answered, hphase, ingested_append, List.length_append, hone]

/-! ### What a run keeps -/

/-- The counter is what the connections have started, and all of them are sound. -/
structure Server.Sound (site : Site Key) (srv : Server Key) : Prop where
  shared : srv.shared.Sound site
  tasks : ∀ task ∈ srv.tasks, task.Sound site
  count : srv.shared.invocationCount = (srv.tasks.map Task.started).sum

theorem sound_start (site : Site Key) (peers : List Peer) :
    Server.Sound site (site.start peers) := by
  refine ⟨⟨rfl, by simp [Site.start, MLDSAVerifier.CacheValid], by simp [Site.start]⟩, ?_, ?_⟩
  · intro task htask
    obtain ⟨peer, _, rfl⟩ := List.mem_map.mp htask
    rfl
  · simp [Site.start, Function.comp_def, Task.started, ingested]

/-- What replacing one entry of a list does to a sum. -/
theorem sum_map_set {α : Type} {items : List α} {i : Nat} {a : α} (hget : items[i]? = some a)
    (f : α → Nat) (b : α) :
    ((items.set i b).map f).sum + f a = (items.map f).sum + f b := by
  induction items generalizing i with
  | nil => simp at hget
  | cons item items ih =>
    cases i with
    | zero =>
      obtain rfl : item = a := by simpa using hget
      simp only [List.set_cons_zero, List.map_cons, List.sum_cons]
      omega
    | succ i =>
      have hrest := ih (by simpa using hget)
      simp only [List.set_cons_succ, List.map_cons, List.sum_cons]
      omega

theorem map_set_of_eq {α β : Type} {items : List α} {i : Nat} {a b : α}
    (hget : items[i]? = some a) {f : α → β} (hf : f b = f a) :
    (items.set i b).map f = items.map f := by
  induction items generalizing i with
  | nil => simp at hget
  | cons item items ih =>
    cases i with
    | zero =>
      obtain rfl : item = a := by simpa using hget
      simp only [List.set_cons_zero, List.map_cons, hf]
    | succ i => simp only [List.set_cons_succ, List.map_cons, ih (by simpa using hget)]

/-- What a step of the server is: a turn of one of its tasks. -/
theorem step_cases {srv srv' : Server Key} {turn : Turn} (hstep : site.step srv turn = some srv') :
    ∃ task free shared' task', srv.tasks[turn.conn]? = some task ∧
      site.advance free srv.shared task turn.now = some (shared', task') ∧
      srv' = ⟨shared', srv.tasks.set turn.conn task'⟩ := by
  unfold Site.step at hstep
  split at hstep
  · simp at hstep
  · rename_i task htask
    rw [Option.map_eq_some_iff] at hstep
    obtain ⟨⟨shared', task'⟩, hadvance, rfl⟩ := hstep
    exact ⟨task, _, shared', task', htask, hadvance, rfl⟩

/-- The connections stay the same. -/
theorem peers_of_reach {peers : List Peer} {srv : Server Key}
    (hreach : Reach site.step anyStep (site.start peers) srv) :
    srv.tasks.map Task.peer = peers := by
  apply hreach.invariant
  · simp [Site.start, Function.comp_def]
  · intro srv srv' turn hpeers _ hstep
    obtain ⟨task, free, shared', task', htask, hadvance, rfl⟩ := step_cases hstep
    rw [← hpeers]
    exact map_set_of_eq htask (advance_peer hadvance)

theorem sound_step (hpaths : site.EqualPathsSameFile) {srv srv' : Server Key} {turn : Turn}
    (hsound : srv.Sound site) (hstep : site.step srv turn = some srv') : srv'.Sound site := by
  obtain ⟨task, free, shared', task', htask, hadvance, rfl⟩ := step_cases hstep
  have hmem : task ∈ srv.tasks := List.mem_of_getElem? htask
  have hkeeps := advance_keeps hpaths hsound.shared (hsound.tasks task hmem) hadvance
  refine ⟨hkeeps.soundShared, ?_, ?_⟩
  · intro other hother
    rcases List.mem_or_eq_of_mem_set hother with hother | rfl
    · exact hsound.tasks other hother
    · exact hkeeps.soundTask
  · have hsum := sum_map_set htask Task.started task'
    have hcount := hkeeps.counted
    have hbefore := hsound.count
    simp only
    omega

theorem sound_of_reach (hpaths : site.EqualPathsSameFile) {peers : List Peer} {srv : Server Key}
    (hreach : Reach site.step anyStep (site.start peers) srv) : srv.Sound site :=
  hreach.invariant (sound_start site peers) fun hsound _ hstep => sound_step hpaths hsound hstep

/-! ### A connection alone -/

variable {peer : Peer}

/-- The only connection of a server takes a turn. -/
theorem Reach.turn {s₀ : Server Key} (hreach : Reach site.step anyStep s₀ ⟨shared, [task]⟩)
    (hadvance : site.advance (([task].countP Task.active) < site.maxConcurrent) shared task 0 =
      some (shared', task')) :
    Reach site.step anyStep s₀ ⟨shared', [task']⟩ := by
  refine hreach.next (l := ⟨0, 0⟩) trivial ?_
  simp only [Site.step, List.getElem?_cons_zero, hadvance]
  rfl

/-- Its handler makes a call and goes on. -/
theorem reach_call {s₀ : Server Key} {op : Call} {k : op.Ret → Conn Unit} {history : History}
    (hreach : Reach site.step anyStep s₀ ⟨shared, [⟨peer, .running (.call op k), history⟩]⟩) :
    ∃ shared' r, Reach site.step anyStep s₀
      ⟨shared', [⟨peer, .running (k r), history ++ [⟨op, r⟩]⟩]⟩ := by
  cases op with
  | ingestBundle stixBundle =>
    have hstarted := Reach.turn hreach rfl
    exact ⟨_, _, Reach.turn hstarted rfl⟩
  | _ => exact ⟨_, _, Reach.turn hreach rfl⟩

/-- A handler runs to its end. -/
theorem reach_done {s₀ : Server Key} {prog : Conn Unit} {history : History}
    (hreach : Reach site.step anyStep s₀ ⟨shared, [⟨peer, .running prog, history⟩]⟩) :
    ∃ srv, Reach site.step anyStep s₀ srv ∧ srv.finished = true := by
  induction prog generalizing shared history with
  | ret _ => exact ⟨_, Reach.turn hreach rfl, rfl⟩
  | raise e => exact ⟨_, Reach.turn hreach rfl, rfl⟩
  | call op k ih =>
    obtain ⟨shared', r, hnext⟩ := reach_call hreach
    exact ih r hnext

theorem reach_running {s₀ : Server Key} {buffer : Bytes} {reads : List Bytes}
    (hreach : Reach site.step anyStep s₀ ⟨shared, [⟨peer, .reading buffer reads, []⟩]⟩) :
    ∃ prog, Reach site.step anyStep s₀ ⟨shared, [⟨peer, .running prog, []⟩]⟩ := by
  induction reads generalizing buffer with
  | nil => exact ⟨_, Reach.turn hreach rfl⟩
  | cons data reads ih =>
    cases hread : readStep buffer data with
    | inl longer =>
      have hlonger : Reach site.step anyStep s₀ ⟨shared, [⟨peer, .reading longer reads, []⟩]⟩ := by
        apply Reach.turn hreach
        simp only [Site.advance, hread]
      exact ih hlonger
    | inr stop =>
      refine ⟨site.proto.finish peer.fingerprint stop, ?_⟩
      apply Reach.turn hreach
      simp only [Site.advance, hread]

/-- **A connection that is alone is served to its end.** -/
theorem exists_served_alone (hopen : 0 < site.maxConcurrent) (peer : Peer) :
    ∃ srv, Reach site.step anyStep (site.start [peer]) srv ∧ srv.finished = true := by
  have hentered : Reach site.step anyStep (site.start [peer])
      ⟨(site.start [peer]).shared, [⟨peer, .reading [] peer.reads, []⟩]⟩ := by
    apply Reach.turn .start
    simp [Site.start, Site.advance, Task.active, hopen]
  obtain ⟨prog, hrunning⟩ := reach_running hentered
  exact reach_done hrunning

/-! ### Isolation -/

theorem done_sound {task : Task} (hsound : task.Sound site) (hdone : task.done = true) :
    ∃ prog, OnPath site task.peer task.history prog ∧ prog.Ended := by
  cases hphase : task.phase with
  | done => simpa only [Task.Sound, hphase] using hsound
  | _ => simp [Task.done, hphase] at hdone

/-- When every connection is done, the ingestor was called for those that passed. -/
theorem sum_started {tasks : List Task} (hsound : ∀ task ∈ tasks, task.Sound site)
    (hdone : tasks.all Task.done = true) :
    (tasks.map Task.started).sum = (tasks.map Task.peer).countP site.passes := by
  induction tasks with
  | nil => rfl
  | cons task tasks ih =>
    simp only [List.all_cons, Bool.and_eq_true] at hdone
    obtain ⟨hfirst, hrest⟩ := hdone
    have hlater := ih (fun other hother => hsound other (List.mem_cons_of_mem _ hother)) hrest
    obtain ⟨prog, hpath, hend⟩ := done_sound (hsound task List.mem_cons_self) hfirst
    have hlength := length_handed site.proto (site.outside task.peer) task.peer.fingerprint
      (readFrame [] task.peer.reads)
    rw [← hpath.ingested_eq hend] at hlength
    have hstarted : task.started = if site.passes task.peer then 1 else 0 := by
      cases hphase : task.phase with
      | done =>
        simp only [Task.started, hphase, Nat.add_zero]
        exact hlength
      | _ => simp [Task.done, hphase] at hfirst
    rw [List.map_cons, List.map_cons, List.sum_cons, List.countP_cons, hlater, hstarted]
    omega

/-- **Connections served side by side do not affect each other**, in any order of their turns,
    if key paths that are equal as keys of a dict name the same file. -/
theorem isolated_of_reach (site : Site Key) (hpaths : site.EqualPathsSameFile) (peers : List Peer)
    (srv : Server Key) (hreach : Reach site.step anyStep (site.start peers) srv) :
    Isolated site peers srv := by
  have hsound := sound_of_reach hpaths hreach
  constructor
  · intro task htask hdone alone halone task' htask' hdone'
    have hsound' := sound_of_reach hpaths halone
    obtain ⟨prog, hpath, hend⟩ := done_sound (hsound.tasks task htask) hdone
    obtain ⟨prog', hpath', hend'⟩ := done_sound (hsound'.tasks task' htask') hdone'
    have hpeer : task'.peer = task.peer := by
      have hmem := List.mem_map_of_mem (f := Task.peer) htask'
      rw [peers_of_reach halone] at hmem
      simpa using hmem
    rw [hpeer] at hpath'
    exact (SameCalls.finish _ _ _).shown hpath.1 hpath'.1 hend hend' hpath.2 hpath'.2 rfl
  · intro hopen peer _
    exact exists_served_alone hopen peer
  · exact hsound.shared.valid
  · intro hfinished
    rw [hsound.count, sum_started hsound.tasks hfinished, peers_of_reach hreach]

/-- Paths that are strings, as the annotation of `pubkey_path` has it. -/
theorem equalPathsSameFile_of_str
    (hstr : ∀ path, site.proto.trustStore.KeyPath path → ∃ text, path = .str text) :
    site.EqualPathsSameFile := by
  intro path path' _ hkey' hequal
  obtain ⟨text, rfl⟩ := hstr path' hkey'
  rw [PyVal.scalarEq_str.mp hequal]

end Sound

/-! ### Two connections of one agency, and two agencies -/

namespace Sample

def rawKey : Bytes := asciiBytes "raw"

/-- The SHA-256 of the compressed bundle. -/
def digest : Bytes :=
  [39, 226, 142, 33, 166, 158, 165, 217, 245, 230, 178, 209, 239, 206, 165, 151,
   255, 156, 236, 144, 144, 88, 223, 225, 54, 50, 198, 128, 97, 222, 32, 183]

def keys : KeyLibrary Bytes where
  readFile := fun path =>
    if path = "pki/gateway_raw/raw_ecdsa256.pub" then .ok rawKey
    else .error ⟨.fileNotFoundError, "No such file or directory"⟩
  loadPemPublicKey := fun pem => .ok pem
  isEllipticCurve := fun _ => true
  verifyEcdsa := fun pubkey s signed =>
    if pubkey = rawKey ∧ s = signature ∧ signed = digest then .ok ()
    else .error ⟨.other "InvalidSignature", ""⟩
  verify := fun _ _ _ => .error ⟨.other "InvalidSignature", ""⟩
  sha256 := QsTie.sha256
  floatRepr := fun _ => ""

def site : Site Bytes where
  proto := gateway
  keys := keys
  pkiBaseDir := "pki"
  decompress := decompress
  ingestSync := fun _ => true
  maxConcurrent := 2

def peer (reads : List Bytes) : Peer where
  fingerprint := "9f86d081884c7d65"
  reads := reads
  drain := fun _ => .ok ()
  waitClosed := .ok ()

/-- The same frame in one read and in two. -/
def peers : List Peer :=
  [peer [[1, 0, 0, 0, 196] ++ payload], peer [[1, 0, 0], [0, 196] ++ payload]]

/-- Turn and turn about, and the one more that the second read takes. -/
def turns : List Turn :=
  (List.range 15).flatMap (fun t => [⟨0, t⟩, ⟨1, t⟩]) ++ [⟨1, 15⟩]

end Sample

/-- Two connections of the sample agency, the second of which finds the key in the cache. -/
theorem sample_isolated :
    ∃ srv, Reach Sample.site.step anyStep (Sample.site.start Sample.peers) srv ∧
      srv.finished = true ∧ srv.shared.invocationCount = 2 ∧
      srv.tasks.all (fun task => written task.history == [ackFrame Sample.txId]) = true ∧
      Isolated Sample.site Sample.peers srv := by
  have hrun : (runLabels Sample.site.step (Sample.site.start Sample.peers) Sample.turns).map
      (fun srv => srv.finished && srv.shared.invocationCount == 2 &&
        srv.tasks.all fun task => written task.history == [ackFrame Sample.txId]) = some true := by
    decide +kernel
  obtain ⟨srv, hreach, hend⟩ := Reach.exists_of_run (fun _ _ _ => trivial) hrun
  simp only [Bool.and_eq_true, beq_iff_eq] at hend
  obtain ⟨⟨hfinished, hcount⟩, hacked⟩ := hend
  have hpaths : Sample.site.EqualPathsSameFile := by
    apply equalPathsSameFile_of_str
    rintro path ⟨id, agency, hknown, hpath⟩
    have hagency : Sample.agency = agency := by
      simp only [Sample.site, Sample.gateway, TrustStore.getAgency, List.find?_cons,
        List.find?_nil] at hknown
      split at hknown <;> simp_all
    subst hagency
    exact ⟨_, (Option.some.inj hpath).symm⟩
  exact ⟨srv, hreach, hfinished, hcount, hacked,
    isolated_of_reach Sample.site hpaths Sample.peers srv hreach⟩

namespace Collision

def txId : String := "7c9e6679-7425-40de-944b-e07fc1f90ae7"

def signature : Bytes := [48, 6, 2, 1, 1, 2, 1, 1]

def envelope : TransactionEnvelope :=
  { Sample.envelope with
    transactionId := txId, senderId := "NIA", recipientId := "RAW", signature := signature }

def payload : Bytes :=
  [0x0a, 36] ++ asciiBytes txId ++ [0x12, 3] ++ asciiBytes "NIA" ++ [0x1a, 3] ++
    asciiBytes "RAW" ++ [0x22, 9] ++ asciiBytes "tlp:green" ++ [0x2a, 40] ++ Sample.compressed ++
    [0x32, 8] ++ signature ++ [0x3a, 16] ++ asciiBytes "mock_fingerprint" ++
    [0x40, 192, 132, 61]

def protobuf : Protobuf where
  parseFromString := fun data =>
    if data = payload then .ok envelope.toProto else Sample.protobuf.parseFromString data
  serializeToString := fun env =>
    if env = envelope.toProto then .ok payload else Sample.protobuf.serializeToString env

def agency (id fingerprint : String) (pubkeyPath : PyVal) : PyDict :=
  [(.str "agency_id", .str id),
   (.str "payload_signing_public_key_path", pubkeyPath),
   (.str "payload_signing_public_key_fingerprint", .str "cc63c28b1571645e"),
   (.str "tls_certificate_fingerprint", .str fingerprint)]

def allowRule : PyDict :=
  [(.str "sender", .str "NIA"), (.str "recipient", .str "RAW"), (.str "tlp", .str "tlp:green"),
   (.str "action", .str "ALLOW")]

def niaKey : Bytes := asciiBytes "nia"

/-- The trust store names the key files `1` and `True`. -/
def site : Site Bytes where
  proto := {
    trustStore := ⟨[(.str "RAW", agency "RAW" "9f86d081884c7d65" (.int 1)),
      (.str "NIA", agency "NIA" "5e884898da280471" (.bool true))], []⟩
    rules := [.dict Sample.allowRule, .dict allowRule]
    protobuf := protobuf
    loads := Sample.loads }
  keys := { Sample.keys with
    readFile := fun path =>
      if path = "pki/1" then .ok Sample.rawKey
      else if path = "pki/True" then .ok niaKey
      else .error ⟨.fileNotFoundError, "No such file or directory"⟩
    verifyEcdsa := fun pubkey s signed =>
      if (pubkey = Sample.rawKey ∧ s = Sample.signature ∨ pubkey = niaKey ∧ s = signature) ∧
          signed = Sample.digest then .ok ()
      else .error ⟨.other "InvalidSignature", ""⟩ }
  pkiBaseDir := "pki"
  decompress := Sample.decompress
  ingestSync := fun _ => true
  maxConcurrent := 2

def raw : Peer := Sample.peer [[1, 0, 0, 0, 196] ++ Sample.payload]

def nia : Peer :=
  { Sample.peer [[1, 0, 0, 0, 133] ++ payload] with fingerprint := "5e884898da280471" }

/-- The peer `NIA` is done and was answered `frame`. -/
def answeredNia (frame : Bytes) (srv : Server Bytes) : Bool :=
  srv.tasks.any fun task => task.done && task.peer.fingerprint == nia.fingerprint &&
    written task.history == [frame]

theorem exists_nia {peers : List Peer} {frame : Bytes} {srv : Server Bytes}
    (hpeers : peers = [nia] ∨ peers = [raw, nia])
    (hreach : Reach site.step anyStep (site.start peers) srv)
    (hanswered : answeredNia frame srv = true) :
    ∃ task ∈ srv.tasks, task.peer = nia ∧ task.done = true ∧ written task.history = [frame] := by
  simp only [answeredNia, List.any_eq_true, Bool.and_eq_true, beq_iff_eq] at hanswered
  obtain ⟨task, hmem, ⟨hdone, hfp⟩, hwritten⟩ := hanswered
  refine ⟨task, hmem, ?_, hdone, hwritten⟩
  have hpeer := List.mem_map_of_mem (f := Task.peer) hmem
  rw [peers_of_reach hreach] at hpeer
  have hraw : raw.fingerprint ≠ nia.fingerprint := by decide
  rcases hpeers with rfl | rfl
  · simpa using hpeer
  · simp only [List.mem_cons, List.not_mem_nil, or_false] at hpeer
    rcases hpeer with hpeer | hpeer
    · rw [hpeer] at hfp
      exact absurd hfp hraw
    · exact hpeer

end Collision

/-- `True == 1`: the second agency is verified under the key of the first, which was cached
    under the other path. -/
theorem sample_collision :
    ∃ srv, Reach Collision.site.step anyStep
        (Collision.site.start [Collision.raw, Collision.nia]) srv ∧
      ¬ Isolated Collision.site [Collision.raw, Collision.nia] srv := by
  have hboth : (runLabels Collision.site.step (Collision.site.start [Collision.raw, Collision.nia])
      (List.replicate 15 ⟨0, 0⟩ ++ List.replicate 9 ⟨1, 0⟩)).map
      (Collision.answeredNia (nackFrame Collision.txId .sigInvalid)) = some true := by
    decide +kernel
  have halone : (runLabels Collision.site.step (Collision.site.start [Collision.nia])
      (List.replicate 15 ⟨0, 0⟩)).map (Collision.answeredNia (ackFrame Collision.txId)) =
        some true := by
    decide +kernel
  obtain ⟨srv, hreach, hnack⟩ := Reach.exists_of_run (fun _ _ _ => trivial) hboth
  obtain ⟨alone, hreach', hack⟩ := Reach.exists_of_run (fun _ _ _ => trivial) halone
  obtain ⟨task, hmem, hpeer, hdone, hwritten⟩ := Collision.exists_nia (Or.inr rfl) hreach hnack
  obtain ⟨task', hmem', _, hdone', hwritten'⟩ := Collision.exists_nia (Or.inl rfl) hreach' hack
  refine ⟨srv, hreach, ?_⟩
  intro hisolated
  rw [← hpeer] at hreach'
  have hsame := (hisolated.same task hmem hdone alone hreach' task' hmem' hdone').1
  rw [hwritten, hwritten'] at hsame
  have hframes : [nackFrame Collision.txId .sigInvalid] ≠ [ackFrame Collision.txId] := by
    decide +kernel
  exact hframes hsame

end QsTie.GatewayB
