import QsTie.GatewayA.StixExtractor
import QsTie.GatewayA.Transmission

/-!
# The pipeline of Gateway A (`gateway_a/main.py` and its workers)

Five tasks over four bounded FIFO queues.  A task moves from one `await` to the
next in one step, and any task that can move may; `get` waits for an item and
`put` for room.  A label names the step and what the surroundings answer in it:
the event a listener receives, the conversion library, the result of the signer,
the fate of a session.
-/

namespace QsTie.GatewayA

/-! ### States -/

inductive ListenerPc where
  | receiving
  | putting (event : PyVal)
  | done

inductive ExtractorPc where
  | top
  | getting
  | converting (event : PyVal) (seq : Nat)
  | putting (it : Item)
  | done

/-- The signer and the policy worker. -/
inductive WorkerPc where
  | top
  | getting
  | putting (it : Item)
  | done

structure State where
  running : Bool := true
  listener : ListenerPc := .receiving
  inQueue : List PyVal := []
  extractor : ExtractorPc := .top
  extractedQueue : List Item := []
  signer : WorkerPc := .top
  signedQueue : List Item := []
  pep : WorkerPc := .top
  txQueue : List Item := []
  tx : TxPc := .top
  journal : Journal := []

def State.init : State := {}

/-- What a pipeline is built from: the configuration, the policy, `zlib.compress` and the
    fingerprint of the signer's certificate. -/
structure Pipeline where
  config : GatewayAConfig
  pep : OutboundPep
  compress : Bytes → Bytes
  certFingerprint : String

/-! ### Steps -/

inductive Label where
  | receive (event : PyVal)
  | listenerPut
  | listenerStop
  | extractorLoop
  | extractorGet
  | extractorConvert (conv : Converter) (id : String) (createdAtUnixMs : Int)
  | extractorPut
  | signerLoop
  | signerGet (signature : Except PyExc Bytes)
  | signerPut
  | pepLoop
  | pepGet (fault : Option PyExc)
  | pepPut
  | txLoop
  | txGet
  | txOpened (result : Except PyExc Unit)
  | txSent (success : Bool) (reason : PyVal)
  | txClosed
  | txWake
  | shutdown

/-- `asyncio.Queue.full()`: a size of zero or less is no bound. -/
def full {α : Type} (maxsize : Int) (queue : List α) : Bool :=
  decide (0 < maxsize) && decide (maxsize ≤ queue.length)

def createdIds (j : Journal) : List String :=
  j.filterMap fun
    | .created it => some it.id
    | _ => none

def dequeuedCount (j : Journal) : Nat :=
  j.countP fun
    | .dequeued => true
    | _ => false

/-- The transaction the extractor makes of a bundle. -/
def newTransaction (id : String) (bundle : StixBundle) (createdAtUnixMs : Int) :
    GatewayATransaction where
  transactionId := id
  stixBundle := bundle
  state := .validated
  createdAtUnixMs := createdAtUnixMs

def Item.compressed (compress : Bytes → Bytes) (it : Item) : Bytes :=
  compress it.tx.stixBundle.rawJson

/-- The transaction after the signer. -/
def Item.signedBy (p : Pipeline) (it : Item) (signature : Bytes) : Item :=
  { it with tx := { it.tx with
      stixBundleCompressed := some (it.compressed p.compress)
      signature := signature
      signerCertFingerprint := p.certFingerprint
      state := .signed } }

def Item.approved (it : Item) : Item := { it with tx := { it.tx with state := .policyApproved } }

/-- `self.pep.authorize(tlp, recipient_id)`, or the exception it raises. -/
def authorizeCall (p : Pipeline) (it : Item) : Option PyExc → Except PyExc (Bool × Option String)
  | some e => .error e
  | none => .ok (p.pep.authorize it.tx.stixBundle.tlpMarking it.tx.recipientId)

def State.setTx (s : State) (next : TxPc × Journal) : State :=
  { s with tx := next.1, journal := s.journal ++ next.2 }

/-- The signer from `get` to `put`. -/
def signTransaction (p : Pipeline) (s : State) (it : Item) (rest : List Item)
    (signature : Except PyExc Bytes) : State :=
  let call := Entry.sign it.id (it.compressed p.compress) signature
  match signature with
  | .error _ =>
    -- the exception is logged, and the transaction is nowhere
    { s with extractedQueue := rest, signer := .top, journal := s.journal ++ [call] }
  | .ok signature =>
    { s with
      extractedQueue := rest
      signer := .putting (it.signedBy p signature)
      journal := s.journal ++ [call, .setState it.id .signed] }

/-- The policy worker from `get` to `put`. -/
def evaluatePolicy (p : Pipeline) (s : State) (it : Item) (rest : List Item)
    (fault : Option PyExc) : State :=
  let result := authorizeCall p it fault
  let call := Entry.authorize it.id it.tx.stixBundle.tlpMarking it.tx.recipientId result
  match result with
  | .error _ => { s with signedQueue := rest, pep := .top, journal := s.journal ++ [call] }
  | .ok (true, _) =>
    { s with
      signedQueue := rest
      pep := .putting it.approved
      journal := s.journal ++ [call, .setState it.id .policyApproved] }
  | .ok (false, reason) =>
    { s with
      signedQueue := rest
      pep := .top
      journal := s.journal ++
        [call, .setState it.id .policyRejected, .deadLetter it.id (.policy reason)] }

/-- The extractor when the conversion has returned. -/
def finishConversion (s : State) (event : PyVal) (seq : Nat) (conv : Converter) (id : String)
    (createdAtUnixMs : Int) : Option State :=
  match convertAndValidate conv event with
  | .error _ => some { s with extractor := .top }
  | .ok none => some { s with extractor := .top }
  | .ok (some bundle) =>
    -- transaction ids are fresh UUIDs
    if (createdIds s.journal).contains id then none
    else
      let it : Item := ⟨newTransaction id bundle createdAtUnixMs, seq⟩
      some { s with
        extractor := .putting it
        journal := s.journal ++ [.created it, .setState it.id .validated] }

def step (p : Pipeline) (s : State) : Label → Option State
  | .receive event =>
    match s.listener with
    | .receiving => if s.running then some { s with listener := .putting event } else none
    | _ => none
  | .listenerPut =>
    match s.listener with
    | .putting event =>
      if full p.config.ingestionQueueMaxsize s.inQueue then none
      else some { s with listener := .receiving, inQueue := s.inQueue ++ [event] }
    | _ => none
  | .listenerStop =>
    match s.listener with
    | .receiving => if s.running then none else some { s with listener := .done }
    | _ => none
  | .extractorLoop =>
    match s.extractor with
    | .top => some { s with extractor := if s.running then .getting else .done }
    | _ => none
  | .extractorGet =>
    match s.extractor, s.inQueue with
    | .getting, event :: rest =>
      some { s with
        inQueue := rest
        extractor := .converting event (dequeuedCount s.journal)
        journal := s.journal ++ [.dequeued] }
    | _, _ => none
  | .extractorConvert conv id createdAtUnixMs =>
    match s.extractor with
    | .converting event seq => finishConversion s event seq conv id createdAtUnixMs
    | _ => none
  | .extractorPut =>
    match s.extractor with
    | .putting it =>
      if full p.config.extractedQueueMaxsize s.extractedQueue then none
      else some { s with extractor := .top, extractedQueue := s.extractedQueue ++ [it] }
    | _ => none
  | .signerLoop =>
    match s.signer with
    | .top => some { s with signer := if s.running then .getting else .done }
    | _ => none
  | .signerGet signature =>
    match s.signer, s.extractedQueue with
    | .getting, it :: rest => some (signTransaction p s it rest signature)
    | _, _ => none
  | .signerPut =>
    match s.signer with
    | .putting it =>
      if full p.config.signedQueueMaxsize s.signedQueue then none
      else some { s with signer := .top, signedQueue := s.signedQueue ++ [it] }
    | _ => none
  | .pepLoop =>
    match s.pep with
    | .top => some { s with pep := if s.running then .getting else .done }
    | _ => none
  | .pepGet fault =>
    match s.pep, s.signedQueue with
    | .getting, it :: rest => some (evaluatePolicy p s it rest fault)
    | _, _ => none
  | .pepPut =>
    match s.pep with
    | .putting it =>
      if full p.config.txQueueMaxsize s.txQueue then none
      else some { s with pep := .top, txQueue := s.txQueue ++ [it] }
    | _ => none
  | .txLoop =>
    match s.tx with
    | .top => some { s with tx := if s.running then .getting else .done }
    | _ => none
  | .txGet =>
    match s.tx, s.txQueue with
    | .getting, it :: rest =>
      let next := takeTransaction p.config it
      some ({ s with txQueue := rest }.setTx (next.1, .taken it :: next.2))
    | _, _ => none
  | .txOpened result =>
    match s.tx with
    | .opening it => some (s.setTx (afterOpen p.config it result))
    | _ => none
  | .txSent success reason =>
    match s.tx with
    | .sending it => some { s with tx := .closing it success reason }
    | _ => none
  | .txClosed =>
    match s.tx with
    | .closing it success reason =>
      let next := afterClose p.config it success reason
      some (s.setTx (next.1, .sessionClosed it.id :: next.2))
    | _ => none
  | .txWake =>
    match s.tx with
    | .sleeping it delay =>
      if sleepReturns delay then some (s.setTx (attempt p.config it)) else none
    | _ => none
  | .shutdown => some { s with running := false }

end QsTie.GatewayA
