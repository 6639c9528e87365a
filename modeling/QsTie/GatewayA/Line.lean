import QsTie.GatewayA.Pipeline

/-!
# The line of transactions

Read from the transmission back to the extractor, the hands and the queues of
Gateway A are one line of transactions in the order of their events.  A step
leaves the line alone, adds one at its end, changes one where it stands, or takes
one out (`step_effect`).  What it does to the transmission alone is `step_tx`.
The properties of whole runs rest on these two.
-/

namespace QsTie.GatewayA

open Lib

/-! ### The line of transactions -/

inductive Stage where
  | validated
  | signed
  | approved
  | sending
deriving DecidableEq

def ExtractorPc.held : ExtractorPc → List Item
  | .putting it => [it]
  | _ => []

def WorkerPc.held : WorkerPc → List Item
  | .putting it => [it]
  | _ => []

/-- The transactions that wait for the transmission. -/
def behind (s : State) : List (Stage × Item) :=
  (s.txQueue ++ s.pep.held).map (Prod.mk .approved) ++
    ((s.signedQueue ++ s.signer.held).map (Prod.mk .signed) ++
      (s.extractedQueue ++ s.extractor.held).map (Prod.mk .validated))

/-- All transactions in a hand or a queue, the one closest to Gateway B first, each with what
    has been done to it. -/
def line (s : State) : List (Stage × Item) := s.tx.held.map (Prod.mk .sending) ++ behind s

/-- The place in line that the event in conversion will have. -/
def State.converting (s : State) : Option Nat :=
  match s.extractor with
  | .converting _ seq => some seq
  | _ => none

/-! ### What a step can do -/

/-- Entries that change nothing about a transaction. -/
def Entry.quiet : Entry → Bool
  | .sessionOpened _ => true
  | .sessionClosed _ => true
  | .logTelemetry _ _ => true
  | .sleep _ => true
  | _ => false

/-- A transaction changes where it stands. -/
inductive Change (p : Pipeline) : Stage × Item → Stage × Item → Journal → Prop where
  | sign (it : Item) (signature : Bytes) :
    Change p (.validated, it) (.signed, it.signedBy p signature)
      [.sign it.id (it.compressed p.compress) (.ok signature), .setState it.id .signed]
  | approve (it : Item) (reason : Option String)
      (hauthorized :
        p.pep.authorize it.tx.stixBundle.tlpMarking it.tx.recipientId = (true, reason)) :
    Change p (.signed, it) (.approved, it.approved)
      [.authorize it.id it.tx.stixBundle.tlpMarking it.tx.recipientId (.ok (true, reason)),
        .setState it.id .policyApproved]

/-- A transaction is sent, for the first time or again. -/
inductive Attempt : Stage × Item → Item → Journal → Prop where
  | first (it : Item) :
    Attempt (.approved, it) it
      [.taken it, .setState it.id .sending, .openSession it.nextAttempt]
  | again (it : Item) :
    Attempt (.sending, it) it [.setState it.id .sending, .openSession it.nextAttempt]

/-- A transaction leaves the line for good: acknowledged, or dead-lettered. -/
inductive Settle (s : State) : Stage × Item → Journal → Prop where
  | rejected (it : Item) (tlp : TlpMarking) (recipientId : String) (reason : Option String) :
    Settle s (.signed, it) [.authorize it.id tlp recipientId (.ok (false, reason)),
      .setState it.id .policyRejected, .deadLetter it.id (.policy reason)]
  | unroutable (it : Item) :
    Settle s (.approved, it) (.taken it :: fail it .unknownRecipientRouting)
  | failed (it : Item) (es : Journal) (reason : DeadReason)
      (hquiet : ∀ e ∈ es, e.quiet = true) : Settle s (.sending, it) (es ++ fail it reason)
  | acked (it : Item) (reason : PyVal) (hclosing : s.tx = .closing it true reason) :
    Settle s (.sending, it)
      [.sessionClosed it.id, .setState it.id .acked, .logTelemetry it.id it.tx.retryCount]

/-- A transaction leaves the line without a trace. -/
inductive Lose : Stage × Item → Journal → Prop where
  | unsigned (it : Item) (payload : Bytes) (e : PyExc) :
    Lose (.validated, it) [.sign it.id payload (.error e)]
  | undecided (it : Item) (tlp : TlpMarking) (recipientId : String) (e : PyExc) :
    Lose (.signed, it) [.authorize it.id tlp recipientId (.error e)]
  | untaken (it : Item) : Lose (.approved, it) [.taken it]
  | dropped (it : Item) (es : Journal) (hquiet : ∀ e ∈ es, e.quiet = true) :
    Lose (.sending, it) es

/-- The routing, the attempts and the backoff of the recipient let a transaction be sent. -/
def GatewayAConfig.Routes (cfg : GatewayAConfig) (recipientId : String) : Prop :=
  cfg.route recipientId = .ok none ∨
    (∃ address, cfg.route recipientId = .ok (some address)) ∧
      (∃ base, cfg.baseDelay = .ok base) ∧ 0 < cfg.maxAttempts

/-- A failed attempt that is not the last has a delay that can be computed. -/
def GatewayAConfig.Waits (cfg : GatewayAConfig) (it : Item) : Prop :=
  (it.tx.retryCount : Int) < cfg.maxAttempts →
    ∃ delay, cfg.backoffDelay it.tx.retryCount = .ok delay

/-- The step does not meet an exception: the signer and the policy return, and the
    transmission finds a routing, an attempt and a backoff it can compute. -/
def Sound (p : Pipeline) (s : State) : Label → Prop
  | .signerGet signature => ∃ bytes, signature = .ok bytes
  | .pepGet fault => fault = none
  | .txGet => ∀ it ∈ s.txQueue.head?, p.config.Routes it.tx.recipientId
  | .txOpened (.error _) => ∀ it ∈ s.tx.held, p.config.Waits it
  | .txClosed => ∀ it reason, s.tx = .closing it false reason → isTransportFailure reason = true →
      p.config.Waits it
  | _ => True

/-- The sleep after this attempt, if there is one, ends. -/
def GatewayAConfig.Wakes (cfg : GatewayAConfig) (retryCount : Nat) : Prop :=
  (retryCount : Int) < cfg.maxAttempts →
    ∀ delay, cfg.backoffDelay retryCount = .ok delay → sleepReturns delay = true

/-- The step does not put the transmission to sleep for ever. -/
def SleepsEnd (p : Pipeline) (s : State) : Label → Prop
  | .txOpened (.error _) => ∀ it ∈ s.tx.held, p.config.Wakes it.tx.retryCount
  | .txClosed => ∀ it reason, s.tx = .closing it false reason → isTransportFailure reason = true →
      p.config.Wakes it.tx.retryCount
  | _ => True

/-- Every sleep ends. -/
def GatewayAConfig.Timely (cfg : GatewayAConfig) : Prop := ∀ retryCount, cfg.Wakes retryCount

theorem GatewayAConfig.Timely.sleepsEnd {p : Pipeline} (h : p.config.Timely) (s : State)
    (l : Label) : SleepsEnd p s l := by
  cases l with
  | txOpened result =>
    cases result with
    | error e => exact fun it _ => h it.tx.retryCount
    | ok _ => trivial
  | txClosed => exact fun it _ _ _ => h it.tx.retryCount
  | _ => trivial

/-- Nothing is attempted before it is taken, and a transaction sleeps only while an attempt
    is left. -/
structure Counted (p : Pipeline) (s : State) : Prop where
  waiting : ∀ x ∈ line s, x.1 ≠ .sending → x.2.tx.retryCount = 0
  sleeping : ∀ it delay, s.tx = .sleeping it delay →
    (it.tx.retryCount : Int) < p.config.maxAttempts

/-- The effect of a step that adds `es` to the journal. -/
inductive Effect (p : Pipeline) (s : State) (l : Label) (s' : State) : Journal → Prop where
  | still {es : Journal} (hline : line s' = line s) (hquiet : ∀ e ∈ es, e.quiet = true)
      (hconv : s'.converting = s.converting ∨ s'.converting = none) : Effect p s l s' es
  | dequeue (hline : line s' = line s)
      (hconv : s'.converting = some (dequeuedCount s.journal)) : Effect p s l s' [.dequeued]
  | enter (it : Item) (hconv : s.converting = some it.seq) (hconv' : s'.converting = none)
      (hfresh : it.id ∉ createdIds s.journal) (hnew : it.tx.retryCount = 0)
      (hline : line s' = line s ++ [(.validated, it)]) :
      Effect p s l s' [.created it, .setState it.id .validated]
  | change {before after : List (Stage × Item)} {x y : Stage × Item} {es : Journal}
      (hline : line s = before ++ x :: after) (hline' : line s' = before ++ y :: after)
      (hconv : s'.converting = s.converting) (hchange : Change p x y es) : Effect p s l s' es
  | attempt {after : List (Stage × Item)} {x : Stage × Item} {it : Item} {es : Journal}
      (hline : line s = x :: after) (hline' : line s' = (.sending, it.nextAttempt) :: after)
      (hconv : s'.converting = s.converting) (hattempt : Attempt x it es)
      (hleft : (it.tx.retryCount : Int) < p.config.maxAttempts) : Effect p s l s' es
  | settle {before after : List (Stage × Item)} {x : Stage × Item} {es : Journal}
      (hline : line s = before ++ x :: after) (hline' : line s' = before ++ after)
      (hconv : s'.converting = s.converting) (hhead : x.1 = .approved → before = [])
      (hsettle : Settle s x es) : Effect p s l s' es
  | lose {before after : List (Stage × Item)} {x : Stage × Item} {es : Journal}
      (hline : line s = before ++ x :: after) (hline' : line s' = before ++ after)
      (hconv : s'.converting = s.converting) (hhead : x.1 = .approved → before = [])
      (hlose : Lose x es)
      (hunsound : Counted p s → ¬ Sound p s l) : Effect p s l s' es

theorem mem_of_leave {before after : List (Stage × Item)} {x y : Stage × Item}
    (h : y ∈ before ++ after) : y ∈ before ++ x :: after :=
  ((List.Sublist.refl before).append (List.sublist_cons_self x after)).subset h

/-! ### The steps of the workers -/

section Effects

variable {p : Pipeline} {s s' : State} {l : Label}

theorem effect_extractorGet (h : step p s .extractorGet = some s') :
    ∃ es, s'.journal = s.journal ++ es ∧ Effect p s .extractorGet s' es := by
  simp only [step] at h
  split at h
  · rename_i event rest hpc hqueue
    obtain rfl : _ = s' := by simpa using h
    refine ⟨[.dequeued], rfl, .dequeue ?_ rfl⟩
    simp [line, behind, hpc, ExtractorPc.held]
  · simp at h

theorem effect_extractorConvert {conv : Converter} {id : String} {createdAtUnixMs : Int}
    (h : step p s (.extractorConvert conv id createdAtUnixMs) = some s') :
    ∃ es, s'.journal = s.journal ++ es ∧
      Effect p s (.extractorConvert conv id createdAtUnixMs) s' es := by
  simp only [step] at h
  split at h
  · rename_i event seq hpc
    simp only [finishConversion] at h
    split at h
    · obtain rfl : _ = s' := by simpa using h
      refine ⟨[], by simp, .still ?_ (by simp) (Or.inr rfl)⟩
      simp [line, behind, hpc, ExtractorPc.held]
    · obtain rfl : _ = s' := by simpa using h
      refine ⟨[], by simp, .still ?_ (by simp) (Or.inr rfl)⟩
      simp [line, behind, hpc, ExtractorPc.held]
    · rename_i bundle _
      split at h
      · simp at h
      · rename_i hfresh
        obtain rfl : _ = s' := by simpa using h
        refine ⟨_, rfl, .enter ⟨newTransaction id bundle createdAtUnixMs, seq⟩ ?_ rfl ?_ rfl ?_⟩
        · simp [State.converting, hpc]
        · have hnew : id ∉ createdIds s.journal := by simpa using hfresh
          exact hnew
        · simp [line, behind, hpc, ExtractorPc.held]
  · simp at h

theorem effect_signerGet {signature : Except PyExc Bytes}
    (h : step p s (.signerGet signature) = some s') :
    ∃ es, s'.journal = s.journal ++ es ∧ Effect p s (.signerGet signature) s' es := by
  simp only [step] at h
  split at h
  · rename_i it rest hpc hqueue
    obtain rfl : _ = s' := by simpa using h
    -- the transaction stands behind everything signed and in front of the rest
    have hline : line s = (s.tx.held.map (Prod.mk .sending) ++
        ((s.txQueue ++ s.pep.held).map (Prod.mk .approved) ++
          s.signedQueue.map (Prod.mk .signed))) ++ (.validated, it) ::
            (rest ++ s.extractor.held).map (Prod.mk .validated) := by
      simp [line, behind, hpc, hqueue, WorkerPc.held]
    simp only [signTransaction]
    cases signature with
    | error e =>
      refine ⟨_, rfl, .lose hline ?_ rfl (by simp) (.unsigned it _ e) ?_⟩
      · simp [line, behind, WorkerPc.held]
      · rintro _ ⟨bytes, hbytes⟩
        simp at hbytes
    | ok signature =>
      refine ⟨_, rfl, .change hline ?_ rfl (.sign it signature)⟩
      simp [line, behind, WorkerPc.held]
  · simp at h

theorem effect_pepGet {fault : Option PyExc} (h : step p s (.pepGet fault) = some s') :
    ∃ es, s'.journal = s.journal ++ es ∧ Effect p s (.pepGet fault) s' es := by
  simp only [step] at h
  split at h
  · rename_i it rest hpc hqueue
    obtain rfl : _ = s' := by simpa using h
    have hline : line s = (s.tx.held.map (Prod.mk .sending) ++
        s.txQueue.map (Prod.mk .approved)) ++ (.signed, it) ::
          ((rest ++ s.signer.held).map (Prod.mk .signed) ++
            (s.extractedQueue ++ s.extractor.held).map (Prod.mk .validated)) := by
      simp [line, behind, hpc, hqueue, WorkerPc.held]
    simp only [evaluatePolicy]
    cases hresult : authorizeCall p it fault with
    | error e =>
      refine ⟨_, rfl, .lose hline ?_ rfl (by simp) (.undecided it _ _ e) ?_⟩
      · simp [line, behind, WorkerPc.held]
      · intro _ hnone
        cases hnone
        simp [authorizeCall] at hresult
    | ok decision =>
      obtain ⟨authorized, reason⟩ := decision
      cases authorized with
      | true =>
        have hauthorized : p.pep.authorize it.tx.stixBundle.tlpMarking it.tx.recipientId =
            (true, reason) := by
          cases fault with
          | some e => simp [authorizeCall] at hresult
          | none => simpa [authorizeCall] using hresult
        refine ⟨_, rfl, .change hline ?_ rfl (.approve it reason hauthorized)⟩
        simp [line, behind, WorkerPc.held]
      | false =>
        refine ⟨_, rfl, .settle hline ?_ rfl (by simp) (.rejected it _ _ reason)⟩
        simp [line, behind, WorkerPc.held]
  · simp at h

theorem line_setTx (next : TxPc × Journal) :
    line (s.setTx next) = next.1.held.map (Prod.mk .sending) ++ behind s := rfl

theorem attempt_cases (cfg : GatewayAConfig) (it : Item) :
    (it.tx.retryCount : Int) < cfg.maxAttempts ∧ attempt cfg it =
      (.opening it.nextAttempt, [.setState it.id .sending, .openSession it.nextAttempt]) ∨
    ¬ (it.tx.retryCount : Int) < cfg.maxAttempts ∧ attempt cfg it = (.top, []) := by
  simp only [attempt]
  by_cases hleft : (it.tx.retryCount : Int) < cfg.maxAttempts
  · left; exact ⟨hleft, if_pos hleft⟩
  · right; exact ⟨hleft, if_neg hleft⟩

theorem retryOrFail_cases (cfg : GatewayAConfig) (it : Item) :
    (∃ delay, (it.tx.retryCount : Int) < cfg.maxAttempts ∧
      cfg.backoffDelay it.tx.retryCount = .ok delay ∧
      retryOrFail cfg it = (.sleeping it delay, [.sleep delay])) ∨
    retryOrFail cfg it = (.top, fail it .maxRetriesExceeded) ∨
    ¬ cfg.Waits it ∧ retryOrFail cfg it = (.top, []) := by
  simp only [retryOrFail]
  by_cases hleft : (it.tx.retryCount : Int) < cfg.maxAttempts
  · rw [if_pos hleft]
    cases hdelay : cfg.backoffDelay it.tx.retryCount with
    | error e =>
      right; right
      refine ⟨?_, rfl⟩
      intro hwaits
      obtain ⟨delay, hok⟩ := hwaits hleft
      rw [hdelay] at hok
      simp at hok
    | ok delay => left; exact ⟨delay, hleft, rfl, rfl⟩
  · rw [if_neg hleft]
    right; left; rfl

/-- A failed attempt keeps the transaction at the head of the line or takes it off. -/
theorem effect_retryOrFail {it : Item} {es : Journal} (hheld : s.tx.held = [it])
    (hquiet : ∀ e ∈ es, e.quiet = true)
    (hsound : Sound p s l → p.config.Waits it) :
    Effect p s l
      (s.setTx ((retryOrFail p.config it).1, es ++ (retryOrFail p.config it).2))
      (es ++ (retryOrFail p.config it).2) := by
  have hline : line s = [] ++ (.sending, it) :: behind s := by simp [line, hheld]
  rcases retryOrFail_cases p.config it with
    ⟨delay, _, _, hretry⟩ | hretry | ⟨hstuck, hretry⟩
  · rw [hretry]
    refine .still ?_ ?_ (Or.inl rfl)
    · rw [line_setTx, hline]; rfl
    · intro entry hentry
      rcases List.mem_append.mp hentry with hentry | hentry
      · exact hquiet entry hentry
      · rw [List.mem_singleton.mp hentry]; rfl
  · rw [hretry]
    exact .settle hline rfl rfl (fun _ => rfl) (.failed it es _ hquiet)
  · rw [hretry, List.append_nil]
    refine .lose hline rfl rfl (fun _ => rfl) (.dropped it es hquiet) ?_
    intro _ hs
    exact hstuck (hsound hs)

theorem effect_txGet (h : step p s .txGet = some s') :
    ∃ es, s'.journal = s.journal ++ es ∧ Effect p s .txGet s' es := by
  simp only [step] at h
  split at h
  · rename_i it rest hpc hqueue
    obtain rfl : _ = s' := by simpa using h
    refine ⟨_, rfl, ?_⟩
    have hline : line s = [] ++ (.approved, it) :: behind { s with txQueue := rest } := by
      simp [line, behind, hpc, hqueue, TxPc.held]
    have hcount : Counted p s → it.tx.retryCount = 0 := by
      intro hcounted
      refine hcounted.waiting (.approved, it) ?_ (by simp)
      rw [hline]
      simp
    have hsound : Sound p s .txGet → p.config.Routes it.tx.recipientId := by
      intro hs
      exact hs it (by simp [hqueue])
    simp only [takeTransaction]
    cases hroute : p.config.route it.tx.recipientId with
    | error e =>
      refine .lose hline rfl rfl (fun _ => rfl) (.untaken it) ?_
      intro _ hs
      rcases hsound hs with hnone | ⟨⟨address, hsome⟩, _⟩
      · rw [hroute] at hnone; simp at hnone
      · rw [hroute] at hsome; simp at hsome
    | ok address =>
      cases address with
      | none => exact .settle hline rfl rfl (fun _ => rfl) (.unroutable it)
      | some address =>
        simp only
        cases hbase : p.config.baseDelay with
        | error e =>
          refine .lose hline rfl rfl (fun _ => rfl) (.untaken it) ?_
          intro _ hs
          rcases hsound hs with hnone | ⟨_, ⟨base, hok⟩, _⟩
          · rw [hroute] at hnone; simp at hnone
          · rw [hbase] at hok; simp at hok
        | ok base =>
          simp only
          rcases attempt_cases p.config it with ⟨hleft, hattempt⟩ | ⟨hnone, hattempt⟩
          · rw [hattempt]
            exact .attempt hline rfl rfl (.first it) hleft
          · rw [hattempt]
            refine .lose hline rfl rfl (fun _ => rfl) (.untaken it) ?_
            intro hcounted hs
            rcases hsound hs with hroute' | ⟨_, _, hpos⟩
            · rw [hroute] at hroute'; simp at hroute'
            · rw [hcount hcounted] at hnone
              exact hnone (by simpa using hpos)
  · simp at h

theorem effect_txOpened {result : Except PyExc Unit}
    (h : step p s (.txOpened result) = some s') :
    ∃ es, s'.journal = s.journal ++ es ∧ Effect p s (.txOpened result) s' es := by
  simp only [step] at h
  split at h
  · rename_i it hpc
    obtain rfl : _ = s' := by simpa using h
    refine ⟨_, rfl, ?_⟩
    have hheld : s.tx.held = [it] := by simp [hpc, TxPc.held]
    cases result with
    | error e =>
      have heffect := @effect_retryOrFail p s (.txOpened (.error e)) it [] hheld (by simp)
        (fun hs => hs it (by simp [hheld]))
      simpa [afterOpen] using heffect
    | ok _ =>
      refine .still ?_ ?_ (Or.inl rfl)
      · rw [line_setTx, line, hheld]; rfl
      · intro entry hentry
        rw [List.mem_singleton.mp hentry]; rfl
  · simp at h

theorem effect_txClosed (h : step p s .txClosed = some s') :
    ∃ es, s'.journal = s.journal ++ es ∧ Effect p s .txClosed s' es := by
  simp only [step] at h
  split at h
  · rename_i it success reason hpc
    obtain rfl : _ = s' := by simpa using h
    refine ⟨_, rfl, ?_⟩
    have hheld : s.tx.held = [it] := by simp [hpc, TxPc.held]
    have hline : line s = [] ++ (.sending, it) :: behind s := by simp [line, hheld]
    have hclosed : ∀ e ∈ [Entry.sessionClosed it.id], e.quiet = true := by
      intro entry hentry
      rw [List.mem_singleton.mp hentry]; rfl
    simp only [afterClose]
    cases success with
    | true => exact .settle hline rfl rfl (fun _ => rfl) (.acked it reason hpc)
    | false =>
      simp only [Bool.false_eq_true, if_false]
      split
      · rename_i htransport
        exact effect_retryOrFail hheld hclosed fun hs => hs it reason hpc htransport
      · exact .settle hline rfl rfl (fun _ => rfl)
          (.failed it [.sessionClosed it.id] (.nack reason) hclosed)
  · simp at h

/-- A worker that wakes slept for a while that ends. -/
theorem wake_of_step (h : step p s .txWake = some s') :
    ∃ it delay, s.tx = .sleeping it delay ∧ sleepReturns delay = true ∧
      s' = s.setTx (attempt p.config it) := by
  simp only [step] at h
  split at h
  · rename_i it delay hpc
    split at h
    · rename_i hreturns
      exact ⟨it, delay, hpc, hreturns, (Option.some.inj h).symm⟩
    · simp at h
  · simp at h

theorem effect_txWake (h : step p s .txWake = some s') :
    ∃ es, s'.journal = s.journal ++ es ∧ Effect p s .txWake s' es := by
  obtain ⟨it, delay, hpc, -, rfl⟩ := wake_of_step h
  refine ⟨_, rfl, ?_⟩
  have hline : line s = [] ++ (.sending, it) :: behind s := by simp [line, hpc, TxPc.held]
  rcases attempt_cases p.config it with ⟨hleft, hattempt⟩ | ⟨hnone, hattempt⟩
  · rw [hattempt]
    exact .attempt hline rfl rfl (.again it) hleft
  · rw [hattempt]
    exact .lose hline rfl rfl (fun _ => rfl) (.dropped it [] (by simp)) fun hcounted _ =>
      hnone (hcounted.sleeping it delay hpc)

/-- A step that moves a transaction from a hand to a queue, or nothing at all. -/
theorem effect_still (hjournal : s'.journal = s.journal) (hline : line s' = line s)
    (hconv : s'.converting = s.converting ∨ s'.converting = none) :
    ∃ es, s'.journal = s.journal ++ es ∧ Effect p s l s' es :=
  ⟨[], by simp [hjournal], .still hline (by simp) hconv⟩

/-- **What a step can do.** -/
theorem step_effect (h : step p s l = some s') :
    ∃ es, s'.journal = s.journal ++ es ∧ Effect p s l s' es := by
  cases l with
  | receive event =>
    simp only [step] at h
    split at h
    · split at h
      · obtain rfl : _ = s' := by simpa using h
        exact effect_still rfl rfl (Or.inl rfl)
      · simp at h
    · simp at h
  | listenerPut =>
    simp only [step] at h
    split at h
    · split at h
      · simp at h
      · obtain rfl : _ = s' := by simpa using h
        exact effect_still rfl rfl (Or.inl rfl)
    · simp at h
  | listenerStop =>
    simp only [step] at h
    split at h
    · split at h
      · simp at h
      · obtain rfl : _ = s' := by simpa using h
        exact effect_still rfl rfl (Or.inl rfl)
    · simp at h
  | extractorLoop =>
    simp only [step] at h
    split at h
    · rename_i hpc
      obtain rfl : _ = s' := by simpa using h
      refine effect_still rfl ?_ ?_
      · cases hrun : s.running <;> simp [line, behind, hpc, ExtractorPc.held]
      · right
        cases hrun : s.running <;> simp [State.converting]
    · simp at h
  | extractorGet => exact effect_extractorGet h
  | extractorConvert conv id createdAtUnixMs => exact effect_extractorConvert h
  | extractorPut =>
    simp only [step] at h
    split at h
    · rename_i it hpc
      split at h
      · simp at h
      · obtain rfl : _ = s' := by simpa using h
        refine effect_still rfl ?_ ?_
        · simp [line, behind, hpc, ExtractorPc.held]
        · right; rfl
    · simp at h
  | signerLoop =>
    simp only [step] at h
    split at h
    · rename_i hpc
      obtain rfl : _ = s' := by simpa using h
      refine effect_still rfl ?_ (Or.inl rfl)
      cases hrun : s.running <;> simp [line, behind, hpc, WorkerPc.held]
    · simp at h
  | signerGet signature => exact effect_signerGet h
  | signerPut =>
    simp only [step] at h
    split at h
    · rename_i it hpc
      split at h
      · simp at h
      · obtain rfl : _ = s' := by simpa using h
        refine effect_still rfl ?_ (Or.inl rfl)
        simp [line, behind, hpc, WorkerPc.held]
    · simp at h
  | pepLoop =>
    simp only [step] at h
    split at h
    · rename_i hpc
      obtain rfl : _ = s' := by simpa using h
      refine effect_still rfl ?_ (Or.inl rfl)
      cases hrun : s.running <;> simp [line, behind, hpc, WorkerPc.held]
    · simp at h
  | pepGet fault => exact effect_pepGet h
  | pepPut =>
    simp only [step] at h
    split at h
    · rename_i it hpc
      split at h
      · simp at h
      · obtain rfl : _ = s' := by simpa using h
        refine effect_still rfl ?_ (Or.inl rfl)
        simp [line, behind, hpc, WorkerPc.held]
    · simp at h
  | txLoop =>
    simp only [step] at h
    split at h
    · rename_i hpc
      obtain rfl : _ = s' := by simpa using h
      refine effect_still rfl ?_ (Or.inl rfl)
      cases hrun : s.running <;> simp [line, behind, hpc, TxPc.held]
    · simp at h
  | txGet => exact effect_txGet h
  | txOpened result => exact effect_txOpened h
  | txSent success reason =>
    simp only [step] at h
    split at h
    · rename_i it hpc
      obtain rfl : _ = s' := by simpa using h
      refine effect_still rfl ?_ (Or.inl rfl)
      simp [line, behind, hpc, TxPc.held]
    · simp at h
  | txClosed => exact effect_txClosed h
  | txWake => exact effect_txWake h
  | shutdown =>
    obtain rfl : _ = s' := by simpa [step] using h
    exact effect_still rfl rfl (Or.inl rfl)

/-- Where the transactions in line come from. -/
theorem Effect.mem_line {es : Journal} {y : Stage × Item} (h : Effect p s l s' es)
    (hy : y ∈ line s') :
    y ∈ line s ∨
      (∃ it, y = (.validated, it) ∧ it.tx.retryCount = 0 ∧
        es = [.created it, .setState it.id .validated]) ∨
      (∃ x ∈ line s, Change p x y es) ∨
      ∃ x ∈ line s, ∃ it, Attempt x it es ∧ y = (.sending, it.nextAttempt) := by
  cases h with
  | still hline _ _ => left; exact hline ▸ hy
  | dequeue hline _ => left; exact hline ▸ hy
  | enter it _ _ _ hnew hline =>
    rw [hline] at hy
    rcases List.mem_append.mp hy with hy | hy
    · left; exact hy
    · right; left
      exact ⟨it, List.mem_singleton.mp hy, hnew, rfl⟩
  | @change before after x y₀ es hline hline' _ hchange =>
    rw [hline'] at hy
    rw [hline]
    simp only [List.mem_append, List.mem_cons] at hy ⊢
    rcases hy with hy | rfl | hy
    · left; exact Or.inl hy
    · right; right; left
      exact ⟨x, Or.inr (Or.inl rfl), hchange⟩
    · left; exact Or.inr (Or.inr hy)
  | @attempt after x it es hline hline' _ hattempt _ =>
    rw [hline'] at hy
    rw [hline]
    rcases List.mem_cons.mp hy with hy | hy
    · right; right; right
      exact ⟨x, List.mem_cons_self, it, hattempt, hy⟩
    · left; exact List.mem_cons_of_mem _ hy
  | settle hline hline' _ _ _ =>
    left
    rw [hline'] at hy
    rw [hline]
    exact mem_of_leave hy
  | lose hline hline' _ _ _ _ =>
    left
    rw [hline'] at hy
    rw [hline]
    exact mem_of_leave hy

/-! ### The transmission alone -/

def Label.isTx : Label → Bool
  | .txLoop => true
  | .txGet => true
  | .txOpened _ => true
  | .txSent _ _ => true
  | .txClosed => true
  | .txWake => true
  | _ => false

/-- The places of the transmission before and after a step, and what it adds to the
    journal. -/
inductive TxMove (cfg : GatewayAConfig) : Label → TxPc → TxPc → Journal → Prop where
  | other {l : Label} {pc : TxPc} {es : Journal} (hl : l.isTx = false) : TxMove cfg l pc pc es
  | loop {pc : TxPc} (hpc : pc = .getting ∨ pc = .done) : TxMove cfg .txLoop .top pc []
  | take (it : Item) : TxMove cfg .txGet .getting (takeTransaction cfg it).1
      (.taken it :: (takeTransaction cfg it).2)
  | opened (it : Item) (result : Except PyExc Unit) : TxMove cfg (.txOpened result)
      (.opening it) (afterOpen cfg it result).1 (afterOpen cfg it result).2
  | sent (it : Item) (success : Bool) (reason : PyVal) :
      TxMove cfg (.txSent success reason) (.sending it) (.closing it success reason) []
  | closed (it : Item) (success : Bool) (reason : PyVal) : TxMove cfg .txClosed
      (.closing it success reason) (afterClose cfg it success reason).1
      (.sessionClosed it.id :: (afterClose cfg it success reason).2)
  | wake (it : Item) (delay : Rounded) :
      TxMove cfg .txWake (.sleeping it delay) (attempt cfg it).1 (attempt cfg it).2

theorem tx_of_step (hstep : step p s l = some s') (hl : l.isTx = false) : s'.tx = s.tx := by
  cases l with
  | txLoop | txGet | txClosed | txWake => simp [Label.isTx] at hl
  | txOpened _ => simp [Label.isTx] at hl
  | txSent _ _ => simp [Label.isTx] at hl
  | signerGet signature =>
    simp only [step] at hstep
    split at hstep
    · obtain rfl : _ = s' := by simpa using hstep
      cases signature <;> rfl
    · simp at hstep
  | pepGet fault =>
    simp only [step] at hstep
    split at hstep
    · rename_i it rest _ _
      obtain rfl : _ = s' := by simpa using hstep
      simp only [evaluatePolicy]
      split <;> rfl
    · simp at hstep
  | extractorConvert conv id createdAtUnixMs =>
    simp only [step, finishConversion] at hstep
    repeat' split at hstep
    all_goals cases hstep
    all_goals rfl
  | _ =>
    simp only [step] at hstep
    repeat' split at hstep
    all_goals cases hstep
    all_goals rfl

/-- **What a step does to the transmission.** -/
theorem step_tx (hstep : step p s l = some s') :
    ∃ es, s'.journal = s.journal ++ es ∧ TxMove p.config l s.tx s'.tx es := by
  cases l with
  | txLoop =>
    simp only [step] at hstep
    split at hstep
    · rename_i hpc
      obtain rfl : _ = s' := by simpa using hstep
      refine ⟨[], by simp, ?_⟩
      rw [hpc]
      apply TxMove.loop
      cases hrun : s.running <;> simp
    · simp at hstep
  | txGet =>
    simp only [step] at hstep
    split at hstep
    · rename_i it rest hpc _
      obtain rfl : _ = s' := by simpa using hstep
      refine ⟨_, rfl, ?_⟩
      rw [hpc]
      exact .take it
    · simp at hstep
  | txOpened result =>
    simp only [step] at hstep
    split at hstep
    · rename_i it hpc
      obtain rfl : _ = s' := by simpa using hstep
      refine ⟨_, rfl, ?_⟩
      rw [hpc]
      exact .opened it result
    · simp at hstep
  | txSent success reason =>
    simp only [step] at hstep
    split at hstep
    · rename_i it hpc
      obtain rfl : _ = s' := by simpa using hstep
      refine ⟨[], by simp, ?_⟩
      rw [hpc]
      exact .sent it success reason
    · simp at hstep
  | txClosed =>
    simp only [step] at hstep
    split at hstep
    · rename_i it success reason hpc
      obtain rfl : _ = s' := by simpa using hstep
      refine ⟨_, rfl, ?_⟩
      rw [hpc]
      exact .closed it success reason
    · simp at hstep
  | txWake =>
    obtain ⟨it, delay, hpc, -, rfl⟩ := wake_of_step hstep
    refine ⟨_, rfl, ?_⟩
    rw [hpc]
    exact .wake it delay
  | _ =>
    obtain ⟨es, hjournal, _⟩ := step_effect hstep
    refine ⟨es, hjournal, ?_⟩
    rw [tx_of_step hstep rfl]
    exact .other rfl

/-- A transaction is taken up or dropped at once. -/
theorem takeTransaction_cases (cfg : GatewayAConfig) (it : Item) :
    takeTransaction cfg it = attempt cfg it ∨ (takeTransaction cfg it).1 = .top := by
  simp only [takeTransaction]
  split
  · right; rfl
  · right; rfl
  · split
    · right; rfl
    · left; rfl

/-- No session is open. -/
def TxPc.apart : TxPc → Bool
  | .sending _ => false
  | .closing _ _ _ => false
  | _ => true

theorem apart_attempt (cfg : GatewayAConfig) (it : Item) : (attempt cfg it).1.apart = true := by
  rcases attempt_cases cfg it with ⟨_, h⟩ | ⟨_, h⟩ <;> rw [h] <;> rfl

theorem apart_retryOrFail (cfg : GatewayAConfig) (it : Item) :
    (retryOrFail cfg it).1.apart = true := by
  rcases retryOrFail_cases cfg it with ⟨_, _, _, h⟩ | h | ⟨_, h⟩ <;> rw [h] <;> rfl

/-- A session is opened from `opening` and ends in `closing`. -/
theorem TxMove.session {cfg : GatewayAConfig} {l : Label} {pc pc' : TxPc} {es : Journal}
    (h : TxMove cfg l pc pc' es) (hopen : pc'.apart = false) :
    pc' = pc ∨ (∃ it, l = .txOpened (.ok ()) ∧ pc = .opening it ∧ pc' = .sending it) ∨
      ∃ it success reason, l = .txSent success reason ∧ pc = .sending it ∧
        pc' = .closing it success reason := by
  cases h with
  | other hl => left; rfl
  | loop hpc => rcases hpc with rfl | rfl <;> simp [TxPc.apart] at hopen
  | take it =>
    rcases takeTransaction_cases cfg it with htake | htake
    · rw [htake, apart_attempt] at hopen
      simp at hopen
    · rw [htake] at hopen
      simp [TxPc.apart] at hopen
  | opened it result =>
    cases result with
    | error e =>
      rw [afterOpen, apart_retryOrFail] at hopen
      simp at hopen
    | ok _ => right; left; exact ⟨it, rfl, rfl, rfl⟩
  | sent it success reason => right; right; exact ⟨it, success, reason, rfl, rfl, rfl⟩
  | closed it success reason =>
    simp only [afterClose] at hopen
    split at hopen
    · simp [TxPc.apart] at hopen
    · split at hopen
      · rw [apart_retryOrFail] at hopen
        simp at hopen
      · simp [TxPc.apart] at hopen
  | wake it delay =>
    rw [apart_attempt] at hopen
    simp at hopen

end Effects

end QsTie.GatewayA
