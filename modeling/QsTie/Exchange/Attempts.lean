import Mathlib.Algebra.Order.BigOperators.Group.List
import QsTie.Exchange.Agreement

/-!
# How often a transaction is ingested

Gateway B keeps nothing from one connection to the next.  It ingests at most once
for each connection, and Gateway A opens at most one for each attempt, so a
transaction is ingested at most as often as it was attempted, which is bounded by
`max_attempts`.  No better bound holds: an ACK that comes too late makes Gateway A
send again what Gateway B has taken in.
-/

namespace QsTie.Exchange

open QsTie.Lib QsTie.GatewayA QsTie.GatewayB

/-! ### Attempts of Gateway A -/

/-- The attempts to send a transaction. -/
def attempts (id : String) (j : Journal) : Nat := (statesOf id j).count .sending

@[simp] theorem attempts_append (id : String) (j es : Journal) :
    attempts id (j ++ es) = attempts id j + attempts id es := by
  simp [attempts]

theorem attempts_le {p : Pipeline} {s s' : State} {l : Label}
    (hstep : GatewayA.step p s l = some s') (id : String) :
    attempts id s.journal ≤ attempts id s'.journal := by
  obtain ⟨es, hjournal, _⟩ := step_effect hstep
  rw [hjournal, attempts_append]
  exact Nat.le_add_right _ _

/-- Nothing but an attempt counts as one. -/
theorem attempts_of_effect {p : Pipeline} {s s' : State} {l : Label} {es : Journal}
    (h : Effect p s l s' es) (id : String) :
    attempts id es = 0 ∨ attempts id es = 1 ∧ ∃ stage it, (stage, it) ∈ line s ∧
      (stage = .approved ∨ stage = .sending) ∧ it.id = id ∧
      (it.tx.retryCount : Int) < p.config.maxAttempts := by
  cases h with
  | still _ hquiet _ =>
    left
    simp [attempts, (keys_of_quiet hquiet).2.2]
  | dequeue _ _ => left; rfl
  | enter it _ _ _ _ _ =>
    left
    by_cases hid : it.id = id <;> simp [attempts, statesOf, hid]
  | change _ _ _ hchange =>
    left
    cases hchange with
    | sign it signature => by_cases hid : it.id = id <;> simp [attempts, statesOf, hid]
    | approve it reason _ => by_cases hid : it.id = id <;> simp [attempts, statesOf, hid]
  | @attempt after x it es hline _ _ hattempt hleft =>
    by_cases hid : it.id = id
    · right
      refine ⟨by cases hattempt <;> simp [attempts, statesOf, hid], x.1, it, ?_, ?_, hid, hleft⟩
      · cases hattempt <;> (rw [hline]; exact List.mem_cons_self)
      · cases hattempt <;> simp
    · left
      cases hattempt <;> simp [attempts, statesOf, hid]
  | settle _ _ _ _ hsettle =>
    left
    cases hsettle with
    | rejected it tlp recipientId reason =>
      by_cases hid : it.id = id <;> simp [attempts, statesOf, hid]
    | unroutable it => by_cases hid : it.id = id <;> simp [attempts, statesOf, fail, hid]
    | acked it reason _ => by_cases hid : it.id = id <;> simp [attempts, statesOf, hid]
    | failed it es reason hquiet =>
      have hsilent : attempts id es = 0 := by simp [attempts, (keys_of_quiet hquiet).2.2]
      rw [attempts_append, hsilent]
      by_cases hid : it.id = id <;> simp [attempts, statesOf, fail, hid]
  | lose _ _ _ _ hlose _ =>
    left
    simp [attempts, statesOf_of_lose hlose]

/-- The attempts of a transaction stay within `max_attempts`. -/
theorem attempts_bounded {p : Pipeline} {s : State}
    (hreach : Reach (GatewayA.step p) anyStep State.init s) (id : String) :
    attempts id s.journal = 0 ∨ (attempts id s.journal : Int) ≤ p.config.maxAttempts := by
  apply @Reach.invariant_of_reach _ _ _ _ _ _
    (fun s => attempts id s.journal = 0 ∨ (attempts id s.journal : Int) ≤ p.config.maxAttempts)
    hreach
  · left; rfl
  · intro s s' l hbefore h _ hstep
    obtain ⟨es, hjournal, heffect⟩ := step_effect hstep
    rw [hjournal, attempts_append]
    rcases attempts_of_effect heffect id with hnone | ⟨hone, stage, it, hit, hstage, rfl, hleft⟩
    · rw [hnone, Nat.add_zero]
      exact h
    · right
      -- the attempts so far are the ones the transaction counts
      have hcount : attempts it.id s.journal = it.tx.retryCount := by
        have hpath := (traced_of_reach hbefore).staged.inLine (stage, it) hit
        rw [attempts, hpath]
        rcases hstage with rfl | rfl <;> simp [Stage.path]
      rw [hone, hcount]
      push_cast
      omega

/-- The session that is being opened for the transaction. -/
def pending (id : String) : TxPc → Nat
  | .opening it => if it.id = id then 1 else 0
  | _ => 0

theorem pending_attempt (cfg : GatewayAConfig) (it : Item) (id : String) :
    pending id (attempt cfg it).1 ≤ attempts id (attempt cfg it).2 := by
  rcases attempt_cases cfg it with ⟨_, h⟩ | ⟨_, h⟩
  · rw [h]
    by_cases hid : it.id = id
    · simp [pending, attempts, statesOf, Item.nextAttempt, hid]
    · simp [pending, Item.nextAttempt, hid]
  · rw [h]
    exact Nat.zero_le _

theorem pending_retryOrFail (cfg : GatewayAConfig) (it : Item) (id : String) :
    pending id (retryOrFail cfg it).1 = 0 := by
  rcases retryOrFail_cases cfg it with ⟨_, _, _, h⟩ | h | ⟨_, h⟩ <;> rw [h] <;> rfl

/-- A session is opened only for a new attempt. -/
theorem pending_of_step {p : Pipeline} {s s' : State} {l : Label}
    (hstep : GatewayA.step p s l = some s') (id : String) :
    pending id s'.tx + attempts id s.journal ≤ pending id s.tx + attempts id s'.journal := by
  obtain ⟨es, hjournal, hmove⟩ := step_tx hstep
  have hgrow : attempts id s'.journal = attempts id s.journal + attempts id es := by
    rw [hjournal, attempts_append]
  have hnone : pending id s'.tx = 0 →
      pending id s'.tx + attempts id s.journal ≤ pending id s.tx + attempts id s'.journal := by
    omega
  generalize hpc : s.tx = pc at hmove hnone ⊢
  generalize hpc' : s'.tx = pc' at hmove hnone ⊢
  cases hmove with
  | other _ => omega
  | loop h => rcases h with rfl | rfl <;> exact hnone rfl
  | take it =>
    rcases takeTransaction_cases p.config it with htake | htake
    · have hattempt := pending_attempt p.config it id
      rw [htake] at hgrow ⊢
      have hcons : attempts id (.taken it :: (attempt p.config it).2) =
          attempts id (attempt p.config it).2 := rfl
      omega
    · exact hnone (by rw [htake]; rfl)
  | opened it result =>
    cases result with
    | error e => exact hnone (pending_retryOrFail p.config it id)
    | ok _ => exact hnone rfl
  | sent it success reason => exact hnone rfl
  | closed it success reason =>
    apply hnone
    simp only [afterClose]
    split
    · rfl
    · split
      · exact pending_retryOrFail p.config it id
      · rfl
  | wake it =>
    have hattempt := pending_attempt p.config it id
    omega

/-! ### Connections -/

/-- The connections opened for a transaction. -/
def connections (id : String) (links : List Link) : Nat :=
  links.countP fun link => link.item.id == id

/-- **A connection is opened only for an attempt of its own.** -/
theorem connections_le_attempts {sys : System} {w : World}
    (hreach : Reach sys.step anyStep World.init w) (id : String) :
    connections id w.links + pending id w.a.tx ≤ attempts id w.a.journal := by
  apply @Reach.invariant _ _ _ _ _ _
    (fun w => connections id w.links + pending id w.a.tx ≤ attempts id w.a.journal) hreach
  · exact Nat.le_refl 0
  · intro w w' m h _ hstep
    cases moved_of_step hstep with
    | pipeline l _ hstepA hlinks =>
      have hpending := pending_of_step hstepA id
      rw [hlinks]
      omega
    | connect it peerFingerprint hopening hstepA hlinks =>
      have hgrow := attempts_le hstepA id
      have hafter : pending id w'.a.tx = 0 := by
        simp only [GatewayA.step, hopening] at hstepA
        rw [← Option.some.inj hstepA]
        rfl
      have hcount : connections id w'.links = pending id w.a.tx + connections id w.links := by
        rw [hlinks, connections, List.countP_cons, hopening]
        by_cases hid : it.id = id
        · simp [pending, Link.connect, connections, hid, Nat.add_comm]
        · simp [pending, Link.connect, connections, hid]
      rw [hafter, hcount]
      omega
    | returned _ _ _ _ _ _ hstepA hlinks =>
      have hpending := pending_of_step hstepA id
      rw [hlinks]
      omega
    | link before link link' after hsame hlinks hlinks' hkept =>
      have hcount : connections id w'.links = connections id w.links := by
        simp only [connections, hlinks, hlinks', List.countP_append, List.countP_cons, hkept.item]
      rw [hsame, hcount]
      exact h

/-! ### Ingestions -/

/-- A call of the ingestor that returned `True`. -/
def tookIn (ev : Event Call Call.Ret) : Bool :=
  match ev with
  | ⟨.ingestBundle _, r⟩ => r
  | _ => false

def ingestedTrue (h : History) : Nat := h.countP tookIn

theorem tookIn_le (ev : Event Call Call.Ret) :
    (if tookIn ev = true then 1 else 0) ≤ ingestCost ev.op := by
  obtain ⟨op, r⟩ := ev
  cases op with
  | ingestBundle b =>
    have hone : (if tookIn ⟨.ingestBundle b, r⟩ = true then 1 else 0) ≤ 1 := by split <;> omega
    exact hone
  | _ => exact Nat.le_refl 0

theorem ingestedTrue_le (h : History) :
    ingestedTrue h ≤ (h.map fun ev => ingestCost ev.op).sum := by
  induction h with
  | nil => exact Nat.le_refl 0
  | cons ev h ih =>
    have hev := tookIn_le ev
    simp only [ingestedTrue] at ih ⊢
    rw [List.countP_cons, List.map_cons, List.sum_cons]
    omega

/-- The id of the envelope that Gateway B read on a connection. -/
def Link.envelopeId (sys : System) (link : Link) : Option String :=
  match frameCodec.decodeFrameStream link.delivered with
  | .ok (some ((.signedBundle, payload), [])) =>
    match TransactionEnvelope.fromBytes sys.gateway.protobuf payload with
    | .ok env => some env.transactionId
    | .error _ => none
  | _ => none

/-- How often `ingest_bundle` returned `True` for a transaction id, over all connections. -/
def ingestions (sys : System) (id : String) (w : World) : Nat :=
  ((w.links.filter fun link => link.envelopeId sys == some id).map fun link =>
    ingestedTrue link.history).sum

section Valid

variable {sys : System} {link : Link}

theorem Link.Valid.ingestedTrue_le_one (h : link.Valid sys) : ingestedTrue link.history ≤ 1 := by
  cases hhandler : link.handler with
  | reading =>
    rw [h.idle hhandler]
    exact Nat.zero_le 1
  | running rest =>
    obtain ⟨stop, _, hsteps⟩ := h.running rest hhandler
    have hcost := (within_finish sys.gateway link.peerFingerprint stop).steps hsteps
    exact Nat.le_trans (ingestedTrue_le link.history) hcost

/-- The id Gateway B reads is the one of the transaction Gateway A sends. -/
theorem Link.Valid.envelopeId_eq (h : link.Valid sys) (hpb : sys.gateway.protobuf.RoundTrips)
    {id : String} (hid : link.envelopeId sys = some id) : link.item.id = id := by
  simp only [Link.envelopeId] at hid
  split at hid
  · rename_i payload hdecode
    have hstop : StoppedAt link.delivered (.frame .signedBundle payload []) := by
      rintro t payload' remaining heq
      cases heq
      exact hdecode
    obtain ⟨env, henv, hbytes⟩ := h.payload hstop rfl
    rw [TransactionEnvelope.fromBytes_toBytes hpb hbytes] at hid
    obtain rfl : env.transactionId = id := by simpa using hid
    exact (envelope_transactionId henv).symm
  · simp at hid

/-- What is ingested is ingested under that id. -/
theorem Link.Valid.envelopeId_of_ingested (h : link.Valid sys)
    (hpb : sys.gateway.protobuf.RoundTrips) (hingested : 0 < ingestedTrue link.history) :
    link.envelopeId sys = some link.item.id := by
  obtain ⟨ev, hev, htrue⟩ := List.countP_pos_iff.mp hingested
  obtain ⟨before, after, hhistory⟩ := List.append_of_mem hev
  obtain ⟨stop, hstop, hpre⟩ := h.gate hhistory
  obtain ⟨op, r⟩ := ev
  cases op with
  | ingestBundle b =>
    obtain ⟨payload, env, hframe, henv, _⟩ := hpre
    have hsome : link.envelopeId sys = some env.transactionId := by
      simp only [Link.envelopeId, hstop _ _ _ hframe, henv]
    rw [hsome, h.envelopeId_eq hpb hsome]
  | _ => simp [tookIn] at htrue

end Valid

/-- **A transaction is ingested at most once for each attempt**: at most once on a connection,
    and only under the id of the transaction the connection was opened for. -/
theorem ingestions_le_attempts (sys : System) (hpb : sys.gateway.protobuf.RoundTrips) {w : World}
    (hreach : Reach sys.step anyStep World.init w) (id : String) :
    (∀ link ∈ w.links, ingestedTrue link.history ≤ 1 ∧
      (0 < ingestedTrue link.history → link.envelopeId sys = some link.item.id)) ∧
    ingestions sys id w ≤ attempts id w.a.journal ∧
    (attempts id w.a.journal = 0 ∨
      (attempts id w.a.journal : Int) ≤ sys.pipeline.config.maxAttempts) := by
  have hlinked := linked_of_reach hreach
  refine ⟨?_, ?_, attempts_bounded (pipeline_reach hreach) id⟩
  · intro link hlink
    have hvalid := hlinked.valid link hlink
    exact ⟨hvalid.ingestedTrue_le_one, hvalid.envelopeId_of_ingested hpb⟩
  · let under : List Link := w.links.filter fun link => link.envelopeId sys == some id
    calc ingestions sys id w
        ≤ (under.map fun link => ingestedTrue link.history).length • 1 := by
          apply List.sum_le_card_nsmul
          intro n hn
          obtain ⟨link, hlink, rfl⟩ := List.mem_map.mp hn
          exact (hlinked.valid link (List.mem_of_mem_filter hlink)).ingestedTrue_le_one
      _ = w.links.countP fun link => link.envelopeId sys == some id := by
          simp [under, List.countP_eq_length_filter]
      _ ≤ connections id w.links := by
          apply List.countP_mono_left
          intro link hlink hid
          have hsome : link.envelopeId sys = some id := by simpa using hid
          simpa using (hlinked.valid link hlink).envelopeId_eq hpb hsome
      _ ≤ attempts id w.a.journal :=
          Nat.le_of_add_right_le (connections_le_attempts hreach id)

/-! ### An ACK that comes too late -/

namespace Sample

/-- Gateway A stops waiting for the ACK, and tries again. -/
def giveUp : List Move :=
  [.interrupt ⟨.timeoutError, ""⟩, .returned, .pipeline .txClosed, .pipeline .txWake]

/-- The same envelope, delivered twice. -/
def twice : List Move := submit ++ receive ++ giveUp ++ receive

end Sample

/-- Gateway B has ingested the sample transaction twice. -/
theorem sample_ingested_twice :
    ∃ w, Reach Sample.system.step anyStep World.init w ∧
      ingestions Sample.system "5d2f6645-8f64-4e20-b42e-131c950d210f" w = 2 := by
  have hrun : (runLabels Sample.system.step World.init Sample.twice).map
      (fun w => decide (ingestions Sample.system "5d2f6645-8f64-4e20-b42e-131c950d210f" w =
        2)) = some true := by
    decide +kernel
  obtain ⟨w, hreach, hend⟩ := Reach.exists_of_run (fun _ _ _ => trivial) hrun
  exact ⟨w, hreach, of_decide_eq_true hend⟩

/-- It took two attempts. -/
theorem sample_ingestions_le_attempts :
    ∃ w, Reach Sample.system.step anyStep World.init w ∧
      attempts "5d2f6645-8f64-4e20-b42e-131c950d210f" w.a.journal = 2 ∧
      ingestions Sample.system "5d2f6645-8f64-4e20-b42e-131c950d210f" w ≤
        attempts "5d2f6645-8f64-4e20-b42e-131c950d210f" w.a.journal := by
  have hrun : (runLabels Sample.system.step World.init Sample.twice).map
      (fun w => decide (attempts "5d2f6645-8f64-4e20-b42e-131c950d210f" w.a.journal = 2)) =
        some true := by
    decide +kernel
  obtain ⟨w, hreach, hend⟩ := Reach.exists_of_run (fun _ _ _ => trivial) hrun
  exact ⟨w, hreach, of_decide_eq_true hend,
    (ingestions_le_attempts Sample.system Sample.roundTrips hreach _).2.1⟩

end QsTie.Exchange
