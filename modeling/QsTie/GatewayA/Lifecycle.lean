import QsTie.GatewayA.Order

/-!
# Sign, then authorize, then send

What the journal of a run shows of a transaction, whatever raises: the states it
is set to form a path from VALIDATED on, a session is opened only for what was
signed and then authorized, and the transmission takes each transaction once, in
the order of the events.
-/

namespace QsTie.GatewayA

open QsTie.Lib

/-! ### The properties of a run -/

/-- The states of a transaction, so far. -/
def IsPath (h : List TransactionState) : Prop :=
  h = [.validated] ∨ h = [.validated, .signed] ∨ h = [.validated, .signed, .policyRejected] ∨
    ∃ n fin, fin ∈ ([[], [.acked], [.failed]] : List (List TransactionState)) ∧
      h = [.validated, .signed, .policyApproved] ++ List.replicate n .sending ++ fin

def TransactionState.final : TransactionState → Bool
  | .acked => true
  | .failed => true
  | .policyRejected => true
  | _ => false

/-- A transaction on its way is still the one that was created. -/
structure Item.Continues (it t : Item) : Prop where
  key : it.key = t.key
  senderId : it.tx.senderId = t.tx.senderId
  recipientId : it.tx.recipientId = t.tx.recipientId
  stixBundle : it.tx.stixBundle = t.tx.stixBundle

def Origin (it : Item) (j : Journal) : Prop := ∃ t, .created t ∈ j ∧ it.Continues t

/-- The signer returned the signature of the transaction for its compressed bundle. -/
structure SignedIn (p : Pipeline) (it : Item) (j : Journal) : Prop where
  compressed : it.tx.stixBundleCompressed = some (it.compressed p.compress)
  signed : .sign it.id (it.compressed p.compress) (.ok it.tx.signature) ∈ j

/-- So it did, and after that the policy authorized the transaction. -/
structure Vetted (p : Pipeline) (it : Item) (j : Journal) : Prop where
  compressed : it.tx.stixBundleCompressed = some (it.compressed p.compress)
  authorized : ∃ before after reason,
    p.pep.authorize it.tx.stixBundle.tlpMarking it.tx.recipientId = (true, reason) ∧
    .sign it.id (it.compressed p.compress) (.ok it.tx.signature) ∈ before ∧
    j = before ++ .authorize it.id it.tx.stixBundle.tlpMarking it.tx.recipientId
      (.ok (true, reason)) :: after

/-- What the journal of Gateway A shows. -/
structure Lifecycle (p : Pipeline) (j : Journal) : Prop where
  /-- A session is opened for a transaction that was created, signed and then authorized, and
      that is the one the transmission took last. -/
  sent : ∀ before it after, j = before ++ .openSession it :: after →
    Origin it before ∧ Vetted p it before ∧ (takenKeys before).getLast? = some it.key
  path : ∀ id ∈ createdIds j, IsPath (statesOf id j)
  stays : ∀ id h state h', statesOf id j = h ++ state :: h' → state.final = true → h' = []
  once : ((takenKeys j).map Prod.fst).Nodup
  /-- What is taken was created, and first created is first taken. -/
  order : (takenKeys j).Sublist (createdKeys j)
  /-- A transaction comes from the event dequeued last, and `seq` is its number. -/
  dequeued : ∀ before it after, j = before ++ .created it :: after →
    dequeuedCount before = it.seq + 1
  increasing : (createdKeys j).Pairwise fun k k' => k.2 < k'.2
  /-- Of two transactions, the one whose event was dequeued first is sent first. -/
  started : ∀ before it middle it' after,
    j = before ++ .openSession it :: (middle ++ .openSession it' :: after) →
      it.id = it'.id ∨ it.seq < it'.seq

theorem IsPath.split {h : List TransactionState} (hpath : IsPath h) :
    ∃ before fin, h = before ++ fin ∧ fin.length ≤ 1 ∧ ∀ state ∈ before, state.final = false := by
  rcases hpath with rfl | rfl | rfl | ⟨n, fin, hfin, rfl⟩
  · exact ⟨[.validated], [], rfl, by simp, by simp [TransactionState.final]⟩
  · exact ⟨[.validated, .signed], [], rfl, by simp, by simp [TransactionState.final]⟩
  · exact ⟨[.validated, .signed], [.policyRejected], rfl, by simp, by
      simp [TransactionState.final]⟩
  · refine ⟨_, fin, rfl, ?_, ?_⟩
    · simp only [List.mem_cons, List.not_mem_nil, or_false] at hfin
      rcases hfin with rfl | rfl | rfl <;> simp
    · intro state hstate
      simp only [List.mem_append, List.mem_cons, List.mem_replicate, List.not_mem_nil,
        or_false] at hstate
      rcases hstate with (rfl | rfl | rfl) | ⟨_, rfl⟩ <;> rfl

theorem IsPath.stays {h before after : List TransactionState} {state : TransactionState}
    (hpath : IsPath h) (hsplit : h = before ++ state :: after) (hfinal : state.final = true) :
    after = [] := by
  obtain ⟨early, fin, hh, hlen, hearly⟩ := hpath.split
  by_contra hafter
  obtain ⟨rest, last, rfl⟩ := List.eq_nil_or_concat after |>.resolve_left hafter
  -- everything but the last state of a path is not final
  have hmem : state ∈ early := by
    have heq : early ++ fin = (before ++ state :: rest) ++ [last] := by
      rw [← hh, hsplit]; simp
    match fin, hlen with
    | [], _ =>
      rw [List.append_nil] at heq
      rw [heq]; simp
    | [_], _ =>
      rw [(List.append_inj_left' heq rfl)]; simp
  rw [hearly state hmem] at hfinal
  simp at hfinal

/-! ### The states of a transaction -/

/-- What a transaction in line has been set to, after `n` attempts. -/
def Stage.path (n : Nat) : Stage → List TransactionState
  | .validated => [.validated]
  | .signed => [.validated, .signed]
  | .approved => [.validated, .signed, .policyApproved] ++ List.replicate n .sending
  | .sending => [.validated, .signed, .policyApproved] ++ List.replicate n .sending

theorem Stage.isPath (stage : Stage) (n : Nat) : IsPath (stage.path n) := by
  cases stage with
  | validated => left; rfl
  | signed => right; left; rfl
  | approved => right; right; right; exact ⟨n, [], by simp, (List.append_nil _).symm⟩
  | sending => right; right; right; exact ⟨n, [], by simp, (List.append_nil _).symm⟩

structure Staged (s : State) : Prop where
  inLine : ∀ x ∈ line s, statesOf x.2.id s.journal = x.1.path x.2.tx.retryCount
  path : ∀ id ∈ createdIds s.journal, IsPath (statesOf id s.journal)
  unknown : ∀ id, id ∉ createdIds s.journal → statesOf id s.journal = []

/-- A step that sets states of the transaction `x` only. -/
theorem Staged.keep {s s' : State} {es : Journal} {x : Stage × Item} (h : Staged s)
    (hordered : Ordered s) (hjournal : s'.journal = s.journal ++ es)
    (hcreated : createdIds es = []) (hx : x ∈ line s)
    (hothers : ∀ id, id ≠ x.2.id → statesOf id es = [])
    (hpath : IsPath (x.1.path x.2.tx.retryCount ++ statesOf x.2.id es))
    (hline : ∀ y ∈ line s', y ∈ line s ∧ y.2.id ≠ x.2.id ∨ y.2.id = x.2.id ∧
      y.1.path y.2.tx.retryCount = x.1.path x.2.tx.retryCount ++ statesOf x.2.id es) :
    Staged s' := by
  have hids : createdIds s'.journal = createdIds s.journal := by
    rw [hjournal, createdIds_append, hcreated, List.append_nil]
  have hmem : x.2.id ∈ createdIds s.journal := by
    rw [← map_createdKeys]
    exact List.mem_map_of_mem (hordered.inLine.subset (List.mem_map_of_mem hx))
  refine ⟨?_, ?_, ?_⟩
  · intro y hy
    rw [hjournal, statesOf_append]
    rcases hline y hy with ⟨hold, hne⟩ | ⟨hid, hnew⟩
    · rw [hothers _ hne, List.append_nil]
      exact h.inLine y hold
    · rw [hid, h.inLine x hx, hnew]
  · intro id hid
    rw [hids] at hid
    rw [hjournal, statesOf_append]
    by_cases heq : id = x.2.id
    · rw [heq, h.inLine x hx]
      exact hpath
    · rw [hothers id heq, List.append_nil]
      exact h.path id hid
  · intro id hid
    rw [hids] at hid
    rw [hjournal, statesOf_append, h.unknown id hid, List.nil_append]
    exact hothers id fun heq => hid (heq ▸ hmem)

/-- A step that sets no state at all. -/
theorem Staged.keep_silent {s s' : State} {es : Journal} (h : Staged s)
    (hjournal : s'.journal = s.journal ++ es) (hcreated : createdIds es = [])
    (hstates : ∀ id, statesOf id es = []) (hline : ∀ y ∈ line s', y ∈ line s) : Staged s' := by
  have hids : createdIds s'.journal = createdIds s.journal := by
    rw [hjournal, createdIds_append, hcreated, List.append_nil]
  have hsame : ∀ id, statesOf id s'.journal = statesOf id s.journal := by
    intro id
    rw [hjournal, statesOf_append, hstates id, List.append_nil]
  refine ⟨?_, ?_, ?_⟩
  · intro y hy
    rw [hsame]
    exact h.inLine y (hline y hy)
  · intro id hid
    rw [hsame]
    exact h.path id (hids ▸ hid)
  · intro id hid
    rw [hsame]
    exact h.unknown id (hids ▸ hid)

/-- The others in line have other ids. -/
theorem Ordered.id_ne {s : State} {before after : List (Stage × Item)} {x y : Stage × Item}
    (h : Ordered s) (hline : line s = before ++ x :: after) (hy : y ∈ before ++ after) :
    y.2.id ≠ x.2.id := by
  have hnodup := h.lineIds_nodup
  rw [lineIds, hline, List.map_append, List.map_cons, List.nodup_middle, List.nodup_cons,
    ← List.map_append] at hnodup
  intro heq
  exact hnodup.1 (heq ▸ List.mem_map_of_mem hy)

theorem path_of_settle {s : State} {x : Stage × Item} {es : Journal} (h : Settle s x es) :
    (∀ id, id ≠ x.2.id → statesOf id es = []) ∧
      IsPath (x.1.path x.2.tx.retryCount ++ statesOf x.2.id es) := by
  cases h with
  | rejected it tlp recipientId reason =>
    refine ⟨fun id hne => by simp [statesOf, Ne.symm hne], ?_⟩
    right; right; left
    simp [statesOf, Stage.path]
  | unroutable it =>
    refine ⟨fun id hne => by simp [statesOf, fail, Ne.symm hne], ?_⟩
    right; right; right
    exact ⟨it.tx.retryCount, [.failed], by simp, by simp [statesOf, fail, Stage.path]⟩
  | acked it reason _ =>
    refine ⟨fun id hne => by simp [statesOf, Ne.symm hne], ?_⟩
    right; right; right
    exact ⟨it.tx.retryCount, [.acked], by simp, by simp [statesOf, Stage.path]⟩
  | failed it es reason hquiet =>
    have hsilent := (keys_of_quiet hquiet).2.2
    constructor
    · intro id hne
      rw [statesOf_append, hsilent id]
      simp [statesOf, fail, Ne.symm hne]
    · rw [statesOf_append, hsilent]
      right; right; right
      exact ⟨it.tx.retryCount, [.failed], by simp, by simp [statesOf, fail, Stage.path]⟩

theorem statesOf_of_lose {x : Stage × Item} {es : Journal} (h : Lose x es) (id : String) :
    statesOf id es = [] := by
  cases h with
  | dropped it es hquiet => exact (keys_of_quiet hquiet).2.2 id
  | _ => rfl

theorem Staged.enter {s s' : State} {it : Item} (h : Staged s) (hordered : Ordered s)
    (hjournal : s'.journal = s.journal ++ [.created it, .setState it.id .validated])
    (hfresh : it.id ∉ createdIds s.journal)
    (hline : line s' = line s ++ [(.validated, it)]) : Staged s' := by
  have hids : createdIds s'.journal = createdIds s.journal ++ [it.id] := by
    rw [hjournal, createdIds_append]; rfl
  have hnew : statesOf it.id s'.journal = [.validated] := by
    rw [hjournal, statesOf_append, h.unknown it.id hfresh]
    simp [statesOf]
  have hold : ∀ id, id ≠ it.id → statesOf id s'.journal = statesOf id s.journal := by
    intro id hne
    rw [hjournal, statesOf_append]
    simp [statesOf, hne.symm]
  refine ⟨?_, ?_, ?_⟩
  · intro x hx
    rw [hline] at hx
    rcases List.mem_append.mp hx with hx | hx
    · have hmem : x.2.id ∈ createdIds s.journal := by
        rw [← map_createdKeys]
        exact List.mem_map_of_mem (hordered.inLine.subset (List.mem_map_of_mem hx))
      rw [hold _ fun heq => hfresh (heq ▸ hmem)]
      exact h.inLine x hx
    · rw [List.mem_singleton.mp hx]
      exact hnew
  · intro id hid
    by_cases heq : id = it.id
    · rw [heq, hnew]
      left; rfl
    · rw [hold id heq]
      rw [hids] at hid
      exact h.path id (by simpa [heq] using hid)
  · intro id hid
    rw [hids] at hid
    simp only [List.mem_append, List.mem_singleton, not_or] at hid
    rw [hold id hid.2]
    exact h.unknown id hid.1

theorem Staged.step {p : Pipeline} {s s' : State} {l : Label} (h : Staged s)
    (hordered : Ordered s) (hcounted : Counted p s) (hstep : step p s l = some s') :
    Staged s' := by
  obtain ⟨es, hjournal, heffect⟩ := step_effect hstep
  cases heffect with
  | still hline hquiet _ =>
    exact h.keep_silent hjournal (ids_of_quiet hquiet).1 (keys_of_quiet hquiet).2.2
      fun y hy => hline ▸ hy
  | dequeue hline _ => exact h.keep_silent hjournal rfl (fun _ => rfl) fun y hy => hline ▸ hy
  | enter it _ _ hfresh _ hline => exact h.enter hordered hjournal hfresh hline
  | @change before after x y es hline hline' _ hchange =>
    have hx : x ∈ line s := by rw [hline]; simp
    have hzero : x.2.tx.retryCount = 0 := hcounted.waiting x hx (by cases hchange <;> simp)
    have hpath : y.1.path y.2.tx.retryCount =
        x.1.path x.2.tx.retryCount ++ statesOf x.2.id es := by
      cases hchange with
      | sign it signature => simp [statesOf, Stage.path]
      | approve it reason _ =>
        have hzero : it.tx.retryCount = 0 := hzero
        simp [statesOf, Stage.path, Item.approved, hzero]
    apply h.keep hordered hjournal (takes_of_change hchange).created hx
    · intro id hne
      cases hchange <;> simp [statesOf, hne.symm]
    · rw [← hpath]
      exact y.1.isPath _
    · intro z hz
      rw [hline'] at hz
      rcases List.mem_append.mp hz with hz | hz
      · left
        exact ⟨by rw [hline]; simp [hz], hordered.id_ne hline (by simp [hz])⟩
      · rcases List.mem_cons.mp hz with rfl | hz
        · right
          exact ⟨by cases hchange <;> rfl, hpath⟩
        · left
          exact ⟨by rw [hline]; simp [hz], hordered.id_ne hline (by simp [hz])⟩
  | @attempt after x it es hline hline' _ hattempt _ =>
    have hx : x ∈ line s := by rw [hline]; simp
    have hpath : Stage.path it.nextAttempt.tx.retryCount .sending =
        x.1.path x.2.tx.retryCount ++ statesOf x.2.id es := by
      cases hattempt <;>
        simp [statesOf, Stage.path, Item.nextAttempt, List.replicate_succ']
    apply h.keep hordered hjournal (takes_of_attempt hattempt).created hx
    · intro id hne
      cases hattempt <;> simp [statesOf, hne.symm]
    · rw [← hpath]
      exact Stage.isPath _ _
    · intro z hz
      rw [hline'] at hz
      rcases List.mem_cons.mp hz with rfl | hz
      · right
        exact ⟨by cases hattempt <;> rfl, hpath⟩
      · left
        exact ⟨by rw [hline]; simp [hz], @Ordered.id_ne s [] after x z hordered hline (by simpa)⟩
  | @settle before after x es hline hline' _ _ hsettle =>
    have hx : x ∈ line s := by rw [hline]; simp
    obtain ⟨hothers, hpath⟩ := path_of_settle hsettle
    apply h.keep hordered hjournal (takes_of_settle hsettle).created hx hothers hpath
    intro z hz
    left
    rw [hline'] at hz
    refine ⟨?_, hordered.id_ne hline hz⟩
    rw [hline]
    exact mem_of_leave hz
  | lose hline hline' _ _ hlose _ =>
    apply h.keep_silent hjournal (takes_of_lose hlose).created (statesOf_of_lose hlose)
    intro z hz
    rw [hline'] at hz
    rw [hline]
    exact mem_of_leave hz

/-! ### Signed and authorized -/

theorem SignedIn.mono {p : Pipeline} {it : Item} {j : Journal} (h : SignedIn p it j)
    (es : Journal) : SignedIn p it (j ++ es) :=
  ⟨h.compressed, List.mem_append_left es h.signed⟩

theorem Vetted.mono {p : Pipeline} {it : Item} {j : Journal} (h : Vetted p it j)
    (es : Journal) : Vetted p it (j ++ es) := by
  obtain ⟨before, after, reason, hauthorized, hsigned, hj⟩ := h.authorized
  exact ⟨h.compressed, before, after ++ es, reason, hauthorized, hsigned, by simp [hj]⟩

theorem Vetted.next {p : Pipeline} {it : Item} {j : Journal} (h : Vetted p it j) :
    Vetted p it.nextAttempt j :=
  ⟨h.compressed, h.authorized⟩

theorem Origin.mono {it : Item} {j : Journal} (h : Origin it j) (es : Journal) :
    Origin it (j ++ es) := by
  obtain ⟨t, hcreated, hsame⟩ := h
  exact ⟨t, List.mem_append_left es hcreated, hsame⟩

theorem Origin.of_eq {it it' : Item} {j : Journal} (h : Origin it j) (hsame : it'.Continues it) :
    Origin it' j := by
  obtain ⟨t, hcreated, ht⟩ := h
  exact ⟨t, hcreated, hsame.key.trans ht.key, hsame.senderId.trans ht.senderId,
    hsame.recipientId.trans ht.recipientId, hsame.stixBundle.trans ht.stixBundle⟩

/-- What has been done to a transaction in line. -/
def Stage.Holds (p : Pipeline) (j : Journal) (it : Item) : Stage → Prop
  | .validated => True
  | .signed => SignedIn p it j
  | .approved => Vetted p it j
  | .sending => Vetted p it j

theorem Stage.Holds.mono {p : Pipeline} {j : Journal} {it : Item} {stage : Stage}
    (h : stage.Holds p j it) (es : Journal) : stage.Holds p (j ++ es) it := by
  cases stage with
  | validated => trivial
  | signed => exact SignedIn.mono h es
  | approved => exact Vetted.mono h es
  | sending => exact Vetted.mono h es

/-- What is known of a transaction in line. -/
structure Known (p : Pipeline) (j : Journal) (x : Stage × Item) : Prop where
  origin : Origin x.2 j
  holds : x.1.Holds p j x.2

theorem Known.mono {p : Pipeline} {j : Journal} {x : Stage × Item} (h : Known p j x)
    (es : Journal) : Known p (j ++ es) x :=
  ⟨h.origin.mono es, h.holds.mono es⟩

def SentAt (p : Pipeline) (before : Journal) (e : Entry) : Prop :=
  ∀ it, e = .openSession it →
    Origin it before ∧ Vetted p it before ∧ (takenKeys before).getLast? = some it.key

structure Checked (p : Pipeline) (s : State) : Prop where
  inLine : ∀ x ∈ line s, Known p s.journal x
  sessions : EachFrom (SentAt p) [] s.journal

/-- A step that opens no session. -/
theorem eachFrom_sentAt {p : Pipeline} {j es : Journal}
    (h : ∀ it, .openSession it ∉ es) : EachFrom (SentAt p) j es := by
  apply eachFrom_of_forall
  rintro before e he it rfl
  exact absurd he (h it)

theorem openSession_not_quiet {es : Journal} (hquiet : ∀ e ∈ es, e.quiet = true) (it : Item) :
    .openSession it ∉ es := by
  intro hmem
  have hfalse := hquiet _ hmem
  simp [Entry.quiet] at hfalse

theorem known_of_change {p : Pipeline} {x y : Stage × Item} {j es : Journal}
    (h : Change p x y es) (hx : Known p j x) : Known p (j ++ es) y := by
  refine ⟨(hx.origin.mono es).of_eq ?_, ?_⟩
  · cases h <;> exact ⟨rfl, rfl, rfl, rfl⟩
  · cases h with
    | sign it signature => exact ⟨rfl, List.mem_append_right j List.mem_cons_self⟩
    | approve it reason hauthorized =>
      have hsigned : SignedIn p it j := hx.holds
      exact ⟨hsigned.compressed, j, _, reason, hauthorized, hsigned.signed, rfl⟩

theorem known_of_attempt {p : Pipeline} {x : Stage × Item} {it : Item} {j es : Journal}
    (h : Attempt x it es) (hx : Known p j x) : Known p j (.sending, it.nextAttempt) := by
  have hvetted : Vetted p it j := by cases h <;> exact hx.holds
  refine ⟨hx.origin.of_eq ?_, hvetted.next⟩
  cases h <;> exact ⟨rfl, rfl, rfl, rfl⟩

/-- The journal up to the session a transaction is sent in. -/
theorem sentAt_of_attempt {p : Pipeline} {s : State} {x : Stage × Item} {it : Item}
    {es : Journal} (hordered : Ordered s) (hx : x ∈ line s)
    (hx' : Known p s.journal x) (h : Attempt x it es) :
    EachFrom (SentAt p) s.journal es := by
  have hnext := known_of_attempt h hx'
  cases h with
  | first =>
    refine ⟨by intro it' heq; simp at heq, by intro it' heq; simp at heq, ?_, trivial⟩
    intro it' heq
    obtain rfl : it.nextAttempt = it' := by simpa using heq
    have hlater := (hnext.mono [.taken it]).mono [.setState it.id .sending]
    refine ⟨hlater.origin, hlater.holds, ?_⟩
    rw [takenKeys_append, takenKeys_append]
    have hnone : takenKeys [.setState it.id .sending] = [] := rfl
    rw [hnone, List.append_nil]
    exact List.getLast?_concat
  | again =>
    refine ⟨by intro it' heq; simp at heq, ?_, trivial⟩
    intro it' heq
    obtain rfl : it.nextAttempt = it' := by simpa using heq
    have hlater := hnext.mono [.setState it.id .sending]
    refine ⟨hlater.origin, hlater.holds, ?_⟩
    have hnone : takenKeys [.setState it.id .sending] = [] := rfl
    rw [takenKeys_append, hnone, List.append_nil]
    exact hordered.last it hx

theorem sentAt_of_effect {p : Pipeline} {s s' : State} {l : Label} {es : Journal}
    (h : Checked p s) (hordered : Ordered s) (heffect : Effect p s l s' es) :
    EachFrom (SentAt p) s.journal es := by
  cases heffect with
  | still _ hquiet _ => exact eachFrom_sentAt (openSession_not_quiet hquiet)
  | dequeue _ _ => exact eachFrom_sentAt (by simp)
  | enter it _ _ _ _ _ => exact eachFrom_sentAt (by simp)
  | change _ _ _ hchange => exact eachFrom_sentAt (by cases hchange <;> simp)
  | @attempt after x it es hline _ _ hattempt _ =>
    have hx : x ∈ line s := by rw [hline]; exact List.mem_cons_self
    exact sentAt_of_attempt hordered hx (h.inLine x hx) hattempt
  | settle _ _ _ _ hsettle =>
    apply eachFrom_sentAt
    cases hsettle with
    | failed it es reason hquiet =>
      intro it' hmem
      rcases List.mem_append.mp hmem with hmem | hmem
      · exact openSession_not_quiet hquiet it' hmem
      · simp [fail] at hmem
    | _ => simp [fail]
  | lose _ _ _ _ hlose _ =>
    apply eachFrom_sentAt
    cases hlose with
    | dropped it es hquiet => exact openSession_not_quiet hquiet
    | _ => simp

theorem Checked.step {p : Pipeline} {s s' : State} {l : Label} (h : Checked p s)
    (hordered : Ordered s) (hstep : step p s l = some s') : Checked p s' := by
  obtain ⟨es, hjournal, heffect⟩ := step_effect hstep
  constructor
  · intro y hy
    rw [hjournal]
    rcases heffect.mem_line hy with hold | ⟨it, rfl, _, rfl⟩ | ⟨x, hx, hchange⟩ |
      ⟨x, hx, it, hattempt, rfl⟩
    · exact (h.inLine y hold).mono es
    · refine ⟨⟨it, ?_, rfl, rfl, rfl, rfl⟩, trivial⟩
      exact List.mem_append_right _ List.mem_cons_self
    · exact known_of_change hchange (h.inLine x hx)
    · exact (known_of_attempt hattempt (h.inLine x hx)).mono es
  · rw [hjournal, eachFrom_append]
    exact ⟨h.sessions, sentAt_of_effect h hordered heffect⟩

/-! ### Whole runs -/

theorem line_init : line State.init = [] := rfl

/-- All that is kept along a run. -/
structure Traced (p : Pipeline) (s : State) : Prop where
  counted : Counted p s
  ordered : Ordered s
  staged : Staged s
  checked : Checked p s

theorem traced_of_reach {p : Pipeline} {s : State}
    (hreach : Reach (step p) anyStep State.init s) : Traced p s := by
  apply hreach.invariant
  · refine ⟨⟨?_, ?_⟩, ⟨List.nodup_nil, List.Pairwise.nil, ?_, ?_, ?_, ?_, ?_, trivial⟩,
      ⟨?_, ?_, fun _ _ => rfl⟩, ⟨?_, trivial⟩⟩
    · intro x hx
      simp [line_init] at hx
    · intro it delay hsleep
      simp [State.init] at hsleep
    · intro k hk
      simp [State.init, createdKeys] at hk
    · intro seq hseq
      simp [State.init, State.converting] at hseq
    · exact List.Sublist.refl _
    · exact List.Sublist.refl _
    · intro it hit
      simp [line_init] at hit
    · intro x hx
      simp [line_init] at hx
    · intro id hid
      simp [State.init, createdIds] at hid
    · intro x hx
      simp [line_init] at hx
  · intro s s' l h _ hstep
    exact ⟨h.counted.step hstep, h.ordered.step hstep,
      h.staged.step h.ordered h.counted hstep, h.checked.step h.ordered hstep⟩

theorem Ordered.taken_sublist {s : State} (h : Ordered s) :
    (takenKeys s.journal).Sublist (createdKeys s.journal) :=
  (List.sublist_append_left _ _).trans h.waiting

/-- Of two keys taken one after the other, the first has the earlier event. -/
theorem lt_of_taken {keys : List (String × Nat)} {before middle : List (String × Nat)}
    {k k' : String × Nat} (hkeys : keys.Pairwise fun k k' => k.2 < k'.2)
    (hsub : (before ++ middle).Sublist keys) (hk : before.getLast? = some k)
    (hk' : (before ++ middle).getLast? = some k') : k = k' ∨ k.2 < k'.2 := by
  cases middle with
  | nil =>
    rw [List.append_nil, hk] at hk'
    exact Or.inl (Option.some.inj hk')
  | cons first rest =>
    right
    have hpairs := (List.pairwise_append.mp (hkeys.sublist hsub)).2.2
    apply hpairs k (List.mem_of_getLast? hk) k'
    rw [List.getLast?_append_of_ne_nil _ (by simp)] at hk'
    exact List.mem_of_getLast? hk'

/-- **Every transaction is signed, then authorized, then sent, in order and once.** -/
theorem lifecycle_of_reach {p : Pipeline} {s : State}
    (hreach : Reach (step p) anyStep State.init s) : Lifecycle p s.journal := by
  obtain ⟨_, hordered, hstaged, hchecked⟩ := traced_of_reach hreach
  have hsent : ∀ before it after, s.journal = before ++ .openSession it :: after →
      Origin it before ∧ Vetted p it before ∧
        (takenKeys before).getLast? = some it.key := by
    intro before it after hj
    exact hchecked.sessions.at hj it rfl
  refine ⟨hsent, hstaged.path, ?_, ?_, hordered.taken_sublist, ?_, hordered.increasing, ?_⟩
  · intro id h state h' hsplit hfinal
    by_cases hid : id ∈ createdIds s.journal
    · exact (hstaged.path id hid).stays hsplit hfinal
    · rw [hstaged.unknown id hid] at hsplit
      simp at hsplit
  · have hids := (hordered.taken_sublist.map Prod.fst)
    rw [map_createdKeys] at hids
    exact hordered.ids.sublist hids
  · intro before it after hj
    exact hordered.dequeued.at hj it rfl
  · intro before it middle it' after hj
    have hfirst := (hsent before it _ hj).2.2
    have hsecond := (hsent (before ++ .openSession it :: middle) it' after (by simp [hj])).2.2
    have hsub : (takenKeys before ++ takenKeys (.openSession it :: middle)).Sublist
        (createdKeys s.journal) := by
      refine List.Sublist.trans ?_ hordered.taken_sublist
      have hlonger : s.journal =
          (before ++ .openSession it :: middle) ++ .openSession it' :: after := by simp [hj]
      rw [hlonger, takenKeys_append, takenKeys_append]
      exact List.sublist_append_left _ _
    rw [takenKeys_append] at hsecond
    rcases lt_of_taken hordered.increasing hsub hfirst hsecond with heq | hlt
    · exact Or.inl (congrArg Prod.fst heq)
    · exact Or.inr hlt

/-- Two events, both delivered, in the order in which they came. -/
theorem sample_lifecycle :
    ∃ s, Reach (step Sample.pipeline) anyStep State.init s ∧
      takenKeys s.journal = [("5d2f6645-8f64-4e20-b42e-131c950d210f", 0),
        ("c1a9a7a4-2f0c-4a34-9c0b-4b1c3f0e7d52", 1)] ∧
      statesOf "c1a9a7a4-2f0c-4a34-9c0b-4b1c3f0e7d52" s.journal =
        [.validated, .signed, .policyApproved, .sending, .acked] ∧
      Lifecycle Sample.pipeline s.journal := by
  have hrun : (runLabels (step Sample.pipeline) State.init
      (Sample.extract "5d2f6645-8f64-4e20-b42e-131c950d210f" ++ Sample.deliver ++
        (Sample.extract "c1a9a7a4-2f0c-4a34-9c0b-4b1c3f0e7d52" ++ Sample.deliver))).map
        (fun s => decide (takenKeys s.journal = [("5d2f6645-8f64-4e20-b42e-131c950d210f", 0),
          ("c1a9a7a4-2f0c-4a34-9c0b-4b1c3f0e7d52", 1)] ∧
          statesOf "c1a9a7a4-2f0c-4a34-9c0b-4b1c3f0e7d52" s.journal =
            [.validated, .signed, .policyApproved, .sending, .acked])) = some true := by
    decide +kernel
  obtain ⟨s, hreach, hend⟩ := Reach.exists_of_run (fun _ _ _ => trivial) hrun
  obtain ⟨htaken, hstates⟩ := of_decide_eq_true hend
  exact ⟨s, hreach, htaken, hstates, lifecycle_of_reach hreach⟩

end QsTie.GatewayA
