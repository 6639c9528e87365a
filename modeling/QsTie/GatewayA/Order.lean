import QsTie.GatewayA.Conservation
import QsTie.Lib.Trace

/-!
# The order of transactions

The transmission takes each transaction once, in the order in which the extractor
took the events, whatever raises.  The order needs no clock: the ones taken and
the line behind them are a sublist of those created (`Ordered.waiting`), and no
step of the pipeline can change that.
-/

namespace QsTie.GatewayA

open QsTie.Lib

/-! ### Reading the journal -/

/-- The states a transaction was set to. -/
def statesOf (id : String) (j : Journal) : List TransactionState :=
  j.filterMap fun
    | .setState id' state => if id' = id then some state else none
    | _ => none

/-- A transaction and the place of its event. -/
def Item.key (it : Item) : String × Nat := (it.id, it.seq)

def createdKeys (j : Journal) : List (String × Nat) :=
  j.filterMap fun
    | .created it => some it.key
    | _ => none

def takenKeys (j : Journal) : List (String × Nat) :=
  j.filterMap fun
    | .taken it => some it.key
    | _ => none

@[simp] theorem statesOf_append (id : String) (j es : Journal) :
    statesOf id (j ++ es) = statesOf id j ++ statesOf id es :=
  List.filterMap_append

@[simp] theorem createdKeys_append (j es : Journal) :
    createdKeys (j ++ es) = createdKeys j ++ createdKeys es :=
  List.filterMap_append

@[simp] theorem takenKeys_append (j es : Journal) :
    takenKeys (j ++ es) = takenKeys j ++ takenKeys es :=
  List.filterMap_append

@[simp] theorem dequeuedCount_append (j es : Journal) :
    dequeuedCount (j ++ es) = dequeuedCount j + dequeuedCount es :=
  List.countP_append

theorem map_createdKeys (j : Journal) : (createdKeys j).map Prod.fst = createdIds j := by
  induction j with
  | nil => rfl
  | cons e j ih =>
    cases e with
    | created it => exact congrArg (it.id :: ·) ih
    | _ => exact ih

theorem mem_createdKeys {j : Journal} {it : Item} (h : .created it ∈ j) :
    it.key ∈ createdKeys j :=
  List.mem_filterMap.mpr ⟨_, h, rfl⟩

theorem mem_createdIds {j : Journal} {it : Item} (h : .created it ∈ j) : it.id ∈ createdIds j :=
  List.mem_filterMap.mpr ⟨_, h, rfl⟩

theorem exists_created {j : Journal} {id : String} (h : id ∈ createdIds j) :
    ∃ it, .created it ∈ j ∧ it.id = id := by
  obtain ⟨e, he, hid⟩ := List.mem_filterMap.mp h
  cases e with
  | created it => exact ⟨it, he, by simpa using hid⟩
  | _ => simp at hid

/-- Ids tell created transactions apart. -/
theorem created_eq_of_id {j : Journal} (hids : (createdIds j).Nodup) {t t' : Item}
    (ht : .created t ∈ j) (ht' : .created t' ∈ j) (hid : t.id = t'.id) : t = t' := by
  obtain ⟨before, after, rfl⟩ := List.append_of_mem ht
  rw [createdIds_append] at hids
  obtain ⟨_, hafter, hapart⟩ := List.nodup_append.mp hids
  have hhead : createdIds (.created t :: after) = t.id :: createdIds after := rfl
  rw [hhead] at hafter hapart
  rcases List.mem_append.mp ht' with hmem | hmem
  · exact absurd hid.symm (hapart _ (mem_createdIds hmem) _ List.mem_cons_self)
  · rcases List.mem_cons.mp hmem with heq | hmem
    · exact (Entry.created.inj heq).symm
    · have hnot := (List.nodup_cons.mp hafter).1
      exact absurd (hid ▸ mem_createdIds hmem) hnot

/-! ### The order of transactions -/

/-- The transactions that the transmission has not taken. -/
def waiting (s : State) : List (Stage × Item) := (line s).filter fun x => x.1 != .sending

def DequeuedAt (before : Journal) (e : Entry) : Prop :=
  ∀ it, e = .created it → dequeuedCount before = it.seq + 1

structure Ordered (s : State) : Prop where
  ids : (createdIds s.journal).Nodup
  increasing : (createdKeys s.journal).Pairwise fun k k' => k.2 < k'.2
  bound : ∀ k ∈ createdKeys s.journal, k.2 < dequeuedCount s.journal
  converting : ∀ seq, s.converting = some seq →
    dequeuedCount s.journal = seq + 1 ∧ ∀ k ∈ createdKeys s.journal, k.2 < seq
  inLine : ((line s).map fun x => x.2.key).Sublist (createdKeys s.journal)
  waiting : (takenKeys s.journal ++ (waiting s).map fun x => x.2.key).Sublist
    (createdKeys s.journal)
  last : ∀ it, (Stage.sending, it) ∈ line s → (takenKeys s.journal).getLast? = some it.key
  dequeued : EachFrom DequeuedAt [] s.journal

/-- Only the head of the line can be under way. -/
theorem ne_sending_of_tail {s : State} {x y : Stage × Item} {after : List (Stage × Item)}
    (hline : line s = x :: after) (hy : y ∈ after) : y.1 ≠ .sending := by
  have hbehind : ∀ z ∈ behind s, z.1 ≠ .sending := by
    intro z hz
    simp only [behind, List.mem_append, List.mem_map] at hz
    rcases hz with ⟨_, _, rfl⟩ | ⟨_, _, rfl⟩ | ⟨_, _, rfl⟩ <;> simp
  have hsub : after.Sublist (behind s) := by
    simp only [line] at hline
    cases hheld : s.tx.held with
    | nil =>
      rw [hheld] at hline
      have hbehind : behind s = x :: after := hline
      rw [hbehind]
      exact List.sublist_cons_self _ _
    | cons it rest =>
      rw [hheld] at hline
      cases rest with
      | nil =>
        have hbehind : behind s = after := (List.cons.inj hline).2
        rw [hbehind]
      | cons _ _ => cases hpc : s.tx <;> simp [hpc, TxPc.held] at hheld
  exact hbehind y (hsub.subset hy)

theorem createdKeys_eq_nil {es : Journal} (h : createdIds es = []) : createdKeys es = [] := by
  rw [← map_createdKeys] at h
  exact List.map_eq_nil_iff.mp h

/-- A step that creates nothing and dequeues nothing keeps the order when the line and the
    ones it takes come from the line before. -/
theorem Ordered.keep {s s' : State} {es : Journal} (h : Ordered s)
    (hjournal : s'.journal = s.journal ++ es) (hcreated : createdIds es = [])
    (hcount : dequeuedCount es = 0)
    (hconv : s'.converting = s.converting ∨ s'.converting = none)
    (hline : ((line s').map fun x => x.2.key).Sublist ((line s).map fun x => x.2.key))
    (htaken : (takenKeys es ++ (GatewayA.waiting s').map fun x => x.2.key).Sublist
      ((GatewayA.waiting s).map fun x => x.2.key))
    (hlast : ∀ it, (Stage.sending, it) ∈ line s' →
      (takenKeys s'.journal).getLast? = some it.key) : Ordered s' := by
  have hkeys : createdKeys s'.journal = createdKeys s.journal := by
    rw [hjournal, createdKeys_append, createdKeys_eq_nil hcreated, List.append_nil]
  have hsame : dequeuedCount s'.journal = dequeuedCount s.journal := by
    rw [hjournal, dequeuedCount_append, hcount, Nat.add_zero]
  refine ⟨?_, ?_, ?_, ?_, ?_, ?_, hlast, ?_⟩
  · rw [← map_createdKeys, hkeys, map_createdKeys]
    exact h.ids
  · rw [hkeys]
    exact h.increasing
  · rw [hkeys, hsame]
    exact h.bound
  · intro seq hseq
    rw [hkeys, hsame]
    rcases hconv with hconv | hconv
    · exact h.converting seq (hconv ▸ hseq)
    · rw [hconv] at hseq
      simp at hseq
  · rw [hkeys]
    exact hline.trans h.inLine
  · rw [hkeys, hjournal, takenKeys_append, List.append_assoc]
    exact ((List.Sublist.refl _).append htaken).trans h.waiting
  · rw [hjournal, eachFrom_append]
    refine ⟨h.dequeued, eachFrom_of_forall ?_⟩
    rintro before e he it rfl
    have hmem := mem_createdKeys he
    rw [createdKeys_eq_nil hcreated] at hmem
    simp at hmem

theorem keys_of_quiet {es : Journal} (hquiet : ∀ e ∈ es, e.quiet = true) :
    takenKeys es = [] ∧ dequeuedCount es = 0 ∧ ∀ id, statesOf id es = [] := by
  induction es with
  | nil => exact ⟨rfl, rfl, fun _ => rfl⟩
  | cons e es ih =>
    have ih := ih fun e he => hquiet e (List.mem_cons_of_mem _ he)
    have he := hquiet e List.mem_cons_self
    cases e with
    | sessionOpened _ | sessionClosed _ | sleep _ | logTelemetry _ _ => exact ih
    | _ => simp [Entry.quiet] at he

/-- A piece of the journal that creates and dequeues nothing, and takes at most `x`, from the
    queue in front of the transmission. -/
structure Takes (x : Stage × Item) (es : Journal) : Prop where
  created : createdIds es = []
  count : dequeuedCount es = 0
  taken : takenKeys es = [] ∨ x.1 = .approved ∧ takenKeys es = [x.2.key]

theorem takes_of_change {p : Pipeline} {x y : Stage × Item} {es : Journal}
    (h : Change p x y es) : Takes x es := by
  cases h <;> exact ⟨rfl, rfl, Or.inl rfl⟩

theorem takes_of_attempt {x : Stage × Item} {it : Item} {es : Journal} (h : Attempt x it es) :
    Takes x es := by
  cases h with
  | first it => exact ⟨rfl, rfl, Or.inr ⟨rfl, rfl⟩⟩
  | again it => exact ⟨rfl, rfl, Or.inl rfl⟩

theorem takes_of_settle {s : State} {x : Stage × Item} {es : Journal} (h : Settle s x es) :
    Takes x es := by
  cases h with
  | rejected it tlp recipientId reason => exact ⟨rfl, rfl, Or.inl rfl⟩
  | unroutable it => exact ⟨rfl, rfl, Or.inr ⟨rfl, rfl⟩⟩
  | acked it reason _ => exact ⟨rfl, rfl, Or.inl rfl⟩
  | failed it es reason hquiet =>
    obtain ⟨hcreated, _, _⟩ := ids_of_quiet hquiet
    obtain ⟨htaken, hcount, _⟩ := keys_of_quiet hquiet
    refine ⟨?_, ?_, Or.inl ?_⟩
    · rw [createdIds_append, hcreated]; rfl
    · rw [dequeuedCount_append, hcount]; rfl
    · rw [takenKeys_append, htaken]; rfl

theorem takes_of_lose {x : Stage × Item} {es : Journal} (h : Lose x es) : Takes x es := by
  cases h with
  | unsigned it payload e => exact ⟨rfl, rfl, Or.inl rfl⟩
  | undecided it tlp recipientId e => exact ⟨rfl, rfl, Or.inl rfl⟩
  | untaken it => exact ⟨rfl, rfl, Or.inr ⟨rfl, rfl⟩⟩
  | dropped it es hquiet =>
    obtain ⟨hcreated, _, _⟩ := ids_of_quiet hquiet
    obtain ⟨htaken, hcount, _⟩ := keys_of_quiet hquiet
    exact ⟨hcreated, hcount, Or.inl htaken⟩

/-- A transaction leaves the line. -/
theorem Ordered.leave {s s' : State} {es : Journal} {before after : List (Stage × Item)}
    {x : Stage × Item} (h : Ordered s) (hjournal : s'.journal = s.journal ++ es)
    (hline : line s = before ++ x :: after) (hline' : line s' = before ++ after)
    (hconv : s'.converting = s.converting) (hhead : x.1 = .approved → before = [])
    (htakes : Takes x es) : Ordered s' := by
  apply h.keep hjournal htakes.created htakes.count (Or.inl hconv)
  · rw [hline, hline', List.map_append, List.map_append, List.map_cons]
    exact (List.Sublist.refl _).append (List.sublist_cons_self _ _)
  · simp only [GatewayA.waiting]
    rw [hline, hline']
    rcases htakes.taken with htaken | ⟨happroved, htaken⟩
    · rw [htaken, List.nil_append]
      exact (((List.Sublist.refl _).append (List.sublist_cons_self _ _)).filter _).map _
    · rw [htaken, hhead happroved, List.nil_append, List.nil_append, List.filter_cons_of_pos]
      · exact List.Sublist.refl _
      · simp [happroved]
  · intro it hit
    rcases htakes.taken with htaken | ⟨happroved, htaken⟩
    · rw [hjournal, takenKeys_append, htaken, List.append_nil]
      apply h.last
      rw [hline'] at hit
      rw [hline]
      exact mem_of_leave hit
    · rw [hhead happroved, List.nil_append] at hline hline'
      rw [hline'] at hit
      exact absurd rfl (ne_sending_of_tail hline hit)

theorem Ordered.enter {s s' : State} {it : Item} (h : Ordered s)
    (hjournal : s'.journal = s.journal ++ [.created it, .setState it.id .validated])
    (hconv : s.converting = some it.seq) (hconv' : s'.converting = none)
    (hfresh : it.id ∉ createdIds s.journal)
    (hline : line s' = line s ++ [(.validated, it)]) : Ordered s' := by
  obtain ⟨hcount, hbelow⟩ := h.converting it.seq hconv
  have hkeys : createdKeys s'.journal = createdKeys s.journal ++ [it.key] := by
    rw [hjournal, createdKeys_append]; rfl
  have htaken : takenKeys s'.journal = takenKeys s.journal := by
    rw [hjournal, takenKeys_append]; exact List.append_nil _
  have hsame : dequeuedCount s'.journal = dequeuedCount s.journal := by
    rw [hjournal, dequeuedCount_append]; rfl
  refine ⟨?_, ?_, ?_, ?_, ?_, ?_, ?_, ?_⟩
  · rw [← map_createdKeys, hkeys, List.map_append, map_createdKeys]
    refine List.nodup_append.mpr ⟨h.ids, by simp, ?_⟩
    rintro a ha b hb rfl
    obtain rfl : a = it.id := by simpa [Item.key] using hb
    exact hfresh ha
  · rw [hkeys]
    refine List.pairwise_append.mpr ⟨h.increasing, by simp, ?_⟩
    intro k hk k' hk'
    rw [List.mem_singleton.mp hk']
    exact hbelow k hk
  · intro k hk
    rw [hsame, hcount]
    rw [hkeys] at hk
    rcases List.mem_append.mp hk with hk | hk
    · exact Nat.lt_succ_of_lt (hbelow k hk)
    · rw [List.mem_singleton.mp hk]; exact Nat.lt_succ_self _
  · intro seq' hseq'
    rw [hconv'] at hseq'
    simp at hseq'
  · rw [hkeys, hline, List.map_append]
    exact h.inLine.append (List.Sublist.refl _)
  · have hwaiting : GatewayA.waiting s' = GatewayA.waiting s ++ [(.validated, it)] := by
      simp only [GatewayA.waiting]
      rw [hline, List.filter_append]
      rfl
    rw [hkeys, htaken, hwaiting, List.map_append, ← List.append_assoc]
    exact h.waiting.append (List.Sublist.refl _)
  · intro it' hit'
    rw [htaken]
    rw [hline] at hit'
    exact h.last it' (by simpa using hit')
  · rw [hjournal, eachFrom_append]
    refine ⟨h.dequeued, ?_, ?_, trivial⟩
    · intro it' heq
      obtain rfl : it = it' := by simpa using heq
      simpa using hcount
    · intro it' heq
      simp at heq

theorem Ordered.dequeue {s s' : State} (h : Ordered s)
    (hjournal : s'.journal = s.journal ++ [.dequeued]) (hline : line s' = line s)
    (hconv : s'.converting = some (dequeuedCount s.journal)) : Ordered s' := by
  have hkeys : createdKeys s'.journal = createdKeys s.journal := by
    rw [hjournal, createdKeys_append]; exact List.append_nil _
  have hcount : dequeuedCount s'.journal = dequeuedCount s.journal + 1 := by
    rw [hjournal, dequeuedCount_append]; rfl
  have htaken : takenKeys s'.journal = takenKeys s.journal := by
    rw [hjournal, takenKeys_append]; exact List.append_nil _
  refine ⟨?_, ?_, ?_, ?_, ?_, ?_, ?_, ?_⟩
  · rw [← map_createdKeys, hkeys, map_createdKeys]; exact h.ids
  · rw [hkeys]; exact h.increasing
  · intro k hk
    rw [hkeys] at hk
    rw [hcount]
    exact Nat.lt_succ_of_lt (h.bound k hk)
  · intro seq hseq
    obtain rfl : dequeuedCount s.journal = seq := by simpa [hconv] using hseq
    rw [hkeys]
    exact ⟨hcount, h.bound⟩
  · rw [hkeys, hline]; exact h.inLine
  · simp only [GatewayA.waiting]
    rw [hkeys, htaken, hline]
    exact h.waiting
  · rw [htaken, hline]; exact h.last
  · rw [hjournal, eachFrom_append]
    refine ⟨h.dequeued, ?_, trivial⟩
    intro it heq
    simp at heq

/-- **No step changes the order.** -/
theorem Ordered.step {p : Pipeline} {s s' : State} {l : Label} (h : Ordered s)
    (hstep : step p s l = some s') : Ordered s' := by
  obtain ⟨es, hjournal, heffect⟩ := step_effect hstep
  cases heffect with
  | still hline hquiet hconv =>
    obtain ⟨htaken, hcount, _⟩ := keys_of_quiet hquiet
    apply h.keep hjournal (ids_of_quiet hquiet).1 hcount hconv
    · rw [hline]
    · simp [GatewayA.waiting, hline, htaken]
    · intro it hit
      rw [hjournal, takenKeys_append, htaken, List.append_nil]
      exact h.last it (hline ▸ hit)
  | dequeue hline hconv => exact h.dequeue hjournal hline hconv
  | enter it hconv hconv' hfresh _ hline => exact h.enter hjournal hconv hconv' hfresh hline
  | @change before after x y es hline hline' hconv hchange =>
    have htakes := takes_of_change hchange
    have hkey : y.2.key = x.2.key := by cases hchange <;> rfl
    have hy : y.1 ≠ .sending := by cases hchange <;> simp
    have hx : x.1 ≠ .sending := by cases hchange <;> simp
    have htaken : takenKeys es = [] := by cases hchange <;> rfl
    apply h.keep hjournal htakes.created htakes.count (Or.inl hconv)
    · simp [hline, hline', hkey]
    · simp [GatewayA.waiting, hline, hline', htaken, hx, hy, hkey]
    · intro it hit
      rw [hjournal, takenKeys_append, htaken, List.append_nil]
      apply h.last
      rw [hline'] at hit
      rw [hline]
      simp only [List.mem_append, List.mem_cons] at hit ⊢
      rcases hit with hit | hit | hit
      · exact Or.inl hit
      · exact absurd (congrArg Prod.fst hit).symm hy
      · exact Or.inr (Or.inr hit)
  | @attempt after x it es hline hline' hconv hattempt _ =>
    have htakes := takes_of_attempt hattempt
    apply h.keep hjournal htakes.created htakes.count (Or.inl hconv)
    · cases hattempt <;> simp [hline, hline', Item.key, Item.nextAttempt, Item.id]
    · cases hattempt <;> simp [GatewayA.waiting, hline, hline', takenKeys]
    · intro it' hit'
      rw [hline'] at hit'
      rcases List.mem_cons.mp hit' with heq | hit'
      · obtain rfl : it' = it.nextAttempt := congrArg Prod.snd heq
        rw [hjournal, takenKeys_append]
        cases hattempt with
        | first => exact List.getLast?_concat
        | again =>
          have hnone : takenKeys [.setState it.id .sending, .openSession it.nextAttempt] = [] :=
            rfl
          rw [hnone, List.append_nil]
          exact h.last it (by rw [hline]; exact List.mem_cons_self)
      · exact absurd rfl (ne_sending_of_tail hline hit')
  | settle hline hline' hconv hhead hsettle =>
    exact h.leave hjournal hline hline' hconv hhead (takes_of_settle hsettle)
  | lose hline hline' hconv hhead hlose _ =>
    exact h.leave hjournal hline hline' hconv hhead (takes_of_lose hlose)

theorem Ordered.lineIds_nodup {s : State} (h : Ordered s) : (lineIds s).Nodup := by
  have hsub : (lineIds s).Sublist (createdIds s.journal) := by
    rw [← map_createdKeys]
    simpa [lineIds, Function.comp_def, Item.key] using h.inLine.map Prod.fst
  exact h.ids.sublist hsub

end QsTie.GatewayA
