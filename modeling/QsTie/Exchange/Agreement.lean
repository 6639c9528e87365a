import QsTie.Exchange.Link
import QsTie.GatewayA.Lifecycle

/-!
# Both gateways, and what ACKED means

The world is Gateway A and its connections, the newest first.  The session of the
newest one is what the transmission waits for; the handlers of all of them run
on.  A step of the world is a step of Gateway A, of one session or of one
handler, so any theorem about the runs of Gateway A holds here too
(`pipeline_reach`).

A transaction that is ACKED was ingested: on a connection of its own Gateway B
admitted its envelope, ingested its bundle and only then wrote the ACK that
Gateway A read.
-/

namespace QsTie.Exchange

open QsTie.Lib QsTie.GatewayA QsTie.GatewayB

structure World where
  a : State
  links : List Link

def World.init : World := ⟨State.init, []⟩

inductive Move where
  /-- A step of Gateway A that needs no connection. -/
  | pipeline (l : Label)
  | connect (peerFingerprint : String)
  | resume
  | interrupt (e : PyExc)
  /-- `send_envelope` returns to the transmission. -/
  | returned
  | read (i n : Nat)
  | endRead (i : Nat)
  | answer (i : Nat) (ans : (op : Call) → op.Ret)

/-- Labels whose outcome is decided by a connection. -/
def overLink : Label → Bool
  | .txOpened (.ok _) => true
  | .txSent _ _ => true
  | _ => false

def isSending : TxPc → Bool
  | .sending _ => true
  | _ => false

/-- One link changes. -/
def World.update (w : World) (i : Nat) (f : Link → Option Link) : Option World :=
  match w.links[i]? with
  | none => none
  | some link => (f link).map fun link' => { w with links := w.links.set i link' }

def System.step (sys : System) (w : World) : Move → Option World
  | .pipeline l =>
    if overLink l then none
    else (GatewayA.step sys.pipeline w.a l).map fun a => { w with a := a }
  | .connect peerFingerprint =>
    match w.a.tx with
    | .opening it =>
      (GatewayA.step sys.pipeline w.a (.txOpened (.ok ()))).map fun a =>
        ⟨a, Link.connect sys it peerFingerprint :: w.links⟩
    | _ => none
  | .resume => if isSending w.a.tx then w.update 0 (Link.resume sys) else none
  | .interrupt e => if isSending w.a.tx then w.update 0 (Link.interrupt e) else none
  | .returned =>
    match w.links with
    | [] => none
    | link :: _ =>
      match link.session with
      | .returned (success, reason) =>
        (GatewayA.step sys.pipeline w.a (.txSent success reason)).map fun a => { w with a := a }
      | _ => none
  | .read i n => w.update i (Link.read sys n)
  | .endRead i => w.update i (Link.endRead sys)
  | .answer i ans => w.update i (Link.answer sys ans)

/-! ### What a step of the world can do -/

/-- A link goes on with what it was opened for. -/
structure Link.Kept (sys : System) (link link' : Link) : Prop where
  valid : link.Valid sys → link'.Valid sys
  item : link'.item = link.item
  session : ∀ result, link.session = .returned result → link'.session = .returned result

inductive Moved (sys : System) (w w' : World) : Prop where
  | pipeline (l : Label) (hl : overLink l = false)
      (hstep : GatewayA.step sys.pipeline w.a l = some w'.a) (hlinks : w'.links = w.links)
  | connect (it : Item) (peerFingerprint : String) (hopening : w.a.tx = .opening it)
      (hstep : GatewayA.step sys.pipeline w.a (.txOpened (.ok ())) = some w'.a)
      (hlinks : w'.links = Link.connect sys it peerFingerprint :: w.links)
  | returned (link : Link) (rest : List Link) (success : Bool) (reason : PyVal)
      (hlink : w.links = link :: rest) (hsession : link.session = .returned (success, reason))
      (hstep : GatewayA.step sys.pipeline w.a (.txSent success reason) = some w'.a)
      (hlinks : w'.links = w.links)
  | link (before : List Link) (link link' : Link) (after : List Link) (hsame : w'.a = w.a)
      (hlinks : w.links = before ++ link :: after) (hlinks' : w'.links = before ++ link' :: after)
      (hkept : link.Kept sys link')

theorem moved_of_update {sys : System} {w w' : World} {i : Nat} {f : Link → Option Link}
    (hkept : ∀ link link', f link = some link' → link.Kept sys link')
    (h : w.update i f = some w') : Moved sys w w' := by
  simp only [World.update] at h
  split at h
  · simp at h
  · rename_i link hlink
    cases hf : f link with
    | none => rw [hf] at h; simp at h
    | some link' =>
      rw [hf] at h
      obtain rfl : _ = w' := by simpa using h
      obtain ⟨hi, rfl⟩ := List.getElem?_eq_some_iff.mp hlink
      refine .link (w.links.take i) w.links[i] link' (w.links.drop (i + 1)) rfl ?_ ?_
        (hkept _ _ hf)
      · simp
      · exact List.set_eq_take_cons_drop link' hi

theorem kept_resume {sys : System} {link link' : Link} (h : link.resume sys = some link') :
    link.Kept sys link' := by
  refine ⟨fun hvalid => hvalid.resume h, ?_, ?_⟩
  · unfold Link.resume at h
    split at h
    · simp at h
    · simp only at h
      split at h
      · obtain rfl : _ = link' := by simpa using h
        rfl
      · simp at h
  · intro result hresult
    simp [Link.resume, hresult, Session.awaited] at h

theorem kept_interrupt {sys : System} {e : PyExc} {link link' : Link}
    (h : link.interrupt e = some link') : link.Kept sys link' := by
  refine ⟨fun hvalid => hvalid.interrupt h, ?_, ?_⟩
  · simp only [Link.interrupt] at h
    split at h
    · simp at h
    · obtain rfl : _ = link' := by simpa using h
      rfl
  · intro result hresult
    simp [Link.interrupt, hresult, Session.awaited] at h

theorem kept_read {sys : System} {n : Nat} {link link' : Link}
    (h : link.read sys n = some link') : link.Kept sys link' := by
  have hsame : link'.item = link.item ∧ link'.session = link.session := by
    unfold Link.read at h
    split at h
    · simp only at h
      split at h
      · simp at h
      · obtain rfl : _ = link' := by simpa using h
        exact ⟨rfl, rfl⟩
    · simp at h
  exact ⟨fun hvalid => hvalid.read h, hsame.1, fun _ hresult => hsame.2.trans hresult⟩

theorem kept_endRead {sys : System} {link link' : Link} (h : link.endRead sys = some link') :
    link.Kept sys link' := by
  have hsame : link'.item = link.item ∧ link'.session = link.session := by
    simp only [Link.endRead] at h
    split at h
    · obtain rfl : _ = link' := by simpa using h
      exact ⟨rfl, rfl⟩
    · simp at h
  exact ⟨fun hvalid => hvalid.endRead h, hsame.1, fun _ hresult => hsame.2.trans hresult⟩

theorem kept_answer {sys : System} {ans : (op : Call) → op.Ret} {link link' : Link}
    (h : link.answer sys ans = some link') : link.Kept sys link' := by
  have hsame : link'.item = link.item ∧ link'.session = link.session := by
    simp only [Link.answer] at h
    split at h
    · obtain rfl : _ = link' := by simpa using h
      exact ⟨rfl, rfl⟩
    · simp at h
  exact ⟨fun hvalid => hvalid.answer h, hsame.1, fun _ hresult => hsame.2.trans hresult⟩

/-- **What a step of the world can do.** -/
theorem moved_of_step {sys : System} {w w' : World} {m : Move} (h : sys.step w m = some w') :
    Moved sys w w' := by
  cases m with
  | pipeline l =>
    simp only [System.step] at h
    split at h
    · simp at h
    · rename_i hl
      obtain ⟨a, hstep, rfl⟩ := Option.map_eq_some_iff.mp h
      exact .pipeline l (by simpa using hl) hstep rfl
  | connect peerFingerprint =>
    simp only [System.step] at h
    split at h
    · rename_i it hopening
      obtain ⟨a, hstep, rfl⟩ := Option.map_eq_some_iff.mp h
      exact .connect it peerFingerprint hopening hstep rfl
    · simp at h
  | resume =>
    simp only [System.step] at h
    split at h
    · exact moved_of_update (fun _ _ => kept_resume) h
    · simp at h
  | interrupt e =>
    simp only [System.step] at h
    split at h
    · exact moved_of_update (fun _ _ => kept_interrupt) h
    · simp at h
  | returned =>
    simp only [System.step] at h
    split at h
    · simp at h
    · rename_i link rest hlinks
      split at h
      · rename_i success reason hsession
        obtain ⟨a, hstep, rfl⟩ := Option.map_eq_some_iff.mp h
        exact .returned link rest success reason hlinks hsession hstep rfl
      · simp at h
  | read i n => exact moved_of_update (fun _ _ => kept_read) h
  | endRead i => exact moved_of_update (fun _ _ => kept_endRead) h
  | answer i ans => exact moved_of_update (fun _ _ => kept_answer) h

/-- Gateway A runs in the world as it does alone. -/
theorem pipeline_reach {sys : System} {w : World} (hreach : Reach sys.step anyStep World.init w) :
    Reach (GatewayA.step sys.pipeline) anyStep State.init w.a := by
  apply hreach.project World.a
  intro w w' m h
  cases moved_of_step h with
  | pipeline l _ hstep _ => right; exact ⟨l, hstep⟩
  | connect _ _ _ hstep _ => right; exact ⟨_, hstep⟩
  | returned _ _ _ _ _ _ hstep _ => right; exact ⟨_, hstep⟩
  | link _ _ _ _ hsame _ _ _ => left; exact hsame

/-! ### The transmission and its connections -/

structure Linked (sys : System) (w : World) : Prop where
  valid : ∀ link ∈ w.links, link.Valid sys
  known : ∀ link ∈ w.links, Known sys.pipeline w.a.journal (.sending, link.item)
  sending : ∀ it, w.a.tx = .sending it → ∃ link rest, w.links = link :: rest ∧ link.item = it
  closing : ∀ it success reason, w.a.tx = .closing it success reason →
    ∃ link rest, w.links = link :: rest ∧ link.item = it ∧
      link.session = .returned (success, reason)
  acked : ∀ id ∈ ackedIds w.a.journal, ∃ link ∈ w.links, link.item.id = id ∧
    ∃ reason, link.session = .returned (true, reason)

/-- What a step of Gateway A leaves to show: nothing about old links, and the ACKED ones come
    from the link that is closed. -/
theorem Linked.pipeline {sys : System} {w w' : World} {l : Label} (h : Linked sys w)
    (hstep : GatewayA.step sys.pipeline w.a l = some w'.a)
    (hlinks : ∀ link ∈ w.links, link ∈ w'.links) :
    (∀ link ∈ w.links, Known sys.pipeline w'.a.journal (.sending, link.item)) ∧
      ∀ id ∈ ackedIds w'.a.journal, ∃ link ∈ w'.links, link.item.id = id ∧
        ∃ reason, link.session = .returned (true, reason) := by
  obtain ⟨es, hjournal, _⟩ := step_effect hstep
  constructor
  · intro link hlink
    rw [hjournal]
    exact (h.known link hlink).mono es
  · intro id hid
    rcases acked_of_step hstep hid with hold | ⟨it, reason, hclosing, rfl⟩
    · obtain ⟨link, hlink, hacked⟩ := h.acked id hold
      exact ⟨link, hlinks link hlink, hacked⟩
    · obtain ⟨link, rest, hhead, rfl, hsession⟩ := h.closing it true reason hclosing
      refine ⟨link, hlinks link ?_, rfl, reason, hsession⟩
      rw [hhead]
      exact List.mem_cons_self

/-- A new connection, for the transaction at the head of the line. -/
theorem Linked.connect {sys : System} {w w' : World} {it : Item} {peerFingerprint : String}
    (h : Linked sys w) (htraced : Traced sys.pipeline w.a) (hopening : w.a.tx = .opening it)
    (hstepA : GatewayA.step sys.pipeline w.a (.txOpened (.ok ())) = some w'.a)
    (hlinks : w'.links = Link.connect sys it peerFingerprint :: w.links) : Linked sys w' := by
  obtain ⟨hknown, hacked⟩ := h.pipeline hstepA (by
    rw [hlinks]; exact fun _ hlink => List.mem_cons_of_mem _ hlink)
  have hafter : w'.a.tx = .sending it := by
    simp only [GatewayA.step, hopening] at hstepA
    rw [← Option.some.inj hstepA]
    rfl
  refine ⟨?_, ?_, ?_, ?_, hacked⟩
  · intro link hlink
    rw [hlinks] at hlink
    rcases List.mem_cons.mp hlink with rfl | hlink
    · exact Link.valid_connect it peerFingerprint
    · exact h.valid link hlink
  · intro link hlink
    rw [hlinks] at hlink
    rcases List.mem_cons.mp hlink with rfl | hlink
    · -- the transaction stands at the head of the line
      obtain ⟨es, hjournal, _⟩ := step_effect hstepA
      rw [hjournal]
      refine (htraced.checked.inLine (.sending, it) ?_).mono es
      simp [line, hopening, TxPc.held]
    · exact hknown link hlink
  · intro it' hsending
    rw [hafter] at hsending
    obtain rfl : it = it' := by simpa using hsending
    exact ⟨_, _, hlinks, rfl⟩
  · intro it' success reason hclosing
    rw [hafter] at hclosing
    simp at hclosing

/-- The session of the newest connection is over. -/
theorem Linked.returned {sys : System} {w w' : World} {link : Link} {rest : List Link}
    {success : Bool} {reason : PyVal} (h : Linked sys w) (hlink : w.links = link :: rest)
    (hsession : link.session = .returned (success, reason))
    (hstepA : GatewayA.step sys.pipeline w.a (.txSent success reason) = some w'.a)
    (hlinks : w'.links = w.links) : Linked sys w' := by
  obtain ⟨hknown, hacked⟩ := h.pipeline hstepA (by rw [hlinks]; exact fun _ hlink => hlink)
  obtain ⟨it, hbefore, hafter⟩ :
      ∃ it, w.a.tx = .sending it ∧ w'.a.tx = .closing it success reason := by
    simp only [GatewayA.step] at hstepA
    split at hstepA
    · rename_i it hpc
      exact ⟨it, hpc, by rw [← Option.some.inj hstepA]⟩
    · simp at hstepA
  refine ⟨by rw [hlinks]; exact h.valid, by rw [hlinks]; exact hknown, ?_, ?_, hacked⟩
  · intro it' hsending
    rw [hafter] at hsending
    simp at hsending
  · intro it' success' reason' hclosing
    rw [hafter] at hclosing
    obtain ⟨rfl, rfl, rfl⟩ : it = it' ∧ success = success' ∧ reason = reason' := by
      simpa using hclosing
    obtain ⟨head, rest', hhead, hitem⟩ := h.sending it hbefore
    rw [hlink] at hhead
    obtain ⟨rfl, _⟩ := List.cons.inj hhead
    exact ⟨link, rest, hlinks.trans hlink, hitem, hsession⟩

/-- A connection goes on. -/
theorem Linked.update {sys : System} {w w' : World} {link link' : Link} {before after : List Link}
    (h : Linked sys w) (hsame : w'.a = w.a) (hlinks : w.links = before ++ link :: after)
    (hlinks' : w'.links = before ++ link' :: after) (hkept : link.Kept sys link') :
    Linked sys w' := by
  -- the head is the link that changed, or the one it was
  have hhead : ∀ head rest, w.links = head :: rest → ∃ head' rest', w'.links = head' :: rest' ∧
      head'.item = head.item ∧
      ∀ result, head.session = .returned result → head'.session = .returned result := by
    intro head rest hw
    rw [hlinks']
    cases before with
    | nil =>
      rw [hlinks] at hw
      obtain ⟨rfl, _⟩ := List.cons.inj hw
      exact ⟨link', after, rfl, hkept.item, hkept.session⟩
    | cons first before =>
      rw [hlinks] at hw
      obtain ⟨rfl, _⟩ := List.cons.inj hw
      exact ⟨first, before ++ link' :: after, rfl, rfl, fun _ hresult => hresult⟩
  have hmem : ∀ other ∈ w'.links, other = link' ∨ other ∈ w.links := by
    intro other hother
    rw [hlinks'] at hother
    rw [hlinks]
    simp only [List.mem_append, List.mem_cons] at hother ⊢
    rcases hother with hother | rfl | hother
    · exact Or.inr (Or.inl hother)
    · exact Or.inl rfl
    · exact Or.inr (Or.inr (Or.inr hother))
  have hlink : link ∈ w.links := by rw [hlinks]; simp
  refine ⟨?_, ?_, ?_, ?_, ?_⟩
  · intro other hother
    rcases hmem other hother with rfl | hother
    · exact hkept.valid (h.valid link hlink)
    · exact h.valid other hother
  · intro other hother
    rw [hsame]
    rcases hmem other hother with rfl | hother
    · rw [hkept.item]
      exact h.known link hlink
    · exact h.known other hother
  · intro it hsending
    rw [hsame] at hsending
    obtain ⟨head, rest, hw, hitem⟩ := h.sending it hsending
    obtain ⟨head', rest', hw', hitem', _⟩ := hhead head rest hw
    exact ⟨head', rest', hw', hitem'.trans hitem⟩
  · intro it success reason hclosing
    rw [hsame] at hclosing
    obtain ⟨head, rest, hw, hitem, hsession⟩ := h.closing it success reason hclosing
    obtain ⟨head', rest', hw', hitem', hsession'⟩ := hhead head rest hw
    exact ⟨head', rest', hw', hitem'.trans hitem, hsession' _ hsession⟩
  · intro id hid
    rw [hsame] at hid
    obtain ⟨other, hother, hid', reason, hsession⟩ := h.acked id hid
    rw [hlinks] at hother
    rw [hlinks']
    simp only [List.mem_append, List.mem_cons] at hother
    rcases hother with hother | rfl | hother
    · exact ⟨other, by simp [hother], hid', reason, hsession⟩
    · exact ⟨link', by simp, by rw [hkept.item]; exact hid', reason,
        hkept.session _ hsession⟩
    · exact ⟨other, by simp [hother], hid', reason, hsession⟩

theorem Linked.step {sys : System} {w w' : World} {m : Move} (h : Linked sys w)
    (htraced : Traced sys.pipeline w.a) (hstep : sys.step w m = some w') : Linked sys w' := by
  cases moved_of_step hstep with
  | pipeline l hl hstepA hlinks =>
    obtain ⟨hknown, hacked⟩ := h.pipeline hstepA (by rw [hlinks]; exact fun _ hlink => hlink)
    obtain ⟨_, _, hmove⟩ := step_tx hstepA
    have hpc : w'.a.tx.apart = false → w'.a.tx = w.a.tx := by
      intro hopen
      rcases hmove.session hopen with hsame | ⟨_, rfl, _⟩ | ⟨_, _, _, rfl, _⟩
      · exact hsame
      · simp [overLink] at hl
      · simp [overLink] at hl
    refine ⟨by rw [hlinks]; exact h.valid, by rw [hlinks]; exact hknown, ?_, ?_, hacked⟩
    · intro it hsending
      rw [hlinks]
      apply h.sending it
      rw [← hpc (by rw [hsending]; rfl), hsending]
    · intro it success reason hclosing
      rw [hlinks]
      apply h.closing it success reason
      rw [← hpc (by rw [hclosing]; rfl), hclosing]
  | connect it peerFingerprint hopening hstepA hlinks =>
    exact h.connect htraced hopening hstepA hlinks
  | returned link rest success reason hlink hsession hstepA hlinks =>
    exact h.returned hlink hsession hstepA hlinks
  | link before link link' after hsame hlinks hlinks' hkept =>
    exact h.update hsame hlinks hlinks' hkept

theorem linked_of_reach {sys : System} {w : World}
    (hreach : Reach sys.step anyStep World.init w) : Linked sys w := by
  apply hreach.invariant_of_reach
  · refine ⟨?_, ?_, ?_, ?_, ?_⟩
    · intro link hlink
      simp [World.init] at hlink
    · intro link hlink
      simp [World.init] at hlink
    · intro it hsending
      simp [World.init, State.init] at hsending
    · intro it success reason hclosing
      simp [World.init, State.init] at hclosing
    · intro id hid
      simp [World.init, State.init, ackedIds] at hid
  · intro w w' m hbefore h _ hstep
    exact h.step (traced_of_reach (pipeline_reach hbefore)) hstep

/-! ### Agreement -/

/-- Gateway B took the transaction in on this connection, and Gateway A read its ACK. -/
structure TakenIn (sys : System) (t : Item) (link : Link) (b : PyVal) : Prop where
  own : link.item.id = t.id
  /-- The bundle is the one of the transaction. -/
  bundle : sys.gateway.loads t.tx.stixBundle.rawJson = .ok b
  trusted : ∃ agency, Trusted sys.gateway link.peerFingerprint t.tx.senderId agency
  allowed : InboundPep.Allows sys.gateway.rules t.tx.senderId t.tx.recipientId
    t.tx.stixBundle.tlpMarking.value
  ingested : ∃ before after,
    link.history = before ++ ⟨.write (ackFrame t.id), ()⟩ :: after ∧
    ⟨.ingestBundle b, true⟩ ∈ before
  received : link.received = ackFrame t.id

/-- **What is ACKED was ingested**, on a connection of its own. -/
theorem acked_agreement (sys : System) (hpb : sys.gateway.protobuf.RoundTrips)
    (hzlib : ∀ data, sys.decompress (sys.pipeline.compress data) = .ok data) {w : World}
    (hreach : Reach sys.step anyStep World.init w) {t : Item}
    (hcreated : .created t ∈ w.a.journal) (hacked : t.id ∈ ackedIds w.a.journal) :
    ∃ link ∈ w.links, ∃ b, TakenIn sys t link b := by
  have hlinked := linked_of_reach hreach
  obtain ⟨link, hlink, hid, reason, hsession⟩ := hlinked.acked t.id hacked
  obtain ⟨env, b, before, after, henv, hhistory, hingested, hadmitted, hreceived⟩ :=
    (hlinked.valid link hlink).acknowledged hpb hsession rfl
  have hknown := hlinked.known link hlink
  have hvetted : Vetted sys.pipeline link.item w.a.journal := hknown.holds
  obtain ⟨t', hcreated', hsame⟩ := hknown.origin
  have hids := (traced_of_reach (pipeline_reach hreach)).ordered.ids
  obtain rfl : t = t' := created_eq_of_id hids hcreated hcreated'
    (hid.symm.trans (congrArg Prod.fst hsame.key))
  have htx := envelope_transactionId henv
  obtain ⟨hsender, hrecipient, hmarking, hcompressed⟩ :=
    envelope_of_compressed henv hvetted.compressed
  obtain ⟨agency, _, htrusted, _, _⟩ := hadmitted.signed
  obtain ⟨stixBytes, hinflated, hloads, _⟩ := hadmitted.bundle
  refine ⟨link, hlink, b, hid, ?_, ⟨agency, ?_⟩, ?_, ⟨before, after, ?_, hingested⟩, ?_⟩
  · -- what was decompressed is what was compressed
    have hmem : ⟨.decompress env.stixBundleCompressed, .ok stixBytes⟩ ∈ link.history := by
      rw [hhistory]
      exact List.mem_append_left _ hinflated
    have hdata := (hlinked.valid link hlink).inflated _ _ hmem
    rw [hcompressed, Item.compressed, hzlib, hsame.stixBundle] at hdata
    obtain rfl : stixBytes = t.tx.stixBundle.rawJson := by simpa using hdata
    exact hloads
  · rw [← hsame.senderId, ← hsender]
    exact htrusted
  · rw [← hsame.senderId, ← hsame.recipientId, ← hsame.stixBundle, ← hsender, ← hrecipient,
      ← hmarking]
    exact hadmitted.allowed
  · rw [hhistory, htx, ← hid]
  · rw [hreceived, htx, ← hid]

/-! ### One delivery

The event and the keys of the two gateways' samples, with a zlib and a JSON parser that
agree with the real ones on their bytes. -/

namespace Sample

def compress (data : Bytes) : Bytes :=
  if data = GatewayB.Sample.rawJson then GatewayB.Sample.compressed else 0 :: data

def decompress (data : Bytes) : Except PyExc Bytes :=
  if data = GatewayB.Sample.compressed then .ok GatewayB.Sample.rawJson
  else
    match data with
    | 0 :: data => .ok data
    | _ => .error ⟨.other "zlib.error", "incorrect header check"⟩

def loads (data : Bytes) : Except PyExc PyVal :=
  if data = ackPayload GatewayB.Sample.txId then
    .ok (.dict [(.str "transaction_id", .str GatewayB.Sample.txId)])
  else GatewayB.Sample.loads data

def system : System where
  pipeline := { GatewayA.Sample.pipeline with compress := compress }
  gateway := { GatewayB.Sample.gateway with loads := loads }
  decompress := decompress

/-- Everything Gateway B asks for succeeds. -/
def welcome (op : Call) : op.Ret :=
  match op with
  | .timeNs => (0 : Nat)
  | .verifySignature _ _ _ => true
  | .decompress data => decompress data
  | .ingestBundle _ => true
  | .write _ => ()
  | .drain => .ok ()
  | .logTelemetryB _ _ _ _ _ => ()
  | .close => ()
  | .waitClosed => .ok ()

def labels : List Label :=
  GatewayA.Sample.extract GatewayB.Sample.txId ++
    [.signerGet (.ok GatewayB.Sample.signature), .signerPut, .pepLoop, .pepGet none, .pepPut,
     .txLoop, .txGet]

/-- Up to the first attempt. -/
def submit : List Move := labels.map .pipeline

/-- One connection, up to the ACK of Gateway B. -/
def receive : List Move :=
  [.connect "9f86d081884c7d65", .resume, .read 0 4096] ++ List.replicate 8 (.answer 0 welcome)

/-- Gateway A reads the ACK. -/
def accept : List Move := [.resume, .resume, .resume, .returned, .pipeline .txClosed]

theorem roundTrips : system.gateway.protobuf.RoundTrips := by
  intro env data h
  change GatewayB.Sample.protobuf.serializeToString env = .ok data at h
  change GatewayB.Sample.protobuf.parseFromString data = .ok env
  simp only [GatewayB.Sample.protobuf] at h ⊢
  by_cases henv : env = GatewayB.Sample.envelope.toProto
  · rw [if_pos henv] at h
    obtain rfl : GatewayB.Sample.payload = data := by simpa using h
    rw [if_pos rfl, henv]
  · rw [if_neg henv] at h
    simp at h

theorem decompress_compress (data : Bytes) :
    system.decompress (system.pipeline.compress data) = .ok data := by
  change decompress (compress data) = .ok data
  simp only [compress]
  by_cases hraw : data = GatewayB.Sample.rawJson
  · rw [if_pos hraw, hraw]
    exact if_pos rfl
  · rw [if_neg hraw]
    have hne : ¬ (0 :: data) = GatewayB.Sample.compressed := by
      intro heq
      have hhead := List.head_eq_of_cons_eq heq
      exact absurd hhead (by decide)
    unfold decompress
    rw [if_neg hne]
    rfl

end Sample

/-- The sample transaction is ACKED, and was taken in. -/
theorem sample_acked_agreement :
    ∃ w t link b, Reach Sample.system.step anyStep World.init w ∧ .created t ∈ w.a.journal ∧
      t.id = "5d2f6645-8f64-4e20-b42e-131c950d210f" ∧ t.id ∈ ackedIds w.a.journal ∧
      link ∈ w.links ∧ TakenIn Sample.system t link b := by
  have hrun : (runLabels Sample.system.step World.init
      (Sample.submit ++ Sample.receive ++ Sample.accept)).map
        (fun w => decide ("5d2f6645-8f64-4e20-b42e-131c950d210f" ∈ createdIds w.a.journal ∧
          "5d2f6645-8f64-4e20-b42e-131c950d210f" ∈ ackedIds w.a.journal)) = some true := by
    decide +kernel
  obtain ⟨w, hreach, hend⟩ := Reach.exists_of_run (fun _ _ _ => trivial) hrun
  obtain ⟨hcreated, hacked⟩ := of_decide_eq_true hend
  obtain ⟨t, ht, hid⟩ := exists_created hcreated
  obtain ⟨link, hlink, b, htaken⟩ := acked_agreement Sample.system Sample.roundTrips
    Sample.decompress_compress hreach ht (hid ▸ hacked)
  exact ⟨w, t, link, b, hreach, ht, hid, hid ▸ hacked, hlink, htaken⟩

end QsTie.Exchange
