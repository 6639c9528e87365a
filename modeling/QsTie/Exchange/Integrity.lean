import QsTie.Exchange.Relay

/-!
# What is taken in over a session

A bundle that Gateway B hands to its ingestor on the connection of a session is the
one of the transaction that the session is for, as Gateway A created it.  Its policy
had released it, and the signature that Gateway B found valid is the one that its
signer had made (`taken_in_as_sent`).  It does not matter whether the session is cut
or interrupted, or what the other connections bring.
-/

namespace QsTie.Exchange

open QsTie.Lib QsTie.GatewayA QsTie.GatewayB

/-- The bundle of the transaction, signed and released by Gateway A, verified and allowed by
    Gateway B. -/
structure AsSent {Key : Type} (relay : Relay Key) (j : Journal) (peer : Peer) (t : Item)
    (b : PyVal) : Prop where
  bundle : relay.site.proto.loads t.tx.stixBundle.rawJson = .ok b
  /-- The signature that was made is the one that is verified, over the same bytes. -/
  signed : ∃ signature,
    .sign t.id (t.compressed relay.pipeline.compress) (.ok signature) ∈ j ∧
    ∃ agency pubkeyPath, Trusted relay.site.proto peer.fingerprint t.tx.senderId agency ∧
      agency.get? "payload_signing_public_key_path" = some pubkeyPath ∧
      (relay.site.outside peer).verifySignature (t.compressed relay.pipeline.compress) signature
        pubkeyPath = true
  released : relay.pipeline.pep.Allows t.tx.stixBundle.tlpMarking t.tx.recipientId
  allowed : InboundPep.Allows relay.site.proto.rules t.tx.senderId t.tx.recipientId
    t.tx.stixBundle.tlpMarking.value

variable {Key : Type} {relay : Relay Key}

/-- What Gateway B admits of the envelope of a transaction that Gateway A has vetted. -/
theorem asSent_of_verdict {j : Journal} {it t : Item} {peer : Peer} {env : TransactionEnvelope}
    {b : PyVal}
    (hzlib : ∀ data, relay.site.decompress (relay.pipeline.compress data) = .ok data)
    (hvetted : Vetted relay.pipeline it j) (hsame : it.Continues t)
    (henv : it.tx.envelope = .ok env)
    (hverdict : verdict relay.site.proto (relay.site.outside peer) peer.fingerprint env = .ok b) :
    AsSent relay j peer t b := by
  obtain ⟨_, ⟨agency, pubkeyPath, htrusted, hpath, hverified⟩, hallowed, stixBytes, hinflated,
    hloads, _⟩ := verdict_eq_ok.mp hverdict
  obtain ⟨hsender, hrecipient, hmarking, hcompressed⟩ :=
    envelope_of_compressed henv hvetted.compressed
  have hsignature : env.signature = it.tx.signature := by
    simp only [GatewayATransaction.envelope, hvetted.compressed] at henv
    rw [← Except.ok.inj henv]
  have hpayload : it.compressed relay.pipeline.compress =
      t.compressed relay.pipeline.compress := by
    rw [Item.compressed, Item.compressed, hsame.stixBundle]
  have hid : it.id = t.id := congrArg Prod.fst hsame.key
  obtain ⟨before, after, reason, hauthorized, hsigned, hj⟩ := hvetted.authorized
  refine ⟨?_, ⟨it.tx.signature, ?_, agency, pubkeyPath, ?_, hpath, ?_⟩, ?_, ?_⟩
  · -- what was decompressed is what was compressed
    have hinflated' : relay.site.decompress env.stixBundleCompressed = .ok stixBytes := hinflated
    rw [hcompressed, Item.compressed, hzlib, hsame.stixBundle] at hinflated'
    rw [Except.ok.inj hinflated']
    exact hloads
  · rw [hj, ← hpayload, ← hid]
    exact List.mem_append_left _ hsigned
  · rw [← hsame.senderId, ← hsender]
    exact htrusted
  · rw [← hpayload, ← hcompressed, ← hsignature]
    exact hverified
  · apply relay.pipeline.pep.authorize_eq_true.mp
    rw [← hsame.stixBundle, ← hsame.recipientId, hauthorized]
  · rw [← hsame.senderId, ← hsame.recipientId, ← hsame.stixBundle, ← hsender, ← hrecipient,
      ← hmarking]
    exact hallowed

/-- **What is taken in over a session is what was sent**: the bundle of a transaction that
    Gateway A created, signed and released. -/
theorem taken_in_as_sent {Key : Type} (relay : Relay Key) (peers : List Peer)
    (htrusts : relay.Trusts)
    (hzlib : ∀ data, relay.site.decompress (relay.pipeline.compress data) = .ok data)
    {w : Joint Key} (hreach : Reach relay.step anyStep (relay.start peers) w)
    (hfit : ∀ id ∈ createdIds w.a.journal, ResponsesFit id) {c : Contact} (hc : c ∈ w.contacts)
    {task : GatewayB.Task} (htask : w.srv.tasks[c.conn]? = some task) {b : PyVal}
    (hb : b ∈ ingested task.history) :
    ∃ t, .created t ∈ w.a.journal ∧ t.id = c.item.id ∧ AsSent relay w.a.journal task.peer t b := by
  have hjoined := joined_of_reach htrusts hreach hfit
  obtain ⟨task', htask', hmeets⟩ := hjoined.meets c hc
  obtain rfl : task' = task := Option.some.inj (htask'.symm.trans htask)
  obtain ⟨payload, env, hframe, henv, hverdict⟩ := admitted_of_ingested htrusts.paths
    (Relay.reach_server hreach) (List.mem_of_getElem? htask) hb
  have hown := Relay.envelope_of_carries htrusts.protobuf hmeets.carries hframe henv
  have hknown := hjoined.known c hc
  obtain ⟨t, hcreated, hsame⟩ := hknown.origin
  have hid : c.item.id = t.id := congrArg Prod.fst hsame.key
  exact ⟨t, hcreated, hid.symm, asSent_of_verdict hzlib hknown.holds hsame hown hverdict⟩

/-- The sample transaction, in the first of its two sessions, which is interrupted. -/
theorem sample_taken_in_as_sent :
    ∃ w c task b t, Reach Sample.relay.step anyStep (Sample.relay.start GatewayB.Sample.peers) w ∧
      c ∈ w.contacts ∧ c.interrupted = true ∧ w.srv.tasks[c.conn]? = some task ∧
      b ∈ ingested task.history ∧ t.id = c.item.id ∧
      AsSent Sample.relay w.a.journal task.peer t b := by
  have hrun : (runLabels Sample.relay.step (Sample.relay.start GatewayB.Sample.peers)
      (Sample.labels.map .pipeline ++ Sample.sendTwice)).map (fun w =>
        createdIds w.a.journal == [GatewayB.Sample.txId] &&
        w.contacts.any fun c => c.interrupted &&
          (w.srv.tasks[c.conn]?).any fun task => !(ingested task.history).isEmpty) =
        some true := by
    decide +kernel
  obtain ⟨w, hreach, hend⟩ := Reach.exists_of_run (fun _ _ _ => trivial) hrun
  simp only [Bool.and_eq_true, beq_iff_eq, List.any_eq_true, Option.any_eq_true] at hend
  obtain ⟨hcreated, c, hc, hinterrupted, task, htask, hingested⟩ := hend
  obtain ⟨b, rest, hb⟩ : ∃ b rest, ingested task.history = b :: rest := by
    cases h : ingested task.history with
    | nil => simp [h] at hingested
    | cons b rest => exact ⟨b, rest, rfl⟩
  have hb : b ∈ ingested task.history := by
    rw [hb]
    exact List.mem_cons_self
  obtain ⟨t, _, hid, hsent⟩ := taken_in_as_sent Sample.relay _ Sample.trusts
    Sample.decompress_compress hreach (Sample.responsesFit_of_created hcreated) hc htask hb
  exact ⟨w, c, task, b, t, hreach, hc, hinterrupted, htask, hb, hid, hsent⟩

end QsTie.Exchange
