import QsTie.Exchange.Reply
import QsTie.GatewayA.Signer
import QsTie.Trust.Authority

/-!
# From the authority to the ingestor

The keys, certificates and the trust bundle that the two gateways work with are
files that `qstie-ca` wrote.  Here one run of its commands is put together with a
Gateway B that loads its trust store and its keys from the disk that the run left,
and with a signer of Gateway A that loads its private key from there.

Each process has its own directory, and so its own names for the files.  Whatever
is ingested was then signed under the key pair, and came over the certificate, that
the authority issued for its sender (`authentic`).  And a bundle that is signed with
the issued key and sent over the issued certificate is ingested and acknowledged, if
it is not revoked and the inbound policy allows it (`delivered`).  Both hold of every
order in which the server serves its connections.
-/

namespace QsTie.Exchange

open QsTie.Lib QsTie.GatewayA QsTie.GatewayB QsTie.Trust

/-- Gateway A, as far as its envelopes depend on it. -/
structure Sender (Priv : Type) where
  signing : SigningLibrary Priv
  privateKeyPath : String
  compress : Bytes → Bytes
  /-- `json.loads(payload.decode('utf-8'))`. -/
  loads : Bytes → Except PyExc PyVal

/-- The signer worker has compressed the bundle of the transaction and signed it with the key
    at the path. -/
structure Sender.Signed {Priv : Type} (sender : Sender Priv) (tx : GatewayATransaction) :
    Prop where
  compressed : tx.stixBundleCompressed = some (sender.compress tx.stixBundle.rawJson)
  signed : ∃ signer draw, MlDsaSigner.init sender.signing sender.privateKeyPath = .ok signer ∧
    signer.sign sender.signing draw (sender.compress tx.stixBundle.rawJson) = .ok tx.signature

/-- What the worker does to a transaction of the pipeline, and the rest of the pipeline does
    not undo. -/
theorem Sender.signed_signedBy {Priv : Type} (sender : Sender Priv) (p : Pipeline)
    (hcompress : p.compress = sender.compress) {signer : MlDsaSigner Priv}
    (hinit : MlDsaSigner.init sender.signing sender.privateKeyPath = .ok signer) (it : Item)
    {draw : Nat} {signature : Bytes}
    (hsign : signer.sign sender.signing draw (it.compressed p.compress) = .ok signature) :
    sender.Signed (it.signedBy p signature).approved.nextAttempt.tx := by
  rw [Item.compressed, hcompress] at hsign
  refine ⟨?_, signer, draw, hinit, hsign⟩
  rw [← hcompress]
  rfl

section Provision

variable {Cert Key Priv File : Type} [DecidableEq File] (lib : AuthorityLibrary Cert Key Priv)
  (names : Names File)

/-! ### A run of the authority -/

/-- A run of `qstie-ca` in which a trust bundle was exported, and not written over since. -/
structure Provision where
  disk : Storage File
  before : List Invocation
  bundling : Invocation
  after : List Invocation
  args : ExportArgs
  command : bundling.command = .exportTrustBundle args
  completes : Completes lib names (invokeAll lib names disk before) bundling
  spared : Spared lib names bundling.command after

namespace Provision

variable {lib names} (prov : Provision lib names)

/-- The files the command sees. -/
def exported : Storage File := invokeAll lib names prov.disk prov.before

/-- The files in the end. -/
def final : Storage File :=
  invokeAll lib names prov.disk (prov.before ++ prov.bundling :: prov.after)

/-- A command that was run to its end before the export, with different files to write to, and
    whose files were not written to again. -/
def Stands (command : Command) : Prop :=
  command.Apart lib names ∧
    ∃ pre call post, prov.before = pre ++ call :: post ∧ call.command = command ∧
      Completes lib names (invokeAll lib names prov.disk pre) call ∧
      Spared lib names command (post ++ prov.bundling :: prov.after)

/-- The commands that issued the certificate and the signing key which the bundle lists for an
    agency. -/
structure Provides (id : String) (certArgs : IssueCertArgs) (keyArgs : IssueKeyArgs) : Prop where
  certificate : prov.Stands (.issueGatewayCert certArgs)
  signingKey : prov.Stands (.issueSigningKey keyArgs)
  certFile : names.locate (certArgs.certPath (lib.lower certArgs.agencyId)) =
    names.locate (prov.args.certPath (lib.lower id))
  keyFile : names.locate (keyArgs.pubPath (lib.lower keyArgs.agencyId)) =
    names.locate (prov.args.pubPath (lib.lower id))

/-- Gateway B, with its names for the files, on the files in the end: it loads the bundle and a
    revocation list, and the path in the bundle, from its base directory, names the file of each
    listed key. -/
structure Deployed (namesB : Names File) (revocations : String) (site : Site Key) : Prop where
  trustStore : TrustStore.load (yamlAt lib names prov.final prov.args.out)
    (yamlAt lib names prov.final revocations) = .ok site.proto.trustStore
  readFile : site.keys.readFile = FileSystem.read prov.final.content namesB
  loadPem : site.keys.loadPemPublicKey = lib.loadPemPublicKey
  base : ∀ id ∈ prov.args.listed,
    namesB.locate (site.pkiBaseDir ++ "/" ++ prov.args.pubPathRel (lib.lower id)) =
      names.locate (prov.args.pubPath (lib.lower id))

end Provision

/-- What the files of an agency hold: a certificate with its private key, and a pair of
    signing keys. -/
structure Credentials (fs : FileSystem File) (certArgs : IssueCertArgs) (keyArgs : IssueKeyArgs)
    (cert : Cert) (tlsKey signingKey : Priv) : Prop where
  pair : CertPair lib names fs (certArgs.certPath (lib.lower certArgs.agencyId))
    (certArgs.keyPath (lib.lower certArgs.agencyId)) cert tlsKey
  organization : (.organizationName, certArgs.agencyId) ∈ (lib.fields cert).subjectName
  privateKey : loadPrivateKey lib names fs (keyArgs.privPath (lib.lower keyArgs.agencyId)) =
    .ok signingKey
  publicKey : loadPublicKey lib names fs (keyArgs.pubPath (lib.lower keyArgs.agencyId)) =
    .ok (lib.publicKey signingKey)

variable {lib names} {prov : Provision lib names}

/-! ### What stays -/

theorem Provision.exported_of_split {pre post : List Invocation} {call : Invocation}
    (hsplit : prov.before = pre ++ call :: post) :
    prov.exported = invokeAll lib names (invoke lib names (invokeAll lib names prov.disk pre) call)
      post := by
  rw [exported, hsplit, invokeAll_cons_append]

theorem Provision.final_eq : prov.final =
    invokeAll lib names (invoke lib names prov.exported prov.bundling) prov.after := by
  rw [final, invokeAll_cons_append]
  rfl

/-- What a command left is there when the bundle is exported, and in the end the same. -/
theorem Provision.Stands.issued (hlib : lib.Lawful) {command : Command}
    (h : prov.Stands command) :
    Issued lib names prov.exported.content command ∧
      ∀ file ∈ command.outputs lib names,
        prov.final.content file = prov.exported.content file := by
  obtain ⟨happart, pre, call, post, hsplit, rfl, hcompletes, hspared⟩ := h
  have hpost : Spared lib names call.command post := fun other hother =>
    hspared other (List.mem_append_left _ hother)
  have hrest : Spared lib names call.command (prov.bundling :: prov.after) := fun other hother =>
    hspared other (List.mem_append_right _ hother)
  refine ⟨?_, ?_⟩
  · rw [Provision.exported_of_split hsplit]
    apply (issued_of_completes hlib happart hcompletes).congr
    intro file hfile
    exact hpost.content hfile
  · intro file hfile
    rw [Provision.final_eq]
    exact hrest.content hfile

/-- The credentials of an agency, when the bundle is exported and in the end. -/
theorem Provision.Provides.credentials (hlib : lib.Lawful) {id : String}
    {certArgs : IssueCertArgs} {keyArgs : IssueKeyArgs}
    (h : prov.Provides id certArgs keyArgs) :
    ∃ cert tlsKey signingKey,
      Credentials lib names prov.exported.content certArgs keyArgs cert tlsKey signingKey ∧
      Credentials lib names prov.final.content certArgs keyArgs cert tlsKey signingKey := by
  obtain ⟨⟨cert, tlsKey, hpair, horganization⟩, hcertFiles⟩ := h.certificate.issued hlib
  obtain ⟨⟨signingKey, hprivate, hpublic⟩, hkeyFiles⟩ := h.signingKey.issued hlib
  refine ⟨cert, tlsKey, signingKey, ⟨hpair, horganization, hprivate, hpublic⟩, ?_⟩
  refine ⟨?_, horganization, ?_, ?_⟩
  · apply hpair.congr <;> apply hcertFiles <;> simp [Command.outputs]
  · rw [← hprivate]
    simp only [loadPrivateKey, FileSystem.read]
    rw [hkeyFiles _ (by simp [Command.outputs])]
  · rw [← hpublic]
    simp only [loadPublicKey, FileSystem.read]
    rw [hkeyFiles _ (by simp [Command.outputs])]

/-! ### The bundle -/

variable {namesA namesB : Names File} {revocations : String} {site : Site Key}

/-- The bundle is on the disk in the end, with the entries of the listed agencies. -/
theorem Provision.exists_bundle (hyaml : ∀ entries,
      lib.safeLoad (lib.dump (TrustBundleEntry.bundle entries)) =
        .ok (TrustBundleEntry.bundle entries)) (prov : Provision lib names) :
    ∃ entries, yamlAt lib names prov.final prov.args.out =
        some (.ok (TrustBundleEntry.bundle entries)) ∧
      List.Forall₂ (fun agency entry => exportAgency lib.toPkiLibrary names
          (machineOn prov.exported prov.bundling.around) prov.args agency = .ok entry)
        prov.args.listed entries := by
  obtain ⟨ops, hops, hinvoke⟩ := invoke_of_completes prov.completes
  rw [prov.command] at hops
  obtain ⟨_, -, hops⟩ := except_bind_eq_ok.mp hops
  obtain ⟨entries, hentries, hops⟩ := except_bind_eq_ok.mp hops
  obtain rfl : _ = ops := Except.ok.inj hops
  refine ⟨entries, ?_, mapM_eq_ok hentries⟩
  -- the output is still what was written to it
  have hfile : prov.final.content (names.locate prov.args.out) =
      some (.ok (lib.dump (TrustBundleEntry.bundle entries))) := by
    rw [Provision.final_eq, prov.spared.content (by simp [prov.command, Command.outputs]),
      Provision.exported, hinvoke]
    exact content_writeFile _ _ _ _
  rw [yamlAt, hfile, Option.map_some, Except.bind, hyaml]

/-- The store that Gateway B makes of it. -/
theorem Provision.Deployed.bundle (hyaml : ∀ entries,
      lib.safeLoad (lib.dump (TrustBundleEntry.bundle entries)) =
        .ok (TrustBundleEntry.bundle entries))
    (hdeployed : prov.Deployed namesB revocations site) :
    ∃ entries revoked, site.proto.trustStore = bundleStore entries revoked ∧
      List.Forall₂ (fun agency entry => exportAgency lib.toPkiLibrary names
          (machineOn prov.exported prov.bundling.around) prov.args agency = .ok entry)
        prov.args.listed entries := by
  obtain ⟨entries, hyamlFile, hentries⟩ := prov.exists_bundle hyaml
  have hload := hdeployed.trustStore
  rw [hyamlFile] at hload
  obtain ⟨revData, hrevFile, hrevoked⟩ := load_revoked_eq hload
  rw [hrevFile] at hload
  simp only [TrustStore.load, loadAgencies_bundle, hrevoked] at hload
  exact ⟨entries, _, (Except.ok.inj hload).symm, hentries⟩

/-- What the store of Gateway B has for an agency with these artifacts. -/
def Provision.entry (prov : Provision lib names) (id : String) (cert : Cert) (pubKey : Key) :
    PyDict :=
  (entryOf lib.toPkiLibrary (machineOn prov.exported prov.bundling.around) prov.args id
    (cert, pubKey)).items

/-- The store knows the listed agencies and no others, each by what its files held when the
    bundle was exported. -/
theorem Provision.Deployed.getAgency (hpki : lib.toPkiLibrary.Lawful prov.args)
    (hdeployed : prov.Deployed namesB revocations site) (id : String) :
    (id ∈ prov.args.listed ∧ ∃ cert pubKey,
      loadCert lib names prov.exported.content (prov.args.certPath (lib.lower id)) = .ok cert ∧
      loadPublicKey lib names prov.exported.content (prov.args.pubPath (lib.lower id)) =
        .ok pubKey ∧
      site.proto.trustStore.getAgency id = some (prov.entry id cert pubKey)) ∨
    (id ∉ prov.args.listed ∧ site.proto.trustStore.getAgency id = none) := by
  obtain ⟨entries, revoked, hstore, hentries⟩ := hdeployed.bundle hpki.yaml
  obtain ⟨hids, hartifacts⟩ := entries_of_forall₂ hentries
  rw [hstore, ← hids]
  rcases getAgency_bundle entries revoked id with ⟨e, he, rfl, hget⟩ | ⟨hnone, hget⟩
  · left
    obtain ⟨⟨cert, pubKey⟩, hload, hentry⟩ := hartifacts e he
    obtain ⟨hcert, hpubKey⟩ := loadArtifacts_loads hload
    refine ⟨List.mem_map_of_mem he, cert, pubKey, hcert, hpubKey, ?_⟩
    rw [hget, Provision.entry, ← hentry]
  · right
    refine ⟨?_, hget⟩
    rw [List.mem_map]
    rintro ⟨e, he, hid⟩
    exact hnone e he hid

/-- The key paths of the bundle are strings. -/
theorem Provision.Deployed.equalPathsSameFile (hpki : lib.toPkiLibrary.Lawful prov.args)
    (hdeployed : prov.Deployed namesB revocations site) : site.EqualPathsSameFile := by
  apply equalPathsSameFile_of_str
  rintro path ⟨id, agency, hknown, hpath⟩
  rcases hdeployed.getAgency hpki id with ⟨_, cert, pubKey, _, _, hget⟩ | ⟨_, hget⟩
  · rw [hget] at hknown
    obtain rfl : _ = agency := Option.some.inj hknown
    exact ⟨_, (Option.some.inj hpath).symm⟩
  · rw [hget] at hknown
    simp at hknown

/-! ### The credentials Gateway B works with -/

section Agency

variable {id : String} {certArgs : IssueCertArgs} {keyArgs : IssueKeyArgs} {cert : Cert}
  {tlsKey signingKey : Priv}

/-- The entry of a provided agency is made of its credentials. -/
theorem Provision.Deployed.entry_of_provides (hpki : lib.toPkiLibrary.Lawful prov.args)
    (hdeployed : prov.Deployed namesB revocations site) (hlisted : id ∈ prov.args.listed)
    (hprovides : prov.Provides id certArgs keyArgs)
    (hcredentials :
      Credentials lib names prov.exported.content certArgs keyArgs cert tlsKey signingKey) :
    site.proto.trustStore.getAgency id =
      some (prov.entry id cert (lib.publicKey signingKey)) := by
  rcases hdeployed.getAgency hpki id with ⟨_, cert', pubKey, hcert, hpubKey, hget⟩ | ⟨hnot, _⟩
  · rw [← loadCert_of_locate hprovides.certFile, hcredentials.pair.certificate] at hcert
    rw [← loadPublicKey_of_locate hprovides.keyFile, hcredentials.publicKey] at hpubKey
    obtain rfl := Except.ok.inj hcert
    obtain rfl := Except.ok.inj hpubKey
    exact hget
  · exact absurd hlisted hnot

/-- The verifier of Gateway B finds the issued key under the path in the bundle. -/
theorem Provision.Deployed.verifySignature (hdeployed : prov.Deployed namesB revocations site)
    (hlisted : id ∈ prov.args.listed) (hprovides : prov.Provides id certArgs keyArgs)
    (hcredentials :
      Credentials lib names prov.final.content certArgs keyArgs cert tlsKey signingKey)
    (compressed signature : Bytes) (peer : Peer) :
    (site.outside peer).verifySignature compressed signature
        (.str (prov.args.pubPathRel (lib.lower id))) =
      MLDSAVerifier.checkDigest site.keys (lib.publicKey signingKey) signature
        (site.keys.sha256 compressed) := by
  obtain ⟨pem, hpem, hload⟩ := except_bind_eq_ok.mp hcredentials.publicKey
  have hread : site.keys.readFile
      (site.pkiBaseDir ++ "/" ++ prov.args.pubPathRel (lib.lower id)) = .ok pem := by
    rw [hdeployed.readFile, ← hpem]
    simp only [FileSystem.read, hdeployed.base id hlisted, hprovides.keyFile]
  rw [← hdeployed.loadPem] at hload
  have hfresh := MLDSAVerifier.loadPublicKey_fresh hread hload
  simp only [Site.outside, MLDSAVerifier.verifySignature, hfresh]

/-- The fingerprint in the entry is the one Gateway B computes of the issued certificate. -/
theorem Provision.entry_certificate (hpki : lib.toPkiLibrary.Lawful prov.args) (id : String)
    (cert : Cert) (pubKey : Key) :
    (prov.entry id cert pubKey).get? "tls_certificate_fingerprint" =
      some (.str (peerFingerprint lib.toPkiLibrary (lib.certificateDer cert))) := by
  have hlower := hpki.hexLower (lib.sha256 (lib.certificateDer cert))
  rw [peerFingerprint, ← hlower]
  rfl

theorem Provision.entry_keyPath (prov : Provision lib names) (id : String) (cert : Cert)
    (pubKey : Key) : (prov.entry id cert pubKey).get? "payload_signing_public_key_path" =
      some (.str (prov.args.pubPathRel (lib.lower id))) := rfl

end Agency

/-! ### What is ingested -/

variable (lib) in
/-- What the gateways rely on of the libraries behind them: a signature is accepted under the
    public key of its private key, in the way of the class of the key; messages, compressed
    data and JSON objects are read back. -/
structure Compatible (sender : Sender Priv) (site : Site Key) : Prop where
  loadPem : sender.signing.loadPemPrivateKey = lib.loadPemPrivateKey
  sha256 : sender.signing.sha256 = site.keys.sha256
  curve : ∀ priv, sender.signing.isEllipticCurve priv =
    site.keys.isEllipticCurve (lib.publicKey priv)
  ecdsa : ∀ priv draw digest signature, sender.signing.signEcdsa priv draw digest = .ok signature →
    signature ≠ [] ∧ site.keys.verifyEcdsa (lib.publicKey priv) signature digest = .ok ()
  mldsa : ∀ priv draw digest signature, sender.signing.sign priv draw digest = .ok signature →
    signature ≠ [] ∧ site.keys.verify (lib.publicKey priv) signature digest = .ok ()
  protobuf : site.proto.protobuf.RoundTrips
  zlib : ∀ data, sender.compress data ≠ [] ∧
    site.decompress (sender.compress data) = .ok data
  json : LoadsObjects sender.loads

/-- Gateway A, with its names for the files, on the files in the end, with the private key of an
    agency. -/
structure Provision.Equipped (prov : Provision lib names) (namesA : Names File)
    (keyArgs : IssueKeyArgs) (sender : Sender Priv) : Prop where
  readFile : sender.signing.readFile = FileSystem.read prov.final.content namesA
  privateKey : namesA.locate sender.privateKeyPath =
    names.locate (keyArgs.privPath (lib.lower keyArgs.agencyId))

/-- Nothing that Gateway B checks beyond the identity of the sender speaks against the
    transaction, and its text is that of the bundle `b`. -/
structure Acceptable (site : Site Key) (peer : Peer) (tx : GatewayATransaction) (b : PyVal) :
    Prop where
  named : tx.transactionId ≠ "" ∧ tx.senderId ≠ ""
  unrevoked : ∀ agency, site.proto.trustStore.getAgency tx.senderId = some agency →
    site.proto.revoked peer.fingerprint agency = .ok false
  allowed : InboundPep.Allows site.proto.rules tx.senderId tx.recipientId
    tx.stixBundle.tlpMarking.value
  loads : site.proto.loads tx.stixBundle.rawJson = .ok b
  bundle : GatewayProtocol.isBundle b = .ok true

theorem Compatible.checkDigest {sender : Sender Priv} (hcompatible : Compatible lib sender site)
    {priv : Priv} {path : String} {draw : Nat} {payload signature : Bytes}
    (hsign : MlDsaSigner.sign sender.signing ⟨path, some priv⟩ draw payload = .ok signature) :
    signature ≠ [] ∧ MLDSAVerifier.checkDigest site.keys (lib.publicKey priv) signature
      (site.keys.sha256 payload) = true := by
  simp only [MlDsaSigner.sign, hcompatible.sha256] at hsign
  simp only [MLDSAVerifier.checkDigest, ← hcompatible.curve]
  cases hcurve : sender.signing.isEllipticCurve priv with
  | true =>
    simp only [hcurve, if_true] at hsign
    obtain ⟨hne, hverify⟩ := hcompatible.ecdsa _ _ _ _ hsign
    simp only [if_true, hverify]
    exact ⟨hne, trivial⟩
  | false =>
    simp only [hcurve, Bool.false_eq_true, if_false] at hsign
    obtain ⟨hne, hverify⟩ := hcompatible.mldsa _ _ _ _ hsign
    simp only [Bool.false_eq_true, if_false, hverify]
    exact ⟨hne, trivial⟩

section Delivery

variable {sender : Sender Priv} {certArgs : IssueCertArgs} {keyArgs : IssueKeyArgs}
  {tx : GatewayATransaction} {b : PyVal} {peer : Peer} {cert : Cert}

/-- Gateway B decides to take in what was signed with the issued key and comes over the issued
    certificate. -/
theorem decision_of_signed (hlib : lib.Lawful) (hpki : lib.toPkiLibrary.Lawful prov.args)
    (hlisted : tx.senderId ∈ prov.args.listed)
    (hprovides : prov.Provides tx.senderId certArgs keyArgs)
    (hdeployed : prov.Deployed namesB revocations site)
    (hequipped : prov.Equipped namesA keyArgs sender)
    (hcompatible : Compatible lib sender site) (hsigned : sender.Signed tx)
    (hcert : loadCert lib names prov.final.content
      (certArgs.certPath (lib.lower certArgs.agencyId)) = .ok cert)
    (hpeer : peer.fingerprint = peerFingerprint lib.toPkiLibrary (lib.certificateDer cert))
    (hacceptable : Acceptable site peer tx b) {env : TransactionEnvelope}
    (henv : tx.envelope = .ok env) {payload : Bytes} (hlen : payload.length < 2 ^ 32)
    (hsize : ((FrameCodec.frameBytes .signedBundle payload).length : Int) ≤
      HEADER_SIZE + DEFAULT_MAX_PAYLOAD_SIZE) :
    decision site peer env payload = .ok b := by
  obtain ⟨hcompressed, signer, draw, hinit, hsign⟩ := hsigned
  obtain ⟨cert', tlsKey, signingKey, hexported, hfinal⟩ := hprovides.credentials hlib
  obtain rfl : cert' = cert := Except.ok.inj (hfinal.pair.certificate.symm.trans hcert)
  -- the signer holds the issued key
  obtain ⟨pem, priv, hread, hload, rfl⟩ := MlDsaSigner.init_eq_ok hinit
  obtain rfl : priv = signingKey := by
    have hprivate := hfinal.privateKey
    simp only [loadPrivateKey, FileSystem.read, ← hequipped.privateKey] at hprivate
    rw [hequipped.readFile] at hread
    rw [hcompatible.loadPem] at hload
    obtain ⟨pem', hpem', hload'⟩ := except_bind_eq_ok.mp hprivate
    obtain rfl : pem = pem' := Except.ok.inj (hread.symm.trans hpem')
    exact Except.ok.inj (hload.symm.trans hload')
  obtain ⟨hne, hcheck⟩ := hcompatible.checkDigest hsign
  have hentry := hdeployed.entry_of_provides hpki hlisted hprovides hexported
  simp only [GatewayATransaction.envelope, hcompressed] at henv
  obtain rfl : _ = env := Except.ok.inj henv
  have hfits : frameCodec.Fits payload := by
    rw [FrameCodec.length_frameBytes] at hsize
    refine ⟨?_, hlen⟩
    have hmax : frameCodec.maxPayloadSize = DEFAULT_MAX_PAYLOAD_SIZE := rfl
    omega
  rw [decision, if_pos hfits]
  apply verdict_eq_ok.mpr
  refine ⟨?_, ⟨_, _, ⟨hentry, ?_, hacceptable.unrevoked _ hentry⟩,
    Provision.entry_keyPath prov _ _ _, ?_⟩, hacceptable.allowed, _,
    (hcompatible.zlib tx.stixBundle.rawJson).2, hacceptable.loads, hacceptable.bundle⟩
  · exact GatewayProtocol.missingField_eq_false.mpr
      ⟨hacceptable.named.1, hacceptable.named.2, hne, (hcompatible.zlib _).1⟩
  · rw [Provision.entry_certificate hpki, hpeer]
  · rw [hdeployed.verifySignature hlisted hprovides hfinal]
    exact hcheck

/-- **What is signed with the issued key is delivered.**  Whatever other connections the server
    turns to, and however the frame is cut: a transaction that Gateway A signed with the key
    issued for its sender and sent over the certificate issued for it, not revoked, allowed by
    the inbound policy and within the limit of the codec, has its bundle handed to the
    ingestor, once; and Gateway A is told `ACK`, or that the ingestion failed. -/
theorem delivered (hlib : lib.Lawful) (hpki : lib.toPkiLibrary.Lawful prov.args)
    (hlisted : tx.senderId ∈ prov.args.listed)
    (hprovides : prov.Provides tx.senderId certArgs keyArgs)
    (hdeployed : prov.Deployed namesB revocations site)
    (hequipped : prov.Equipped namesA keyArgs sender)
    (hcompatible : Compatible lib sender site) (hsigned : sender.Signed tx) {peers : List Peer}
    {srv : Server Key} (hreach : Reach site.step anyStep (site.start peers) srv)
    {task : GatewayB.Task} (htask : task ∈ srv.tasks) (hdone : task.done = true)
    (hcert : loadCert lib names prov.final.content
      (certArgs.certPath (lib.lower certArgs.agencyId)) = .ok cert)
    (hpeer : task.peer.fingerprint = peerFingerprint lib.toPkiLibrary (lib.certificateDer cert))
    (hacceptable : Acceptable site task.peer tx b) {frame : Bytes}
    (hframe : envelopeFrame site.proto.protobuf tx = .ok frame)
    (hsize : (frame.length : Int) ≤ HEADER_SIZE + DEFAULT_MAX_PAYLOAD_SIZE)
    (hreads : Reads frame task.peer.reads) (hfit : ResponsesFit tx.transactionId) :
    ingested task.history = [b] ∧
      (Session.receive sender.loads tx.transactionId (written task.history).flatten).1 =
        .returned (if site.ingestSync b then (true, .str "ACK")
          else (false, .str "INGEST_FAILED")) := by
  obtain ⟨env, payload, henv, hpayload, hlen, rfl⟩ := envelopeFrame_eq_ok hframe
  have hdecision := decision_of_signed hlib hpki hlisted hprovides hdeployed hequipped
    hcompatible hsigned hcert hpeer hacceptable henv hlen hsize
  rw [← envelope_transactionId henv] at hfit ⊢
  obtain ⟨hingested, hreceive⟩ := reply_of_done (hdeployed.equalPathsSameFile hpki)
    hcompatible.protobuf hcompatible.json hreach htask hdone hpayload hlen hreads hfit
  rw [hdecision] at hingested hreceive
  exact ⟨hingested, hreceive⟩

end Delivery

end Provision

/-! ### The bootstrap script -/

namespace Bootstrap

/-- YAML has nothing in an empty file. -/
def library : AuthorityLibrary Bytes Bytes Bytes :=
  { AuthorityLibrary.plain with
    toPkiLibrary := { PkiLibrary.plain with
      safeLoad := fun text => if text = [] then .ok .none else loadBundle text } }

theorem library_lawful : library.Lawful where
  certificate := AuthorityLibrary.plain_lawful.certificate
  privateKey := AuthorityLibrary.plain_lawful.privateKey
  publicKey := AuthorityLibrary.plain_lawful.publicKey
  signed := AuthorityLibrary.plain_lawful.signed

theorem library_pki_lawful (args : ExportArgs) : library.toPkiLibrary.Lawful args where
  yaml := by
    intro entries
    have hne : dumpBundle (TrustBundleEntry.bundle entries) ≠ [] := by
      simp [dumpBundle, TrustBundleEntry.bundle, asciiBytes]
    have hload : library.safeLoad (library.dump (TrustBundleEntry.bundle entries)) =
        if dumpBundle (TrustBundleEntry.bundle entries) = [] then .ok .none
        else loadBundle (dumpBundle (TrustBundleEntry.bundle entries)) := rfl
    rw [hload, if_neg hne]
    exact loadBundle_dumpBundle entries
  hexLower := (PkiLibrary.plain_lawful args).hexLower
  notPem := (PkiLibrary.plain_lawful args).notPem
  pems := (PkiLibrary.plain_lawful args).pems

def revocations : String := "pki/revocation_list.yaml"

/-- A disk with an empty revocation list. -/
def disk : Storage (List (List Char)) := fun file =>
  if file = Trust.Sample.names.locate revocations then some ⟨.ok [], 0o644⟩ else none

/-- The first root of the classical hierarchy, whose certificate is opened but not written. -/
def classical : Invocation :=
  ⟨.initRoot { outDir := "pki/ca_ecdsa", keyType := .ecdsa }, Trust.Sample.around 7, some 1⟩

def prov : Provision library Trust.Sample.names where
  disk := disk
  before := [Trust.Sample.root, Trust.Sample.rawCert, Trust.Sample.niaCert, Trust.Sample.rawKey,
    Trust.Sample.niaKey]
  bundling := Trust.Sample.bundle
  after := [classical]
  args := Trust.Sample.exportArgs
  command := rfl
  completes := Trust.Sample.completes_of_isOk rfl (by decide +kernel)
  spared := by decide

theorem stands {pre post : List Invocation} {call : Invocation}
    (hsplit : prov.before = pre ++ call :: post)
    (happart : call.command.Apart library Trust.Sample.names) (hstop : call.stop = none)
    (hok : (call.command.ops library Trust.Sample.names
      (invokeAll library Trust.Sample.names prov.disk pre) call.around).isOk = true)
    (hspared : Spared library Trust.Sample.names call.command
      (post ++ prov.bundling :: prov.after)) : prov.Stands call.command :=
  ⟨happart, pre, call, post, hsplit, rfl, Trust.Sample.completes_of_isOk hstop hok, hspared⟩

theorem provides_raw :
    prov.Provides "RAW" Trust.Sample.rawCertArgs Trust.Sample.rawKeyArgs where
  certificate := @stands [Trust.Sample.root] _ Trust.Sample.rawCert rfl (by decide) rfl
    (by decide +kernel) (by decide)
  signingKey := @stands [Trust.Sample.root, Trust.Sample.rawCert, Trust.Sample.niaCert] _
    Trust.Sample.rawKey rfl (by decide) rfl (by decide +kernel) (by decide)
  certFile := by decide
  keyFile := by decide

/-- The gateways run in the root directory, and name their files from there. -/
def gatewayNames : Names (List (List Char)) := Names.inDirectory []


/-- A signature is the public key and the digest. -/
def keys : KeyLibrary Bytes where
  readFile := FileSystem.read prov.final.content gatewayNames
  loadPemPublicKey := library.loadPemPublicKey
  isEllipticCurve := fun pubkey => library.isEllipticCurve (pubkey.drop 1)
  verifyEcdsa := fun pubkey signature digest =>
    if signature = pubkey ++ digest then .ok () else .error ⟨.other "InvalidSignature", ""⟩
  verify := fun pubkey signature digest =>
    if signature = pubkey ++ digest then .ok () else .error ⟨.other "InvalidSignature", ""⟩
  sha256 := QsTie.sha256
  floatRepr := fun _ => ""

def signing : SigningLibrary Bytes where
  readFile := FileSystem.read prov.final.content gatewayNames
  loadPemPrivateKey := library.loadPemPrivateKey
  isEllipticCurve := library.isEllipticCurve
  signEcdsa := fun priv _ digest => .ok (library.publicKey priv ++ digest)
  sign := fun priv _ digest => .ok (library.publicKey priv ++ digest)
  sha256 := QsTie.sha256

def sender : Sender Bytes where
  signing := signing
  privateKeyPath := "/app/pki/gateway_raw/raw_ml_dsa65.pem"
  compress := Sample.compress
  loads := Sample.loadsObject

instance (env : ProtoEnvelope) : Decidable env.Sized :=
  decidable_of_iff (((utf8 env.transactionId).length < 2 ^ 64 ∧
      (utf8 env.senderId).length < 2 ^ 64 ∧ (utf8 env.recipientId).length < 2 ^ 64) ∧
      ((utf8 env.tlpMarking).length < 2 ^ 64 ∧ env.stixBundleCompressed.length < 2 ^ 64 ∧
      env.signature.length < 2 ^ 64 ∧ (utf8 env.signerCertFingerprint).length < 2 ^ 64))
    ⟨fun ⟨⟨h₁, h₂, h₃⟩, h₄, h₅, h₆, h₇⟩ => ⟨h₁, h₂, h₃, h₄, h₅, h₆, h₇⟩,
      fun ⟨h₁, h₂, h₃, h₄, h₅, h₆, h₇⟩ => ⟨⟨h₁, h₂, h₃⟩, h₄, h₅, h₆, h₇⟩⟩

/-- The generated class on messages that are not too large for it. -/
def protobuf : Protobuf where
  parseFromString := wireProtobuf.parseFromString
  serializeToString := fun env =>
    if env.Sized then wireProtobuf.serializeToString env
    else .error ⟨.valueError, "Message exceeds maximum protobuf size"⟩

theorem roundTrips : protobuf.RoundTrips := by
  intro env data h
  simp only [protobuf] at h ⊢
  by_cases hsized : env.Sized
  · rw [if_pos hsized] at h
    by_cases hint : IsInt64 env.createdAtUnixMs
    · obtain ⟨data', hserialize, hparse⟩ := parse_serialize ⟨hint, hsized⟩
      obtain rfl : data' = data := Except.ok.inj (hserialize.symm.trans h)
      exact hparse
    · simp only [wireProtobuf, if_neg hint] at h
      cases h
  · rw [if_neg hsized] at h
    cases h

/-- The inbound rules of `gateway_b/main.py`. -/
def rules : List PyVal :=
  let rule (tlp action : String) : PyVal :=
    .dict [(.str "sender", .str "RAW"), (.str "recipient", .str "NIA"), (.str "tlp", .str tlp),
      (.str "action", .str action)]
  [rule "tlp:green" "ALLOW", rule "tlp:amber" "ALLOW", rule "tlp:amber+strict" "DENY"]

def site (trustStore : TrustStore) : Site Bytes where
  proto := {
    trustStore := trustStore
    rules := rules
    protobuf := protobuf
    loads := GatewayB.Sample.loads }
  keys := keys
  pkiBaseDir := "/app/pki"
  decompress := Sample.decompress
  ingestSync := fun _ => true
  maxConcurrent := 10

/-- The sample transaction, signed with the key issued for its sender. -/
def tx : GatewayATransaction :=
  { Sample.sent with
    signature := library.publicKey (library.generate .mldsa 4) ++ GatewayB.Sample.digest }

theorem compatible (trustStore : TrustStore) : Compatible library sender (site trustStore) where
  loadPem := rfl
  sha256 := rfl
  curve := fun _ => rfl
  ecdsa := by
    intro priv draw digest signature h
    obtain rfl : library.publicKey priv ++ digest = signature := Except.ok.inj h
    exact ⟨by simp [library, AuthorityLibrary.plain], if_pos rfl⟩
  mldsa := by
    intro priv draw digest signature h
    obtain rfl : library.publicKey priv ++ digest = signature := Except.ok.inj h
    exact ⟨by simp [library, AuthorityLibrary.plain], if_pos rfl⟩
  protobuf := roundTrips
  zlib := by
    intro data
    refine ⟨?_, Sample.decompress_compress data⟩
    change Sample.compress data ≠ []
    simp only [Sample.compress]
    split
    · decide
    · simp
  json := Sample.loadsObjects_loadsObject

theorem equipped : prov.Equipped gatewayNames Trust.Sample.rawKeyArgs sender where
  readFile := rfl
  privateKey := by decide

/-- A file that holds the data. -/
def holds (content : Option (Except PyExc Bytes)) (data : Bytes) : Bool :=
  match content with
  | some (.ok data') => data' == data
  | _ => false

theorem content_of_holds {content : Option (Except PyExc Bytes)} {data : Bytes}
    (h : holds content data = true) : content = some (.ok data) := by
  unfold holds at h
  split at h
  · rw [eq_of_beq h]
  · cases h

theorem loadKey_sender : MlDsaSigner.init signing sender.privateKeyPath =
    .ok ⟨sender.privateKeyPath, some (library.generate .mldsa 4)⟩ := by
  have hfile : holds (prov.final.content (gatewayNames.locate sender.privateKeyPath))
      (library.privatePem (library.generate .mldsa 4)) = true := by
    decide +kernel
  have hread : signing.readFile sender.privateKeyPath =
      .ok (library.privatePem (library.generate .mldsa 4)) := by
    have hreadFile : signing.readFile = FileSystem.read prov.final.content gatewayNames := rfl
    rw [hreadFile]
    exact read_eq (content_of_holds hfile)
  have hload : signing.loadPemPrivateKey (library.privatePem (library.generate .mldsa 4)) =
      .ok (library.generate .mldsa 4) := library_lawful.privateKey (library.generate .mldsa 4)
  exact MlDsaSigner.init_of_load hread hload

theorem signed : sender.Signed tx := by
  refine ⟨rfl, _, 0, loadKey_sender, ?_⟩
  have hdigest : QsTie.sha256 (Sample.compress GatewayB.Sample.rawJson) =
      GatewayB.Sample.digest := by decide +kernel
  change Except.ok (_ ++ QsTie.sha256 (Sample.compress GatewayB.Sample.rawJson)) = _
  rw [hdigest]
  rfl

/-- Gateway B starts on the files of the run. -/
theorem exists_deployed : ∃ trustStore,
    prov.Deployed gatewayNames revocations (site trustStore) ∧
      trustStore.revokedFingerprints = [] := by
  obtain ⟨entries, hbundle, -⟩ :=
    prov.exists_bundle (library_pki_lawful Trust.Sample.exportArgs).yaml
  have hbase : ∀ id ∈ prov.args.listed,
      gatewayNames.locate ("/app/pki" ++ "/" ++ prov.args.pubPathRel (library.lower id)) =
        Trust.Sample.names.locate (prov.args.pubPath (library.lower id)) := by decide
  refine ⟨bundleStore entries [], ⟨?_, rfl, rfl, hbase⟩, rfl⟩
  have hrevoked : yamlAt library Trust.Sample.names prov.final revocations =
      some (.ok .none) := by
    have hkept : prov.final (Trust.Sample.names.locate revocations) =
        disk (Trust.Sample.names.locate revocations) := by
      apply invokeAll_of_not_mem
      decide
    rw [yamlAt, Disk.content, hkept]
    rfl
  rw [hbundle, hrevoked]
  simp only [TrustStore.load, loadAgencies_bundle]
  rfl

theorem acceptable {trustStore : TrustStore} (hempty : trustStore.revokedFingerprints = [])
    (hdeployed : prov.Deployed gatewayNames revocations (site trustStore)) (peer : Peer) :
    Acceptable (site trustStore) peer tx GatewayB.Sample.bundle where
  named := by decide
  unrevoked := by
    intro agency hknown
    have hnone : ∀ fingerprint : String,
        trustStore.isRevoked (.str fingerprint) = .ok false := by
      intro fingerprint
      simp [TrustStore.isRevoked, PyVal.hashable, hempty]
    rcases hdeployed.getAgency (library_pki_lawful _) tx.senderId with
      ⟨_, cert, pubKey, _, _, hget⟩ | ⟨_, hget⟩
    · rw [hget] at hknown
      obtain rfl : _ = agency := Option.some.inj hknown
      have hitem : PyDict.getItem (prov.entry tx.senderId cert pubKey)
          "payload_signing_public_key_fingerprint" =
            .ok (.str (getPubkeyFingerprint library.toPkiLibrary pubKey)) := rfl
      simp only [GatewayProtocol.revoked, site, hnone, hitem]
    · rw [hget] at hknown
      simp at hknown
  allowed := ⟨_, rfl⟩
  loads := by
    change GatewayB.Sample.loads GatewayB.Sample.rawJson = _
    exact if_pos rfl
  bundle := rfl

/-- The frame of the transaction, in one read. -/
theorem exists_frame : ∃ frame, envelopeFrame protobuf tx = .ok frame ∧
    Reads frame [frame] ∧ (frame.length : Int) ≤ HEADER_SIZE + DEFAULT_MAX_PAYLOAD_SIZE := by
  have hcheck : (envelopeFrame protobuf tx).toOption.any
      (fun frame => decide (0 < frame.length ∧ frame.length ≤ 4096)) = true := by
    decide +kernel
  cases hframe : envelopeFrame protobuf tx with
  | error e =>
    rw [hframe] at hcheck
    cases hcheck
  | ok frame =>
    rw [hframe] at hcheck
    obtain ⟨hpos, hmax⟩ := of_decide_eq_true hcheck
    refine ⟨frame, rfl, ⟨by simp, ?_⟩, ?_⟩
    · intro data hdata
      obtain rfl := List.mem_singleton.mp hdata
      exact ⟨List.ne_nil_of_length_pos hpos, hmax⟩
    · simp only [HEADER_SIZE, DEFAULT_MAX_PAYLOAD_SIZE]
      omega

def certArgs (id : String) : IssueCertArgs :=
  if id = "RAW" then Trust.Sample.rawCertArgs else Trust.Sample.niaCertArgs

def keyArgs (id : String) : IssueKeyArgs :=
  if id = "RAW" then Trust.Sample.rawKeyArgs else Trust.Sample.niaKeyArgs

/-- A connection over the certificate, that takes what is written to it. -/
def peer (cert frame : Bytes) : Peer where
  fingerprint := peerFingerprint library.toPkiLibrary (library.certificateDer cert)
  reads := [frame]
  drain := fun _ => .ok ()
  waitClosed := .ok ()

end Bootstrap

/-- The agency `RAW` delivers a bundle after the bootstrap. -/
theorem sample_delivered :
    ∃ trustStore srv task, Bootstrap.prov.Deployed Bootstrap.gatewayNames
        Bootstrap.revocations (Bootstrap.site trustStore) ∧
      Reach (Bootstrap.site trustStore).step anyStep
        ((Bootstrap.site trustStore).start [task.peer]) srv ∧ task ∈ srv.tasks ∧
      ingested task.history = [GatewayB.Sample.bundle] ∧
      (Session.receive Bootstrap.sender.loads Bootstrap.tx.transactionId
        (written task.history).flatten).1 = .returned (true, .str "ACK") := by
  obtain ⟨trustStore, hdeployed, hempty⟩ := Bootstrap.exists_deployed
  obtain ⟨cert, _, _, _, hfinal⟩ := Bootstrap.provides_raw.credentials Bootstrap.library_lawful
  obtain ⟨frame, hframe, hreads, hsize⟩ := Bootstrap.exists_frame
  obtain ⟨srv, task, hreach, htask, hpeer, hdone⟩ :=
    @exists_done_alone _ (Bootstrap.site trustStore) (show 0 < 10 by decide)
      (Bootstrap.peer cert frame)
  obtain ⟨hingested, hreceive⟩ := delivered Bootstrap.library_lawful
    (Bootstrap.library_pki_lawful _) (by decide) Bootstrap.provides_raw hdeployed
    Bootstrap.equipped (Bootstrap.compatible trustStore) Bootstrap.signed hreach htask hdone
    hfinal.pair.certificate (by rw [hpeer]; rfl) (Bootstrap.acceptable hempty hdeployed _)
    hframe hsize (by rw [hpeer]; exact hreads) Sample.responsesFit
  refine ⟨trustStore, srv, task, hdeployed, ?_, htask, hingested, hreceive⟩
  rw [hpeer]
  exact hreach

end QsTie.Exchange
