import QsTie.Common.JsonRead
import QsTie.Common.Path
import QsTie.Common.Sha256
import QsTie.GatewayB.Protocol
import QsTie.GatewayB.Verifier

/-!
# The trust bundle (`cmd_export_trust_bundle`, `qstie_trust/export.py`)

The CA reads the certificate and the signing key of every listed agency and writes
their fingerprints, with a path of the key, into one YAML file.  Gateway B loads
the file, compares the fingerprint of its peer and loads the key through the path.

The command builds the path of the key with `os.path.join`, the verifier puts it
behind its base directory and a slash.  The two differ in repeated slashes only
(`locate_verifierPath`), unless the directory is the empty string, or the lowered id
of an agency starts with a slash, at which `os.path.join` starts over.  Whether the
paths then name one file, and whether the output is the file of a key under another
name, is up to the file system.
-/

namespace QsTie.Trust

open QsTie.GatewayB

/-! ### Files and libraries -/

/-- What is in a file: nothing, something that cannot be read, or bytes. -/
abbrev FileSystem (File : Type) := File → Option (Except PyExc Bytes)

namespace FileSystem

variable {File : Type} (fs : FileSystem File) (names : Names File)

/-- `os.path.exists`. -/
def contains (path : String) : Bool := (fs (names.locate path)).isSome

/-- `open(path, 'rb')`, `f.read()`. -/
def read (path : String) : Except PyExc Bytes :=
  match fs (names.locate path) with
  | none => .error ⟨.fileNotFoundError, "No such file or directory"⟩
  | some content => content

/-- The file that the path names is written anew. -/
def write [DecidableEq File] (path : String) (data : Bytes) : FileSystem File :=
  fun file => if file = names.locate path then some (.ok data) else fs file

end FileSystem

/-- What the command uses of `cryptography`, `hashlib`, `yaml` and `str`. -/
structure PkiLibrary (Cert Key : Type) where
  loadPemCertificate : Bytes → Except PyExc Cert
  certificateDer : Cert → Bytes
  loadPemPublicKey : Bytes → Except PyExc Key
  spkiDer : Key → Bytes
  sha256 : Bytes → Bytes
  lower : String → String
  dump : PyVal → Bytes
  safeLoad : Bytes → Except PyExc PyVal

def hexChar (n : Nat) : Char := if n < 10 then Char.ofNat (48 + n) else Char.ofNat (87 + n)

/-- `digest.hex()`. -/
def hexDigest (digest : Bytes) : String :=
  String.ofList (digest.flatMap fun b => [hexChar (b.toNat / 16), hexChar (b.toNat % 16)])

section Command

variable {Cert Key : Type} (lib : PkiLibrary Cert Key)

/-- `calculate_fingerprint`. -/
def calculateFingerprint (data : Bytes) : String := lib.lower (hexDigest (lib.sha256 data))

def getCertFingerprint (cert : Cert) : String := calculateFingerprint lib (lib.certificateDer cert)

def getPubkeyFingerprint (pubkey : Key) : String := calculateFingerprint lib (lib.spkiDer pubkey)

/-- The fingerprint Gateway B computes of the certificate its peer presents. -/
def peerFingerprint (derCert : Bytes) : String := hexDigest (lib.sha256 derCert)

/-! ### The command -/

inductive KeyType where
  | mldsa
  | ecdsa

structure ExportArgs where
  agencies : String
  pkiRoot : String
  out : String
  keyType : KeyType := .mldsa

namespace ExportArgs

variable (args : ExportArgs)

/-- `args.agencies.split(',')`. -/
def listed : List String := splitOnChar ',' args.agencies

def certName (agencyLower : String) : String :=
  match args.keyType with
  | .ecdsa => agencyLower ++ "_gateway_ecdsa.crt"
  | .mldsa => agencyLower ++ "_gateway.crt"

def pubName (agencyLower : String) : String :=
  match args.keyType with
  | .ecdsa => agencyLower ++ "_ecdsa256.pub"
  | .mldsa => agencyLower ++ "_ml_dsa65.pub"

def gatewayName (agencyLower : String) : String := "gateway_" ++ agencyLower

def gatewayDir (agencyLower : String) : String := Path.join args.pkiRoot (gatewayName agencyLower)

def certPath (agencyLower : String) : String :=
  Path.join (args.gatewayDir agencyLower) (args.certName agencyLower)

def pubPath (agencyLower : String) : String :=
  Path.join (args.gatewayDir agencyLower) (args.pubName agencyLower)

def pubPathRel (agencyLower : String) : String :=
  gatewayName agencyLower ++ "/" ++ args.pubName agencyLower

end ExportArgs

structure TrustBundleEntry where
  agencyId : String
  payloadSigningPublicKeyPath : String
  payloadSigningPublicKeyFingerprint : String
  tlsCertificateFingerprint : String
  issueTimestamp : String
  expiryTimestamp : String

namespace TrustBundleEntry

/-- The dict of an entry, in the order of its keys: `yaml.dump` sorts them. -/
def items (e : TrustBundleEntry) : PyDict :=
  [(.str "agency_id", .str e.agencyId),
   (.str "expiry_timestamp", .str e.expiryTimestamp),
   (.str "issue_timestamp", .str e.issueTimestamp),
   (.str "payload_signing_public_key_fingerprint", .str e.payloadSigningPublicKeyFingerprint),
   (.str "payload_signing_public_key_path", .str e.payloadSigningPublicKeyPath),
   (.str "tls_certificate_fingerprint", .str e.tlsCertificateFingerprint)]

/-- The data of `TrustBundleExporter.save`. -/
def bundle (entries : List TrustBundleEntry) : PyVal :=
  .dict [(.str "trusted_agencies", .list (entries.map fun e => .dict e.items))]

end TrustBundleEntry

/-- The state of the machine when the command runs: its files once the directory of the output
    is made, the clock, and whether that directory can be made and the output be opened. -/
structure Machine (File : Type) where
  files : FileSystem File
  nowStr : String
  expiryStr : String
  makedirs : Except PyExc Unit
  opened : Except PyExc Unit

variable {File : Type} (names : Names File)

/-- The certificate and the key of an agency, read and loaded. -/
def loadArtifacts (machine : Machine File) (args : ExportArgs) (agency : String) :
    Except PyExc (Cert × Key) := do
  let agencyLower := lib.lower agency
  if !machine.files.contains names (args.certPath agencyLower) ||
      !machine.files.contains names (args.pubPath agencyLower) then
    throw ⟨.other "SystemExit",
      "Missing artifacts for " ++ agency ++ " in " ++ args.gatewayDir agencyLower⟩
  let cert ← lib.loadPemCertificate (← machine.files.read names (args.certPath agencyLower))
  let pubKey ← lib.loadPemPublicKey (← machine.files.read names (args.pubPath agencyLower))
  return (cert, pubKey)

def exportAgency (machine : Machine File) (args : ExportArgs) (agency : String) :
    Except PyExc TrustBundleEntry := do
  let (cert, pubKey) ← loadArtifacts lib names machine args agency
  return {
    agencyId := agency
    payloadSigningPublicKeyPath := args.pubPathRel (lib.lower agency)
    payloadSigningPublicKeyFingerprint := getPubkeyFingerprint lib pubKey
    tlsCertificateFingerprint := getCertFingerprint lib cert
    issueTimestamp := machine.nowStr
    expiryTimestamp := machine.expiryStr }

/-- `cmd_export_trust_bundle`: the files after it, or the exception before the output is
    opened. -/
def cmdExportTrustBundle [DecidableEq File] (machine : Machine File) (args : ExportArgs) :
    Except PyExc (FileSystem File) := do
  machine.makedirs
  let entries ← args.listed.mapM (exportAgency lib names machine args)
  machine.opened
  return machine.files.write names args.out (lib.dump (TrustBundleEntry.bundle entries))

end Command

/-! ### What the receiver makes of it -/

/-- The comparison of stage 3 of `process_transaction`. -/
def PassesComparison (ts : TrustStore) (senderId fingerprint : String) : Prop :=
  ∃ agency expectedTlsFp, ts.getAgency senderId = some agency ∧ agency.isEmpty = false ∧
    agency.getItem "tls_certificate_fingerprint" = .ok expectedTlsFp ∧
    expectedTlsFp.isStr fingerprint = true

/-- A peer that passes it is asked for its revocation next. -/
theorem identityStage_of_passes {proto : GatewayProtocol} {env : TransactionEnvelope}
    {fingerprint : String} {tReceived : Nat}
    (h : PassesComparison proto.trustStore env.senderId fingerprint) :
    ∃ agency, proto.trustStore.getAgency env.senderId = some agency ∧
      ∀ isRevoked, proto.revoked fingerprint agency = .ok isRevoked →
        proto.identityStage env fingerprint tReceived =
          if isRevoked then sendNack env.transactionId .revokedCert
          else proto.verifyStage env agency tReceived := by
  obtain ⟨agency, expectedTlsFp, hknown, hne, hitem, hequal⟩ := h
  refine ⟨agency, hknown, ?_⟩
  intro isRevoked hrevoked
  simp only [GatewayProtocol.identityStage, hknown, hne, hitem, hequal, hrevoked, Bool.not_true,
    Bool.false_eq_true, if_false]
  cases isRevoked with
  | true => simp
  | false => simp

/-- A peer of a listed agency that does not is answered `IDENTITY_MISMATCH`. -/
theorem identityStage_of_not_passes {proto : GatewayProtocol} {env : TransactionEnvelope}
    {fingerprint : String} {tReceived : Nat} {agency : PyDict} {expectedTlsFp : PyVal}
    (hknown : proto.trustStore.getAgency env.senderId = some agency)
    (hne : agency.isEmpty = false)
    (hitem : agency.getItem "tls_certificate_fingerprint" = .ok expectedTlsFp)
    (h : ¬ PassesComparison proto.trustStore env.senderId fingerprint) :
    proto.identityStage env fingerprint tReceived =
      sendNack env.transactionId .identityMismatch := by
  have hdiffer : expectedTlsFp.isStr fingerprint = false := by
    by_contra hequal
    exact h ⟨agency, expectedTlsFp, hknown, hne, hitem, by simpa using hequal⟩
  simp only [GatewayProtocol.identityStage, hknown, hne, hitem, hdiffer, Bool.not_false,
    Bool.false_eq_true, if_false, if_true]

section Receiver

variable {Cert Key : Type} (lib : PkiLibrary Cert Key) {File : Type} (names : Names File)

/-- The receiver takes a peer for the agency exactly when its certificate has the SHA-256 of
    the certificate in the agency's file, and its verifier loads the exported key. -/
structure AgencyAgrees (args : ExportArgs) (after : FileSystem File) (ts : TrustStore)
    (id : String) (cert : Cert) (pubKey : Key) : Prop where
  identity : ∀ derCert, PassesComparison ts id (peerFingerprint lib derCert) ↔
    lib.sha256 derCert = lib.sha256 (lib.certificateDer cert)
  key : ∀ keys : KeyLibrary Key, keys.readFile = after.read names →
    keys.loadPemPublicKey = lib.loadPemPublicKey →
    ∃ agency pubkeyPath verifier', ts.getAgency id = some agency ∧
      agency.getItem "payload_signing_public_key_path" = .ok pubkeyPath ∧
      (MLDSAVerifier.mk args.pkiRoot []).loadPublicKey keys pubkeyPath = .ok (pubKey, verifier') ∧
      agency.getItem "payload_signing_public_key_fingerprint" =
        .ok (.str (getPubkeyFingerprint lib pubKey))

/-- The command exits before it opens its output, for want of something to read or a place
    to write, or the receiver agrees with what it wrote. -/
def ExportAgrees [DecidableEq File] (args : ExportArgs) : Prop :=
  ∀ machine : Machine File,
    match cmdExportTrustBundle lib names machine args with
    | .error _ => (∃ e, machine.makedirs = .error e) ∨ (∃ e, machine.opened = .error e) ∨
        ∃ agency ∈ args.listed, ∃ e, loadArtifacts lib names machine args agency = .error e
    | .ok after => ∀ revData revoked, TrustStore.loadRevoked revData = .ok revoked →
        ∃ text ts, after.read names args.out = .ok text ∧
          TrustStore.load (some (lib.safeLoad text)) (some (.ok revData)) = .ok ts ∧
          (∀ id, (ts.getAgency id).isSome = true ↔ id ∈ args.listed) ∧
          ∀ id ∈ args.listed, ∃ cert pubKey,
            loadArtifacts lib names machine args id = .ok (cert, pubKey) ∧
              AgencyAgrees lib names args after ts id cert pubKey

/-- The path of each listed key from the base directory names the file of the key, and the
    output is none of these files. -/
structure PathsAgree (args : ExportArgs) : Prop where
  found : ∀ agency ∈ args.listed,
    names.locate (args.pkiRoot ++ "/" ++ args.pubPathRel (lib.lower agency)) =
      names.locate (args.pubPath (lib.lower agency))
  apart : ∀ agency ∈ args.listed,
    names.locate args.out ≠ names.locate (args.pubPath (lib.lower agency))

/-- What is relied on of the libraries: YAML reads back the bundle it wrote, hexadecimal digits
    are lower case, a trust bundle is no PEM key, and there are files of a certificate and a
    key, with one or another key. -/
structure PkiLibrary.Lawful (args : ExportArgs) : Prop where
  yaml : ∀ entries, lib.safeLoad (lib.dump (TrustBundleEntry.bundle entries)) =
    .ok (TrustBundleEntry.bundle entries)
  hexLower : ∀ digest, lib.lower (hexDigest digest) = hexDigest digest
  notPem : ∀ entries : List TrustBundleEntry, entries.map (·.agencyId) = args.listed →
    ∃ e, lib.loadPemPublicKey (lib.dump (TrustBundleEntry.bundle entries)) = .error e
  pems : ∃ pem pem' cert cert' pubKey pubKey', lib.loadPemCertificate pem = .ok cert ∧
    lib.loadPemCertificate pem' = .ok cert' ∧ lib.loadPemPublicKey pem = .ok pubKey ∧
    lib.loadPemPublicKey pem' = .ok pubKey' ∧ pubKey ≠ pubKey'

end Receiver

/-! ### Fingerprints -/

theorem hexChar_injective {n m : Nat} (hn : n < 16) (hm : m < 16) (h : hexChar n = hexChar m) :
    n = m := by
  have hall : ∀ i j : Fin 16, hexChar i = hexChar j → i = j := by decide
  exact congrArg Fin.val (hall ⟨n, hn⟩ ⟨m, hm⟩ h)

theorem hexDigest_injective {digest digest' : Bytes} (h : hexDigest digest = hexDigest digest') :
    digest = digest' := by
  have hchars := congrArg String.toList h
  simp only [hexDigest, String.toList_ofList] at hchars
  clear h
  induction digest generalizing digest' with
  | nil =>
    cases digest' with
    | nil => rfl
    | cons b digest' => simp at hchars
  | cons b digest ih =>
    cases digest' with
    | nil => simp at hchars
    | cons b' digest' =>
      simp only [List.flatMap_cons, List.cons_append, List.nil_append, List.cons.injEq] at hchars
      obtain ⟨hhigh, hlow, hrest⟩ := hchars
      have hb := b.toNat_lt
      have hb' := b'.toNat_lt
      have h1 := hexChar_injective (by omega) (by omega) hhigh
      have h2 := hexChar_injective (by omega) (by omega) hlow
      have hbyte : b = b' := UInt8.toNat_inj.mp (by omega)
      rw [hbyte, ih hrest]

/-! ### Paths -/

section Paths

variable {args : ExportArgs} {agencyLower : String}

theorem isAbsolute_gatewayName (agencyLower : String) :
    Path.isAbsolute (ExportArgs.gatewayName agencyLower) = false := by
  simp [Path.isAbsolute, ExportArgs.gatewayName]

theorem isAbsolute_pubName (args : ExportArgs) (agencyLower : String) :
    Path.isAbsolute (args.pubName agencyLower) = Path.isAbsolute agencyLower := by
  by_cases hempty : agencyLower = ""
  · subst hempty
    cases hkey : args.keyType <;> simp [ExportArgs.pubName, hkey, Path.isAbsolute]
  · cases hkey : args.keyType <;> simp only [ExportArgs.pubName, hkey] <;>
      exact Path.isAbsolute_append hempty _

theorem isAbsolute_pubPath (hroot : args.pkiRoot ≠ "")
    (hrelative : Path.isAbsolute agencyLower = false) :
    Path.isAbsolute (args.pubPath agencyLower) = Path.isAbsolute args.pkiRoot := by
  have hpub : Path.isAbsolute (args.pubName agencyLower) = false := by
    rw [isAbsolute_pubName, hrelative]
  have hgateway := isAbsolute_gatewayName agencyLower
  have hdir : args.gatewayDir agencyLower ≠ "" := Path.join_ne_empty hroot hgateway
  rw [ExportArgs.pubPath, Path.isAbsolute_join hdir hpub, ExportArgs.gatewayDir,
    Path.isAbsolute_join hroot hgateway]

theorem components_pubPath (args : ExportArgs)
    (hrelative : Path.isAbsolute agencyLower = false) :
    Path.components (args.pubPath agencyLower) =
      Path.components args.pkiRoot ++ (Path.components (ExportArgs.gatewayName agencyLower) ++
        Path.components (args.pubName agencyLower)) := by
  have hpub : Path.isAbsolute (args.pubName agencyLower) = false := by
    rw [isAbsolute_pubName, hrelative]
  rw [ExportArgs.pubPath, Path.components_join _ hpub, ExportArgs.gatewayDir,
    Path.components_join _ (isAbsolute_gatewayName agencyLower), List.append_assoc]

/-- A path that ends in the name of a public key. -/
theorem proper_of_pubName {path : String}
    (h : (args.pubName agencyLower).toList <:+ path.toList) : Path.Proper path := by
  have hextension : ".pub".toList <:+ (args.pubName agencyLower).toList := by
    cases hkey : args.keyType with
    | mldsa => exact ⟨agencyLower.toList ++ "_ml_dsa65".toList, by simp [ExportArgs.pubName, hkey]⟩
    | ecdsa => exact ⟨agencyLower.toList ++ "_ecdsa256".toList, by simp [ExportArgs.pubName, hkey]⟩
  exact Path.proper_of_suffix (hextension.trans h) (by decide) (by decide)

/-- The two paths of a key are spellings of one path. -/
theorem locate_verifierPath {File : Type} (names : Names File) (hroot : args.pkiRoot ≠ "")
    (hrelative : Path.isAbsolute agencyLower = false) :
    names.locate (args.pkiRoot ++ "/" ++ args.pubPathRel agencyLower) =
      names.locate (args.pubPath agencyLower) := by
  apply names.spelling
  · rw [isAbsolute_pubPath hroot hrelative, String.append_assoc, Path.isAbsolute_append hroot]
  · rw [components_pubPath args hrelative, Path.components_slash, ExportArgs.pubPathRel,
      Path.components_slash]
  · apply @proper_of_pubName args agencyLower
    rw [ExportArgs.pubPathRel, ← String.append_assoc, String.toList_append]
    exact List.suffix_append _ _
  · exact proper_of_pubName (Path.suffix_join _ _)

/-- With a root, and ids that start with no slash, the verifier finds every key. -/
theorem pathsAgree_of_rooted {Cert Key File : Type} {lib : PkiLibrary Cert Key}
    {names : Names File} (hroot : args.pkiRoot ≠ "")
    (hrelative : ∀ agency ∈ args.listed, Path.isAbsolute (lib.lower agency) = false)
    (hapart : ∀ agency ∈ args.listed,
      names.locate args.out ≠ names.locate (args.pubPath (lib.lower agency))) :
    PathsAgree lib names args where
  found := fun agency hagency => locate_verifierPath names hroot (hrelative agency hagency)
  apart := hapart

end Paths

/-! ### The written bundle -/

/-- The dict the trust store builds, newest entry first. -/
theorem loadAgencies_bundle (entries : List TrustBundleEntry) :
    TrustStore.loadAgencies (TrustBundleEntry.bundle entries) =
      .ok (entries.map fun e => (PyVal.str e.agencyId, e.items)).reverse := by
  have hfold : ∀ (entries : List TrustBundleEntry) (agencies : List (PyVal × PyDict)),
      (entries.map fun e => PyVal.dict e.items).foldlM TrustStore.addAgency agencies =
        (.ok ((entries.map fun e => (PyVal.str e.agencyId, e.items)).reverse ++ agencies) :
          Except PyExc _) := by
    intro entries
    induction entries with
    | nil => intro agencies; rfl
    | cons e entries ih =>
      intro agencies
      have hadd : TrustStore.addAgency agencies (.dict e.items) =
          .ok ((.str e.agencyId, e.items) :: agencies) := rfl
      rw [List.map_cons, List.foldlM_cons, hadd]
      change (entries.map fun e => PyVal.dict e.items).foldlM TrustStore.addAgency
        ((.str e.agencyId, e.items) :: agencies) = _
      rw [ih]
      simp
  have hget : PyDict.get? [(.str "trusted_agencies",
      .list (entries.map fun e => PyVal.dict e.items))] "trusted_agencies" =
      some (.list (entries.map fun e => PyVal.dict e.items)) := rfl
  have hentries := hfold entries []
  rw [List.append_nil] at hentries
  simp only [TrustStore.loadAgencies, TrustBundleEntry.bundle, hget, PyVal.iterate, hentries]

/-- The trust store of a bundle. -/
def bundleStore (entries : List TrustBundleEntry) (revoked : List PyVal) : TrustStore :=
  ⟨(entries.map fun e => (PyVal.str e.agencyId, e.items)).reverse, revoked⟩

/-- The store finds an entry of the bundle under its id, and nothing else. -/
theorem getAgency_bundle (entries : List TrustBundleEntry) (revoked : List PyVal) (id : String) :
    (∃ e ∈ entries, e.agencyId = id ∧ (bundleStore entries revoked).getAgency id = some e.items) ∨
      (∀ e ∈ entries, e.agencyId ≠ id) ∧ (bundleStore entries revoked).getAgency id = none := by
  simp only [TrustStore.getAgency, bundleStore]
  cases hfind : (entries.map fun e => (PyVal.str e.agencyId, e.items)).reverse.find?
      fun entry => entry.1.isStr id with
  | none =>
    right
    refine ⟨?_, rfl⟩
    intro e he hid
    have hnot := List.find?_eq_none.mp hfind (.str e.agencyId, e.items)
      (by simpa using ⟨e, he, rfl, rfl⟩)
    simp [PyVal.isStr, hid] at hnot
  | some entry =>
    left
    have hmem := List.mem_of_find?_eq_some hfind
    have hequal := List.find?_some hfind
    rw [List.mem_reverse, List.mem_map] at hmem
    obtain ⟨e, he, rfl⟩ := hmem
    exact ⟨e, he, by simpa [PyVal.isStr] using hequal, rfl⟩

theorem mapM_eq_ok {α β : Type} {f : α → Except PyExc β} {items : List α} {results : List β}
    (h : items.mapM f = .ok results) : List.Forall₂ (fun a b => f a = .ok b) items results := by
  induction items generalizing results with
  | nil =>
    obtain rfl : [] = results := Except.ok.inj h
    exact .nil
  | cons a items ih =>
    rw [List.mapM_cons] at h
    cases ha : f a with
    | error e => rw [ha] at h; cases h
    | ok b =>
      rw [ha] at h
      cases hrest : items.mapM f with
      | error e => rw [hrest] at h; cases h
      | ok rest =>
        rw [hrest] at h
        obtain rfl : b :: rest = results := Except.ok.inj h
        exact .cons ha (ih hrest)

theorem mapM_eq_error {α β : Type} {f : α → Except PyExc β} {items : List α} {e : PyExc}
    (h : items.mapM f = .error e) : ∃ a ∈ items, ∃ e, f a = .error e := by
  induction items generalizing e with
  | nil => cases h
  | cons a items ih =>
    rw [List.mapM_cons] at h
    cases ha : f a with
    | error e => exact ⟨a, List.mem_cons_self, e, ha⟩
    | ok b =>
      rw [ha] at h
      cases hrest : items.mapM f with
      | error e =>
        obtain ⟨a', hmem, he⟩ := ih hrest
        exact ⟨a', List.mem_cons_of_mem _ hmem, he⟩
      | ok rest => rw [hrest] at h; cases h

section Export

variable {Cert Key : Type} {lib : PkiLibrary Cert Key} {File : Type} {names : Names File}
  {machine : Machine File} {args : ExportArgs}

theorem loadArtifacts_eq_ok {agency : String} {cert : Cert} {pubKey : Key}
    (h : loadArtifacts lib names machine args agency = .ok (cert, pubKey)) :
    ∃ pem, machine.files.read names (args.pubPath (lib.lower agency)) = .ok pem ∧
      lib.loadPemPublicKey pem = .ok pubKey := by
  simp only [loadArtifacts, bind, Except.bind, pure, Except.pure, throw, throwThe,
    MonadExceptOf.throw] at h
  split at h
  · simp at h
  · split at h
    · simp at h
    · split at h
      · simp at h
      · split at h
        · simp at h
        · rename_i pem hpem
          split at h
          · simp at h
          · rename_i key hkey
            obtain ⟨rfl, rfl⟩ : _ = cert ∧ key = pubKey := by simpa using h
            exact ⟨pem, hpem, hkey⟩

/-- The entry an agency with these artifacts gets. -/
def entryOf (lib : PkiLibrary Cert Key) (machine : Machine File) (args : ExportArgs)
    (agency : String) (artifacts : Cert × Key) : TrustBundleEntry where
  agencyId := agency
  payloadSigningPublicKeyPath := args.pubPathRel (lib.lower agency)
  payloadSigningPublicKeyFingerprint := getPubkeyFingerprint lib artifacts.2
  tlsCertificateFingerprint := getCertFingerprint lib artifacts.1
  issueTimestamp := machine.nowStr
  expiryTimestamp := machine.expiryStr

theorem exportAgency_eq_ok {agency : String} {entry : TrustBundleEntry}
    (h : exportAgency lib names machine args agency = .ok entry) :
    ∃ artifacts, loadArtifacts lib names machine args agency = .ok artifacts ∧
      entry = entryOf lib machine args agency artifacts := by
  simp only [exportAgency, bind, Except.bind, pure, Except.pure] at h
  split at h
  · simp at h
  · rename_i artifacts hload
    obtain rfl : _ = entry := by simpa using h
    exact ⟨artifacts, hload, rfl⟩

theorem exportAgency_eq_error {agency : String} {e : PyExc}
    (h : exportAgency lib names machine args agency = .error e) :
    loadArtifacts lib names machine args agency = .error e := by
  simp only [exportAgency, bind, Except.bind, pure, Except.pure] at h
  split at h
  · rename_i e' hload
    obtain rfl : e' = e := by simpa using h
    exact hload
  · simp at h

/-- The entries of the bundle are those of the listed agencies. -/
theorem entries_of_forall₂ {listed : List String} {entries : List TrustBundleEntry}
    (h : List.Forall₂ (fun agency entry => exportAgency lib names machine args agency = .ok entry)
      listed entries) :
    entries.map (·.agencyId) = listed ∧
      ∀ entry ∈ entries, ∃ artifacts,
        loadArtifacts lib names machine args entry.agencyId = .ok artifacts ∧
        entry = entryOf lib machine args entry.agencyId artifacts := by
  induction h with
  | nil => exact ⟨rfl, by simp⟩
  | @cons agency entry listed entries hentry _ ih =>
    obtain ⟨artifacts, hload, rfl⟩ := exportAgency_eq_ok hentry
    refine ⟨by simp [ih.1, entryOf], ?_⟩
    intro entry' hmem
    rcases List.mem_cons.mp hmem with rfl | hmem
    · exact ⟨artifacts, hload, rfl⟩
    · exact ih.2 entry' hmem

theorem passesComparison_iff (hhex : ∀ digest, lib.lower (hexDigest digest) = hexDigest digest)
    {ts : TrustStore} {id agency : String} {cert : Cert} {pubKey : Key}
    (hagency : ts.getAgency id =
      some (entryOf lib machine args agency (cert, pubKey)).items) (derCert : Bytes) :
    PassesComparison ts id (peerFingerprint lib derCert) ↔
      lib.sha256 derCert = lib.sha256 (lib.certificateDer cert) := by
  have hitem : PyDict.getItem (entryOf lib machine args agency (cert, pubKey)).items
      "tls_certificate_fingerprint" =
        .ok (.str (hexDigest (lib.sha256 (lib.certificateDer cert)))) := by
    rw [← hhex]
    rfl
  constructor
  · rintro ⟨found, expectedTlsFp, hfound, _, hfp, hequal⟩
    obtain rfl : _ = found := Option.some.inj (hagency.symm.trans hfound)
    obtain rfl : _ = expectedTlsFp := Except.ok.inj (hitem.symm.trans hfp)
    have hsame :
        hexDigest (lib.sha256 (lib.certificateDer cert)) = peerFingerprint lib derCert := by
      simpa using hequal
    exact (hexDigest_injective hsame).symm
  · intro hsame
    refine ⟨_, _, hagency, rfl, hitem, ?_⟩
    simp [peerFingerprint, hsame]

section Write

variable [DecidableEq File]

/-- What the command does: exit for want of something, or write the entries of all listed
    agencies. -/
theorem cmdExport_cases (lib : PkiLibrary Cert Key) (names : Names File) (machine : Machine File)
    (args : ExportArgs) :
    ((∃ e, cmdExportTrustBundle lib names machine args = .error e) ∧
      ((∃ e, machine.makedirs = .error e) ∨ (∃ e, machine.opened = .error e) ∨
        ∃ agency ∈ args.listed, ∃ e, loadArtifacts lib names machine args agency = .error e)) ∨
    ∃ entries, List.Forall₂
        (fun agency entry => exportAgency lib names machine args agency = .ok entry)
        args.listed entries ∧
      cmdExportTrustBundle lib names machine args = .ok (machine.files.write names args.out
        (lib.dump (TrustBundleEntry.bundle entries))) := by
  simp only [cmdExportTrustBundle, bind, Except.bind, pure, Except.pure]
  cases hmakedirs : machine.makedirs with
  | error e => left; exact ⟨⟨e, rfl⟩, Or.inl ⟨e, rfl⟩⟩
  | ok _ =>
    cases hentries : args.listed.mapM (exportAgency lib names machine args) with
    | error e =>
      left
      obtain ⟨agency, hmem, e', he⟩ := mapM_eq_error hentries
      exact ⟨⟨e, rfl⟩, Or.inr (Or.inr ⟨agency, hmem, e', exportAgency_eq_error he⟩)⟩
    | ok entries =>
      cases hopened : machine.opened with
      | error e => left; exact ⟨⟨e, rfl⟩, Or.inr (Or.inl ⟨e, rfl⟩)⟩
      | ok _ => right; exact ⟨entries, mapM_eq_ok hentries, rfl⟩

/-- The trust store loaded from the output. -/
theorem load_written (names : Names File) (files : FileSystem File) (path : String)
    (hyaml : ∀ entries, lib.safeLoad (lib.dump (TrustBundleEntry.bundle entries)) =
      .ok (TrustBundleEntry.bundle entries))
    (entries : List TrustBundleEntry) {revData : PyVal} {revoked : List PyVal}
    (hrevoked : TrustStore.loadRevoked revData = .ok revoked) :
    ∃ text, (files.write names path (lib.dump (TrustBundleEntry.bundle entries))).read names path =
        .ok text ∧
      TrustStore.load (some (lib.safeLoad text)) (some (.ok revData)) =
        .ok (bundleStore entries revoked) := by
  refine ⟨lib.dump (TrustBundleEntry.bundle entries), ?_, ?_⟩
  · simp [FileSystem.read, FileSystem.write]
  · simp only [TrustStore.load, hyaml, loadAgencies_bundle, hrevoked, bundleStore]

/-- When the paths agree, so do the command and the receiver. -/
theorem exportAgrees_of_paths (hlib : lib.Lawful args) (hpaths : PathsAgree lib names args) :
    ExportAgrees lib names args := by
  intro machine
  rcases cmdExport_cases lib names machine args with ⟨⟨e, herror⟩, hwhy⟩ | ⟨entries, hentries, hok⟩
  · rw [herror]
    exact hwhy
  · rw [hok]
    intro revData revoked hrevoked
    obtain ⟨text, htext, hload⟩ :=
      load_written names machine.files args.out hlib.yaml entries hrevoked
    obtain ⟨hids, hartifacts⟩ := entries_of_forall₂ hentries
    refine ⟨text, _, htext, hload, ?_, ?_⟩
    · intro id
      rw [← hids, List.mem_map]
      rcases getAgency_bundle entries revoked id with ⟨e, he, hid, hget⟩ | ⟨hnone, hget⟩
      · rw [hget]
        simpa using ⟨e, he, hid⟩
      · rw [hget]
        simpa using hnone
    · intro id hid
      rcases getAgency_bundle entries revoked id with ⟨e, he, rfl, hget⟩ | ⟨hnone, _⟩
      · obtain ⟨⟨cert, pubKey⟩, hload', hentry⟩ := hartifacts e he
        rw [hentry] at hget
        refine ⟨cert, pubKey, hload', passesComparison_iff hlib.hexLower hget, ?_⟩
        intro keys hread hpem
        obtain ⟨pem, hfile, hkey⟩ := loadArtifacts_eq_ok hload'
        -- the verifier's path names the file the command read, which is still there
        have hverifier : (machine.files.write names args.out
            (lib.dump (TrustBundleEntry.bundle entries))).read names
              (args.pkiRoot ++ "/" ++ args.pubPathRel (lib.lower e.agencyId)) = .ok pem := by
          have hsame := hpaths.found _ hid
          have hapart := hpaths.apart _ hid
          simp only [FileSystem.read, FileSystem.write, hsame, hapart.symm, if_false] at hfile ⊢
          exact hfile
        rw [← hread] at hverifier
        rw [← hpem] at hkey
        exact ⟨_, .str (args.pubPathRel (lib.lower e.agencyId)), _, hget, rfl,
          MLDSAVerifier.loadPublicKey_fresh hverifier hkey, rfl⟩
      · rw [← hids, List.mem_map] at hid
        obtain ⟨e, he, rfl⟩ := hid
        exact absurd rfl (hnone e he)

/-! ### Where the paths differ -/

/-- A machine with a certificate and a key in every file, of which the file `elsewhere` has
    others. -/
def stocked (pem otherPem : Bytes) (elsewhere : File) : Machine File where
  files := fun file => some (.ok (if file = elsewhere then otherPem else pem))
  nowStr := "2026-01-01T00:00:00+00:00"
  expiryStr := "2027-01-01T00:00:00+00:00"
  makedirs := .ok ()
  opened := .ok ()

theorem read_stocked (pem otherPem : Bytes) (elsewhere : File) (path : String) :
    (stocked pem otherPem elsewhere).files.read names path =
      .ok (if names.locate path = elsewhere then otherPem else pem) := rfl

/-- The command finds what it needs there. -/
theorem loadArtifacts_stocked {pem otherPem : Bytes} {cert otherCert : Cert} {pubKey other : Key}
    (hcert : lib.loadPemCertificate pem = .ok cert)
    (hotherCert : lib.loadPemCertificate otherPem = .ok otherCert)
    (hkey : lib.loadPemPublicKey pem = .ok pubKey)
    (hother : lib.loadPemPublicKey otherPem = .ok other) (elsewhere : File) (agency : String) :
    ∃ cert', loadArtifacts lib names (stocked pem otherPem elsewhere) args agency =
      .ok (cert', if names.locate (args.pubPath (lib.lower agency)) = elsewhere then other
        else pubKey) := by
  refine ⟨if names.locate (args.certPath (lib.lower agency)) = elsewhere then otherCert
    else cert, ?_⟩
  have hthere : ∀ path, (stocked pem otherPem elsewhere).files.contains names path = true :=
    fun _ => rfl
  have hloadCert : ∀ file : File, lib.loadPemCertificate
      (if file = elsewhere then otherPem else pem) =
        .ok (if file = elsewhere then otherCert else cert) := by
    intro file
    split
    · exact hotherCert
    · exact hcert
  have hloadKey : ∀ file : File, lib.loadPemPublicKey
      (if file = elsewhere then otherPem else pem) =
        .ok (if file = elsewhere then other else pubKey) := by
    intro file
    split
    · exact hother
    · exact hkey
  simp only [loadArtifacts, hthere, read_stocked, bind, Except.bind, hloadCert, hloadKey]
  rfl

/-- If the receiver agrees, the verifier finds the key that was exported, in the files after
    the command. -/
theorem verifier_key_of_agrees (hlib : lib.Lawful args) (hagrees : ExportAgrees lib names args)
    (hmakedirs : machine.makedirs = .ok ()) (hopened : machine.opened = .ok ())
    (hall : ∀ agency ∈ args.listed, ∃ artifacts,
      loadArtifacts lib names machine args agency = .ok artifacts)
    {id : String} (hid : id ∈ args.listed) {cert : Cert} {pubKey : Key}
    (hload : loadArtifacts lib names machine args id = .ok (cert, pubKey)) :
    ∃ (entries : List TrustBundleEntry) (pem : Bytes), entries.map (·.agencyId) = args.listed ∧
      (machine.files.write names args.out
        (lib.dump (TrustBundleEntry.bundle entries))).read names
          (args.pkiRoot ++ "/" ++ args.pubPathRel (lib.lower id)) = .ok pem ∧
      lib.loadPemPublicKey pem = .ok pubKey := by
  have hmachine := hagrees machine
  rcases cmdExport_cases lib names machine args with ⟨_, hwhy⟩ | ⟨entries, hentries, hok⟩
  · rcases hwhy with ⟨e, he⟩ | ⟨e, he⟩ | ⟨agency, hmem, e, he⟩
    · rw [hmakedirs] at he; simp at he
    · rw [hopened] at he; simp at he
    · obtain ⟨artifacts, hartifacts⟩ := hall agency hmem
      rw [hartifacts] at he
      simp at he
  · rw [hok] at hmachine
    obtain ⟨hids, hartifacts⟩ := entries_of_forall₂ hentries
    obtain ⟨text, htext, hstore⟩ :=
      @load_written _ _ lib _ _ names machine.files args.out hlib.yaml entries .none [] rfl
    obtain ⟨text', ts, htext', hstore', _, hagencies⟩ := hmachine .none [] rfl
    obtain rfl : text = text' := Except.ok.inj (htext.symm.trans htext')
    obtain rfl : _ = ts := Except.ok.inj (hstore.symm.trans hstore')
    obtain ⟨cert', pubKey', hload', hagency⟩ := hagencies id hid
    obtain ⟨rfl, rfl⟩ := Prod.mk.inj (Except.ok.inj (hload.symm.trans hload'))
    refine ⟨entries, ?_⟩
    generalize machine.files.write names args.out
      (lib.dump (TrustBundleEntry.bundle entries)) = after at hagency ⊢
    obtain ⟨agency, pubkeyPath, verifier', hget, hpath, hverifier, _⟩ := hagency.key
      { readFile := after.read names, loadPemPublicKey := lib.loadPemPublicKey
        isEllipticCurve := fun _ => false, verifyEcdsa := fun _ _ _ => .ok ()
        verify := fun _ _ _ => .ok (), sha256 := lib.sha256, floatRepr := fun _ => "" } rfl rfl
    rcases getAgency_bundle entries [] id with ⟨e, he, rfl, hfound⟩ | ⟨_, hfound⟩
    · obtain ⟨artifacts, _, hentry⟩ := hartifacts e he
      obtain rfl : e.items = agency := Option.some.inj (hfound.symm.trans hget)
      have hrel : PyDict.getItem e.items "payload_signing_public_key_path" =
          .ok (.str (args.pubPathRel (lib.lower e.agencyId))) := by
        rw [hentry]
        rfl
      obtain rfl : _ = pubkeyPath := Except.ok.inj (hrel.symm.trans hpath)
      rcases MLDSAVerifier.loadPublicKey_cases hverifier with ⟨_, hmem, _⟩ | ⟨hfile, _⟩
      · simp at hmem
      · simp only [MLDSAVerifier.loadFile, PyVal.scalarText] at hfile
        split at hfile
        · simp at hfile
        · rename_i pem hpem
          exact ⟨pem, hids, hpem, hfile⟩
    · rw [hfound] at hget
      simp at hget

/-- A machine on which the verifier does not get the key of an agency. -/
theorem not_agrees (hlib : lib.Lawful args) {id : String} (hid : id ∈ args.listed)
    (h : names.locate (args.pkiRoot ++ "/" ++ args.pubPathRel (lib.lower id)) ≠
        names.locate (args.pubPath (lib.lower id)) ∨
      names.locate args.out =
        names.locate (args.pkiRoot ++ "/" ++ args.pubPathRel (lib.lower id))) :
    ¬ ExportAgrees lib names args := by
  intro hagrees
  obtain ⟨keyPem, otherPem, cert, otherCert, pubKey, other, hcert, hotherCert, hkey, hother, hne⟩ :=
    hlib.pems
  -- the key where the verifier looks is another one
  have hload := @loadArtifacts_stocked Cert Key lib File names args _ keyPem otherPem cert otherCert
    pubKey other hcert hotherCert hkey hother
    (names.locate (args.pkiRoot ++ "/" ++ args.pubPathRel (lib.lower id)))
  have hall : ∀ agency ∈ args.listed, ∃ artifacts, loadArtifacts lib names
      (stocked keyPem otherPem
        (names.locate (args.pkiRoot ++ "/" ++ args.pubPathRel (lib.lower id)))) args agency =
          .ok artifacts := by
    intro agency _
    obtain ⟨cert', hloaded⟩ := hload agency
    exact ⟨_, hloaded⟩
  obtain ⟨cert', hmine⟩ := hload id
  obtain ⟨entries, pem, hids, hread, hpem⟩ :=
    verifier_key_of_agrees hlib hagrees rfl rfl hall hid hmine
  simp only [FileSystem.read, FileSystem.write, stocked, if_true] at hread
  by_cases hout : names.locate (args.pkiRoot ++ "/" ++ args.pubPathRel (lib.lower id)) =
      names.locate args.out
  · -- unless it finds the bundle there
    rw [if_pos hout] at hread
    obtain ⟨e, he⟩ := hlib.notPem entries hids
    rw [Except.ok.inj hread, hpem] at he
    simp at he
  · rw [if_neg hout] at hread
    have hdiffer := h.resolve_right fun heq => hout heq.symm
    rw [if_neg hdiffer.symm, ← Except.ok.inj hread, hother] at hpem
    exact hne (Except.ok.inj hpem).symm

/-- **The exported bundle and the receiver agree exactly when** every listed key is found from
    the base directory, and the output does not replace it. -/
theorem exportAgrees_iff (hlib : lib.Lawful args) :
    ExportAgrees lib names args ↔ PathsAgree lib names args := by
  constructor
  · intro hagrees
    have hfound : ∀ agency ∈ args.listed,
        names.locate (args.pkiRoot ++ "/" ++ args.pubPathRel (lib.lower agency)) =
          names.locate (args.pubPath (lib.lower agency)) := by
      intro agency hagency
      by_contra hdiffer
      exact not_agrees hlib hagency (Or.inl hdiffer) hagrees
    refine ⟨hfound, ?_⟩
    intro agency hagency hout
    rw [← hfound agency hagency] at hout
    exact not_agrees hlib hagency (Or.inr hout) hagrees
  · intro hpaths
    exact exportAgrees_of_paths hlib hpaths

end Write

end Export

/-! ### A library -/

/-- The text after `label`. -/
def stripLabel (label text : Bytes) : Option Bytes :=
  if label.isPrefixOf text then some (text.drop label.length) else none

theorem stripLabel_append (label rest : Bytes) : stripLabel label (label ++ rest) = some rest := by
  have hfront : label.isPrefixOf (label ++ rest) = true := by simp
  simp only [stripLabel, hfront, if_true, List.drop_left]

/-- YAML of a bundle as `yaml.dump` lays it out, with all scalars quoted. -/
def dumpLine : PyVal × PyVal → Bytes
  | (.str key, .str value) => asciiBytes key ++ asciiBytes ": " ++ jsonString value ++ [10]
  | _ => []

def dumpEntry : PyVal → Bytes
  | .dict items => asciiBytes "- " ++ (asciiBytes "  ").intercalate (items.map dumpLine)
  | _ => []

def dumpBundle : PyVal → Bytes
  | .dict [(.str key, .list entries)] => asciiBytes key ++ [58, 10] ++ entries.flatMap dumpEntry
  | _ => []

def readLine (indent key : String) (text : Bytes) : Option (String × Bytes) := do
  let rest ← stripLabel (asciiBytes indent ++ asciiBytes key ++ asciiBytes ": ") text
  let (value, rest) ← readString rest
  let rest ← stripLabel [10] rest
  return (value, rest)

def readEntry (text : Bytes) : Option (TrustBundleEntry × Bytes) := do
  let (agencyId, rest) ← readLine "- " "agency_id" text
  let (expiry, rest) ← readLine "  " "expiry_timestamp" rest
  let (issue, rest) ← readLine "  " "issue_timestamp" rest
  let (keyFp, rest) ← readLine "  " "payload_signing_public_key_fingerprint" rest
  let (keyPath, rest) ← readLine "  " "payload_signing_public_key_path" rest
  let (tlsFp, rest) ← readLine "  " "tls_certificate_fingerprint" rest
  return (⟨agencyId, keyPath, keyFp, tlsFp, issue, expiry⟩, rest)

def readEntries : Nat → Bytes → Option (List TrustBundleEntry)
  | _, [] => some []
  | 0, _ => none
  | fuel + 1, text => do
    let (e, rest) ← readEntry text
    return e :: (← readEntries fuel rest)

def loadBundle (text : Bytes) : Except PyExc PyVal :=
  match stripLabel (asciiBytes "trusted_agencies" ++ [58, 10]) text with
  | none => .error ⟨.other "ParserError", "while parsing a block mapping"⟩
  | some rest =>
    match readEntries rest.length rest with
    | none => .error ⟨.other "ParserError", "while parsing a block collection"⟩
    | some entries => .ok (TrustBundleEntry.bundle entries)

theorem readLine_written (indent key value : String) (rest : Bytes) :
    readLine indent key
        (asciiBytes indent ++ (dumpLine (.str key, .str value) ++ rest)) = some (value, rest) := by
  have htext : asciiBytes indent ++ (dumpLine (.str key, .str value) ++ rest) =
      (asciiBytes indent ++ asciiBytes key ++ asciiBytes ": ") ++
        (jsonString value ++ ([10] ++ rest)) := by
    simp [dumpLine]
  simp only [readLine]
  rw [htext, stripLabel_append]
  simp only [Option.bind_eq_bind, Option.bind_some, readString_jsonString, stripLabel_append]
  rfl

/-- An entry that was written is read back, up to the text after it. -/
theorem readEntry_dumpEntry (e : TrustBundleEntry) (rest : Bytes) :
    readEntry (dumpEntry (.dict e.items) ++ rest) = some (e, rest) := by
  simp only [dumpEntry, TrustBundleEntry.items, List.map_cons, List.map_nil,
    List.intercalate_cons_cons, List.intercalate_singleton, List.append_assoc]
  simp only [readEntry, readLine_written, Option.bind_eq_bind, Option.bind_some]
  rfl

theorem readEntries_dump (entries : List TrustBundleEntry) {fuel : Nat}
    (hfuel : entries.length ≤ fuel) :
    readEntries fuel ((entries.map fun e => PyVal.dict e.items).flatMap dumpEntry) =
      some entries := by
  induction entries generalizing fuel with
  | nil => cases fuel <;> rfl
  | cons e entries ih =>
    rw [List.length_cons] at hfuel
    obtain ⟨fuel, rfl⟩ : ∃ n, fuel = n + 1 := ⟨fuel - 1, by omega⟩
    rw [List.map_cons, List.flatMap_cons]
    have hread := readEntry_dumpEntry e
      ((entries.map fun e => PyVal.dict e.items).flatMap dumpEntry)
    have hrest := ih (Nat.le_of_succ_le_succ hfuel)
    generalize (entries.map fun e => PyVal.dict e.items).flatMap dumpEntry = more at hread hrest ⊢
    obtain ⟨b, text, htext⟩ : ∃ b text, dumpEntry (.dict e.items) ++ more = b :: text :=
      ⟨45, _, rfl⟩
    rw [htext] at hread ⊢
    simp only [readEntries, hread, hrest, Option.bind_eq_bind, Option.bind_some]
    rfl

theorem length_dumpEntries (entries : List TrustBundleEntry) :
    entries.length ≤ ((entries.map fun e => PyVal.dict e.items).flatMap dumpEntry).length := by
  induction entries with
  | nil => exact Nat.zero_le _
  | cons e entries ih =>
    have hpositive : 0 < (dumpEntry (.dict e.items)).length := by simp [dumpEntry, asciiBytes]
    rw [List.map_cons, List.flatMap_cons, List.length_append, List.length_cons]
    omega

theorem loadBundle_dumpBundle (entries : List TrustBundleEntry) :
    loadBundle (dumpBundle (TrustBundleEntry.bundle entries)) =
      .ok (TrustBundleEntry.bundle entries) := by
  simp only [loadBundle, dumpBundle, TrustBundleEntry.bundle, stripLabel_append,
    readEntries_dump entries (length_dumpEntries entries)]

/-- The text after the first place at which `label` stands. -/
def afterLabel (label : Bytes) : Bytes → Option Bytes
  | [] => none
  | b :: text =>
    match stripLabel label (b :: text) with
    | some rest => some rest
    | none => afterLabel label text

/-- The data behind the line that opens the part of this kind, in a file of one or several
    parts. -/
def loadPem (kind : String) (pem : Bytes) : Except PyExc Bytes :=
  if (asciiBytes "-----BEGIN ").isPrefixOf pem then
    match afterLabel (asciiBytes kind ++ asciiBytes "-----\n") pem with
    | none => .error ⟨.valueError, "Unable to load PEM file"⟩
    | some der => .ok der
  else .error ⟨.valueError, "Unable to load PEM file"⟩

def savePem (kind : String) (der : Bytes) : Bytes := asciiBytes kind ++ asciiBytes "-----\n" ++ der

theorem loadPem_savePem {kind : String}
    (hkind : (asciiBytes "-----BEGIN ").isPrefixOf (asciiBytes kind) = true) (der : Bytes) :
    loadPem kind (savePem kind der) = .ok der := by
  have hbegin : (asciiBytes "-----BEGIN ").isPrefixOf (savePem kind der) = true := by
    rw [List.isPrefixOf_iff_prefix] at hkind ⊢
    rw [savePem, List.append_assoc]
    exact hkind.trans (List.prefix_append _ _)
  obtain ⟨b, rest, htext⟩ : ∃ b rest, savePem kind der = b :: rest := by
    apply List.exists_cons_of_ne_nil
    simp [savePem, asciiBytes]
  have hafter : afterLabel (asciiBytes kind ++ asciiBytes "-----\n") (savePem kind der) =
      some der := by
    have hstrip := stripLabel_append (asciiBytes kind ++ asciiBytes "-----\n") der
    rw [← savePem, htext] at hstrip
    rw [htext, afterLabel, hstrip]
  rw [loadPem, if_pos hbegin, hafter]

/-- Certificates and keys are their own DER, and a PEM file has it as it is. -/
def PkiLibrary.plain : PkiLibrary Bytes Bytes where
  loadPemCertificate := loadPem "-----BEGIN CERTIFICATE"
  certificateDer cert := cert
  loadPemPublicKey := loadPem "-----BEGIN PUBLIC KEY"
  spkiDer pubkey := pubkey
  sha256 := QsTie.sha256
  lower s := String.ofList (s.toList.map Char.toLower)
  dump := dumpBundle
  safeLoad := loadBundle

theorem toLower_hexChar : ∀ n < 16, (hexChar n).toLower = hexChar n := by decide

theorem PkiLibrary.plain_lawful (args : ExportArgs) : PkiLibrary.plain.Lawful args where
  yaml := loadBundle_dumpBundle
  hexLower := by
    intro digest
    have hchars : ∀ c ∈ (hexDigest digest).toList, c.toLower = c := by
      intro c hc
      simp only [hexDigest, String.toList_ofList, List.mem_flatMap] at hc
      obtain ⟨b, _, hc⟩ := hc
      have hb := b.toNat_lt
      rcases List.mem_cons.mp hc with rfl | hc
      · exact toLower_hexChar _ (by omega)
      · rw [List.mem_singleton] at hc
        subst hc
        exact toLower_hexChar _ (by omega)
    simp only [PkiLibrary.plain]
    rw [List.map_congr_left hchars, List.map_id', String.ofList_toList]
  notPem := fun entries _ => ⟨_, rfl⟩
  pems := ⟨asciiBytes "-----BEGIN PUBLIC KEY-----\n-----BEGIN CERTIFICATE-----\n",
    asciiBytes "-----BEGIN PUBLIC KEY-----\nA\n-----BEGIN CERTIFICATE-----\n", [], [],
    asciiBytes "-----BEGIN CERTIFICATE-----\n", asciiBytes "A\n-----BEGIN CERTIFICATE-----\n",
    by decide, by decide, by decide, by decide, by decide⟩

def sampleArgs : ExportArgs :=
  { agencies := "RAW,NIA", pkiRoot := "pki", out := "trust/trust_bundle.yaml" }

/-- Two agencies below `pki`, and an output elsewhere. -/
theorem sample_exportAgrees :
    ExportAgrees PkiLibrary.plain (Names.inDirectory ["app".toList]) sampleArgs := by
  apply (exportAgrees_iff (PkiLibrary.plain_lawful sampleArgs)).mpr
  exact pathsAgree_of_rooted (by decide) (by decide) (by decide)

/-- Without a root, the command reads below its own directory and the verifier below the
    root of the file system. -/
theorem sample_export_differs :
    ¬ ExportAgrees PkiLibrary.plain (Names.inDirectory ["ca".toList])
      { agencies := "RAW", pkiRoot := "", out := "bundle.yaml" } := by
  apply @not_agrees _ _ _ _ _ _ _ (PkiLibrary.plain_lawful _) "RAW" (by decide)
  left
  decide

/-- An output that spells the key of an agency in another way replaces it. -/
example : ¬ ExportAgrees PkiLibrary.plain (Names.inDirectory ["app".toList])
    { agencies := "RAW", pkiRoot := "pki",
      out := "pki/gateway_raw/../gateway_raw/raw_ml_dsa65.pub" } := by
  apply @not_agrees _ _ _ _ _ _ _ (PkiLibrary.plain_lawful _) "RAW" (by decide)
  right
  decide

end QsTie.Trust
