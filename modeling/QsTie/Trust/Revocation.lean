import QsTie.GatewayB.Outcome

/-!
# Revocations (`qstie_trust/ca/revocation.py`, `cmd_revoke` of `qstie_trust/cli.py`)

The CA keeps its revocations in a YAML file, under the key `revoked`.  Gateway B
loads the same path and looks for the key `revoked_certificates`.  A command
loads the file, adds an entry and writes the whole list back, so whatever stood
under the other key is gone as well: after one command the receiver revokes
nothing.
-/

namespace QsTie.Trust

open QsTie.GatewayB

/-! ### The list of the CA -/

/-- A dataclass: the fields of a loaded entry may hold any value. -/
structure RevocationEntry where
  fingerprint : PyVal
  keyType : PyVal
  agencyId : PyVal
  reason : PyVal
  revokedAt : PyVal

def RevocationEntry.fields : List String :=
  ["fingerprint", "key_type", "agency_id", "reason", "revoked_at"]

/-- `RevocationEntry(**item)`: a mapping with exactly the five keys. -/
def RevocationEntry.ofItem (item : PyVal) : Except PyExc RevocationEntry :=
  match item with
  | .dict items =>
    if items.all fun entry => fields.any fun field => entry.1.isStr field then do
      let fingerprint ← keyword items "fingerprint"
      let keyType ← keyword items "key_type"
      let agencyId ← keyword items "agency_id"
      let reason ← keyword items "reason"
      let revokedAt ← keyword items "revoked_at"
      return ⟨fingerprint, keyType, agencyId, reason, revokedAt⟩
    else .error ⟨.typeError, "got an unexpected keyword argument"⟩
  | _ => .error ⟨.typeError, "argument after ** must be a mapping"⟩
where
  keyword (items : PyDict) (field : String) : Except PyExc PyVal :=
    match items.get? field with
    | some v => .ok v
    | none => .error ⟨.typeError, s!"missing 1 required positional argument: {field}"⟩

def RevocationEntry.toItem (e : RevocationEntry) : PyVal :=
  .dict [(.str "fingerprint", e.fingerprint), (.str "key_type", e.keyType),
    (.str "agency_id", e.agencyId), (.str "reason", e.reason), (.str "revoked_at", e.revokedAt)]

structure RevocationList where
  entries : List RevocationEntry := []

namespace RevocationList

def add (rl : RevocationList) (entry : RevocationEntry) : RevocationList :=
  ⟨rl.entries ++ [entry]⟩

/-- The file that `save` leaves, read back. -/
def save (rl : RevocationList) : YamlFile :=
  some (.ok (.dict [(.str "revoked", .list (rl.entries.map RevocationEntry.toItem))]))

def load : YamlFile → Except PyExc RevocationList
  | none => .ok {}
  | some (.error e) => .error e
  | some (.ok data) =>
    if !data.truthy then .ok {}
    else
      match data.hasMember "revoked" with
      | .error e => .error e
      | .ok false => .ok {}
      | .ok true =>
        match data.subscript "revoked" with
        | .error e => .error e
        | .ok revoked =>
          match revoked.iterate with
          | .error e => .error e
          | .ok items =>
            match items.mapM RevocationEntry.ofItem with
            | .error e => .error e
            | .ok entries => .ok ⟨entries⟩

/-- What is saved is loaded back. -/
theorem load_save (rl : RevocationList) : load rl.save = .ok rl := by
  have hitem : ∀ e : RevocationEntry, RevocationEntry.ofItem e.toItem = .ok e := fun _ => rfl
  have hitems : (rl.entries.map RevocationEntry.toItem).mapM RevocationEntry.ofItem =
      .ok rl.entries := by
    induction rl.entries with
    | nil => rfl
    | cons e entries ih =>
      rw [List.map_cons, List.mapM_cons, hitem, ih]
      rfl
  have hrevoked : PyDict.get? [(.str "revoked",
      .list (rl.entries.map RevocationEntry.toItem))] "revoked" =
      some (.list (rl.entries.map RevocationEntry.toItem)) := rfl
  simp only [save, load, PyVal.truthy, PyVal.hasMember, PyDict.contains, PyVal.subscript,
    PyDict.getItem, hrevoked, PyVal.iterate, hitems]
  rfl

end RevocationList

/-! ### The command -/

/-- The arguments of `qstie-ca revoke`, and the time it runs at. -/
structure RevokeArgs where
  agencyId : String
  keyType : String
  reason : String
  fingerprint : String
  nowStr : String

def RevokeArgs.entry (args : RevokeArgs) : RevocationEntry :=
  ⟨.str args.fingerprint, .str args.keyType, .str args.agencyId, .str args.reason,
    .str args.nowStr⟩

/-- `cmd_revoke` on the file at `--out`. -/
def cmdRevoke (file : YamlFile) (args : RevokeArgs) : Except PyExc YamlFile :=
  match RevocationList.load file with
  | .error e => .error e
  | .ok rl => .ok (rl.add args.entry).save

/-- A sequence of commands; one that fails exits before it writes. -/
def applyRevokes (file : YamlFile) : List RevokeArgs → YamlFile
  | [] => file
  | args :: commands =>
    match cmdRevoke file args with
    | .error _ => applyRevokes file commands
    | .ok file => applyRevokes file commands

/-! ### What Gateway B makes of the file -/

/-- `fp` is revoked by the file, as `TrustStore.load` reads it. -/
def RevokedIn (file : YamlFile) (fp : String) : Prop :=
  ∃ data revoked, file = some (.ok data) ∧ TrustStore.loadRevoked data = .ok revoked ∧
    PyVal.str fp ∈ revoked

/-- Absent, or loadable by the commands and by the receiver. -/
def Loadable (file : YamlFile) : Prop :=
  file = none ∨ ∃ data rl revoked, file = some (.ok data) ∧
    RevocationList.load file = .ok rl ∧ TrustStore.loadRevoked data = .ok revoked

/-- The fingerprints a receiver should revoke after the commands. -/
def ShouldRevoke (file : YamlFile) (commands : List RevokeArgs) (fp : String) : Prop :=
  RevokedIn file fp ∨ ∃ args ∈ commands, args.fingerprint = fp

/-- The trust store loaded after the commands revokes exactly what it should, and a peer
    whose certificate or key is among it is answered `REVOKED_CERT` and not ingested. -/
structure RevocationsReach (file : YamlFile) (commands : List RevokeArgs) : Prop where
  exact : ∀ trustFile ts, TrustStore.load trustFile (applyRevokes file commands) = .ok ts →
    ∀ fp, ts.isRevoked (.str fp) = .ok true ↔ ShouldRevoke file commands fp
  refused : ∀ trustFile ts, TrustStore.load trustFile (applyRevokes file commands) = .ok ts →
    ∀ proto : GatewayProtocol, proto.trustStore = ts → ∀ out : Outside, out.Healthy →
    ∀ reads payload env agency peerFingerprint,
      readFrame [] reads = .frame .signedBundle payload [] →
      TransactionEnvelope.fromBytes proto.protobuf payload = .ok env →
      GatewayProtocol.missingField env = false →
      ts.getAgency env.senderId = some agency →
      agency.get? "tls_certificate_fingerprint" = some (.str peerFingerprint) →
      (ShouldRevoke file commands peerFingerprint ∨ ∃ keyFingerprint,
        agency.get? "payload_signing_public_key_fingerprint" = some (.str keyFingerprint) ∧
        ShouldRevoke file commands keyFingerprint) →
      NackFits env.transactionId .revokedCert →
      let h := ((proto.handleConnection peerFingerprint reads).run out.answer []).2
      written h = [nackFrame env.transactionId .revokedCert] ∧ ingested h = []

/-- After at least one command the file holds only what the receiver does not read. -/
theorem applyRevokes_of_ne_nil {file : YamlFile} {commands : List RevokeArgs}
    (hload : ∃ rl, RevocationList.load file = .ok rl) (hne : commands ≠ []) :
    ∃ rl : RevocationList, applyRevokes file commands = rl.save := by
  induction commands generalizing file with
  | nil => exact absurd rfl hne
  | cons args commands ih =>
    obtain ⟨rl, hrl⟩ := hload
    have hcommand : cmdRevoke file args = .ok (rl.add args.entry).save := by
      simp [cmdRevoke, hrl]
    rw [applyRevokes, hcommand]
    cases commands with
    | nil => exact ⟨_, rfl⟩
    | cons next commands =>
      exact ih ⟨_, RevocationList.load_save _⟩ (by simp)

theorem load_revoked_eq {trustFile file : YamlFile} {ts : TrustStore}
    (hload : TrustStore.load trustFile file = .ok ts) :
    ∃ data, file = some (.ok data) ∧
      TrustStore.loadRevoked data = .ok ts.revokedFingerprints := by
  unfold TrustStore.load at hload
  split at hload
  · simp at hload
  · simp at hload
  · split at hload
    · simp at hload
    · split at hload
      · simp at hload
      · simp at hload
      · rename_i revData
        split at hload
        · simp at hload
        · rename_i revoked hrevoked
          obtain rfl : _ = ts := by simpa using hload
          exact ⟨revData, rfl, hrevoked⟩

/-- A revoked certificate or key of a known sender is refused. -/
theorem verdict_of_revoked {proto : GatewayProtocol} {out : Outside} {env : TransactionEnvelope}
    {agency : PyDict} {peerFingerprint : String}
    (hcomplete : GatewayProtocol.missingField env = false)
    (hknown : proto.trustStore.getAgency env.senderId = some agency)
    (hcertificate : agency.get? "tls_certificate_fingerprint" = some (.str peerFingerprint))
    (hrevoked : proto.trustStore.isRevoked (.str peerFingerprint) = .ok true ∨
      ∃ keyFingerprint,
        agency.get? "payload_signing_public_key_fingerprint" = some (.str keyFingerprint) ∧
        proto.trustStore.isRevoked (.str keyFingerprint) = .ok true) :
    verdict proto out peerFingerprint env = .error .revokedCert := by
  have hne : agency.isEmpty = false := by
    cases agency with
    | nil => simp [PyDict.get?] at hcertificate
    | cons _ _ => rfl
  have hitem := PyDict.getItem_eq_ok.mpr hcertificate
  have hboth : proto.revoked peerFingerprint agency = .ok true := by
    unfold GatewayProtocol.revoked
    rcases hrevoked with hpeer | ⟨keyFingerprint, hkey, hkeyRevoked⟩
    · rw [hpeer]
    · cases hpeer : proto.trustStore.isRevoked (.str peerFingerprint) with
      | error e => simp [TrustStore.isRevoked, PyVal.hashable] at hpeer
      | ok revoked =>
        cases revoked with
        | true => rfl
        | false => simp [PyDict.getItem_eq_ok.mpr hkey, hkeyRevoked]
  have hpeer : (PyVal.str peerFingerprint).isStr peerFingerprint = true := PyVal.isStr_iff.mpr rfl
  simp [verdict, hcomplete, identityVerdict, hknown, hne, hitem, hpeer, hboth]

/-- **When revocations reach the receiver**: only while no command has been applied. -/
theorem revocations_reach_iff {file : YamlFile} (hload : Loadable file)
    (commands : List RevokeArgs) :
    RevocationsReach file commands ↔ commands = [] := by
  constructor
  · intro hreach
    by_contra hne
    have hcan : ∃ rl, RevocationList.load file = .ok rl := by
      rcases hload with rfl | ⟨data, rl, _, _, hrl, _⟩
      · exact ⟨{}, rfl⟩
      · exact ⟨rl, hrl⟩
    obtain ⟨rl, hfile⟩ := applyRevokes_of_ne_nil hcan hne
    obtain ⟨args, commands', rfl⟩ := List.exists_cons_of_ne_nil hne
    -- a receiver without agencies loads the saved file and revokes nothing
    have hts : TrustStore.load (some (.ok (.dict [(.str "trusted_agencies", .list [])])))
        (applyRevokes file (args :: commands')) = .ok ⟨[], []⟩ := by
      rw [hfile]; rfl
    have hshould := (hreach.exact _ _ hts args.fingerprint).mpr (Or.inr ⟨args, by simp, rfl⟩)
    rw [TrustStore.isRevoked_str] at hshould
    simp at hshould
  · rintro rfl
    have hexact : ∀ trustFile ts, TrustStore.load trustFile file = .ok ts →
        ∀ fp, ts.isRevoked (.str fp) = .ok true ↔ ShouldRevoke file [] fp := by
      intro trustFile ts hts fp
      obtain ⟨data, rfl, hrevoked⟩ := load_revoked_eq hts
      rw [TrustStore.isRevoked_str]
      constructor
      · intro hmem
        exact Or.inl ⟨data, _, rfl, hrevoked, hmem⟩
      · rintro (⟨data', revoked, hfile, hloaded, hmem⟩ | ⟨_, hnone, _⟩)
        · obtain rfl : data = data' := by simpa using hfile
          obtain rfl : ts.revokedFingerprints = revoked := by
            rw [hrevoked] at hloaded
            simpa using hloaded
          exact hmem
        · simp at hnone
    refine ⟨hexact, ?_⟩
    rintro trustFile ts hts proto rfl out hout reads payload env agency peerFingerprint hstop
      henv hcomplete hknown hcertificate hrevoked hfits
    have hverdict : verdict proto out peerFingerprint env = .error .revokedCert := by
      apply verdict_of_revoked hcomplete hknown hcertificate
      rcases hrevoked with hpeer | ⟨keyFingerprint, hkey, hkeyRevoked⟩
      · exact Or.inl ((hexact _ _ hts _).mpr hpeer)
      · exact Or.inr ⟨keyFingerprint, hkey, (hexact _ _ hts _).mpr hkeyRevoked⟩
    have hshown := outcome_handleConnection hout proto peerFingerprint reads
    have houtcome : outcome proto out peerFingerprint (.frame .signedBundle payload []) =
        ([nackFrame env.transactionId .revokedCert], []) := by
      have hanswer : answered env.transactionId
          (.nack, nackPayload env.transactionId .revokedCert) =
          nackFrame env.transactionId .revokedCert := if_pos hfits
      simp [outcome, payloadOutcome, henv, hverdict, responseTo, handedOver, hanswer]
    rw [hstop, houtcome] at hshown
    exact Prod.mk.inj hshown

/-- The receiver of an older file, before any command of the CA. -/
theorem no_commands_reach :
    RevocationsReach (some (.ok (.dict [(.str "revoked_certificates",
      .list [.dict [(.str "fingerprint", .str "9f86d081884c7d65")]])]))) [] :=
  (revocations_reach_iff (Or.inr ⟨_, {}, [.str "9f86d081884c7d65"], rfl, rfl, rfl⟩) []).mpr rfl

/-- One command on a fresh path: the fingerprint it names is not revoked. -/
theorem revoked_fingerprint_not_revoked :
    ¬ RevocationsReach none [⟨"RAW", "tls_cert", "suspected key compromise", "9f86d081884c7d65",
      "2026-01-01T00:00:00+00:00"⟩] := by
  intro hreach
  have hts : TrustStore.load (some (.ok (.dict [(.str "trusted_agencies", .list [])])))
      (applyRevokes none [⟨"RAW", "tls_cert", "suspected key compromise", "9f86d081884c7d65",
        "2026-01-01T00:00:00+00:00"⟩]) = .ok ⟨[], []⟩ := rfl
  have hshould := (hreach.exact _ _ hts "9f86d081884c7d65").mpr (Or.inr ⟨_, List.mem_cons_self, rfl⟩)
  rw [TrustStore.isRevoked_str] at hshould
  simp at hshould

end QsTie.Trust
