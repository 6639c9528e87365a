import QsTie.Common.Python

/-!
# The trust store of Gateway B (`gateway_b/trust/cert_store.py`)

A YAML file is modelled by what `yaml.safe_load` makes of it: absent, not
loadable, or a value.  An agency entry is a dict of any keys and values; the
connection handler looks its three fields up by name and may miss them.
-/

namespace QsTie

/-- A YAML file: `none` when it is absent, else the outcome of `yaml.safe_load`. -/
abbrev YamlFile := Option (Except PyExc PyVal)

namespace GatewayB

structure TrustStore where
  agencies : List (PyVal × PyDict)
  revokedFingerprints : List PyVal

namespace TrustStore

/-- `self.agencies[agency['agency_id']] = agency`. -/
def addAgency (agencies : List (PyVal × PyDict)) (agency : PyVal) :
    Except PyExc (List (PyVal × PyDict)) :=
  match agency with
  | .dict entry =>
    match PyDict.getItem entry "agency_id" with
    | .error e => .error e
    | .ok agencyId =>
      if agencyId.hashable then .ok ((agencyId, entry) :: agencies)
      else .error ⟨.typeError, "unhashable type"⟩
  | other =>
    match other.subscript "agency_id" with
    | .error e => .error e
    | .ok _ => .error ⟨.typeError, "object is not subscriptable"⟩

def loadAgencies (data : PyVal) : Except PyExc (List (PyVal × PyDict)) :=
  match data with
  | .dict items =>
    match PyDict.get? items "trusted_agencies" with
    | none => .error ⟨.valueError, "Invalid trust store format"⟩
    | some trusted =>
      match trusted.iterate with
      | .error e => .error e
      | .ok agencies => agencies.foldlM addAgency []
  | _ => .error ⟨.valueError, "Invalid trust store format"⟩

/-- `self.revoked_fingerprints.add(cert['fingerprint'])`. -/
def addRevoked (revoked : List PyVal) (cert : PyVal) : Except PyExc (List PyVal) :=
  match cert.subscript "fingerprint" with
  | .error e => .error e
  | .ok fingerprint =>
    if fingerprint.hashable then .ok (fingerprint :: revoked)
    else .error ⟨.typeError, "unhashable type"⟩

def loadRevoked (revData : PyVal) : Except PyExc (List PyVal) :=
  if !revData.truthy then .ok []
  else
    match revData.hasMember "revoked_certificates" with
    | .error e => .error e
    | .ok false => .ok []
    | .ok true =>
      match revData.subscript "revoked_certificates" with
      | .error e => .error e
      | .ok certs =>
        match certs.iterate with
        | .error e => .error e
        | .ok certs => certs.foldlM addRevoked []

/-- `TrustStore.load` on the contents of its two files. -/
def load (trustFile revocationFile : YamlFile) : Except PyExc TrustStore :=
  match trustFile with
  | none => .error ⟨.fileNotFoundError, "No such file or directory"⟩
  | some (.error e) => .error e
  | some (.ok data) =>
    match loadAgencies data with
    | .error e => .error e
    | .ok agencies =>
      match revocationFile with
      | none => .error ⟨.fileNotFoundError, "Revocation list missing"⟩
      | some (.error e) => .error e
      | some (.ok revData) =>
        match loadRevoked revData with
        | .error e => .error e
        | .ok revoked => .ok ⟨agencies, revoked⟩

variable (ts : TrustStore)

def getAgency (agencyId : String) : Option PyDict :=
  (ts.agencies.find? fun entry => entry.1.isStr agencyId).map Prod.snd

/-- `fingerprint in self.revoked_fingerprints`. -/
def isRevoked (fingerprint : PyVal) : Except PyExc Bool :=
  if fingerprint.hashable then
    .ok (ts.revokedFingerprints.any fun revoked => revoked.scalarEq fingerprint)
  else .error ⟨.typeError, "unhashable type"⟩

theorem isRevoked_str (fingerprint : String) :
    ts.isRevoked (.str fingerprint) = .ok true ↔
      PyVal.str fingerprint ∈ ts.revokedFingerprints := by
  simp [isRevoked, PyVal.hashable]

/-- A value found not revoked is not in the set. -/
theorem not_mem_of_isRevoked_false {fingerprint : PyVal}
    (h : ts.isRevoked fingerprint = .ok false) :
    ∀ revoked ∈ ts.revokedFingerprints, revoked.scalarEq fingerprint = false := by
  unfold isRevoked at h
  split at h
  · simpa using h
  · simp at h

end TrustStore

end GatewayB

end QsTie
