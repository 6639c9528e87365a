import QsTie.Common.Python

/-!
# The signer of Gateway A (`gateway_a/crypto/signer.py`)

The private key is loaded when the signer is made, and a key that does not load
ends the process.  A payload is signed by its SHA-256, in the way of the class of
the key.  The key classes of `cryptography` and the file system are parameters.
-/

namespace QsTie.GatewayA

/-- What the signer uses of `cryptography`, `hashlib` and the file system.  A signature may
    draw randomness. -/
structure SigningLibrary (Priv : Type) where
  readFile : String → Except PyExc Bytes
  loadPemPrivateKey : Bytes → Except PyExc Priv
  isEllipticCurve : Priv → Bool
  /-- `sign(digest, ec.ECDSA(Prehashed(hashes.SHA256())))`. -/
  signEcdsa : Priv → Nat → Bytes → Except PyExc Bytes
  /-- `sign(digest, None)`. -/
  sign : Priv → Nat → Bytes → Except PyExc Bytes
  sha256 : Bytes → Bytes

structure MlDsaSigner (Priv : Type) where
  privateKeyPath : String
  privateKey : Option Priv := none

namespace MlDsaSigner

variable {Priv : Type} (lib : SigningLibrary Priv)

/-- `_load_key`. -/
def loadKey (signer : MlDsaSigner Priv) : Except PyExc (MlDsaSigner Priv) := do
  let privateKey ← lib.loadPemPrivateKey (← lib.readFile signer.privateKeyPath)
  return { signer with privateKey := some privateKey }

/-- `MlDsaSigner(private_key_path)`. -/
def init (privateKeyPath : String) : Except PyExc (MlDsaSigner Priv) :=
  loadKey lib { privateKeyPath := privateKeyPath }

def sign (signer : MlDsaSigner Priv) (draw : Nat) (payload : Bytes) : Except PyExc Bytes :=
  match signer.privateKey with
  | none => .error ⟨.other "RuntimeError", "Private key not loaded"⟩
  | some privateKey =>
    let digest := lib.sha256 payload
    if lib.isEllipticCurve privateKey then lib.signEcdsa privateKey draw digest
    else lib.sign privateKey draw digest

variable {lib}

/-- A signer that was made has the key in its file. -/
theorem init_eq_ok {path : String} {signer : MlDsaSigner Priv} (h : init lib path = .ok signer) :
    ∃ pem privateKey, lib.readFile path = .ok pem ∧
      lib.loadPemPrivateKey pem = .ok privateKey ∧ signer = ⟨path, some privateKey⟩ := by
  obtain ⟨pem, hread, h⟩ := except_bind_eq_ok.mp h
  obtain ⟨privateKey, hload, h⟩ := except_bind_eq_ok.mp h
  exact ⟨pem, privateKey, hread, hload, (Except.ok.inj h).symm⟩

theorem init_of_load {path : String} {pem : Bytes} {privateKey : Priv}
    (hread : lib.readFile path = .ok pem) (hload : lib.loadPemPrivateKey pem = .ok privateKey) :
    init lib path = .ok ⟨path, some privateKey⟩ :=
  except_bind_eq_ok.mpr ⟨pem, hread, except_bind_eq_ok.mpr ⟨privateKey, hload, rfl⟩⟩

end MlDsaSigner

end QsTie.GatewayA
