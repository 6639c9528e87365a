import QsTie.Common.Python

/-!
# The verifier of Gateway B (`gateway_b/crypto/verifier.py`)

Public keys are loaded when a signature is first checked under their path and kept
in a dict by that path.  The path comes from the trust store, so it may be any
value: one that cannot be a key of a dict raises, and two that are equal as keys
share an entry.  A load that fails is not kept.

The key classes of `cryptography` and the file system are parameters.
-/

namespace QsTie

/-- The text of a value in an f-string, for values that can be keys of a dict. -/
def PyVal.scalarText (floatRepr : ℚ → String) : PyVal → Except PyExc String
  | .none => .ok "None"
  | .bool b => .ok (if b then "True" else "False")
  | .int i =>
    if 10 ^ 4300 ≤ i.natAbs then
      .error ⟨.valueError, "Exceeds the limit (4300 digits) for integer string conversion"⟩
    else .ok (toString i)
  | .float q => .ok (floatRepr q)
  | .str s => .ok s
  | .list _ => .error ⟨.typeError, "unhashable type: 'list'"⟩
  | .dict _ => .error ⟨.typeError, "unhashable type: 'dict'"⟩

namespace GatewayB

/-- What the verifier uses of `cryptography`, `hashlib` and the file system. -/
structure KeyLibrary (Key : Type) where
  readFile : String → Except PyExc Bytes
  loadPemPublicKey : Bytes → Except PyExc Key
  isEllipticCurve : Key → Bool
  verifyEcdsa : Key → Bytes → Bytes → Except PyExc Unit
  verify : Key → Bytes → Bytes → Except PyExc Unit
  sha256 : Bytes → Bytes
  floatRepr : ℚ → String

structure MLDSAVerifier (Key : Type) where
  pkiBaseDir : String
  publicKeys : List (PyVal × Key) := []

namespace MLDSAVerifier

variable {Key : Type} (lib : KeyLibrary Key)

/-- Open, read and parse the file of a path. -/
def loadFile (pkiBaseDir : String) (pubkeyPath : PyVal) : Except PyExc Key :=
  match pubkeyPath.scalarText lib.floatRepr with
  | .error e => .error e
  | .ok text =>
    match lib.readFile (pkiBaseDir ++ "/" ++ text) with
    | .error e => .error e
    | .ok pem => lib.loadPemPublicKey pem

/-- `_load_public_key`, with the cache after it. -/
def loadPublicKey (verifier : MLDSAVerifier Key) (pubkeyPath : PyVal) :
    Except PyExc (Key × MLDSAVerifier Key) :=
  if !pubkeyPath.hashable then .error ⟨.typeError, "unhashable type"⟩
  else
    match verifier.publicKeys.find? fun entry => entry.1.scalarEq pubkeyPath with
    | some (_, pubkey) => .ok (pubkey, verifier)
    | none =>
      match loadFile lib verifier.pkiBaseDir pubkeyPath with
      | .error e => .error e
      | .ok pubkey =>
        .ok (pubkey, { verifier with publicKeys := (pubkeyPath, pubkey) :: verifier.publicKeys })

/-- The check of the digest under a key, by its class. -/
def checkDigest (pubkey : Key) (signature digest : Bytes) : Bool :=
  match if lib.isEllipticCurve pubkey then lib.verifyEcdsa pubkey signature digest
      else lib.verify pubkey signature digest with
  | .ok () => true
  | .error _ => false

/-- `verify_signature`: every exception is a `False`. -/
def verifySignature (verifier : MLDSAVerifier Key) (compressedPayload signature : Bytes)
    (pubkeyPath : PyVal) : Bool × MLDSAVerifier Key :=
  match verifier.loadPublicKey lib pubkeyPath with
  | .error _ => (false, verifier)
  | .ok (pubkey, verifier') =>
    (checkDigest lib pubkey signature (lib.sha256 compressedPayload), verifier')

/-! ### The cache -/

/-- Every key in the cache is the one its file holds. -/
def CacheValid (verifier : MLDSAVerifier Key) : Prop :=
  ∀ entry ∈ verifier.publicKeys, loadFile lib verifier.pkiBaseDir entry.1 = .ok entry.2

/-- Paths that share an entry of the cache name the same file. -/
def SameFile (path path' : PyVal) : Prop :=
  path.scalarEq path' = true → path.scalarText lib.floatRepr = path'.scalarText lib.floatRepr

variable {lib} {verifier verifier' : MLDSAVerifier Key} {pubkeyPath : PyVal} {pubkey : Key}

/-- What a load can do: hit the cache, or go to the file and fill it. -/
theorem loadPublicKey_cases (h : verifier.loadPublicKey lib pubkeyPath = .ok (pubkey, verifier')) :
    (∃ path, (path, pubkey) ∈ verifier.publicKeys ∧ path.scalarEq pubkeyPath = true ∧
      verifier' = verifier) ∨
    (loadFile lib verifier.pkiBaseDir pubkeyPath = .ok pubkey ∧
      verifier' = { verifier with publicKeys := (pubkeyPath, pubkey) :: verifier.publicKeys }) := by
  simp only [loadPublicKey] at h
  split at h
  · simp at h
  · split at h
    · rename_i path key hfind
      obtain ⟨rfl, rfl⟩ : key = pubkey ∧ verifier = verifier' := by simpa using h
      left
      have hequal := List.find?_some hfind
      exact ⟨path, List.mem_of_find?_eq_some hfind, by simpa using hequal, rfl⟩
    · split at h
      · simp at h
      · rename_i key hload
        obtain ⟨rfl, rfl⟩ := Prod.mk.inj (Except.ok.inj h)
        right
        exact ⟨hload, rfl⟩

/-- A verifier that has loaded nothing goes to the file. -/
theorem loadPublicKey_fresh {pkiBaseDir path : String} {pem : Bytes}
    (hread : lib.readFile (pkiBaseDir ++ "/" ++ path) = .ok pem)
    (hload : lib.loadPemPublicKey pem = .ok pubkey) :
    (MLDSAVerifier.mk pkiBaseDir []).loadPublicKey lib (.str path) =
      .ok (pubkey, ⟨pkiBaseDir, [(.str path, pubkey)]⟩) := by
  have hfile : loadFile lib pkiBaseDir (.str path) = .ok pubkey := by
    simp only [loadFile, PyVal.scalarText, hread, hload]
  simp only [loadPublicKey, PyVal.hashable, Bool.not_true, Bool.false_eq_true, if_false,
    List.find?_nil, hfile]

theorem loadFile_congr (pkiBaseDir : String) {path path' : PyVal} (h : SameFile lib path path')
    (hequal : path.scalarEq path' = true) :
    loadFile lib pkiBaseDir path = loadFile lib pkiBaseDir path' := by
  simp only [loadFile, h hequal]

/-- A key that is loaded, from the cache or not, is the one in the file. -/
theorem loadFile_of_load (hvalid : verifier.CacheValid lib)
    (hsame : ∀ entry ∈ verifier.publicKeys, SameFile lib entry.1 pubkeyPath)
    (h : verifier.loadPublicKey lib pubkeyPath = .ok (pubkey, verifier')) :
    loadFile lib verifier.pkiBaseDir pubkeyPath = .ok pubkey := by
  rcases loadPublicKey_cases h with ⟨path, hmem, hequal, _⟩ | ⟨hload, _⟩
  · rw [← loadFile_congr verifier.pkiBaseDir (hsame _ hmem) hequal]
    exact hvalid _ hmem
  · exact hload

/-- A load succeeds exactly when the path can be a key and its file loads. -/
theorem exists_load_iff (hvalid : verifier.CacheValid lib)
    (hsame : ∀ entry ∈ verifier.publicKeys, SameFile lib entry.1 pubkeyPath) :
    (∃ verifier', verifier.loadPublicKey lib pubkeyPath = .ok (pubkey, verifier')) ↔
      pubkeyPath.hashable = true ∧ loadFile lib verifier.pkiBaseDir pubkeyPath = .ok pubkey := by
  constructor
  · rintro ⟨verifier', hload⟩
    refine ⟨?_, loadFile_of_load hvalid hsame hload⟩
    cases hhash : pubkeyPath.hashable with
    | true => rfl
    | false => simp [loadPublicKey, hhash] at hload
  · rintro ⟨hhash, hfile⟩
    cases hfind : verifier.publicKeys.find? fun entry => entry.1.scalarEq pubkeyPath with
    | none => exact ⟨_, by simp only [loadPublicKey, hhash, hfind, hfile]; rfl⟩
    | some entry =>
      -- the entry was loaded from the same file
      obtain ⟨path, cached⟩ := entry
      have hmem := List.mem_of_find?_eq_some hfind
      have hequal := List.find?_some hfind
      have hentry := hvalid _ hmem
      rw [loadFile_congr verifier.pkiBaseDir (hsame _ hmem) (by simpa using hequal),
        hfile] at hentry
      obtain rfl : pubkey = cached := Except.ok.inj hentry
      exact ⟨verifier, by simp only [loadPublicKey, hhash, hfind]; rfl⟩

/-- **The cache does not change a verdict**: a verifier answers as one that has loaded
    nothing. -/
theorem verifySignature_fresh (hvalid : verifier.CacheValid lib)
    (hsame : ∀ entry ∈ verifier.publicKeys, SameFile lib entry.1 pubkeyPath)
    (compressedPayload signature : Bytes) :
    (verifier.verifySignature lib compressedPayload signature pubkeyPath).1 =
      ((MLDSAVerifier.mk verifier.pkiBaseDir []).verifySignature lib compressedPayload signature
        pubkeyPath).1 := by
  have hshared := fun pubkey => @exists_load_iff Key lib verifier pubkeyPath pubkey hvalid hsame
  have hfresh := fun pubkey => @exists_load_iff Key lib ⟨verifier.pkiBaseDir, []⟩ pubkeyPath pubkey
    (by simp [CacheValid]) (by simp)
  simp only [verifySignature]
  cases hload : verifier.loadPublicKey lib pubkeyPath with
  | ok loaded =>
    obtain ⟨pubkey, verifier'⟩ := loaded
    obtain ⟨fresh, hloaded⟩ := (hfresh pubkey).mpr ((hshared pubkey).mp ⟨verifier', hload⟩)
    rw [hloaded]
  | error e =>
    cases hload' : (MLDSAVerifier.mk verifier.pkiBaseDir []).loadPublicKey lib pubkeyPath with
    | error e' => rfl
    | ok loaded =>
      obtain ⟨pubkey, fresh⟩ := loaded
      obtain ⟨verifier', hloaded⟩ := (hshared pubkey).mpr ((hfresh pubkey).mp ⟨fresh, hload'⟩)
      rw [hload] at hloaded
      simp at hloaded

/-- What a verification does to the cache: nothing, or one entry for its path with the key
    of its file. -/
theorem verifySignature_cache (compressedPayload signature : Bytes) :
    (verifier.verifySignature lib compressedPayload signature pubkeyPath).2 = verifier ∨
    ∃ pubkey, loadFile lib verifier.pkiBaseDir pubkeyPath = .ok pubkey ∧
      (verifier.verifySignature lib compressedPayload signature pubkeyPath).2 =
        { verifier with publicKeys := (pubkeyPath, pubkey) :: verifier.publicKeys } := by
  simp only [verifySignature]
  cases hload : verifier.loadPublicKey lib pubkeyPath with
  | error e => left; rfl
  | ok loaded =>
    obtain ⟨pubkey, verifier'⟩ := loaded
    rcases loadPublicKey_cases hload with ⟨_, _, _, hkept⟩ | ⟨hfile, hfilled⟩
    · left; exact hkept
    · right; exact ⟨pubkey, hfile, hfilled⟩

end MLDSAVerifier

end GatewayB

end QsTie
