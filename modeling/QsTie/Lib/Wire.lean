import Mathlib.Algebra.Group.Nat.Defs
import Mathlib.Data.List.Basic

/-!
# Tagged fields with varints

The wire format of protocol buffers, without any message type: a message is a
sequence of fields, each a tag and a value.  The tag is a varint of the field
number and a wire type, and the wire type says how long the value is, so that a
reader can skip what it does not know.  A group is a bracket of fields and only
ever skipped.

`getFields_putFields` is the round trip; it holds for every list of fields that
can be written.
-/

namespace QsTie.Lib.Wire

/-! ### Varints -/

def putVarintAux : Nat → Nat → List UInt8
  | 0, _ => []
  | fuel + 1, n =>
    if n < 128 then [UInt8.ofNat n]
    else UInt8.ofNat (n % 128 + 128) :: putVarintAux fuel (n / 128)

/-- The base-128 digits of a number, the lowest first; all but the last have the high bit. -/
def putVarint (n : Nat) : List UInt8 := putVarintAux 10 n

def getVarintAux : Nat → List UInt8 → Option (Nat × List UInt8)
  | 0, _ => none
  | _ + 1, [] => none
  | fuel + 1, b :: rest =>
    if b.toNat < 128 then some (b.toNat, rest)
    else (getVarintAux fuel rest).map fun (n, rest) => (b.toNat - 128 + 128 * n, rest)

/-- At most ten bytes, of which 64 bits count. -/
def getVarint (data : List UInt8) : Option (Nat × List UInt8) :=
  (getVarintAux 10 data).map fun (n, rest) => (n % 2 ^ 64, rest)

theorem getVarintAux_putVarintAux {fuel n : Nat} (hn : n < 128 ^ fuel) (hfuel : 0 < fuel)
    (rest : List UInt8) : getVarintAux fuel (putVarintAux fuel n ++ rest) = some (n, rest) := by
  induction fuel generalizing n with
  | zero => omega
  | succ fuel ih =>
    simp only [putVarintAux]
    by_cases hsmall : n < 128
    · have hbyte : (UInt8.ofNat n).toNat = n := by rw [UInt8.toNat_ofNat']; omega
      simp only [hsmall, if_true, List.singleton_append, getVarintAux, hbyte]
    · have hbyte : (UInt8.ofNat (n % 128 + 128)).toNat = n % 128 + 128 := by
        rw [UInt8.toNat_ofNat']; omega
      have hdiv : n / 128 < 128 ^ fuel := by
        rw [Nat.pow_succ] at hn
        exact Nat.div_lt_of_lt_mul (by omega)
      have hpos : 0 < fuel := by
        rcases Nat.eq_zero_or_pos fuel with rfl | hpos
        · rw [Nat.pow_zero] at hdiv
          omega
        · exact hpos
      simp only [hsmall, if_false, List.cons_append, getVarintAux, hbyte, ih hdiv hpos,
        Option.map_some]
      rw [if_neg (by omega)]
      simp only [Option.some.injEq, Prod.mk.injEq, and_true]
      omega

theorem getVarint_putVarint {n : Nat} (hn : n < 2 ^ 64) (rest : List UInt8) :
    getVarint (putVarint n ++ rest) = some (n, rest) := by
  have haux : getVarintAux 10 (putVarintAux 10 n ++ rest) = some (n, rest) :=
    getVarintAux_putVarintAux (by omega) (by omega) rest
  simp only [getVarint, putVarint, haux, Option.map_some, Nat.mod_eq_of_lt hn]

theorem putVarint_ne_nil (n : Nat) : putVarint n ≠ [] := by
  simp only [putVarint, putVarintAux]
  split <;> simp

/-! ### Fields -/

/-- The value of a field, by its wire type. -/
inductive Value where
  | varint (n : Nat)
  | fixed64 (data : List UInt8)
  | bytes (data : List UInt8)
  | group
  | fixed32 (data : List UInt8)
deriving DecidableEq

structure Field where
  number : Nat
  value : Value
deriving DecidableEq

/-- A tag: the field number, which is not zero and fits 29 bits, and the wire type. -/
def getTag (data : List UInt8) : Option ((Nat × Nat) × List UInt8) :=
  match getVarint data with
  | none => none
  | some (tag, rest) =>
    if tag / 8 = 0 ∨ 2 ^ 29 ≤ tag / 8 then none else some ((tag / 8, tag % 8), rest)

def takeBytes (n : Nat) (data : List UInt8) : Option (List UInt8 × List UInt8) :=
  if data.length < n then none else some (data.take n, data.drop n)

/-- The value of a wire type that is no bracket. -/
def getValue (wireType : Nat) (data : List UInt8) : Option (Value × List UInt8) :=
  match wireType with
  | 0 => (getVarint data).map fun (n, rest) => (.varint n, rest)
  | 1 => (takeBytes 8 data).map fun (value, rest) => (.fixed64 value, rest)
  | 2 =>
    match getVarint data with
    | none => none
    | some (n, rest) => (takeBytes n rest).map fun (value, rest) => (.bytes value, rest)
  | 5 => (takeBytes 4 data).map fun (value, rest) => (.fixed32 value, rest)
  | _ => none

/-- The text after the end of the group `number`. -/
def skipGroup : Nat → Nat → List UInt8 → Option (List UInt8)
  | 0, _, _ => none
  | fuel + 1, number, data =>
    match getTag data with
    | none => none
    | some ((inner, wireType), rest) =>
      if wireType = 4 then if inner = number then some rest else none
      else if wireType = 3 then
        match skipGroup fuel inner rest with
        | none => none
        | some rest => skipGroup fuel number rest
      else
        match getValue wireType rest with
        | none => none
        | some (_, rest) => skipGroup fuel number rest

def getField (data : List UInt8) : Option (Field × List UInt8) :=
  match getTag data with
  | none => none
  | some ((number, wireType), rest) =>
    if wireType = 3 then
      (skipGroup rest.length number rest).map fun rest => (⟨number, .group⟩, rest)
    else (getValue wireType rest).map fun (value, rest) => (⟨number, value⟩, rest)

def getFieldsAux : Nat → List UInt8 → Option (List Field)
  | _, [] => some []
  | 0, _ :: _ => none
  | fuel + 1, data =>
    match getField data with
    | none => none
    | some (field, rest) => (getFieldsAux fuel rest).map fun fields => field :: fields

/-- The fields of a message. -/
def getFields (data : List UInt8) : Option (List Field) := getFieldsAux data.length data

/-! ### Writing -/

def putTag (number wireType : Nat) : List UInt8 := putVarint (number * 8 + wireType)

def putField (field : Field) : List UInt8 :=
  match field.value with
  | .varint n => putTag field.number 0 ++ putVarint n
  | .fixed64 data => putTag field.number 1 ++ data
  | .bytes data => putTag field.number 2 ++ (putVarint data.length ++ data)
  | .group => putTag field.number 3 ++ putTag field.number 4
  | .fixed32 data => putTag field.number 5 ++ data

def putFields (fields : List Field) : List UInt8 := fields.flatMap putField

/-- A value that its wire type can carry. -/
def Value.Writable : Value → Prop
  | .varint n => n < 2 ^ 64
  | .fixed64 data => data.length = 8
  | .bytes data => data.length < 2 ^ 64
  | .group => True
  | .fixed32 data => data.length = 4

structure Field.Writable (field : Field) : Prop where
  number : 0 < field.number ∧ field.number < 2 ^ 29
  value : field.value.Writable

theorem getTag_putTag {number wireType : Nat} (hnumber : 0 < number ∧ number < 2 ^ 29)
    (hwire : wireType < 8) (rest : List UInt8) :
    getTag (putTag number wireType ++ rest) = some ((number, wireType), rest) := by
  have hdiv : (number * 8 + wireType) / 8 = number := by omega
  have hmod : (number * 8 + wireType) % 8 = wireType := by omega
  simp only [getTag, putTag]
  rw [getVarint_putVarint (by omega)]
  simp only [hdiv, hmod]
  rw [if_neg (by omega)]

theorem takeBytes_append (data rest : List UInt8) :
    takeBytes data.length (data ++ rest) = some (data, rest) := by
  simp [takeBytes]

theorem getField_putField {field : Field} (hfield : field.Writable) (rest : List UInt8) :
    getField (putField field ++ rest) = some (field, rest) := by
  obtain ⟨number, value⟩ := field
  obtain ⟨hnumber, hvalue⟩ := hfield
  cases value with
  | varint n =>
    have hn : n < 2 ^ 64 := hvalue
    simp only [getField, putField, List.append_assoc]
    rw [getTag_putTag hnumber (by omega)]
    simp [getValue, getVarint_putVarint hn]
  | fixed64 data =>
    have hlen : data.length = 8 := hvalue
    have htake := takeBytes_append data rest
    rw [hlen] at htake
    simp only [getField, putField, List.append_assoc]
    rw [getTag_putTag hnumber (by omega)]
    simp [getValue, htake]
  | bytes data =>
    have hlen : data.length < 2 ^ 64 := hvalue
    simp only [getField, putField, List.append_assoc]
    rw [getTag_putTag hnumber (by omega)]
    simp [getValue, getVarint_putVarint hlen, takeBytes_append]
  | group =>
    simp only [getField, putField, List.append_assoc]
    rw [getTag_putTag hnumber (by omega)]
    -- the closing tag is there, so one step of fuel is
    have hpos : 0 < (putTag number 4 ++ rest).length := by
      have hne := putVarint_ne_nil (number * 8 + 4)
      rw [List.length_append]
      have := List.length_pos_of_ne_nil hne
      simp only [putTag]
      omega
    obtain ⟨fuel, hfuel⟩ := Nat.exists_eq_add_one_of_ne_zero (Nat.ne_of_gt hpos)
    simp only [hfuel, skipGroup, getTag_putTag hnumber (by omega : 4 < 8)]
    simp
  | fixed32 data =>
    have hlen : data.length = 4 := hvalue
    have htake := takeBytes_append data rest
    rw [hlen] at htake
    simp only [getField, putField, List.append_assoc]
    rw [getTag_putTag hnumber (by omega)]
    simp [getValue, htake]

theorem putField_ne_nil (field : Field) : putField field ≠ [] := by
  have htag : ∀ wireType, putTag field.number wireType ≠ [] := fun _ => putVarint_ne_nil _
  simp only [putField]
  split <;> simp [htag]

theorem length_le_putFields (fields : List Field) :
    fields.length ≤ (putFields fields).length := by
  induction fields with
  | nil => exact Nat.zero_le _
  | cons field fields ih =>
    have hpos := List.length_pos_of_ne_nil (putField_ne_nil field)
    simp only [putFields, List.flatMap_cons, List.length_append, List.length_cons] at ih ⊢
    omega

theorem getFieldsAux_putFields {fields : List Field} (hfields : ∀ field ∈ fields, field.Writable)
    {fuel : Nat} (hfuel : fields.length ≤ fuel) :
    getFieldsAux fuel (putFields fields) = some fields := by
  induction fields generalizing fuel with
  | nil => cases fuel <;> rfl
  | cons field fields ih =>
    obtain ⟨fuel, rfl⟩ : ∃ k, fuel = k + 1 :=
      Nat.exists_eq_add_one_of_ne_zero (by simp only [List.length_cons] at hfuel; omega)
    have hrest : getFieldsAux fuel (putFields fields) = some fields :=
      ih (fun f hf => hfields f (List.mem_cons_of_mem _ hf)) (by simpa using hfuel)
    have hfirst := getField_putField (hfields field List.mem_cons_self) (putFields fields)
    have hsplit : putFields (field :: fields) = putField field ++ putFields fields := rfl
    rw [hsplit]
    cases hdata : putField field ++ putFields fields with
    | nil =>
      have hempty := List.append_eq_nil_iff.mp hdata
      exact absurd hempty.1 (putField_ne_nil field)
    | cons b data =>
      rw [hdata] at hfirst
      simp only [getFieldsAux, hfirst, hrest, Option.map_some]

/-- **What is written is read back**, field by field. -/
theorem getFields_putFields {fields : List Field} (hfields : ∀ field ∈ fields, field.Writable) :
    getFields (putFields fields) = some fields :=
  getFieldsAux_putFields hfields (length_le_putFields fields)

/-! ### What is read could have been written -/

theorem getVarint_lt {data rest : List UInt8} {n : Nat} (h : getVarint data = some (n, rest)) :
    n < 2 ^ 64 := by
  simp only [getVarint, Option.map_eq_some_iff, Prod.mk.injEq] at h
  obtain ⟨_, _, rfl, _⟩ := h
  exact Nat.mod_lt _ (by decide)

theorem length_of_takeBytes {n : Nat} {data value rest : List UInt8}
    (h : takeBytes n data = some (value, rest)) : value.length = n := by
  simp only [takeBytes] at h
  split at h
  · simp at h
  · rename_i hlen
    simp only [Option.some.injEq, Prod.mk.injEq] at h
    rw [← h.1, List.length_take]
    omega

theorem writable_getValue {wireType : Nat} {data rest : List UInt8} {value : Value}
    (h : getValue wireType data = some (value, rest)) : value.Writable := by
  simp only [getValue] at h
  split at h
  · obtain ⟨⟨n, _⟩, hn, heq⟩ := Option.map_eq_some_iff.mp h
    obtain ⟨rfl, rfl⟩ := Prod.mk.inj heq
    exact getVarint_lt hn
  · obtain ⟨⟨taken, _⟩, htaken, heq⟩ := Option.map_eq_some_iff.mp h
    obtain ⟨rfl, rfl⟩ := Prod.mk.inj heq
    exact length_of_takeBytes htaken
  · split at h
    · simp at h
    · rename_i n _ hn
      obtain ⟨⟨taken, _⟩, htaken, heq⟩ := Option.map_eq_some_iff.mp h
      obtain ⟨rfl, rfl⟩ := Prod.mk.inj heq
      have hlen := length_of_takeBytes htaken
      have hlt := getVarint_lt hn
      rw [← hlen] at hlt
      exact hlt
  · obtain ⟨⟨taken, _⟩, htaken, heq⟩ := Option.map_eq_some_iff.mp h
    obtain ⟨rfl, rfl⟩ := Prod.mk.inj heq
    exact length_of_takeBytes htaken
  · simp at h

theorem writable_getField {data rest : List UInt8} {field : Field}
    (h : getField data = some (field, rest)) : field.value.Writable := by
  simp only [getField] at h
  split at h
  · simp at h
  · split at h
    · obtain ⟨_, _, heq⟩ := Option.map_eq_some_iff.mp h
      obtain ⟨rfl, rfl⟩ := Prod.mk.inj heq
      trivial
    · obtain ⟨⟨value, _⟩, hvalue, heq⟩ := Option.map_eq_some_iff.mp h
      obtain ⟨rfl, rfl⟩ := Prod.mk.inj heq
      exact writable_getValue hvalue

theorem writable_getFieldsAux {fuel : Nat} {data : List UInt8} {fields : List Field}
    (h : getFieldsAux fuel data = some fields) : ∀ field ∈ fields, field.value.Writable := by
  induction fuel generalizing data fields with
  | zero =>
    cases data with
    | nil => obtain rfl := Option.some.inj h; simp
    | cons b data => simp [getFieldsAux] at h
  | succ fuel ih =>
    cases data with
    | nil => obtain rfl := Option.some.inj h; simp
    | cons b data =>
      simp only [getFieldsAux] at h
      split at h
      · simp at h
      · rename_i field rest hfield
        obtain ⟨later, hlater, rfl⟩ := Option.map_eq_some_iff.mp h
        intro f hf
        rcases List.mem_cons.mp hf with rfl | hf
        · exact writable_getField hfield
        · exact ih hlater f hf

theorem writable_getFields {data : List UInt8} {fields : List Field}
    (h : getFields data = some fields) : ∀ field ∈ fields, field.value.Writable :=
  writable_getFieldsAux h

end QsTie.Lib.Wire
