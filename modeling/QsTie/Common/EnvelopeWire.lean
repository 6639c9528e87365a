import QsTie.Common.Envelope
import QsTie.Lib.Wire

/-!
# The envelope on the wire (`proto/qstie.proto`)

`wireProtobuf` is the generated class as the proto3 format has it: a field at its
default is not written, the last occurrence of a field is the one that counts, and
a field that is unknown, or known with another wire type, is skipped.  A string
has to be valid UTF-8.

The model class is on top of that: `from_bytes` reads an absent marking as `GREEN`,
which `to_bytes` then writes, so the two are inverse on envelopes and not on bytes.
-/

namespace QsTie

open QsTie.Lib.Wire

/-! ### Scalars -/

def utf8 (s : String) : Bytes := s.toByteArray.data.toList

def utf8Decode (data : Bytes) : Option String := String.fromUTF8? ⟨data.toArray⟩

theorem utf8Decode_utf8 (s : String) : utf8Decode (utf8 s) = some s := by
  have hbytes : (⟨(utf8 s).toArray⟩ : ByteArray) = s.toByteArray := by
    simp [utf8]
  have hvalid : (⟨(utf8 s).toArray⟩ : ByteArray).IsValidUTF8 := hbytes ▸ s.isValidUTF8
  simp only [utf8Decode, String.fromUTF8?, dif_pos hvalid, Option.some.injEq]
  exact String.toByteArray_inj.mp hbytes

theorem utf8_eq_of_decode {data : Bytes} {s : String} (h : utf8Decode data = some s) :
    utf8 s = data := by
  simp only [utf8Decode, String.fromUTF8?] at h
  split at h
  · obtain rfl := Option.some.inj h
    simp [utf8, String.fromUTF8]
  · simp at h

/-- The varint of an `int64`: its 64 bits. -/
def int64Bits (i : Int) : Nat := (i % 2 ^ 64).toNat

/-- The `int64` of a varint. -/
def ofInt64Bits (n : Nat) : Int :=
  if n % 2 ^ 64 < 2 ^ 63 then (n % 2 ^ 64 : Nat) else (n % 2 ^ 64 : Nat) - 2 ^ 64

def IsInt64 (i : Int) : Prop := -2 ^ 63 ≤ i ∧ i < 2 ^ 63

instance (i : Int) : Decidable (IsInt64 i) := inferInstanceAs (Decidable (_ ∧ _))

theorem ofInt64Bits_int64Bits {i : Int} (hi : IsInt64 i) : ofInt64Bits (int64Bits i) = i := by
  obtain ⟨hlow, hhigh⟩ := hi
  unfold ofInt64Bits int64Bits
  by_cases hsign : (i % 2 ^ 64).toNat % 2 ^ 64 < 2 ^ 63
  · rw [if_pos hsign]
    omega
  · rw [if_neg hsign]
    omega

theorem isInt64_ofInt64Bits (n : Nat) : IsInt64 (ofInt64Bits n) := by
  unfold IsInt64 ofInt64Bits
  by_cases hsign : n % 2 ^ 64 < 2 ^ 63
  · rw [if_pos hsign]
    omega
  · rw [if_neg hsign]
    omega

theorem int64Bits_lt (i : Int) : int64Bits i < 2 ^ 64 := by
  simp only [int64Bits]
  omega

/-! ### The message -/

namespace ProtoEnvelope

/-- `TransactionEnvelope()` of the generated class. -/
def empty : ProtoEnvelope where
  transactionId := ""
  senderId := ""
  recipientId := ""
  tlpMarking := ""
  stixBundleCompressed := []
  signature := []
  signerCertFingerprint := ""
  createdAtUnixMs := 0

def stringField (number : Nat) (s : String) : List Field :=
  if s = "" then [] else [⟨number, .bytes (utf8 s)⟩]

def bytesField (number : Nat) (data : Bytes) : List Field :=
  if data = [] then [] else [⟨number, .bytes data⟩]

def int64Field (number : Nat) (i : Int) : List Field :=
  if i = 0 then [] else [⟨number, .varint (int64Bits i)⟩]

/-- The fields that are written, in the order of their numbers. -/
def fields (env : ProtoEnvelope) : List Field :=
  stringField 1 env.transactionId ++ stringField 2 env.senderId ++
    stringField 3 env.recipientId ++ stringField 4 env.tlpMarking ++
    bytesField 5 env.stixBundleCompressed ++ bytesField 6 env.signature ++
    stringField 7 env.signerCertFingerprint ++ int64Field 8 env.createdAtUnixMs

/-- One field read into the message. -/
def setField (env : ProtoEnvelope) (field : Field) : Option ProtoEnvelope :=
  match field.number, field.value with
  | 1, .bytes data => (utf8Decode data).map fun s => { env with transactionId := s }
  | 2, .bytes data => (utf8Decode data).map fun s => { env with senderId := s }
  | 3, .bytes data => (utf8Decode data).map fun s => { env with recipientId := s }
  | 4, .bytes data => (utf8Decode data).map fun s => { env with tlpMarking := s }
  | 5, .bytes data => some { env with stixBundleCompressed := data }
  | 6, .bytes data => some { env with signature := data }
  | 7, .bytes data => (utf8Decode data).map fun s => { env with signerCertFingerprint := s }
  | 8, .varint n => some { env with createdAtUnixMs := ofInt64Bits n }
  | _, _ => some env

def ofFields (fields : List Field) : Option ProtoEnvelope := fields.foldlM setField empty

/-- The length of every field fits the varint it is written with. -/
structure Sized (env : ProtoEnvelope) : Prop where
  transactionId : (utf8 env.transactionId).length < 2 ^ 64
  senderId : (utf8 env.senderId).length < 2 ^ 64
  recipientId : (utf8 env.recipientId).length < 2 ^ 64
  tlpMarking : (utf8 env.tlpMarking).length < 2 ^ 64
  stixBundleCompressed : env.stixBundleCompressed.length < 2 ^ 64
  signature : env.signature.length < 2 ^ 64
  signerCertFingerprint : (utf8 env.signerCertFingerprint).length < 2 ^ 64

end ProtoEnvelope

/-- The generated class with the proto3 wire format.  A number outside of `int64` cannot be
    assigned to its field. -/
def wireProtobuf : Protobuf where
  parseFromString data :=
    match (getFields data).bind ProtoEnvelope.ofFields with
    | none => .error ⟨.other "DecodeError",
        "Error parsing message with type 'qstie.TransactionEnvelope'"⟩
    | some env => .ok env
  serializeToString env :=
    if IsInt64 env.createdAtUnixMs then .ok (putFields env.fields)
    else .error ⟨.valueError, "Value out of range"⟩

/-! ### Messages are read back -/

namespace ProtoEnvelope

theorem writable_stringField {number : Nat} {s : String} (hnumber : 0 < number ∧ number < 2 ^ 29)
    (hsize : (utf8 s).length < 2 ^ 64) : ∀ field ∈ stringField number s, field.Writable := by
  intro field hfield
  simp only [stringField] at hfield
  split at hfield
  · simp at hfield
  · rw [List.mem_singleton.mp hfield]
    exact ⟨hnumber, hsize⟩

theorem writable_bytesField {number : Nat} {data : Bytes} (hnumber : 0 < number ∧ number < 2 ^ 29)
    (hsize : data.length < 2 ^ 64) : ∀ field ∈ bytesField number data, field.Writable := by
  intro field hfield
  simp only [bytesField] at hfield
  split at hfield
  · simp at hfield
  · rw [List.mem_singleton.mp hfield]
    exact ⟨hnumber, hsize⟩

theorem writable_int64Field {number : Nat} (hnumber : 0 < number ∧ number < 2 ^ 29) (i : Int) :
    ∀ field ∈ int64Field number i, field.Writable := by
  intro field hfield
  simp only [int64Field] at hfield
  split at hfield
  · simp at hfield
  · rw [List.mem_singleton.mp hfield]
    exact ⟨hnumber, int64Bits_lt i⟩

theorem writable_fields {env : ProtoEnvelope} (hsized : env.Sized) :
    ∀ field ∈ env.fields, field.Writable := by
  intro field hfield
  simp only [fields, List.mem_append] at hfield
  rcases hfield with ((((((h | h) | h) | h) | h) | h) | h) | h
  · exact writable_stringField (by decide) hsized.transactionId field h
  · exact writable_stringField (by decide) hsized.senderId field h
  · exact writable_stringField (by decide) hsized.recipientId field h
  · exact writable_stringField (by decide) hsized.tlpMarking field h
  · exact writable_bytesField (by decide) hsized.stixBundleCompressed field h
  · exact writable_bytesField (by decide) hsized.signature field h
  · exact writable_stringField (by decide) hsized.signerCertFingerprint field h
  · exact writable_int64Field (by decide) env.createdAtUnixMs field h

/-- A field that is left out is at its default already. -/
theorem foldlM_optional {env env' : ProtoEnvelope} {field : Field} {absent : Prop}
    [Decidable absent] (hset : setField env field = some env') (hdefault : absent → env = env') :
    (if absent then [] else [field]).foldlM setField env = some env' := by
  by_cases h : absent
  · rw [if_pos h, hdefault h]
    rfl
  · rw [if_neg h, List.foldlM_cons, hset]
    rfl

theorem foldlM_stringField {env env' : ProtoEnvelope} {number : Nat} {s : String}
    (hset : setField env ⟨number, .bytes (utf8 s)⟩ = some env') (hdefault : s = "" → env = env') :
    (stringField number s).foldlM setField env = some env' :=
  foldlM_optional hset hdefault

/-- The fields of a message give it back, one after the other. -/
theorem ofFields_fields {env : ProtoEnvelope} (hint : IsInt64 env.createdAtUnixMs) :
    ofFields env.fields = some env := by
  obtain ⟨transactionId, senderId, recipientId, tlpMarking, compressed, signature, fingerprint,
    createdAt⟩ := env
  have h₁ : (stringField 1 transactionId).foldlM setField empty =
      some { empty with transactionId := transactionId } :=
    foldlM_stringField (by simp [setField, utf8Decode_utf8]) (by rintro rfl; rfl)
  have h₂ : (stringField 2 senderId).foldlM setField
      { empty with transactionId := transactionId } =
      some { empty with transactionId := transactionId, senderId := senderId } :=
    foldlM_stringField (by simp [setField, utf8Decode_utf8]) (by rintro rfl; rfl)
  have h₃ : (stringField 3 recipientId).foldlM setField
      { empty with transactionId := transactionId, senderId := senderId } =
      some { empty with transactionId := transactionId, senderId := senderId,
                        recipientId := recipientId } :=
    foldlM_stringField (by simp [setField, utf8Decode_utf8]) (by rintro rfl; rfl)
  have h₄ : (stringField 4 tlpMarking).foldlM setField
      { empty with transactionId := transactionId, senderId := senderId,
                   recipientId := recipientId } =
      some { empty with transactionId := transactionId, senderId := senderId,
                        recipientId := recipientId, tlpMarking := tlpMarking } :=
    foldlM_stringField (by simp [setField, utf8Decode_utf8]) (by rintro rfl; rfl)
  have h₅ : (bytesField 5 compressed).foldlM setField
      { empty with transactionId := transactionId, senderId := senderId,
                   recipientId := recipientId, tlpMarking := tlpMarking } =
      some { empty with transactionId := transactionId, senderId := senderId,
                        recipientId := recipientId, tlpMarking := tlpMarking,
                        stixBundleCompressed := compressed } :=
    foldlM_optional rfl (by rintro rfl; rfl)
  have h₆ : (bytesField 6 signature).foldlM setField
      { empty with transactionId := transactionId, senderId := senderId,
                   recipientId := recipientId, tlpMarking := tlpMarking,
                   stixBundleCompressed := compressed } =
      some { empty with transactionId := transactionId, senderId := senderId,
                        recipientId := recipientId, tlpMarking := tlpMarking,
                        stixBundleCompressed := compressed, signature := signature } :=
    foldlM_optional rfl (by rintro rfl; rfl)
  have h₇ : (stringField 7 fingerprint).foldlM setField
      { empty with transactionId := transactionId, senderId := senderId,
                   recipientId := recipientId, tlpMarking := tlpMarking,
                   stixBundleCompressed := compressed, signature := signature } =
      some { empty with transactionId := transactionId, senderId := senderId,
                        recipientId := recipientId, tlpMarking := tlpMarking,
                        stixBundleCompressed := compressed, signature := signature,
                        signerCertFingerprint := fingerprint } :=
    foldlM_stringField (by simp [setField, utf8Decode_utf8]) (by rintro rfl; rfl)
  have h₈ : (int64Field 8 createdAt).foldlM setField
      ⟨transactionId, senderId, recipientId, tlpMarking, compressed, signature, fingerprint, 0⟩ =
      some ⟨transactionId, senderId, recipientId, tlpMarking, compressed, signature, fingerprint,
        createdAt⟩ :=
    foldlM_optional (by simp only [setField, ofInt64Bits_int64Bits hint]) (by rintro rfl; rfl)
  simp only [ofFields, fields, List.foldlM_append, h₁, h₂, h₃, h₄, h₅, h₆, h₇, Option.bind_eq_bind,
    Option.bind_some]
  exact h₈

/-- What holds of every message that was read: its timestamp is in range and its lengths
    fit. -/
def Readable (env : ProtoEnvelope) : Prop := IsInt64 env.createdAtUnixMs ∧ env.Sized

theorem readable_empty : empty.Readable :=
  ⟨by decide, by decide, by decide, by decide, by decide, by decide, by decide, by decide⟩

theorem readable_setField {env env' : ProtoEnvelope} {field : Field}
    (h : setField env field = some env') (hfield : field.value.Writable) (henv : env.Readable) :
    env'.Readable := by
  obtain ⟨number, value⟩ := field
  obtain ⟨hint, h₁, h₂, h₃, h₄, h₅, h₆, h₇⟩ := henv
  simp only [setField] at h
  split at h
  · obtain ⟨s, hs, rfl⟩ := Option.map_eq_some_iff.mp h
    exact ⟨hint, utf8_eq_of_decode hs ▸ hfield, h₂, h₃, h₄, h₅, h₆, h₇⟩
  · obtain ⟨s, hs, rfl⟩ := Option.map_eq_some_iff.mp h
    exact ⟨hint, h₁, utf8_eq_of_decode hs ▸ hfield, h₃, h₄, h₅, h₆, h₇⟩
  · obtain ⟨s, hs, rfl⟩ := Option.map_eq_some_iff.mp h
    exact ⟨hint, h₁, h₂, utf8_eq_of_decode hs ▸ hfield, h₄, h₅, h₆, h₇⟩
  · obtain ⟨s, hs, rfl⟩ := Option.map_eq_some_iff.mp h
    exact ⟨hint, h₁, h₂, h₃, utf8_eq_of_decode hs ▸ hfield, h₅, h₆, h₇⟩
  · obtain rfl := Option.some.inj h
    exact ⟨hint, h₁, h₂, h₃, h₄, hfield, h₆, h₇⟩
  · obtain rfl := Option.some.inj h
    exact ⟨hint, h₁, h₂, h₃, h₄, h₅, hfield, h₇⟩
  · obtain ⟨s, hs, rfl⟩ := Option.map_eq_some_iff.mp h
    exact ⟨hint, h₁, h₂, h₃, h₄, h₅, h₆, utf8_eq_of_decode hs ▸ hfield⟩
  · obtain rfl := Option.some.inj h
    exact ⟨isInt64_ofInt64Bits _, h₁, h₂, h₃, h₄, h₅, h₆, h₇⟩
  · obtain rfl := Option.some.inj h
    exact ⟨hint, h₁, h₂, h₃, h₄, h₅, h₆, h₇⟩

theorem readable_foldlM {fields : List Field} {env env' : ProtoEnvelope} (henv : env.Readable)
    (hfields : ∀ field ∈ fields, field.value.Writable)
    (h : fields.foldlM setField env = some env') : env'.Readable := by
  induction fields generalizing env with
  | nil =>
    obtain rfl := Option.some.inj h
    exact henv
  | cons field fields ih =>
    rw [List.foldlM_cons, Option.bind_eq_bind, Option.bind_eq_some_iff] at h
    obtain ⟨next, hnext, hrest⟩ := h
    apply ih (readable_setField hnext (hfields field List.mem_cons_self) henv) _ hrest
    exact fun f hf => hfields f (List.mem_cons_of_mem _ hf)

end ProtoEnvelope

/-- What the generated class serialises it parses back. -/
theorem parse_serialize {env : ProtoEnvelope} (henv : env.Readable) :
    ∃ data, wireProtobuf.serializeToString env = .ok data ∧
      wireProtobuf.parseFromString data = .ok env := by
  obtain ⟨hint, hsized⟩ := henv
  refine ⟨putFields env.fields, if_pos hint, ?_⟩
  simp only [wireProtobuf, getFields_putFields (ProtoEnvelope.writable_fields hsized),
    Option.bind_some, ProtoEnvelope.ofFields_fields hint]

theorem readable_of_parse {data : Bytes} {env : ProtoEnvelope}
    (h : wireProtobuf.parseFromString data = .ok env) : env.Readable := by
  simp only [wireProtobuf] at h
  split at h
  · simp at h
  · rename_i read hread
    obtain rfl := Except.ok.inj h
    obtain ⟨fields, hfields, hfold⟩ := Option.bind_eq_some_iff.mp hread
    exact ProtoEnvelope.readable_foldlM ProtoEnvelope.readable_empty
      (writable_getFields hfields) hfold

/-! ### The model class -/

namespace TransactionEnvelope

/-- The marking of an envelope is short. -/
theorem length_marking (m : TlpMarking) : (utf8 m.value).length < 2 ^ 64 := by
  cases m <;> decide

theorem fromProto_eq_ok {proto : ProtoEnvelope} {env : TransactionEnvelope}
    (h : fromProto proto = .ok env) :
    env.toProto = { proto with tlpMarking := env.tlpMarking.value } := by
  simp only [fromProto] at h
  split at h
  · simp at h
  · obtain rfl := Except.ok.inj h
    rfl

theorem readMarking_error {s : String} {e : PyExc} (h : readMarking s = .error e) :
    e.cls = .envelopeError := by
  simp only [readMarking] at h
  split at h
  · simp at h
  · split at h
    · simp at h
    · obtain rfl := Except.error.inj h
      rfl

theorem fromBytes_error {pb : Protobuf} {data : Bytes} {e : PyExc}
    (h : fromBytes pb data = .error e) : e.cls = .envelopeError := by
  simp only [fromBytes] at h
  split at h
  · obtain rfl := Except.error.inj h
    rfl
  · simp only [fromProto] at h
    split at h
    · rename_i hmarking
      obtain rfl := Except.error.inj h
      exact readMarking_error hmarking
    · simp at h

theorem readMarking_unknown {s : String} (hne : s ≠ "") (hs : TlpMarking.ofValue? s = none) :
    ∃ e, readMarking s = .error e := by
  simp only [readMarking, hs, if_neg hne]
  exact ⟨_, rfl⟩

/-- **The envelope on the wire.**  What `to_bytes` writes `from_bytes` reads back in all
    fields; what `from_bytes` accepts can be written again and is read as the same envelope;
    and it fails with an `EnvelopeError` only, in particular on a marking that is none. -/
theorem wire_round_trip :
    (∀ env : TransactionEnvelope, env.toProto.Sized → IsInt64 env.createdAtUnixMs →
      ∃ data, env.toBytes wireProtobuf = .ok data ∧ fromBytes wireProtobuf data = .ok env) ∧
    (∀ data env, fromBytes wireProtobuf data = .ok env →
      ∃ data', env.toBytes wireProtobuf = .ok data' ∧ fromBytes wireProtobuf data' = .ok env) ∧
    (∀ data e, fromBytes wireProtobuf data = .error e → e.cls = .envelopeError) ∧
    (∀ data proto, wireProtobuf.parseFromString data = .ok proto → proto.tlpMarking ≠ "" →
      TlpMarking.ofValue? proto.tlpMarking = none →
      ∃ e, fromBytes wireProtobuf data = .error e ∧ e.cls = .envelopeError) := by
  have hwrite : ∀ env : TransactionEnvelope, env.toProto.Readable →
      ∃ data, env.toBytes wireProtobuf = .ok data ∧ fromBytes wireProtobuf data = .ok env := by
    intro env hreadable
    obtain ⟨data, hdata, hparse⟩ := parse_serialize hreadable
    refine ⟨data, hdata, ?_⟩
    rw [fromBytes, hparse]
    exact env.fromProto_toProto
  refine ⟨fun env hsized hint => hwrite env ⟨hint, hsized⟩, ?_, fun _ _ => fromBytes_error, ?_⟩
  · intro data env h
    simp only [fromBytes] at h
    split at h
    · simp at h
    · rename_i proto hparse
      obtain ⟨hint, h₁, h₂, h₃, _, h₅, h₆, h₇⟩ := readable_of_parse hparse
      apply hwrite env
      rw [fromProto_eq_ok h]
      exact ⟨hint, h₁, h₂, h₃, length_marking env.tlpMarking, h₅, h₆, h₇⟩
  · intro data proto hparse hne hunknown
    obtain ⟨e, he⟩ := readMarking_unknown hne hunknown
    refine ⟨e, ?_, readMarking_error he⟩
    simp only [fromBytes, hparse, fromProto, he]

/-- An envelope with empty fields, a character outside ASCII and a negative timestamp. -/
def sampleEnvelope : TransactionEnvelope where
  transactionId := "é"
  senderId := ""
  recipientId := "NIA"
  tlpMarking := .amberStrict
  stixBundleCompressed := [120, 156]
  signature := []
  signerCertFingerprint := ""
  createdAtUnixMs := -1

theorem sample_wire_round_trip :
    ∃ data, sampleEnvelope.toBytes wireProtobuf = .ok data ∧ data.length = 42 ∧
      fromBytes wireProtobuf data = .ok sampleEnvelope := by
  have hsized : sampleEnvelope.toProto.Sized :=
    ⟨by decide, by decide, by decide, by decide, by decide, by decide, by decide⟩
  obtain ⟨data, hwrite, hread⟩ := wire_round_trip.1 sampleEnvelope hsized (by decide)
  refine ⟨data, hwrite, ?_, hread⟩
  have hlen : (sampleEnvelope.toBytes wireProtobuf).map List.length = .ok 42 := by decide +kernel
  rw [hwrite] at hlen
  exact Except.ok.inj hlen

end TransactionEnvelope

end QsTie
