import QsTie.Common.Enums

/-!
# `json.dumps`

The text of a response is `json.dumps({...}).encode('utf-8')` with the default
`ensure_ascii`: the quote, the backslash and every character outside the
printable ASCII range are escaped, characters above U+FFFF as a surrogate pair,
so the text is ASCII and one byte per character.  An escaped id can be up to
twelve bytes per character, which is what makes a response overflow a frame.

`jsonDumps` is the case of a dict of strings, `dumps` the one of any plain value;
the text of a float is a parameter there.
-/

namespace QsTie

def asciiBytes (s : String) : Bytes := s.toList.map fun c => UInt8.ofNat c.toNat

def hexDigit (n : Nat) : UInt8 :=
  if n < 10 then UInt8.ofNat (48 + n) else UInt8.ofNat (87 + n)

/-- `'\\u{0:04x}'.format(n)`. -/
def unicodeEscape (n : Nat) : Bytes :=
  [92, 117, hexDigit (n / 4096 % 16), hexDigit (n / 256 % 16), hexDigit (n / 16 % 16),
   hexDigit (n % 16)]

/-- The escape of one character (`ESCAPE_ASCII` and `ESCAPE_DCT` of the encoder). -/
def escapeChar (c : Char) : Bytes :=
  let n := c.toNat
  if n = 34 then [92, 34]
  else if n = 92 then [92, 92]
  else if n = 10 then [92, 110]
  else if n = 13 then [92, 114]
  else if n = 9 then [92, 116]
  else if n = 12 then [92, 102]
  else if n = 8 then [92, 98]
  else if 32 ≤ n ∧ n ≤ 126 then [UInt8.ofNat n]
  else if n < 65536 then unicodeEscape n
  else
    unicodeEscape (0xd800 + (n - 65536) / 1024 % 1024) ++
      unicodeEscape (0xdc00 + (n - 65536) % 1024)

def escapeString (s : String) : Bytes := s.toList.flatMap escapeChar

def jsonString (s : String) : Bytes := 34 :: (escapeString s ++ [34])

def jsonMember (entry : String × String) : Bytes :=
  jsonString entry.1 ++ asciiBytes ": " ++ jsonString entry.2

/-- `json.dumps(entries).encode('utf-8')`. -/
def jsonDumps (entries : List (String × String)) : Bytes :=
  asciiBytes "\x7b" ++ (asciiBytes ", ").intercalate (entries.map jsonMember) ++
    asciiBytes "\x7d"

example : jsonDumps [("transaction_id", "a\n"), ("reason", "X")] =
    asciiBytes "\x7b\"transaction_id\": \"a\\n\", \"reason\": \"X\"\x7d" := by decide

/-! ### Any plain value -/

section Dumps

variable (floatRepr : ℚ → String)

/-- The text of a key, which is always a string in the output. -/
def dumpsKey : PyVal → Except PyExc Bytes
  | .str s => .ok (jsonString s)
  | .none => .ok (jsonString "null")
  | .bool b => .ok (jsonString (if b then "true" else "false"))
  | .int i => .ok (jsonString (toString i))
  | .float q => .ok (jsonString (floatRepr q))
  | _ => .error ⟨.typeError, "keys must be str, int, float, bool or None"⟩

mutual

/-- `json.dumps(v)`, as bytes. -/
def dumps : PyVal → Except PyExc Bytes
  | .none => .ok (asciiBytes "null")
  | .bool b => .ok (asciiBytes (if b then "true" else "false"))
  | .int i => .ok (asciiBytes (toString i))
  | .float q => .ok (asciiBytes (floatRepr q))
  | .str s => .ok (jsonString s)
  | .list items =>
    match dumpsItems items with
    | .error e => .error e
    | .ok texts => .ok (asciiBytes "[" ++ (asciiBytes ", ").intercalate texts ++ asciiBytes "]")
  | .dict items =>
    match dumpsEntries items with
    | .error e => .error e
    | .ok texts =>
      .ok (asciiBytes "\x7b" ++ (asciiBytes ", ").intercalate texts ++ asciiBytes "\x7d")

def dumpsItems : List PyVal → Except PyExc (List Bytes)
  | [] => .ok []
  | v :: vs =>
    match dumps v, dumpsItems vs with
    | .error e, _ => .error e
    | _, .error e => .error e
    | .ok text, .ok texts => .ok (text :: texts)

def dumpsEntries : List (PyVal × PyVal) → Except PyExc (List Bytes)
  | [] => .ok []
  | (key, v) :: entries =>
    match dumpsKey floatRepr key, dumps v, dumpsEntries entries with
    | .error e, _, _ => .error e
    | _, .error e, _ => .error e
    | _, _, .error e => .error e
    | .ok key, .ok text, .ok texts => .ok ((key ++ asciiBytes ": " ++ text) :: texts)

end

end Dumps

example : dumps (fun _ => "")
      (.dict [(.str "type", .str "bundle"), (.str "objects", .list [.int 7])]) =
    .ok (asciiBytes "\x7b\"type\": \"bundle\", \"objects\": [7]\x7d") := by rfl

/-! ### Sizes -/

theorem escapeChar_length_pos (c : Char) : 0 < (escapeChar c).length := by
  unfold escapeChar
  simp only
  repeat' split
  all_goals simp [unicodeEscape]

/-- A character whose escape is the single byte of the digit `0`. -/
theorem escapeChar_eq_zero {c : Char} (h : escapeChar c = [48]) : c = '0' := by
  have hn : c.toNat = 48 := by
    unfold escapeChar at h
    simp only at h
    repeat' split at h
    all_goals simp [unicodeEscape] at h
    have hrange : 32 ≤ c.toNat ∧ c.toNat ≤ 126 := by assumption
    have hval := congrArg UInt8.toNat h
    rw [UInt8.toNat_ofNat'] at hval
    simp only [UInt8.reduceToNat] at hval
    omega
  exact Char.toNat_inj.mp hn

/-- Only the id `0` escapes to the text `0`. -/
theorem escapeString_eq_zero {s : String} (h : escapeString s = [48]) : s = "0" := by
  unfold escapeString at h
  have hlist : s.toList = ['0'] := by
    cases hs : s.toList with
    | nil => rw [hs] at h; simp at h
    | cons c rest =>
      rw [hs, List.flatMap_cons] at h
      have hc := escapeChar_length_pos c
      have hlen := congrArg List.length h
      rw [List.length_append, List.length_singleton] at hlen
      cases rest with
      | nil =>
        rw [List.flatMap_nil, List.append_nil] at h
        rw [escapeChar_eq_zero h]
      | cons d rest =>
        have hd := escapeChar_length_pos d
        rw [List.flatMap_cons, List.length_append] at hlen
        omega
  exact String.toList_inj.mp hlist

/-! ### One line -/

theorem hexDigit_ne_newline : ∀ n < 16, hexDigit n ≠ 10 := by decide

theorem newline_not_mem_unicodeEscape (n : Nat) : 10 ∉ unicodeEscape n := by
  have hdigit (m : Nat) : (10 : UInt8) ≠ hexDigit (m % 16) :=
    (hexDigit_ne_newline (m % 16) (Nat.mod_lt m (by decide))).symm
  simp [unicodeEscape, hdigit]

theorem newline_not_mem_escapeChar (c : Char) : 10 ∉ escapeChar c := by
  have hprinted (h : 32 ≤ c.toNat ∧ c.toNat ≤ 126) : (10 : UInt8) ≠ UInt8.ofNat c.toNat := by
    intro heq
    have hval := congrArg UInt8.toNat heq
    rw [UInt8.toNat_ofNat'] at hval
    simp only [UInt8.reduceToNat] at hval
    omega
  unfold escapeChar
  simp only
  split_ifs with _ _ _ _ _ _ _ hprintable
  all_goals simp [newline_not_mem_unicodeEscape]
  exact hprinted hprintable

theorem newline_not_mem_jsonString (s : String) : 10 ∉ jsonString s := by
  have hescaped : 10 ∉ escapeString s := by
    simp only [escapeString, List.mem_flatMap, not_exists, not_and]
    intro c _
    exact newline_not_mem_escapeChar c
  simp [jsonString, hescaped]

/-- A dumped dict is one line, whatever its keys and values. -/
theorem newline_not_mem_jsonDumps (entries : List (String × String)) :
    10 ∉ jsonDumps entries := by
  have hcomma : 10 ∉ asciiBytes ", " := by decide
  have hmember (entry : String × String) : 10 ∉ jsonMember entry := by
    have hcolon : 10 ∉ asciiBytes ": " := by decide
    simp [jsonMember, newline_not_mem_jsonString, hcolon]
  have hmembers : 10 ∉ (asciiBytes ", ").intercalate (entries.map jsonMember) := by
    induction entries with
    | nil => simp [List.intercalate]
    | cons entry entries ih =>
      cases entries with
      | nil => simpa [List.intercalate] using hmember entry
      | cons next entries =>
        rw [List.map_cons, List.map_cons, List.intercalate_cons_cons]
        simp only [List.map_cons] at ih
        simp [hmember, hcomma, ih]
  have hopen : 10 ∉ asciiBytes "\x7b" := by decide
  have hclose : 10 ∉ asciiBytes "\x7d" := by decide
  simp [jsonDumps, hopen, hmembers, hclose]

end QsTie
