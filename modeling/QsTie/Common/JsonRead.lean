import QsTie.Common.JsonText

/-!
# Reading a JSON object of strings

What any JSON reader makes of an ASCII text that is an object of string members:
white space between tokens, the escapes of RFC 8259, and two `\u` escapes for a
character above U+FFFF.  A string is read in two steps, its UTF-16 code units
first and the characters they stand for after that.  `jsonObject_jsonDumps` says
that the responses of Gateway B are such objects and carry what was put in.
-/

namespace QsTie

/-! ### Code units -/

def hexValue (b : UInt8) : Option Nat :=
  let n := b.toNat
  if 48 ≤ n ∧ n ≤ 57 then some (n - 48)
  else if 97 ≤ n ∧ n ≤ 102 then some (n - 87)
  else if 65 ≤ n ∧ n ≤ 70 then some (n - 55)
  else none

def readHex4 : Bytes → Option (Nat × Bytes)
  | a :: b :: c :: d :: rest =>
    match hexValue a, hexValue b, hexValue c, hexValue d with
    | some a, some b, some c, some d => some (a * 4096 + b * 256 + c * 16 + d, rest)
    | _, _, _, _ => none
  | _ => none

/-- The escapes of one letter. -/
def simpleEscape (b : UInt8) : Option Nat :=
  let n := b.toNat
  if n = 34 then some 34
  else if n = 92 then some 92
  else if n = 47 then some 47
  else if n = 98 then some 8
  else if n = 102 then some 12
  else if n = 110 then some 10
  else if n = 114 then some 13
  else if n = 116 then some 9
  else none

/-- One code unit of a string body. -/
def readUnit : Bytes → Option (Nat × Bytes)
  | [] => none
  | b :: rest =>
    if b.toNat = 92 then
      match rest with
      | [] => none
      | e :: rest =>
        if e.toNat = 117 then readHex4 rest
        else (simpleEscape e).map fun n => (n, rest)
    else if b.toNat < 32 ∨ 127 < b.toNat ∨ b.toNat = 34 then none
    else some (b.toNat, rest)

/-- The code units up to the closing quote, at most `fuel` of them. -/
def readUnits : Nat → Bytes → Option (List Nat × Bytes)
  | 0, _ => none
  | fuel + 1, text =>
    if text.head? = some 34 then some ([], text.tail)
    else
      match readUnit text with
      | none => none
      | some (unit, rest) => (readUnits fuel rest).map fun (units, rest) => (unit :: units, rest)

def isHigh (unit : Nat) : Bool := 0xd800 ≤ unit && unit < 0xdc00

def isLow (unit : Nat) : Bool := 0xdc00 ≤ unit && unit < 0xe000

/-- The characters of a string of code units; a surrogate alone is none. -/
def ofUnits : List Nat → Option (List Char)
  | [] => some []
  | [unit] => if isHigh unit || isLow unit then none else some [Char.ofNat unit]
  | unit :: next :: units =>
    if isHigh unit then
      if isLow next then
        (ofUnits units).map fun cs =>
          Char.ofNat (65536 + (unit - 0xd800) * 1024 + (next - 0xdc00)) :: cs
      else none
    else if isLow unit then none
    else (ofUnits (next :: units)).map fun cs => Char.ofNat unit :: cs

/-! ### Objects -/

def skipSpace (text : Bytes) : Bytes :=
  text.dropWhile fun b => b.toNat = 32 || b.toNat = 9 || b.toNat = 10 || b.toNat = 13

/-- The text after the byte `b`. -/
def expect (b : UInt8) (text : Bytes) : Option Bytes :=
  match skipSpace text with
  | [] => none
  | b' :: rest => if b' = b then some rest else none

def readString (text : Bytes) : Option (String × Bytes) :=
  match expect 34 text with
  | none => none
  | some body =>
    match readUnits (body.length + 1) body with
    | none => none
    | some (units, rest) => (ofUnits units).map fun cs => (String.ofList cs, rest)

def readMember (text : Bytes) : Option ((String × String) × Bytes) :=
  match readString text with
  | none => none
  | some (key, rest) =>
    match expect 58 rest with
    | none => none
    | some rest => (readString rest).map fun (value, rest) => ((key, value), rest)

/-- Members separated by commas, up to the closing brace. -/
def readMembers : Nat → Bytes → Option (List (String × String) × Bytes)
  | 0, _ => none
  | fuel + 1, text =>
    match readMember text with
    | none => none
    | some (entry, rest) =>
      match expect 44 rest with
      | some rest => (readMembers fuel rest).map fun (entries, rest) => (entry :: entries, rest)
      | none => (expect 125 rest).map fun rest => ([entry], rest)

/-- The members of a text that is one JSON object of strings. -/
def jsonObject (text : Bytes) : Option (List (String × String)) :=
  match expect 123 text with
  | none => none
  | some body =>
    let object := match expect 125 body with
      | some rest => some ([], rest)
      | none => readMembers body.length body
    match object with
    | none => none
    | some (entries, rest) => if skipSpace rest = [] then some entries else none

/-! ### Strings are read back -/

/-- The UTF-16 code units of a character. -/
def units (c : Char) : List Nat :=
  if c.toNat < 65536 then [c.toNat]
  else [0xd800 + (c.toNat - 65536) / 1024 % 1024, 0xdc00 + (c.toNat - 65536) % 1024]

theorem hexValue_hexDigit : ∀ n < 16, hexValue (hexDigit n) = some n := by decide

theorem readUnit_unicodeEscape {n : Nat} (hn : n < 65536) (rest : Bytes) :
    readUnit (unicodeEscape n ++ rest) = some (n, rest) := by
  have hdigits : readHex4 (hexDigit (n / 4096 % 16) :: hexDigit (n / 256 % 16) ::
      hexDigit (n / 16 % 16) :: hexDigit (n % 16) :: rest) = some (n, rest) := by
    simp only [readHex4]
    rw [hexValue_hexDigit _ (by omega), hexValue_hexDigit _ (by omega),
      hexValue_hexDigit _ (by omega), hexValue_hexDigit _ (by omega)]
    simp only [Option.some.injEq, Prod.mk.injEq, and_true]
    omega
  simpa [unicodeEscape, readUnit] using hdigits

theorem readUnits_step {text rest : Bytes} {unit fuel : Nat}
    (hunit : readUnit text = some (unit, rest)) (hquote : text.head? ≠ some 34) :
    readUnits (fuel + 1) text =
      (readUnits fuel rest).map fun (units, rest) => (unit :: units, rest) := by
  simp only [readUnits, if_neg hquote, hunit]

theorem readUnits_letter {e : UInt8} {n : Nat} (rest : Bytes) (fuel : Nat)
    (he : simpleEscape e = some n) (hu : e.toNat ≠ 117) :
    readUnits (fuel + 1) ([92, e] ++ rest) =
      (readUnits fuel rest).map fun (units, rest) => (n :: units, rest) :=
  readUnits_step (by simp [readUnit, hu, he]) (by simp)

theorem readUnits_unicodeEscape {n : Nat} (hn : n < 65536) (rest : Bytes) (fuel : Nat) :
    readUnits (fuel + 1) (unicodeEscape n ++ rest) =
      (readUnits fuel rest).map fun (units, rest) => (n :: units, rest) :=
  readUnits_step (readUnit_unicodeEscape hn rest) (by simp [unicodeEscape])

theorem escapeChar_of_not_lt {c : Char} (hc : ¬ c.toNat < 65536) :
    escapeChar c = unicodeEscape (0xd800 + (c.toNat - 65536) / 1024 % 1024) ++
      unicodeEscape (0xdc00 + (c.toNat - 65536) % 1024) := by
  simp only [escapeChar]
  rw [if_neg (by omega), if_neg (by omega), if_neg (by omega), if_neg (by omega),
    if_neg (by omega), if_neg (by omega), if_neg (by omega), if_neg (by omega), if_neg hc]

/-- An escaped character is read as its code units. -/
theorem readUnits_escapeChar (c : Char) (rest : Bytes) (fuel : Nat) :
    readUnits (fuel + (units c).length) (escapeChar c ++ rest) =
      (readUnits fuel rest).map fun (us, rest) => (units c ++ us, rest) := by
  have hvalid : c.toNat < 0x110000 := by
    have := c.valid
    simp only [UInt32.isValidChar, Nat.isValidChar] at this
    have hdef : c.toNat = c.val.toNat := rfl
    omega
  by_cases hbmp : c.toNat < 65536
  · have hunits : units c = [c.toNat] := if_pos hbmp
    rw [hunits]
    simp only [List.length_singleton, List.singleton_append]
    unfold escapeChar
    simp only
    -- one case for each branch of the encoder
    split
    · rename_i hc; rw [hc]; exact readUnits_letter rest fuel rfl (by decide)
    split
    · rename_i hc; rw [hc]; exact readUnits_letter rest fuel rfl (by decide)
    split
    · rename_i hc; rw [hc]; exact readUnits_letter rest fuel rfl (by decide)
    split
    · rename_i hc; rw [hc]; exact readUnits_letter rest fuel rfl (by decide)
    split
    · rename_i hc; rw [hc]; exact readUnits_letter rest fuel rfl (by decide)
    split
    · rename_i hc; rw [hc]; exact readUnits_letter rest fuel rfl (by decide)
    split
    · rename_i hc; rw [hc]; exact readUnits_letter rest fuel rfl (by decide)
    split
    · rename_i hquote hslash _ _ _ _ _ hprint
      have hbyte : (UInt8.ofNat c.toNat).toNat = c.toNat := by
        rw [UInt8.toNat_ofNat']; omega
      refine readUnits_step ?_ ?_
      · simp only [List.singleton_append, readUnit, hbyte]
        rw [if_neg hslash, if_neg (by omega)]
      · simp only [List.singleton_append, List.head?_cons, ne_eq, Option.some.injEq]
        intro heq
        have hval := congrArg UInt8.toNat heq
        rw [hbyte] at hval
        exact hquote hval
    exact readUnits_unicodeEscape hbmp rest fuel
  · have hunits : units c = [0xd800 + (c.toNat - 65536) / 1024 % 1024,
        0xdc00 + (c.toNat - 65536) % 1024] := if_neg hbmp
    rw [hunits, escapeChar_of_not_lt hbmp, List.append_assoc]
    simp only [List.length_cons, List.length_nil]
    rw [readUnits_unicodeEscape (by omega), readUnits_unicodeEscape (by omega), Option.map_map]
    rfl

/-- The code units of a character stand for it. -/
theorem ofUnits_units (c : Char) (us : List Nat) :
    ofUnits (units c ++ us) = (ofUnits us).map fun cs => c :: cs := by
  have hvalid : c.toNat < 0xd800 ∨ 0xdfff < c.toNat ∧ c.toNat < 0x110000 := c.valid
  by_cases hbmp : c.toNat < 65536
  · have hunits : units c = [c.toNat] := if_pos hbmp
    have hhigh : isHigh c.toNat = false := by simp [isHigh]; omega
    have hlow : isLow c.toNat = false := by simp [isLow]; omega
    rw [hunits, List.singleton_append]
    cases us with
    | nil => simp [ofUnits, hhigh, hlow, Char.ofNat_toNat]
    | cons u us => simp [ofUnits, hhigh, hlow, Char.ofNat_toNat]
  · have hunits : units c = [0xd800 + (c.toNat - 65536) / 1024 % 1024,
        0xdc00 + (c.toNat - 65536) % 1024] := if_neg hbmp
    have hhigh : isHigh (0xd800 + (c.toNat - 65536) / 1024 % 1024) = true := by
      simp [isHigh]; omega
    have hlow : isLow (0xdc00 + (c.toNat - 65536) % 1024) = true := by
      simp [isLow]; omega
    have hvalue : 65536 + (0xd800 + (c.toNat - 65536) / 1024 % 1024 - 0xd800) * 1024 +
        (0xdc00 + (c.toNat - 65536) % 1024 - 0xdc00) = c.toNat := by omega
    rw [hunits]
    simp only [List.cons_append, List.nil_append, ofUnits, hhigh, hlow, if_true, hvalue,
      Char.ofNat_toNat]

theorem readUnits_chars (cs : List Char) (rest : Bytes) {fuel : Nat}
    (hfuel : (cs.flatMap units).length < fuel) :
    readUnits fuel (cs.flatMap escapeChar ++ 34 :: rest) = some (cs.flatMap units, rest) := by
  induction cs generalizing fuel with
  | nil =>
    obtain ⟨fuel, rfl⟩ := Nat.exists_eq_add_one_of_ne_zero (Nat.ne_of_gt hfuel)
    rfl
  | cons c cs ih =>
    rw [List.flatMap_cons, List.length_append] at hfuel
    obtain ⟨left, rfl⟩ : ∃ left, fuel = left + (units c).length :=
      ⟨fuel - (units c).length, by omega⟩
    rw [List.flatMap_cons, List.append_assoc, readUnits_escapeChar, ih (by omega)]
    rfl

theorem ofUnits_chars (cs : List Char) : ofUnits (cs.flatMap units) = some cs := by
  induction cs with
  | nil => rfl
  | cons c cs ih => rw [List.flatMap_cons, ofUnits_units, ih]; rfl

theorem length_units_le (c : Char) : (units c).length ≤ (escapeChar c).length := by
  by_cases hbmp : c.toNat < 65536
  · have hpos := escapeChar_length_pos c
    simp only [units, hbmp, if_true, List.length_singleton]
    omega
  · rw [escapeChar_of_not_lt hbmp]
    simp [units, hbmp, unicodeEscape]

theorem length_flatMap_units_le (cs : List Char) :
    (cs.flatMap units).length ≤ (cs.flatMap escapeChar).length := by
  induction cs with
  | nil => exact Nat.le_refl 0
  | cons c cs ih =>
    have hc := length_units_le c
    simp only [List.flatMap_cons, List.length_append]
    omega

theorem expect_self {b : UInt8} (hb : skipSpace [b] = [b]) (rest : Bytes) :
    expect b (b :: rest) = some rest := by
  have hskip : skipSpace (b :: rest) = b :: rest := by
    simp only [skipSpace, List.dropWhile_cons] at hb ⊢
    split at hb
    · simp at hb
    · rename_i hkeep
      rw [if_neg hkeep]
  simp [expect, hskip]

theorem expect_space {b : UInt8} (text : Bytes) : expect b (32 :: text) = expect b text := by
  simp [expect, skipSpace]

theorem readString_space (text : Bytes) : readString (32 :: text) = readString text := by
  simp only [readString, expect_space]

/-- A string that was written is read back, up to the text after it. -/
theorem readString_jsonString (s : String) (rest : Bytes) :
    readString (jsonString s ++ rest) = some (s, rest) := by
  have hbody : jsonString s ++ rest = 34 :: (s.toList.flatMap escapeChar ++ 34 :: rest) := by
    simp [jsonString, escapeString]
  have hfuel : (s.toList.flatMap units).length <
      (s.toList.flatMap escapeChar ++ 34 :: rest).length + 1 := by
    have hle := length_flatMap_units_le s.toList
    rw [List.length_append]
    omega
  simp only [readString]
  rw [hbody, expect_self (by decide)]
  simp only
  rw [readUnits_chars _ _ hfuel]
  simp only [ofUnits_chars, Option.map_some, String.ofList_toList]

theorem readMember_jsonMember (entry : String × String) (rest : Bytes) :
    readMember (jsonMember entry ++ rest) = some (entry, rest) := by
  have hcolon : asciiBytes ": " = [58, 32] := by decide
  simp only [readMember, jsonMember, hcolon]
  rw [List.append_assoc, List.append_assoc, readString_jsonString]
  simp only [List.cons_append, List.nil_append]
  rw [expect_self (by decide)]
  simp only [readString_space, readString_jsonString, Option.map_some]

theorem readMembers_space (fuel : Nat) (text : Bytes) :
    readMembers fuel (32 :: text) = readMembers fuel text := by
  cases fuel with
  | zero => rfl
  | succ fuel => simp only [readMembers, readMember, readString_space]

theorem readMembers_jsonMembers (entry : String × String) (entries : List (String × String))
    (rest : Bytes) {fuel : Nat} (hfuel : entries.length < fuel) :
    readMembers fuel
        ((asciiBytes ", ").intercalate ((entry :: entries).map jsonMember) ++ 125 :: rest) =
      some (entry :: entries, rest) := by
  have hcomma : asciiBytes ", " = [44, 32] := by decide
  induction entries generalizing entry fuel with
  | nil =>
    obtain ⟨fuel, rfl⟩ := Nat.exists_eq_add_one_of_ne_zero (Nat.ne_of_gt hfuel)
    simp only [List.map_cons, List.map_nil, List.intercalate_singleton, readMembers]
    rw [readMember_jsonMember]
    have hother : expect 44 (125 :: rest) = none := rfl
    simp only [hother]
    rw [expect_self (by decide)]
    rfl
  | cons next entries ih =>
    obtain ⟨fuel, rfl⟩ := Nat.exists_eq_add_one_of_ne_zero (Nat.ne_of_gt (Nat.lt_of_le_of_lt
      (Nat.zero_le _) hfuel))
    rw [List.map_cons, List.map_cons, List.intercalate_cons_cons, ← List.map_cons]
    simp only [readMembers, List.append_assoc]
    rw [readMember_jsonMember]
    simp only [hcomma, List.cons_append, List.nil_append]
    rw [expect_self (by decide)]
    simp only [readMembers_space]
    have hshorter : entries.length < fuel := by
      simp only [List.length_cons] at hfuel
      omega
    have hnext := ih next hshorter
    rw [hcomma] at hnext
    rw [hnext]
    rfl

theorem length_jsonMembers (entries : List (String × String)) :
    entries.length ≤ ((asciiBytes ", ").intercalate (entries.map jsonMember)).length := by
  induction entries with
  | nil => exact Nat.zero_le _
  | cons entry entries ih =>
    have hmember : 0 < (jsonMember entry).length := by simp [jsonMember, jsonString]
    cases entries with
    | nil =>
      simp only [List.map_cons, List.map_nil, List.intercalate_singleton, List.length_singleton]
      omega
    | cons next entries =>
      rw [List.map_cons, List.map_cons, List.intercalate_cons_cons, ← List.map_cons,
        List.length_append, List.length_append, List.length_cons]
      omega

/-- **The text of `json.dumps` is a JSON object with the members it was given.** -/
theorem jsonObject_jsonDumps (entries : List (String × String)) :
    jsonObject (jsonDumps entries) = some entries := by
  have hopen : asciiBytes "\x7b" = [123] := by decide
  have hclose : asciiBytes "\x7d" = [125] := by decide
  simp only [jsonObject, jsonDumps, hopen, hclose]
  rw [List.append_assoc, List.singleton_append, expect_self (by decide)]
  simp only
  cases entries with
  | nil => rfl
  | cons entry entries =>
    have hother : expect 125
        ((asciiBytes ", ").intercalate ((entry :: entries).map jsonMember) ++ [125]) = none := by
      cases entries with
      | nil => rfl
      | cons next entries =>
        rw [List.map_cons, List.map_cons, List.intercalate_cons_cons]
        rfl
    have hfuel : entries.length <
        ((asciiBytes ", ").intercalate ((entry :: entries).map jsonMember) ++ [125]).length := by
      have hle := length_jsonMembers (entry :: entries)
      rw [List.length_cons] at hle
      rw [List.length_append]
      omega
    simp only [hother]
    rw [readMembers_jsonMembers entry entries [] hfuel]
    rfl

end QsTie
