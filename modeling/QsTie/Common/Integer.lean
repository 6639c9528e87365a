import QsTie.Common.Python
import QsTie.Lib.Rounding

/-!
# `int()` of a string, and integers as floats

`int(s)` strips white space, takes a sign and decimal digits of any script, with
single underscores between digits, and refuses more than 4300 of them.  What it
strips is not quite what `str.strip` does: the four separators from U+001C on are
left, and the string is refused.

An integer becomes the nearest float in an arithmetic operation with one, which
raises `OverflowError` from the half-way point above the largest float on.
-/

namespace QsTie

open Lib

/-- The code points of the digit zero (`Nd`); each is followed by its nine others. -/
def decimalZeros : List Nat :=
  [0x30, 0x660, 0x6f0, 0x7c0, 0x966, 0x9e6, 0xa66, 0xae6, 0xb66, 0xbe6, 0xc66, 0xce6, 0xd66,
   0xde6, 0xe50, 0xed0, 0xf20, 0x1040, 0x1090, 0x17e0, 0x1810, 0x1946, 0x19d0, 0x1a80, 0x1a90,
   0x1b50, 0x1bb0, 0x1c40, 0x1c50, 0xa620, 0xa8d0, 0xa900, 0xa9d0, 0xa9f0, 0xaa50, 0xabf0,
   0xff10, 0x104a0, 0x10d30, 0x11066, 0x110f0, 0x11136, 0x111d0, 0x112f0, 0x11450, 0x114d0,
   0x11650, 0x116c0, 0x11730, 0x118e0, 0x11950, 0x11c50, 0x11d50, 0x11da0, 0x16a60, 0x16ac0,
   0x16b50, 0x1d7ce, 0x1d7d8, 0x1d7e2, 0x1d7ec, 0x1d7f6, 0x1e140, 0x1e2f0, 0x1e950, 0x1fbf0]

/-- The white space around the digits of `int()`. -/
def isIntSpace (c : Char) : Bool :=
  let n := c.toNat
  (9 ≤ n && n ≤ 13) || (0x2000 ≤ n && n ≤ 0x200a) ||
    [0x20, 0x85, 0xa0, 0x1680, 0x2028, 0x2029, 0x202f, 0x205f, 0x3000].contains n

/-- The white space of `str.strip`. -/
def isSpace (c : Char) : Bool := isIntSpace c || (0x1c ≤ c.toNat && c.toNat ≤ 0x1f)

def digitValue (c : Char) : Option Nat :=
  (decimalZeros.find? fun z => z ≤ c.toNat && c.toNat < z + 10).map fun z => c.toNat - z

/-- Digits, with single underscores between them. -/
def readDigits : List Char → Option (List Nat)
  | [] => none
  | [c] => (digitValue c).map fun d => [d]
  | c :: '_' :: rest =>
    match digitValue c, readDigits rest with
    | some d, some ds => some (d :: ds)
    | _, _ => none
  | c :: rest =>
    match digitValue c, readDigits rest with
    | some d, some ds => some (d :: ds)
    | _, _ => none

def pyInt (s : String) : Except PyExc Int :=
  let trimmed := ((s.toList.dropWhile isIntSpace).reverse.dropWhile isIntSpace).reverse
  let (negative, body) := match trimmed with
    | '-' :: body => (true, body)
    | '+' :: body => (false, body)
    | body => (false, body)
  match readDigits body with
  | none => .error ⟨.valueError, "invalid literal for int() with base 10"⟩
  | some ds =>
    if 4300 < ds.length then
      .error ⟨.valueError, "Exceeds the limit (4300 digits) for integer string conversion"⟩
    else
      let n : Nat := ds.foldl (fun acc d => acc * 10 + d) 0
      .ok (if negative then -(n : Int) else n)

example : pyInt " 8_443\n" = .ok 8443 := by decide

-- `"\x1c8443".strip()` is `"8443"`
example : (pyInt "\x1c8443").toOption = none := by decide

/-! ### Integers as floats -/

/-- The first number above the largest float that rounds away from it. -/
@[irreducible] def floatLimit (precision exponent : Nat) : Nat :=
  2 ^ exponent - 2 ^ (exponent - precision - 1)

/-- The value of an integer as a float, or the `OverflowError`. -/
@[irreducible] def floatOf (n : Int) : Except PyExc ℚ :=
  match binary64.round n with
  | .finite q => .ok q
  | .infinite _ => .error ⟨.overflowError, "int too large to convert to float"⟩

/-- An integer that can be converted to a float. -/
def IsFloat (n : Int) : Prop := n.natAbs < floatLimit 53 1024

theorem floatLimit_cast {precision exponent : Nat} (h : precision < exponent) :
    (floatLimit precision exponent : ℚ) =
      2 ^ (exponent : ℤ) - 2 ^ ((exponent : ℤ) - precision - 1) := by
  have hexp : (exponent : ℤ) - precision - 1 = ((exponent - precision - 1 : Nat) : ℤ) := by omega
  have hle : 2 ^ (exponent - precision - 1) ≤ 2 ^ exponent :=
    Nat.pow_le_pow_right (by omega) (by omega)
  rw [hexp, zpow_natCast, zpow_natCast, floatLimit, Nat.cast_sub hle, Nat.cast_pow, Nat.cast_pow,
    Nat.cast_ofNat]

theorem round_of_lt_floatLimit {q : ℚ} (h : |q| < floatLimit 53 1024) :
    binary64.round q = .finite (binary64.nearest q) := by
  rw [floatLimit_cast (by omega)] at h
  exact FloatFormat.round_of_lt h

theorem round_of_floatLimit_le {q : ℚ} (h : floatLimit 53 1024 ≤ |q|) :
    binary64.round q = .infinite (decide (q < 0)) := by
  rw [floatLimit_cast (by omega)] at h
  exact FloatFormat.round_of_le h

theorem abs_cast_eq (n : Int) : |(n : ℚ)| = n.natAbs := by
  rw [Nat.cast_natAbs, Int.cast_abs]

theorem floatOf_eq_ok {n : Int} (h : IsFloat n) : floatOf n = .ok (binary64.nearest n) := by
  have hlt : |(n : ℚ)| < floatLimit 53 1024 := by
    rw [abs_cast_eq]
    exact Nat.cast_lt.mpr h
  unfold floatOf
  rw [round_of_lt_floatLimit hlt]

theorem floatOf_eq_error {n : Int} (h : ¬ IsFloat n) : ∃ e, floatOf n = .error e := by
  have hle : (floatLimit 53 1024 : ℚ) ≤ |(n : ℚ)| := by
    rw [abs_cast_eq]
    exact Nat.cast_le.mpr (not_lt.mp h)
  unfold floatOf
  rw [round_of_floatLimit_le hle]
  exact ⟨_, rfl⟩

theorem lt_floatLimit {k precision exponent : Nat} (hk : k < 2 ^ 64)
    (hexp : precision + 65 ≤ exponent) : k < floatLimit precision exponent := by
  have hsmall : 2 ^ 64 ≤ 2 ^ (exponent - precision - 1) :=
    Nat.pow_le_pow_right (by omega) (by omega)
  have hdouble : 2 ^ (exponent - precision - 1) * 2 ≤ 2 ^ exponent := by
    rw [← Nat.pow_succ]
    exact Nat.pow_le_pow_right (by omega) (by omega)
  unfold floatLimit
  omega

theorem isFloat_of_small {n : Int} (hn : n.natAbs < 2 ^ 64) : IsFloat n :=
  lt_floatLimit hn (by omega)

end QsTie
