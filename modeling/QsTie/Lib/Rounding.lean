import Mathlib.Data.Int.Log
import Mathlib.Data.Rat.Floor
import Mathlib.Algebra.Order.Round
import Mathlib.Tactic.Linarith
import Mathlib.Tactic.Positivity
import Mathlib.Tactic.Ring

/-!
# Rounding to a floating-point format

A format has a precision, the exponent of its smallest unit, and a bound for what is
finite.  A rational is rounded to the nearest number of the format, and to the even
one of two that are equally near; what reaches the bound becomes infinite.

A number of the format is rounded to itself (`nearest_mul_zpow`).  Every other number
is rounded by at most half a unit, that is by a share `2 ^ -precision` of its size
unless it is subnormal (`abs_nearest_sub_le`).  It becomes infinite exactly from half
a unit below the bound on (`abs_nearest_lt_iff`).  Shares of the size add up over
several steps of a computation (`Within`).
-/

namespace QsTie.Lib

/-! ### Integers -/

/-- The nearest integer, and the even one of two. -/
def roundEven (q : ℚ) : ℤ :=
  if q - ⌊q⌋ < 1 / 2 ∨ q - ⌊q⌋ = 1 / 2 ∧ Even ⌊q⌋ then ⌊q⌋ else ⌊q⌋ + 1

theorem roundEven_intCast (n : ℤ) : roundEven n = n := by
  simp [roundEven]

theorem abs_roundEven_sub_le (q : ℚ) : |(roundEven q : ℚ) - q| ≤ 1 / 2 := by
  have hfloor := Int.floor_le q
  have hlt := Int.lt_floor_add_one q
  unfold roundEven
  split
  · rename_i h
    rw [abs_le]
    rcases h with h | ⟨h, -⟩ <;> constructor <;> linarith
  · rename_i h
    rw [not_or, not_lt] at h
    push_cast
    rw [abs_le]
    constructor <;> linarith [h.1]

/-- Integers bound what is rounded. -/
theorem le_roundEven {n : ℤ} {q : ℚ} (h : (n : ℚ) ≤ q) : n ≤ roundEven q := by
  have hfloor : n ≤ ⌊q⌋ := Int.le_floor.mpr h
  unfold roundEven
  split <;> omega

/-- An even integer is reached from half a unit below it on. -/
theorem roundEven_lt_iff {n : ℤ} (hn : Even n) {q : ℚ} :
    roundEven q < n ↔ q < n - 1 / 2 := by
  constructor
  · intro h
    by_contra hge
    rw [not_lt] at hge
    rcases lt_or_ge q n with hlt | hle
    · -- the integer below is odd, and no nearer
      have hfloor : ⌊q⌋ = n - 1 := by
        rw [Int.floor_eq_iff]
        push_cast
        constructor <;> linarith
      have hodd : ¬ Even ⌊q⌋ := by
        rw [hfloor, Int.even_sub_one]
        exact fun hnot => hnot hn
      have hup : roundEven q = n := by
        unfold roundEven
        rw [if_neg, hfloor]
        · omega
        · rw [hfloor] at hodd ⊢
          push_cast
          rintro (hlow | ⟨-, heven⟩)
          · linarith
          · exact hodd heven
      omega
    · exact absurd (le_roundEven hle) (not_le.mpr h)
  · intro h
    have hle := abs_roundEven_sub_le q
    rw [abs_le] at hle
    have hlt : (roundEven q : ℚ) < n := by linarith [hle.2]
    exact_mod_cast hlt

/-! ### Formats -/

structure FloatFormat where
  precision : ℕ
  /-- The exponent of the smallest unit. -/
  minExp : ℤ
  /-- What is finite is below `2 ^ maxExp`. -/
  maxExp : ℤ
  positive : 0 < precision
  room : minExp + precision ≤ maxExp

/-- IEEE 754 double precision. -/
def binary64 : FloatFormat where
  precision := 53
  minExp := -1074
  maxExp := 1024
  positive := by decide
  room := by decide

/-- A finite number, or an infinity with its sign. -/
inductive Rounded where
  | finite (q : ℚ)
  | infinite (negative : Bool)
deriving DecidableEq

namespace FloatFormat

variable (fmt : FloatFormat)

/-- The exponent of the unit of a positive number. -/
def unitExp (q : ℚ) : ℤ := max (Int.log 2 q + 1 - fmt.precision) fmt.minExp

/-- The nearest multiple of its unit to a number that is not negative. -/
def nearestMagnitude (q : ℚ) : ℚ := roundEven (q / 2 ^ fmt.unitExp q) * 2 ^ fmt.unitExp q

def nearest (q : ℚ) : ℚ := if 0 ≤ q then fmt.nearestMagnitude q else -fmt.nearestMagnitude (-q)

def round (q : ℚ) : Rounded :=
  if |fmt.nearest q| < 2 ^ fmt.maxExp then .finite (fmt.nearest q) else .infinite (decide (q < 0))

variable {fmt} {q : ℚ}

theorem unit_pos (e : ℤ) : (0 : ℚ) < 2 ^ e := zpow_pos (by norm_num) e

theorem nearestMagnitude_nonneg (hq : 0 ≤ q) : 0 ≤ fmt.nearestMagnitude q := by
  have hscaled : ((0 : ℤ) : ℚ) ≤ q / 2 ^ fmt.unitExp q := by
    push_cast
    exact div_nonneg hq (unit_pos _).le
  have hround : (0 : ℚ) ≤ roundEven (q / 2 ^ fmt.unitExp q) := by
    exact_mod_cast le_roundEven hscaled
  exact mul_nonneg hround (unit_pos _).le

/-- The size is rounded as such. -/
theorem abs_nearest (q : ℚ) : |fmt.nearest q| = fmt.nearestMagnitude |q| := by
  unfold nearest
  split
  · rename_i hq
    rw [abs_of_nonneg hq, abs_of_nonneg (nearestMagnitude_nonneg hq)]
  · rename_i hq
    rw [not_le] at hq
    rw [abs_neg, abs_of_neg hq, abs_of_nonneg (nearestMagnitude_nonneg (by linarith))]

theorem abs_nearest_sub (q : ℚ) :
    |fmt.nearest q - q| = abs (fmt.nearestMagnitude |q| - |q|) := by
  unfold nearest
  split
  · rename_i hq
    rw [abs_of_nonneg hq]
  · rename_i hq
    rw [not_le] at hq
    rw [abs_of_neg hq, ← abs_neg]
    congr 1
    ring

@[simp] theorem nearest_zero : fmt.nearest 0 = 0 := by
  have hzero := @roundEven_intCast 0
  rw [Int.cast_zero] at hzero
  simp [nearest, nearestMagnitude, hzero]

/-- Half a unit is the most a number is rounded by. -/
theorem abs_nearestMagnitude_sub_le (q : ℚ) :
    |fmt.nearestMagnitude q - q| ≤ 2 ^ fmt.unitExp q / 2 := by
  have hunit := unit_pos (fmt.unitExp q)
  have hround := abs_roundEven_sub_le (q / 2 ^ fmt.unitExp q)
  have hsplit : fmt.nearestMagnitude q - q =
      (roundEven (q / 2 ^ fmt.unitExp q) - q / 2 ^ fmt.unitExp q) * 2 ^ fmt.unitExp q := by
    rw [nearestMagnitude, sub_mul, div_mul_cancel₀ _ hunit.ne']
  rw [hsplit, abs_mul, abs_of_pos hunit]
  calc |(roundEven (q / 2 ^ fmt.unitExp q) : ℚ) - q / 2 ^ fmt.unitExp q| * 2 ^ fmt.unitExp q
      ≤ 1 / 2 * 2 ^ fmt.unitExp q := mul_le_mul_of_nonneg_right hround hunit.le
    _ = 2 ^ fmt.unitExp q / 2 := by ring

/-- The unit of a number that is not subnormal is a share of its size. -/
theorem unit_le (hq : (2 : ℚ) ^ (fmt.minExp + fmt.precision - 1) ≤ q) :
    (2 : ℚ) ^ fmt.unitExp q ≤ 2 ^ (1 - fmt.precision : ℤ) * q := by
  have hpos : 0 < q := (unit_pos _).trans_le hq
  have hlog := Int.zpow_log_le_self (R := ℚ) one_lt_two hpos
  have hmin : fmt.minExp + fmt.precision - 1 ≤ Int.log 2 q :=
    (Int.zpow_le_iff_le_log one_lt_two hpos).mp (by exact_mod_cast hq)
  have hexp : fmt.unitExp q = (1 - fmt.precision : ℤ) + Int.log 2 q := by
    unfold unitExp
    omega
  rw [hexp, zpow_add₀ two_ne_zero]
  exact mul_le_mul_of_nonneg_left (by exact_mod_cast hlog) (unit_pos _).le

/-- **A number is rounded by a share of its size**, unless it is subnormal. -/
theorem abs_nearest_sub_le (hq : q = 0 ∨ (2 : ℚ) ^ (fmt.minExp + fmt.precision - 1) ≤ |q|) :
    |fmt.nearest q - q| ≤ 2 ^ (-fmt.precision : ℤ) * |q| := by
  rcases hq with rfl | hq
  · simp
  · rw [abs_nearest_sub]
    calc abs (fmt.nearestMagnitude |q| - |q|) ≤ 2 ^ fmt.unitExp |q| / 2 :=
          abs_nearestMagnitude_sub_le |q|
      _ ≤ 2 ^ (1 - fmt.precision : ℤ) * |q| / 2 := by linarith [unit_le hq]
      _ = 2 ^ (-fmt.precision : ℤ) * |q| := by
        rw [sub_eq_add_neg, zpow_add₀ two_ne_zero, zpow_one]
        ring

/-! ### What is exact, and what is finite -/

theorem nearestMagnitude_of_dvd {m : ℤ} {e : ℤ} (he : fmt.unitExp (m * 2 ^ e) ≤ e) :
    fmt.nearestMagnitude (m * 2 ^ e) = m * 2 ^ e := by
  unfold nearestMagnitude
  obtain ⟨k, hk⟩ : ∃ k : ℕ, e = fmt.unitExp (m * 2 ^ e) + k :=
    ⟨(e - fmt.unitExp (m * 2 ^ e)).toNat, by omega⟩
  generalize fmt.unitExp (m * 2 ^ e) = u at hk
  subst hk
  have hscaled : (m : ℚ) * 2 ^ (u + k) / 2 ^ u = ((m * 2 ^ k : ℤ) : ℚ) := by
    rw [zpow_add₀ two_ne_zero, zpow_natCast, mul_div_assoc, mul_div_cancel_left₀ _ (unit_pos u).ne']
    push_cast
    rfl
  rw [hscaled, roundEven_intCast, zpow_add₀ two_ne_zero, zpow_natCast]
  push_cast
  ring

theorem unitExp_mul_zpow_le {n e : ℤ} (hn : 0 < n) (hlt : n < 2 ^ fmt.precision)
    (he : fmt.minExp ≤ e) : fmt.unitExp (n * 2 ^ e) ≤ e := by
  have hpos : (0 : ℚ) < n * 2 ^ e := mul_pos (by exact_mod_cast hn) (unit_pos e)
  have hsize : (n : ℚ) * 2 ^ e < ((2 : ℕ) : ℚ) ^ ((fmt.precision : ℤ) + e) := by
    push_cast
    rw [zpow_add₀ two_ne_zero, zpow_natCast]
    exact mul_lt_mul_of_pos_right (by exact_mod_cast hlt) (unit_pos e)
  have hlog := (Int.lt_zpow_iff_log_lt one_lt_two hpos).mp hsize
  unfold unitExp
  omega

/-- **A number of the format is rounded to itself.** -/
theorem nearest_mul_zpow {m e : ℤ} (hm : |m| < 2 ^ fmt.precision) (he : fmt.minExp ≤ e) :
    fmt.nearest (m * 2 ^ e) = m * 2 ^ e := by
  rw [abs_lt] at hm
  rcases lt_trichotomy m 0 with hneg | rfl | hpos
  · have hexp := unitExp_mul_zpow_le (n := -m) (by omega) (by omega) he
    have hnot : ¬ (0 : ℚ) ≤ m * 2 ^ e :=
      not_le.mpr (mul_neg_of_neg_of_pos (by exact_mod_cast hneg) (unit_pos e))
    rw [nearest, if_neg hnot, ← neg_mul, ← Int.cast_neg, nearestMagnitude_of_dvd hexp]
    push_cast
    ring
  · simp
  · have hexp := unitExp_mul_zpow_le hpos hm.2 he
    have hnonneg : (0 : ℚ) ≤ m * 2 ^ e :=
      mul_nonneg (by exact_mod_cast hpos.le) (unit_pos e).le
    rw [nearest, if_pos hnonneg, nearestMagnitude_of_dvd hexp]

/-- Just below the bound the unit is the largest there is. -/
theorem unitExp_of_top {L : ℤ} (hlog : Int.log 2 q = L) (hL : fmt.maxExp ≤ L + 1) :
    fmt.unitExp q = L + 1 - fmt.precision := by
  have hroom := fmt.room
  unfold unitExp
  omega

theorem top_le_nearestMagnitude
    (hq : (2 : ℚ) ^ fmt.maxExp - 2 ^ (fmt.maxExp - fmt.precision - 1) ≤ q) :
    2 ^ fmt.maxExp ≤ fmt.nearestMagnitude q := by
  have hpositive := fmt.positive
  have hhalf : (2 : ℚ) ^ (fmt.maxExp - fmt.precision - 1) ≤ 2 ^ (fmt.maxExp - 1) :=
    zpow_le_zpow_right₀ one_le_two (by omega)
  have hdouble : (2 : ℚ) ^ fmt.maxExp = 2 * 2 ^ (fmt.maxExp - 1) := by
    rw [← zpow_one_add₀ two_ne_zero]
    congr 1
    ring
  have hbinade : ((2 : ℕ) : ℚ) ^ (fmt.maxExp - 1) ≤ q := by
    push_cast
    linarith
  have hpos : 0 < q := lt_of_lt_of_le (zpow_pos (by norm_num) _) hbinade
  have hlog := (Int.zpow_le_iff_le_log one_lt_two hpos).mp hbinade
  have hunit := @unitExp_of_top fmt q _ rfl (by omega)
  -- a bound for the scaled number is one for the rounded number
  have hbound : ∀ (k : ℕ) (e : ℤ), e = k + fmt.unitExp q → fmt.maxExp ≤ e →
      (2 : ℤ) ^ k ≤ roundEven (q / 2 ^ fmt.unitExp q) →
      2 ^ fmt.maxExp ≤ fmt.nearestMagnitude q := by
    rintro k e rfl hle hround
    have hcast : (2 : ℚ) ^ k ≤ roundEven (q / 2 ^ fmt.unitExp q) := by exact_mod_cast hround
    calc (2 : ℚ) ^ fmt.maxExp ≤ 2 ^ ((k : ℤ) + fmt.unitExp q) :=
          zpow_le_zpow_right₀ one_le_two hle
      _ = 2 ^ k * 2 ^ fmt.unitExp q := by rw [zpow_add₀ two_ne_zero, zpow_natCast]
      _ ≤ fmt.nearestMagnitude q := mul_le_mul_of_nonneg_right hcast (unit_pos _).le
  rcases hlog.lt_or_eq with hlt | heq
  · apply hbound (fmt.precision - 1) (Int.log 2 q) (by omega) (by omega)
    apply le_roundEven
    rw [le_div_iff₀ (unit_pos _)]
    push_cast
    rw [← zpow_natCast, ← zpow_add₀ two_ne_zero]
    have hself := Int.zpow_log_le_self (R := ℚ) one_lt_two hpos
    have hexp : ((fmt.precision - 1 : ℕ) : ℤ) + fmt.unitExp q = Int.log 2 q := by omega
    rw [hexp]
    exact_mod_cast hself
  · have hexp : fmt.unitExp q = fmt.maxExp - fmt.precision := by omega
    apply hbound fmt.precision fmt.maxExp (by omega) le_rfl
    have heven : Even ((2 : ℤ) ^ fmt.precision) := (Int.even_pow.mpr ⟨even_two, hpositive.ne'⟩)
    rw [← not_lt, roundEven_lt_iff heven, not_lt, hexp, le_div_iff₀ (unit_pos _), sub_mul]
    push_cast
    have hwhole : (2 : ℚ) ^ fmt.precision * 2 ^ (fmt.maxExp - fmt.precision) = 2 ^ fmt.maxExp := by
      rw [← zpow_natCast, ← zpow_add₀ two_ne_zero]
      congr 1
      ring
    have hunitHalf : 1 / 2 * (2 : ℚ) ^ (fmt.maxExp - fmt.precision) =
        2 ^ (fmt.maxExp - fmt.precision - 1) := by
      rw [zpow_sub_one₀ two_ne_zero]
      ring
    rw [hwhole, hunitHalf]
    exact hq

theorem nearestMagnitude_lt_top (hnonneg : 0 ≤ q)
    (hq : q < (2 : ℚ) ^ fmt.maxExp - 2 ^ (fmt.maxExp - fmt.precision - 1)) :
    fmt.nearestMagnitude q < 2 ^ fmt.maxExp := by
  have hpositive := fmt.positive
  have hroom := fmt.room
  rcases hnonneg.eq_or_lt with rfl | hpos
  · have hzero : fmt.nearestMagnitude 0 = 0 := by
      have h := @nearest_zero fmt
      rwa [nearest, if_pos le_rfl] at h
    rw [hzero]
    exact unit_pos _
  · have hbelow : q < ((2 : ℕ) : ℚ) ^ fmt.maxExp := by
      push_cast
      linarith [unit_pos (fmt.maxExp - fmt.precision - 1)]
    have hlog := (Int.lt_zpow_iff_log_lt one_lt_two hpos).mp hbelow
    have hle : fmt.unitExp q ≤ fmt.maxExp - fmt.precision := by
      unfold unitExp
      omega
    rcases hle.lt_or_eq with hlt | hexp
    · -- half of a smaller unit does not reach the bound
      have hround := @abs_nearestMagnitude_sub_le fmt q
      rw [abs_le] at hround
      have hsmall : (2 : ℚ) ^ fmt.unitExp q ≤ 2 ^ (fmt.maxExp - fmt.precision - 1) :=
        zpow_le_zpow_right₀ one_le_two (by omega)
      linarith [hround.2, unit_pos (fmt.maxExp - fmt.precision - 1)]
    · have heven : Even ((2 : ℤ) ^ fmt.precision) :=
        Int.even_pow.mpr ⟨even_two, hpositive.ne'⟩
      have hwhole : (2 : ℚ) ^ fmt.precision * 2 ^ fmt.unitExp q = 2 ^ fmt.maxExp := by
        rw [← zpow_natCast, ← zpow_add₀ two_ne_zero, hexp]
        congr 1
        ring
      have hscaled : q / 2 ^ fmt.unitExp q < ((2 ^ fmt.precision : ℤ) : ℚ) - 1 / 2 := by
        rw [div_lt_iff₀ (unit_pos _), sub_mul]
        push_cast
        rw [hwhole]
        have hunitHalf : 1 / 2 * (2 : ℚ) ^ fmt.unitExp q =
            2 ^ (fmt.maxExp - fmt.precision - 1) := by
          rw [hexp, zpow_sub_one₀ two_ne_zero]
          ring
        rw [hunitHalf]
        exact hq
      have hround : (roundEven (q / 2 ^ fmt.unitExp q) : ℚ) < 2 ^ fmt.precision := by
        exact_mod_cast (roundEven_lt_iff heven).mpr hscaled
      rw [← hwhole]
      exact mul_lt_mul_of_pos_right hround (unit_pos _)

/-- **A number becomes infinite from half a unit below the bound on.** -/
theorem abs_nearest_lt_iff :
    |fmt.nearest q| < 2 ^ fmt.maxExp ↔
      |q| < 2 ^ fmt.maxExp - 2 ^ (fmt.maxExp - fmt.precision - 1) := by
  rw [abs_nearest]
  constructor
  · intro h
    by_contra hge
    exact absurd (top_le_nearestMagnitude (not_lt.mp hge)) (not_le.mpr h)
  · exact nearestMagnitude_lt_top (abs_nonneg q)

theorem round_of_lt (h : |q| < 2 ^ fmt.maxExp - 2 ^ (fmt.maxExp - fmt.precision - 1)) :
    fmt.round q = .finite (fmt.nearest q) := by
  unfold round
  exact if_pos (abs_nearest_lt_iff.mpr h)

theorem round_of_le (h : 2 ^ fmt.maxExp - 2 ^ (fmt.maxExp - fmt.precision - 1) ≤ |q|) :
    fmt.round q = .infinite (decide (q < 0)) := by
  unfold round
  exact if_neg fun hlt => absurd (abs_nearest_lt_iff.mp hlt) (not_lt.mpr h)

end FloatFormat

/-! ### Errors that add up -/

/-- The second number is the first up to a share `δ` of its size. -/
def Within (δ q r : ℚ) : Prop := |r - q| ≤ δ * |q|

namespace Within

variable {δ ε q r s : ℚ}

theorem mono (h : Within δ q r) (hle : δ ≤ ε) : Within ε q r :=
  le_trans h (mul_le_mul_of_nonneg_right hle (abs_nonneg q))

theorem abs_le (h : Within δ q r) : |r| ≤ (1 + δ) * |q| := by
  have htriangle := abs_sub_abs_le_abs_sub r q
  unfold Within at h
  linarith

theorem le_abs (h : Within δ q r) : (1 - δ) * |q| ≤ |r| := by
  have htriangle := abs_sub_abs_le_abs_sub q r
  rw [abs_sub_comm] at htriangle
  unfold Within at h
  linarith

theorem trans (h : Within δ q r) (h' : Within ε r s) (hε : 0 ≤ ε) :
    Within (δ + ε + δ * ε) q s := by
  have hstep : ε * |r| ≤ ε * ((1 + δ) * |q|) := mul_le_mul_of_nonneg_left h.abs_le hε
  calc |s - q| ≤ |s - r| + |r - q| := abs_sub_le s r q
    _ ≤ ε * ((1 + δ) * |q|) + δ * |q| := add_le_add (le_trans h' hstep) h
    _ = (δ + ε + δ * ε) * |q| := by ring

theorem div (h : Within δ q r) (s : ℚ) : Within δ (q / s) (r / s) := by
  unfold Within at h ⊢
  rw [← sub_div, abs_div, abs_div, ← mul_div_assoc]
  exact div_le_div_of_nonneg_right h (abs_nonneg s)

/-- Numbers of one sign cancel nothing. -/
theorem add {q' r' : ℚ} (h : Within δ q r) (h' : Within δ q' r') (hq : 0 ≤ q) (hq' : 0 ≤ q') :
    Within δ (q + q') (r + r') := by
  unfold Within at h h' ⊢
  rw [abs_of_nonneg hq] at h
  rw [abs_of_nonneg hq'] at h'
  rw [abs_of_nonneg (add_nonneg hq hq'), mul_add]
  calc |r + r' - (q + q')| = |(r - q) + (r' - q')| := by ring_nf
    _ ≤ |r - q| + |r' - q'| := abs_add_le _ _
    _ ≤ δ * q + δ * q' := add_le_add h h'

end Within

theorem FloatFormat.within_nearest {fmt : FloatFormat} {q : ℚ}
    (hq : q = 0 ∨ (2 : ℚ) ^ (fmt.minExp + fmt.precision - 1) ≤ |q|) :
    Within (2 ^ (-fmt.precision : ℤ)) q (fmt.nearest q) := abs_nearest_sub_le hq

end QsTie.Lib
