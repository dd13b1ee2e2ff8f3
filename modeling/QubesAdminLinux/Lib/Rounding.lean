import Mathlib.Algebra.Order.Floor.Ring
import Mathlib.Data.Rat.Floor
import Mathlib.Tactic.FieldSimp
import Mathlib.Tactic.Linarith
import Mathlib.Tactic.NormNum

/-! # Rounding to nearest, ties to even

Rounding to an integer and to a number of decimals, over any ordered field with a floor.

* **`roundHalfEven`** — the nearest integer, of two equally near ones the even one;
  `roundHalfEven_mono`, `roundHalfEven_neg` and `abs_roundHalfEven_sub_le`.
* **`roundDecimals`** — the nearest multiple of a power of ten; `roundDecimals_mono` and
  `roundDecimals_intCast`. -/

namespace QubesAdminLinux

variable {K : Type*} [Field K] [LinearOrder K] [FloorRing K]

/-- The nearest integer; halfway between two integers the even one. -/
def roundHalfEven (x : K) : ℤ :=
  if 2 * Int.fract x < 1 ∨ (2 * Int.fract x = 1 ∧ ⌊x⌋ % 2 = 0) then ⌊x⌋ else ⌊x⌋ + 1

/-- Rounding takes one of the two integers around. -/
theorem roundHalfEven_eq_or (x : K) : roundHalfEven x = ⌊x⌋ ∨ roundHalfEven x = ⌊x⌋ + 1 := by
  unfold roundHalfEven
  split
  · exact Or.inl rfl
  · exact Or.inr rfl

variable [IsStrictOrderedRing K]

/-- An integer is its own rounding. -/
@[simp] theorem roundHalfEven_intCast (k : ℤ) : roundHalfEven (k : K) = k := by
  rw [roundHalfEven, Int.floor_intCast, Int.fract_intCast, if_pos]
  exact Or.inl (by norm_num)

/-- Rounding keeps the order. -/
theorem roundHalfEven_mono {x y : K} (h : x ≤ y) : roundHalfEven x ≤ roundHalfEven y := by
  have hfloor : ⌊x⌋ ≤ ⌊y⌋ := Int.floor_mono h
  rcases hfloor.lt_or_eq with hlt | heq
  · -- the roundings lie on both sides of an integer
    have hx : roundHalfEven x ≤ ⌊x⌋ + 1 := by
      have := roundHalfEven_eq_or x
      omega
    have hy : ⌊y⌋ ≤ roundHalfEven y := by
      have := roundHalfEven_eq_or y
      omega
    omega
  · -- between the same integers, the fractional parts decide
    have hfract : Int.fract x ≤ Int.fract y := by
      rw [Int.fract, Int.fract, heq]
      exact sub_le_sub_right h _
    unfold roundHalfEven
    rw [heq]
    by_cases hy : 2 * Int.fract y < 1 ∨ (2 * Int.fract y = 1 ∧ ⌊y⌋ % 2 = 0)
    · have hx : 2 * Int.fract x < 1 ∨ (2 * Int.fract x = 1 ∧ ⌊y⌋ % 2 = 0) := by
        rcases hy with hy | ⟨hy, heven⟩
        · exact Or.inl (by linarith)
        · rcases hfract.lt_or_eq with hlt | heq'
          · exact Or.inl (by linarith)
          · exact Or.inr ⟨by linarith, heven⟩
      rw [if_pos hx, if_pos hy]
    · rw [if_neg hy]
      split
      · omega
      · exact le_rfl

/-- The rounding is at most a half away. -/
theorem abs_roundHalfEven_sub_le (x : K) : |(roundHalfEven x : K) - x| ≤ 1 / 2 := by
  have hsum := Int.floor_add_fract x
  have hnonneg := Int.fract_nonneg x
  have hlt := Int.fract_lt_one x
  unfold roundHalfEven
  rw [abs_le]
  split
  · rename_i hdown
    have hfract : 2 * Int.fract x ≤ 1 := hdown.elim le_of_lt fun h => h.1.le
    constructor <;> linarith
  · rename_i hup
    have hfract : 1 ≤ 2 * Int.fract x := not_lt.mp fun h => hup (Or.inl h)
    push_cast
    constructor <;> linarith

/-- What is strictly nearer to an integer than a half is rounded to it. -/
theorem roundHalfEven_of_abs_lt {x : K} {k : ℤ} (h : |x - k| < 1 / 2) : roundHalfEven x = k := by
  have hround := abs_le.mp (abs_roundHalfEven_sub_le x)
  have hnear := abs_lt.mp h
  have hlow : ((k - 1 : ℤ) : K) < roundHalfEven x := by
    push_cast
    linarith
  have hhigh : (roundHalfEven x : K) < ((k + 1 : ℤ) : K) := by
    push_cast
    linarith
  have hlow' := Int.cast_lt.mp hlow
  have hhigh' := Int.cast_lt.mp hhigh
  omega

/-- Halfway above an integer it is the parity that decides. -/
theorem roundHalfEven_add_half (k : ℤ) :
    roundHalfEven ((k : K) + 1 / 2) = if k % 2 = 0 then k else k + 1 := by
  have hfloor : ⌊(k : K) + 1 / 2⌋ = k := by
    rw [Int.floor_intCast_add, Int.floor_eq_zero_iff.mpr ⟨by norm_num, by norm_num⟩, add_zero]
  have hfract : 2 * Int.fract ((k : K) + 1 / 2) = 1 := by
    rw [Int.fract, hfloor]
    ring
  rw [roundHalfEven, hfloor, hfract]
  simp

/-- A number is rounded down by a half exactly if it lies halfway above an even integer. -/
theorem roundHalfEven_eq_sub_half_iff (x : K) :
    (roundHalfEven x : K) = x - 1 / 2 ↔ ∃ k : ℤ, x = (2 * k : ℤ) + 1 / 2 := by
  constructor
  · intro h
    have hx : x = (roundHalfEven x : K) + 1 / 2 := by rw [h, sub_add_cancel]
    have hround := roundHalfEven_add_half (K := K) (roundHalfEven x)
    rw [← hx] at hround
    split at hround
    · rename_i heven
      refine ⟨roundHalfEven x / 2, ?_⟩
      rw [Int.mul_ediv_cancel' (Int.dvd_of_emod_eq_zero heven)]
      exact hx
    · omega
  · rintro ⟨k, rfl⟩
    rw [roundHalfEven_add_half, if_pos (Int.mul_emod_right 2 k), add_sub_cancel_right]

/-- Rounding does not depend on the sign. -/
theorem roundHalfEven_neg (x : K) : roundHalfEven (-x) = -roundHalfEven x := by
  have hround := abs_le.mp (abs_roundHalfEven_sub_le x)
  rcases hround.1.lt_or_eq with hlow | hlow
  · rcases hround.2.lt_or_eq with hhigh | hhigh
    · refine roundHalfEven_of_abs_lt (abs_lt.mpr ?_)
      push_cast
      constructor <;> linarith
    · -- rounded up by a half, to an even integer
      have hx : x = ((roundHalfEven x - 1 : ℤ) : K) + 1 / 2 := by
        push_cast
        linarith
      have hround' := roundHalfEven_add_half (K := K) (roundHalfEven x - 1)
      rw [← hx] at hround'
      have hneg : -x = ((-roundHalfEven x : ℤ) : K) + 1 / 2 := by
        push_cast
        linarith
      rw [hneg, roundHalfEven_add_half, if_pos]
      split at hround' <;> omega
  · -- rounded down by a half, to an even integer
    obtain ⟨k, hk⟩ := (roundHalfEven_eq_sub_half_iff x).mp (by linarith)
    have hround' := roundHalfEven_add_half (K := K) (2 * k)
    rw [if_pos (Int.mul_emod_right 2 k), ← hk] at hround'
    have hneg : -x = ((-(2 * k) - 1 : ℤ) : K) + 1 / 2 := by
      rw [hk]
      push_cast
      ring
    rw [hneg, roundHalfEven_add_half, if_neg (by omega), hround']
    ring

/-- The nearest number with so many decimals. -/
def roundDecimals (digits : ℕ) (x : K) : K :=
  (roundHalfEven (x * 10 ^ digits) : K) / 10 ^ digits

/-- Rounding to decimals keeps the order. -/
theorem roundDecimals_mono (digits : ℕ) {x y : K} (h : x ≤ y) :
    roundDecimals digits x ≤ roundDecimals digits y := by
  have hpow : (0 : K) < 10 ^ digits := by positivity
  have hscaled : x * 10 ^ digits ≤ y * 10 ^ digits := mul_le_mul_of_nonneg_right h hpow.le
  have hround := roundHalfEven_mono hscaled
  unfold roundDecimals
  gcongr

/-- An integer has no decimals to round. -/
@[simp] theorem roundDecimals_intCast (digits : ℕ) (k : ℤ) :
    roundDecimals digits (k : K) = k := by
  have hpow : (10 : K) ^ digits ≠ 0 := by positivity
  have hcast : (k : K) * 10 ^ digits = ((k * 10 ^ digits : ℤ) : K) := by push_cast; ring
  rw [roundDecimals, hcast, roundHalfEven_intCast]
  push_cast
  rw [mul_div_assoc, div_self hpow, mul_one]

end QubesAdminLinux
