import QubesAdminLinux.Agent.Progress
import Mathlib.Tactic.Positivity

/-! # The units of displayed sizes

`_format_bytes` divides a size by 1024 until it is below 1024 and goes one unit on with each division.
After the last unit there is one more division, but no further unit.

* **`displayed`** — the number that is printed, before it is rounded, and its unit.
* **`displayedFrom_spec`** — how the divisions and the units go together, up to the end of the units
  and beyond it.
* **`rightUnit_iff`** — number and unit give the size exactly below 1024 PiB. -/

namespace QubesAdminLinux

variable {units : List String} {size : ℚ}

/-- The number and the unit that `_format_bytes` prints, with the units that are left. -/
def displayedFrom : List String → ℚ → ℚ × String
  | [], size => (size, "PiB")
  | unit :: units, size => if size < 1024 then (size, unit) else displayedFrom units (size / 1024)

/-- The units of `_format_bytes`. -/
def sizeUnits : List String := ["B", "KiB", "MiB", "GiB", "TiB", "PiB"]

/-- The number that `_format_bytes` prints, before it is rounded, and its unit. -/
def displayed (size : ℚ) : ℚ × String := displayedFrom sizeUnits size

/-- The value of a unit: 1024 to the power of its position. -/
def unitValue (unit : String) : ℚ := 1024 ^ sizeUnits.idxOf unit

/-- The number times the value of the unit is the size, and the number is below 1024 if the size is
below 1024 PiB. -/
def RightUnit (size : ℚ) : Prop :=
  (displayed size).1 * unitValue (displayed size).2 = size
    ∧ (size < 1024 * unitValue "PiB" → (displayed size).1 < 1024)

/-- A size is written as its displayed value with two decimals, and the unit. -/
theorem formatBytesFrom_eq (units : List String) (size : ℚ) :
    formatBytesFrom units size
      = formatFixed (displayedFrom units size).1 ++ " " ++ (displayedFrom units size).2 := by
  induction units generalizing size with
  | nil =>
      simp only [formatBytesFrom, displayedFrom, String.append_assoc]
      rfl
  | cons unit units ih =>
      by_cases hsize : size < 1024
      · simp [formatBytesFrom, displayedFrom, hsize]
      · simpa [formatBytesFrom, displayedFrom, hsize] using ih (size / 1024)

/-- After `k` divisions, each of a number from 1024 on: either the unit at position `k` is printed with
a number below 1024, or all units are used up and the last one is printed. -/
theorem displayedFrom_spec (units : List String) (size : ℚ) :
    ∃ k, (displayedFrom units size).1 = size / 1024 ^ k ∧ (∀ j < k, 1024 ≤ size / 1024 ^ j)
      ∧ ((units[k]? = some (displayedFrom units size).2 ∧ size / 1024 ^ k < 1024)
        ∨ (k = units.length ∧ (displayedFrom units size).2 = "PiB")) := by
  induction units generalizing size with
  | nil => exact ⟨0, by simp [displayedFrom], by simp, .inr ⟨rfl, rfl⟩⟩
  | cons unit units ih =>
      by_cases hsize : size < 1024
      · refine ⟨0, by simp [displayedFrom, hsize], by simp, .inl ⟨by simp [displayedFrom, hsize], ?_⟩⟩
        simpa using hsize
      · have hrest : displayedFrom (unit :: units) size = displayedFrom units (size / 1024) := by
          simp [displayedFrom, hsize]
        have hshift (j : ℕ) : size / 1024 / 1024 ^ j = size / 1024 ^ (j + 1) := by
          rw [div_div, pow_succ']
        obtain ⟨k, hnumber, hlarge, hunit⟩ := ih (size / 1024)
        rw [hrest]
        refine ⟨k + 1, by rw [hnumber, hshift], ?_, ?_⟩
        · intro j hj
          cases j with
          | zero => simpa using hsize
          | succ j => exact hshift j ▸ hlarge j (by omega)
        · simpa [hshift] using hunit

/-- A unit of the list is worth as many factors as there are units before it. -/
theorem unitValue_of_getElem? {k : ℕ} {unit : String} (hunit : sizeUnits[k]? = some unit) :
    unitValue unit = 1024 ^ k := by
  obtain ⟨hk, rfl⟩ := List.getElem?_eq_some_iff.mp hunit
  have hnodup : sizeUnits.Nodup := by decide
  rw [unitValue, hnodup.idxOf_getElem k hk]

/-- The value of the largest unit. -/
theorem unitValue_pib : unitValue "PiB" = 1024 ^ 5 :=
  unitValue_of_getElem? rfl

/-- Below 1024 PiB the loop returns at a unit of the list. -/
theorem displayed_of_lt (hsize : size < 1024 ^ 6) :
    (displayed size).1 * unitValue (displayed size).2 = size ∧ (displayed size).1 < 1024 := by
  obtain ⟨k, hnumber, hlarge, ⟨hunit, hlt⟩ | ⟨hk, -⟩⟩ := displayedFrom_spec sizeUnits size
  · refine ⟨?_, hnumber ▸ hlt⟩
    rw [displayed, unitValue_of_getElem? hunit, hnumber]
    exact div_mul_cancel₀ size (by positivity)
  · have hlast : (1024 : ℚ) ≤ size / 1024 ^ 5 := hlarge 5 (by simp [hk, sizeUnits])
    rw [le_div_iff₀ (by positivity)] at hlast
    linarith

/-- From 1024 PiB on it runs out of units: the size is divided six times, and the unit is worth five
of the divisions. -/
theorem displayed_of_le (hsize : 1024 ^ 6 ≤ size) :
    displayed size = (size / 1024 ^ 6, "PiB") := by
  obtain ⟨k, hnumber, -, ⟨hunit, hlt⟩ | ⟨hk, hunit⟩⟩ := displayedFrom_spec sizeUnits size
  · obtain ⟨hk, -⟩ := List.getElem?_eq_some_iff.mp hunit
    have hpow : (1024 : ℚ) ^ (k + 1) ≤ 1024 ^ 6 :=
      pow_le_pow_right₀ (by norm_num) hk
    rw [div_lt_iff₀ (by positivity), ← pow_succ'] at hlt
    linarith
  · subst hk
    exact Prod.ext hnumber hunit

/-- What is printed is the rounded number and the unit; they give the size exactly below 1024 PiB. -/
theorem rightUnit_iff (size : ℚ) :
    formatBytes size = formatFixed (displayed size).1 ++ " " ++ (displayed size).2
      ∧ (RightUnit size ↔ size < 1024 ^ 6) := by
  refine ⟨formatBytesFrom_eq sizeUnits size, ?_, ?_⟩
  · intro hright
    by_contra hlarge
    have hvalue := hright.1
    rw [displayed_of_le (not_lt.mp hlarge), unitValue_pib] at hvalue
    have hzero : size = 0 := by
      field_simp at hvalue
      linarith
    norm_num [hzero] at hlarge
  · intro hlt
    obtain ⟨hvalue, hnumber⟩ := displayed_of_lt hlt
    exact ⟨hvalue, fun _ => hnumber⟩

/-- 1024 PiB are printed as one PiB. -/
theorem not_rightUnit :
    formatBytes (1024 ^ 6) = "1.00 PiB" ∧ ¬ ∀ size : ℚ, 0 ≤ size → RightUnit size := by
  refine ⟨by decide +kernel, fun hall => ?_⟩
  have hvalue := (hall (1024 ^ 6) (by positivity)).1
  rw [displayed_of_le le_rfl, unitValue_pib] at hvalue
  norm_num at hvalue

end QubesAdminLinux
