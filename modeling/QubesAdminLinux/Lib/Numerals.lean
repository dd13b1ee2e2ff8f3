import Mathlib.Data.Nat.Digits.Defs
import Mathlib.Tactic.Common

/-! # Integer constants

The integer constants of a shell: the start of a constant says whether its digits are hexadecimal, octal
or decimal.  Sums wrap as in the arithmetic of 64-bit integers.

* **`numeral?`** — the number with given digits in a base.
* **`constant?`** — the number of a constant; **`constant?_toString`** for the decimal text of a number.
* **`addConstants`** — the sum of two constants; **`addConstants_of_lt`** without a wrap. -/

namespace QubesAdminLinux

/-- The value of a digit. -/
def digitOf? (c : Char) : Option Nat :=
  if '0'.toNat ≤ c.toNat ∧ c.toNat ≤ '9'.toNat then some (c.toNat - '0'.toNat)
  else if 'a'.toNat ≤ c.toNat ∧ c.toNat ≤ 'f'.toNat then some (c.toNat - 'a'.toNat + 10)
  else if 'A'.toNat ≤ c.toNat ∧ c.toNat ≤ 'F'.toNat then some (c.toNat - 'A'.toNat + 10)
  else none

/-- The number whose digits are those of `n` and the given ones. -/
def numeralFrom? (base : Nat) (n : Nat) : List Char → Option Nat
  | [] => some n
  | c :: digits =>
      match digitOf? c with
      | none => none
      | some d => if d < base then numeralFrom? base (base * n + d) digits else none

/-- The number with given digits, if they are digits of the base. -/
def numeral? (base : Nat) (digits : List Char) : Option Nat :=
  if digits = [] then none else numeralFrom? base 0 digits

/-- The number of a constant. -/
def constant? : List Char → Option Nat
  | '0' :: 'x' :: digits => numeral? 16 digits
  | '0' :: digits => if digits = [] then some 0 else numeral? 8 digits
  | digits => numeral? 10 digits

/-- The sum of two constants. -/
def addConstants (a b : List Char) : Option Int :=
  match constant? a, constant? b with
  | some m, some n => some (Int.bmod (m + n) (2 ^ 64))
  | _, _ => none

example : addConstants "0x0a".toList "16".toList = some 26 := by decide +kernel

/-- A digit below ten. -/
theorem digitOf?_of_isDigit {c : Char} (h : c.isDigit = true) :
    digitOf? c = some (c.toNat - '0'.toNat) ∧ c.toNat - '0'.toNat < 10 := by
  obtain ⟨hlow, hhigh⟩ : '0'.toNat ≤ c.toNat ∧ c.toNat ≤ '9'.toNat := by
    simpa [Char.isDigit, UInt32.le_iff_toNat_le] using h
  refine ⟨if_pos ⟨hlow, hhigh⟩, ?_⟩
  have hzero : '0'.toNat = 48 := rfl
  have hnine : '9'.toNat = 57 := rfl
  omega

/-- Decimal digits. -/
theorem numeralFrom?_of_isDigit {digits : List Char} (h : ∀ c ∈ digits, c.isDigit = true) (n : Nat) :
    numeralFrom? 10 n digits = some (Nat.ofDigitChars 10 digits n) := by
  induction digits generalizing n with
  | nil => simp [numeralFrom?]
  | cons c digits ih =>
      rw [List.forall_mem_cons] at h
      obtain ⟨hdigit, hlt⟩ := digitOf?_of_isDigit h.1
      rw [numeralFrom?, hdigit]
      dsimp only
      rw [if_pos hlt, ih h.2, Nat.ofDigitChars_cons]

/-- Digits of a base are no other characters. -/
theorem notMem_of_numeralFrom? {base n value : Nat} {digits : List Char} {c : Char}
    (h : numeralFrom? base n digits = some value) (hc : digitOf? c = none) : c ∉ digits := by
  induction digits generalizing n with
  | nil => simp
  | cons d digits ih =>
      rw [numeralFrom?] at h
      cases hd : digitOf? d with
      | none =>
          rw [hd] at h
          cases h
      | some v =>
          rw [hd] at h
          dsimp only at h
          split at h
          · rw [List.mem_cons, not_or]
            refine ⟨?_, ih h⟩
            rintro rfl
            rw [hc] at hd
            cases hd
          · cases h

/-- There are only digits in a numeral. -/
theorem notMem_of_numeral? {base value : Nat} {digits : List Char} {c : Char}
    (h : numeral? base digits = some value) (hc : digitOf? c = none) : c ∉ digits := by
  rw [numeral?] at h
  split at h
  · cases h
  · exact notMem_of_numeralFrom? h hc

/-- The decimal text of a number starts with a zero only if the number is zero. -/
theorem toDigits_eq_cons {n : Nat} (h : n ≠ 0) :
    ∃ c digits, Nat.toDigits 10 n = c :: digits ∧ c ≠ '0' := by
  induction n using Nat.strongRecOn with
  | ind n ih =>
      by_cases hlt : n < 10
      · refine ⟨n.digitChar, [], Nat.toDigits_of_lt_base hlt, ?_⟩
        have hdigits : ∀ d < 10, d ≠ 0 → d.digitChar ≠ '0' := by decide
        exact hdigits n hlt h
      · obtain ⟨c, digits, hdigits, hc⟩ := ih (n / 10) (by omega) (by omega)
        refine ⟨c, digits ++ [(n % 10).digitChar], ?_, hc⟩
        rw [Nat.toDigits_of_base_le (by decide) (by omega), hdigits, List.cons_append]

/-- The decimal text of a number is its constant. -/
theorem constant?_toString (n : Nat) : constant? (toString n).toList = some n := by
  have htext : (toString n).toList = Nat.toDigits 10 n := Nat.toList_repr
  rw [htext]
  by_cases hzero : n = 0
  · rw [hzero]
    rfl
  obtain ⟨c, digits, hdigits, hc⟩ := toDigits_eq_cons hzero
  have hdecimal : constant? (c :: digits) = numeral? 10 (c :: digits) := by
    rw [constant?]
    · simp [hc]
    · simp [hc]
  have hall : ∀ d ∈ Nat.toDigits 10 n, d.isDigit = true :=
    fun d hd => Nat.isDigit_of_mem_toDigits (by decide) (by decide) hd
  rw [hdigits, hdecimal, ← hdigits, numeral?, if_neg Nat.toDigits_ne_nil,
    numeralFrom?_of_isDigit hall, Nat.ofDigitChars_ten_toDigits]

/-- A sum in the range of the integers. -/
theorem addConstants_of_lt {a b : List Char} {m n : Nat} (ha : constant? a = some m)
    (hb : constant? b = some n) (h : m + n < 2 ^ 63) : addConstants a b = some ((m + n : Nat) : Int) := by
  rw [addConstants, ha, hb]
  dsimp only
  rw [Int.bmod_eq_of_le (by omega) (by omega)]
  rfl

end QubesAdminLinux
