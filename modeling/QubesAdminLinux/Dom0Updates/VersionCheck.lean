import Mathlib.Algebra.Order.Field.Basic
import Mathlib.Algebra.Order.Ring.Rat
import Mathlib.Data.List.TakeWhile
import QubesAdminLinux.Agent.Requirements
import QubesAdminLinux.Dom0Updates.Dom0Update

/-! # The version of the agent in the UpdateVM

The script lets `awk` compare the version of the agent with the one that reports progress.  `awk` compares
two decimal numbers as numbers, and everything else as texts.

* **`awkLess`** — this comparison.
* **`ComparedAlike`** — where it is that of the versions: fractions that are ordered as the numbers they
  spell, or components that are ordered as texts as they are as numbers.
* **`versionCheck_iff`** — so `OLD_VERSION` is set for the right agents if and only if this holds. -/

namespace QubesAdminLinux

namespace Dom0Update

/-! ## Comparing with `awk` -/

/-- The number with the digits `c` before the point and the digits `f` behind it. -/
def decimal (c f : List Char) : ℚ := numberFrom 0 (c ++ f) / 10 ^ f.length

/-- Some decimal digits. -/
def areDigits (digits : List Char) : Bool := digits ≠ [] && digits.all fun c => '0' ≤ c && c ≤ '9'

/-- The value of an argument that looks like a decimal number; a sign, an exponent or blanks are not in
any version. -/
def awkNumber? (text : String) : Option ℚ :=
  match text.toList.splitOn '.' with
  | [c] => if areDigits c then some (decimal c []) else none
  | [c, f] => if areDigits (c ++ f) then some (decimal c f) else none
  | _ => none

/-- `ARGV[1] < ARGV[2]`. -/
def awkLess (a b : String) : Bool :=
  match awkNumber? a, awkNumber? b with
  | some x, some y => x < y
  | _, _ => a < b

/-- Dotted decimal components. -/
def IsDotted (text : String) : Prop := IsVersion text ∧ '-' ∉ text.toList

instance (text : String) : Decidable (IsDotted text) := inferInstanceAs (Decidable (_ ∧ _))

/-- The components of a dotted version are what is between its dots, and it has no release. -/
theorem components_eq {text : String} (h : IsDotted text) :
    components text = text.toList.splitOn '.' ∧ release text = [] := by
  have hno : ∀ c ∈ text.toList, (decide (c ≠ '-')) = true := by
    intro c hc
    rw [decide_eq_true_iff]
    rintro rfl
    exact h.2 hc
  constructor
  · rw [components, versionChars, List.takeWhile_eq_self_iff.mpr hno]
  · rw [release, List.dropWhile_eq_nil_iff.mpr hno]

/-! ## Fractions -/

/-- The digits read before count as many times ten as digits follow. -/
theorem numberFrom_eq (m : ℕ) (digits : List Char) :
    numberFrom m digits = m * 10 ^ digits.length + numberFrom 0 digits := by
  induction digits generalizing m with
  | nil => simp
  | cons c rest ih =>
      rw [numberFrom_cons, numberFrom_cons, ih, ih (10 * 0 + digitValue c), List.length_cons, pow_succ]
      ring

/-- A number whose digits come in two parts. -/
theorem numberFrom_append (c f : List Char) :
    numberFrom 0 (c ++ f) = numberFrom 0 c * 10 ^ f.length + numberFrom 0 f := by
  rw [← numberFrom_eq, numberFrom, List.foldl_append]
  rfl

/-- A number is smaller than the power of ten with as many digits. -/
theorem numberFrom_lt {digits : List Char} (h : ∀ c ∈ digits, '0' ≤ c ∧ c ≤ '9') :
    numberFrom 0 digits < 10 ^ digits.length := by
  induction digits with
  | nil => simp
  | cons c rest ih =>
      rw [List.forall_mem_cons] at h
      have hc := (digit_lt_iff h.1 h.1).2.2.1
      have hrest := ih h.2
      rw [numberFrom_cons, numberFrom_eq, List.length_cons, pow_succ]
      have hle : (10 * 0 + digitValue c) * 10 ^ rest.length ≤ 9 * 10 ^ rest.length :=
        Nat.mul_le_mul_right _ (by omega)
      omega

/-- Decimal numbers are compared by what is before the point, and then by their fractions. -/
theorem decimal_lt_iff {c d f g : List Char} (hf : ∀ x ∈ f, '0' ≤ x ∧ x ≤ '9')
    (hg : ∀ x ∈ g, '0' ≤ x ∧ x ≤ '9') :
    decimal c f < decimal d g ↔ numberFrom 0 c < numberFrom 0 d ∨ (numberFrom 0 c = numberFrom 0 d ∧
      numberFrom 0 f * 10 ^ g.length < numberFrom 0 g * 10 ^ f.length) := by
  have hF := numberFrom_lt hf
  have hG := numberFrom_lt hg
  have hX : (0 : ℚ) < 10 ^ f.length := by positivity
  have hY : (0 : ℚ) < 10 ^ g.length := by positivity
  rw [decimal, decimal, div_lt_div_iff₀ hX hY, numberFrom_append, numberFrom_append]
  have hcast : ((numberFrom 0 c * 10 ^ f.length + numberFrom 0 f : ℕ) : ℚ) * 10 ^ g.length
        < ((numberFrom 0 d * 10 ^ g.length + numberFrom 0 g : ℕ) : ℚ) * 10 ^ f.length
      ↔ (numberFrom 0 c * 10 ^ f.length + numberFrom 0 f) * 10 ^ g.length
        < (numberFrom 0 d * 10 ^ g.length + numberFrom 0 g) * 10 ^ f.length := by
    exact_mod_cast Iff.rfl
  rw [hcast]
  generalize numberFrom 0 c = C at *
  generalize numberFrom 0 d = D at *
  generalize numberFrom 0 f = F at *
  generalize numberFrom 0 g = G at *
  generalize 10 ^ f.length = X at *
  generalize 10 ^ g.length = Y at *
  have hleft : (C * X + F) * Y = C * (X * Y) + F * Y := by ring
  have hright : (D * Y + G) * X = D * (X * Y) + G * X := by ring
  have hFY : F * Y < X * Y := Nat.mul_lt_mul_of_pos_right hF (by omega)
  have hGX : G * X < X * Y := by
    rw [Nat.mul_comm X Y]
    exact Nat.mul_lt_mul_of_pos_right hG (by omega)
  rw [hleft, hright]
  rcases lt_trichotomy C D with hlt | rfl | hgt
  · have hstep : (C + 1) * (X * Y) ≤ D * (X * Y) := Nat.mul_le_mul_right _ hlt
    rw [Nat.add_mul, Nat.one_mul] at hstep
    exact iff_of_true (by omega) (Or.inl hlt)
  · simp
  · have hstep : (D + 1) * (X * Y) ≤ C * (X * Y) := Nat.mul_le_mul_right _ hgt
    rw [Nat.add_mul, Nat.one_mul] at hstep
    exact iff_of_false (by omega) (by omega)

/-! ## Where the orders agree -/

/-- The first components that are written differently are ordered as texts as they are as numbers, or,
if they are the same number, as what is behind them. -/
def OrderedAlike : List (List Char) → List (List Char) → Prop
  | c :: cs, d :: ds =>
      if c = d then OrderedAlike cs ds
      else (c < d ↔ numberFrom 0 c < numberFrom 0 d ∨ (numberFrom 0 c = numberFrom 0 d ∧
        cs.map (numberFrom 0) < ds.map (numberFrom 0)))
  | _, _ => True

/-- Two fractions are ordered as the numbers that they spell: the shorter one, with zeros behind it, is
not on the other side. -/
def FractionsAlike (f g : List Char) : Prop :=
  numberFrom 0 f < numberFrom 0 g ↔
    numberFrom 0 f * 10 ^ g.length < numberFrom 0 g * 10 ^ f.length

/-- The condition on two versions, given by their components. -/
def ComparedAlike : List (List Char) → List (List Char) → Prop
  -- the fraction of a number with the same integer part is not zero
  | [c], [d, g] => numberFrom 0 c ≠ numberFrom 0 d ∨ numberFrom 0 g ≠ 0
  | [c, f], [d, g] => numberFrom 0 c ≠ numberFrom 0 d ∨ FractionsAlike f g
  | [_], [_] => True
  | [_, _], [_] => True
  -- three components or more are no number
  | cs, ds => OrderedAlike cs ds

/-- As lists of texts, components are ordered as their numbers exactly under this condition. -/
theorem orderedAlike_iff (cs ds : List (List Char)) :
    (cs < ds ↔ cs.map (numberFrom 0) < ds.map (numberFrom 0)) ↔ OrderedAlike cs ds := by
  induction cs generalizing ds with
  | nil =>
      cases ds with
      | nil => simp [OrderedAlike]
      | cons d ds => simp [OrderedAlike]
  | cons c cs ih =>
      cases ds with
      | nil => simp [OrderedAlike]
      | cons d ds =>
          rw [List.map_cons, List.map_cons, List.cons_lt_cons_iff, List.cons_lt_cons_iff, OrderedAlike]
          by_cases hcd : c = d
          · subst hcd
            rw [if_pos rfl, ← ih]
            simp
          · rw [if_neg hcd]
            simp [hcd]

/-- The components of a dotted version are numbers. -/
theorem areDigits_of_component {text : String} (h : IsDotted text) {c : List Char}
    (hc : c ∈ components text) : areDigits c = true := by
  obtain ⟨hne, hdigits⟩ := h.1 c hc
  rw [areDigits, Bool.and_eq_true, decide_eq_true_iff, List.all_eq_true]
  refine ⟨hne, fun x hx => ?_⟩
  rw [Bool.and_eq_true, decide_eq_true_iff, decide_eq_true_iff]
  exact hdigits x hx

/-- A dotted version with one component. -/
theorem awkNumber?_one {text : String} (h : IsDotted text) {c : List Char}
    (hc : components text = [c]) : awkNumber? text = some (decimal c []) := by
  have hdigits := areDigits_of_component h (hc ▸ List.mem_singleton_self c)
  rw [awkNumber?, ← (components_eq h).1, hc]
  dsimp only
  rw [if_pos hdigits]

/-- A dotted version with two components. -/
theorem awkNumber?_two {text : String} (h : IsDotted text) {c f : List Char}
    (hcf : components text = [c, f]) : awkNumber? text = some (decimal c f) := by
  have hc := areDigits_of_component h (hcf ▸ List.mem_cons_self)
  have hf := areDigits_of_component h (hcf ▸ List.mem_cons_of_mem c List.mem_cons_self)
  have hdigits : areDigits (c ++ f) = true := by
    rw [areDigits, Bool.and_eq_true, decide_eq_true_iff] at hc hf ⊢
    rw [List.all_append, hc.2, hf.2]
    exact ⟨List.append_ne_nil_of_left_ne_nil hc.1 f, rfl⟩
  rw [awkNumber?, ← (components_eq h).1, hcf]
  dsimp only
  rw [if_pos hdigits]

/-- A dotted version with more components. -/
theorem awkNumber?_more {text : String} (h : IsDotted text) {c d e : List Char}
    {rest : List (List Char)} (hcde : components text = c :: d :: e :: rest) :
    awkNumber? text = none := by
  rw [awkNumber?, ← (components_eq h).1, hcde]

/-- Versions that are not both numbers are compared as their components. -/
theorem awkLess_of_none {a b : String} (ha : IsDotted a) (hb : IsDotted b)
    (hnone : awkNumber? a = none ∨ awkNumber? b = none) :
    awkLess a b = true ↔ components a < components b := by
  have hless : awkLess a b = decide (a < b) := by
    rw [awkLess]
    rcases hnone with hnone | hnone
    · rw [hnone]
    · rw [hnone]
      cases awkNumber? a <;> rfl
  rw [hless, decide_eq_true_iff, text_lt_iff hb.1 ha.1, TextLarger, (components_eq ha).2,
    (components_eq hb).2]
  simp

/-- Two versions that are numbers are compared as these. -/
theorem awkLess_of_some {a b : String} {x y : ℚ} (ha : awkNumber? a = some x)
    (hb : awkNumber? b = some y) : awkLess a b = true ↔ x < y := by
  rw [awkLess, ha, hb, decide_eq_true_iff]

/-- A version has one component, two, or more. -/
theorem components_shape (text : String) : (∃ c, components text = [c]) ∨
    (∃ c f, components text = [c, f]) ∨ ∃ c d e rest, components text = c :: d :: e :: rest := by
  have hne : components text ≠ [] := List.splitOn_ne_nil '.' (versionChars text)
  cases hcomponents : components text with
  | nil => exact absurd hcomponents hne
  | cons c rest =>
      cases rest with
      | nil => exact Or.inl ⟨c, rfl⟩
      | cons d rest =>
          cases rest with
          | nil => exact Or.inr (Or.inl ⟨c, d, rfl⟩)
          | cons e rest => exact Or.inr (Or.inr ⟨c, d, e, rest, rfl⟩)

/-- Three components on one side make the condition one about texts. -/
theorem comparedAlike_more {cs ds : List (List Char)} {c d e : List Char} {rest : List (List Char)}
    (h : cs = c :: d :: e :: rest ∨ ds = c :: d :: e :: rest) :
    ComparedAlike cs ds ↔ OrderedAlike cs ds := by
  rcases h with rfl | rfl
  · unfold ComparedAlike
    exact Iff.rfl
  · cases cs with
    | nil => exact Iff.rfl
    | cons c' cs =>
        cases cs with
        | nil => exact Iff.rfl
        | cons d' cs =>
            cases cs with
            | nil => exact Iff.rfl
            | cons e' cs => exact Iff.rfl

/-- `awk` compares two versions as versions exactly under the condition. -/
theorem awkLess_iff {a b : String} (ha : IsDotted a) (hb : IsDotted b) :
    (awkLess a b = true ↔ numbers a < numbers b) ↔ ComparedAlike (components a) (components b) := by
  have hdigits : ∀ {text : String}, IsDotted text → ∀ c ∈ components text, ∀ x ∈ c, '0' ≤ x ∧ x ≤ '9' :=
    fun h c hc => (h.1 c hc).2
  have hnone : ∀ x ∈ ([] : List Char), '0' ≤ x ∧ x ≤ '9' := by simp
  have htexts : (awkNumber? a = none ∨ awkNumber? b = none) →
      ((awkLess a b = true ↔ numbers a < numbers b) ↔ OrderedAlike (components a) (components b)) := by
    intro hless
    rw [awkLess_of_none ha hb hless, numbers, numbers, orderedAlike_iff]
  rcases components_shape a with ⟨c, hc⟩ | ⟨c, f, hcf⟩ | ⟨c, f, e, rest, hmore⟩
  · rcases components_shape b with ⟨d, hd⟩ | ⟨d, g, hdg⟩ | ⟨d, g, e, rest, hmore⟩
    · -- two integers
      rw [awkLess_of_some (awkNumber?_one ha hc) (awkNumber?_one hb hd), decimal_lt_iff hnone hnone,
        numbers, numbers, hc, hd]
      simp [ComparedAlike, List.cons_lt_cons_iff]
    · -- the second version has a fraction
      have hg := hdigits hb g (hdg ▸ List.mem_cons_of_mem d List.mem_cons_self)
      rw [awkLess_of_some (awkNumber?_one ha hc) (awkNumber?_two hb hdg), decimal_lt_iff hnone hg,
        numbers, numbers, hc, hdg]
      simp only [List.map_cons, List.map_nil, List.cons_lt_cons_iff, ComparedAlike, numberFrom_nil,
        List.length_nil, pow_zero, Nat.zero_mul, Nat.mul_one, List.nil_lt_cons,
        and_true, Nat.pos_iff_ne_zero]
      by_cases hcd : numberFrom 0 c = numberFrom 0 d
      · simp [hcd]
      · simp [hcd]
    · rw [htexts (Or.inr (awkNumber?_more hb hmore)), comparedAlike_more (Or.inr hmore)]
  · have hf := hdigits ha f (hcf ▸ List.mem_cons_of_mem c List.mem_cons_self)
    rcases components_shape b with ⟨d, hd⟩ | ⟨d, g, hdg⟩ | ⟨d, g, e, rest, hmore⟩
    · -- a fraction makes a version larger for both
      rw [awkLess_of_some (awkNumber?_two ha hcf) (awkNumber?_one hb hd), decimal_lt_iff hf hnone,
        numbers, numbers, hcf, hd]
      simp [ComparedAlike, List.cons_lt_cons_iff]
    · have hg := hdigits hb g (hdg ▸ List.mem_cons_of_mem d List.mem_cons_self)
      rw [awkLess_of_some (awkNumber?_two ha hcf) (awkNumber?_two hb hdg), decimal_lt_iff hf hg,
        numbers, numbers, hcf, hdg]
      simp only [List.map_cons, List.map_nil, List.cons_lt_cons_iff, ComparedAlike, FractionsAlike,
        List.not_lt_nil, and_false, or_false]
      by_cases hcd : numberFrom 0 c = numberFrom 0 d
      · simp [hcd, iff_comm]
      · simp [hcd]
    · rw [htexts (Or.inr (awkNumber?_more hb hmore)), comparedAlike_more (Or.inr hmore)]
  · rw [htexts (Or.inl (awkNumber?_more ha hmore)), comparedAlike_more (Or.inl hmore)]

/-- `version_check` is right about two versions if and only if `awk` compares them alike; so `OLD_VERSION`
is set exactly for an older agent if and only if its version and the one that reports progress are
compared alike. -/
theorem versionCheck_iff (sys : System) (hawk : sys.older = awkLess) :
    (∀ a b, IsDotted a → IsDotted b →
      ((versionCheck sys a b = true ↔ numbers a < numbers b)
        ↔ ComparedAlike (components a) (components b))) ∧
    ∀ base, getBaseVm sys sys.rounds sys.updatevm = some (some base) → base ≠ "" →
      IsDotted (sys.agentVersion base) →
      ((oldVersion sys = some true ↔ numbers (sys.agentVersion base) < numbers progressAgentVersion)
        ↔ ComparedAlike (components (sys.agentVersion base)) (components progressAgentVersion)) := by
  have hcheck : ∀ a b, IsDotted a → IsDotted b →
      ((versionCheck sys a b = true ↔ numbers a < numbers b)
        ↔ ComparedAlike (components a) (components b)) := by
    intro a b ha hb
    rw [versionCheck, hawk]
    exact awkLess_iff ha hb
  refine ⟨hcheck, fun base hbase hne hversion => ?_⟩
  have hrequired : IsDotted progressAgentVersion := by decide
  have hnonempty : sys.agentVersion base ≠ "" := by
    intro hempty
    rw [hempty] at hversion
    revert hversion
    decide
  have hold : oldVersion sys = some (versionCheck sys (sys.agentVersion base) progressAgentVersion) := by
    rw [oldVersion, hbase, Option.map_some]
    simp [hne, hnonempty]
  rw [hold, Option.some.injEq]
  exact hcheck _ _ hversion hrequired

/-- A system with a template as UpdateVM. -/
def templateSystem (version : String) : System where
  yumAction := none
  switchingAudio := ""
  kdeFullSession := ""
  updatevm := "fedora"
  isBase := fun _ => true
  templateOf := fun _ => none
  agentVersion := fun _ => version
  older := awkLess
  rounds := 1

/-- The agent of an older release. -/
theorem versionCheck_iff_older :
    (oldVersion (templateSystem "4.3") = some true ↔ numbers "4.3" < numbers progressAgentVersion)
      ↔ ComparedAlike (components "4.3") (components progressAgentVersion) :=
  (versionCheck_iff (templateSystem "4.3") rfl).2 "fedora" rfl (by decide) (by decide)

/-- Agents of newer releases are taken for older ones: 4.10 as a number, and 10.0.1 as a text. -/
theorem not_versionCheck_newer :
    (oldVersion (templateSystem "4.10") = some true ∧
      ¬ numbers "4.10" < numbers progressAgentVersion) ∧
    (oldVersion (templateSystem "10.0.1") = some true ∧
      ¬ numbers "10.0.1" < numbers progressAgentVersion) ∧
    ¬ ∀ a b, IsDotted a → IsDotted b →
      (versionCheck (templateSystem "4.10") a b = true ↔ numbers a < numbers b) := by
  have hless : oldVersion (templateSystem "4.10") = some true := by decide +kernel
  have hnumbers : ¬ numbers "4.10" < numbers progressAgentVersion := by decide +kernel
  refine ⟨⟨hless, hnumbers⟩, ⟨by decide +kernel, by decide +kernel⟩, fun h => ?_⟩
  have hcheck : versionCheck (templateSystem "4.10") "4.10" progressAgentVersion = true := by
    decide +kernel
  exact hnumbers ((h "4.10" progressAgentVersion (by decide) (by decide)).mp hcheck)

end Dom0Update

end QubesAdminLinux
