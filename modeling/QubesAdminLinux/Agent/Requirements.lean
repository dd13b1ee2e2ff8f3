import Mathlib.Data.String.Basic
import QubesAdminLinux.Agent.PackageManager
import QubesAdminLinux.Lib.SeparatedOrder

/-! # Versions of requirements

`install_requirements` compares versions as texts.

* **`IsVersion`** — dotted decimal numbers, maybe with a release; `numbers` are their values.
* **`text_lt_iff`** — the order of such texts: component by component, each compared as a text, and
  then by the release.
* **`exec_installRequirements`** — the commands that are run.
* **`exists_misjudged`** — the two ways in which the order of the texts can go wrong.
* **`commands_eq_iff`** — the commands are the right ones exactly if the two orders judge all packages
  alike. -/

namespace QubesAdminLinux

open StateExcept

/-! ## Versions -/

/-- The text before the release. -/
def versionChars (text : String) : List Char := text.toList.takeWhile (· ≠ '-')

/-- The release, with the dash before it. -/
def release (text : String) : List Char := text.toList.dropWhile (· ≠ '-')

/-- The components of a version. -/
def components (text : String) : List (List Char) := (versionChars text).splitOn '.'

/-- Dotted decimal numbers, maybe followed by a dash and a release. -/
def IsVersion (text : String) : Prop :=
  ∀ component ∈ components text, component ≠ [] ∧ ∀ c ∈ component, '0' ≤ c ∧ c ≤ '9'

instance (text : String) : Decidable (IsVersion text) :=
  decidable_of_iff ((components text).all (fun component =>
    !component.isEmpty && component.all fun c => '0' ≤ c && c ≤ '9') = true) (by simp [IsVersion])

/-- The value of a decimal digit. -/
def digitValue (c : Char) : ℕ := c.toNat - 48

/-- The value of a decimal number, given the value of the digits before it. -/
def numberFrom (value : ℕ) (digits : List Char) : ℕ :=
  digits.foldl (fun value c => 10 * value + digitValue c) value

/-- Without digits, the value stays. -/
@[simp] theorem numberFrom_nil (value : ℕ) : numberFrom value [] = value := List.foldl_nil

/-- One more digit. -/
@[simp] theorem numberFrom_cons (value : ℕ) (c : Char) (rest : List Char) :
    numberFrom value (c :: rest) = numberFrom (10 * value + digitValue c) rest := by
  unfold numberFrom
  rw [List.foldl_cons]

/-- The values of the components. -/
def numbers (text : String) : List ℕ := (components text).map (numberFrom 0)

/-- A version is at least the required one, compared number by number. -/
def AtLeast (ver required : String) : Prop := ¬ (numbers ver < numbers required)

/-- A version is larger than the required one, the components compared as texts; with the same
components, the release decides. -/
def TextLarger (ver required : String) : Prop :=
  components required < components ver
    ∨ (components required = components ver ∧ release required < release ver)

instance (ver required : String) : Decidable (AtLeast ver required) :=
  inferInstanceAs (Decidable ¬ (numbers ver < numbers required))

instance (ver required : String) : Decidable (TextLarger ver required) :=
  inferInstanceAs (Decidable (components required < components ver
    ∨ (components required = components ver ∧ release required < release ver)))

example : AtLeast "4.10.0-1" "4.7.0" ∧ ¬ TextLarger "4.10.0-1" "4.7.0" := by decide

/-- The digits of a version are larger than the dots. -/
theorem dot_lt_of_mem {text : String} (h : IsVersion text) :
    ∀ component ∈ components text, ∀ c ∈ component, '.' < c := by
  intro component hcomponent c hc
  have hdot : '.' < '0' := by decide
  exact lt_of_lt_of_le hdot ((h component hcomponent).2 c hc).1

/-- The release starts with a dash, which is smaller than a dot. -/
theorem release_head? (text : String) : ∀ c ∈ (release text).head?, c < '.' := by
  intro c hc
  have hnot := List.head?_dropWhile_not (· ≠ '-') text.toList
  rw [release] at hc
  rw [hc] at hnot
  have hdash : c = '-' := by simpa using hnot
  rw [hdash]
  decide

/-- A version is its components with dots between them, and its release. -/
theorem toList_eq_joinParts (text : String) : ∃ component parts,
    components text = component :: parts
      ∧ text.toList = component ++ joinParts '.' parts (release text) := by
  obtain ⟨component, parts, hparts⟩ := List.exists_cons_of_ne_nil
    (List.splitOn_ne_nil '.' (versionChars text))
  refine ⟨component, parts, hparts, ?_⟩
  have hjoin : ['.'].intercalate ((versionChars text).splitOn '.') = versionChars text :=
    List.intercalate_splitOn '.'
  rw [hparts] at hjoin
  rw [← intercalate_append, hjoin]
  exact (List.takeWhile_append_dropWhile).symm

/-- Versions are ordered as texts component by component, each compared as a text. -/
theorem text_lt_iff {ver required : String} (hver : IsVersion ver) (hrequired : IsVersion required) :
    required < ver ↔ TextLarger ver required := by
  obtain ⟨c, parts, hc, hrequiredList⟩ := toList_eq_joinParts required
  obtain ⟨d, parts', hd, hverList⟩ := toList_eq_joinParts ver
  have hdots := dot_lt_of_mem hrequired
  have hdots' := dot_lt_of_mem hver
  rw [hc, List.forall_mem_cons] at hdots
  rw [hd, List.forall_mem_cons] at hdots'
  have hfirst := append_lt_append_iff (c := c) (d := d)
    (r := joinParts '.' parts (release required)) (s := joinParts '.' parts' (release ver))
    (fun x hx y hy => (head?_joinParts (release_head? ver) y hy).trans_lt (hdots.1 x hx))
    (fun x hx y hy => (head?_joinParts (release_head? required) y hy).trans_lt (hdots'.1 x hx))
  rw [String.lt_iff_toList_lt, hrequiredList, hverList, hfirst,
    joinParts_lt_iff hdots.2 hdots'.2 (release_head? required) (release_head? ver), TextLarger, hc, hd,
    List.cons_lt_cons_iff, List.cons.injEq]
  tauto

/-! ## Digits of the same width -/

/-- Digits are ordered as their values. -/
theorem digit_lt_iff {x y : Char} (hx : '0' ≤ x ∧ x ≤ '9') (hy : '0' ≤ y ∧ y ≤ '9') :
    (x < y ↔ digitValue x < digitValue y)
      ∧ (x = y ↔ digitValue x = digitValue y)
      ∧ digitValue x < 10 ∧ digitValue y < 10 := by
  have hle : ∀ a b : Char, a ≤ b ↔ a.toNat ≤ b.toNat := fun _ _ => Iff.rfl
  have hlt : ∀ a b : Char, a < b ↔ a.toNat < b.toNat := fun _ _ => Iff.rfl
  have heq : ∀ a b : Char, a = b ↔ a.toNat = b.toNat := fun _ _ => Char.toNat_inj.symm
  rw [hle, hle] at hx hy
  rw [hlt, heq, digitValue, digitValue]
  have h₀ : '0'.toNat = 48 := by decide
  have h₉ : '9'.toNat = 57 := by decide
  omega

/-- Numbers with the same number of digits are ordered as their texts. -/
theorem numberFrom_lt_iff {c d : List Char} (hlength : c.length = d.length)
    (hc : ∀ x ∈ c, '0' ≤ x ∧ x ≤ '9') (hd : ∀ x ∈ d, '0' ≤ x ∧ x ≤ '9') (m n : ℕ) :
    (numberFrom m c < numberFrom n d ↔ m < n ∨ (m = n ∧ c < d))
      ∧ (numberFrom m c = numberFrom n d ↔ m = n ∧ c = d) := by
  induction c generalizing d m n with
  | nil =>
      obtain rfl := List.length_eq_zero_iff.mp hlength.symm
      simp
  | cons x xs ih =>
      cases d with
      | nil => cases hlength
      | cons y ys =>
          rw [List.forall_mem_cons] at hc hd
          obtain ⟨hlt, heq, hx, hy⟩ := digit_lt_iff hc.1 hd.1
          obtain ⟨ihlt, iheq⟩ := ih (Nat.succ.inj hlength) hc.2 hd.2
            (10 * m + digitValue x) (10 * n + digitValue y)
          rw [numberFrom_cons, numberFrom_cons, ihlt, iheq, List.cons_lt_cons_iff, List.cons.injEq, hlt, heq]
          constructor
          · constructor
            · rintro (h | ⟨h, hrest⟩)
              · omega
              · refine Or.inr ⟨by omega, Or.inr ⟨by omega, hrest⟩⟩
            · rintro (h | ⟨rfl, h | ⟨h, hrest⟩⟩)
              · exact Or.inl (by omega)
              · exact Or.inl (by omega)
              · exact Or.inr ⟨by omega, hrest⟩
          · constructor
            · rintro ⟨h, hrest⟩
              exact ⟨by omega, by omega, hrest⟩
            · rintro ⟨rfl, h, hrest⟩
              exact ⟨by omega, hrest⟩

/-- Components that differ first in two of the same width are ordered as texts as they are ordered as
numbers. -/
theorem components_lt_iff {a b : List (List Char)} (ha : ∀ c ∈ a, ∀ x ∈ c, '0' ≤ x ∧ x ≤ '9')
    (hb : ∀ c ∈ b, ∀ x ∈ c, '0' ≤ x ∧ x ≤ '9')
    (hwidths : ∀ before c d after after', a = before ++ c :: after → b = before ++ d :: after' → c ≠ d →
      c.length = d.length) :
    (a < b ↔ a.map (numberFrom 0) < b.map (numberFrom 0))
      ∧ (a = b ↔ a.map (numberFrom 0) = b.map (numberFrom 0)) := by
  induction a generalizing b with
  | nil => cases b <;> simp
  | cons c parts ih =>
      cases b with
      | nil => simp
      | cons d parts' =>
          rw [List.forall_mem_cons] at ha hb
          rw [List.map_cons, List.map_cons, List.cons_lt_cons_iff, List.cons_lt_cons_iff,
            List.cons.injEq, List.cons.injEq]
          by_cases hcd : c = d
          · -- the first difference comes later
            subst hcd
            obtain ⟨ihlt, iheq⟩ := ih ha.2 hb.2 fun before c' d' after after' ha' hb' =>
              hwidths (c :: before) c' d' after after' (by rw [ha']; rfl) (by rw [hb']; rfl)
            rw [ihlt, iheq]
            simp
          · obtain ⟨hlt, heq⟩ := numberFrom_lt_iff (hwidths [] c d parts parts' rfl rfl hcd) ha.1 hb.1 0 0
            have hnumbers : numberFrom 0 c ≠ numberFrom 0 d := fun h => hcd (heq.mp h).2
            simp [hcd, hnumbers, hlt]

/-- The two ways in which an installed version is judged differently: it has the components of the required
one and no larger release, or the first components in which they differ have different numbers of digits. -/
inductive Misjudged (ver required : String) : Prop
  | same (hcomponents : components required = components ver)
      (hrelease : ¬ release required < release ver)
  | widths {before after after' : List (List Char)} {c d : List Char}
      (hrequired : components required = before ++ c :: after)
      (hver : components ver = before ++ d :: after') (hlength : c.length ≠ d.length)

/-- There are no other ways. -/
theorem misjudged_of_ne {ver required : String} (hver : IsVersion ver) (hrequired : IsVersion required)
    (h : ¬ (TextLarger ver required ↔ AtLeast ver required)) : Misjudged ver required := by
  by_cases hwidths : ∀ before c d after after', components required = before ++ c :: after →
      components ver = before ++ d :: after' → c ≠ d → c.length = d.length
  · obtain ⟨hlt, heq⟩ := components_lt_iff (fun c hc => (hrequired c hc).2) (fun c hc => (hver c hc).2)
      hwidths
    by_cases hsame : components required = components ver
    · refine .same hsame fun hrelease => h (iff_of_true (Or.inr ⟨hsame, hrelease⟩) ?_)
      rw [AtLeast, numbers, numbers, hsame]
      exact lt_irrefl _
    · -- the numbers differ, too
      refine absurd ?_ h
      have hnumbers : numbers required ≠ numbers ver := fun hnumbers => hsame (heq.mpr hnumbers)
      rw [TextLarger, or_iff_left fun hequal => hsame hequal.1, hlt, AtLeast, not_lt]
      exact ⟨le_of_lt, fun hle => lt_of_le_of_ne hle hnumbers⟩
  · push Not at hwidths
    obtain ⟨before, c, d, after, after', hc, hd, -, hlength⟩ := hwidths
    exact .widths hc hd hlength

/-! ## The commands -/

/-- A host that notes the commands it is asked to run, and always can run them. -/
def notingHost (reply : List (List String) → List String → ChildOutput) :
    Host (List (List String)) where
  communicate command := do
    let done ← get
    set (done ++ [command])
    pure (reply done command)

/-- Run a command on some packages, if there are any. -/
def packageCommand (command packages : List String) : List (List String) :=
  if packages ≠ [] then [command ++ packages] else []

/-- The commands that install and upgrade some packages. -/
def requirementCommands (packageManager : String) (action missing outdated : List String) :
    List (List String) :=
  packageCommand [packageManager, "-q", "-y", "install"] missing
    ++ packageCommand ([packageManager, "-q", "-y"] ++ action) outdated

section Commands

variable {reply : List (List String) → List String → ChildOutput}

/-- The command for some packages is run if there are any. -/
theorem exec_runOnPackages (command packages : List String) (result : ProcessResult)
    (s : AgentState (List (List String))) :
    ∃ result' s', exec (runOnPackages (notingHost reply) command packages result) s = (.ok result', s')
      ∧ s'.system = s.system ++ packageCommand command packages := by
  unfold runOnPackages packageCommand
  by_cases hempty : packages = []
  · rw [if_neg (not_not.mpr hempty), if_neg (not_not.mpr hempty)]
    exact ⟨result, s, exec_pure _, (List.append_nil _).symm⟩
  · rw [if_pos hempty, if_pos hempty]
    have hcall : exec ((notingHost reply).communicate (command ++ packages)) s.system
        = (.ok (reply s.system (command ++ packages)), s.system ++ [command ++ packages]) := rfl
    obtain ⟨child, hexec, -⟩ := exec_runCmd true hcall
    rw [exec_bind hexec, exec_mergeResult]
    exact ⟨_, _, rfl, rfl⟩

/-- The commands that `install_requirements` runs. -/
theorem exec_installRequirements (packageManager : String) (action : List String)
    (requirements : Dict String String) (currPkg : Packages) :
    (exec (installRequirements (notingHost reply) packageManager action (some requirements) currPkg)
        { system := [] }).2.system
      = requirementCommands packageManager action (toInstall requirements currPkg)
          (toUpgrade requirements currPkg) := by
  obtain ⟨result, s₁, hinstall, hsystem₁⟩ := @exec_runOnPackages reply
    [packageManager, "-q", "-y", "install"] (toInstall requirements currPkg)
    ProcessResult.realtimeEmpty { system := [] }
  obtain ⟨result', s₂, hupgrade, hsystem₂⟩ := @exec_runOnPackages reply
    ([packageManager, "-q", "-y"] ++ action) (toUpgrade requirements currPkg) result s₁
  unfold installRequirements
  dsimp only [Option.getD_some]
  rw [exec_bind hinstall, hupgrade, hsystem₂, hsystem₁, List.nil_append, requirementCommands]

/-- Different packages are upgraded by different commands. -/
theorem requirementCommands_inj {packageManager : String} {action missing l l' : List String} :
    requirementCommands packageManager action missing l
      = requirementCommands packageManager action missing l' ↔ l = l' := by
  rw [requirementCommands, requirementCommands, List.append_cancel_left_eq, packageCommand,
    packageCommand]
  by_cases hl : l = [] <;> by_cases hl' : l' = []
  · simp [hl, hl']
  · simp [hl, hl', Ne.symm hl']
  · simp [hl, hl']
  · simp [hl, hl']

end Commands

/-! ## The packages to be upgraded -/

/-- The required packages that are not installed. -/
def missingPackages (requirements : Dict String String) (currPkg : Packages) : List String :=
  requirements.keys.filter fun pkg => pkg ∉ currPkg.keys

/-- The required packages that are installed, with no version that is at least the required one. -/
def outdatedPackages (requirements : Dict String String) (currPkg : Packages) : List String :=
  (requirements.entries.filter fun entry =>
    (currPkg.get? entry.1).any fun versions =>
      versions.all fun ver => ¬ AtLeast ver entry.2).map Prod.fst

/-- For each package that is required and installed, some version is larger than the required one as
a text exactly if some version is at least the required one. -/
def JudgedAlike (requirements : Dict String String) (currPkg : Packages) : Prop :=
  ∀ pkg required versions, requirements.get? pkg = some required →
    currPkg.get? pkg = some versions →
    ((∃ ver ∈ versions, TextLarger ver required) ↔ ∃ ver ∈ versions, AtLeast ver required)

/-- What is installed are the missing packages. -/
theorem toInstall_eq (requirements : Dict String String) (currPkg : Packages) :
    toInstall requirements currPkg = missingPackages requirements currPkg := by
  unfold toInstall missingPackages
  apply List.filter_congr
  intro pkg _
  rw [Bool.eq_iff_iff, decide_eq_true_iff, Dict.mem_keys, Option.isNone_iff_eq_none,
    Option.not_isSome_iff_eq_none]

/-- Two selections from a dictionary have the same keys exactly if they select the same entries. -/
theorem map_fst_filter_inj {κ ν : Type*} (d : Dict κ ν) (p q : κ × ν → Bool) :
    (d.entries.filter p).map Prod.fst = (d.entries.filter q).map Prod.fst
      ↔ ∀ entry ∈ d.entries, p entry = q entry := by
  constructor
  · intro heq entry hmem
    have hiff : ∀ p' : κ × ν → Bool,
        p' entry = true ↔ entry.1 ∈ (d.entries.filter p').map Prod.fst := by
      intro p'
      rw [List.mem_map]
      constructor
      · intro hp
        exact ⟨entry, List.mem_filter.mpr ⟨hmem, hp⟩, rfl⟩
      · rintro ⟨other, hother, hkey⟩
        rw [List.mem_filter] at hother
        -- the keys are distinct
        rw [← List.inj_on_of_nodup_map d.nodup hother.1 hmem hkey]
        exact hother.2
    rw [Bool.eq_iff_iff, hiff p, hiff q, heq]
  · intro hall
    rw [List.filter_congr hall]

/-- All versions that are required or installed are versions. -/
structure Versioned (requirements : Dict String String) (currPkg : Packages) : Prop where
  required : ∀ pkg version, requirements.get? pkg = some version → IsVersion version
  installed : ∀ pkg versions, currPkg.get? pkg = some versions → ∀ ver ∈ versions, IsVersion ver

/-- If the two orders do not judge all packages alike, some installed version is judged differently in one of
the two ways. -/
theorem exists_misjudged {requirements : Dict String String} {currPkg : Packages}
    (h : Versioned requirements currPkg) (hjudged : ¬ JudgedAlike requirements currPkg) :
    ∃ pkg required versions, requirements.get? pkg = some required ∧ currPkg.get? pkg = some versions ∧
      ∃ ver ∈ versions, Misjudged ver required := by
  by_contra hnone
  refine hjudged fun pkg required versions hrequired hversions => ?_
  have hsame : ∀ ver ∈ versions, (TextLarger ver required ↔ AtLeast ver required) := by
    intro ver hver
    by_contra hne
    exact hnone ⟨pkg, required, versions, hrequired, hversions, ver, hver,
      misjudged_of_ne (h.installed pkg versions hversions ver hver) (h.required pkg required hrequired) hne⟩
  exact exists_congr fun ver => and_congr_right (hsame ver)

/-- The code and the order of the numbers reject the same versions exactly if some version is larger
as a text whenever some version is at least the required one, and the other way round. -/
theorem all_rejected_iff {required : String} {versions : List String} (hrequired : IsVersion required)
    (hversions : ∀ ver ∈ versions, IsVersion ver) :
    ((versions.all fun ver => decide (¬ required < ver))
        = versions.all fun ver => decide (¬ AtLeast ver required))
      ↔ ((∃ ver ∈ versions, TextLarger ver required) ↔ ∃ ver ∈ versions, AtLeast ver required) := by
  have hlarger : (∃ ver ∈ versions, TextLarger ver required) ↔ ∃ ver ∈ versions, required < ver := by
    constructor
    · rintro ⟨ver, hmem, hver⟩
      exact ⟨ver, hmem, (text_lt_iff (hversions ver hmem) hrequired).mpr hver⟩
    · rintro ⟨ver, hmem, hver⟩
      exact ⟨ver, hmem, (text_lt_iff (hversions ver hmem) hrequired).mp hver⟩
  have hreject : ∀ p : String → Prop, ∀ [DecidablePred p],
      (versions.all fun ver => decide (¬ p ver)) = true ↔ ¬ ∃ ver ∈ versions, p ver := by
    intro p _
    simp
  rw [Bool.eq_iff_iff, hreject, hreject, not_iff_not, hlarger]

/-- The right packages are upgraded exactly if the two orders judge all packages alike. -/
theorem toUpgrade_eq_iff {requirements : Dict String String} {currPkg : Packages}
    (h : Versioned requirements currPkg) :
    toUpgrade requirements currPkg = outdatedPackages requirements currPkg
      ↔ JudgedAlike requirements currPkg := by
  rw [toUpgrade, outdatedPackages, map_fst_filter_inj]
  have hentry : ∀ pkg required, (pkg, required) ∈ requirements.entries
      ↔ requirements.get? pkg = some required := by
    intro pkg required
    exact (findEntry_eq_some requirements.nodup pkg required).symm
  constructor
  · intro hall pkg required versions hrequired hversions
    have hsame := hall (pkg, required) ((hentry pkg required).mpr hrequired)
    simp only [hversions, Option.any_some] at hsame
    exact (all_rejected_iff (h.required pkg required hrequired)
      (h.installed pkg versions hversions)).mp hsame
  · rintro hjudged ⟨pkg, required⟩ hmem
    have hrequired := (hentry pkg required).mp hmem
    dsimp only
    cases hversions : currPkg.get? pkg with
    | none => rfl
    | some versions =>
        rw [Option.any_some, Option.any_some]
        exact (all_rejected_iff (h.required pkg required hrequired)
          (h.installed pkg versions hversions)).mpr (hjudged pkg required versions hrequired hversions)

/-- The commands install exactly what is missing and upgrade exactly what is outdated if and only if
the two orders judge all packages alike. -/
theorem commands_eq_iff (reply : List (List String) → List String → ChildOutput)
    (packageManager : String) (action : List String) (requirements : Dict String String)
    (currPkg : Packages) (h : Versioned requirements currPkg) :
    (exec (installRequirements (notingHost reply) packageManager action (some requirements) currPkg)
        { system := [] }).2.system
        = requirementCommands packageManager action (missingPackages requirements currPkg)
            (outdatedPackages requirements currPkg)
      ↔ JudgedAlike requirements currPkg := by
  rw [exec_installRequirements, toInstall_eq, requirementCommands_inj, toUpgrade_eq_iff h]

/-- The requirements of an old system. -/
def oldRequirements : Dict String String := Dict.ofList [("dnf", "4.7.0"), ("rpm", "4.14.2")]

/-- Its packages: a newer `dnf` and an older `rpm`. -/
def oldPackages : Packages := Dict.ofList [("dnf", ["4.10.0-1"]), ("rpm", ["4.9.1-2"])]

/-- The texts that are compared are versions. -/
theorem versioned_old : Versioned oldRequirements oldPackages := by
  have hrequired : ∀ version ∈ oldRequirements.values, IsVersion version := by decide +kernel
  have hinstalled : ∀ versions ∈ Dict.values oldPackages, ∀ ver ∈ versions, IsVersion ver := by
    decide +kernel
  constructor
  · intro pkg version hget
    exact hrequired version ((Dict.mem_values oldRequirements version).mpr ⟨pkg, hget⟩)
  · intro pkg versions hget
    exact hinstalled versions ((Dict.mem_values oldPackages versions).mpr ⟨pkg, hget⟩)

/-- The characterisation for these packages. -/
theorem commands_eq_iff_old :
    (exec (installRequirements (notingHost fun _ _ => { returncode := 0 }) "dnf" ["-y", "upgrade"]
        (some oldRequirements) oldPackages) { system := [] }).2.system
        = requirementCommands "dnf" ["-y", "upgrade"] (missingPackages oldRequirements oldPackages)
            (outdatedPackages oldRequirements oldPackages)
      ↔ JudgedAlike oldRequirements oldPackages :=
  commands_eq_iff _ "dnf" ["-y", "upgrade"] oldRequirements oldPackages versioned_old

/-- The newer package is upgraded, and the older one is not. -/
theorem not_commands_eq_old :
    Versioned oldRequirements oldPackages
      ∧ toUpgrade oldRequirements oldPackages = ["dnf"]
      ∧ outdatedPackages oldRequirements oldPackages = ["rpm"]
      ∧ (exec (installRequirements (notingHost fun _ _ => { returncode := 0 }) "dnf" ["-y", "upgrade"]
          (some oldRequirements) oldPackages) { system := [] }).2.system
        ≠ requirementCommands "dnf" ["-y", "upgrade"] (missingPackages oldRequirements oldPackages)
            (outdatedPackages oldRequirements oldPackages) := by
  have hupgrade : toUpgrade oldRequirements oldPackages = ["dnf"] := by decide +kernel
  have houtdated : outdatedPackages oldRequirements oldPackages = ["rpm"] := by decide +kernel
  refine ⟨versioned_old, hupgrade, houtdated, ?_⟩
  rw [exec_installRequirements, toInstall_eq, ne_eq, requirementCommands_inj, hupgrade, houtdated]
  decide

end QubesAdminLinux
