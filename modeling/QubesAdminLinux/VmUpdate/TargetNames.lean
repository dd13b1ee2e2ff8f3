import Mathlib.Data.List.Perm.Subperm
import QubesAdminLinux.VmUpdate.SkipUpdate

/-! # The names given by `--targets`

`preselect_targets` compares the number of names that are given with the number of domains that have one
of them.

* **`length_filter_mem_eq_iff`** — when two such numbers are equal.
* **`BadNames`** — a name is given twice, or is that of no domain.
* **`preselectTargets_of_targets`** — bad names are rejected; otherwise the qubes with the other names are
  targeted, and none that is skipped. -/

namespace QubesAdminLinux

/-- As many of some distinct keys are named as there are names exactly if the names are distinct keys: a
repeated name cannot make up for an unknown one. -/
theorem length_filter_mem_eq_iff {α : Type} [DecidableEq α] {keys names : List α}
    (hkeys : keys.Nodup) :
    (keys.filter (· ∈ names)).length = names.length ↔ names.Nodup ∧ ∀ name ∈ names, name ∈ keys := by
  have hnodup : (keys.filter (· ∈ names)).Nodup := hkeys.filter _
  have hnamed : (keys.filter (· ∈ names)).Subperm names := by
    apply List.subperm_of_subset hnodup
    intro name hname
    simpa using (List.mem_filter.mp hname).2
  constructor
  · intro hlength
    have hperm := hnamed.perm_of_length_le hlength.ge
    refine ⟨hperm.nodup_iff.mp hnodup, fun name hname => ?_⟩
    exact List.mem_of_mem_filter (hperm.mem_iff.mpr hname)
  · rintro ⟨hdistinct, hknown⟩
    have hall : names.Subperm (keys.filter (· ∈ names)) := by
      apply List.subperm_of_subset hdistinct
      intro name hname
      exact List.mem_filter.mpr ⟨hknown name hname, by simpa using hname⟩
    exact le_antisymm hnamed.length_le hall.length_le

section Names

variable (app : QubesApp) (args : TargetingArgs)

/-- A name is given twice, or is that of no domain. -/
def BadNames : Prop :=
  ¬ (targetNames args).Nodup ∨ ∃ name ∈ targetNames args, ∀ vm ∈ app.domains, vm.name ≠ name

/-- The comparison of `preselect_targets` accepts the names that are not bad. -/
theorem acceptedNames_iff_not_badNames (hnames : args.targets ≠ "") :
    AcceptedNames app args ↔ ¬ BadNames app args := by
  have hlength : (namedDomains app args).length
      = ((app.domains.map fun vm => vm.name).filter (· ∈ targetNames args)).length := by
    rw [List.filter_map, List.length_map]
    rfl
  have hcount : (targetNames args).length = (namedDomains app args).length ↔
      (targetNames args).Nodup ∧ ∀ name ∈ targetNames args,
        name ∈ app.domains.map fun vm => vm.name := by
    rw [hlength, eq_comm]
    exact length_filter_mem_eq_iff app.nodup
  rw [AcceptedNames, BadNames, hcount, not_or, not_not]
  simp [hnames]

variable (features : Features)

/-- With `--targets`, the targeting raises `ArgumentError` if and only if a name is given twice or is that
of no domain, like an empty name; otherwise it returns all named qubes but the skipped ones, and no qube
that is skipped. -/
theorem preselectTargets_of_targets (hnames : args.targets ≠ "") :
    ((∃ message, preselectTargets app features args = .error (.argumentError message))
        ↔ BadNames app args) ∧
      ((∀ vm ∈ app.domains, vm.name ≠ "") → "" ∈ targetNames args → BadNames app args) ∧
      (¬ BadNames app args → ∃ targets, preselectTargets app features args = .ok targets ∧
        (∀ vm ∈ app.domains, vm.name ∈ targetNames args → vm.name ∉ toSkip args → vm ∈ targets) ∧
        ∀ vm ∈ targets, vm.name ∉ toSkip args) := by
  have hgood : ¬ BadNames app args →
      preselectTargets app features args = .ok (candidates app args) := by
    intro hnot
    have hfilter : (candidates app args).filter (fun vm =>
        args.targets ≠ "" ∨ readFlag features vm "skip-update" = false) = candidates app args := by
      simp [hnames]
    rw [preselectTargets_eq_ok, hfilter]
    exact ⟨(acceptedNames_iff_not_badNames app args hnames).mpr hnot, fun h => absurd h hnames, rfl⟩
  refine ⟨⟨?_, fun hbad => ?_⟩, fun hdomains hempty => Or.inr ⟨"", hempty, hdomains⟩, fun hnot => ?_⟩
  · rintro ⟨message, hraises⟩
    by_contra hnot
    rw [hgood hnot] at hraises
    cases hraises
  · have hrejected : (targetNames args).length ≠ (namedDomains app args).length := by
      intro heq
      exact (acceptedNames_iff_not_badNames app args hnames).mp (fun _ => heq) hbad
    refine ⟨unknownNames app args, ?_⟩
    rw [preselectTargets, explicitTargets, if_neg hnames, if_pos hrejected]
    rfl
  · refine ⟨_, hgood hnot, fun vm hmem hnamed hskipped => ?_, fun vm hmem => ?_⟩
    · exact mem_candidates_of_named hmem ⟨hnames, hnamed⟩ hskipped
    · simpa using (List.mem_filter.mp hmem).2

instance : Decidable (BadNames app args) := inferInstanceAs (Decidable (_ ∨ _))

end Names

/-- Another template. -/
def debianTemplate : SystemDomain :=
  { fedoraTemplate with name := "debian", adminName := templateVM_adminName "debian" }

/-- A system with two templates. -/
def templatesApp : QubesApp := ⟨[fedoraTemplate, debianTemplate], by decide⟩

/-- Both templates are named and one of them is skipped; a name given twice, one of no domain and an empty
one are errors. -/
theorem preselectTargets_of_targets_templates :
    (∃ targets, preselectTargets templatesApp skippingFeatures
        { targets := "debian,fedora", skip := "debian" } = .ok targets ∧
      fedoraTemplate ∈ targets ∧ debianTemplate ∉ targets) ∧
    ∀ names ∈ ["fedora,fedora", "fedora,nosuch", "fedora,"], ∃ message,
      preselectTargets templatesApp skippingFeatures { targets := names, skip := "debian" }
        = .error (.argumentError message) := by
  refine ⟨?_, fun names hnames => ?_⟩
  · obtain ⟨-, -, hgood⟩ := preselectTargets_of_targets templatesApp
      { targets := "debian,fedora", skip := "debian" } skippingFeatures (by decide)
    obtain ⟨targets, htargets, hnamed, hskipped⟩ := hgood (by decide)
    exact ⟨targets, htargets, hnamed _ (by decide) (by decide) (by decide),
      fun hmem => hskipped _ hmem (by decide)⟩
  · have hbad : ∀ names ∈ ["fedora,fedora", "fedora,nosuch", "fedora,"],
        names ≠ "" ∧ BadNames templatesApp { targets := names, skip := "debian" } := by decide
    obtain ⟨hraises, -, -⟩ := preselectTargets_of_targets templatesApp
      { targets := names, skip := "debian" } skippingFeatures (hbad names hnames).1
    exact hraises.mpr (hbad names hnames).2

end QubesAdminLinux
