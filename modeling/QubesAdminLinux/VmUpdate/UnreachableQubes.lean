import Mathlib.Data.List.Perm.Subperm
import QubesAdminLinux.VmUpdate.SkipUpdate

/-! # Qubes that cannot be read

The features of a qube may be unreadable.  The selection should then return all the same, and the answer
for every other qube should not depend on it.

* **`Fails`** — the reads of some qubes fail.
* **`Unaffected`** — the selection returns, with the same answer for the other qubes.
* **`unaffected_iff`** — when this holds: the targeting reads a feature without a guard. -/

namespace QubesAdminLinux

/-- Some reads of the qubes in `lost` fail, all other reads are as before. -/
structure Fails (features failing : Features) (lost : String → Prop) : Prop where
  /-- Reading one feature. -/
  get : ∀ name key, failing.get name key = features.get name key ∨
    lost name ∧ ∃ exc, failing.get name key = .error exc
  /-- Listing the features. -/
  keys : ∀ name, failing.keys name = features.keys name ∨
    lost name ∧ ∃ exc, failing.keys name = .error exc
  /-- Reading one feature, with that of the template as its default. -/
  checkWithTemplate : ∀ name key,
    failing.checkWithTemplate name key = features.checkWithTemplate name key ∨
      lost name ∧ ∃ exc, failing.checkWithTemplate name key = .error exc

/-- The names given by `--targets` are names of domains. -/
def KnownNames (app : QubesApp) (args : TargetingArgs) : Prop :=
  args.targets ≠ "" → ∀ name ∈ targetNames args, ∃ vm ∈ app.domains, vm.name = name

/-- The selection returns although reads fail, with the same answer for the qubes that can be read. -/
structure Unaffected (app : QubesApp) (features failing : Features) (clock : Clock)
    (args : TargetingArgs) (lost : String → Prop) : Prop where
  /-- It returns. -/
  returns : ∃ selected, (getTargets app failing clock args).2 = .ok selected
  /-- The answer for the other qubes. -/
  others : ∀ selected selected', (getTargets app features clock args).2 = .ok selected →
    (getTargets app failing clock args).2 = .ok selected' →
    ∀ vm : SystemDomain, ¬ lost vm.name → (vm ∈ selected' ↔ vm ∈ selected)

section Unreachable

variable {app : QubesApp} {features failing : Features} {clock : Clock} {args : TargetingArgs}
  {lost : String → Prop}

/-- Known names are accepted exactly if none of them is given twice. -/
theorem acceptedNames_iff (hnames : KnownNames app args) :
    AcceptedNames app args ↔ (args.targets ≠ "" → (targetNames args).Nodup) := by
  rw [AcceptedNames]
  apply forall_congr'
  intro htargets
  -- the named domains have each of the names once
  have hperm : ((namedDomains app args).map fun vm => vm.name).Perm (targetNames args).dedup := by
    have hnodup : ((namedDomains app args).map fun vm => vm.name).Nodup :=
      app.nodup.sublist (List.filter_sublist.map _)
    rw [List.perm_ext_iff_of_nodup hnodup (List.nodup_dedup _)]
    intro name
    rw [List.mem_map, List.mem_dedup]
    constructor
    · rintro ⟨vm, hvm, rfl⟩
      rw [namedDomains, List.mem_filter] at hvm
      simpa using hvm.2
    · intro hname
      obtain ⟨vm, hvm, rfl⟩ := hnames htargets name hname
      exact ⟨vm, by simp [namedDomains, hvm, hname], rfl⟩
  have hlength := hperm.length_eq
  rw [List.length_map] at hlength
  rw [hlength]
  constructor
  · intro heq
    rw [← (List.dedup_sublist (targetNames args)).eq_of_length heq.symm]
    exact List.nodup_dedup _
  · intro hnodup
    rw [hnodup.dedup]

/-- The verdict on a qube that can be read. -/
theorem selects_of_not_lost (hfails : Fails features failing lost) {vm : SystemDomain}
    (hvm : ¬ lost vm.name) : selects failing clock args vm = selects features clock args vm := by
  have hget : ∀ key, failing.get vm.name key = features.get vm.name key := fun key =>
    (hfails.get vm.name key).resolve_right fun h => hvm h.1
  have hkeys : failing.keys vm.name = features.keys vm.name :=
    (hfails.keys vm.name).resolve_right fun h => hvm h.1
  have hcheck : ∀ key, failing.checkWithTemplate vm.name key = features.checkWithTemplate vm.name key :=
    fun key => (hfails.checkWithTemplate vm.name key).resolve_right fun h => hvm h.1
  have hflag : ∀ key, readFlag failing vm key = readFlag features vm key := by
    intro key
    rw [readFlag, readFlag, hget]
  have hdate : lastUpdate failing clock vm = lastUpdate features clock vm := by
    rw [lastUpdate, lastUpdate, hget, hkeys, hcheck]
  have hstale : ∀ period, isStale failing clock vm period = isStale features clock vm period := by
    intro period
    rw [isStale, isStale, hdate]
  have hexamine : examine failing clock args vm = examine features clock args vm := by
    simp only [examine, hflag, hstale]
  rw [selects, selects, hflag, hexamine]

/-- The selection is unaffected by reads that fail if and only if the feature `skip-update` of each
candidate can be read, in case no names are given, no name is given twice, and no date that is needed
cannot be compared with now. -/
theorem unaffected_iff (hnames : KnownNames app args) (hfails : Fails features failing lost) :
    Unaffected app features failing clock args lost ↔
      (args.targets = "" → ∀ vm ∈ candidates app args, ∃ value,
        failing.get vm.name "skip-update" = .ok value) ∧
      (args.targets ≠ "" → (targetNames args).Nodup) ∧
      (args.forceUpdate = false →
        ∀ vm ∈ candidates app args, ¬ Undated failing clock args vm) := by
  rw [← acceptedNames_iff hnames]
  constructor
  · rintro ⟨⟨selected, hselected⟩, -⟩
    obtain ⟨haccepted, hread, hdated, -⟩ := getTargets_eq_ok.mp hselected
    exact ⟨hread, haccepted, hdated⟩
  · rintro ⟨hread, haccepted, hdated⟩
    refine ⟨⟨_, getTargets_eq_ok.mpr ⟨haccepted, hread, hdated, rfl⟩⟩, ?_⟩
    intro selected selected' hselected hselected' vm hvm
    obtain ⟨-, -, -, rfl⟩ := getTargets_eq_ok.mp hselected
    obtain ⟨-, -, -, rfl⟩ := getTargets_eq_ok.mp hselected'
    rw [List.mem_filter, List.mem_filter, selects_of_not_lost hfails hvm]

end Unreachable

/-- Nothing can be read of any qube. -/
def unreadableFeatures : Features where
  get _ _ := .error (.communication "Got empty response from qubesd")
  keys _ := .error (.communication "Got empty response from qubesd")
  checkWithTemplate _ _ := .error (.communication "Got empty response from qubesd")

/-- All reads fail. -/
theorem fails_unreadable (features : Features) :
    Fails features unreadableFeatures fun _ => True :=
  ⟨fun _ _ => Or.inr ⟨trivial, _, rfl⟩, fun _ => Or.inr ⟨trivial, _, rfl⟩,
    fun _ _ => Or.inr ⟨trivial, _, rfl⟩⟩

/-- A named template that cannot be read. -/
theorem unaffected_iff_named :
    Unaffected templateApp skippingFeatures unreadableFeatures lateClock { targets := "fedora" }
        (fun _ => True) ↔
      (("fedora" : String) = "" → ∀ vm ∈ candidates templateApp { targets := "fedora" }, ∃ value,
        unreadableFeatures.get vm.name "skip-update" = .ok value) ∧
      (("fedora" : String) ≠ "" → (targetNames { targets := "fedora" }).Nodup) ∧
      (false = false → ∀ vm ∈ candidates templateApp { targets := "fedora" },
        ¬ Undated unreadableFeatures lateClock { targets := "fedora" } vm) := by
  refine unaffected_iff (fun _ name hname => ?_) (fails_unreadable _)
  have hnames : targetNames { targets := "fedora" } = ["fedora"] := by decide +kernel
  rw [hnames, List.mem_singleton] at hname
  exact ⟨fedoraTemplate, List.mem_singleton_self _, hname.symm⟩

/-- If no names are given, one qube that cannot be read ends the selection. -/
theorem unreachable_aborts :
    (¬ ∀ (app : QubesApp) (features failing : Features) (clock : Clock) (args : TargetingArgs)
      (lost : String → Prop), KnownNames app args → Fails features failing lost →
      Unaffected app features failing clock args lost) ∧
    (getTargets templateApp unreadableFeatures lateClock {}).2
      = .error (.readError (.communication "Got empty response from qubesd")) := by
  have hraises : (getTargets templateApp unreadableFeatures lateClock {}).2
      = .error (.readError (.communication "Got empty response from qubesd")) := by decide +kernel
  refine ⟨fun h => ?_, hraises⟩
  have hunaffected := h templateApp skippingFeatures unreadableFeatures lateClock {} _
    (fun hne => absurd rfl hne) (fails_unreadable _)
  obtain ⟨selected, hselected⟩ := hunaffected.returns
  rw [hraises] at hselected
  cases hselected

end QubesAdminLinux
