import QubesAdminLinux.VmUpdate.Targets

/-! # Qubes marked to skip updates

A qube with the feature `skip-update` should be left out unless it is named in `--targets`, and then the
feature should make no difference.

* **`HonoursSkip`** — both of this for one qube.
* **`ReturnedUnnamed`, `RefusedNamed`** — the two cases in which it fails.
* **`honoursSkip_iff`** — and it fails in no other case. -/

namespace QubesAdminLinux

/-- The features if one of them is not set. -/
def Features.unset (features : Features) (name key : String) : Features where
  get name' key' := if name' = name ∧ key' = key then .ok none else features.get name' key'
  keys name' :=
    if name' = name then (features.keys name').map fun keys => keys.filter (· ≠ key)
    else features.keys name'
  checkWithTemplate := features.checkWithTemplate

section Skipping

variable (app : QubesApp) (features : Features) (clock : Clock) (args : TargetingArgs)
  (vm : SystemDomain)

/-- The qube is named in `--targets`. -/
def IsNamed : Prop := args.targets ≠ "" ∧ vm.name ∈ targetNames args

/-- `get_targets` returns the qube. -/
def Returned : Prop :=
  ∃ selected, (getTargets app features clock args).2 = .ok selected ∧ vm ∈ selected

/-- The feature `skip-update` of the qube is honoured. -/
structure HonoursSkip : Prop where
  /-- A qube that is not named is not returned. -/
  unnamed : ¬ IsNamed args vm → ¬ Returned app features clock args vm
  /-- A qube that is named is returned as without the feature. -/
  named : IsNamed args vm → vm.name ∉ toSkip args →
    (Returned app features clock args vm ↔
      Returned app (features.unset vm.name "skip-update") clock args vm)

/-- With `--force-update`, the qube is targeted by its class, while others are named. -/
structure ReturnedUnnamed : Prop where
  /-- Others are named. -/
  others : ¬ IsNamed args vm ∧ args.targets ≠ "" ∧ AcceptedNames app args
  /-- All targets are selected. -/
  forced : args.forceUpdate = true
  /-- The qube is a target. -/
  targeted : vm ∈ classTargets app args ∧ vm.name ∉ toSkip args

/-- The qube is named and has updates, or has not been checked recently, but it is not forced. -/
structure RefusedNamed : Prop where
  /-- It is named. -/
  named : IsNamed args vm ∧ vm.name ∉ toSkip args ∧ AcceptedNames app args
  /-- The selection looks at it, and at no date that cannot be compared with now. -/
  examined : args.forceUpdate = false ∧ ∀ other ∈ candidates app args, ¬ Undated features clock args other
  /-- There is a reason to select it. -/
  wanted : readFlag features vm "updates-available" = true ∨
    (args.updateIfAvailable = false ∧ isStale features clock vm args.updateIfStale = .ok true)

variable {app features clock args vm}

/-! ## Without the feature -/

/-- A feature that has been removed is not set. -/
theorem readFlag_unset_self : readFlag (features.unset vm.name "skip-update") vm "skip-update" = false := by
  rw [readFlag, Features.unset]
  simp [isSet]

/-- Other features are read as before. -/
theorem readFlag_unset {key : String} (hkey : key ≠ "skip-update") (name : String)
    (other : SystemDomain) :
    readFlag (features.unset name "skip-update") other key = readFlag features other key := by
  rw [readFlag, readFlag, Features.unset]
  simp [hkey]

/-- So is the date of the last check. -/
theorem lastUpdate_unset (name : String) (other : SystemDomain) :
    lastUpdate (features.unset name "skip-update") clock other = lastUpdate features clock other := by
  have hos : (features.unset name "skip-update").get other.name "os"
      = features.get other.name "os" := by
    rw [Features.unset]
    simp
  rw [lastUpdate, lastUpdate, hos]
  by_cases hname : other.name = name
  · have hkeys : (features.unset name "skip-update").keys other.name
        = (features.keys other.name).map fun keys => keys.filter (· ≠ "skip-update") :=
      if_pos hname
    rw [hkeys]
    cases features.keys other.name with
    | error exc => rfl
    | ok keys =>
        have hqrexec : "qrexec" ∉ keys.filter (· ≠ "skip-update") ↔ "qrexec" ∉ keys := by
          simp
        show (if "qrexec" ∉ keys.filter (· ≠ "skip-update") then _ else _)
          = if "qrexec" ∉ keys then _ else _
        simp only [hqrexec]
        rfl
  · have hkeys : (features.unset name "skip-update").keys other.name
        = features.keys other.name := if_neg hname
    rw [hkeys]
    rfl

/-- Whether a qube is stale does not depend on the feature. -/
theorem isStale_unset (name : String) (other : SystemDomain) (expirationPeriod : Int) :
    isStale (features.unset name "skip-update") clock other expirationPeriod
      = isStale features clock other expirationPeriod := by
  rw [isStale, isStale, lastUpdate_unset]

/-- Examining a qube that may be started and is not to be skipped. -/
theorem examine_eq_selected_iff (hskip : readFlag features vm "skip-update" = false)
    (hstart : readFlag features vm "prohibit-start" = false) :
    examine features clock args vm = .ok .selected ↔ readFlag features vm "updates-available" = true ∨
      (args.updateIfAvailable = false ∧
        isStale features clock vm args.updateIfStale = .ok true) := by
  rw [examine, hskip, hstart, Bool.or_false, if_neg Bool.false_ne_true]
  cases havailable : readFlag features vm "updates-available" with
  | true => simp
  | false =>
      cases hif : args.updateIfAvailable with
      | true => simp
      | false =>
          cases hstale : isStale features clock vm args.updateIfStale with
          | error exc => simp
          | ok stale => cases stale <;> simp

/-! ## When a qube is returned -/

/-- The selection returns a candidate that is selected. -/
theorem returned_iff : Returned app features clock args vm ↔
    (vm ∈ candidates app args ∧ selects features clock args vm = true) ∧ AcceptedNames app args ∧
      (args.targets = "" → ∀ other ∈ candidates app args, ∃ value,
        features.get other.name "skip-update" = .ok value) ∧
      (args.forceUpdate = false →
        ∀ other ∈ candidates app args, ¬ Undated features clock args other) := by
  rw [Returned]
  simp only [getTargets_eq_ok]
  constructor
  · rintro ⟨selected, ⟨hnames, hread, hdated, rfl⟩, hvm⟩
    exact ⟨List.mem_filter.mp hvm, hnames, hread, hdated⟩
  · rintro ⟨hvm, hnames, hread, hdated⟩
    exact ⟨_, ⟨hnames, hread, hdated, rfl⟩, List.mem_filter.mpr hvm⟩

/-- A qube with the feature is only returned if all targets are, and some are named. -/
theorem returned_iff_forced (hskip : readFlag features vm "skip-update" = true) :
    Returned app features clock args vm ↔ vm ∈ candidates app args ∧ args.forceUpdate = true ∧
      args.targets ≠ "" ∧ AcceptedNames app args := by
  have hselects : selects features clock args vm = true
      ↔ args.forceUpdate = true ∧ args.targets ≠ "" := by
    rw [selects]
    cases args.forceUpdate with
    | true => simp [hskip]
    | false =>
        obtain ⟨line, hline⟩ := @examine_of_skip features clock args vm hskip
        simp [hline]
  rw [returned_iff, hselects]
  constructor
  · rintro ⟨⟨hmem, hforce, htargets⟩, hnames, -⟩
    exact ⟨hmem, hforce, htargets, hnames⟩
  · rintro ⟨hmem, hforce, htargets, hnames⟩
    refine ⟨⟨hmem, hforce, htargets⟩, hnames, fun h => absurd h htargets, fun h => ?_⟩
    rw [hforce] at h
    cases h

/-- A domain that is named is a candidate unless it is skipped. -/
theorem mem_candidates_of_named (hmem : vm ∈ app.domains) (hnamed : IsNamed args vm)
    (hskipped : vm.name ∉ toSkip args) : vm ∈ candidates app args := by
  have hdomain : vm ∈ namedDomains app args := by
    simp [namedDomains, hmem, hnamed.2]
  rw [candidates, if_pos hnamed.1, List.mem_filter, List.mem_union_iff]
  exact ⟨Or.inr hdomain, by simpa using hskipped⟩

/-- A qube that is not named is a candidate by its class. -/
theorem mem_candidates_of_unnamed (hnamed : ¬ IsNamed args vm) (htargets : args.targets ≠ "") :
    vm ∈ candidates app args ↔ vm ∈ classTargets app args ∧ vm.name ∉ toSkip args := by
  have hdomain : vm ∉ namedDomains app args := by
    intro h
    rw [namedDomains, List.mem_filter] at h
    exact hnamed ⟨htargets, by simpa using h.2⟩
  rw [candidates, if_pos htargets, List.mem_filter, List.mem_union_iff, or_iff_left hdomain]
  simp

/-- The feature changes nothing for other qubes, and a qube that is selected has no missing date. -/
theorem undated_unset_iff (hmem : vm ∈ app.domains)
    (hskip : readFlag features vm "skip-update" = true)
    (hselected : examine (features.unset vm.name "skip-update") clock args vm = .ok .selected)
    {other : SystemDomain} (hother : other ∈ app.domains) :
    Undated (features.unset vm.name "skip-update") clock args other
      ↔ Undated features clock args other := by
  by_cases hname : other.name = vm.name
  · obtain rfl : other = vm := List.inj_on_of_nodup_map app.nodup hother hmem hname
    apply iff_of_false
    · exact examine_returns_iff.mp ⟨_, hselected⟩
    · intro hundated
      have hflag := hundated.allowed.1
      rw [hskip] at hflag
      cases hflag
  · have hflag : readFlag (features.unset vm.name "skip-update") other "skip-update"
        = readFlag features other "skip-update" := by
      rw [readFlag, readFlag, Features.unset]
      simp [hname]
    have hstart := @readFlag_unset features "prohibit-start" (by decide) vm.name other
    have havailable := @readFlag_unset features "updates-available" (by decide) vm.name other
    have hdate := @lastUpdate_unset features clock vm.name other
    constructor
    · rintro ⟨hallowed, hundecided, hmissing⟩
      rw [hflag, hstart] at hallowed
      rw [havailable] at hundecided
      rw [hdate] at hmissing
      exact ⟨hallowed, hundecided, hmissing⟩
    · rintro ⟨hallowed, hundecided, hmissing⟩
      rw [← hflag, ← hstart] at hallowed
      rw [← havailable] at hundecided
      rw [← hdate] at hmissing
      exact ⟨hallowed, hundecided, hmissing⟩

/-- Without the feature, a named qube is returned if all targets are selected, or if there is a reason to
select it. -/
theorem returned_unset_iff (hmem : vm ∈ app.domains)
    (hskip : readFlag features vm "skip-update" = true)
    (hstart : readFlag features vm "prohibit-start" = false) (hnamed : IsNamed args vm)
    (hskipped : vm.name ∉ toSkip args) :
    Returned app (features.unset vm.name "skip-update") clock args vm ↔
      (args.forceUpdate = true ∧ AcceptedNames app args) ∨
        RefusedNamed app features clock args vm := by
  have hcandidate := mem_candidates_of_named hmem hnamed hskipped
  rw [returned_iff, and_iff_right hcandidate, selects]
  cases hforce : args.forceUpdate with
  | true =>
      have hnever : ¬ RefusedNamed app features clock args vm := by
        intro hrefused
        have hnot := hrefused.examined.1
        rw [hforce] at hnot
        cases hnot
      simp [hnever, hnamed.1]
  | false =>
      have hself := @readFlag_unset_self features vm
      have hstart' : readFlag (features.unset vm.name "skip-update") vm "prohibit-start" = false := by
        rw [readFlag_unset (by decide), hstart]
      have hselected := @examine_eq_selected_iff _ clock args vm hself hstart'
      rw [readFlag_unset (by decide), isStale_unset] at hselected
      simp only [Bool.false_eq_true, if_false, decide_eq_true_eq, true_imp_iff, false_and, false_or]
      constructor
      · rintro ⟨hexamine, hnames, -, hdated⟩
        refine ⟨⟨hnamed, hskipped, hnames⟩, ⟨hforce, fun other hother => ?_⟩,
          hselected.mp hexamine⟩
        rw [← undated_unset_iff hmem hskip hexamine (mem_domains_of_mem_candidates hother)]
        exact hdated other hother
      · rintro ⟨⟨-, -, hnames⟩, ⟨-, hdated⟩, hwanted⟩
        have hexamine := hselected.mpr hwanted
        refine ⟨hexamine, hnames, fun h => absurd h hnamed.1, fun other hother => ?_⟩
        rw [undated_unset_iff hmem hskip hexamine (mem_domains_of_mem_candidates hother)]
        exact hdated other hother

/-- The feature of a qube that may be started is honoured if and only if the qube is neither targeted by
its class and forced while others are named, nor named and wanted without being forced. -/
theorem honoursSkip_iff (hmem : vm ∈ app.domains)
    (hskip : readFlag features vm "skip-update" = true)
    (hstart : readFlag features vm "prohibit-start" = false) :
    HonoursSkip app features clock args vm ↔
      ¬ ReturnedUnnamed app args vm ∧ ¬ RefusedNamed app features clock args vm := by
  have hreturned := @returned_iff_forced app features clock args vm hskip
  constructor
  · rintro ⟨hunnamed, hnamed⟩
    constructor
    · rintro ⟨⟨hnot, htargets, hnames⟩, hforce, htargeted⟩
      refine hunnamed hnot (hreturned.mpr ⟨?_, hforce, htargets, hnames⟩)
      exact (mem_candidates_of_unnamed hnot htargets).mpr htargeted
    · intro hrefused
      obtain ⟨hyes, hskipped, -⟩ := hrefused.named
      have hunset := (returned_unset_iff hmem hskip hstart hyes hskipped).mpr (Or.inr hrefused)
      obtain ⟨-, hforce, -⟩ := hreturned.mp ((hnamed hyes hskipped).mpr hunset)
      have hnot := hrefused.examined.1
      rw [hforce] at hnot
      cases hnot
  · rintro ⟨hunnamed, hrefused⟩
    refine ⟨fun hnot hget => ?_, fun hyes hskipped => ?_⟩
    · obtain ⟨hcandidate, hforce, htargets, hnames⟩ := hreturned.mp hget
      have htargeted := (mem_candidates_of_unnamed hnot htargets).mp hcandidate
      exact hunnamed ⟨⟨hnot, htargets, hnames⟩, hforce, htargeted⟩
    · rw [returned_unset_iff hmem hskip hstart hyes hskipped, or_iff_left hrefused, hreturned]
      constructor
      · rintro ⟨-, hforce, -, hnames⟩
        exact ⟨hforce, hnames⟩
      · rintro ⟨hforce, hnames⟩
        exact ⟨mem_candidates_of_named hmem hyes hskipped, hforce, hyes.1, hnames⟩

end Skipping

/-- A template. -/
def fedoraTemplate : SystemDomain where
  name := "fedora"
  klass := .templateVM
  adminName := templateVM_adminName "fedora"
  updateable := true
  running := false

/-- A system with one template. -/
def templateApp : QubesApp := ⟨[fedoraTemplate], List.nodup_singleton _⟩

/-- It has updates, and is marked to skip them. -/
def skippingFeatures : Features where
  get _ key := .ok (if key = "skip-update" ∨ key = "updates-available" then some "1" else none)
  keys _ := .ok ["skip-update", "updates-available"]
  checkWithTemplate _ _ := .ok none

/-- Half a century after the epoch. -/
def lateClock : Clock := ⟨"1970-01-01 00:00:00", fun _ => .ok 20000⟩

/-- The template, if all qubes are targeted. -/
theorem honoursSkip_iff_default :
    HonoursSkip templateApp skippingFeatures lateClock {} fedoraTemplate ↔
      ¬ ReturnedUnnamed templateApp {} fedoraTemplate ∧
        ¬ RefusedNamed templateApp skippingFeatures lateClock {} fedoraTemplate :=
  honoursSkip_iff (List.mem_singleton_self _) (by decide) (by decide)

/-- The template is not returned, although it is named and has updates. -/
theorem skip_not_honoured :
    (¬ ∀ (app : QubesApp) (features : Features) (clock : Clock) (args : TargetingArgs)
      (vm : SystemDomain), vm ∈ app.domains → readFlag features vm "skip-update" = true →
      readFlag features vm "prohibit-start" = false → HonoursSkip app features clock args vm) ∧
    (getTargets templateApp skippingFeatures lateClock { targets := "fedora" }).2 = .ok [] ∧
    (getTargets templateApp (skippingFeatures.unset "fedora" "skip-update") lateClock
      { targets := "fedora" }).2 = .ok [fedoraTemplate] := by
  have hset : (getTargets templateApp skippingFeatures lateClock { targets := "fedora" }).2
      = .ok [] := by decide +kernel
  have hunset : (getTargets templateApp (skippingFeatures.unset "fedora" "skip-update") lateClock
      { targets := "fedora" }).2 = .ok [fedoraTemplate] := by decide +kernel
  refine ⟨fun h => ?_, hset, hunset⟩
  have hhonours := h templateApp skippingFeatures lateClock { targets := "fedora" } fedoraTemplate
    (List.mem_singleton_self _) (by decide) (by decide)
  have hnamed : IsNamed { targets := "fedora" } fedoraTemplate := ⟨by decide, by decide +kernel⟩
  obtain ⟨selected, hselected, hmem⟩ := (hhonours.named hnamed (by decide +kernel)).mpr
    ⟨[fedoraTemplate], hunset, List.mem_singleton_self _⟩
  rw [hset] at hselected
  cases hselected
  cases hmem

end QubesAdminLinux
