import QubesAdminLinux.Agent.Backends

/-! # Package changes

What `compare_packages` reports, seen as a patch: it leads from the old packages to the new ones, and
back.  In this it takes the versions of a package as a list, in the order in which the package manager
lists them.

* **`Changes.apply`, `Changes.reverse`** — making the changes, and undoing them.
* **`comparePackages_faithful`** — the reported changes are a faithful patch.
* **`listedVersions`** — the versions of a package in a listing; **`get?_of_parsePackages`** — these are
  what is read of it.
* **`reordered_listing_iff`** — when two orders of one listing are not told apart. -/

namespace QubesAdminLinux

open StateExcept

/-! ## The patch -/

namespace Changes

/-- Nothing is reported. -/
def isEmpty (changes : Changes) : Bool :=
  changes.installed.isEmpty && changes.updated.isEmpty && changes.removed.isEmpty

/-- Make the changes: remove packages, set the new versions, add packages. -/
def apply (changes : Changes) (packages : Packages) : Packages :=
  ((packages.without changes.removed).update (changes.updated.mapValues Prod.snd)).update
    changes.installed

/-- The changes read backwards. -/
def reverse (changes : Changes) : Changes where
  installed := changes.removed
  updated := changes.updated.mapValues Prod.swap
  removed := changes.installed

/-- The versions of a package after the changes. -/
theorem get?_apply (changes : Changes) (packages : Packages) (pkg : String) :
    (changes.apply packages).get? pkg
      = (changes.installed.get? pkg).or (((changes.updated.get? pkg).map Prod.snd).or
          (if (changes.removed.get? pkg).isNone then packages.get? pkg else none)) := by
  rw [apply, Dict.get?_update, Dict.get?_update, Dict.get?_mapValues, Dict.get?_without]

end Changes

/-- The changes lead from the old packages to the new ones, and back, and there are none only if the
packages are the same. -/
structure FaithfulPatch (old new : Packages) (changes : Changes) : Prop where
  /-- No package is both installed and updated. -/
  installed_updated : changes.installed.keys.Disjoint changes.updated.keys
  /-- No package is both installed and removed. -/
  installed_removed : changes.installed.keys.Disjoint changes.removed.keys
  /-- No package is both updated and removed. -/
  updated_removed : changes.updated.keys.Disjoint changes.removed.keys
  /-- The changes make the new packages of the old ones. -/
  forward : (changes.apply old).Same new
  /-- Read backwards, they make the old packages of the new ones. -/
  backward : (changes.reverse.apply new).Same old
  /-- When nothing is reported. -/
  isEmpty_iff : changes.isEmpty = true ↔ old.Same new

section Comparison

variable (old new : Packages) (pkg : String)

/-- A package is installed if only the new packages have it. -/
theorem get?_installed : (comparePackages old new).installed.get? pkg
    = if (old.get? pkg).isNone then new.get? pkg else none := by
  rw [comparePackages, Dict.get?_filterMapValues]
  cases new.get? pkg with
  | none => simp
  | some versions => rfl

/-- It is removed if only the old packages have it. -/
theorem get?_removed : (comparePackages old new).removed.get? pkg
    = if (new.get? pkg).isNone then old.get? pkg else none := by
  rw [comparePackages, Dict.get?_filterMapValues]
  cases old.get? pkg with
  | none => simp
  | some versions => rfl

/-- It is updated if both have it, with other versions. -/
theorem get?_updated : (comparePackages old new).updated.get? pkg
    = (new.get? pkg).bind fun versions => (old.get? pkg).bind fun before =>
        if before ≠ versions then some (before, versions) else none := by
  rw [comparePackages, Dict.get?_filterMapValues]

/-- Nothing is reported if and only if the packages are the same. -/
theorem comparePackages_isEmpty_iff :
    (comparePackages old new).isEmpty = true ↔ old.Same new := by
  rw [Changes.isEmpty, Bool.and_eq_true, Bool.and_eq_true, Dict.isEmpty_iff, Dict.isEmpty_iff,
    Dict.isEmpty_iff, ← forall_and, ← forall_and]
  apply forall_congr'
  intro pkg
  rw [get?_installed, get?_updated, get?_removed]
  -- each package is classified by whether it is there, before and after
  cases hold : old.get? pkg with
  | none => simpa using @eq_comm _ (new.get? pkg) none
  | some before =>
      cases hnew : new.get? pkg with
      | none => simp
      | some versions => simp

/-- The reported package changes are a faithful patch. -/
theorem comparePackages_faithful : FaithfulPatch old new (comparePackages old new) where
  installed_updated := by
    intro pkg hinstalled hupdated
    rw [Dict.mem_keys, get?_installed] at hinstalled
    rw [Dict.mem_keys, get?_updated] at hupdated
    cases hold : old.get? pkg with
    | none => simp [hold] at hupdated
    | some before => simp [hold] at hinstalled
  installed_removed := by
    intro pkg hinstalled hremoved
    rw [Dict.mem_keys, get?_installed] at hinstalled
    rw [Dict.mem_keys, get?_removed] at hremoved
    cases hold : old.get? pkg with
    | none => simp [hold] at hremoved
    | some before => simp [hold] at hinstalled
  updated_removed := by
    intro pkg hupdated hremoved
    rw [Dict.mem_keys, get?_updated] at hupdated
    rw [Dict.mem_keys, get?_removed] at hremoved
    cases hnew : new.get? pkg with
    | none => simp [hnew] at hupdated
    | some versions => simp [hnew] at hremoved
  forward := by
    intro pkg
    rw [Changes.get?_apply, get?_installed, get?_updated, get?_removed]
    cases hold : old.get? pkg with
    | none => simp
    | some before =>
        cases hnew : new.get? pkg with
        | none => simp
        | some versions =>
            by_cases heq : before = versions
            · simp [heq]
            · simp [heq]
  backward := by
    intro pkg
    rw [Changes.get?_apply, Changes.reverse, get?_installed, Dict.get?_mapValues, get?_updated,
      get?_removed]
    cases hnew : new.get? pkg with
    | none => simp
    | some versions =>
        cases hold : old.get? pkg with
        | none => simp
        | some before =>
            by_cases heq : before = versions
            · simp [heq]
            · simp [heq]
  isEmpty_iff := comparePackages_isEmpty_iff old new

end Comparison

/-! ## Listings -/

/-- The entry of a package with these versions, if there are any. -/
def versionsEntry (versions : List String) : Option (List String) :=
  if versions = [] then none else some versions

/-- Different versions are told apart. -/
theorem versionsEntry_inj {versions versions' : List String} :
    versionsEntry versions = versionsEntry versions' ↔ versions = versions' := by
  constructor
  · intro h
    by_cases hv : versions = []
    · by_cases hv' : versions' = []
      · rw [hv, hv']
      · rw [versionsEntry, versionsEntry, if_pos hv, if_neg hv'] at h
        cases h
    · by_cases hv' : versions' = []
      · rw [versionsEntry, versionsEntry, if_neg hv, if_pos hv'] at h
        cases h
      · rw [versionsEntry, versionsEntry, if_neg hv, if_neg hv'] at h
        exact Option.some.inj h
  · intro h
    rw [h]

section Parsing

variable (columns : List String → Except AgentError (Option (String × String)))

/-- The version that a line lists for a package. -/
def listedVersion (package line : String) : Option String :=
  match columns (words line) with
  | .ok (some (name, version)) => if name = package then some version else none
  | .ok none => none
  | .error _ => none

/-- The versions that lines list for a package, in the order of the lines. -/
def listedVersions (lines : List String) (package : String) : List String :=
  lines.filterMap (listedVersion columns package)

/-- Add what a line lists. -/
def addListed (packages : Packages) : Option (String × String) → Packages
  | some (package, version) => addVersion packages package version
  | none => packages

/-- Reading a listing adds its lines one after the other. -/
theorem parsePackages_eq (out : String) : parsePackages columns out
    = (splitLines out).foldlM
        (fun packages line => (columns (words line)).map (addListed packages)) Dict.empty := rfl

variable {columns}

/-- A line adds its version to those of its package. -/
theorem get?_addListed {packages : Packages} {line : String} {listed : Option (String × String)}
    (hline : columns (words line) = .ok listed) {package : String} {versions : List String}
    (hpackages : packages.get? package = versionsEntry versions) :
    (addListed packages listed).get? package
      = versionsEntry (versions ++ (listedVersion columns package line).toList) := by
  rw [listedVersion, hline]
  cases listed with
  | none => simpa [addListed] using hpackages
  | some entry =>
      obtain ⟨name, version⟩ := entry
      show (addVersion packages name version).get? package
        = versionsEntry (versions ++ (if name = package then some version else none).toList)
      rw [addVersion, Dict.get?_set]
      by_cases hname : name = package
      · have hversions : (packages.get? name).getD [] = versions := by
          rw [hname, hpackages, versionsEntry]
          by_cases hnone : versions = []
          · rw [if_pos hnone, hnone, Option.getD_none]
          · rw [if_neg hnone, Option.getD_some]
        rw [if_pos hname.symm, if_pos hname, hversions, versionsEntry, if_neg (by simp)]
        rfl
      · rw [if_neg (Ne.symm hname), if_neg hname, hpackages]
        simp

/-- The packages after some more lines. -/
theorem get?_of_foldlM {lines : List String} {packages result : Packages}
    (h : lines.foldlM (fun packages line => (columns (words line)).map (addListed packages)) packages
      = .ok result) {package : String} {versions : List String}
    (hpackages : packages.get? package = versionsEntry versions) :
    result.get? package = versionsEntry (versions ++ listedVersions columns lines package) := by
  induction lines generalizing packages versions with
  | nil =>
      cases h
      rw [hpackages, listedVersions, List.filterMap_nil, List.append_nil]
  | cons line rest ih =>
      rw [List.foldlM_cons, bind_eq_ok] at h
      obtain ⟨next, hnext, hrest⟩ := h
      cases hline : columns (words line) with
      | error exc =>
          rw [hline] at hnext
          cases hnext
      | ok listed =>
          rw [hline] at hnext
          cases hnext
          rw [ih hrest (get?_addListed hline hpackages), listedVersions, listedVersions,
            List.filterMap_cons, List.append_assoc]
          cases listedVersion columns package line with
          | none => rfl
          | some version => rfl

/-- Each package has the versions that are listed for it. -/
theorem get?_of_parsePackages {out : String} {packages : Packages}
    (h : parsePackages columns out = .ok packages) (package : String) :
    packages.get? package = versionsEntry (listedVersions columns (splitLines out) package) := by
  rw [parsePackages_eq] at h
  have hempty : (Dict.empty : Packages).get? package = versionsEntry [] := rfl
  simpa using get?_of_foldlM h hempty

/-- A listing can be read if and only if each of its lines can. -/
theorem parsePackages_returns_iff {out : String} :
    (∃ packages, parsePackages columns out = .ok packages) ↔
      ∀ line ∈ splitLines out, ∃ listed, columns (words line) = .ok listed := by
  have hfold : ∀ (lines : List String) (start : Packages),
      (∃ packages, lines.foldlM
        (fun packages line => (columns (words line)).map (addListed packages)) start = .ok packages) ↔
        ∀ line ∈ lines, ∃ listed, columns (words line) = .ok listed := by
    intro lines
    induction lines with
    | nil =>
        intro start
        exact iff_of_true ⟨start, rfl⟩ (by simp)
    | cons line rest ih =>
        intro start
        rw [List.forall_mem_cons, List.foldlM_cons]
        cases hline : columns (words line) with
        | error exc =>
            apply iff_of_false
            · rintro ⟨packages, h⟩
              cases h
            · rintro ⟨⟨listed, h⟩, -⟩
              cases h
        | ok listed =>
            have hstep := ih (addListed start listed)
            rw [and_iff_right ⟨listed, rfl⟩, ← hstep]
            rfl
  exact hfold _ _

/-- What is reported between two listings that can be read. -/
theorem listings_isEmpty_iff {out out' : String} {old new : Packages}
    (hold : parsePackages columns out = .ok old) (hnew : parsePackages columns out' = .ok new) :
    (comparePackages old new).isEmpty = true ↔ ∀ package,
      listedVersions columns (splitLines out) package
        = listedVersions columns (splitLines out') package := by
  rw [comparePackages_isEmpty_iff]
  apply forall_congr'
  intro package
  rw [get?_of_parsePackages hold, get?_of_parsePackages hnew, versionsEntry_inj]

/-- At most one version cannot be listed in another order. -/
theorem listedVersions_perm {lines lines' : List String} (hperm : lines.Perm lines')
    {package : String} (hone : (listedVersions columns lines package).length ≤ 1) :
    listedVersions columns lines package = listedVersions columns lines' package := by
  have hversions : (listedVersions columns lines package).Perm
      (listedVersions columns lines' package) := hperm.filterMap _
  cases hlisted : listedVersions columns lines package with
  | nil =>
      rw [hlisted] at hversions
      exact hversions.nil_eq
  | cons version rest =>
      have hrest : rest = [] := by
        rw [hlisted] at hone
        simpa using hone
      rw [hlisted, hrest] at hversions
      rw [hrest]
      exact (List.perm_singleton.mp hversions.symm).symm

end Parsing

/-! ## The package managers -/

variable {σ : Type}

/-- The command that lists the packages. -/
def Backend.listCommand : Backend σ → List String
  | .aptCli | .apt _ => ["dpkg-query", "--showformat",
      "$\x7bStatus\x7d $\x7bPackage\x7d $\x7bVersion\x7d\n", "-W"]
  | .dnfCli _ | .dnf _ _ | .dnf5 _ _ => ["rpm", "-qa", "--queryformat",
      "%\x7bNAME\x7d %\x7bVERSION\x7d-%\x7bRELEASE\x7d\n"]
  | .pacmanCli => [PacmanCli.packageManager, "-Q"]

/-- What is read of the columns of a line. -/
def Backend.columns : Backend σ → List String → Except AgentError (Option (String × String))
  | .aptCli | .apt _ => AptCli.columns
  | .dnfCli _ | .dnf _ _ | .dnf5 _ _ | .pacmanCli => DnfCli.columns

/-- Each back end lists the packages by its command and reads its columns. -/
theorem Backend.getPackages_eq (backend : Backend σ) (host : Host σ) (type : AgentType) :
    (backend.packageManager host type).getPackages
      = listPackages host backend.listCommand backend.columns := by
  cases backend with
  | aptCli => rfl
  | apt lib => rfl
  | dnfCli packageManager => rfl
  | dnf packageManager lib => rfl
  | dnf5 packageManager lib => rfl
  | pacmanCli => rfl

/-- The command that lists the packages writes `out`. -/
def Backend.WritesListing (backend : Backend σ) (host : Host σ) (s : AgentState σ) (out : Bytes) : Prop :=
  ∃ child system, exec (host.communicate backend.listCommand) s.system = (.ok child, system) ∧
    child.out = out

/-- The lines of an output, as the agent sees it. -/
def listingLines (out : Bytes) : List String := splitLines (sanitizeOutput out false)

/-- The packages are read of what is listed. -/
theorem Backend.WritesListing.exec_getPackages {backend : Backend σ} {host : Host σ}
    {s : AgentState σ} {out : Bytes} (h : backend.WritesListing host s out) (type : AgentType) :
    ∃ t, exec (backend.packageManager host type).getPackages s
      = (parsePackages backend.columns (sanitizeOutput out false), t) := by
  obtain ⟨child, system, hcall, rfl⟩ := h
  obtain ⟨result, hrun, -⟩ := exec_runCmd false hcall
  obtain ⟨child', hcall', -, hout⟩ := runCmd_code hrun
  have hchild : child' = child := by
    rw [hcall] at hcall'
    exact (Except.ok.inj (Prod.mk.inj hcall').1).symm
  rw [hchild] at hout
  rw [Backend.getPackages_eq, listPackages, exec_bind hrun, exec_ofResult, hout]
  exact ⟨_, rfl⟩

/-- Listing the same lines in another order reports no changes if and only if each package with more than
one version has its versions listed in the same order. -/
theorem reordered_listing_iff {backend : Backend σ} {host : Host σ} {type : AgentType}
    {s s' t : AgentState σ} {out out' : Bytes} {old : Packages}
    (hout : backend.WritesListing host s out) (hout' : backend.WritesListing host s' out')
    (hperm : (listingLines out).Perm (listingLines out'))
    (hold : exec (backend.packageManager host type).getPackages s = (.ok old, t)) :
    (∃ new t', exec (backend.packageManager host type).getPackages s' = (.ok new, t') ∧
      (comparePackages old new).isEmpty = true) ↔
    ∀ package, 1 < (listedVersions backend.columns (listingLines out) package).length →
      listedVersions backend.columns (listingLines out) package
        = listedVersions backend.columns (listingLines out') package := by
  obtain ⟨u, hexec⟩ := hout.exec_getPackages type
  obtain ⟨u', hexec'⟩ := hout'.exec_getPackages type
  rw [hold] at hexec
  have hparse := (Prod.mk.inj hexec).1.symm
  -- the other order can be read as well
  have hlines := parsePackages_returns_iff.mp ⟨old, hparse⟩
  obtain ⟨new, hparse'⟩ := parsePackages_returns_iff.mpr fun line hline =>
    hlines line (hperm.mem_iff.mpr hline)
  have hreported := listings_isEmpty_iff hparse hparse'
  rw [hexec', hparse']
  constructor
  · rintro ⟨new', t', hnew, hempty⟩ package -
    obtain rfl := Except.ok.inj (Prod.mk.inj hnew).1
    exact hreported.mp hempty package
  · intro horder
    refine ⟨new, u', rfl, hreported.mpr fun package => ?_⟩
    rcases Nat.lt_or_ge 1 (listedVersions backend.columns (listingLines out) package).length
      with hmore | hone
    · exact horder package hmore
    · exact listedVersions_perm hperm hone

/-- The lines about two kernels, in one order or the other. -/
def kernelLines (swapped : Bool) : List String :=
  if swapped then ["kernel 6.6", "kernel 6.1"] else ["kernel 6.1", "kernel 6.6"]

/-- The output with these lines. -/
def kernelListing (swapped : Bool) : Bytes :=
  encodeAscii ("\n".intercalate (kernelLines swapped) ++ "\n")

/-- What is read of it. -/
def kernelPackages (swapped : Bool) : Packages :=
  Dict.ofList [("kernel", if swapped then ["6.6", "6.1"] else ["6.1", "6.6"])]

/-- A system that lists its kernels in an order that may change. -/
def kernelHost : Host Bool where
  communicate _ := do
    let swapped ← get
    pure { returncode := 0, out := kernelListing swapped }

/-- The command that lists the packages writes the kernels in the order of the system. -/
theorem lists_kernelHost (swapped : Bool) :
    (Backend.dnfCli "dnf").WritesListing kernelHost ⟨swapped, {}⟩ (kernelListing swapped) :=
  ⟨_, _, rfl, rfl⟩

/-- The agent sees the lines as they are written. -/
theorem listingLines_kernelListing (swapped : Bool) :
    listingLines (kernelListing swapped) = kernelLines swapped := by
  cases swapped with
  | false => decide +kernel
  | true => decide +kernel

/-- Both orders of the kernels are read. -/
theorem parsePackages_kernelListing (swapped : Bool) :
    parsePackages DnfCli.columns (sanitizeOutput (kernelListing swapped) false)
      = .ok (kernelPackages swapped) := by
  have hold : words "kernel 6.1" = ["kernel", "6.1"] := by decide +kernel
  have hnew : words "kernel 6.6" = ["kernel", "6.6"] := by decide +kernel
  rw [parsePackages_eq, ← listingLines, listingLines_kernelListing]
  cases swapped with
  | false =>
      simp only [kernelLines, Bool.false_eq_true, if_false, List.foldlM_cons, hold, hnew]
      rfl
  | true =>
      simp only [kernelLines, if_true, List.foldlM_cons, hold, hnew]
      rfl

/-- Reading a listing of the kernels. -/
theorem exec_getPackages_kernelHost (swapped : Bool) :
    ∃ t, exec ((Backend.dnfCli "dnf").packageManager kernelHost .vm).getPackages ⟨swapped, {}⟩
      = (.ok (kernelPackages swapped), t) := by
  rw [← parsePackages_kernelListing]
  exact (lists_kernelHost swapped).exec_getPackages .vm

/-- The kernels, listed twice in the same order. -/
theorem reordered_listing_iff_kernels :
    (∃ new t', exec ((Backend.dnfCli "dnf").packageManager kernelHost .vm).getPackages ⟨false, {}⟩
        = (.ok new, t') ∧ (comparePackages (kernelPackages false) new).isEmpty = true) ↔
      ∀ package, 1 < (listedVersions DnfCli.columns (listingLines (kernelListing false))
          package).length →
        listedVersions DnfCli.columns (listingLines (kernelListing false)) package
          = listedVersions DnfCli.columns (listingLines (kernelListing false)) package := by
  obtain ⟨t, ht⟩ := exec_getPackages_kernelHost false
  exact reordered_listing_iff (lists_kernelHost false) (lists_kernelHost false)
    (List.Perm.refl _) ht

/-- The kernels listed in the other order are reported as updated. -/
theorem reordered_listing_reported :
    (¬ ∀ (backend : Backend Bool) (host : Host Bool) (type : AgentType) (s s' t : AgentState Bool)
      (out out' : Bytes) (old : Packages),
      backend.WritesListing host s out → backend.WritesListing host s' out' →
      (listingLines out).Perm (listingLines out') →
      exec (backend.packageManager host type).getPackages s = (.ok old, t) →
      ∃ new t', exec (backend.packageManager host type).getPackages s' = (.ok new, t') ∧
        (comparePackages old new).isEmpty = true) ∧
    (comparePackages (kernelPackages false) (kernelPackages true)).updated.get? "kernel"
      = some (["6.1", "6.6"], ["6.6", "6.1"]) := by
  have hupdated : (comparePackages (kernelPackages false) (kernelPackages true)).updated.get? "kernel"
      = some (["6.1", "6.6"], ["6.6", "6.1"]) := by decide +kernel
  refine ⟨fun h => ?_, hupdated⟩
  have hperm : (listingLines (kernelListing false)).Perm (listingLines (kernelListing true)) := by
    rw [listingLines_kernelListing, listingLines_kernelListing]
    exact List.Perm.swap _ _ _
  obtain ⟨t, ht⟩ := exec_getPackages_kernelHost false
  obtain ⟨u, hu⟩ := exec_getPackages_kernelHost true
  obtain ⟨new, t', hnew, hempty⟩ := h (.dnfCli "dnf") kernelHost .vm ⟨false, {}⟩ ⟨true, {}⟩ t _ _
    (kernelPackages false) (lists_kernelHost false) (lists_kernelHost true) hperm ht
  rw [hu] at hnew
  obtain rfl := Except.ok.inj (Prod.mk.inj hnew).1
  rw [comparePackages_isEmpty_iff] at hempty
  have hsame : some ["6.1", "6.6"] = some ["6.6", "6.1"] := hempty "kernel"
  exact absurd hsame (by decide)

end QubesAdminLinux
