import QubesAdminLinux.Agent.NoUpdates

/-! # The dnf command line and the libraries

The agent drives dnf by its command line where the libraries are missing.  The two ways share the
listing of the packages and the installation of the requirements, and differ in how they report that
there is nothing to upgrade: the command exits with 0, the libraries lead to the code 100 at once.

* **`UpgradeKind`, `DnfApi.underlying`** — what the library does when it is asked for an upgrade.
* **`DnfApi.upgradeInternal_reports`** — `upgrade_internal` reports exactly this.
* **`SameBehaviour`** — the command line and a library do the same from the same system.
* **`upgrade_agrees_iff`** — when the two then return the same code. -/

namespace QubesAdminLinux

open StateExcept

variable {σ : Type}

/-! ## What the libraries do -/

/-- What an upgrade of the packages comes to. -/
inductive UpgradeKind
  /-- There is nothing to upgrade. -/
  | nothing
  /-- Packages have been upgraded, or downloaded in the update proxy. -/
  | changed
  /-- It has failed. -/
  | failed
  deriving DecidableEq, Repr

/-- The codes that report an upgrade. -/
def UpgradeKind.Reports : UpgradeKind → Int → Prop
  | .nothing, code => code = Exit.okNoUpdates
  | .changed, code => code = Exit.ok
  | .failed, code => code ≠ Exit.ok ∧ code ≠ Exit.okNoUpdates

/-- Library calls that raise have failed. -/
def UpgradeKind.ofOutcome : Except String UpgradeKind → UpgradeKind
  | .ok kind => kind
  | .error _ => .failed

/-- The calls that DNF is asked for in an upgrade, without the handling of exceptions. -/
def Dnf.libraryUpgrade (lib : DnfLibrary σ) (host : Host σ) (type : AgentType) :
    LibraryCall σ UpgradeKind := do
  lib.upgradeAll
  let installSet ← lib.resolve (type = .updateVm)
  match installSet with
  | none => pure .nothing
  | some installSet => do
      lib.downloadPackages installSet
      let check ← signCheck lib installSet {}
      if check.code ≠ Exit.ok then pure .failed
      else if type = .updateVm then pure .changed
      else do
        lib.doTransaction
        postInstall host type
        pure .changed

/-- The calls that DNF5 is asked for in an upgrade, without the handling of exceptions. -/
def Dnf5.libraryUpgrade (lib : Dnf5Library σ) (host : Host σ) (type : AgentType) :
    LibraryCall σ UpgradeKind := do
  lib.loadRepos
  let transaction ← lib.resolve (type = .updateVm)
  if transaction.packages = [] then pure .nothing
  else do
    runTransaction lib host type transaction
    pure .changed

/-- The libraries of the dnf family. -/
inductive DnfApi (σ : Type)
  | dnf (lib : DnfLibrary σ)
  | dnf5 (lib : Dnf5Library σ)

namespace DnfApi

/-- The class that drives the library, next to the command line `command`. -/
def backend (command : String) : DnfApi σ → Backend σ
  | .dnf lib => .dnf command lib
  | .dnf5 lib => .dnf5 command lib

/-- What the library does on a system when it is asked for an upgrade, and the system it leaves. -/
def underlying (host : Host σ) (type : AgentType) (removeObsolete : Bool) (system : σ) :
    DnfApi σ → UpgradeKind × σ
  | .dnf lib =>
      let run := exec (Dnf.libraryUpgrade lib host type) (lib.setConf "obsolete" removeObsolete system)
      (.ofOutcome run.1, lib.close run.2)
  | .dnf5 lib =>
      let run :=
        exec (Dnf5.libraryUpgrade lib host type) (lib.setConf "obsoletes" removeObsolete system)
      (.ofOutcome run.1, run.2)

end DnfApi

/-! ## What `upgrade_internal` reports -/

/-- Some agent code returns, has done to the system what the library call `x` does, and reports the
kind of its outcome. -/
def ReportsCall (code : Agent σ ProcessResult) (x : LibraryCall σ UpgradeKind) : Prop :=
  ∀ s, ∃ result s', exec code s = (.ok result, s') ∧ s'.system = (exec x s.system).2 ∧
    (UpgradeKind.ofOutcome (exec x s.system).1).Reports result.code

/-- Library calls that are caught, and then code for each outcome. -/
theorem reportsCall_try {α : Type} {x : LibraryCall σ α} {f : Except String α → Agent σ ProcessResult}
    {g : α → LibraryCall σ UpgradeKind}
    (hok : ∀ a, (∃ s s', exec x s = (.ok a, s')) → ReportsCall (f (.ok a)) (g a))
    (herror : ∀ text s, ∃ result, exec (f (.error text)) s = (.ok result, s) ∧
      result.code = Exit.errVmUpdate) : ReportsCall (tryLibrary x >>= f) (x >>= g) := by
  intro s
  have htry : exec (tryLibrary x) s = (.ok (exec x s.system).1, s.withSystem (exec x s.system).2) :=
    rfl
  rw [exec_bind htry]
  cases hx : exec x s.system with
  | mk outcome system =>
      cases outcome with
      -- the exception stops the calls, and is reported as a failed upgrade
      | error text =>
          obtain ⟨result, hrun, hcode⟩ := herror text (s.withSystem system)
          rw [exec_bind_error hx]
          refine ⟨result, _, hrun, rfl, ?_⟩
          rw [hcode]
          exact ⟨by decide, by decide⟩
      | ok a =>
          rw [exec_bind hx]
          exact hok a ⟨_, _, hx⟩ (s.withSystem system)

/-- Calls in two groups. -/
theorem reportsCall_assoc {α β : Type} {code : Agent σ ProcessResult} {x : LibraryCall σ α}
    {y : α → LibraryCall σ β} {g : β → LibraryCall σ UpgradeKind}
    (h : ReportsCall code ((do let a ← x; y a) >>= g)) :
    ReportsCall code (do let a ← x; let b ← y a; g b) := by
  rwa [bind_assoc] at h

/-- Code that returns without calling the library. -/
theorem reportsCall_pure {kind : UpgradeKind} {result : ProcessResult}
    (h : kind.Reports result.code) :
    ReportsCall (pure result : Agent σ ProcessResult) (pure kind) :=
  fun s => ⟨result, s, rfl, rfl, h⟩

/-- Printing does not touch the system. -/
theorem reportsCall_print {texts : Console} {code : Agent σ ProcessResult}
    {x : LibraryCall σ UpgradeKind} (h : ReportsCall code x) :
    ReportsCall (printTexts texts >>= fun _ => code) x := by
  intro s
  rw [exec_bind (exec_printTexts texts s)]
  exact h (s.print texts)

namespace Dnf

variable {lib : DnfLibrary σ} {host : Host σ} {type : AgentType}

/-- The transaction is run. -/
theorem reportsCall_commit {start : ProcessResult} (hstart : start.code = Exit.ok) :
    ReportsCall (commit lib host type start) (do
      lib.doTransaction
      postInstall host type
      pure .changed) := by
  refine reportsCall_print (reportsCall_assoc (reportsCall_try (fun _ _ => ?_) fun text s => ?_))
  · exact reportsCall_print (reportsCall_pure hstart)
  · refine ⟨_, rfl, ?_⟩
    show (start.iadd (exceptionResult Exit.errVmUpdate text)).code = Exit.errVmUpdate
    rw [ProcessResult.iadd_code, hstart]
    rfl

/-- The packages are downloaded and checked. -/
theorem reportsCall_install (installSet : List String) :
    ReportsCall (install lib host type installSet) (do
      lib.downloadPackages installSet
      let check ← signCheck lib installSet {}
      if check.code ≠ Exit.ok then pure .failed
      else if type = .updateVm then pure .changed
      else do
        lib.doTransaction
        postInstall host type
        pure .changed) := by
  refine reportsCall_assoc (reportsCall_try (fun check hcheck => ?_) fun text s => ⟨_, rfl, rfl⟩)
  dsimp only
  by_cases hcode : check.code = Exit.ok
  · rw [if_neg (not_not.mpr hcode)]
    by_cases htype : type = .updateVm
    · -- the update proxy only downloads
      rw [if_neg (not_and_not_right.mpr fun _ => htype), if_pos htype]
      exact reportsCall_pure hcode
    · rw [if_pos ⟨hcode, htype⟩, if_neg htype]
      exact reportsCall_commit hcode
  · -- a bad signature: the code of the check is neither 0 nor 100
    rw [if_neg fun h => hcode h.1, if_pos hcode]
    obtain ⟨s, s', hrun⟩ := hcheck
    obtain ⟨_, s₁, -, hsigns⟩ := exec_bind_ok hrun
    have hle := signCheck_code (by decide) hsigns
    refine reportsCall_pure ⟨hcode, fun hnone => ?_⟩
    rw [hnone] at hle
    exact absurd hle (by decide)

/-- The transaction is resolved. -/
theorem reportsCall_transaction : ReportsCall (transaction lib host type)
    (libraryUpgrade lib host type) := by
  refine reportsCall_assoc (reportsCall_try (fun installSet _ => ?_) fun text s => ⟨_, rfl, rfl⟩)
  cases installSet with
  | none => exact reportsCall_pure rfl
  | some installSet => exact reportsCall_install installSet

end Dnf

/-- The transaction of DNF5 is resolved and run. -/
theorem Dnf5.reportsCall_transaction {lib : Dnf5Library σ} {host : Host σ} {type : AgentType} :
    ReportsCall (do
      let outcome ← tryLibrary do
        lib.loadRepos
        lib.resolve (type = .updateVm)
      match outcome with
      | .error text => pure (exceptionResult Exit.errVmUpdate text)
      | .ok transaction =>
          if transaction.packages = [] then
            pure { code := Exit.okNoUpdates, err := "\n".intercalate transaction.resolveLogs }
          else do
            let outcome ← tryLibrary (runTransaction lib host type transaction)
            pure (Apt.upgradeResult {} outcome)) (libraryUpgrade lib host type) := by
  refine reportsCall_assoc (reportsCall_try (fun transaction _ => ?_) fun text s => ⟨_, rfl, rfl⟩)
  dsimp only
  by_cases hempty : transaction.packages = []
  · rw [if_pos hempty, if_pos hempty]
    exact reportsCall_pure rfl
  · rw [if_neg hempty, if_neg hempty]
    exact reportsCall_try (fun _ _ => reportsCall_pure rfl) fun text s => ⟨_, rfl, rfl⟩

/-- With both libraries, `upgrade_internal` returns, does to the system what the library does, and
reports what this has come to. -/
theorem DnfApi.upgradeInternal_reports (api : DnfApi σ) (command : String) (host : Host σ)
    (type : AgentType) (removeObsolete : Bool) (s : AgentState σ) :
    ∃ result s', exec (((api.backend command).packageManager host type).upgradeInternal
        removeObsolete) s = (.ok result, s') ∧
      s'.system = (api.underlying host type removeObsolete s.system).2 ∧
      (api.underlying host type removeObsolete s.system).1.Reports result.code := by
  cases api with
  | dnf lib =>
      obtain ⟨result, s', hrun, hsystem, hreports⟩ := @Dnf.reportsCall_transaction σ lib host type
        (s.withSystem (lib.setConf "obsolete" removeObsolete s.system))
      refine ⟨result, s'.withSystem (lib.close s'.system), ?_, ?_, hreports⟩
      · show exec (Dnf.upgradeInternal lib host type removeObsolete) s = _
        unfold Dnf.upgradeInternal
        rw [exec_bind (exec_changeSystem _ _), exec_bind hrun, exec_bind (exec_changeSystem _ _),
          exec_pure]
      · exact congrArg lib.close hsystem
  | dnf5 lib =>
      obtain ⟨result, s', hrun, hsystem, hreports⟩ := @Dnf5.reportsCall_transaction σ lib host type
        (s.withSystem (lib.setConf "obsoletes" removeObsolete s.system))
      refine ⟨result, s', ?_, hsystem, hreports⟩
      show exec (Dnf5.upgradeInternal lib host type removeObsolete) s = _
      unfold Dnf5.upgradeInternal
      rw [exec_bind (exec_changeSystem _ _)]
      exact hrun

/-! ## The same behaviour of both -/

/-- What the command line of dnf does when it is asked for an upgrade that comes to `kind`, and leaves
the packages `upgraded` if any are changed: it exits with 0 also if there is nothing to do. -/
def UpgradeKind.Exits (kind : UpgradeKind) (before after upgraded : Packages) (returncode : Int) :
    Prop :=
  match kind with
  | .nothing => returncode = 0 ∧ after = before
  | .changed => returncode = 0 ∧ after = upgraded
  -- the code 100 belongs to `check-update`
  | .failed => returncode ≠ 0 ∧ returncode ≠ 100

/-- The underlying package manager does the same for the command line and for the library; `same`
relates systems that it treats alike. -/
structure SameBehaviour (installed : σ → Packages) (same : σ → σ → Prop) (host : Host σ)
    (type : AgentType) (command : String) (api : DnfApi σ) (hardFail removeObsolete : Bool) :
    Prop where
  /-- A system is treated like itself. -/
  refl : ∀ system, same system system
  /-- The listing of the packages works, and reads what is installed. -/
  lists : (dnfPackageManager host type command).Lists installed
  /-- The refreshes are both successful or both not, and install nothing. -/
  refresh : ∀ s, ∃ result result' s' s'',
    exec (DnfCli.refresh host type command hardFail) s = (.ok result, s') ∧
    exec (((api.backend command).packageManager host type).refresh hardFail) s
      = (.ok result', s'') ∧
    (result.code = 0 ↔ result'.code = 0) ∧ same s'.system s''.system ∧
    installed s'.system = installed s.system
  /-- The upgrades come to the same. -/
  upgrade : ∀ system system', same system system' → ∃ child after,
    exec (host.communicate (command :: DnfCli.getAction type command removeObsolete)) system
      = (.ok child, after) ∧
    (api.underlying host type removeObsolete system').1.Exits (installed system) (installed after)
      (installed (api.underlying host type removeObsolete system').2) child.returncode

/-- The code of a run of the agent, if it returns. -/
def returnedCode (run : Except AgentError ProcessResult × AgentState σ) : Except AgentError Int :=
  run.1.map ProcessResult.code

/-- There is nothing to upgrade when the upgrade phase of the library is reached, and there was an
error before that is tolerated, or the agent runs in the update proxy, or the requirements have
changed the packages. -/
structure NothingAfterAll (installed : σ → Packages) (host : Host σ) (type : AgentType)
    (command : String) (api : DnfApi σ) (refresh hardFail removeObsolete : Bool)
    (requirements : Option (Dict String String)) (s : AgentState σ) : Prop where
  /-- The requirements and the refresh, and the reason. -/
  reached : ∃ required s₁ refreshed s₂,
    exec (((api.backend command).packageManager host type).requirementsPhase requirements
      (installed s.system) ProcessResult.realtimeEmpty) s = (.ok required, s₁) ∧
    (required.code ≠ 0 → hardFail = false) ∧
    exec (((api.backend command).packageManager host type).refreshPhase refresh hardFail required) s₁
      = (.ok refreshed, s₂) ∧
    (refreshed.code ≠ 0 → hardFail = false) ∧
    (api.underlying host type removeObsolete s₂.system).1 = .nothing ∧
    (refreshed.code ≠ 0 ∨ type = .updateVm ∨
      ¬Unchanged (installed s.system) (installed s₁.system))

/-! ## The phases in both runs -/

/-- The code of the upgrade phase: that of the results so far and of the upgrade, or that of the
comparison of the packages. -/
def decidedCode (type : AgentType) (prepared upgrade : Int) (unchanged : Prop)
    [Decidable unchanged] : Int :=
  if max prepared (upgradeCode upgrade) ≠ 0 then max prepared (upgradeCode upgrade)
  else if type = .updateVm then 0
  else if unchanged then 100
  else 0

namespace PackageManager

variable {self : PackageManager σ} {installed : σ → Packages}

/-- The comparison of the packages never fails. -/
theorem changesPhase_code (hlists : self.Lists installed) (currPkg : Packages)
    {result : ProcessResult} (hcode : result.code = 0) (s : AgentState σ) :
    returnedCode (exec (self.changesPhase currPkg result) s)
      = .ok (if Unchanged currPkg (installed s.system) then 100 else 0) := by
  obtain ⟨result', texts, hrun, hcode'⟩ := exec_changesPhase hcode (hlists s)
  rw [returnedCode, hrun]
  exact congrArg Except.ok hcode'

/-- The code of the upgrade phase, given what the upgrade returns. -/
theorem upgradePhase_code (hlists : self.Lists installed) {removeObsolete : Bool}
    (currPkg : Packages) (result : ProcessResult) {resultUpgrade : ProcessResult}
    {s s' : AgentState σ}
    (hupgrade : exec (self.upgradeInternal removeObsolete) s = (.ok resultUpgrade, s')) :
    returnedCode (exec (self.upgradePhase removeObsolete currPkg result) s)
      = .ok (decidedCode self.type result.code resultUpgrade.code
          (Unchanged currPkg (installed s'.system))) := by
  unfold upgradePhase decidedCode
  rw [exec_bind hupgrade, exec_bind (exec_mergeResult _ _ _)]
  have hmerged := result.iadd_code (resultUpgrade.markUpgradeFailure Exit.errVmUpdate)
  rw [ProcessResult.markUpgradeFailure_code] at hmerged
  by_cases hzero : max result.code (upgradeCode resultUpgrade.code) = 0
  · rw [hzero] at hmerged
    rw [if_neg (by rw [(ProcessResult.toBool_eq_false _).mpr hmerged]; decide),
      if_neg (not_not.mpr hzero)]
    by_cases htype : self.type = .updateVm
    · rw [if_pos htype, if_pos htype, exec_pure]
      exact congrArg Except.ok hmerged
    · rw [if_neg htype, if_neg htype]
      exact changesPhase_code hlists currPkg hmerged _
  · -- a code other than 0 is returned at once
    rw [if_pos ((ProcessResult.toBool_iff _).mpr (by rwa [hmerged])), if_pos hzero, exec_pure]
    exact congrArg Except.ok hmerged

/-- The code after the installation of the requirements. -/
theorem requirementsPhase_code {requirements : Option (Dict String String)} {currPkg : Packages}
    {required : ProcessResult} {s s' : AgentState σ}
    (h : exec (self.requirementsPhase requirements currPkg ProcessResult.realtimeEmpty) s
      = (.ok required, s')) : required.code = 0 ∨ required.code = 22 := by
  unfold requirementsPhase at h
  split at h
  · rw [exec_pure] at h
    cases h
    exact Or.inl rfl
  · rw [exec_bind (exec_printTexts _ _)] at h
    obtain ⟨resultInstall, s₁, -, h⟩ := exec_bind_ok h
    rw [exec_mergeResult] at h
    cases h
    rw [ProcessResult.iadd_code, ProcessResult.markFailure_code]
    by_cases hzero : resultInstall.code = 0
    · exact Or.inl (by rw [if_pos hzero]; rfl)
    · exact Or.inr (by rw [if_neg hzero]; rfl)

end PackageManager

section Agreement

variable {installed : σ → Packages} {same : σ → σ → Prop} {host : Host σ} {type : AgentType}
  {command : String} {api : DnfApi σ} {refresh hardFail removeObsolete : Bool}
  {requirements : Option (Dict String String)}

/-- Both classes install the requirements in the same way. -/
theorem DnfApi.requirementsPhase_eq (host : Host σ) (type : AgentType) (command : String)
    (api : DnfApi σ) :
    ((api.backend command).packageManager host type).requirementsPhase
      = (dnfPackageManager host type command).requirementsPhase := by
  cases api <;> rfl

/-- Both classes list the packages in the same way. -/
theorem DnfApi.getPackages_eq (api : DnfApi σ) :
    ((api.backend command).packageManager host type).getPackages
      = (dnfPackageManager host type command).getPackages := by
  cases api <;> rfl

/-- Both classes know what they are started for. -/
theorem DnfApi.type_eq (api : DnfApi σ) :
    ((api.backend command).packageManager host type).type = type := by
  cases api <;> rfl

/-- The refresh phases lead to the same code. -/
theorem SameBehaviour.refreshPhase
    (hsame : SameBehaviour installed same host type command api hardFail removeObsolete)
    (refresh : Bool) (required : ProcessResult) (hrequired : required.code = 0 ∨ required.code = 22)
    (s : AgentState σ) :
    ∃ refreshed refreshed' s' s'',
      exec ((dnfPackageManager host type command).refreshPhase refresh hardFail required) s
        = (.ok refreshed, s') ∧
      exec (((api.backend command).packageManager host type).refreshPhase refresh hardFail required)
        s = (.ok refreshed', s'') ∧
      refreshed.code = refreshed'.code ∧ 0 ≤ refreshed.code ∧ refreshed.code ≤ 23 ∧
      same s'.system s''.system ∧ installed s'.system = installed s.system := by
  unfold PackageManager.refreshPhase
  cases refresh with
  | false =>
      refine ⟨required, required, s, s, rfl, rfl, rfl, ?_, ?_, hsame.refl _, rfl⟩
      · omega
      · omega
  | true =>
      obtain ⟨result, result', s', s'', hrun, hrun', hcode, hsystems, hinstalled⟩ :=
        hsame.refresh (s.print ⟨["Refreshing package info"], []⟩)
      rw [if_pos rfl, if_pos rfl, exec_bind (exec_printTexts _ _), exec_bind (exec_printTexts _ _),
        exec_bind hrun', exec_mergeResult]
      have hcli : exec ((dnfPackageManager host type command).refresh hardFail)
          (s.print ⟨["Refreshing package info"], []⟩) = (.ok result, s') := hrun
      rw [exec_bind hcli, exec_mergeResult]
      refine ⟨_, _, _, _, rfl, rfl, ?_, ?_, ?_, hsystems, hinstalled⟩
      · simp only [ProcessResult.iadd_code, ProcessResult.markFailure_code, hcode]
      · rw [ProcessResult.iadd_code]
        exact le_max_of_le_left (by omega)
      · rw [ProcessResult.iadd_code, ProcessResult.markFailure_code]
        refine max_le (by omega) ?_
        split
        · decide
        · exact le_rfl

/-- A failed upgrade decides the code. -/
theorem decidedCode_failed {prepared upgrade : Int} {unchanged : Prop} [Decidable unchanged]
    (hle : prepared ≤ 23) (h : UpgradeKind.failed.Reports upgrade) :
    decidedCode type prepared upgrade unchanged = 24 := by
  have hcode : upgradeCode upgrade = 24 := by
    have hcases := upgradeCode_cases upgrade
    obtain ⟨hok, hnone⟩ := h
    simp only [Exit.ok, Exit.okNoUpdates] at hok hnone
    omega
  rw [decidedCode, hcode, max_eq_right (by omega), if_pos (by decide)]

/-- The code for "no updates" decides as well, also if there was an error before. -/
theorem decidedCode_nothing {prepared : Int} {unchanged : Prop} [Decidable unchanged]
    (hle : prepared ≤ 23) : decidedCode type prepared 100 unchanged = 100 := by
  rw [decidedCode, show upgradeCode 100 = 100 from rfl, max_eq_right (by omega), if_pos (by decide)]

/-- After a command that exits with 0, the code is 100 exactly if all went well, packages might have
been installed, and none were. -/
theorem decidedCode_zero_eq {prepared : Int} {unchanged : Prop} [Decidable unchanged]
    (hnonneg : 0 ≤ prepared) (hle : prepared ≤ 23) :
    decidedCode type prepared 0 unchanged = 100 ↔
      ¬(prepared ≠ 0 ∨ type = .updateVm ∨ ¬unchanged) := by
  rw [decidedCode, show upgradeCode 0 = 0 from rfl, max_eq_left hnonneg]
  by_cases hzero : prepared = 0
  · rw [if_neg (not_not.mpr hzero)]
    by_cases htype : type = .updateVm
    · simp [htype]
    · by_cases hunchanged : unchanged
      · simp [hzero, htype, hunchanged]
      · simp [hunchanged]
  · rw [if_pos hzero]
    refine ⟨fun h => ?_, fun h => absurd (Or.inl hzero) h⟩
    omega

/-- The upgrade phases return the same code, unless there is nothing to upgrade and something else
than "no updates" is to be said about the run. -/
theorem SameBehaviour.upgradePhase_iff
    (hsame : SameBehaviour installed same host type command api hardFail removeObsolete)
    (old : Packages) {prepared prepared' : ProcessResult} (hcode : prepared.code = prepared'.code)
    (hnonneg : 0 ≤ prepared.code) (hle : prepared.code ≤ 23) {s s' : AgentState σ}
    (hsystems : same s.system s'.system) :
    returnedCode (exec ((dnfPackageManager host type command).upgradePhase removeObsolete old
        prepared) s)
      = returnedCode (exec (((api.backend command).packageManager host type).upgradePhase
          removeObsolete old prepared') s')
      ↔ ¬((api.underlying host type removeObsolete s'.system).1 = .nothing ∧
          (prepared.code ≠ 0 ∨ type = .updateVm ∨ ¬Unchanged old (installed s.system))) := by
  obtain ⟨child, after, hcommand, hexits⟩ := hsame.upgrade _ _ hsystems
  obtain ⟨result, s₂, hrun, hsystem, hreports⟩ :=
    api.upgradeInternal_reports command host type removeObsolete s'
  -- the command line reports the exit code of its command
  obtain ⟨cliResult, hcommandRun, hcliCode⟩ := exec_runCmd true hcommand
  have hcli : exec ((dnfPackageManager host type command).upgradeInternal removeObsolete) s
      = (.ok cliResult, s.withSystem after) := hcommandRun
  have hlists : ((api.backend command).packageManager host type).Lists installed := by
    rw [PackageManager.Lists, api.getPackages_eq]
    exact hsame.lists
  rw [PackageManager.upgradePhase_code hsame.lists old prepared hcli,
    PackageManager.upgradePhase_code hlists old prepared' hrun, api.type_eq, hcliCode, ← hcode,
    Except.ok.injEq]
  show decidedCode type _ _ (Unchanged old (installed after)) = _ ↔ _
  cases hkind : (api.underlying host type removeObsolete s'.system).1 with
  | nothing =>
      rw [hkind] at hexits hreports
      obtain ⟨hzero, hsamePackages⟩ := hexits
      have hnone : result.code = 100 := hreports
      rw [hzero, hnone, decidedCode_nothing hle, hsamePackages,
        decidedCode_zero_eq hnonneg hle, eq_self_iff_true, true_and]
  | changed =>
      -- both are successful, and leave the same packages
      rw [hkind] at hexits hreports
      obtain ⟨hzero, hsamePackages⟩ := hexits
      have hok : result.code = 0 := hreports
      simp only [hzero, hok, hsamePackages, hsystem]
      simp
  | failed =>
      rw [hkind] at hexits hreports
      rw [decidedCode_failed hle hreports, decidedCode_failed hle hexits]
      simp

/-- A phase ends the upgrade if it has failed and this is not tolerated. -/
theorem stops_iff {result : ProcessResult} :
    (result.toBool && hardFail) = true ↔ result.code ≠ 0 ∧ hardFail = true := by
  rw [Bool.and_eq_true_iff, ProcessResult.toBool_iff]

/-- The upgrade goes on if the phase has not failed or its failure is tolerated. -/
theorem tolerated_iff {result : ProcessResult} :
    ¬ (result.toBool && hardFail) = true ↔ (result.code ≠ 0 → hardFail = false) := by
  rw [stops_iff, not_and, Bool.not_eq_true]

/-- What `NothingAfterAll` says of the requirements and the refresh that have been run. -/
theorem nothingAfterAll_iff {s s₁ s₂ : AgentState σ} {required refreshed : ProcessResult}
    (hrequirements : exec (((api.backend command).packageManager host type).requirementsPhase
      requirements (installed s.system) ProcessResult.realtimeEmpty) s = (.ok required, s₁))
    (hrefresh : exec (((api.backend command).packageManager host type).refreshPhase refresh hardFail
      required) s₁ = (.ok refreshed, s₂)) :
    NothingAfterAll installed host type command api refresh hardFail removeObsolete requirements s ↔
      (required.code ≠ 0 → hardFail = false) ∧ (refreshed.code ≠ 0 → hardFail = false) ∧
      (api.underlying host type removeObsolete s₂.system).1 = .nothing ∧
      (refreshed.code ≠ 0 ∨ type = .updateVm ∨
        ¬Unchanged (installed s.system) (installed s₁.system)) := by
  constructor
  · rintro ⟨required', _, refreshed', _, hrun, hrequired, hrun', hnothing⟩
    rw [hrequirements] at hrun
    cases hrun
    rw [hrefresh] at hrun'
    cases hrun'
    exact ⟨hrequired, hnothing⟩
  · rintro ⟨hrequired, hnothing⟩
    exact ⟨required, s₁, refreshed, s₂, hrequirements, hrequired, hrefresh, hnothing⟩

/-- The command line of dnf returns the same code as the library, both doing the same to the system,
unless the library finds nothing to upgrade after an error that is tolerated, in the update proxy, or
after the requirements have changed the packages. -/
theorem upgrade_agrees_iff
    (hsame : SameBehaviour installed same host type command api hardFail removeObsolete)
    (s : AgentState σ) :
    returnedCode (exec (((Backend.dnfCli command).packageManager host type).upgrade' refresh hardFail
        removeObsolete requirements) s)
      = returnedCode (exec (((api.backend command).packageManager host type).upgrade' refresh
          hardFail removeObsolete requirements) s)
      ↔ ¬NothingAfterAll installed host type command api refresh hardFail removeObsolete
          requirements s := by
  show returnedCode (exec ((dnfPackageManager host type command).upgrade' _ _ _ _) s) = _ ↔ _
  have hlists : exec ((api.backend command).packageManager host type).getPackages s
      = (.ok (installed s.system), s) := by
    rw [api.getPackages_eq]
    exact hsame.lists s
  unfold PackageManager.upgrade'
  rw [exec_bind (hsame.lists s), exec_bind hlists]
  have hequal := api.requirementsPhase_eq host type command
  cases hrequirements : exec ((dnfPackageManager host type command).requirementsPhase requirements
      (installed s.system) ProcessResult.realtimeEmpty) s with
  | mk outcome s₁ =>
      have hrequirements' := hrequirements
      rw [← hequal] at hrequirements'
      cases outcome with
      | error exc =>
          -- both raise
          rw [exec_bind_error hrequirements, exec_bind_error hrequirements']
          refine iff_of_true rfl ?_
          rintro ⟨required, _, _, _, hrun, -⟩
          rw [hrequirements'] at hrun
          cases hrun
      | ok required =>
          have hcodes := PackageManager.requirementsPhase_code hrequirements
          obtain ⟨refreshed, refreshed', s₂, s₂', hrefresh, hrefresh', hcode, hnonneg, hle,
            hsystems, hinstalled⟩ := hsame.refreshPhase refresh required hcodes s₁
          have htoBool : refreshed.toBool = refreshed'.toBool := by
            rw [Bool.eq_iff_iff, ProcessResult.toBool_iff, ProcessResult.toBool_iff, hcode]
          rw [nothingAfterAll_iff hrequirements' hrefresh', exec_bind hrequirements,
            exec_bind hrequirements']
          by_cases hstop : (required.toBool && hardFail) = true
          · -- a hard failure of the requirements
            rw [if_pos hstop, if_pos hstop]
            refine iff_of_true rfl fun hnothing => ?_
            exact tolerated_iff.mpr hnothing.1 hstop
          · rw [if_neg hstop, if_neg hstop, exec_bind hrefresh, exec_bind hrefresh', htoBool,
              and_iff_right (tolerated_iff.mp hstop)]
            by_cases hstop' : (refreshed'.toBool && hardFail) = true
            · -- a hard failure of the refresh
              rw [if_pos hstop', if_pos hstop', exec_pure, exec_pure]
              refine iff_of_true (congrArg Except.ok hcode) fun hnothing => ?_
              exact tolerated_iff.mpr hnothing.1 hstop'
            · rw [if_neg hstop', if_neg hstop', and_iff_right (tolerated_iff.mp hstop'),
                hsame.upgradePhase_iff _ hcode hnonneg hle hsystems, hinstalled, hcode]

end Agreement

/-! ## A qube that is up to date -/

namespace UpToDate

/-- What is installed. -/
def installed (_ : Unit) : Packages := Dict.ofList [("dnf", ["4.14.0-1"]), ("rpm", ["4.18.1-3"])]

/-- What `rpm` prints. -/
def listing : Bytes := "dnf 4.14.0-1\nrpm 4.18.1-3\n".toList.map fun c => UInt8.ofNat c.toNat

/-- The commands: only the refresh may fail. -/
def host (offline : Bool) : Host Unit where
  communicate := fun command =>
    if command.head? = some "rpm" then pure { returncode := 0, out := listing }
    else pure { returncode := if offline ∧ "check-update" ∈ command then 1 else 0 }

/-- DNF, which may fail to update its cache, and finds nothing to upgrade. -/
def api (offline : Bool) : DnfApi Unit := .dnf {
  setConf := fun _ _ s => s
  updateCache := pure !offline
  upgradeAll := pure ()
  resolve := fun _ => pure none
  downloadPackages := fun _ => pure ()
  packageSignatureCheck := fun _ => pure (.ok, "")
  packageImportKey := fun _ => pure ()
  doTransaction := pure ()
  close := id }

/-- What is listed is what is installed. -/
theorem parsePackages_listing :
    parsePackages DnfCli.columns (sanitizeOutput listing false) = .ok (installed ()) := rfl

/-- The listing reads what is installed. -/
theorem lists (offline : Bool) (type : AgentType) :
    (dnfPackageManager (host offline) type "dnf").Lists installed := by
  intro s
  let printed : ProcessResult := { code := 0, out := sanitizeOutput listing false }
  have hrun : exec (runCmd (host offline) ["rpm", "-qa", "--queryformat",
      "%\x7bNAME\x7d %\x7bVERSION\x7d-%\x7bRELEASE\x7d\n"] false) s = (.ok printed, s) := rfl
  show exec (listPackages (host offline) _ DnfCli.columns) s = _
  unfold listPackages
  rw [exec_bind hrun, exec_ofResult, parsePackages_listing]

/-- The command line and the library do the same; the update proxy uses its repositories as they
are. -/
theorem sameBehaviour (type : AgentType) (offline : Bool)
    (htype : type = .updateVm → offline = false) :
    SameBehaviour installed (fun _ _ => True) (host offline) type "dnf" (api offline) false true where
  refl := fun _ => trivial
  lists := lists offline type
  refresh := by
    intro s
    -- the codes of a failed refresh
    have hcli : ¬(1 : Int) = 0 := by decide
    have hapi : ¬(Exit.errVmRefresh : Int) = 0 := by decide
    cases type with
    | updateVm =>
        cases htype rfl
        exact ⟨_, _, _, _, rfl, rfl, iff_of_true rfl rfl, trivial, rfl⟩
    | vm =>
        cases offline with
        | false => exact ⟨_, _, _, _, rfl, rfl, iff_of_true rfl rfl, trivial, rfl⟩
        | true => exact ⟨_, _, _, _, rfl, rfl, iff_of_false hcli hapi, trivial, rfl⟩
    | dom0 =>
        cases offline with
        | false => exact ⟨_, _, _, _, rfl, rfl, iff_of_true rfl rfl, trivial, rfl⟩
        | true => exact ⟨_, _, _, _, rfl, rfl, iff_of_false hcli hapi, trivial, rfl⟩
  upgrade := by
    intro system system' _
    refine ⟨{ returncode := 0 }, (), ?_, ?_⟩
    · cases type <;> cases offline <;> rfl
    · cases type <;> exact ⟨rfl, rfl⟩

/-- A run of `_upgrade` with the command line, or with the library. -/
def run (backend : Backend Unit) (offline : Bool) (type : AgentType) : Except AgentError Int :=
  returnedCode (exec ((backend.packageManager (host offline) type).upgrade' true false true none)
    ⟨(), {}⟩)

/-- In a qube that is online, both say that there are no updates. -/
theorem upgrade_agrees_online :
    run (.dnfCli "dnf") false .vm = run ((api false).backend "dnf") false .vm
      ↔ ¬NothingAfterAll installed (host false) .vm "dnf" (api false) true false true none
          ⟨(), {}⟩ := by
  unfold run
  exact upgrade_agrees_iff (sameBehaviour .vm false nofun) ⟨(), {}⟩

/-- Offline, the library says that there are no updates, although the refresh has failed; in the update
proxy, the command line does not say that there are none. -/
theorem upgrade_disagrees :
    (SameBehaviour installed (fun _ _ => True) (host true) .vm "dnf" (api true) false true ∧
      run (.dnfCli "dnf") true .vm = .ok 23 ∧ run ((api true).backend "dnf") true .vm = .ok 100) ∧
    SameBehaviour installed (fun _ _ => True) (host false) .updateVm "dnf" (api false) false true ∧
      run (.dnfCli "dnf") false .updateVm = .ok 0 ∧
      run ((api false).backend "dnf") false .updateVm = .ok 100 :=
  ⟨⟨sameBehaviour .vm true nofun, rfl, rfl⟩, sameBehaviour .updateVm false fun _ => rfl, rfl, rfl⟩

end UpToDate

end QubesAdminLinux
