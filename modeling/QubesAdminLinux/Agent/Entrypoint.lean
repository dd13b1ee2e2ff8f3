import QubesAdminLinux.Agent.Backends
import QubesAdminLinux.Agent.Phases

/-! # The entry point of the agent

`main` chooses a package manager for the operating system, upgrades, cleans up, and reports one exit
code for everything that has happened.

* **`Installation.getPackageManager`** — the choice of the class, given the libraries that can be
  imported.
* **`AgentProgram.main`** — a run of the agent; `AgentProgram.exec_main_recording` says that a journal
  does not change it.
* **`CodeOutcome`** — the four kinds of exit codes of `_upgrade`, with what the journal says then.
* **`main_failure_reported_iff`** — exactly when a failed phase is visible in the exit code. -/

namespace QubesAdminLinux

open StateExcept

variable {σ α β : Type}

/-- The families of operating systems. -/
inductive OsFamily
  | unknown
  | debian
  | redHat
  | qubes
  | archLinux
  deriving DecidableEq, Repr

/-- What the agent knows about the operating system. -/
structure OsData where
  /-- `id`. -/
  id : String
  /-- `os_family`. -/
  osFamily : OsFamily
  /-- `release`, unless it is not known. -/
  release : Option String
  deriving DecidableEq

/-- The options of an agent. -/
structure AgentArgs where
  /-- `--no-refresh`. -/
  noRefresh : Bool := false
  /-- `--force-upgrade`. -/
  forceUpgrade : Bool := false
  /-- `--no-cleanup`. -/
  noCleanup : Bool := false
  /-- `--leave-obsolete`. -/
  leaveObsolete : Bool := false
  /-- `--download-only`. -/
  downloadOnly : Bool := false
  /-- `--show-output`. -/
  showOutput : Bool := false
  /-- `--no-progress`. -/
  noProgress : Bool := false
  deriving DecidableEq

/-! ## The choice of the package manager -/

/-- What an agent finds on the system it runs on. -/
structure Installation (σ : Type) where
  /-- The operating system. -/
  osData : OsData
  /-- Where commands are run. -/
  host : Host σ
  /-- The plugins: they adapt the system and return the requirements. -/
  plugins : OsData → Agent σ (Dict String String)
  /-- `shutil.which`: whether there is such a command. -/
  which : String → σ → Bool
  /-- The library of APT, if it can be imported. -/
  aptLibrary : Option (AptLibrary σ) := none
  /-- The library of DNF, if it can be imported. -/
  dnfLibrary : Option (DnfLibrary σ) := none
  /-- The library of DNF5, if it can be imported. -/
  dnf5Library : Option (Dnf5Library σ) := none

/-- `os_data["release"]`. -/
def OsData.getRelease (osData : OsData) : Agent σ String :=
  match osData.release with
  | some release => pure release
  | none => throw (.keyError "release")

/-- `int(text)`. -/
def pyInt (text : String) : Agent σ Int :=
  match PyFloat.intOfText? text with
  | some n => pure n
  | none => throw (.valueError ("invalid literal for int() with base 10: " ++ reprText text))

/-- The class for the `dnf` family, still to be told the command. -/
def Installation.dnfClass (inst : Installation σ) (tryDnf5 noProgress : Bool) :
    Agent σ (String → Backend σ) :=
  match if tryDnf5 then inst.dnf5Library else none, inst.dnfLibrary with
  | some lib, _ => pure fun command => if noProgress then .dnfCli command else .dnf5 command lib
  | none, some lib => pure fun command => if noProgress then .dnfCli command else .dnf command lib
  | none, none => do
      printTexts ⟨["Progress reporting not supported."], []⟩
      pure Backend.dnfCli

/-- The first release of Fedora with DNF5. -/
def dnf5FedoraVersion : Int := 41

/-- `import_rhel_package_manager`. -/
def Installation.importRhelPackageManager (inst : Installation σ) (noProgress : Bool) :
    Agent σ (String → Backend σ) := do
  let version ←
    if inst.osData.osFamily = .redHat then do
      let release ← inst.osData.getRelease
      -- 99: fedora changed its version
      pure ((PyFloat.intOfText? ((splitOnChar '.' release).headD "")).getD 99)
    else pure dnf5FedoraVersion
  inst.dnfClass (version ≥ dnf5FedoraVersion) noProgress

/-- `import_dom0_package_manager`. -/
def Installation.importDom0PackageManager (inst : Installation σ) (noProgress : Bool) :
    Agent σ (String → Backend σ) := do
  let release ← inst.osData.getRelease
  match splitOnChar '.' release with
  | [major, minor] => do
      let major ← pyInt major
      let minor ← pyInt minor
      inst.dnfClass (major ≥ 5 || (major = 4 && minor ≥ 3)) noProgress
  | cols => throw (unpackingError 2 cols)

/-- `import_debian_package_manager`. -/
def Installation.importDebianPackageManager (inst : Installation σ) (noProgress : Bool) :
    Agent σ (Backend σ) :=
  match inst.aptLibrary with
  | some lib => pure (if noProgress then .aptCli else .apt lib)
  | none => do
      printTexts ⟨["Progress reporting not supported."], []⟩
      pure .aptCli

/-- The command that the classes for `dnf` call. -/
def Installation.dnfCommand (inst : Installation σ) : Agent σ String := do
  let s ← get
  -- `dnf` is preferred to `yum`
  if inst.which "dnf" s.system then pure "dnf"
  else if inst.which "yum" s.system then pure "yum"
  else throw (.runtimeError "Package manager not found!")

/-- The class for the operating system, and its constructor. -/
def Installation.backend (inst : Installation σ) (type : AgentType) (noProgress : Bool) :
    Agent σ (Backend σ) :=
  if inst.osData.osFamily = .redHat ∨ type = .updateVm then do
    let dnfFamily ← inst.importRhelPackageManager noProgress
    dnfFamily <$> inst.dnfCommand
  else
    match inst.osData.osFamily with
    | .debian => inst.importDebianPackageManager noProgress
    | .archLinux => do
        printTexts ⟨["Progress reporting not supported."], []⟩
        pure .pacmanCli
    | .qubes => do
        let dnfFamily ← inst.importDom0PackageManager noProgress
        dnfFamily <$> inst.dnfCommand
    | _ => throw (.notImplementedError "Only Debian, RedHat and ArchLinux based OS is supported.")

/-- `get_package_manager`.  The classes that refuse to work for an update proxy are never chosen for
one. -/
def Installation.getPackageManager (inst : Installation σ) (type : AgentType) (noProgress : Bool) :
    Agent σ (PackageManager σ) := do
  let requirements ← if type ≠ .updateVm then inst.plugins inst.osData else pure Dict.empty
  let backend ← inst.backend type noProgress
  pure { backend.packageManager inst.host type with requirements := some requirements }

/-! ## The main function -/

/-- What `main` calls. -/
structure AgentProgram (σ : Type) where
  /-- The operating system. -/
  osData : OsData
  /-- `get_package_manager`, given the type of the agent and `--no-progress`. -/
  getPackageManager : AgentType → Bool → Agent σ (PackageManager σ)
  /-- The script that notifies dom0 about upgrades. -/
  notify : σ → σ

/-- The entry point of an installation. -/
def Installation.program (inst : Installation σ) (notify : σ → σ) : AgentProgram σ where
  osData := inst.osData
  getPackageManager := inst.getPackageManager
  notify := notify

/-- The type of an agent. -/
def agentType (osData : OsData) (args : AgentArgs) : AgentType :=
  if args.downloadOnly then .updateVm else if osData.id = "qubes" then .dom0 else .vm

/-- `main`: the progress of a package manager that does not report any. -/
def finalProgress (type : AgentType) : Console :=
  ⟨[], [if type = .updateVm then "55.00" else "100.00"]⟩

/-- `main`: the cleanup. -/
def PackageManager.cleanPhase (self : PackageManager σ) (noCleanup : Bool) (returnCode : Int) :
    Agent σ Int :=
  if noCleanup then pure returnCode
  else do
    let code ← self.clean
    pure (max code.val returnCode)

/-- `main`: any code that dom0 does not expect is replaced. -/
def handledCode (returnCode : Int) : Int :=
  if returnCode ∈ Exit.vmHandled then returnCode else Exit.errVmUnhandled

/-- `main`, once there is a package manager. -/
def PackageManager.run (self : PackageManager σ) (notify : σ → σ) (type : AgentType)
    (args : AgentArgs) : Agent σ Int := do
  let returnCode ←
    self.upgrade (!args.noRefresh) (!args.forceUpgrade) (!args.leaveObsolete) args.showOutput
  printTexts (if !self.progressReporting && !args.noProgress then finalProgress type else {})
  changeSystem (if type = .vm then notify else id)
  let returnCode ← self.cleanPhase args.noCleanup returnCode
  pure (handledCode returnCode)

/-- `main`. -/
def AgentProgram.main (program : AgentProgram σ) (args : AgentArgs) : Agent σ Int := do
  let pkgMng ← program.getPackageManager (agentType program.osData args) args.noProgress
  pkgMng.run program.notify (agentType program.osData args) args

/-! ## A run with a journal -/

/-- The same entry point, with package managers that keep a journal. -/
def AgentProgram.recording (program : AgentProgram σ) : AgentProgram (Recorded σ) where
  osData := program.osData
  getPackageManager := fun type noProgress => do
    let pkgMng ← zoom AgentState.forget AgentState.restore id
      (program.getPackageManager type noProgress)
    pure pkgMng.recording
  notify := fun recorded => { recorded with system := program.notify recorded.system }

/-- The journal does not change what happens once there is a package manager. -/
theorem PackageManager.erases_run (self : PackageManager σ) (program : AgentProgram σ)
    (type : AgentType) (args : AgentArgs) :
    Erases AgentState.forget (self.recording.run program.recording.notify type args)
      (self.run program.notify type args) := by
  unfold PackageManager.run
  apply erases_bind (self.erases_upgrade _ _ _ _)
  intro returnCode
  apply erases_bind (erases_printTexts _)
  intro _
  apply erases_bind
  · -- the notification changes the system under the journal
    apply erases_modify
    intro t
    by_cases htype : type = .vm
    · rw [if_pos htype, if_pos htype]
      rfl
    · rw [if_neg htype, if_neg htype]
      rfl
  · intro _
    refine erases_bind ?_ fun _ => erases_pure _
    unfold PackageManager.cleanPhase
    split
    · exact erases_pure _
    · exact erases_bind (erases_recordPhase _ _ _) fun _ => erases_pure _

/-- The journal does not change a run of the agent. -/
theorem AgentProgram.erases_main (program : AgentProgram σ) (args : AgentArgs) :
    Erases AgentState.forget (program.recording.main args) (program.main args) := by
  unfold AgentProgram.main AgentProgram.recording
  simp only [bind_assoc, pure_bind]
  apply erases_bind (erases_zoom AgentState.forget_restore _)
  intro pkgMng
  exact pkgMng.erases_run program _ args

/-- A run of the agent returns the same with a journal and without. -/
theorem AgentProgram.exec_main_recording (program : AgentProgram σ) (args : AgentArgs)
    (s : AgentState σ) :
    exec (program.main args) s
      = ((exec (program.recording.main args) s.start).1,
        (exec (program.recording.main args) s.start).2.forget) := program.erases_main args s.start

/-! ## Exit codes -/

/-- Some phase has failed. -/
def Journal.Failed (journal : Journal σ) : Prop := ∃ report ∈ journal.reports, report.Failed

/-- The upgrade phase has reported that there are no updates. -/
def Journal.NoUpdates (journal : Journal σ) : Prop :=
  ∃ report ∈ journal.reports, report.phase = .upgrade ∧ report.code = Exit.okNoUpdates

/-- The packages have been compared, and none was installed or updated. -/
def Journal.FoundUnchanged (journal : Journal σ) : Prop :=
  ∃ old new, journal.listings = [old, new] ∧ Unchanged old.packages new.packages

/-- The codes with which `_upgrade` may end, and what the journal says then. -/
inductive CodeOutcome (journal : Journal σ) (code : Int) : Prop
  /-- An error code, after a failed phase. -/
  | error (hcode : 22 ≤ code ∧ code ≤ 24) (hfailed : journal.Failed)
      (hupdates : ¬journal.NoUpdates) (hfound : ¬journal.FoundUnchanged)
  /-- "No updates" as the upgrade phase says, whatever has happened before. -/
  | noUpdates (hcode : code = 100) (hupdates : journal.NoUpdates)
  /-- "No updates" as the comparison of the packages says. -/
  | unchanged (hcode : code = 100) (hfailed : ¬journal.Failed) (hfound : journal.FoundUnchanged)
  /-- Success. -/
  | success (hcode : code = 0) (hfailed : ¬journal.Failed) (hupdates : ¬journal.NoUpdates)
      (hfound : ¬journal.FoundUnchanged)

/-- The phases before the upgrade fail with a code other than zero. -/
theorem Prepared.failed_iff {reports : List (PhaseReport σ)} {code : Int}
    (h : Prepared reports code) : (∃ report ∈ reports, report.Failed) ↔ code ≠ 0 := by
  rw [ne_eq, h.code_eq_zero_iff]
  constructor
  · rintro ⟨report, hmem, hfailed⟩ hall
    exact hfailed.1 (hall report hmem)
  · intro hne
    push Not at hne
    obtain ⟨report, hmem, hcode⟩ := hne
    refine ⟨report, hmem, hcode, ?_⟩
    -- the exception for 100 is made for the upgrade phase only
    rintro ⟨hphase, -⟩
    have hphases := h.phases report hmem
    rw [hphase] at hphases
    rcases hphases with hphases | hphases <;> cases hphases

/-- No phase before the upgrade is the upgrade. -/
theorem Prepared.not_upgrade {reports : List (PhaseReport σ)} {code : Int} (h : Prepared reports code)
    {report : PhaseReport σ} (hmem : report ∈ reports) : report.phase ≠ .upgrade := by
  intro hphase
  have hphases := h.phases report hmem
  rw [hphase] at hphases
  rcases hphases with hphases | hphases <;> cases hphases

/-- A failed phase of a run that has come to the upgrade. -/
theorem Begun.failed_append_iff {self : PackageManager σ} {before : σ} {old : Listing σ}
    {reports : List (PhaseReport σ)} {code : Int} (h : Begun self before old reports code)
    {removeObsolete : Bool} {upgrade : PhaseReport σ}
    (hupgrade : upgrade.OfUpgrade self removeObsolete) {journal : Journal σ}
    (hreports : journal.reports = reports ++ [upgrade]) :
    journal.Failed ↔ code ≠ 0 ∨ (upgrade.code ≠ 0 ∧ upgrade.code ≠ 100) := by
  have hlast : upgrade.Failed ↔ upgrade.code ≠ 0 ∧ upgrade.code ≠ 100 := by
    rw [PhaseReport.Failed, hupgrade.phase_eq]
    simp only [Exit.ok, Exit.okNoUpdates, true_and, ne_eq]
  unfold Journal.Failed
  rw [hreports, ← h.prepared.failed_iff, ← hlast]
  simp only [List.mem_append, List.mem_singleton, or_and_right, exists_or, exists_eq_left]

/-- The report of the upgrade of a run that has come to it. -/
theorem Begun.noUpdates_append_iff {self : PackageManager σ} {before : σ} {old : Listing σ}
    {reports : List (PhaseReport σ)} {code : Int} (h : Begun self before old reports code)
    {removeObsolete : Bool} {upgrade : PhaseReport σ}
    (hupgrade : upgrade.OfUpgrade self removeObsolete) {journal : Journal σ}
    (hreports : journal.reports = reports ++ [upgrade]) :
    journal.NoUpdates ↔ upgrade.code = 100 := by
  unfold Journal.NoUpdates
  rw [hreports]
  constructor
  · rintro ⟨report, hmem, hphase, hcode⟩
    rcases List.mem_append.mp hmem with hmem | hmem
    · exact absurd hphase (h.prepared.not_upgrade hmem)
    · rw [List.mem_singleton] at hmem
      rw [← hmem]
      exact hcode
  · intro hcode
    exact ⟨upgrade, List.mem_append_right _ (List.mem_singleton_self _), hupgrade.phase_eq, hcode⟩

/-- A run that has listed the packages only once has not compared them. -/
theorem Journal.not_foundUnchanged {journal : Journal σ} {old : Listing σ}
    (h : journal.listings = [old]) : ¬journal.FoundUnchanged := by
  rintro ⟨old', new, hlistings, -⟩
  rw [h] at hlistings
  cases hlistings

/-- The kinds of exit codes of `_upgrade`. -/
theorem UpgradeOutcome.codeOutcome {self : PackageManager σ} {removeObsolete : Bool} {before : σ}
    {journal : Journal σ} {code : Int} {after : σ}
    (h : UpgradeOutcome self removeObsolete before journal code after) :
    CodeOutcome journal code := by
  cases h with
  | stopped hbegun hlistings hcode =>
      -- the upgrade phase has not been reached, so its code cannot hide the failure
      have hcases := hbegun.prepared.code_cases
      simp only [Exit.errVmPre, Exit.errVmRefresh] at hcases
      refine CodeOutcome.error (by omega) (hbegun.prepared.failed_iff.mpr hcode) ?_
        (Journal.not_foundUnchanged hlistings)
      rintro ⟨report, hmem, hphase, -⟩
      exact hbegun.prepared.not_upgrade hmem hphase
  | @merged old reports prepared upgrade hbegun hupgrade hreports hlistings hcode hne hafter =>
      have hfailed := hbegun.failed_append_iff hupgrade hreports
      have hupdates := hbegun.noUpdates_append_iff hupgrade hreports
      have hfound := Journal.not_foundUnchanged hlistings
      have hprepared := hbegun.prepared.code_cases
      simp only [Exit.errVmPre, Exit.errVmRefresh] at hprepared
      -- the code 100 of the upgrade is larger than every error before it
      rcases upgradeCode_cases upgrade.code with ⟨hzero, hmark⟩ | ⟨hnone, hmark⟩ | ⟨hne₀, hne₁, hmark⟩
      · exact CodeOutcome.error (by omega) (hfailed.mpr (by omega))
          (by rw [hupdates]; omega) hfound
      · exact CodeOutcome.noUpdates (by omega) (hupdates.mpr hnone)
      · exact CodeOutcome.error (by omega) (hfailed.mpr (Or.inr ⟨hne₀, hne₁⟩))
          (by rw [hupdates]; exact hne₁) hfound
  | downloaded hbegun hupgrade hzero hreports hlistings htype hcode =>
      have hfailed := hbegun.failed_append_iff hupgrade hreports
      have hupdates := hbegun.noUpdates_append_iff hupgrade hreports
      exact CodeOutcome.success hcode (by rw [hfailed]; omega) (by rw [hupdates]; omega)
        (Journal.not_foundUnchanged hlistings)
  | @compared old new reports upgrade hbegun hupgrade hzero hnew hreports hlistings htype hcode
      hafter =>
      have hfailed := hbegun.failed_append_iff hupgrade hreports
      have hupdates := hbegun.noUpdates_append_iff hupgrade hreports
      -- no phase has failed, and the comparison decides between 100 and 0
      by_cases hunchanged : Unchanged old.packages new.packages
      · rw [if_pos hunchanged] at hcode
        exact CodeOutcome.unchanged hcode (by rw [hfailed]; omega) ⟨old, new, hlistings, hunchanged⟩
      · rw [if_neg hunchanged] at hcode
        refine CodeOutcome.success hcode (by rw [hfailed]; omega) (by rw [hupdates]; omega) ?_
        rintro ⟨old', new', hlistings', hunchanged'⟩
        rw [hlistings] at hlistings'
        cases hlistings'
        exact hunchanged hunchanged'

/-! ## What `main` reports -/

/-- A run of `main` that returns: how `_upgrade` ends, and what the cleanup adds to it. -/
inductive MainOutcome (journal : Journal σ) (code : Int) : Prop
  /-- There is no cleanup. -/
  | upgraded {returnCode : Int} (houtcome : CodeOutcome journal returnCode)
      (hcode : code = handledCode returnCode)
  /-- The cleanup has reported a code. -/
  | cleaned {upgraded : Journal σ} {returnCode : Int} {clean : PhaseReport σ}
      (houtcome : CodeOutcome upgraded returnCode)
      (hreports : journal.reports = upgraded.reports ++ [clean])
      (hlistings : journal.listings = upgraded.listings) (hphase : clean.phase = .clean)
      (hclean : clean.code = 0 ∨ clean.code = 25)
      (hcode : code = handledCode (max clean.code returnCode))

/-- What the cleanup does. -/
theorem PackageManager.cleanPhase_ok {self : PackageManager σ} {noCleanup : Bool}
    {returnCode code : Int} {t t' : AgentState (Recorded σ)}
    (h : exec (self.recording.cleanPhase noCleanup returnCode) t = (.ok code, t')) :
    t'.journal = t.journal ∧ code = returnCode ∨
      ∃ clean : PhaseReport σ,
        t'.journal = ⟨t.journal.reports ++ [clean], t.journal.listings⟩ ∧ clean.phase = .clean ∧
        (clean.code = 0 ∨ clean.code = 25) ∧ code = max clean.code returnCode := by
  unfold PackageManager.cleanPhase at h
  split at h
  · rw [exec_pure] at h
    cases h
    exact Or.inl ⟨rfl, rfl⟩
  · obtain ⟨clean, t₁, hclean, h⟩ := exec_bind_ok h
    obtain ⟨s', -, rfl⟩ := exec_recordPhase_ok hclean
    rw [exec_pure] at h
    cases h
    exact Or.inr ⟨_, rfl, rfl, clean.property, rfl⟩

/-- An upgrade returns the code of `_upgrade`. -/
theorem PackageManager.upgrade_ok {self : PackageManager σ}
    {refresh hardFail removeObsolete printStreams : Bool} {code : Int}
    {t t' : AgentState (Recorded σ)} (hempty : t.journal = {})
    (h : exec (self.recording.upgrade refresh hardFail removeObsolete printStreams) t
      = (.ok code, t')) :
    UpgradeOutcome self removeObsolete t.system.system t'.journal code t'.system.system := by
  unfold PackageManager.upgrade at h
  obtain ⟨result, t₁, hrun, h⟩ := exec_bind_ok h
  have houtcome := PackageManager.upgradeOutcome hempty hrun
  split at h
  · rw [exec_bind (exec_printTexts _ _), exec_pure] at h
    cases h
    exact houtcome
  · rw [exec_pure] at h
    cases h
    exact houtcome

/-- Every run of `main` that returns. -/
theorem AgentProgram.main_outcome {program : AgentProgram σ} {args : AgentArgs}
    {s : AgentState σ} {code : Int} {t' : AgentState (Recorded σ)}
    (h : exec (program.recording.main args) s.start = (.ok code, t')) :
    MainOutcome t'.journal code := by
  unfold AgentProgram.main at h
  obtain ⟨recordingMng, t₁, hget, h⟩ := exec_bind_ok h
  obtain ⟨pkgMng, t₂, hzoom, hget⟩ := exec_bind_ok hget
  -- the choice of the package manager leaves the journal empty
  have hempty : t₂.journal = {} := by
    rw [exec_zoom] at hzoom
    rw [← (Prod.mk.inj hzoom).2]
    rfl
  rw [exec_pure] at hget
  cases hget
  unfold PackageManager.run at h
  obtain ⟨returnCode, t₃, hupgrade, h⟩ := exec_bind_ok h
  have houtcome := (PackageManager.upgrade_ok hempty hupgrade).codeOutcome
  rw [exec_bind (exec_printTexts _ _), exec_bind (exec_changeSystem _ _)] at h
  obtain ⟨finalCode, t₄, hclean, h⟩ := exec_bind_ok h
  rw [exec_pure] at h
  cases h
  -- neither the progress nor the notification touches the journal
  have hjournal : ∀ texts : Console, ∀ type : AgentType,
      ((t₃.print texts).withSystem ((if type = .vm then program.recording.notify else id)
        (t₃.print texts).system)).journal = t₃.journal := by
    intro texts type
    by_cases htype : type = .vm
    · rw [if_pos htype]
      rfl
    · rw [if_neg htype]
      rfl
  rcases PackageManager.cleanPhase_ok hclean with
    ⟨hsame, hcode⟩ | ⟨clean, hadded, hphase, hclean, hcode⟩
  · rw [hjournal] at hsame
    rw [hsame, hcode]
    exact MainOutcome.upgraded houtcome rfl
  · rw [hjournal] at hadded
    rw [hadded, hcode]
    exact MainOutcome.cleaned houtcome rfl rfl hphase hclean rfl

/-- The codes that the phases give are handled by dom0. -/
theorem handledCode_eq {code : Int} (h : code = 0 ∨ code = 100 ∨ 21 ≤ code ∧ code ≤ 25) :
    handledCode code = code := by
  unfold handledCode
  rw [if_pos]
  have hcases : code = 0 ∨ code = 100 ∨ code = 21 ∨ code = 22 ∨ code = 23 ∨ code = 24 ∨ code = 25 := by
    omega
  simpa using hcases

/-- The code that `main` makes of the codes of `_upgrade` and of the cleanup. -/
theorem CodeOutcome.handledCode_max {journal : Journal σ} {returnCode : Int}
    (h : CodeOutcome journal returnCode) {clean : Int} (hclean : clean = 0 ∨ clean = 25) :
    handledCode (max clean returnCode) = max clean returnCode := by
  apply handledCode_eq
  cases h with
  | error hcode hfailed hupdates hfound => omega
  | noUpdates hcode hupdates => omega
  | unchanged hcode hfailed hfound => omega
  | success hcode hfailed hupdates hfound => omega

/-- The failures of a run with a cleanup. -/
theorem Journal.failed_append_clean_iff {journal upgraded : Journal σ} {clean : PhaseReport σ}
    (hreports : journal.reports = upgraded.reports ++ [clean]) (hphase : clean.phase = .clean) :
    journal.Failed ↔ upgraded.Failed ∨ clean.code ≠ 0 := by
  have hlast : clean.Failed ↔ clean.code ≠ 0 := by
    rw [PhaseReport.Failed, hphase]
    simp only [Exit.ok, reduceCtorEq, false_and, not_false_eq_true, and_true, ne_eq]
  unfold Journal.Failed
  rw [hreports, ← hlast]
  simp only [List.mem_append, List.mem_singleton, or_and_right, exists_or, exists_eq_left]

/-- The cleanup is not the upgrade. -/
theorem Journal.noUpdates_append_clean_iff {journal upgraded : Journal σ} {clean : PhaseReport σ}
    (hreports : journal.reports = upgraded.reports ++ [clean]) (hphase : clean.phase = .clean) :
    journal.NoUpdates ↔ upgraded.NoUpdates := by
  unfold Journal.NoUpdates
  rw [hreports]
  simp only [List.mem_append, List.mem_singleton, or_and_right, exists_or, exists_eq_left, hphase,
    reduceCtorEq, false_and, or_false]

/-- The cleanup does not compare packages. -/
theorem Journal.foundUnchanged_congr {journal upgraded : Journal σ}
    (hlistings : journal.listings = upgraded.listings) :
    journal.FoundUnchanged ↔ upgraded.FoundUnchanged := by
  unfold Journal.FoundUnchanged
  rw [hlistings]

/-- A failed phase is visible in the exit code of `main` exactly when the code 100 has not come from
elsewhere: the upgrade phase has not reported that there are no updates, and no comparison of the
packages has found them unchanged. -/
theorem main_failure_reported_iff {program : AgentProgram σ} {args : AgentArgs} {s : AgentState σ}
    {code : Int} {t' : AgentState (Recorded σ)}
    (h : exec (program.recording.main args) s.start = (.ok code, t')) :
    (t'.journal.Failed → 21 ≤ code ∧ code ≤ 26) ↔
      (t'.journal.Failed → ¬t'.journal.NoUpdates ∧ ¬t'.journal.FoundUnchanged) := by
  apply imp_congr_right
  intro hfailed
  cases AgentProgram.main_outcome h with
  | upgraded houtcome hcode =>
      have hsame := houtcome.handledCode_max (Or.inl rfl)
      cases houtcome with
      -- the code of the failed phase is returned
      | error hrange _ hupdates hfound =>
          have hle : 22 ≤ code ∧ code ≤ 24 := by
            rw [max_eq_right (by omega)] at hsame
            omega
          exact ⟨fun _ => ⟨hupdates, hfound⟩, fun _ => by omega⟩
      | noUpdates hrange hupdates =>
          rw [max_eq_right (by omega)] at hsame
          exact ⟨fun hle => by omega, fun hnot => absurd hupdates hnot.1⟩
      -- here no phase has failed
      | unchanged _ hnone _ => exact absurd hfailed hnone
      | success _ hnone _ _ => exact absurd hfailed hnone
  | @cleaned upgraded returnCode clean houtcome hreports hlistings hphase hclean hcode =>
      rw [Journal.failed_append_clean_iff hreports hphase] at hfailed
      rw [Journal.noUpdates_append_clean_iff hreports hphase,
        Journal.foundUnchanged_congr hlistings]
      rw [houtcome.handledCode_max hclean] at hcode
      cases houtcome with
      | error hrange _ hupdates hfound => exact ⟨fun _ => ⟨hupdates, hfound⟩, fun _ => by omega⟩
      -- 100 is larger than every code of a cleanup
      | noUpdates hrange hupdates => exact ⟨fun hle => by omega, fun hnot => absurd hupdates hnot.1⟩
      | unchanged hrange _ hfound => exact ⟨fun hle => by omega, fun hnot => absurd hfound hnot.2⟩
      | success hrange hnone hupdates hfound =>
          -- only the cleanup has failed
          have h25 : clean.code = 25 := hclean.resolve_left (hfailed.resolve_left hnone)
          exact ⟨fun _ => ⟨hupdates, hfound⟩, fun _ => by omega⟩

/-- A template with DNF whose repositories cannot be refreshed, so that it finds no updates. -/
def fedora40 : Installation Unit where
  osData := ⟨"fedora", .redHat, some "40"⟩
  host := ⟨fun _ => pure { returncode := 0 }⟩
  plugins := fun _ => pure Dict.empty
  which := fun command _ => command = "dnf"
  dnfLibrary := some {
    setConf := fun _ _ _ => ()
    updateCache := pure false
    upgradeAll := pure ()
    resolve := fun _ => pure none
    downloadPackages := fun _ => pure ()
    packageSignatureCheck := fun _ => pure (.ok, "")
    packageImportKey := fun _ => pure ()
    doTransaction := pure ()
    close := id }

/-- A run of the agent on this template, with a journal. -/
def fedora40Run (args : AgentArgs) : Except AgentError Int × AgentState (Recorded Unit) :=
  exec ((fedora40.program id).recording.main args) (AgentState.start ⟨(), {}⟩)

/-- The refresh has failed, and the run has been stopped. -/
theorem main_failure_reported_iff_fedora40 :
    ((fedora40Run {}).2.journal.Failed → 21 ≤ (23 : Int) ∧ (23 : Int) ≤ 26) ↔
      ((fedora40Run {}).2.journal.Failed →
        ¬(fedora40Run {}).2.journal.NoUpdates ∧ ¬(fedora40Run {}).2.journal.FoundUnchanged) := by
  have hrun : fedora40Run {} = (.ok 23, (fedora40Run {}).2) := rfl
  exact main_failure_reported_iff hrun

/-- With `--force-upgrade` the failed refresh is hidden behind the code for "no updates". -/
theorem main_failure_masked :
    (fedora40Run { forceUpgrade := true }).1 = .ok 100 ∧
      (fedora40Run { forceUpgrade := true }).2.journal.Failed := by
  have hreports : (fedora40Run { forceUpgrade := true }).2.journal.reports
      = [⟨.refresh, 23, (), ()⟩, ⟨.upgrade, 100, (), ()⟩, ⟨.clean, 0, (), ()⟩] := rfl
  refine ⟨rfl, ⟨.refresh, 23, (), ()⟩, ?_, by decide⟩
  rw [hreports]
  exact List.mem_cons_self

end QubesAdminLinux
