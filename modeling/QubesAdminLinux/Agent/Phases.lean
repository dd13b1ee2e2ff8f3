import QubesAdminLinux.Agent.PackageManager

/-! # The phases of an upgrade and what they report

To speak about the phases that a run has executed, a package manager is run with a journal: every
phase notes the code it has reported and the system it has found and left, every listing of the
packages notes its result.  The journal is beside the code, which is the same with and without it.

* **`PackageManager.recording`** — a package manager that keeps a journal;
  `PackageManager.erases_upgrade` says that its upgrades are those of the package manager.
* **`PhaseStep`** — what the installation of the requirements and the refresh may do.
* **`Prepared`** — the result before the upgrade phase: it is an error exactly when one of these
  phases has reported one.
* **`UpgradeOutcome`** — the four ways in which `_upgrade` may end, and
  `PackageManager.upgradeOutcome`: every run that returns ends in one of them. -/

namespace QubesAdminLinux

open StateExcept

variable {σ α : Type}

/-- The phases that report a result. -/
inductive Phase
  | requirements
  | refresh
  | upgrade
  | clean
  deriving DecidableEq, Repr

/-- What a phase has reported. -/
structure PhaseReport (σ : Type) where
  /-- The phase. -/
  phase : Phase
  /-- The code of its result. -/
  code : Int
  /-- The system at its start. -/
  before : σ
  /-- The system at its end. -/
  after : σ

/-- A phase fails with a code other than `OK`; the upgrade may also report `OK_NO_UPDATES`. -/
def PhaseReport.Failed (report : PhaseReport σ) : Prop :=
  report.code ≠ Exit.ok ∧ ¬(report.phase = .upgrade ∧ report.code = Exit.okNoUpdates)

instance (report : PhaseReport σ) : Decidable report.Failed :=
  inferInstanceAs (Decidable (_ ∧ ¬(_ ∧ _)))

/-- A listing of the packages. -/
structure Listing (σ : Type) where
  /-- Its result. -/
  packages : Packages
  /-- The system at its start. -/
  before : σ
  /-- The system at its end. -/
  after : σ

/-- The phases and the listings of a run, oldest first. -/
structure Journal (σ : Type) where
  /-- The reports of the phases. -/
  reports : List (PhaseReport σ) := []
  /-- The listings. -/
  listings : List (Listing σ) := []

/-- A system and the journal of what was done to it. -/
structure Recorded (σ : Type) where
  /-- The system. -/
  system : σ
  /-- The journal. -/
  journal : Journal σ := {}

namespace AgentState

/-- The state of an agent without its journal. -/
def forget (t : AgentState (Recorded σ)) : AgentState σ := ⟨t.system.system, t.console⟩

/-- The state `s` with the journal of `t`. -/
def restore (s : AgentState σ) (t : AgentState (Recorded σ)) : AgentState (Recorded σ) :=
  ⟨⟨s.system, t.system.journal⟩, s.console⟩

/-- The state `s` with an empty journal. -/
def start (s : AgentState σ) : AgentState (Recorded σ) := ⟨⟨s.system, {}⟩, s.console⟩

/-- The journal. -/
def journal (t : AgentState (Recorded σ)) : Journal σ := t.system.journal

/-- Note the report of a phase. -/
def report (report : PhaseReport σ) (t : AgentState (Recorded σ)) : AgentState (Recorded σ) :=
  ⟨⟨t.system.system, ⟨t.system.journal.reports ++ [report], t.system.journal.listings⟩⟩, t.console⟩

/-- Note a listing of the packages. -/
def list (listing : Listing σ) (t : AgentState (Recorded σ)) : AgentState (Recorded σ) :=
  ⟨⟨t.system.system, ⟨t.system.journal.reports, t.system.journal.listings ++ [listing]⟩⟩, t.console⟩

/-- Without the journal, a restored state is the one that has been restored. -/
@[simp] theorem forget_restore (s : AgentState σ) (t : AgentState (Recorded σ)) :
    (s.restore t).forget = s := rfl

/-- A report only goes to the journal. -/
@[simp] theorem forget_report (r : PhaseReport σ) (t : AgentState (Recorded σ)) :
    (report r t).forget = t.forget := rfl

/-- A listing only goes to the journal. -/
@[simp] theorem forget_list (l : Listing σ) (t : AgentState (Recorded σ)) :
    (list l t).forget = t.forget := rfl

/-- Texts are printed with and without the journal. -/
@[simp] theorem forget_print (t : AgentState (Recorded σ)) (texts : Console) :
    (t.print texts).forget = t.forget.print texts := rfl

/-- The journal is empty at the beginning. -/
@[simp] theorem journal_start (s : AgentState σ) : s.start.journal = {} := rfl

end AgentState

open AgentState

/-! ## Package managers with a journal -/

/-- Code with a result, as a phase that notes its report. -/
def recordPhase (phase : Phase) (code : α → Int) (x : Agent σ α) : Agent (Recorded σ) α :=
  record forget restore (fun a s s' => report ⟨phase, code a, s.system, s'.system⟩) x

/-- A listing of the packages that is noted. -/
def recordListing (x : Agent σ Packages) : Agent (Recorded σ) Packages :=
  record forget restore (fun pkgs s s' => list ⟨pkgs, s.system, s'.system⟩) x

/-- The same package manager with a journal. -/
def PackageManager.recording (self : PackageManager σ) : PackageManager (Recorded σ) where
  type := self.type
  requirements := self.requirements
  progressReporting := self.progressReporting
  getPackages := recordListing self.getPackages
  installRequirements := fun requirements currPkg =>
    recordPhase .requirements ProcessResult.code (self.installRequirements requirements currPkg)
  refresh := fun hardFail => recordPhase .refresh ProcessResult.code (self.refresh hardFail)
  upgradeInternal := fun removeObsolete =>
    recordPhase .upgrade ProcessResult.code (self.upgradeInternal removeObsolete)
  clean := recordPhase .clean Subtype.val self.clean

/-- A recorded phase returns what the code returns, and adds its report. -/
theorem exec_recordPhase_ok {phase : Phase} {code : α → Int} {x : Agent σ α}
    {t t' : AgentState (Recorded σ)} {a : α} (h : exec (recordPhase phase code x) t = (.ok a, t')) :
    ∃ s', exec x t.forget = (.ok a, s') ∧
      t' = report ⟨phase, code a, t.forget.system, s'.system⟩ (s'.restore t) := by
  obtain ⟨hrun, hnote⟩ := exec_record_ok forget_restore h
  exact ⟨_, hrun, hnote⟩

/-- A recorded listing returns what the code returns, and adds its result. -/
theorem exec_recordListing_ok {x : Agent σ Packages} {t t' : AgentState (Recorded σ)}
    {pkgs : Packages} (h : exec (recordListing x) t = (.ok pkgs, t')) :
    ∃ s', exec x t.forget = (.ok pkgs, s') ∧
      t' = list ⟨pkgs, t.forget.system, s'.system⟩ (s'.restore t) := by
  obtain ⟨hrun, hnote⟩ := exec_record_ok forget_restore h
  exact ⟨_, hrun, hnote⟩

/-- Without the journal, a recorded phase is the phase. -/
theorem erases_recordPhase (phase : Phase) (code : α → Int) (x : Agent σ α) :
    Erases forget (recordPhase phase code x) x :=
  erases_record forget_restore
    (fun a s s' t => forget_report ⟨phase, code a, s.system, s'.system⟩ t) x

/-- Without the journal, a recorded listing is the listing. -/
theorem erases_recordListing (x : Agent σ Packages) : Erases forget (recordListing x) x :=
  erases_record forget_restore (fun pkgs s s' t => forget_list ⟨pkgs, s.system, s'.system⟩ t) x

/-- Printing does not touch the journal. -/
theorem erases_printTexts (texts : Console) :
    Erases forget (printTexts texts : Agent (Recorded σ) Unit) (printTexts texts) :=
  erases_modify fun t => forget_print t texts

/-- Merging two results does not touch the journal. -/
theorem erases_mergeResult (result other : ProcessResult) :
    Erases forget (mergeResult result other : Agent (Recorded σ) ProcessResult)
      (mergeResult result other) :=
  erases_bind (erases_printTexts _) fun _ => erases_pure _

namespace PackageManager

variable (self : PackageManager σ)

/-- The journal does not change the installation of the requirements. -/
theorem erases_requirementsPhase (requirements : Option (Dict String String)) (currPkg : Packages)
    (result : ProcessResult) :
    Erases forget (self.recording.requirementsPhase requirements currPkg result)
      (self.requirementsPhase requirements currPkg result) := by
  unfold requirementsPhase
  split
  · exact erases_pure _
  · apply erases_bind (erases_printTexts _)
    intro _
    apply erases_bind (erases_recordPhase _ _ _)
    intro resultInstall
    exact erases_mergeResult _ _

/-- The journal does not change the refresh. -/
theorem erases_refreshPhase (refresh hardFail : Bool) (result : ProcessResult) :
    Erases forget (self.recording.refreshPhase refresh hardFail result)
      (self.refreshPhase refresh hardFail result) := by
  unfold refreshPhase
  split
  · apply erases_bind (erases_printTexts _)
    intro _
    apply erases_bind (erases_recordPhase _ _ _)
    intro resultRefresh
    exact erases_mergeResult _ _
  · exact erases_pure _

/-- The journal does not change the upgrade. -/
theorem erases_upgradePhase (removeObsolete : Bool) (currPkg : Packages) (result : ProcessResult) :
    Erases forget (self.recording.upgradePhase removeObsolete currPkg result)
      (self.upgradePhase removeObsolete currPkg result) := by
  unfold upgradePhase
  apply erases_bind (erases_recordPhase _ _ _)
  intro resultUpgrade
  apply erases_bind (erases_mergeResult _ _)
  intro merged
  -- the recorded manager has the type of the one that it records
  show Erases forget (if merged.toBool = true then _ else if self.type = .updateVm then _ else _) _
  split
  · exact erases_pure _
  · split
    · exact erases_pure _
    · unfold changesPhase
      apply erases_bind (erases_recordListing _)
      intro newPkg
      exact erases_bind (erases_mergeResult _ _) fun _ => erases_pure _

/-- The journal does not change `_upgrade`. -/
theorem erases_upgrade' (refresh hardFail removeObsolete : Bool)
    (requirements : Option (Dict String String)) :
    Erases forget (self.recording.upgrade' refresh hardFail removeObsolete requirements)
      (self.upgrade' refresh hardFail removeObsolete requirements) := by
  unfold upgrade'
  apply erases_bind (erases_recordListing _)
  intro currPkg
  apply erases_bind (self.erases_requirementsPhase _ _ _)
  intro prepared
  split
  · exact erases_pure _
  · apply erases_bind (self.erases_refreshPhase _ _ _)
    intro refreshed
    split
    · exact erases_pure _
    · exact self.erases_upgradePhase _ _ _

/-- The journal does not change an upgrade. -/
theorem erases_upgrade (refresh hardFail removeObsolete printStreams : Bool) :
    Erases forget (self.recording.upgrade refresh hardFail removeObsolete printStreams)
      (self.upgrade refresh hardFail removeObsolete printStreams) := by
  unfold upgrade
  apply erases_bind (self.erases_upgrade' _ _ _ _)
  intro result
  split
  · exact erases_bind (erases_printTexts _) fun _ => erases_pure _
  · exact erases_pure _

end PackageManager

/-! ## Before the upgrade phase -/

/-- A phase before the upgrade is skipped, or adds its report and merges its code, an error as
`mark`. -/
inductive PhaseStep (phase : Phase) (mark : Int) (t : AgentState (Recorded σ))
    (result : ProcessResult) : AgentState (Recorded σ) → ProcessResult → Prop
  /-- The phase is not executed. -/
  | skipped : PhaseStep phase mark t result t result
  /-- The phase is executed. -/
  | ran {t' : AgentState (Recorded σ)} {result' : ProcessResult} (report : PhaseReport σ)
      (hphase : report.phase = phase)
      (hreports : t'.journal.reports = t.journal.reports ++ [report])
      (hlistings : t'.journal.listings = t.journal.listings)
      (hcode : result'.code = max result.code (if report.code = 0 then 0 else mark)) :
      PhaseStep phase mark t result t' result'

/-- The code of a marked result. -/
theorem ProcessResult.markFailure_code (result : ProcessResult) (code : Int) :
    (result.markFailure code).code = if result.code = 0 then 0 else code := by
  unfold markFailure
  by_cases h : result.code = 0
  · rw [if_pos h, if_neg (by rw [Bool.not_eq_true]; exact (toBool_eq_false result).mpr h), h]
  · rw [if_neg h, if_pos ((toBool_iff result).mpr h)]

namespace PackageManager

variable {self : PackageManager σ}

/-- What the installation of the requirements does. -/
theorem requirementsPhase_step {requirements : Option (Dict String String)} {currPkg : Packages}
    {result result' : ProcessResult} {t t' : AgentState (Recorded σ)}
    (h : exec (self.recording.requirementsPhase requirements currPkg result) t
      = (.ok result', t')) :
    PhaseStep .requirements Exit.errVmPre t result t' result' := by
  unfold requirementsPhase at h
  split at h
  · -- no requirements
    rw [exec_pure] at h
    cases h
    exact PhaseStep.skipped
  · -- the phase is executed, and its report is the only one that is added
    rw [exec_bind (exec_printTexts _ _)] at h
    obtain ⟨resultInstall, t₁, hinstall, h⟩ := exec_bind_ok h
    obtain ⟨s', -, rfl⟩ := exec_recordPhase_ok hinstall
    rw [exec_mergeResult] at h
    cases h
    refine PhaseStep.ran _ rfl rfl rfl ?_
    rw [ProcessResult.iadd_code, ProcessResult.markFailure_code]

/-- What the refresh does. -/
theorem refreshPhase_step {refresh hardFail : Bool} {result result' : ProcessResult}
    {t t' : AgentState (Recorded σ)}
    (h : exec (self.recording.refreshPhase refresh hardFail result) t = (.ok result', t')) :
    PhaseStep .refresh Exit.errVmRefresh t result t' result' := by
  unfold refreshPhase at h
  split at h
  · rw [exec_bind (exec_printTexts _ _)] at h
    obtain ⟨resultRefresh, t₁, hrefresh, h⟩ := exec_bind_ok h
    obtain ⟨s', -, rfl⟩ := exec_recordPhase_ok hrefresh
    rw [exec_mergeResult] at h
    cases h
    refine PhaseStep.ran _ rfl rfl rfl ?_
    rw [ProcessResult.iadd_code, ProcessResult.markFailure_code]
  · rw [exec_pure] at h
    cases h
    exact PhaseStep.skipped

end PackageManager

/-- The reports before the upgrade phase, and the code of the result so far. -/
structure Prepared (reports : List (PhaseReport σ)) (code : Int) : Prop where
  /-- Only these phases come before the upgrade. -/
  phases : ∀ report ∈ reports, report.phase = .requirements ∨ report.phase = .refresh
  /-- The result is a success exactly when all of them are. -/
  code_eq_zero_iff : code = 0 ↔ ∀ report ∈ reports, report.code = 0
  /-- The only errors. -/
  code_cases : code = 0 ∨ code = Exit.errVmPre ∨ code = Exit.errVmRefresh

namespace Prepared

/-- No phase has been reported yet. -/
theorem nil : Prepared ([] : List (PhaseReport σ)) 0 :=
  ⟨fun _ h => (List.not_mem_nil h).elim, ⟨fun _ _ h => (List.not_mem_nil h).elim, fun _ => rfl⟩,
    Or.inl rfl⟩

/-- One more phase before the upgrade. -/
theorem step {phase : Phase} {mark : Int} {t t' : AgentState (Recorded σ)}
    {result result' : ProcessResult} (hprepared : Prepared t.journal.reports result.code)
    (hphase : phase = .requirements ∨ phase = .refresh)
    (hmark : mark = Exit.errVmPre ∨ mark = Exit.errVmRefresh)
    (hstep : PhaseStep phase mark t result t' result') :
    Prepared t'.journal.reports result'.code ∧ t'.journal.listings = t.journal.listings := by
  cases hstep with
  | skipped => exact ⟨hprepared, rfl⟩
  | ran report hreport hreports hlistings hcode =>
      refine ⟨⟨?_, ?_, ?_⟩, hlistings⟩
      · rw [hreports]
        intro r hr
        rcases List.mem_append.mp hr with hr | hr
        · exact hprepared.phases r hr
        · rw [List.mem_singleton.mp hr, hreport]
          exact hphase
      · rw [hreports, List.forall_mem_append, ← hprepared.code_eq_zero_iff, hcode,
          List.forall_mem_singleton]
        have hold := hprepared.code_cases
        simp only [Exit.errVmPre, Exit.errVmRefresh] at hold hmark
        split <;> omega
      · rw [hcode]
        have hold := hprepared.code_cases
        simp only [Exit.errVmPre, Exit.errVmRefresh] at hold hmark ⊢
        split <;> omega

end Prepared

/-! ## The upgrade phase -/

/-- A listing is a run of `get_packages`. -/
def Listing.Of (self : PackageManager σ) (listing : Listing σ) : Prop :=
  ∃ s s', exec self.getPackages s = (.ok listing.packages, s') ∧
    s.system = listing.before ∧ s'.system = listing.after

/-- A report is one of `upgrade_internal`. -/
structure PhaseReport.OfUpgrade (pkgMng : PackageManager σ) (removeObsolete : Bool)
    (report : PhaseReport σ) : Prop where
  /-- The phase. -/
  phase_eq : report.phase = .upgrade
  /-- The run of `upgrade_internal`. -/
  run : ∃ result s s', exec (pkgMng.upgradeInternal removeObsolete) s = (.ok result, s') ∧
    result.code = report.code ∧ s.system = report.before ∧ s'.system = report.after

/-- The code that `_upgrade` merges for a reported code of the upgrade. -/
def upgradeCode (code : Int) : Int :=
  if code = Exit.ok ∨ code = Exit.okNoUpdates then code else Exit.errVmUpdate

/-- The codes that `_upgrade` merges for the upgrade. -/
theorem upgradeCode_cases (code : Int) :
    (code = 0 ∧ upgradeCode code = 0) ∨ (code = 100 ∧ upgradeCode code = 100)
      ∨ (code ≠ 0 ∧ code ≠ 100 ∧ upgradeCode code = 24) := by
  unfold upgradeCode
  -- the two codes that are kept are those that are not failures
  by_cases h : code = Exit.ok ∨ code = Exit.okNoUpdates
  · rw [if_pos h]
    rcases h with h | h
    · exact Or.inl ⟨h, h⟩
    · exact Or.inr (Or.inl ⟨h, h⟩)
  · rw [if_neg h]
    rw [not_or] at h
    exact Or.inr (Or.inr ⟨h.1, h.2, rfl⟩)

/-- A run of `_upgrade` on the system `before` has begun with the listing `old`, and its phases before
the upgrade have given `code`. -/
structure Begun (pkgMng : PackageManager σ) (before : σ) (old : Listing σ)
    (reports : List (PhaseReport σ)) (code : Int) : Prop where
  /-- The listing. -/
  listing : old.Of pkgMng
  /-- It is the first that happens. -/
  before_eq : old.before = before
  /-- The phases. -/
  prepared : Prepared reports code

/-- The ways in which `_upgrade` ends, started on the system `before`: the journal, the code of the
result and the last system. -/
inductive UpgradeOutcome (self : PackageManager σ) (removeObsolete : Bool) (before : σ)
    (journal : Journal σ) (code : Int) (after : σ) : Prop
  /-- An error before the upgrade phase, which is not tolerated. -/
  | stopped {old : Listing σ} (hbegun : Begun self before old journal.reports code)
      (hlistings : journal.listings = [old]) (hcode : code ≠ 0)
  /-- The upgrade phase, or a tolerated error before it, decides. -/
  | merged {old : Listing σ} {reports : List (PhaseReport σ)} {prepared : Int}
      {upgrade : PhaseReport σ} (hbegun : Begun self before old reports prepared)
      (hupgrade : upgrade.OfUpgrade self removeObsolete)
      (hreports : journal.reports = reports ++ [upgrade]) (hlistings : journal.listings = [old])
      (hcode : code = max prepared (upgradeCode upgrade.code)) (hne : code ≠ 0)
      (hafter : upgrade.after = after)
  /-- The update proxy has downloaded the packages. -/
  | downloaded {old : Listing σ} {reports : List (PhaseReport σ)} {upgrade : PhaseReport σ}
      (hbegun : Begun self before old reports 0)
      (hupgrade : upgrade.OfUpgrade self removeObsolete) (hzero : upgrade.code = 0)
      (hreports : journal.reports = reports ++ [upgrade]) (hlistings : journal.listings = [old])
      (htype : self.type = .updateVm) (hcode : code = 0)
  /-- The comparison of the packages decides. -/
  | compared {old new : Listing σ} {reports : List (PhaseReport σ)} {upgrade : PhaseReport σ}
      (hbegun : Begun self before old reports 0)
      (hupgrade : upgrade.OfUpgrade self removeObsolete) (hzero : upgrade.code = 0)
      (hnew : new.Of self)
      (hreports : journal.reports = reports ++ [upgrade])
      (hlistings : journal.listings = [old, new]) (htype : self.type ≠ .updateVm)
      (hcode : code = if Unchanged old.packages new.packages then Exit.okNoUpdates else Exit.ok)
      (hafter : new.after = after)

/-- The code of the result of the upgrade, once marked. -/
theorem ProcessResult.markUpgradeFailure_code (result : ProcessResult) :
    (result.markUpgradeFailure Exit.errVmUpdate).code = upgradeCode result.code := by
  unfold markUpgradeFailure upgradeCode
  by_cases h : result.code = Exit.ok ∨ result.code = Exit.okNoUpdates
  · rw [if_pos h, if_neg (by tauto)]
  · rw [if_neg h, if_pos (by tauto)]

namespace PackageManager

variable {self : PackageManager σ}

/-- The comparison of the packages after a result without an error: it decides the code. -/
theorem exec_changesPhase {currPkg newPkg : Packages} {result : ProcessResult}
    {s s' : AgentState σ} (hcode : result.code = 0)
    (hlist : exec self.getPackages s = (.ok newPkg, s')) :
    ∃ result' texts, exec (self.changesPhase currPkg result) s = (.ok result', s'.print texts) ∧
      result'.code = if Unchanged currPkg newPkg then Exit.okNoUpdates else Exit.ok := by
  -- the summary itself is never an error
  have hsummary : (result.iadd ((printChanges (comparePackages currPkg newPkg)).markFailure
      Exit.errVm)).code = 0 := by
    rw [ProcessResult.iadd_code, hcode, ProcessResult.markFailure_code, printChanges_code,
      if_pos rfl, max_self]
  have hfalse := (ProcessResult.toBool_eq_false _).mpr hsummary
  unfold changesPhase
  rw [exec_bind hlist, exec_bind (exec_mergeResult _ _ _), exec_pure]
  refine ⟨_, _, rfl, ?_⟩
  rw [hfalse, Bool.not_false, Bool.true_and]
  by_cases hunchanged : Unchanged currPkg newPkg
  · have hnone := (comparePackages_unchanged_iff currPkg newPkg).mpr hunchanged
    rw [hnone, Bool.not_false, if_pos rfl, if_pos hunchanged]
  · have hsome : (comparePackages currPkg newPkg).toBool = true := by
      rw [← Bool.not_eq_false, comparePackages_unchanged_iff]
      exact hunchanged
    rw [hsome, Bool.not_true, if_neg Bool.false_ne_true, if_neg hunchanged]
    exact hsummary

/-- What the comparison of the packages does. -/
theorem changesPhase_outcome {currPkg : Packages} {result result' : ProcessResult}
    {t t' : AgentState (Recorded σ)} (hcode : result.code = 0)
    (h : exec (self.recording.changesPhase currPkg result) t = (.ok result', t')) :
    ∃ new : Listing σ, new.Of self ∧ new.after = t'.system.system
      ∧ t'.journal = ⟨t.journal.reports, t.journal.listings ++ [new]⟩
      ∧ result'.code = if Unchanged currPkg new.packages then Exit.okNoUpdates else Exit.ok := by
  have hphase := h
  unfold changesPhase at hphase
  obtain ⟨newPkg, t₁, hlist, -⟩ := exec_bind_ok hphase
  obtain ⟨result₁, texts, hrun₁, hcode₁⟩ := exec_changesPhase hcode hlist
  rw [hrun₁] at h
  cases h
  obtain ⟨s', hrun, rfl⟩ := exec_recordListing_ok hlist
  exact ⟨⟨newPkg, t.forget.system, s'.system⟩, ⟨_, _, hrun, rfl, rfl⟩, rfl, rfl, hcode₁⟩

/-- What the upgrade phase does. -/
theorem upgradePhase_outcome {removeObsolete : Bool} {before : σ} {old : Listing σ}
    {result result' : ProcessResult} {t t' : AgentState (Recorded σ)}
    (hbegun : Begun self before old t.journal.reports result.code)
    (hlistings : t.journal.listings = [old])
    (h : exec (self.recording.upgradePhase removeObsolete old.packages result) t
      = (.ok result', t')) :
    UpgradeOutcome self removeObsolete before t'.journal result'.code t'.system.system := by
  unfold upgradePhase at h
  obtain ⟨resultUpgrade, t₁, hrun, h⟩ := exec_bind_ok h
  obtain ⟨s', hinternal, rfl⟩ := exec_recordPhase_ok hrun
  let upgrade : PhaseReport σ := ⟨.upgrade, resultUpgrade.code, t.forget.system, s'.system⟩
  have hupgrade : upgrade.OfUpgrade self removeObsolete :=
    ⟨rfl, resultUpgrade, _, _, hinternal, rfl, rfl, rfl⟩
  rw [exec_bind (exec_mergeResult _ _ _)] at h
  have hmerged := result.iadd_code (resultUpgrade.markUpgradeFailure Exit.errVmUpdate)
  rw [ProcessResult.markUpgradeFailure_code] at hmerged
  split at h
  case isTrue htruthy =>
      -- an error or `OK_NO_UPDATES`, of this phase or of an earlier one
      rw [ProcessResult.toBool_iff] at htruthy
      rw [exec_pure] at h
      cases h
      exact UpgradeOutcome.merged hbegun hupgrade rfl hlistings hmerged htruthy rfl
  case isFalse hfalsy =>
      rw [Bool.not_eq_true, ProcessResult.toBool_eq_false] at hfalsy
      -- a falsy result: everything so far has the code zero
      have hcodes : result.code = 0 ∧ resultUpgrade.code = 0 := by
        have hprepared := hbegun.prepared.code_cases
        have hupgraded := upgradeCode_cases resultUpgrade.code
        rw [hfalsy] at hmerged
        simp only [Exit.errVmPre, Exit.errVmRefresh] at hprepared
        omega
      rw [hcodes.1] at hbegun
      split at h
      case isTrue htype =>
          rw [exec_pure] at h
          cases h
          exact UpgradeOutcome.downloaded hbegun hupgrade hcodes.2 rfl hlistings htype hfalsy
      case isFalse htype =>
          obtain ⟨new, hnew, hafter, hjournal, hcode⟩ := changesPhase_outcome hfalsy h
          refine UpgradeOutcome.compared hbegun hupgrade hcodes.2 hnew ?_ ?_ htype hcode hafter
          · rw [hjournal]
            rfl
          · rw [hjournal]
            show t.journal.listings ++ [new] = [old, new]
            rw [hlistings, List.singleton_append]

/-- Every run of `_upgrade` that returns ends in one of the four ways. -/
theorem upgradeOutcome {refresh hardFail removeObsolete : Bool}
    {requirements : Option (Dict String String)} {result : ProcessResult}
    {t t' : AgentState (Recorded σ)} (hempty : t.journal = {})
    (h : exec (self.recording.upgrade' refresh hardFail removeObsolete requirements) t
      = (.ok result, t')) :
    UpgradeOutcome self removeObsolete t.system.system t'.journal result.code t'.system.system := by
  unfold upgrade' at h
  obtain ⟨currPkg, t₁, hlist, h⟩ := exec_bind_ok h
  obtain ⟨s', hrun, rfl⟩ := exec_recordListing_ok hlist
  let old : Listing σ := ⟨currPkg, t.forget.system, s'.system⟩
  have hold : old.Of self := ⟨_, _, hrun, rfl, rfl⟩
  obtain ⟨prepared, t₂, hprepare, h⟩ := exec_bind_ok h
  -- the journal starts with the listing of the packages
  have hlisted : (list old (s'.restore t)).journal = ⟨[], [old]⟩ := by
    show Journal.mk t.journal.reports (t.journal.listings ++ [old]) = _
    rw [hempty]
    rfl
  have hstart : Prepared (list old (s'.restore t)).journal.reports
      ProcessResult.realtimeEmpty.code := by
    rw [hlisted]
    exact Prepared.nil
  obtain ⟨hprepared, hlistings⟩ :=
    hstart.step (Or.inl rfl) (Or.inl rfl) (requirementsPhase_step hprepare)
  rw [hlisted] at hlistings
  split at h
  case isTrue hstop =>
      rw [exec_pure] at h
      cases h
      -- a hard failure of the requirements
      have hcode := (ProcessResult.toBool_iff _).mp (Bool.and_eq_true_iff.mp hstop).1
      exact UpgradeOutcome.stopped ⟨hold, rfl, hprepared⟩ hlistings hcode
  case isFalse =>
      obtain ⟨refreshed, t₃, hrefresh, h⟩ := exec_bind_ok h
      obtain ⟨hprepared', hlistings'⟩ :=
        hprepared.step (Or.inr rfl) (Or.inr rfl) (refreshPhase_step hrefresh)
      rw [hlistings] at hlistings'
      split at h
      case isTrue hstop =>
          rw [exec_pure] at h
          cases h
          -- a hard failure of the refresh
          have hcode := (ProcessResult.toBool_iff _).mp (Bool.and_eq_true_iff.mp hstop).1
          exact UpgradeOutcome.stopped ⟨hold, rfl, hprepared'⟩ hlistings' hcode
      case isFalse => exact upgradePhase_outcome ⟨hold, rfl, hprepared'⟩ hlistings' h

end PackageManager

end QubesAdminLinux
