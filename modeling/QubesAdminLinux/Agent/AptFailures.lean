import QubesAdminLinux.Agent.Entrypoint

/-! # Failures of apt-get

How the command-line class for APT classifies the failures of its three commands: the upgrade, the
dry run that finds obsolete kernels, and their removal.

* **`AptAnswers`** — the exit codes of the three commands and the output of the dry run;
  `Host.answering` is a host that gives these answers.
* **`AptCli.upgradeInternal_code`** — the code that `upgrade_internal` makes of the answers.
* **`AptAnswers.Classified`** — the codes that `_upgrade` should return.
* **`AptAnswers.classified_iff`** — exactly for which answers it returns them. -/

namespace QubesAdminLinux

open StateExcept

variable {σ : Type}

/-! ## Answers -/

/-- What the commands of one upgrade answer. -/
structure AptAnswers where
  /-- The exit code of `apt-get upgrade` or `apt-get dist-upgrade`. -/
  upgrade : Int
  /-- The exit code of `apt-get autoremove -s`. -/
  dryRun : Int
  /-- The output of `apt-get autoremove -s`. -/
  dryRunOutput : Bytes
  /-- The exit code of `apt-get remove`. -/
  remove : Int

namespace AptAnswers

variable (answers : AptAnswers)

/-- The answer to a command, given what the command would leave behind otherwise. -/
def answer (command : List String) (child : ChildOutput) : ChildOutput :=
  if command ∈ [true, false].map fun removeObsolete =>
      AptCli.packageManager :: AptCli.getAction removeObsolete then
    { child with returncode := answers.upgrade }
  else if command = AptCli.autoremoveCommand then
    { child with returncode := answers.dryRun, out := answers.dryRunOutput }
  else if command.take 3 = AptCli.removeCommand [] then
    { child with returncode := answers.remove }
  else child

/-- The code of the upgrade is the one that was chosen for it. -/
theorem answer_upgrade (removeObsolete : Bool) (child : ChildOutput) :
    (answers.answer (AptCli.packageManager :: AptCli.getAction removeObsolete) child).returncode
      = answers.upgrade := by
  unfold answer
  rw [if_pos]
  cases removeObsolete with
  | false => exact List.mem_cons_of_mem _ List.mem_cons_self
  | true => exact List.mem_cons_self

/-- So are the code and the output of the dry run. -/
theorem answer_autoremove (child : ChildOutput) :
    (answers.answer AptCli.autoremoveCommand child).returncode = answers.dryRun ∧
      (answers.answer AptCli.autoremoveCommand child).out = answers.dryRunOutput := by
  unfold answer
  rw [if_neg (by decide), if_pos rfl]
  exact ⟨rfl, rfl⟩

/-- So is the code of the removal. -/
theorem answer_remove (packages : List String) (child : ChildOutput) :
    (answers.answer (AptCli.removeCommand packages) child).returncode = answers.remove := by
  have hupgrade : AptCli.removeCommand packages ∉ [true, false].map fun removeObsolete =>
      AptCli.packageManager :: AptCli.getAction removeObsolete := by
    simp [AptCli.removeCommand, AptCli.getAction]
  have hautoremove : AptCli.removeCommand packages ≠ AptCli.autoremoveCommand := by
    simp [AptCli.removeCommand, AptCli.autoremoveCommand]
  -- whatever is removed, the first three words say that it is a removal
  have hremove : (AptCli.removeCommand packages).take 3 = AptCli.removeCommand [] := rfl
  unfold answer
  rw [if_neg hupgrade, if_neg hautoremove, if_pos hremove]

/-- The kernels that the dry run finds obsolete. -/
def kernels : List String := AptCli.obsoletes (sanitizeOutput answers.dryRunOutput false)

/-- The removal of obsolete kernels fails: the dry run does, or the command that removes what it has
found. -/
def KernelsFail : Prop := answers.dryRun ≠ 0 ∨ answers.kernels ≠ [] ∧ answers.remove ≠ 0

instance : Decidable answers.KernelsFail := inferInstanceAs (Decidable (_ ∨ _))

/-- Some command of the upgrade fails. -/
def SomeFails (removeObsolete : Bool) : Prop :=
  answers.upgrade ≠ 0 ∨ removeObsolete = true ∧ answers.KernelsFail

/-- The codes that classify the failures: one for the upgrade, one for the removal of kernels alone,
and never a code of success when a command has failed. -/
structure Classified (removeObsolete : Bool) (code : Int) : Prop where
  /-- The upgrade has failed. -/
  upgrade_failed : answers.upgrade ≠ 0 → code = Exit.errVmUpdate
  /-- Only the removal of kernels has failed. -/
  kernels_failed : answers.upgrade = 0 → removeObsolete = true → answers.KernelsFail →
    code = Exit.errVmCleanup
  /-- Something has failed. -/
  not_success : answers.SomeFails removeObsolete → code ≠ Exit.ok ∧ code ≠ Exit.okNoUpdates

end AptAnswers

/-- A host that gives these answers; what the commands do to the system stays the same. -/
def Host.answering (host : Host σ) (answers : AptAnswers) : Host σ where
  communicate := fun command => do
    let child ← host.communicate command
    pure (answers.answer command child)

/-- The result of a command on such a host. -/
theorem Host.runCmd_answering {host : Host σ} {answers : AptAnswers} {command : List String}
    {realtime : Bool} {s s' : AgentState σ} {result : ProcessResult}
    (h : exec (runCmd (host.answering answers) command realtime) s = (.ok result, s')) :
    ∃ child, result.code = (answers.answer command child).returncode ∧
      result.out
        = sanitizeOutput (if realtime then [] else (answers.answer command child).out) false := by
  obtain ⟨answered, hcall, hcode, hout⟩ := runCmd_code h
  obtain ⟨child, s₁, -, hanswer⟩ := exec_bind_ok hcall
  rw [exec_pure] at hanswer
  cases hanswer
  exact ⟨child, hcode, hout⟩

/-! ## The codes of the class -/

namespace AptCli

variable {host : Host σ} {answers : AptAnswers} {s s' : AgentState σ} {result result' : ProcessResult}

/-- The code of the removal of obsolete kernels. -/
theorem removeObsoleteKernels_code
    (h : exec (removeObsoleteKernels (host.answering answers)) s = (.ok result, s')) :
    result.code = if answers.KernelsFail then 25 else 0 := by
  unfold removeObsoleteKernels at h
  obtain ⟨simulated, s₁, hdry, h⟩ := exec_bind_ok h
  obtain ⟨child, hdryCode, hdryOut⟩ := Host.runCmd_answering hdry
  rw [(answers.answer_autoremove child).1] at hdryCode
  rw [(answers.answer_autoremove child).2] at hdryOut
  have hkernels : obsoletes simulated.out = answers.kernels := by
    rw [hdryOut]
    rfl
  obtain ⟨removed, s₂, hremove, h⟩ := exec_bind_ok h
  rw [exec_pure] at h
  cases h
  -- the result that is classified is zero exactly when nothing has failed
  suffices hfails : removed.code ≠ 0 ↔ answers.KernelsFail by
    show (if removed.code ≠ 0 then (25 : Int) else 0) = _
    exact if_congr hfails rfl rfl
  unfold AptAnswers.KernelsFail
  unfold removeObsoletes at hremove
  split at hremove
  case isTrue htruthy =>
      rw [exec_pure] at hremove
      cases hremove
      -- the dry run has failed, and nothing is removed
      have hcode := (ProcessResult.toBool_iff _).mp htruthy
      exact ⟨fun _ => Or.inl (by rw [← hdryCode]; exact hcode), fun _ => hcode⟩
  case isFalse hfalsy =>
      have hzero : answers.dryRun = 0 := by
        rw [← hdryCode]
        exact (ProcessResult.toBool_eq_false _).mp (Bool.not_eq_true _ ▸ hfalsy)
      rw [hkernels] at hremove
      split at hremove
      case isTrue hsome =>
          -- kernels were found, so the removal decides
          obtain ⟨child', hcode, -⟩ := Host.runCmd_answering hremove
          rw [AptAnswers.answer_remove] at hcode
          rw [hcode, hzero]
          exact ⟨fun hne => Or.inr ⟨hsome, hne⟩, fun hor => (hor.resolve_left (fun hne => hne rfl)).2⟩
      case isFalse hnone =>
          rw [exec_pure] at hremove
          cases hremove
          rw [hzero]
          exact ⟨fun hne => absurd rfl hne,
            fun hor => absurd (hor.resolve_left (fun hne => hne rfl)).1 hnone⟩

/-- The code with the removal of kernels merged, if that is asked for. -/
theorem withKernels_code {removeObsolete : Bool}
    (h : exec (withKernels (host.answering answers) removeObsolete result) s = (.ok result', s')) :
    result'.code = if removeObsolete then max result.code (if answers.KernelsFail then 25 else 0)
      else result.code := by
  unfold withKernels at h
  cases removeObsolete with
  | false =>
      rw [if_neg Bool.false_ne_true, exec_pure] at h
      cases h
      rfl
  | true =>
      rw [if_pos rfl] at h
      obtain ⟨kernels, s₁, hkernels, h⟩ := exec_bind_ok h
      rw [exec_mergeResult] at h
      cases h
      rw [if_pos rfl, ProcessResult.iadd_code, removeObsoleteKernels_code hkernels]

/-- The code of `upgrade_internal`. -/
theorem upgradeInternal_code {removeObsolete : Bool}
    (h : exec (upgradeInternal (host.answering answers) removeObsolete) s = (.ok result, s')) :
    result.code = if removeObsolete then max answers.upgrade (if answers.KernelsFail then 25 else 0)
      else answers.upgrade := by
  unfold upgradeInternal upgradeCommand at h
  obtain ⟨upgraded, s₁, hupgrade, h⟩ := exec_bind_ok h
  obtain ⟨child, hcode, -⟩ := Host.runCmd_answering hupgrade
  rw [withKernels_code h, hcode, AptAnswers.answer_upgrade]

end AptCli

/-! ## The code of an upgrade -/

/-- When nothing has failed before the upgrade phase, this phase and the comparison of the packages
decide. -/
theorem UpgradeOutcome.code_of_prepared {self : PackageManager σ} {removeObsolete : Bool} {before : σ}
    {journal : Journal σ} {code : Int} {after : σ}
    (h : UpgradeOutcome self removeObsolete before journal code after)
    (hprepared : ∀ report ∈ journal.reports, report.phase ≠ .upgrade → report.code = 0) :
    ∃ upgrade : PhaseReport σ, upgrade.OfUpgrade self removeObsolete ∧
      (code ≠ 0 ∧ code = upgradeCode upgrade.code ∨ upgrade.code = 0 ∧ (code = 0 ∨ code = 100)) := by
  cases h with
  | stopped hbegun hlistings hcode =>
      -- only a failure before the upgrade phase could have stopped the run
      refine absurd (hbegun.prepared.code_eq_zero_iff.mpr ?_) hcode
      exact fun report hmem => hprepared report hmem (hbegun.prepared.not_upgrade hmem)
  | @merged old reports prepared upgrade hbegun hupgrade hreports hlistings hcode hne hafter =>
      -- nothing has failed before, so the merged code is that of the upgrade
      have hzero : prepared = 0 := by
        rw [hbegun.prepared.code_eq_zero_iff]
        intro report hmem
        apply hprepared report
        · rw [hreports]
          exact List.mem_append_left _ hmem
        · exact hbegun.prepared.not_upgrade hmem
      have hmark := upgradeCode_cases upgrade.code
      exact ⟨upgrade, hupgrade, Or.inl ⟨hne, by omega⟩⟩
  | @downloaded old reports upgrade hbegun hupgrade hzero hreports hlistings htype hcode =>
      exact ⟨upgrade, hupgrade, Or.inr ⟨hzero, Or.inl hcode⟩⟩
  | @compared old new reports upgrade hbegun hupgrade hzero hnew hreports hlistings htype hcode
      hafter =>
      refine ⟨upgrade, hupgrade, Or.inr ⟨hzero, ?_⟩⟩
      by_cases hunchanged : Unchanged old.packages new.packages
      · rw [if_pos hunchanged] at hcode
        exact Or.inr hcode
      · rw [if_neg hunchanged] at hcode
        exact Or.inl hcode

namespace AptAnswers

/-- Where the codes are classified as they should be: the upgrade does not answer with the code that
is reserved for "no updates"; and if obsolete kernels are removed, too, then a failure of the removal
is not the only one, and a success does not hide that the upgrade was killed. -/
def Distinguishable (answers : AptAnswers) (removeObsolete : Bool) : Prop :=
  answers.upgrade ≠ 100 ∧ (removeObsolete = true →
    (answers.KernelsFail → answers.upgrade ≠ 0) ∧ (¬answers.KernelsFail → 0 ≤ answers.upgrade))

/-- With the refresh and the requirements successful, `_upgrade` of the command-line class for APT
classifies the failures of its commands exactly when their codes can be distinguished. -/
theorem classified_iff {host : Host σ} {answers : AptAnswers} {type : AgentType}
    {refresh hardFail removeObsolete : Bool} {requirements : Option (Dict String String)}
    {s : AgentState σ} {result : ProcessResult} {t' : AgentState (Recorded σ)}
    (h : exec ((Backend.aptCli.packageManager (host.answering answers) type).recording.upgrade'
      refresh hardFail removeObsolete requirements) s.start = (.ok result, t'))
    (hprepared : ∀ report ∈ t'.journal.reports, report.phase ≠ .upgrade → report.code = 0) :
    answers.Classified removeObsolete result.code ↔ answers.Distinguishable removeObsolete := by
  obtain ⟨upgrade, hupgrade, hcode⟩ :=
    (PackageManager.upgradeOutcome (AgentState.journal_start s) h).code_of_prepared hprepared
  obtain ⟨internal, s₁, s₂, hrun, hinternal, -, -⟩ := hupgrade.run
  have hreported := AptCli.upgradeInternal_code hrun
  rw [hinternal] at hreported
  have hmark := upgradeCode_cases upgrade.code
  have hclassified : answers.Classified removeObsolete result.code ↔
      (answers.upgrade ≠ 0 → result.code = 24) ∧
      (answers.upgrade = 0 → removeObsolete = true → answers.KernelsFail → result.code = 25) ∧
      (answers.upgrade ≠ 0 ∨ removeObsolete = true ∧ answers.KernelsFail →
        result.code ≠ 0 ∧ result.code ≠ 100) :=
    ⟨fun hc => ⟨hc.1, hc.2, hc.3⟩, fun hc => ⟨hc.1, hc.2.1, hc.2.2⟩⟩
  rw [hclassified, Distinguishable]
  -- what is left is arithmetic, for each way the kernels may go
  cases removeObsolete with
  | false =>
      simp only [Bool.false_eq_true, if_false] at hreported
      simp only [Bool.false_eq_true, false_and, or_false, false_imp_iff, imp_true_iff, and_true,
        true_and]
      constructor <;> intro _ <;> omega
  | true =>
      by_cases hkernels : answers.KernelsFail
      · rw [if_pos rfl, if_pos hkernels] at hreported
        simp only [hkernels, or_true, true_imp_iff, not_true_eq_false, false_imp_iff,
          and_true]
        constructor <;> intro _ <;> omega
      · rw [if_pos rfl, if_neg hkernels] at hreported
        simp only [hkernels, and_false, or_false, false_imp_iff, imp_true_iff, true_imp_iff,
          not_false_eq_true, true_and]
        constructor <;> intro _ <;> omega

/-- An upgrade of a qube without packages, on a host whose commands do nothing. -/
def upgradeRun (answers : AptAnswers) (removeObsolete : Bool) :
    Except AgentError ProcessResult × AgentState (Recorded Unit) :=
  let host : Host Unit := ⟨fun _ => pure { returncode := 0 }⟩
  exec ((Backend.aptCli.packageManager (host.answering answers) .vm).recording.upgrade'
    true true removeObsolete none) (AgentState.start ⟨(), {}⟩)

/-- The refresh of this upgrade is successful. -/
theorem upgradeRun_prepared (report : PhaseReport Unit) (code : Int)
    (h : report ∈ [⟨.refresh, 0, (), ()⟩, ⟨.upgrade, code, (), ()⟩]) :
    report.phase ≠ .upgrade → report.code = 0 := by
  intro hphase
  rcases List.mem_cons.mp h with rfl | h
  · rfl
  · rw [List.mem_singleton.mp h] at hphase
    exact absurd rfl hphase

/-- The upgrade and the dry run fail. -/
theorem classified_iff_upgrade_failed :
    (⟨1, 100, [], 0⟩ : AptAnswers).Classified true 24 ↔
      (⟨1, 100, [], 0⟩ : AptAnswers).Distinguishable true := by
  have hrun : upgradeRun ⟨1, 100, [], 0⟩ true
      = (.ok { code := 24, realtime := true, posted := true },
        (upgradeRun ⟨1, 100, [], 0⟩ true).2) := rfl
  have hreports : (upgradeRun ⟨1, 100, [], 0⟩ true).2.journal.reports
      = [⟨.refresh, 0, (), ()⟩, ⟨.upgrade, 25, (), ()⟩] := rfl
  exact classified_iff hrun fun report hmem =>
    upgradeRun_prepared report 25 (by rwa [hreports] at hmem)

/-- The upgrade fails as `apt-get` does, and the code is that of "no updates". -/
theorem upgrade_failure_hidden :
    (upgradeRun ⟨100, 0, [], 0⟩ false).1
        = .ok { code := 100, realtime := true, posted := true } ∧
      (∀ report ∈ (upgradeRun ⟨100, 0, [], 0⟩ false).2.journal.reports,
        report.phase ≠ .upgrade → report.code = 0) ∧
      ¬(⟨100, 0, [], 0⟩ : AptAnswers).Classified false 100 := by
  have hreports : (upgradeRun ⟨100, 0, [], 0⟩ false).2.journal.reports
      = [⟨.refresh, 0, (), ()⟩, ⟨.upgrade, 100, (), ()⟩] := rfl
  refine ⟨rfl, ?_, ?_⟩
  · intro report hmem
    rw [hreports] at hmem
    exact upgradeRun_prepared report 100 hmem
  · intro hclassified
    have hcode := hclassified.upgrade_failed (by decide)
    exact absurd hcode (by decide)

end AptAnswers

end QubesAdminLinux
