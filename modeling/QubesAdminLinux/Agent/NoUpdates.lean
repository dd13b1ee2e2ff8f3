import QubesAdminLinux.Agent.Entrypoint

/-! # No updates

When a run without failures says that there are no updates, and whether that is true of the whole
run: the requirements are installed before the upgrade, so the packages may have changed although the
upgrade has found nothing to do.

* **`PackageManager.Lists`** — the listing of the packages reads what is installed.
* **`Backend.Resolves`** — what is assumed of the libraries: resolving a transaction installs nothing.
* **`Backend.upgradeInternal_unchanged`** — with the libraries of DNF and DNF5, an upgrade that reports
  no updates has not changed the packages.
* **`noUpdates_iff`** — exactly when "no updates" is what has happened. -/

namespace QubesAdminLinux

open StateExcept

variable {σ α : Type}

/-! ## Assumptions -/

/-- The listing of the packages reads what is installed on the system, and changes nothing. -/
def PackageManager.Lists (self : PackageManager σ) (installed : σ → Packages) : Prop :=
  ∀ s, exec self.getPackages s = (.ok (installed s.system), s)

/-- Before a transaction is run, the libraries of DNF and DNF5 leave the installed packages alone. -/
def Backend.Resolves (installed : σ → Packages) : Backend σ → Prop
  | .dnf _ lib =>
      (∀ option value s, installed (lib.setConf option value s) = installed s) ∧
      Keeps installed lib.upgradeAll ∧ (∀ allowErasing, Keeps installed (lib.resolve allowErasing)) ∧
      ∀ s, installed (lib.close s) = installed s
  | .dnf5 _ lib =>
      (∀ option value s, installed (lib.setConf option value s) = installed s) ∧
      Keeps installed lib.loadRepos ∧ ∀ allowErasing, Keeps installed (lib.resolve allowErasing)
  | _ => True

/-- Whether a class resolves a transaction of its own. -/
def Backend.hasTransaction : Backend σ → Bool
  | .dnf _ _ => true
  | .dnf5 _ _ => true
  | _ => false

/-! ## Transactions -/

/-- Library code that keeps some part of the system keeps it in an agent that catches its
exceptions. -/
theorem keeps_tryLibrary {installed : σ → Packages} {x : LibraryCall σ α}
    (h : Keeps installed x) :
    Keeps (fun s : AgentState σ => installed s.system) (tryLibrary x) := fun s => h s.system

/-- Merging the outcome of library calls gives at most the code of a failed upgrade. -/
theorem Apt.upgradeResult_code_le {result : ProcessResult} (h : result.code ≤ 24)
    (outcome : Except String Unit) : (Apt.upgradeResult result outcome).code ≤ 24 := by
  cases outcome with
  | ok _ => exact h
  | error text =>
      show (result.iadd (exceptionResult Exit.errVmUpdate text)).code ≤ 24
      rw [ProcessResult.iadd_code]
      exact max_le h le_rfl

namespace Dnf

variable {lib : DnfLibrary σ} {host : Host σ} {type : AgentType}

/-- The code for a checked signature. -/
theorem checked_code (check : SignatureCheck × String) : (checked check).code = check.1.code := by
  unfold checked
  by_cases h : check.1.code ≠ Exit.ok
  · rw [if_pos h]
  · rw [if_neg h]
    rw [not_not] at h
    exact h.symm

/-- The codes of `package_signature_check` stay small. -/
theorem signatureCheck_code_le (check : SignatureCheck) : check.code ≤ 2 := by
  cases check <;> decide

/-- The code for one package. -/
theorem checkPackage_code {package : String} {s s' : σ} {result : ProcessResult}
    (h : exec (checkPackage lib package) s = (.ok result, s')) : result.code ≤ 2 := by
  unfold checkPackage at h
  obtain ⟨check, s₁, -, h⟩ := exec_bind_ok h
  split at h
  · obtain ⟨imported, s₂, -, h⟩ := exec_bind_ok h
    cases imported with
    -- the key is still missing
    | error text =>
        rw [exec_pure] at h
        cases h
        exact signatureCheck_code_le check.1
    | ok _ =>
        obtain ⟨check', s₃, -, h⟩ := exec_bind_ok h
        rw [exec_pure] at h
        cases h
        rw [checked_code]
        exact signatureCheck_code_le check'.1
  · rw [exec_pure] at h
    cases h
    rw [checked_code]
    exact signatureCheck_code_le check.1

/-- The code of `sign_check`. -/
theorem signCheck_code {packages : List String} {start result : ProcessResult} {s s' : σ}
    (hstart : start.code ≤ 2)
    (h : exec (signCheck lib packages start) s = (.ok result, s')) : result.code ≤ 2 := by
  induction packages generalizing start s with
  | nil =>
      rw [signCheck, exec_pure] at h
      cases h
      exact hstart
  | cons package packages ih =>
      rw [signCheck] at h
      obtain ⟨next, s₁, hnext, h⟩ := exec_bind_ok h
      refine ih ?_ h
      rw [ProcessResult.iadd_code]
      exact max_le hstart (checkPackage_code hnext)

/-- The code of a transaction that has been run. -/
theorem commit_code {start result : ProcessResult} {s s' : AgentState σ} (hstart : start.code ≤ 24)
    (h : exec (commit lib host type start) s = (.ok result, s')) : result.code ≤ 24 := by
  unfold commit at h
  rw [exec_bind (exec_printTexts _ _)] at h
  obtain ⟨outcome, s₁, -, h⟩ := exec_bind_ok h
  have hcode := Apt.upgradeResult_code_le hstart outcome
  split at h
  · rw [exec_bind (exec_printTexts _ _), exec_pure] at h
    cases h
    exact hcode
  · rw [exec_pure] at h
    cases h
    exact hcode

/-- The code of the installation is never that of "no updates". -/
theorem install_code {installSet : List String} {s s' : AgentState σ} {result : ProcessResult}
    (h : exec (install lib host type installSet) s = (.ok result, s')) : result.code ≤ 24 := by
  unfold install at h
  obtain ⟨outcome, s₁, htry, h⟩ := exec_bind_ok h
  cases outcome with
  | error text =>
      rw [exec_pure] at h
      cases h
      exact le_rfl
  | ok checked =>
      have hchecked : checked.code ≤ 2 := by
        rw [tryLibrary, exec_attempt] at htry
        obtain ⟨hresult, -⟩ := Prod.mk.inj htry
        obtain ⟨_, s₂, -, hcheck⟩ := exec_bind_ok (Prod.ext (Except.ok.inj hresult) rfl)
        exact signCheck_code (by decide) hcheck
      dsimp only at h
      split at h
      · exact commit_code (by omega) h
      · rw [exec_pure] at h
        cases h
        omega

/-- A transaction that reports no updates is empty, and the packages are as they were. -/
theorem transaction_unchanged {installed : σ → Packages} (hupgrade : Keeps installed lib.upgradeAll)
    (hresolve : ∀ allowErasing, Keeps installed (lib.resolve allowErasing)) {s s' : AgentState σ}
    {result : ProcessResult} (h : exec (transaction lib host type) s = (.ok result, s'))
    (hcode : result.code = 100) : installed s'.system = installed s.system := by
  unfold transaction at h
  obtain ⟨outcome, s₁, htry, h⟩ := exec_bind_ok h
  have hkeep := keeps_tryLibrary (keeps_bind hupgrade fun _ => hresolve (type = .updateVm)) s
  rw [htry] at hkeep
  cases outcome with
  | error text =>
      rw [exec_pure] at h
      cases h
      exact hkeep
  | ok installSet =>
      cases installSet with
      -- an empty transaction: so far the library has only resolved
      | none =>
          rw [exec_pure] at h
          cases h
          exact hkeep
      | some installSet =>
          -- anything that is done with packages has another code
          have hle := install_code h
          omega

/-- An upgrade that reports no updates has not changed the packages. -/
theorem upgradeInternal_unchanged {installed : σ → Packages} {command : String}
    (hresolves : (Backend.dnf command lib).Resolves installed) {removeObsolete : Bool}
    {s s' : AgentState σ} {result : ProcessResult}
    (h : exec (upgradeInternal lib host type removeObsolete) s = (.ok result, s'))
    (hcode : result.code = 100) : installed s'.system = installed s.system := by
  obtain ⟨hconf, hupgrade, hresolve, hclose⟩ := hresolves
  unfold upgradeInternal at h
  rw [exec_bind (exec_changeSystem _ _)] at h
  obtain ⟨resolved, s₁, htransaction, h⟩ := exec_bind_ok h
  rw [exec_bind (exec_changeSystem _ _), exec_pure] at h
  cases h
  -- options and closing change nothing, so only the transaction counts
  have hsame := transaction_unchanged hupgrade hresolve htransaction hcode
  calc installed (lib.close s₁.system) = installed s₁.system := hclose _
    _ = installed (lib.setConf "obsolete" removeObsolete s.system) := hsame
    _ = installed s.system := hconf _ _ _

end Dnf

/-- An upgrade that reports no updates has not changed the packages. -/
theorem Dnf5.upgradeInternal_unchanged {lib : Dnf5Library σ} {host : Host σ} {type : AgentType}
    {installed : σ → Packages} {command : String}
    (hresolves : (Backend.dnf5 command lib).Resolves installed) {removeObsolete : Bool}
    {s s' : AgentState σ} {result : ProcessResult}
    (h : exec (Dnf5.upgradeInternal lib host type removeObsolete) s = (.ok result, s'))
    (hcode : result.code = 100) : installed s'.system = installed s.system := by
  obtain ⟨hconf, hload, hresolve⟩ := hresolves
  unfold Dnf5.upgradeInternal at h
  rw [exec_bind (exec_changeSystem _ _)] at h
  obtain ⟨outcome, s₁, htry, h⟩ := exec_bind_ok h
  have hkeep : installed s₁.system = installed s.system := by
    have htried := keeps_tryLibrary (keeps_bind hload fun _ => hresolve (type = .updateVm))
      (s.withSystem (lib.setConf "obsoletes" removeObsolete s.system))
    rw [htry] at htried
    exact htried.trans (hconf "obsoletes" removeObsolete s.system)
  cases outcome with
  | error text =>
      rw [exec_pure] at h
      cases h
      exact hkeep
  | ok transaction =>
      dsimp only at h
      split at h
      · rw [exec_pure] at h
        cases h
        exact hkeep
      · -- a transaction that is run has another code
        obtain ⟨ran, s₂, -, h⟩ := exec_bind_ok h
        rw [exec_pure] at h
        cases h
        have hstart : ({} : ProcessResult).code ≤ 24 := by decide
        have hle := Apt.upgradeResult_code_le hstart ran
        omega

/-- With the libraries of DNF and DNF5, an upgrade that reports no updates has not changed the
packages. -/
theorem Backend.upgradeInternal_unchanged {backend : Backend σ} {host : Host σ} {type : AgentType}
    {installed : σ → Packages} (hresolves : backend.Resolves installed)
    (htransaction : backend.hasTransaction = true) {removeObsolete : Bool}
    {upgrade : PhaseReport σ}
    (h : upgrade.OfUpgrade (backend.packageManager host type) removeObsolete)
    (hcode : upgrade.code = 100) : installed upgrade.after = installed upgrade.before := by
  obtain ⟨result, s, s', hrun, hresult, hbefore, hafter⟩ := h.run
  rw [← hbefore, ← hafter]
  rw [← hresult] at hcode
  cases backend with
  | dnf command lib => exact Dnf.upgradeInternal_unchanged hresolves hrun hcode
  | dnf5 command lib => exact Dnf5.upgradeInternal_unchanged hresolves hrun hcode
  | aptCli => cases htransaction
  | apt lib => cases htransaction
  | dnfCli command => cases htransaction
  | pacmanCli => cases htransaction

/-! ## The code of an upgrade -/

/-- A listing says what is installed, and leaves the system as it is. -/
theorem Listing.Of.installed {self : PackageManager σ} {installed : σ → Packages}
    (hlists : self.Lists installed) {listing : Listing σ} (h : listing.Of self) :
    listing.packages = installed listing.before ∧ listing.after = listing.before := by
  obtain ⟨s, s', hrun, hbefore, hafter⟩ := h
  rw [hlists s] at hrun
  obtain ⟨hpackages, rfl⟩ := Prod.mk.inj hrun
  rw [← hbefore, ← hafter]
  exact ⟨(Except.ok.inj hpackages).symm, rfl⟩

/-- The system that the code for "no updates" of an upgrade phase speaks about: with a transaction
that was resolved, the one it has found; with a command, whose exit code it is, the one it has
left. -/
def Backend.spokenOf (backend : Backend σ) (upgrade : PhaseReport σ) : σ :=
  if backend.hasTransaction then upgrade.before else upgrade.after

/-- The code says what has happened to the packages between two systems. -/
structure SaysUnchanged (installed : σ → Packages) (before after : σ) (code : Int) : Prop where
  /-- "No updates" means no change. -/
  noUpdates_iff : code = Exit.okNoUpdates ↔ Unchanged (installed before) (installed after)
  /-- Otherwise it is a success. -/
  ok : code ≠ Exit.okNoUpdates → code = Exit.ok

/-- A run without failures returns the code for "no updates" exactly when no package was installed or
updated in it, provided that this is so whenever the upgrade phase reports no updates. -/
theorem noUpdates_iff {backend : Backend σ} {host : Host σ} {type : AgentType}
    {installed : σ → Packages} (hlists : (backend.packageManager host type).Lists installed)
    (hresolves : backend.Resolves installed) (htype : type ≠ .updateVm)
    {refresh hardFail removeObsolete : Bool} {requirements : Option (Dict String String)}
    {s : AgentState σ} {result : ProcessResult} {t' : AgentState (Recorded σ)}
    (h : exec ((backend.packageManager host type).recording.upgrade' refresh hardFail removeObsolete
      requirements) s.start = (.ok result, t'))
    (hfailed : ¬t'.journal.Failed) :
    SaysUnchanged installed s.system t'.forget.system result.code ↔
      ∀ upgrade ∈ t'.journal.reports, upgrade.phase = .upgrade → upgrade.code = Exit.okNoUpdates →
        Unchanged (installed s.system) (installed (backend.spokenOf upgrade)) := by
  have hself : (backend.packageManager host type).type = type := by
    cases backend <;> rfl
  -- the last report is the only one of the upgrade phase
  have hlast : ∀ {reports : List (PhaseReport σ)} {code : Int} {upgrade report : PhaseReport σ},
      Prepared reports code → report ∈ reports ++ [upgrade] → report.phase = .upgrade →
      report = upgrade := by
    intro reports code upgrade report hprepared hmem hphase
    rcases List.mem_append.mp hmem with hmem | hmem
    · exact absurd hphase (hprepared.not_upgrade hmem)
    · exact List.mem_singleton.mp hmem
  cases PackageManager.upgradeOutcome (AgentState.journal_start s) h with
  | stopped hbegun hlistings hcode => exact absurd (hbegun.prepared.failed_iff.mpr hcode) hfailed
  | @merged old reports prepared upgrade hbegun hupgrade hreports hlistings hcode hne hafter =>
      -- the upgrade phase has reported no updates
      rw [hbegun.failed_append_iff hupgrade hreports, not_or, not_not] at hfailed
      have hmark := upgradeCode_cases upgrade.code
      have hnone : upgrade.code = 100 := by omega
      have hresult : result.code = 100 := by omega
      have hspoken : installed (backend.spokenOf upgrade) = installed t'.forget.system := by
        show installed (backend.spokenOf upgrade) = installed t'.system.system
        rw [← hafter, Backend.spokenOf]
        by_cases htransaction : backend.hasTransaction = true
        · rw [if_pos htransaction]
          exact (Backend.upgradeInternal_unchanged hresolves htransaction hupgrade hnone).symm
        · rw [if_neg htransaction]
      constructor
      · intro htold report hmem hphase _
        rw [hreports] at hmem
        rw [hlast hbegun.prepared hmem hphase, hspoken]
        exact htold.noUpdates_iff.mp hresult
      · intro hunchanged
        have hend := hunchanged upgrade
          (by rw [hreports]; exact List.mem_append_right _ (List.mem_singleton_self _))
          hupgrade.phase_eq hnone
        rw [hspoken] at hend
        exact ⟨⟨fun _ => hend, fun _ => hresult⟩, fun hnot => absurd hresult hnot⟩
  | downloaded hbegun hupgrade hzero hreports hlistings hupdateVm hcode =>
      rw [hself] at hupdateVm
      exact absurd hupdateVm htype
  | @compared old new reports upgrade hbegun hupgrade hzero hnew hreports hlistings _ hcode hafter =>
      -- the upgrade phase was a success, so the code compares the two listings
      obtain ⟨hold, -⟩ := hbegun.listing.installed hlists
      obtain ⟨hnewPackages, hnewAfter⟩ := hnew.installed hlists
      rw [hold, hbegun.before_eq, hnewPackages, ← hnewAfter, hafter] at hcode
      constructor
      · intro _ report hmem hphase hreport
        rw [hreports] at hmem
        rw [hlast hbegun.prepared hmem hphase, hzero] at hreport
        cases hreport
      · intro _
        by_cases hunchanged : Unchanged (installed s.system) (installed t'.forget.system)
        · have hresult : result.code = 100 := hcode.trans (if_pos hunchanged)
          exact ⟨⟨fun _ => hunchanged, fun _ => hresult⟩, fun hnot => absurd hresult hnot⟩
        · have hresult : result.code = 0 := hcode.trans (if_neg hunchanged)
          refine ⟨⟨fun hnone => ?_, fun hyes => absurd hyes hunchanged⟩, fun _ => hresult⟩
          rw [hresult] at hnone
          cases hnone

/-! ## An outdated package manager -/

namespace Centos

/-- The packages, before and after `dnf` itself is upgraded. -/
def installed (upgraded : Bool) : Packages :=
  Dict.ofList [("dnf", [if upgraded then "4.7.0-1" else "4.2.7-1"]), ("rpm", ["4.14.3-1"])]

/-- What `rpm` prints then. -/
def listing (upgraded : Bool) : Bytes :=
  (if upgraded then "dnf 4.7.0-1\nrpm 4.14.3-1\n" else "dnf 4.2.7-1\nrpm 4.14.3-1\n").toList.map
    fun c => UInt8.ofNat c.toNat

/-- The commands: `rpm` lists the packages, and a command about `dnf` upgrades it. -/
def host : Host Bool where
  communicate := fun command => do
    let upgraded ← get
    if command.head? = some "rpm" then pure { returncode := 0, out := listing upgraded }
    else do
      set (upgraded || command.getLast? = some "dnf")
      pure { returncode := 0 }

/-- DNF, with nothing to upgrade. -/
def backend : Backend Bool := .dnf "dnf" {
  setConf := fun _ _ s => s
  updateCache := pure true
  upgradeAll := pure ()
  resolve := fun _ => pure none
  downloadPackages := fun _ => pure ()
  packageSignatureCheck := fun _ => pure (.ok, "")
  packageImportKey := fun _ => pure ()
  doTransaction := pure ()
  close := id }

/-- What the plugins require there. -/
def requirements : Dict String String := Dict.ofList [("dnf", "4.7.0"), ("rpm", "4.14.2")]

/-- A run of `_upgrade`. -/
def run (requirements : Option (Dict String String)) :
    Except AgentError ProcessResult × AgentState (Recorded Bool) :=
  exec ((backend.packageManager host .vm).recording.upgrade' true true true requirements)
    (AgentState.start ⟨false, {}⟩)

/-- What is listed is what is installed. -/
theorem parsePackages_listing (upgraded : Bool) :
    parsePackages DnfCli.columns (sanitizeOutput (listing upgraded) false)
      = .ok (installed upgraded) := by
  cases upgraded with
  | false => rfl
  | true => rfl

/-- The listing reads what is installed. -/
theorem lists : (backend.packageManager host .vm).Lists installed := by
  intro s
  let printed : ProcessResult := { code := 0, out := sanitizeOutput (listing s.system) false }
  have hrun : exec (runCmd host ["rpm", "-qa", "--queryformat",
      "%\x7bNAME\x7d %\x7bVERSION\x7d-%\x7bRELEASE\x7d\n"] false) s = (.ok printed, s) := rfl
  show exec (listPackages host _ DnfCli.columns) s = _
  unfold listPackages
  rw [exec_bind hrun, exec_ofResult, parsePackages_listing]

/-- Nothing but the transaction changes the packages. -/
theorem resolves : backend.Resolves installed :=
  ⟨fun _ _ _ => rfl, fun _ => rfl, fun _ _ => rfl, fun _ => rfl⟩

end Centos

/-- Without requirements, nothing is installed. -/
theorem noUpdates_iff_centos :
    SaysUnchanged Centos.installed false (Centos.run none).2.forget.system 100 ↔
      ∀ upgrade ∈ (Centos.run none).2.journal.reports, upgrade.phase = .upgrade →
        upgrade.code = Exit.okNoUpdates →
          Unchanged (Centos.installed false) (Centos.installed (Centos.backend.spokenOf upgrade)) := by
  have hrun : Centos.run none
      = (.ok { code := 100, realtime := true, posted := true }, (Centos.run none).2) := rfl
  have hreports : (Centos.run none).2.journal.reports
      = [⟨.refresh, 0, false, false⟩, ⟨.upgrade, 100, false, false⟩] := rfl
  have hfailed : ¬(Centos.run none).2.journal.Failed := by
    unfold Journal.Failed
    rw [hreports]
    decide
  exact noUpdates_iff Centos.lists Centos.resolves (by decide) hrun hfailed

/-- With the requirements, `dnf` is upgraded, and the code says that there are no updates. -/
theorem noUpdates_after_requirements :
    (Centos.run (some Centos.requirements)).1
        = .ok { code := 100, realtime := true, posted := true } ∧
      ¬(Centos.run (some Centos.requirements)).2.journal.Failed ∧
      ¬SaysUnchanged Centos.installed false
        (Centos.run (some Centos.requirements)).2.forget.system 100 := by
  have hreports : (Centos.run (some Centos.requirements)).2.journal.reports
      = [⟨.requirements, 0, false, true⟩, ⟨.refresh, 0, true, true⟩, ⟨.upgrade, 100, true, true⟩] :=
    rfl
  have hsystem : (Centos.run (some Centos.requirements)).2.forget.system = true := rfl
  refine ⟨rfl, ?_, ?_⟩
  · unfold Journal.Failed
    rw [hreports]
    decide
  · rw [hsystem]
    intro htold
    have hchanged : ¬Unchanged (Centos.installed false) (Centos.installed true) := by decide
    exact hchanged (htold.noUpdates_iff.mp rfl)

end QubesAdminLinux
