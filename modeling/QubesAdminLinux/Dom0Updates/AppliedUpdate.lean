import QubesAdminLinux.Dom0Updates.DownloadStatus
import QubesAdminLinux.Dom0Updates.WorkingSystem

/-! # Updates that are applied

The script `qubes-dom0-update` should exit with 0 only if the update has been applied.  `RETCODE` is set
by the parts that download and install, and what `dnf check-update` says does not always get there.

* **`Applied`** — the calls of a run say that the update has been applied.
* **`InstallRun`** — what the installation does to `RETCODE`.
* **`applied_iff`** — which runs that exit with 0 have applied the update. -/

namespace QubesAdminLinux

namespace Dom0Update

open Proc

/-! ## Events -/

/-- Whether an event is an installation that succeeds. -/
def installSucceeds : UpdateEvent → Bool
  | ⟨.dnf _, status⟩ =>
      let status : Nat := status
      status = 0
  | ⟨.updateDom0, status⟩ =>
      let status : Nat := status
      status = 0
  | _ => false

/-- Whether `dnf check-update` says that there is nothing to update. -/
def saysNoUpdates : UpdateEvent → Bool
  | ⟨.checkUpdate _, status⟩ =>
      let status : Nat := status
      status = 0
  | _ => false

/-- Whether the first `dnf check-update` fails. -/
def checkFails : UpdateEvent → Bool
  | ⟨.checkUpdate false, status⟩ =>
      let status : Nat := status
      status ≠ 0 && status ≠ 100
  | _ => false

/-- What a test for metadata of the repository says. -/
def metadataTest : UpdateEvent → Option Bool
  | ⟨.pathIs kind path, present⟩ =>
      if kind = "-f" ∧ path = "/var/lib/qubes/updates/repodata/repomd.xml" then some present else none
  | _ => none

/-- Whether metadata of the repository has been received, as the last test says. -/
def metadataReceived (t : List UpdateEvent) : Bool := (t.filterMap metadataTest).getLast? = some true

/-- The update has been applied: the download has succeeded, and if metadata has been received, there was
nothing to update or an installation has succeeded. -/
def Applied (t : List UpdateEvent) : Prop :=
  ((∃ e ∈ t, isDownload e = true) ∧ ∀ e ∈ t, downloadFails e = false) ∧
    (metadataReceived t = false ∨ (∃ e ∈ t, saysNoUpdates e = true) ∨
      ∃ e ∈ t, installSucceeds e = true)

instance (t : List UpdateEvent) : Decidable (Applied t) := inferInstanceAs (Decidable (_ ∧ _))

/-- A run in console mode, with an action that is not just done in the UpdateVM. -/
def Console (sys : System) (args : List String) : Prop :=
  ∃ o, parseOptions (.initial sys.yumAction) args = .ok o ∧ o.gui = false ∧ o.remoteOnly = false

/-- There is a download whose failure is not hidden, and a check for updates that fails is made up for
by the second one. -/
def Heeded (sys : System) (args : List String) (t : List UpdateEvent) : Prop :=
  (downloadsWith sys args).isSome = true ∧ (∀ e ∈ t, failureHidden e = false) ∧
    ((∃ e ∈ t, checkFails e = true) → ∃ e ∈ t, saysNoUpdates e = true)

/-! ## What does not matter -/

/-- Closing calls are no steps of an update. -/
theorem isStep_of_closing {e : UpdateEvent} (h : Closing e) : isStep e = false := by
  obtain ⟨call, reply⟩ := e
  cases call with
  | dnf => cases h
  | updateDom0 => cases h
  | checkUpdate => cases h
  | _ => rfl

/-- They do not test for metadata. -/
theorem metadataTest_of_closing {e : UpdateEvent} (h : Closing e) : metadataTest e = none := by
  obtain ⟨call, reply⟩ := e
  cases call with
  | pathIs => cases h
  | _ => rfl

/-- The steps of the installation decide. -/
theorem exists_filter {f g : UpdateEvent → Bool} (hfg : ∀ e, f e = true → g e = true)
    (t : List UpdateEvent) : (∃ e ∈ t, f e = true) ↔ ∃ e ∈ t.filter g, f e = true := by
  constructor
  · rintro ⟨e, he, hf⟩
    exact ⟨e, List.mem_filter.mpr ⟨he, hfg e hf⟩, hf⟩
  · rintro ⟨e, he, hf⟩
    exact ⟨e, (List.mem_filter.mp he).1, hf⟩

/-! ## The installation -/

/-- The steps of an installation in the console, whether metadata has been received, and `RETCODE` before
and after it. -/
inductive InstallRun (retcode : Option Nat) : List UpdateEvent → Bool → Option Nat → Prop
  /-- Without metadata nothing is installed. -/
  | nothing : InstallRun retcode [] false retcode
  /-- `dnf` with packages. -/
  | packages (argv : List String) (status : Nat) :
      InstallRun retcode [⟨.dnf argv, status⟩] true (some status)
  /-- `qubes-vm-update`. -/
  | progress (status again : Nat) :
      InstallRun retcode [⟨.updateDom0, status⟩, ⟨.checkUpdate true, again⟩] true (some status)
  /-- `dnf` with all updates. -/
  | updates (argv : List String) (status again : Nat) :
      InstallRun retcode [⟨.checkUpdate false, (100 : Nat)⟩, ⟨.dnf argv, status⟩,
        ⟨.checkUpdate true, again⟩] true (some status)
  /-- There are no updates, or it cannot be told: `RETCODE` stays as it is. -/
  | unchanged (status again : Nat) (h : status ≠ 100) :
      InstallRun retcode [⟨.checkUpdate false, status⟩, ⟨.checkUpdate true, again⟩] true retcode

variable {sys : System} {o : Options} {s s' : Vars} {t : List UpdateEvent}

/-- The second check for updates. -/
theorem runs_recordUpdates {r : Except Ending Unit} (h : Runs recordUpdates s t r s') :
    ∃ again : Nat, t.filter isStep = [⟨.checkUpdate true, again⟩] ∧
      t.filterMap metadataTest = [] ∧ r = .ok () ∧ s' = s := by
  obtain ⟨(again : Nat), t', rfl, hrest⟩ := runs_request_bind.mp h
  refine ⟨again, ?_⟩
  split at hrest
  · obtain ⟨_, t₁, rfl, hlast⟩ := runs_run_bind hrest
    obtain ⟨_, rfl, rfl, rfl⟩ := runs_run hlast
    exact ⟨rfl, rfl, rfl, rfl⟩
  · obtain ⟨rfl, rfl, rfl⟩ := runs_pure.mp hrest
    exact ⟨rfl, rfl, rfl, rfl⟩

/-- A run of `dnf` is one call, whose status becomes the code. -/
theorem runs_runDnf {pkgs : List String} {r : Except Ending Unit}
    (h : Runs (runDnf o pkgs) s t r s') : ∃ (argv : List String) (status : Nat),
      t = [⟨.dnf argv, status⟩] ∧ r = .ok () ∧ s' = { s with retcode := some status } := by
  obtain ⟨(status : Nat), t', rfl, hset⟩ := runs_request_bind.mp h
  obtain ⟨rfl, hr⟩ := runs_set.mp (runs_get_bind.mp hset)
  exact ⟨_, status, rfl, hr⟩

/-- All updates are installed, without `--gui`: by `qubes-vm-update`, by `dnf`, or not at all. -/
theorem runs_installUpdates {guiapp : List String} (hgui : o.gui = false) {r : Except Ending Unit}
    (h : Runs (installUpdates o guiapp) s t r s') : r = .ok () ∧
      ((∃ status : Nat, t = [⟨.updateDom0, status⟩] ∧ s'.retcode = some status) ∨
        (∃ (argv : List String) (status : Nat),
          t = [⟨.checkUpdate false, (100 : Nat)⟩, ⟨.dnf argv, status⟩] ∧ s'.retcode = some status) ∨
        ∃ status : Nat, status ≠ 100 ∧ t = [⟨.checkUpdate false, status⟩] ∧ s' = s) := by
  rw [installUpdates, if_neg (by simp [hgui])] at h
  split at h
  · obtain ⟨(status : Nat), t', rfl, hset⟩ := runs_request_bind.mp h
    obtain ⟨rfl, rfl, rfl⟩ := runs_set.mp (runs_get_bind.mp hset)
    exact ⟨rfl, Or.inl ⟨status, rfl, rfl⟩⟩
  obtain ⟨(status : Nat), t', rfl, hrest⟩ := runs_request_bind.mp h
  by_cases hstatus : status = (100 : Nat)
  · rw [if_pos hstatus] at hrest
    obtain ⟨argv, status', rfl, rfl, rfl⟩ := runs_runDnf hrest
    rw [hstatus]
    exact ⟨rfl, Or.inr (Or.inl ⟨argv, status', rfl, rfl⟩)⟩
  · rw [if_neg hstatus] at hrest
    obtain ⟨rfl, rfl, rfl⟩ := runs_pure.mp hrest
    exact ⟨rfl, Or.inr (Or.inr ⟨status, hstatus, rfl, rfl⟩)⟩

/-- The installation, without `--gui`. -/
theorem runs_install {guiapp : List String} (hgui : o.gui = false) {r : Except Ending Unit}
    (h : Runs (install sys o guiapp) s t r s') : ∃ present steps,
      t.filter isStep = steps ∧ t.filterMap metadataTest = [present] ∧ r = .ok () ∧
        InstallRun s.retcode steps present s'.retcode := by
  obtain ⟨(present : Bool), t', rfl, hrest⟩ := runs_request_bind.mp h
  refine ⟨present, _, rfl, ?_⟩
  by_cases hpkgs : o.pkgs ≠ []
  · rw [if_pos hpkgs] at hrest
    cases present with
    | true =>
        obtain ⟨argv, status, rfl, rfl, rfl⟩ := runs_runDnf hrest
        exact ⟨rfl, rfl, .packages argv status⟩
    | false =>
        -- nothing has been downloaded
        obtain ⟨rfl, rfl, rfl⟩ := runs_pure.mp hrest
        exact ⟨rfl, rfl, .nothing⟩
  rw [if_neg hpkgs] at hrest
  cases present with
  | false =>
      obtain ⟨_, t₁, rfl, hend⟩ := runs_run_bind hrest
      rw [if_neg (by simp [hgui])] at hend
      obtain ⟨rfl, rfl, rfl⟩ := runs_pure.mp hend
      exact ⟨rfl, rfl, .nothing⟩
  | true =>
      rw [if_pos rfl] at hrest
      rcases runs_bind.mp hrest with ⟨_, -, hupdates⟩ | ⟨_, t₁, t₂, s₁, rfl, hupdates, hrecord⟩
      · cases (runs_installUpdates hgui hupdates).1
      obtain ⟨again, hsteps, htests, rfl, rfl⟩ := runs_recordUpdates hrecord
      have hfirst : isStep ⟨.pathIs "-f" "/var/lib/qubes/updates/repodata/repomd.xml", true⟩ = false :=
        rfl
      have htest : metadataTest ⟨.pathIs "-f" "/var/lib/qubes/updates/repodata/repomd.xml", true⟩
          = some true := rfl
      rw [List.filter_cons_of_neg (by simp [hfirst]), List.filterMap_cons_some htest,
        List.filter_append, List.filterMap_append, hsteps, htests]
      rcases (runs_installUpdates hgui hupdates).2 with
        ⟨status, rfl, hretcode⟩ | ⟨argv, status, rfl, hretcode⟩ | ⟨status, hstatus, rfl, rfl⟩
      · rw [hretcode]
        exact ⟨rfl, rfl, .progress status again⟩
      · rw [hretcode]
        exact ⟨rfl, rfl, .updates argv status again⟩
      · exact ⟨rfl, rfl, .unchanged status again hstatus⟩

/-- What is known of the steps of an installation that leaves 0 in `RETCODE`. -/
theorem installRun_iff {steps : List UpdateEvent} {present : Bool}
    (h : InstallRun (some 0) steps present (some 0)) :
    (present = false ∨ (∃ e ∈ steps, saysNoUpdates e = true) ∨ ∃ e ∈ steps, installSucceeds e = true) ↔
      ((∃ e ∈ steps, checkFails e = true) → ∃ e ∈ steps, saysNoUpdates e = true) := by
  cases h with
  | nothing => simp
  | packages argv => simp [installSucceeds, checkFails]
  | progress _ again => simp [installSucceeds, checkFails]
  | updates argv _ again => simp [installSucceeds, checkFails]
  | unchanged status again hstatus =>
      -- only the checks for updates can tell
      simp [installSucceeds, checkFails, saysNoUpdates, hstatus]
      omega

/-! ## The whole script -/

/-- The script ends with 0 only if this is the code, and after closing calls. -/
theorem runs_finish (h : Runs finish s t (.error (.exit 0)) s') :
    s.retcode = some 0 ∧ ∀ e ∈ t, Closing e := by
  obtain ⟨_, t₁, t₂, s₁, rfl, hclosing, -, -, hexit⟩ := (part_askReboot _).runs_bind (runs_get_bind.mp h)
  obtain ⟨rfl, hr, -⟩ := runs_throw.mp hexit
  cases hretcode : s.retcode with
  | none =>
      rw [hretcode] at hr
      cases hr
  | some status =>
      rw [hretcode] at hr
      cases hr
      exact ⟨rfl, by simpa using hclosing⟩

/-- After a download that leaves 0 in `RETCODE`; the last test for metadata is in the installation. -/
theorem runs_applyUpdates {guiapp : List String} (hgui : o.gui = false) (hs : s.retcode = some 0)
    (h : Runs (applyUpdates sys o guiapp) s t (.error (.exit 0)) s') (before : List UpdateEvent) :
    InstallRun (some 0) (t.filter isStep) (metadataReceived (before ++ t)) (some 0) := by
  obtain ⟨_, t₁, t', s₁, rfl, hwait, hs₁, -, hrest⟩ := (part_waitForDownload _).runs_bind h
  obtain ⟨_, t₂, t', s₂, rfl, herrors, hs₂, -, hrest⟩ := part_checkErrors.runs_bind hrest
  obtain ⟨_, t₃, t', s₃, rfl, hxen, hs₃, -, hrest⟩ := (part_checkXen o).runs_bind hrest
  rcases runs_bind.mp hrest with ⟨_, hr, hinstall⟩ | ⟨_, t₄, t', s₄, rfl, hinstall, hrest⟩
  · cases hr
    obtain ⟨_, _, -, -, hr, -⟩ := runs_install hgui hinstall
    cases hr
  obtain ⟨present, steps, hsteps, htests, -, hrun⟩ := runs_install hgui hinstall
  obtain ⟨_, t₅, t₆, s₅, rfl, haudio, hs₅, -, hrest⟩ := (part_switchAudio o _).runs_bind hrest
  obtain ⟨hzero, hfinish⟩ := runs_finish hrest
  have hclosing : ∀ e ∈ t₅ ++ t₆, Closing e := List.forall_mem_append.mpr ⟨haudio, hfinish⟩
  have hlast : (t₅ ++ t₆).filterMap metadataTest = [] :=
    List.filterMap_eq_nil_iff.mpr fun e he => metadataTest_of_closing (hclosing e he)
  have hnone : (t₅ ++ t₆).filter isStep = [] :=
    filter_eq_nil_of fun e he => isStep_of_closing (hclosing e he)
  have hreceived : metadataReceived (before ++ (t₁ ++ (t₂ ++ (t₃ ++ (t₄ ++ (t₅ ++ t₆)))))) = present := by
    simp only [metadataReceived, List.filterMap_append] at hlast ⊢
    rw [hlast, htests]
    simp
  rw [hreceived, List.filter_append, List.filter_append, List.filter_append, List.filter_append, hnone,
    hsteps, filter_isStep_of_plain hwait, filter_isStep_of_plain herrors, filter_isStep_of_plain hxen]
  rw [hs₃, hs₂, hs₁, hs, ← hs₅, hzero] at hrun
  simpa using hrun

/-- A run that ends with 0 has a download and an installation that leave 0 in `RETCODE`. -/
theorem runs_script {args : List String} (hdownloads : downloadsWith sys args = some o)
    (hgui : o.gui = false) (hremote : o.remoteOnly = false)
    (h : Runs (script sys args) s t (.error (.exit 0)) s') :
    (∃ e, t.filter isDownload = [e] ∧ downloadFails e = failureHidden e) ∧
      InstallRun (some 0) (t.filter isStep) (metadataReceived t) (some 0) := by
  rcases downloadsWith_cases sys args with ⟨hnone, -⟩ | ⟨o', hsome, hscript, htemplate, haudio, -⟩
  · rw [hdownloads] at hnone
    cases hnone
  rw [hdownloads] at hsome
  cases hsome
  rw [hscript, updateDom0, if_neg htemplate, if_neg haudio] at h
  obtain ⟨guiapp, t₁, t', s₁, rfl, hprepare, -, -, hrest⟩ := (part_prepare sys o).runs_bind h
  cases hold : oldVersion sys with
  | none =>
      rw [hold] at hrest
      cases (runs_throw.mp hrest).2.1
  | some old =>
  rw [hold] at hrest
  rcases runs_bind.mp hrest with ⟨_, hr, hrun⟩ | ⟨_, t₂, t', s₂, rfl, hrun, hrest⟩
  · cases hr
    rcases runs_download hrun with ⟨status, hstatus, hr⟩ | ⟨hr, -⟩
    · cases hr
      exact absurd rfl hstatus
    · cases hr
  obtain ⟨hsteps, e, status, hdownload, hretcode, hfails⟩ :=
    (runs_download hrun).elim (fun hexit => (by obtain ⟨_, -, hr⟩ := hexit; cases hr)) And.right
  rcases runs_bind.mp hrest with ⟨_, hr, hrun⟩ | ⟨_, t₃, t₄, s₃, rfl, hrun, happly⟩
  · cases hr
    rcases runs_checkDownload hretcode hrun with ⟨hr, -, hstatus⟩ | ⟨hr, -⟩
    · cases hr
      simp [hremote] at hstatus
    · cases hr
  obtain ⟨rfl, rfl, rfl⟩ := (runs_checkDownload hretcode hrun).elim
    (fun hexit => (by cases hexit.1)) And.right
  have hinstall := runs_applyUpdates hgui hretcode happly (t₁ ++ t₂)
  have hnone : t₄.filter isDownload = [] :=
    filter_eq_nil_of (isDownload_applyUpdates sys o guiapp _ _ _ _ happly)
  constructor
  · refine ⟨e, ?_, hfails rfl⟩
    rw [List.nil_append, List.filter_append, List.filter_append, filter_isDownload_of_plain hprepare,
      hdownload, hnone]
    rfl
  · rw [List.nil_append, List.filter_append, List.filter_append, filter_isStep_of_plain hprepare, hsteps]
    rw [List.append_assoc] at hinstall
    exact hinstall

/-- A successful installation is a step of an update. -/
theorem isStep_of_installSucceeds (e : UpdateEvent) (h : installSucceeds e = true) :
    isStep e = true := by
  revert h
  fun_cases installSucceeds e with
  | case1 => exact fun _ => rfl
  | case2 => exact fun _ => rfl
  | case3 =>
      intro h
      cases h

/-- So is the answer that there are no updates. -/
theorem isStep_of_saysNoUpdates (e : UpdateEvent) (h : saysNoUpdates e = true) : isStep e = true := by
  revert h
  fun_cases saysNoUpdates e with
  | case1 => exact fun _ => rfl
  | case2 =>
      intro h
      cases h

/-- So is a check that fails. -/
theorem isStep_of_checkFails (e : UpdateEvent) (h : checkFails e = true) : isStep e = true := by
  revert h
  fun_cases checkFails e with
  | case1 => exact fun _ => rfl
  | case2 =>
      intro h
      cases h

/-- A command line with which the script downloads is accepted. -/
theorem options_of_downloadsWith {args : List String} (h : downloadsWith sys args = some o) :
    parseOptions (.initial sys.yumAction) args = .ok o := by
  rw [downloadsWith] at h
  split at h
  · cases h
  cases hparse : parseOptions (.initial sys.yumAction) args with
  | error status =>
      rw [hparse] at h
      cases h
  | ok o' =>
      rw [hparse] at h
      dsimp only at h
      split at h
      · cases h
      · cases h
        rfl

/-- A run in console mode that exits with 0 has applied the update just if it gets to the download, no
pipeline hides that the download fails, and `dnf check-update` either says whether there are updates, or
says at the end that there are none. -/
theorem applied_iff (sys : System) (args : List String) {s s' : Vars} {t : List UpdateEvent}
    (hconsole : Console sys args) (hrun : Runs (script sys args) s t (.error (.exit 0)) s') :
    Applied t ↔ Heeded sys args t := by
  obtain ⟨o, hparse, hgui, hremote⟩ := hconsole
  rw [Applied, Heeded]
  cases hdownloads : downloadsWith sys args with
  | none =>
      -- the help, or a template
      constructor
      · rintro ⟨⟨⟨e, he, hdownload⟩, -⟩, -⟩
        rw [isDownload_of_none hdownloads hrun e he] at hdownload
        cases hdownload
      · rintro ⟨hsome, -⟩
        cases hsome
  | some o' =>
  have hoptions := options_of_downloadsWith hdownloads
  rw [hparse] at hoptions
  cases hoptions
  obtain ⟨⟨e, hdownload, hfails⟩, hinstall⟩ := runs_script hdownloads hgui hremote hrun
  rw [exists_filter isStep_of_installSucceeds, exists_filter isStep_of_saysNoUpdates,
    exists_filter isStep_of_checkFails, installRun_iff hinstall,
    forall_of_filter_eq (fun _ => isDownload_of_fails) hdownload,
    forall_of_filter_eq isDownload_of_failureHidden hdownload, hfails]
  have he : e ∈ t.filter isDownload := hdownload ▸ List.mem_singleton_self e
  constructor
  · rintro ⟨⟨-, hhidden⟩, hcheck⟩
    exact ⟨rfl, hhidden, hcheck⟩
  · rintro ⟨-, hhidden, hcheck⟩
    exact ⟨⟨⟨e, List.mem_filter.mp he⟩, hhidden⟩, hcheck⟩

/-- A system where `dnf check-update` exits with some status, and the UpdateVM has sent packages. -/
def checkingSystem (check : Nat) : (c : UpdateCall) → c.Reply :=
  workingSystem { metadata := true, piped := 0, template := 0, dnf := 0, check := check }

/-- There are updates, and `dnf` installs them. -/
theorem applied_iff_updates : ∃ t s', Runs (script usualSystem []) ⟨none, false⟩ t (.error (.exit 0)) s' ∧
    (Applied t ↔ Heeded usualSystem [] t) ∧ Applied t := by
  have hend : (play (checkingSystem 100) (script usualSystem []) ⟨none, false⟩).2 =
      (.error (.exit 0), ⟨some 0, false⟩) := by decide +kernel
  have hrun := runs_play (checkingSystem 100) (script usualSystem []) ⟨none, false⟩
  rw [hend] at hrun
  exact ⟨_, _, hrun, applied_iff usualSystem [] ⟨.initial none, rfl, rfl, by decide⟩ hrun,
    by decide +kernel⟩

/-- `dnf check-update` fails with 1, nothing is installed, and the script exits with 0. -/
theorem failed_check_exits_zero : ∃ t s', Console usualSystem [] ∧
    Runs (script usualSystem []) ⟨none, false⟩ t (.error (.exit 0)) s' ∧ ¬ Applied t := by
  have hend : (play (checkingSystem 1) (script usualSystem []) ⟨none, false⟩).2 =
      (.error (.exit 0), ⟨some 0, false⟩) := by decide +kernel
  have hrun := runs_play (checkingSystem 1) (script usualSystem []) ⟨none, false⟩
  rw [hend] at hrun
  exact ⟨_, _, ⟨.initial none, rfl, rfl, by decide⟩, hrun, by decide +kernel⟩

end Dom0Update

end QubesAdminLinux
