import QubesAdminLinux.Dom0Updates.DownloadStatus
import QubesAdminLinux.Dom0Updates.WorkingSystem

/-! # Downloads that fail

A failed download of updates for dom0 should end the script with an error before anything is installed.
The status of `qvm-run` gets lost in the pipeline with which an old agent reports progress.

* **`FailureNoticed`** — what should happen if the download fails.
* **`Piped`** — the command lines and agents with which the output of the download is piped.
* **`failureNoticed_iff`** — with which command lines and agents it happens in all runs. -/

namespace QubesAdminLinux

namespace Dom0Update

open Proc

/-- If the download fails, nothing is installed, and the script exits with an error. -/
def FailureNoticed (t : List UpdateEvent) (r : Except Ending Unit) : Prop :=
  (∃ e ∈ t, downloadFails e = true) →
    (∀ e ∈ t, installs e = false) ∧ ∃ status, r = .error (.exit status) ∧ status ≠ 0

/-- The download installs nothing. -/
theorem installs_download (sys : System) (o : Options) (old : Bool) :
    Emits (fun e => installs e = false) (download sys o old) := by
  rw [download]
  split
  · refine emits_bind (part_runOrExit fun _ => rfl).emits fun _ =>
      emits_bind (part_runOrExit fun _ => rfl).emits fun _ =>
      emits_bind (emits_request fun _ => rfl) fun status => emits_bind (emits_setRetcode _) fun _ => ?_
    split
    · exact emits_exit _
    split
    · exact emits_exit _
    · exact (part_bind (part_runOrExit fun _ => rfl) fun _ => part_runOrExit fun _ => rfl).emits
  · refine emits_bind (part_areTtys.emits.mono fun _ => installs_of_plain) fun ttys => ?_
    split
    · exact emits_bind (emits_request fun _ => rfl) fun _ => emits_setRetcode _
    · exact emits_bind (emits_request fun _ => rfl) fun _ => emits_setRetcode _

/-- Only a pipeline hides a failure. -/
theorem failureHidden_download {sys : System} {o : Options} {old : Bool}
    (ho : ¬ (o.progressReporting = true ∧ old = true)) :
    Emits (fun e => failureHidden e = false) (download sys o old) := by
  have hplain : ∀ e, Plain e → failureHidden e = false := by
    intro e he
    cases hhidden : failureHidden e with
    | false => rfl
    | true =>
        cases (isDownload_of_failureHidden e hhidden).symm.trans (isDownload_of_plain he)
  have hrun : ∀ argv, Emits (fun e => failureHidden e = false) (runOrExit argv) :=
    fun argv => (part_runOrExit fun _ => rfl).emits
  rw [download]
  split
  · refine emits_bind (hrun _) fun _ => emits_bind (hrun _) fun _ =>
      emits_bind (emits_request fun _ => rfl) fun status => emits_bind (emits_setRetcode _) fun _ => ?_
    split
    · exact emits_exit _
    split
    · exact emits_exit _
    · exact emits_bind (hrun _) fun _ => hrun _
  · rename_i hway
    refine emits_bind (part_areTtys.emits.mono hplain) fun ttys => ?_
    have hprogress : ¬ o.progressReporting = true := by
      intro hp
      cases old with
      | true => exact ho ⟨hp, rfl⟩
      | false => exact hway ⟨hp, rfl⟩
    rw [if_neg hprogress]
    exact emits_bind (emits_request fun _ => rfl) fun _ => emits_setRetcode _

/-! ## Downloads that are noticed -/

/-- Without a pipeline, a failed download ends the script before anything is installed. -/
theorem failureNoticed_update {sys : System} {o : Options} {old : Bool} {s s' : Vars}
    {t : List UpdateEvent} (ho : ¬ (o.progressReporting = true ∧ old = true)) {guiapp : List String}
    {r : Except Ending Unit} (h : Runs (update sys o old guiapp) s t r s') : FailureNoticed t r := by
  rintro ⟨e, he, hfails⟩
  rcases runs_bind.mp h with ⟨ending, rfl, hrun⟩ | ⟨_, t₁, t₂, s₁, rfl, hrun, hrest⟩
  · refine ⟨installs_download sys o old _ _ _ _ hrun, ?_⟩
    rcases runs_download hrun with ⟨status, hstatus, hr⟩ | ⟨hr, -⟩
    · cases hr
      exact ⟨status, rfl, hstatus⟩
    · cases hr
  rcases runs_download hrun with ⟨_, -, hr⟩ | ⟨-, -, e', status, hdownload, hretcode, hknown⟩
  · cases hr
  -- the failure is that of the download, not of an event after it
  have hlast : ∀ e ∈ t₂, isDownload e = false :=
    emits_bind (emits_checkDownload o old) (fun _ => isDownload_applyUpdates sys o guiapp) _ _ _ _ hrest
  have hmem : e ∈ (t₁ ++ t₂).filter isDownload :=
    List.mem_filter.mpr ⟨he, isDownload_of_fails hfails⟩
  rw [List.filter_append, hdownload, filter_eq_nil_of hlast, List.append_nil,
    List.mem_singleton] at hmem
  have hstatus : status ≠ 0 := by
    rintro rfl
    have hmem' : e' ∈ t₁ := (List.mem_filter.mp (hdownload ▸ List.mem_singleton_self e')).1
    rw [hmem, hknown rfl, failureHidden_download ho _ _ _ _ hrun e' hmem'] at hfails
    cases hfails
  rcases runs_bind.mp hrest with ⟨ending, rfl, hcheck⟩ | ⟨_, t₃, t₄, s₂, rfl, hcheck, -⟩
  · rcases runs_checkDownload hretcode hcheck with ⟨hr, rfl, -⟩ | ⟨hr, -⟩
    · cases hr
      rw [List.append_nil]
      exact ⟨installs_download sys o old _ _ _ _ hrun, status, rfl, hstatus⟩
    · cases hr
  · rcases runs_checkDownload hretcode hcheck with ⟨hr, -⟩ | ⟨-, -, -, hzero⟩
    · cases hr
    · exact absurd hzero hstatus

/-- The output of the download is piped. -/
def Piped (sys : System) (args : List String) : Prop :=
  ∃ o, downloadsWith sys args = some o ∧ o.progressReporting = true ∧ oldVersion sys = some true

/-! ## Downloads that are not noticed -/

/-- Everything succeeds, but for a download whose output is piped. -/
def onlyDownloadFails : (c : UpdateCall) → c.Reply :=
  workingSystem { metadata := false, piped := 1, template := 0, dnf := 0 }

/-- In the environment in which only the download fails, a part ends so. -/
abbrev Ends {α : Type} (x : UpdateM α) (s : Vars) (r : Except Ending α) (s' : Vars) : Prop :=
  EndsIn onlyDownloadFails x s r s'

variable {sys : System} {o : Options} {s : Vars}

/-- The status of `sed` hides that of the download. -/
theorem play_download (ho : o.progressReporting = true) :
    play onlyDownloadFails (download sys o true) s =
      ([⟨.isTty 1, false⟩, ⟨.downloadPiped sys.updatevm (downloadCommand o false), (1, 0)⟩],
        .ok (), { s with retcode := some 0 }) := by
  rw [download, if_neg (by simp), downloadByScript]
  have httys : Ends areTtys s (.ok false) s := rfl
  refine (play_bind_ok httys).trans ?_
  rw [if_pos ho]
  rfl

/-- A script that runs a failing download to its end without an error. -/
def Ignores (x : UpdateM Unit) (s : Vars) : Prop :=
  (∃ e ∈ (play onlyDownloadFails x s).1, downloadFails e = true) ∧
    ∃ s', Ends x s (.error (.exit 0)) s'

/-- With progress and an old agent, the failure of a download is ignored. -/
theorem ignores_update (ho : o.progressReporting = true) (hrounds : sys.rounds ≠ 0)
    (guiapp : List String) : Ignores (update sys o true guiapp) ⟨none, false⟩ := by
  have hdownload : Ends (download sys o true) ⟨none, false⟩ (.ok ()) ⟨some 0, false⟩ :=
    congrArg Prod.snd (play_download ho)
  refine ⟨⟨⟨.downloadPiped sys.updatevm (downloadCommand o false), (1, 0)⟩, ?_, rfl⟩,
    ⟨some 0, false⟩, endsIn_bind hdownload ?_⟩
  · rw [update, play_bind_ok hdownload, play_download ho]
    simp
  · have hcheck := @endsIn_checkDownload ⟨false, 1, 0, 0, 0⟩ o true
    by_cases hremote : o.remoteOnly = true
    · rw [if_pos hremote] at hcheck
      exact play_bind_error hcheck
    · rw [if_neg hremote] at hcheck
      have hinstalled : (⟨false, 1, 0, 0, 0⟩ : Outcomes).installed o = 0 := if_neg (by simp)
      have hend := @endsIn_applyUpdates ⟨false, 1, 0, 0, 0⟩ sys o rfl guiapp hrounds
      rw [hinstalled] at hend
      exact endsIn_bind hcheck hend

/-- Where the output is piped, a failed download may be ignored. -/
theorem ignores_script {args : List String} (h : Piped sys args) :
    Ignores (script sys args) ⟨none, false⟩ := by
  obtain ⟨o, hoptions, ho, hold⟩ := h
  have hrounds : sys.rounds ≠ 0 := by
    intro hzero
    rw [oldVersion, hzero] at hold
    cases hold
  rcases downloadsWith_cases sys args with ⟨hnone, -⟩ | ⟨o', hsome, hscript, htemplate, haudio, hgui⟩
  · rw [hoptions] at hnone
    cases hnone
  rw [hoptions] at hsome
  cases hsome
  obtain ⟨guiapp, hprepare⟩ : ∃ guiapp, Ends (prepare sys o) ⟨none, false⟩ (.ok guiapp) ⟨none, false⟩ :=
    endsIn_prepare hgui
  obtain ⟨⟨e, he, hfails⟩, s', hend⟩ := ignores_update ho hrounds guiapp
  rw [hscript, updateDom0, if_neg htemplate, if_neg haudio, hold]
  refine ⟨⟨e, ?_, hfails⟩, s', endsIn_bind hprepare hend⟩
  rw [play_bind_ok hprepare]
  exact List.mem_append_right _ he

/-- Without a download, there is no failure to notice. -/
theorem failureNoticed_of_isDownload {t : List UpdateEvent} {r : Except Ending Unit}
    (h : ∀ e ∈ t, isDownload e = false) : FailureNoticed t r := by
  rintro ⟨e, he, hfails⟩
  cases (isDownload_of_fails hfails).symm.trans (h e he)

/-- What happens before the download does not matter. -/
theorem failureNoticed_append {t₁ t₂ : List UpdateEvent} {r : Except Ending Unit}
    (h₁ : ∀ e ∈ t₁, Plain e) (h₂ : FailureNoticed t₂ r) : FailureNoticed (t₁ ++ t₂) r := by
  rintro ⟨e, he, hfails⟩
  rcases List.mem_append.mp he with he | he
  · cases (isDownload_of_fails hfails).symm.trans (isDownload_of_plain (h₁ e he))
  · obtain ⟨hinstalls, hend⟩ := h₂ ⟨e, he, hfails⟩
    exact ⟨List.forall_mem_append.mpr ⟨fun e he => installs_of_plain (h₁ e he), hinstalls⟩, hend⟩

/-- What is not piped is noticed. -/
theorem failureNoticed_script {args : List String} (h : ¬ Piped sys args) {s s' : Vars}
    {t : List UpdateEvent} {r : Except Ending Unit} (hrun : Runs (script sys args) s t r s') :
    FailureNoticed t r := by
  rcases downloadsWith_cases sys args with ⟨hnone, -⟩ | ⟨o, hsome, hscript, htemplate, haudio, -⟩
  · exact failureNoticed_of_isDownload (isDownload_of_none hnone hrun)
  rw [hscript, updateDom0, if_neg htemplate, if_neg haudio] at hrun
  rcases runs_bind.mp hrun with ⟨_, -, hprepare⟩ | ⟨guiapp, t₁, t₂, s₁, rfl, hprepare, hrest⟩
  · exact failureNoticed_of_isDownload fun e he =>
      isDownload_of_plain ((part_prepare sys o).emits _ _ _ _ hprepare e he)
  refine failureNoticed_append ((part_prepare sys o).emits _ _ _ _ hprepare) ?_
  cases hold : oldVersion sys with
  | none =>
      rw [hold] at hrest
      obtain ⟨rfl, -⟩ := runs_throw.mp hrest
      exact failureNoticed_of_isDownload (by simp)
  | some old =>
      rw [hold] at hrest
      refine failureNoticed_update ?_ hrest
      rintro ⟨hprogress, rfl⟩
      exact h ⟨o, hsome, hprogress, hold⟩

/-- A failed download is noticed in all runs just for the command lines and agents with which its
output is not piped. -/
theorem failureNoticed_iff (sys : System) (args : List String) :
    (∀ s t r s', Runs (script sys args) s t r s' → FailureNoticed t r) ↔ ¬ Piped sys args := by
  constructor
  · intro h hpiped
    obtain ⟨hfails, s', hend⟩ := ignores_script hpiped
    have hrun := runs_play onlyDownloadFails (script sys args) ⟨none, false⟩
    rw [hend] at hrun
    obtain ⟨-, status, hstatus, hzero⟩ := h _ _ _ _ hrun hfails
    cases hstatus
    exact hzero rfl
  · intro h s t r s' hrun
    exact failureNoticed_script h hrun

/-- A system whose UpdateVM has an old agent. -/
def oldAgent : System := agentSystem "4.3.1"

/-- The download fails with 1, nothing else does, and the script exits with 0. -/
theorem failed_download_ignored : ∃ t s', Runs (script oldAgent ["--just-print-progress"]) ⟨none, false⟩ t
    (.error (.exit 0)) s' ∧ ¬ FailureNoticed t (.error (.exit 0)) := by
  have hpiped : Piped oldAgent ["--just-print-progress"] :=
    ⟨{ Options.initial none with progressReporting := true }, by decide +kernel, rfl, by decide +kernel⟩
  obtain ⟨hfails, s', hend⟩ := ignores_script hpiped
  have hrun := runs_play onlyDownloadFails (script oldAgent ["--just-print-progress"]) ⟨none, false⟩
  rw [hend] at hrun
  refine ⟨_, s', hrun, fun h => ?_⟩
  obtain ⟨-, status, hstatus, hzero⟩ := h hfails
  cases hstatus
  exact hzero rfl

end Dom0Update

end QubesAdminLinux
