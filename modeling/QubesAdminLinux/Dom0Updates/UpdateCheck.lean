import QubesAdminLinux.Dom0Updates.AppliedUpdate

/-! # Checking for updates of dom0

With `--check-only`, and for the actions `list` and `search`, `qubes-dom0-update` asks the UpdateVM for
updates and installs nothing.  A job of `cron` runs it and records the answer as features of dom0.

* **`readOnly_updateDom0`** — what such a run may call at all.
* **`guarded_updateDom0`** — with `--check-only`, the UpdateVM is left alone unless it is running.
* **`exit_updateDom0`** — the status of such a run.
* **`cron`** — the job; **`cron_records`** — what it records, and when. -/

namespace QubesAdminLinux

namespace Dom0Update

open Proc

/-! ## What a check calls -/

/-- The command lines in dom0 that prepare a check: those for the lock, those that find a graphical program
for `--gui`, the removal of what an earlier transfer has left for `--clean`, and that of its errors. -/
inductive Preparation (o : Options) : List String → Prop
  | group : Preparation o ["chgrp", "qubes", "qubes-dom0-update.lock"]
  | mode : Preparation o ["chmod", "g+w", "qubes-dom0-update.lock"]
  | lock : Preparation o ["flock", "-n", "9"]
  | lookup (h : o.gui = true) (app : String) : Preparation o ["type", app]
  | kdialog (h : o.gui = true) (arguments : List String) : Preparation o ("kdialog" :: arguments)
  | zenity (h : o.gui = true) (arguments : List String) : Preparation o ("zenity" :: arguments)
  | packages (h : o.clean = true) : Preparation o ["rm", "-f", "/var/lib/qubes/updates/rpm/*"]
  | metadata (h : o.clean = true) : Preparation o ["rm", "-f", "/var/lib/qubes/updates/repodata/*"]
  | errors : Preparation o ["rm", "-f", "/var/lib/qubes/updates/errors"]

/-- The command line that asks whether the UpdateVM is running. -/
def runningCheck (sys : System) : List String := ["qvm-check", "-q", "--running", sys.updatevm]

/-- The calls that concern the UpdateVM. -/
inductive Contact (sys : System) : UpdateCall → Prop
  | qvmRun (opts : List String) (cmd : String) :
      Contact sys (.run (["qvm-run"] ++ opts ++ ["--", sys.updatevm, cmd]))
  | repositories : Contact sys (.sendRepositories sys.updatevm)
  | progress : Contact sys (.downloadWithProgress sys.updatevm)
  | piped (cmd : String) : Contact sys (.downloadPiped sys.updatevm cmd)
  | plain (cmd : String) : Contact sys (.downloadPlain sys.updatevm cmd)

/-- The other calls of a check. -/
inductive Local (sys : System) (o : Options) : UpdateCall → Prop
  | prepares {argv : List String} (h : Preparation o argv) : Local sys o (.run argv)
  | running : Local sys o (.run (runningCheck sys))
  | user : Local sys o (.output ["id", "-ur"])
  | database : Local sys o (.output ["rpm", "--eval", "%\x7b_dbpath\x7d"])
  | tty (fd : Nat) : Local sys o (.isTty fd)

/-- An event of a check.  A nested `qubes-vm-update` is started only for progress. -/
def ReadOnly (sys : System) (o : Options) (e : UpdateEvent) : Prop :=
  Local sys o e.call ∨
    Contact sys e.call ∧ (o.progressReporting = false → e.call ≠ .downloadWithProgress sys.updatevm)

/-- An event in dom0 alone. -/
def IsLocal (sys : System) (o : Options) (e : UpdateEvent) : Prop := Local sys o e.call

section

variable {sys : System} {o : Options}

/-- A command that prepares a check is local. -/
theorem local_run {argv : List String} (h : Preparation o argv) : Emits (IsLocal sys o) (run argv) :=
  (part_run fun _ => Local.prepares h).emits

/-- Sharing the lock is local. -/
theorem local_shareLock (id : String) : Emits (IsLocal sys o) (shareLock id) := by
  rw [shareLock]
  split
  · refine emits_bind (emits_request fun _ => Local.prepares .group) fun status => ?_
    split
    · exact local_run .mode
    · exact emits_pure
  · exact emits_pure

/-- So is the test of the caller. -/
theorem local_checkCaller : Emits (IsLocal sys o) (checkCaller sys o) := by
  refine emits_bind (emits_request fun _ => Local.user) fun id => ?_
  split
  · exact emits_exit _
  refine emits_bind (local_shareLock _) fun _ =>
    emits_bind (emits_request fun _ => Local.prepares .lock) fun status => ?_
  split
  · exact emits_exit _
  split
  · exact emits_exit _
  · exact emits_pure

/-- So is the search for a graphical updater. -/
theorem local_chooseGuiApp : Emits (IsLocal sys o) (chooseGuiApp sys o) := by
  rw [chooseGuiApp]
  split
  · rename_i hgui
    have hmessage : Emits (IsLocal sys o) (showMessage sys ["--sorry"] ["--error"]) := by
      rw [showMessage]
      split
      · exact local_run (.kdialog hgui _)
      · exact local_run (.zenity hgui _)
    induction guiApps sys with
    | nil => exact emits_bind hmessage fun _ => emits_exit _
    | cons app rest ih =>
        refine emits_bind (emits_request fun _ => Local.prepares (.lookup hgui app)) fun status => ?_
        split
        · exact emits_pure
        · exact ih
  · exact emits_pure

/-- So is the test for a running UpdateVM. -/
theorem local_checkRunning : Emits (IsLocal sys o) (checkRunning sys o) := by
  rw [checkRunning]
  split
  · exact (part_runOrExit fun _ => Local.running).emits
  · exact emits_pure

/-- So is the removal of packages. -/
theorem local_cleanPackages : Emits (IsLocal sys o) (cleanPackages o) := by
  rw [cleanPackages]
  split
  · rename_i hclean
    exact emits_bind (local_run (.packages hclean)) fun _ => local_run (.metadata hclean)
  · exact emits_pure

/-- Local calls leave the packages of dom0 alone. -/
theorem readOnly_of_local {e : UpdateEvent} (h : IsLocal sys o e) : ReadOnly sys o e := Or.inl h

/-- So do commands in the UpdateVM. -/
theorem readOnly_qvmRunOrExit (opts : List String) (cmd : String) :
    Emits (ReadOnly sys o) (qvmRunOrExit sys opts cmd) :=
  (part_runOrExit fun _ => Or.inr ⟨.qvmRun opts cmd, by simp⟩).emits

/-- So does its preparation. -/
theorem readOnly_prepareUpdatevm : Emits (ReadOnly sys o) (prepareUpdatevm sys) := by
  refine emits_bind (emits_request fun _ => Or.inl .database) fun rpmdb =>
    emits_bind (readOnly_qvmRunOrExit _ _) fun _ => emits_bind (readOnly_qvmRunOrExit _ _) fun _ =>
    emits_bind (readOnly_qvmRunOrExit _ _) fun _ =>
    emits_bind (emits_request fun _ => Or.inr ⟨.repositories, by simp⟩) fun statuses => ?_
  split
  · exact emits_exit _
  · exact emits_pure

/-- The part of a check behind the question whether the UpdateVM is running. -/
theorem readOnly_prepareRest (hremote : o.remoteOnly = true) (guiapp : List String) :
    Emits (ReadOnly sys o) (do
      cleanPackages o
      run ["rm", "-f", "/var/lib/qubes/updates/errors"]
      checkBoot o
      prepareUpdatevm sys
      pure guiapp) := by
  -- the mount points are of no interest to a check
  have hboot : checkBoot o = pure () := by
    rw [checkBoot, if_neg (by simp [hremote])]
  rw [hboot]
  exact emits_bind (local_cleanPackages.mono fun _ => readOnly_of_local) fun _ =>
    emits_bind ((local_run .errors).mono fun _ => readOnly_of_local) fun _ =>
    emits_bind emits_pure fun _ => emits_bind readOnly_prepareUpdatevm fun _ => emits_pure

/-- So does the download. -/
theorem readOnly_download (old : Bool) : Emits (ReadOnly sys o) (download sys o old) := by
  rw [download]
  split
  · rename_i hprogress
    have hnested (status : Nat) : ReadOnly sys o ⟨.downloadWithProgress sys.updatevm, status⟩ :=
      Or.inr ⟨.progress, fun hnone => by simp [hnone] at hprogress⟩
    refine emits_bind (readOnly_qvmRunOrExit _ _) fun _ => emits_bind (readOnly_qvmRunOrExit _ _)
      fun _ => emits_bind (emits_request hnested) fun status =>
      emits_bind (emits_setRetcode _) fun _ => ?_
    split
    · exact emits_exit _
    split
    · exact emits_exit _
    · exact emits_bind (readOnly_qvmRunOrExit _ _) fun _ => readOnly_qvmRunOrExit _ _
  · have htty : Emits (ReadOnly sys o) areTtys := by
      refine emits_bind (emits_request fun _ => Or.inl (.tty 1)) fun tty => ?_
      cases tty with
      | true => exact emits_request fun _ => Or.inl (.tty 2)
      | false => exact emits_pure
    refine emits_bind htty fun ttys => ?_
    split
    · exact emits_bind (emits_request fun _ => Or.inr ⟨.piped _, by simp⟩) fun _ => emits_setRetcode _
    · exact emits_bind (emits_request fun _ => Or.inr ⟨.plain _, by simp⟩) fun _ => emits_setRetcode _

/-- Nothing follows the tests of a check. -/
theorem not_ok_checkDownload (hremote : o.remoteOnly = true) {old : Bool} {s s' : Vars}
    {t : List UpdateEvent} : ¬ Runs (checkDownload o old) s t (.ok ()) s' := by
  intro h
  have h := runs_get_bind.mp h
  dsimp only at h
  split at h
  · cases (runs_throw.mp h).2.1
  · rw [if_pos (Or.inl hremote)] at h
    cases (runs_throw.mp h).2.1

/-- A check ends after the download. -/
theorem readOnly_update (hremote : o.remoteOnly = true) (old : Bool) (guiapp : List String) :
    Emits (ReadOnly sys o) (update sys o old guiapp) := by
  refine emits_bind (readOnly_download old) fun _ => ?_
  intro s t r s' h
  rcases runs_bind.mp h with ⟨ending, -, hcheck⟩ | ⟨_, t₁, t₂, s₁, rfl, hcheck, -⟩
  · exact emits_checkDownload o old _ _ _ _ hcheck
  · exact absurd hcheck (not_ok_checkDownload hremote)

end

/-- A check calls nothing but the UpdateVM and a few programs that prepare it. -/
theorem readOnly_updateDom0 {sys : System} {o : Options} (htemplate : o.hasTemplate = false)
    (hremote : o.remoteOnly = true) : Emits (ReadOnly sys o) (updateDom0 sys o) := by
  rw [updateDom0, htemplate, if_neg Bool.false_ne_true]
  split
  · exact emits_exit _
  refine emits_bind ?_ fun guiapp => ?_
  · exact emits_bind (local_checkCaller.mono fun _ => readOnly_of_local) fun _ =>
      emits_bind (local_chooseGuiApp.mono fun _ => readOnly_of_local) fun guiapp =>
      emits_bind (local_checkRunning.mono fun _ => readOnly_of_local) fun _ =>
      readOnly_prepareRest hremote guiapp
  · split
    · exact emits_throw
    · exact readOnly_update hremote _ guiapp

/-! ## Only a running UpdateVM is asked -/

/-- Each call that concerns the UpdateVM follows the answer that it is running. -/
def Guarded (sys : System) (t : List UpdateEvent) : Prop :=
  ∀ t₁ e t₂, t = t₁ ++ e :: t₂ → Contact sys e.call →
    ⟨.run (runningCheck sys), (0 : Nat)⟩ ∈ t₁

/-- A program that concerns the UpdateVM is `qvm-run`. -/
theorem Contact.head? {sys : System} {argv : List String} (h : Contact sys (.run argv)) :
    argv.head? = some "qvm-run" := by
  generalize hcall : UpdateCall.run argv = call at h
  cases h with
  | qvmRun opts cmd =>
      rw [UpdateCall.run.inj hcall]
      rfl
  | repositories | progress | piped _ | plain _ => cases hcall

/-- No call is in dom0 alone and concerns the UpdateVM. -/
theorem not_contact_of_local {sys : System} {o : Options} {call : UpdateCall} (h : Local sys o call) :
    ¬ Contact sys call := by
  intro hcontact
  cases h with
  | prepares hargv =>
      have hhead := hcontact.head?
      cases hargv <;> simp at hhead
  | running =>
      have hhead := hcontact.head?
      simp [runningCheck] at hhead
  | user => cases hcontact
  | database => cases hcontact
  | tty fd => cases hcontact

/-- Local calls do not concern the UpdateVM. -/
theorem guarded_of_local {sys : System} {o : Options} {t : List UpdateEvent}
    (h : ∀ e ∈ t, IsLocal sys o e) : Guarded sys t := by
  rintro t₁ e t₂ rfl hcontact
  exact absurd hcontact (not_contact_of_local (h e (by simp)))

/-- The answer guards what follows it. -/
theorem guarded_append {sys : System} {o : Options} {t : List UpdateEvent}
    (h : ∀ e ∈ t, IsLocal sys o e) (rest : List UpdateEvent) :
    Guarded sys (t ++ ⟨.run (runningCheck sys), (0 : Nat)⟩ :: rest) := by
  induction t with
  | nil =>
      rintro (_ | ⟨first, t₁⟩) e t₂ heq hcontact
      · obtain ⟨rfl, -⟩ := List.cons.inj heq
        exact absurd hcontact (@not_contact_of_local sys o _ .running)
      · obtain ⟨rfl, -⟩ := List.cons.inj heq
        exact List.mem_cons_self
  | cons x t ih =>
      rintro (_ | ⟨first, t₁⟩) e t₂ heq hcontact
      · obtain ⟨rfl, -⟩ := List.cons.inj heq
        exact absurd hcontact (not_contact_of_local (h x (by simp)))
      · obtain ⟨-, hrest⟩ := List.cons.inj heq
        exact List.mem_cons_of_mem _
          (ih (fun y hy => h y (List.mem_cons_of_mem _ hy)) t₁ e t₂ hrest hcontact)

/-- With `--check-only`, the UpdateVM is left alone unless it is running. -/
theorem guarded_prepare {sys : System} {o : Options} (hcheck : o.checkOnly = true) {s s' : Vars}
    {t : List UpdateEvent} {r : Except Ending (List String)} (h : Runs (prepare sys o) s t r s') :
    (∃ ending, r = .error ending) ∧ (∀ e ∈ t, IsLocal sys o e) ∨
      ∃ front rest, t = front ++ ⟨.run (runningCheck sys), (0 : Nat)⟩ :: rest
        ∧ ∀ e ∈ front, IsLocal sys o e := by
  rcases runs_bind.mp h with ⟨ending, rfl, hcaller⟩ | ⟨_, t₁, t₂, s₁, rfl, hcaller, h⟩
  · exact Or.inl ⟨⟨ending, rfl⟩, local_checkCaller _ _ _ _ hcaller⟩
  have h₁ := local_checkCaller _ _ _ _ hcaller
  rcases runs_bind.mp h with ⟨ending, rfl, hgui⟩ | ⟨guiapp, t₃, t₄, s₂, rfl, hgui, h⟩
  · exact Or.inl ⟨⟨ending, rfl⟩, List.forall_mem_append.mpr ⟨h₁, local_chooseGuiApp _ _ _ _ hgui⟩⟩
  have h₂ := List.forall_mem_append.mpr ⟨h₁, local_chooseGuiApp _ _ _ _ hgui⟩
  rw [← List.append_assoc]
  -- the question decides whether anything follows
  rcases runs_bind.mp h with ⟨ending, rfl, hrunning⟩ | ⟨_, t₅, t₆, s₃, rfl, hrunning, h⟩
  · exact Or.inl ⟨⟨ending, rfl⟩,
      List.forall_mem_append.mpr ⟨h₂, local_checkRunning _ _ _ _ hrunning⟩⟩
  · right
    rw [checkRunning, if_pos hcheck] at hrunning
    obtain ⟨(status : Nat), t₇, rfl, hend⟩ := runs_request_bind.mp hrunning
    by_cases hstatus : status = 0
    · rw [if_neg (by simp [hstatus])] at hend
      obtain ⟨rfl, -⟩ := runs_pure.mp hend
      subst hstatus
      exact ⟨t₁ ++ t₃, t₆, by simp [runningCheck], h₂⟩
    · rw [if_pos hstatus] at hend
      cases (runs_throw.mp hend).2.1

/-- A check asks the UpdateVM only after it has found it running. -/
theorem guarded_updateDom0 {sys : System} {o : Options} (htemplate : o.hasTemplate = false)
    (hcheck : o.checkOnly = true) {s s' : Vars} {t : List UpdateEvent} {r : Except Ending Unit}
    (h : Runs (updateDom0 sys o) s t r s') : Guarded sys t := by
  rw [updateDom0, htemplate, if_neg Bool.false_ne_true] at h
  split at h
  · exact @guarded_of_local sys o t (emits_exit _ _ _ _ _ h)
  rcases runs_bind.mp h with ⟨ending, rfl, hprepare⟩ | ⟨guiapp, t₁, t₂, s₁, rfl, hprepare, -⟩
  · rcases guarded_prepare hcheck hprepare with ⟨-, hlocal⟩ | ⟨front, rest, rfl, hfront⟩
    · exact guarded_of_local hlocal
    · exact guarded_append hfront rest
  · rcases guarded_prepare hcheck hprepare with ⟨⟨ending, hr⟩, -⟩ | ⟨front, rest, rfl, hfront⟩
    · cases hr
    · rw [List.append_assoc, List.cons_append]
      exact guarded_append hfront _

/-! ## The status of a check -/

/-- The status that a call gives to a check: that of the download, or of a failure to send the repository
information. -/
def answer? : UpdateEvent → Option Nat
  | ⟨.downloadPlain _ _, status⟩ => some status
  | ⟨.sendRepositories _, (_, status)⟩ => if status ≠ 0 then some status else none
  | _ => none

/-- The statuses in a run. -/
def answers (t : List UpdateEvent) : List Nat := t.filterMap answer?

/-- The answers in two parts of a trace. -/
theorem answers_append (t₁ t₂ : List UpdateEvent) : answers (t₁ ++ t₂) = answers t₁ ++ answers t₂ :=
  List.filterMap_append

/-- A call without an answer. -/
theorem answers_cons_of_none {e : UpdateEvent} (h : answer? e = none) (t : List UpdateEvent) :
    answers (e :: t) = answers t := List.filterMap_cons_none h

/-- The status of a check is its answer, or 1 without one. -/
def Answered (t : List UpdateEvent) (status : Nat) : Prop :=
  answers t = [status] ∨ (answers t = [] ∧ status = 1)

/-- What follows calls without an answer. -/
theorem answered_append {t₁ : List UpdateEvent} (h : answers t₁ = []) {t₂ : List UpdateEvent}
    {status : Nat} (h₂ : Answered t₂ status) : Answered (t₁ ++ t₂) status := by
  rw [Answered, answers_append, h, List.nil_append]
  exact h₂

/-- A part that returns without an answer, or ends the script with the status of a check. -/
def Answering {α : Type} (x : UpdateM α) : Prop :=
  ∀ s t r s', Runs x s t r s' →
    ((∃ a, r = .ok a) ∧ answers t = []) ∨ ∃ status, r = .error (.exit status) ∧ Answered t status

section

variable {α β : Type}

/-- Returning gives no answer. -/
theorem answering_pure {a : α} : Answering (pure a : UpdateM α) := by
  intro s t r s' h
  obtain ⟨rfl, rfl, -⟩ := runs_pure.mp h
  exact Or.inl ⟨⟨a, rfl⟩, rfl⟩

/-- Nor does an exit with 1. -/
theorem answering_exit : Answering (exit 1 : UpdateM α) := by
  intro s t r s' h
  obtain ⟨rfl, rfl, -⟩ := runs_throw.mp h
  exact Or.inr ⟨1, rfl, Or.inr ⟨rfl, rfl⟩⟩

/-- Two parts of the check, one after the other. -/
theorem answering_bind {x : UpdateM α} {f : α → UpdateM β} (hx : Answering x)
    (hf : ∀ a, Answering (f a)) : Answering (x >>= f) := by
  intro s t r s' h
  rcases runs_bind.mp h with ⟨ending, rfl, hrun⟩ | ⟨a, t₁, t₂, s₁, rfl, h₁, h₂⟩
  · rcases hx _ _ _ _ hrun with ⟨⟨a, hr⟩, -⟩ | ⟨status, hr, hanswered⟩
    · cases hr
    · cases hr
      exact Or.inr ⟨status, rfl, hanswered⟩
  · rcases hx _ _ _ _ h₁ with ⟨-, hanswers⟩ | ⟨status, hr, -⟩
    · rcases hf a _ _ _ _ h₂ with ⟨hr, hanswers'⟩ | ⟨status, hr, hanswered⟩
      · exact Or.inl ⟨hr, by rw [answers_append, hanswers, hanswers']; rfl⟩
      · exact Or.inr ⟨status, hr, answered_append hanswers hanswered⟩
    · cases hr

/-- A call without an answer, and what follows it. -/
theorem answering_request_bind {c : UpdateCall} {f : c.Reply → UpdateM β}
    (hc : ∀ a : c.Reply, answer? ⟨c, a⟩ = none) (hf : ∀ a, Answering (f a)) :
    Answering (request c >>= f) := by
  refine answering_bind ?_ hf
  intro s t r s' h
  obtain ⟨a, rfl, rfl, -⟩ := runs_request.mp h
  exact Or.inl ⟨⟨a, rfl⟩, answers_cons_of_none (hc a) []⟩

/-- A command gives no answer. -/
theorem answering_run (argv : List String) : Answering (run argv) :=
  answering_request_bind (fun _ => rfl) fun _ => answering_pure

/-- Nor does one whose failure ends the script. -/
theorem answering_runOrExit (argv : List String) : Answering (runOrExit argv) := by
  refine answering_request_bind (fun _ => rfl) fun status => ?_
  split
  · exact answering_exit
  · exact answering_pure

variable {sys : System} {o : Options}

/-- Nor does the test of the caller. -/
theorem answering_checkCaller : Answering (checkCaller sys o) := by
  have hlock : ∀ id, Answering (shareLock id) := by
    intro id
    rw [shareLock]
    split
    · refine answering_request_bind (fun _ => rfl) fun status => ?_
      split
      · exact answering_run _
      · exact answering_pure
    · exact answering_pure
  refine answering_request_bind (fun _ => rfl) fun id => ?_
  split
  · exact answering_exit
  refine answering_bind (hlock _) fun _ => answering_request_bind (fun _ => rfl) fun status => ?_
  split
  · exact answering_exit
  split
  · exact answering_exit
  · exact answering_pure

/-- Nor does the search for a graphical updater. -/
theorem answering_chooseGuiApp : Answering (chooseGuiApp sys o) := by
  rw [chooseGuiApp]
  split
  · induction guiApps sys with
    | nil => exact answering_bind (answering_run _) fun _ => answering_exit
    | cons app rest ih =>
        refine answering_request_bind (fun _ => rfl) fun status => ?_
        split
        · exact answering_pure
        · exact ih
  · exact answering_pure

/-- A failure to send the repository information ends the script with its status. -/
theorem answering_prepareUpdatevm : Answering (prepareUpdatevm sys) := by
  refine answering_request_bind (fun _ => rfl) fun rpmdb =>
    answering_bind (answering_runOrExit _) fun _ => answering_bind (answering_runOrExit _) fun _ =>
    answering_bind (answering_runOrExit _) fun _ => ?_
  intro s t r s' h
  obtain ⟨⟨first, second⟩, t', rfl, hend⟩ := runs_request_bind.mp h
  dsimp only at hend
  split at hend
  · rename_i hne
    obtain ⟨rfl, rfl, -⟩ := runs_throw.mp hend
    refine Or.inr ⟨second, rfl, Or.inl ?_⟩
    simp [answers, answer?, hne]
  · rename_i hzero
    obtain ⟨rfl, rfl, -⟩ := runs_pure.mp hend
    refine Or.inl ⟨⟨(), rfl⟩, ?_⟩
    simp [answers, answer?, not_not.mp hzero]

/-- Everything before the download. -/
theorem answering_prepare (hremote : o.remoteOnly = true) : Answering (prepare sys o) := by
  have hboot : checkBoot o = pure () := by
    rw [checkBoot, if_neg (by simp [hremote])]
  have hrunning : Answering (checkRunning sys o) := by
    rw [checkRunning]
    split
    · exact answering_runOrExit _
    · exact answering_pure
  have hclean : Answering (cleanPackages o) := by
    rw [cleanPackages]
    split
    · exact answering_bind (answering_run _) fun _ => answering_run _
    · exact answering_pure
  rw [prepare, hboot]
  exact answering_bind answering_checkCaller fun _ => answering_bind answering_chooseGuiApp
    fun guiapp => answering_bind hrunning fun _ => answering_bind hclean fun _ =>
    answering_bind (answering_run _) fun _ => answering_bind answering_pure fun _ =>
    answering_bind answering_prepareUpdatevm fun _ => answering_pure

/-- The download of a check without progress, and the tests of its status. -/
theorem answering_update (hremote : o.remoteOnly = true) (hprogress : o.progressReporting = false)
    (old : Bool) (guiapp : List String) : Answering (update sys o old guiapp) := by
  have htty : Answering areTtys := by
    refine answering_request_bind (fun _ => rfl) fun tty => ?_
    cases tty with
    | true => exact answering_request_bind (fun _ => rfl) fun _ => answering_pure
    | false => exact answering_pure
  intro s t r s' h
  rw [update, download, if_neg (by simp [hprogress]), downloadByScript] at h
  rcases runs_bind.mp h with ⟨ending, rfl, hdownload⟩ | ⟨_, t₁, t₂, s₁, rfl, hdownload, hcheck⟩
  · -- only the questions about terminals could end the download
    rcases runs_bind.mp hdownload with ⟨_, hr, hareTtys⟩ | ⟨ttys, t₃, t₄, s₂, rfl, -, hplain⟩
    · cases hr
      rcases htty _ _ _ _ hareTtys with ⟨⟨a, hr⟩, -⟩ | ⟨status, hr, hanswered⟩
      · cases hr
      · cases hr
        exact Or.inr ⟨status, rfl, hanswered⟩
    · rw [if_neg (by simp [hprogress])] at hplain
      obtain ⟨(status : Nat), t₅, rfl, hset⟩ := runs_request_bind.mp hplain
      cases (runs_set.mp (runs_get_bind.mp hset)).2.1
  · obtain ⟨ttys, t₃, t₄, s₂, rfl, hareTtys, hplain⟩ := runs_bind_ok.mp hdownload
    rw [if_neg (by simp [hprogress])] at hplain
    obtain ⟨(status : Nat), t₅, rfl, hset⟩ := runs_request_bind.mp hplain
    obtain ⟨rfl, -, rfl⟩ := runs_set.mp (runs_get_bind.mp hset)
    have hanswers : answers t₃ = [] := by
      rcases htty _ _ _ _ hareTtys with ⟨-, hanswers⟩ | ⟨_, hr, -⟩
      · exact hanswers
      · cases hr
    right
    rcases runs_bind.mp hcheck with ⟨ending, rfl, hexit⟩ | ⟨_, t₆, t₇, s₃, rfl, hpassed, -⟩
    · rcases runs_checkDownload rfl hexit with ⟨hr, rfl, -⟩ | ⟨hr, -⟩
      · cases hr
        refine ⟨status, rfl, Or.inl ?_⟩
        rw [List.append_nil, answers_append, hanswers]
        rfl
      · cases hr
    · exact absurd hpassed (not_ok_checkDownload hremote)

/-- A check either goes on looking for the template of the UpdateVM, or ends with its answer. -/
theorem exit_updateDom0 (htemplate : o.hasTemplate = false) (haudio : o.audioSwitch = "")
    (hremote : o.remoteOnly = true) (hprogress : o.progressReporting = false) {s s' : Vars}
    {t : List UpdateEvent} {r : Except Ending Unit} (h : Runs (updateDom0 sys o) s t r s') :
    (answers t = [] ∧ r = .error .running)
      ∨ ∃ status, r = .error (.exit status) ∧ Answered t status := by
  rw [updateDom0, htemplate, if_neg Bool.false_ne_true, if_neg (by simp [haudio])] at h
  cases hold : oldVersion sys with
  | none =>
      rw [hold] at h
      rcases runs_bind.mp h with ⟨ending, rfl, hprepare⟩ | ⟨guiapp, t₁, t₂, s₁, rfl, hprepare, hend⟩
      · rcases answering_prepare hremote _ _ _ _ hprepare with ⟨⟨a, hr⟩, -⟩ | ⟨status, hr, hanswered⟩
        · cases hr
        · cases hr
          exact Or.inr ⟨status, rfl, hanswered⟩
      · obtain ⟨rfl, rfl, -⟩ := runs_throw.mp hend
        rcases answering_prepare hremote _ _ _ _ hprepare with ⟨-, hanswers⟩ | ⟨_, hr, -⟩
        · exact Or.inl ⟨by rw [List.append_nil, hanswers], rfl⟩
        · cases hr
  | some old =>
      rw [hold] at h
      right
      have hanswering : Answering (prepare sys o >>= fun guiapp => update sys o old guiapp) :=
        answering_bind (answering_prepare hremote) fun guiapp =>
          answering_update hremote hprogress old guiapp
      rcases hanswering _ _ _ _ h with ⟨⟨_, rfl⟩, -⟩ | hexit
      · -- nothing returns after the tests of a check
        exfalso
        obtain ⟨guiapp, t₁, t₂, s₁, -, -, hupdate⟩ := runs_bind_ok.mp h
        obtain ⟨_, t₃, t₄, s₂, -, -, hcheck⟩ := runs_bind_ok.mp hupdate
        obtain ⟨_, t₅, t₆, s₃, -, hpassed, -⟩ := runs_bind_ok.mp hcheck
        exact not_ok_checkDownload hremote hpassed
      · exact hexit

end

/-! ## The job -/

/-- The options of a check. -/
def checkOptions (sys : System) : Options :=
  { Options.initial sys.yumAction with updatevmOpts := ["--check-only"], checkOnly := true }

/-- The script with `--check-only`. -/
theorem script_checkOnly (sys : System) :
    script sys ["--check-only"]
      = if sys.updatevm = "" then exit 1 else updateDom0 sys (checkOptions sys) := rfl

/-- Record that the UpdateVM has been asked, with the time. -/
def recordCheck (date : String) : List String := ["qvm-features", "dom0", "last-updates-check", date]

/-- Record that there are updates. -/
def markUpdates : List String := ["qvm-features", "dom0", "updates-available", "1"]

/-- What the job does with the status of the check. -/
def recordAnswer (retcode : Nat) : UpdateM Unit :=
  if retcode ≠ 100 ∧ retcode ≠ 0 then exit retcode
  else do
    let date : String × Nat ← request (UpdateCall.output ["date", "+%Y-%m-%d %T"])
    run (recordCheck date.1)
    if retcode = 0 then exit retcode
    else do
      -- the status of the job is that of its last command
      let status : Nat ← request (UpdateCall.run markUpdates)
      exit status

/-- Whether checks are wanted, by what is printed and the status; a failure prints one line more. -/
def checksWanted (feature : String × Nat) : Bool :=
  if feature.2 = 0 then feature.1 = "1" else feature.1 = ""

/-- `qubes-dom0-updates.cron`. -/
def cron (sys : System) : UpdateM Unit := do
  let feature : String × Nat ←
    request (UpdateCall.output ["qvm-features", "dom0", "service.qubes-update-check"])
  if checksWanted feature then do
    -- the script is another process
    set (⟨none, false⟩ : Vars)
    match ← observe (script sys ["--check-only"]) with
    | .ok () => recordAnswer 0
    | .error (.exit retcode) => recordAnswer retcode
    | .error .running => throw .running
  else exit 0

/-- The calls of the job itself. -/
inductive OfCron : UpdateCall → Prop
  | feature : OfCron (.output ["qvm-features", "dom0", "service.qubes-update-check"])
  | date : OfCron (.output ["date", "+%Y-%m-%d %T"])
  | record (date : String) : OfCron (.run (recordCheck date))
  | mark : OfCron (.run markUpdates)

/-- Whether it is recorded that the UpdateVM has been asked. -/
def Records (t : List UpdateEvent) : Prop := ∃ e ∈ t, ∃ date, e.call = .run (recordCheck date)

/-- Whether it is recorded that there are updates. -/
def Marks (t : List UpdateEvent) : Prop := ∃ e ∈ t, e.call = .run markUpdates

/-- What a run of the job does. -/
structure Checked (sys : System) (t : List UpdateEvent) (r : Except Ending Unit) : Prop where
  /-- Only the calls of a check are made, and those that set the two features. -/
  readOnly : ∀ e ∈ t, ReadOnly sys (checkOptions sys) e ∨ OfCron e.call
  /-- Only the errors that a transfer has recorded are removed. -/
  removes : ∀ e ∈ t, ∀ argv, e.call = .run ("rm" :: argv) →
    argv = ["-f", "/var/lib/qubes/updates/errors"]
  /-- No nested update is started. -/
  notNested : ∀ e ∈ t, ∀ name, e.call ≠ .downloadWithProgress name
  /-- Only a running UpdateVM is asked. -/
  guarded : Guarded sys t
  /-- Updates are recorded exactly if the answer is 100. -/
  marks : Marks t ↔ answers t = [100]
  /-- The check is recorded exactly if the answer is 0 or 100. -/
  records : Records t ↔ answers t = [0] ∨ answers t = [100]
  /-- Any other answer is passed on. -/
  status : ∀ n, answers t = [n] → n ≠ 100 → r = .error (.exit n)

/-- The programs that a check runs. -/
theorem command_of_readOnly {sys : System} {o : Options} {e : UpdateEvent} {argv : List String}
    (h : ReadOnly sys o e) (hcall : e.call = .run argv) :
    Preparation o argv ∨ argv = runningCheck sys ∨ argv.head? = some "qvm-run" := by
  rw [ReadOnly, hcall] at h
  rcases h with hlocal | hcontact
  · generalize hrun : UpdateCall.run argv = call at hlocal
    cases hlocal with
    | prepares hargv =>
        obtain rfl := UpdateCall.run.inj hrun
        exact Or.inl hargv
    | running => exact Or.inr (Or.inl (UpdateCall.run.inj hrun))
    | user => cases hrun
    | database => cases hrun
    | tty fd => cases hrun
  · exact Or.inr (Or.inr hcontact.1.head?)

/-- No call of a check sets a feature. -/
theorem not_feature_of_readOnly {sys : System} {o : Options} {e : UpdateEvent} (h : ReadOnly sys o e)
    (argv : List String) : e.call ≠ .run ("qvm-features" :: argv) := by
  intro hcall
  rcases command_of_readOnly h hcall with hargv | hargv | hargv
  · generalize hwords : "qvm-features" :: argv = words at hargv
    cases hargv <;> simp at hwords
  · simp [runningCheck] at hargv
  · simp at hargv

/-- The job has no `--clean`, so that packages and metadata stay. -/
theorem removed_of_readOnly {sys : System} {e : UpdateEvent} (h : ReadOnly sys (checkOptions sys) e)
    {argv : List String} (hcall : e.call = .run ("rm" :: argv)) :
    argv = ["-f", "/var/lib/qubes/updates/errors"] := by
  rcases command_of_readOnly h hcall with hargv | hargv | hargv
  · generalize hwords : "rm" :: argv = words at hargv
    cases hargv with
    | errors => exact (List.cons.inj hwords).2
    | packages hclean | metadata hclean => cases hclean
    | group | mode | lock | lookup _ _ | kdialog _ _ | zenity _ _ => simp at hwords
  · simp [runningCheck] at hargv
  · simp at hargv

/-- A check without progress starts no nested update. -/
theorem not_nested_of_readOnly {sys : System} {o : Options} {e : UpdateEvent} (h : ReadOnly sys o e)
    (hprogress : o.progressReporting = false) (name : String) : e.call ≠ .downloadWithProgress name := by
  intro hcall
  rw [ReadOnly, hcall] at h
  rcases h with hlocal | ⟨hcontact, hnested⟩
  · cases hlocal
  · cases hcontact
    exact hnested hprogress rfl

/-- The calls of the job concern no UpdateVM. -/
theorem not_contact_of_ofCron {sys : System} {call : UpdateCall} (h : OfCron call) :
    ¬ Contact sys call := by
  intro hcontact
  cases h with
  | feature => cases hcontact
  | date => cases hcontact
  | record date =>
      have hhead := hcontact.head?
      simp [recordCheck] at hhead
  | mark =>
      have hhead := hcontact.head?
      simp [markUpdates] at hhead

/-- The job itself removes nothing. -/
theorem not_removed_of_ofCron {call : UpdateCall} (h : OfCron call) (argv : List String) :
    call ≠ .run ("rm" :: argv) := by
  cases h with
  | feature | date => rintro ⟨⟩
  | record date => simp [recordCheck]
  | mark => simp [markUpdates]

/-- Calls in front of those of a check. -/
theorem Guarded.append_left {sys : System} {t : List UpdateEvent} (h : Guarded sys t)
    {front : List UpdateEvent} (hfront : ∀ e ∈ front, OfCron e.call) : Guarded sys (front ++ t) := by
  intro t₁ e t₂ heq hcontact
  rcases List.append_eq_append_iff.mp heq with ⟨more, rfl, rfl⟩ | ⟨more, rfl, hmore⟩
  · exact List.mem_append_right _ (h more e t₂ rfl hcontact)
  · cases more with
    | nil =>
        -- the check would start with a call of the UpdateVM
        cases h [] e t₂ (by simpa using hmore.symm) hcontact
    | cons first more =>
        obtain ⟨rfl, -⟩ := List.cons.inj hmore
        exact absurd hcontact (not_contact_of_ofCron (hfront e (by simp)))

/-- Calls behind those of a check. -/
theorem Guarded.append_right {sys : System} {t : List UpdateEvent} (h : Guarded sys t)
    {rest : List UpdateEvent} (hrest : ∀ e ∈ rest, OfCron e.call) : Guarded sys (t ++ rest) := by
  intro t₁ e t₂ heq hcontact
  rcases List.append_eq_append_iff.mp heq with ⟨more, rfl, rfl⟩ | ⟨more, rfl, hmore⟩
  · exact absurd hcontact (not_contact_of_ofCron (hrest e (by simp)))
  · cases more with
    | nil =>
        have hmem : e ∈ rest := by
          rw [show rest = e :: t₂ by simpa using hmore.symm]
          exact List.mem_cons_self
        exact absurd hcontact (not_contact_of_ofCron (hrest e hmem))
    | cons first more =>
        obtain ⟨rfl, -⟩ := List.cons.inj hmore
        exact h t₁ e more rfl hcontact

/-- What is recorded for an answer. -/
theorem runs_recordAnswer {n : Nat} {s s' : Vars} {t : List UpdateEvent} {r : Except Ending Unit}
    (h : Runs (recordAnswer n) s t r s') :
    (∀ e ∈ t, OfCron e.call) ∧ answers t = [] ∧ (Marks t ↔ n = 100) ∧ (Records t ↔ n = 0 ∨ n = 100)
      ∧ (n ≠ 100 → r = .error (.exit n)) := by
  rw [recordAnswer] at h
  split at h
  · rename_i hother
    obtain ⟨rfl, rfl, -⟩ := runs_throw.mp h
    simp [answers, Marks, Records, hother]
  · rename_i hanswer
    have hn : n = 0 ∨ n = 100 := by omega
    obtain ⟨date, t₁, rfl, hrecord⟩ := runs_request_bind.mp h
    obtain ⟨status, t₂, rfl, hrest⟩ := runs_run_bind hrecord
    split at hrest
    · rename_i hzero
      obtain ⟨rfl, rfl, -⟩ := runs_throw.mp hrest
      refine ⟨?_, rfl, ?_, ?_, fun _ => rfl⟩
      · simp [OfCron.date, OfCron.record]
      · simp [Marks, recordCheck, markUpdates, hzero]
      · simp [Records, recordCheck, hzero]
    · rename_i hne
      obtain ⟨(code : Nat), t₃, rfl, hmark⟩ := runs_request_bind.mp hrest
      obtain ⟨rfl, rfl, -⟩ := runs_throw.mp hmark
      have h100 : n = 100 := hn.resolve_left hne
      refine ⟨?_, rfl, ?_, ?_, fun hnot => absurd h100 hnot⟩
      · simp [OfCron.date, OfCron.record, OfCron.mark]
      · simp [Marks, h100]
      · simp [Records, recordCheck, h100]

/-- The answer of the script with `--check-only`. -/
theorem runs_script_checkOnly {sys : System} {s s' : Vars} {t : List UpdateEvent}
    {r : Except Ending Unit} (h : Runs (script sys ["--check-only"]) s t r s') :
    (∀ e ∈ t, ReadOnly sys (checkOptions sys) e) ∧ Guarded sys t ∧ (answers t = [] ∧ r = .error .running
      ∨ ∃ status, r = .error (.exit status) ∧ Answered t status) := by
  rw [script_checkOnly] at h
  split at h
  · obtain ⟨rfl, rfl, -⟩ := runs_throw.mp h
    exact ⟨by simp, @guarded_of_local sys (checkOptions sys) _ (by simp), Or.inr ⟨1, rfl, Or.inr ⟨rfl, rfl⟩⟩⟩
  · have hreadOnly := readOnly_updateDom0 (o := checkOptions sys) rfl rfl _ _ _ _ h
    exact ⟨hreadOnly, guarded_updateDom0 (o := checkOptions sys) rfl rfl h,
      exit_updateDom0 (o := checkOptions sys) rfl rfl rfl rfl h⟩

/-- A run of the job that consists of the question whether checks are wanted, a check and what is recorded
of its answer. -/
theorem checked_append {sys : System} {feature : String × Nat} {check record : List UpdateEvent}
    {r : Except Ending Unit} (hreadOnly : ∀ e ∈ check, ReadOnly sys (checkOptions sys) e)
    (hguarded : Guarded sys check)
    (hcron : ∀ e ∈ record, OfCron e.call) (hanswers : answers record = [])
    (hmarks : Marks record ↔ answers check = [100])
    (hrecords : Records record ↔ answers check = [0] ∨ answers check = [100])
    (hstatus : ∀ n, answers check = [n] → n ≠ 100 → r = .error (.exit n)) :
    Checked sys (⟨.output ["qvm-features", "dom0", "service.qubes-update-check"], feature⟩
      :: (check ++ record)) r := by
  have hall : answers (⟨.output ["qvm-features", "dom0", "service.qubes-update-check"], feature⟩
      :: (check ++ record)) = answers check := by
    rw [answers_cons_of_none rfl, answers_append, hanswers, List.append_nil]
  have hcheck : ∀ argv, ∀ e ∈ check, e.call ≠ .run ("qvm-features" :: argv) :=
    fun argv e he => not_feature_of_readOnly (hreadOnly e he) argv
  have hfeature : ∀ e ∈ [(⟨.output ["qvm-features", "dom0", "service.qubes-update-check"], feature⟩ :
      UpdateEvent)], OfCron e.call := by
    simp [OfCron.feature]
  have hkinds : ∀ e ∈ (⟨.output ["qvm-features", "dom0", "service.qubes-update-check"], feature⟩ :
      UpdateEvent) :: (check ++ record), ReadOnly sys (checkOptions sys) e ∨ OfCron e.call := by
    intro e he
    rcases List.mem_cons.mp he with rfl | he
    · exact Or.inr .feature
    rcases List.mem_append.mp he with he | he
    · exact Or.inl (hreadOnly e he)
    · exact Or.inr (hcron e he)
  refine {
    readOnly := hkinds
    removes := ?_
    notNested := ?_
    guarded := (hguarded.append_right hcron).append_left hfeature
    marks := ?_
    records := ?_
    status := by rw [hall]; exact hstatus }
  · intro e he argv hcall
    rcases hkinds e he with hcheck | hjob
    · exact removed_of_readOnly hcheck hcall
    · exact absurd hcall (not_removed_of_ofCron hjob argv)
  · intro e he name hcall
    rcases hkinds e he with hcheck | hjob
    · exact not_nested_of_readOnly hcheck rfl name hcall
    · rw [hcall] at hjob
      cases hjob
  · rw [hall, ← hmarks]
    constructor
    · rintro ⟨e, he, hcall⟩
      rcases List.mem_cons.mp he with rfl | he
      · cases hcall
      rcases List.mem_append.mp he with he | he
      · exact absurd hcall (hcheck _ e he)
      · exact ⟨e, he, hcall⟩
    · rintro ⟨e, he, hcall⟩
      exact ⟨e, List.mem_cons_of_mem _ (List.mem_append_right _ he), hcall⟩
  · rw [hall, ← hrecords]
    constructor
    · rintro ⟨e, he, date, hcall⟩
      rcases List.mem_cons.mp he with rfl | he
      · cases hcall
      rcases List.mem_append.mp he with he | he
      · exact absurd hcall (hcheck _ e he)
      · exact ⟨e, he, date, hcall⟩
    · rintro ⟨e, he, date, hcall⟩
      exact ⟨e, List.mem_cons_of_mem _ (List.mem_append_right _ he), date, hcall⟩

/-- Whatever the system answers, the job does nothing in dom0 but what prepares a check and the record of its
two features, asks only a running UpdateVM, starts no nested update, and records updates exactly if the
answer is 100. -/
theorem cron_records {sys : System} {s s' : Vars} {t : List UpdateEvent} {r : Except Ending Unit}
    (h : Runs (cron sys) s t r s') : Checked sys t r := by
  obtain ⟨feature, t₁, rfl, hrest⟩ := runs_request_bind.mp h
  split at hrest
  · rcases runs_bind.mp (runs_set_bind.mp hrest) with
      ⟨ending, -, hscript⟩ | ⟨q, check, record, s₁, rfl, hscript, hrecord⟩
    · obtain ⟨_, hr, -⟩ := runs_observe.mp hscript
      cases hr
    obtain ⟨_, hq, hscript⟩ := runs_observe.mp hscript
    cases hq
    obtain ⟨hreadOnly, hguarded, hanswer⟩ := runs_script_checkOnly hscript
    rcases hanswer with ⟨hanswers, rfl⟩ | ⟨status, rfl, hanswered⟩
    · -- the template of the UpdateVM is still being looked for
      obtain ⟨rfl, rfl, -⟩ := runs_throw.mp hrecord
      refine checked_append hreadOnly hguarded (by simp) rfl ?_ ?_ ?_ <;> simp [Marks, Records, hanswers]
    · obtain ⟨hcron, hnone, hmarks, hrecords, hstatus⟩ := runs_recordAnswer hrecord
      refine checked_append hreadOnly hguarded hcron hnone ?_ ?_ ?_
      · rw [hmarks]
        rcases hanswered with hanswers | ⟨hanswers, rfl⟩
        · simp [hanswers]
        · simp [hanswers]
      · rw [hrecords]
        rcases hanswered with hanswers | ⟨hanswers, rfl⟩
        · simp [hanswers]
        · simp [hanswers]
      · intro n hn hne
        rcases hanswered with hanswers | ⟨hanswers, -⟩
        · rw [hanswers, List.cons.injEq] at hn
          rw [← hn.1] at hne ⊢
          exact hstatus hne
        · rw [hanswers] at hn
          cases hn
  · -- no checks are wanted
    obtain ⟨rfl, rfl, -⟩ := runs_throw.mp hrest
    refine @checked_append sys feature [] [] _ (by simp)
      (@guarded_of_local sys (checkOptions sys) _ (by simp)) (by simp) rfl ?_ ?_ ?_
    · simp [Marks, answers]
    · simp [Records, answers]
    · simp [answers]

/-- The answers of a system where the UpdateVM finds updates. -/
def findsUpdates : (c : UpdateCall) → c.Reply
  | .output _ => ("1", 0)
  | .downloadPlain _ _ => (100 : Nat)
  | c => checkingSystem 0 c

/-- The job records the updates that the UpdateVM finds. -/
theorem cron_records_updates : ∃ t s', Runs (cron usualSystem) ⟨none, false⟩ t (.error (.exit 0)) s' ∧
    answers t = [100] ∧ Marks t ∧ Records t := by
  have hend : (play findsUpdates (cron usualSystem) ⟨none, false⟩).2 =
      (.error (.exit 0), ⟨some 100, false⟩) := by decide +kernel
  have hanswers : answers (play findsUpdates (cron usualSystem) ⟨none, false⟩).1 = [100] := by
    decide +kernel
  have hrun := runs_play findsUpdates (cron usualSystem) ⟨none, false⟩
  rw [hend] at hrun
  exact ⟨_, _, hrun, hanswers, (cron_records hrun).marks.mpr hanswers,
    (cron_records hrun).records.mpr (Or.inr hanswers)⟩

end Dom0Update

end QubesAdminLinux
