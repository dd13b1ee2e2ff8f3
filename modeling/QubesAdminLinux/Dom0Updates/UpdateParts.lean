import QubesAdminLinux.Dom0Updates.Dom0Update
import QubesAdminLinux.Lib.Histories

/-! # The parts of the update of dom0

What the parts of `qubes-dom0-update` that neither download nor install anything have in common: their
calls are of a few kinds, they do not end the script with 0, and they leave `RETCODE` as it is.

* **`Part`** — this, with a rule for each kind of statement.
* **`part_prepare`**, **`part_checkXen`**, **`part_switchAudio`** — the parts.
* **`downloadsWith_cases`** — the command lines that get to the download. -/

namespace QubesAdminLinux

namespace Dom0Update

open Proc

/-! ## Events -/

/-- Whether an event is a download. -/
def isDownload : UpdateEvent → Bool
  | ⟨.downloadWithProgress _, _⟩ => true
  | ⟨.downloadPiped _ _, _⟩ => true
  | ⟨.downloadPlain _ _, _⟩ => true
  | _ => false

/-- Whether an event is a download that fails in the UpdateVM. -/
def downloadFails : UpdateEvent → Bool
  | ⟨.downloadWithProgress _, status⟩ =>
      let status : Nat := status
      status ≠ 0
  | ⟨.downloadPiped _ _, (status, _)⟩ => status ≠ 0
  | ⟨.downloadPlain _ _, status⟩ =>
      let status : Nat := status
      status ≠ 0
  | _ => false

/-- Whether an event may install packages in dom0. -/
def installs : UpdateEvent → Bool
  | ⟨.dnf _, _⟩ => true
  | ⟨.updateDom0, _⟩ => true
  | ⟨.guiApp _, _⟩ => true
  | ⟨.nested _, _⟩ => true
  | _ => false

/-- A download that fails is a download. -/
theorem isDownload_of_fails {e : UpdateEvent} (h : downloadFails e = true) : isDownload e = true := by
  revert h
  fun_cases downloadFails e with
  | case1 => exact fun _ => rfl
  | case2 => exact fun _ => rfl
  | case3 => exact fun _ => rfl
  | case4 =>
      intro h
      cases h

/-- The calls of the parts before the installation, but for the download. -/
def UpdateCall.isPlain : UpdateCall → Bool
  | .run _ | .output _ | .pathIs _ _ | .isTty _ | .readAnswer | .sendRepositories _ => true
  | _ => false

/-- The calls of the parts after the installation. -/
def UpdateCall.isClosing : UpdateCall → Bool
  | .run _ | .output _ | .readAnswer | .nested _ => true
  | _ => false

/-- An event of a part before the installation. -/
def Plain (e : UpdateEvent) : Prop := e.call.isPlain = true

/-- An event of a part after the installation. -/
def Closing (e : UpdateEvent) : Prop := e.call.isClosing = true

/-- Plain calls are no downloads. -/
theorem isDownload_of_plain {e : UpdateEvent} (h : Plain e) : isDownload e = false := by
  obtain ⟨call, reply⟩ := e
  cases call with
  | downloadWithProgress => cases h
  | downloadPiped => cases h
  | downloadPlain => cases h
  | _ => rfl

/-- Nor do they install. -/
theorem installs_of_plain {e : UpdateEvent} (h : Plain e) : installs e = false := by
  obtain ⟨call, reply⟩ := e
  cases call with
  | dnf => cases h
  | updateDom0 => cases h
  | guiApp => cases h
  | nested => cases h
  | _ => rfl

/-- Closing calls are no downloads. -/
theorem isDownload_of_closing {e : UpdateEvent} (h : Closing e) : isDownload e = false := by
  obtain ⟨call, reply⟩ := e
  cases call with
  | downloadWithProgress => cases h
  | downloadPiped => cases h
  | downloadPlain => cases h
  | _ => rfl

/-! ## Parts -/

/-- The events of a part satisfy `P`, it does not end the script with 0, and it keeps `RETCODE`. -/
def Part {α : Type} (P : UpdateEvent → Prop) (x : UpdateM α) : Prop :=
  ∀ s t r s', Runs x s t r s' →
    (∀ e ∈ t, P e) ∧ r ≠ .error (.exit 0) ∧ s'.retcode = s.retcode

section

variable {P : UpdateEvent → Prop} {α β : Type}

/-- The events of a part. -/
theorem Part.emits {x : UpdateM α} (h : Part P x) : Emits P x :=
  fun s t r s' hrun => (h s t r s' hrun).1

/-- Returning is a part of any kind. -/
theorem part_pure {a : α} : Part P (pure a : UpdateM α) := by
  intro s t r s' hrun
  obtain ⟨rfl, rfl, rfl⟩ := runs_pure.mp hrun
  exact ⟨by simp, by simp, rfl⟩

/-- An exit with an error. -/
theorem part_exit {status : Nat} (h : status ≠ 0) : Part P (exit status : UpdateM α) := by
  intro s t r s' hrun
  obtain ⟨rfl, rfl, rfl⟩ := runs_throw.mp hrun
  refine ⟨by simp, ?_, rfl⟩
  intro hzero
  cases hzero
  exact h rfl

/-- So is not to end within the rounds that are looked at. -/
theorem part_running : Part P (throw .running : UpdateM α) := by
  intro s t r s' hrun
  obtain ⟨rfl, rfl, rfl⟩ := runs_throw.mp hrun
  exact ⟨by simp, by simp, rfl⟩

/-- Two parts, one after the other. -/
theorem part_bind {x : UpdateM α} {f : α → UpdateM β} (hx : Part P x) (hf : ∀ a, Part P (f a)) :
    Part P (x >>= f) := by
  intro s t r s' hrun
  rcases runs_bind.mp hrun with ⟨ending, rfl, h⟩ | ⟨a, t₁, t₂, s₁, rfl, h₁, h₂⟩
  · obtain ⟨hP, hending, hretcode⟩ := hx _ _ _ _ h
    exact ⟨hP, fun hzero => hending (by cases hzero; rfl), hretcode⟩
  · obtain ⟨hP, -, hretcode⟩ := hx _ _ _ _ h₁
    obtain ⟨hP', hending, hretcode'⟩ := hf a _ _ _ _ h₂
    exact ⟨List.forall_mem_append.mpr ⟨hP, hP'⟩, hending, hretcode'.trans hretcode⟩

/-- A call, and what follows it. -/
theorem part_request_bind {c : UpdateCall} {f : c.Reply → UpdateM β} (hc : ∀ a, P ⟨c, a⟩)
    (hf : ∀ a, Part P (f a)) : Part P (request c >>= f) := by
  intro s t r s' hrun
  obtain ⟨a, t', rfl, h⟩ := runs_request_bind.mp hrun
  obtain ⟨hP, hending⟩ := hf a _ _ _ _ h
  exact ⟨List.forall_mem_cons.mpr ⟨hc a, hP⟩, hending⟩

/-- A command. -/
theorem part_run {argv : List String} (h : ∀ status, P ⟨.run argv, status⟩) : Part P (run argv) :=
  part_request_bind h fun _ => part_pure

/-- A command whose failure ends the script. -/
theorem part_runOrExit {argv : List String} (h : ∀ status, P ⟨.run argv, status⟩) :
    Part P (runOrExit argv) := by
  refine part_request_bind h fun status => ?_
  split
  · exact part_exit (by decide)
  · exact part_pure

/-- If the script ends with 0, it does so after the part. -/
theorem Part.runs_bind {x : UpdateM α} {f : α → UpdateM β} {s s' : Vars} {t : List UpdateEvent}
    (hx : Part P x) (h : Runs (x >>= f) s t (.error (.exit 0)) s') :
    ∃ a t₁ t₂ s₁, t = t₁ ++ t₂ ∧ (∀ e ∈ t₁, P e) ∧ s₁.retcode = s.retcode ∧
      Runs x s t₁ (.ok a) s₁ ∧ Runs (f a) s₁ t₂ (.error (.exit 0)) s' := by
  rcases Proc.runs_bind.mp h with ⟨ending, hr, hrun⟩ | ⟨a, t₁, t₂, s₁, rfl, hrun, hrest⟩
  · cases hr
    exact absurd rfl (hx _ _ _ _ hrun).2.1
  · obtain ⟨hP, -, hretcode⟩ := hx _ _ _ _ hrun
    exact ⟨a, t₁, t₂, s₁, rfl, hP, hretcode, hrun, hrest⟩

end

/-- An exit calls nothing. -/
theorem emits_exit {α : Type} {P : UpdateEvent → Prop} (status : Nat) :
    Emits P (exit status : UpdateM α) := emits_throw

/-- The tests after the download have no events. -/
theorem emits_checkDownload {P : UpdateEvent → Prop} (o : Options) (old : Bool) :
    Emits P (checkDownload o old) := by
  refine emits_bind emits_get fun v => ?_
  dsimp only
  split
  · exact emits_exit _
  split
  · exact emits_exit _
  · exact emits_pure

/-- Nor does setting the code. -/
theorem emits_setRetcode {P : UpdateEvent → Prop} (status : Nat) : Emits P (setRetcode status) :=
  emits_bind emits_get fun _ => emits_set

/-! ## Before the download -/

/-- The search among several updaters is plain. -/
theorem part_findGuiApp (sys : System) (apps : List String) : Part Plain (findGuiApp sys apps) := by
  induction apps with
  | nil => exact part_bind (part_run fun _ => rfl) fun _ => part_exit (by decide)
  | cons app rest ih =>
      refine part_request_bind (fun _ => rfl) fun status => ?_
      split
      · exact part_pure
      · exact ih

/-- So is the test for a mount. -/
theorem part_checkMounted (mountpoint : String) : Part Plain (checkMounted mountpoint) := by
  refine part_request_bind (fun _ => rfl) fun mounted => ?_
  split
  · exact part_pure
  refine part_request_bind (fun _ => rfl) fun listed => ?_
  split
  · exact part_pure
  refine part_request_bind (fun _ => rfl) fun tty => ?_
  split
  · exact part_exit (by decide)
  refine part_request_bind (fun _ => rfl) fun choice => ?_
  split
  · exact part_runOrExit fun _ => rfl
  split
  · exact part_pure
  · exact part_exit (by decide)

/-- So is sharing the lock. -/
theorem part_shareLock (id : String) : Part Plain (shareLock id) := by
  rw [shareLock]
  split
  · refine part_request_bind (fun _ => rfl) fun status => ?_
    split
    · exact part_run fun _ => rfl
    · exact part_pure
  · exact part_pure

/-- So is the test of the caller. -/
theorem part_checkCaller (sys : System) (o : Options) : Part Plain (checkCaller sys o) := by
  refine part_request_bind (fun _ => rfl) fun id => ?_
  split
  · exact part_exit (by decide)
  refine part_bind (part_shareLock _) fun _ => part_request_bind (fun _ => rfl) fun status => ?_
  split
  · exact part_exit (by decide)
  split
  · exact part_exit (by decide)
  · exact part_pure

/-- So is the test of the mount points below `/boot`. -/
theorem part_checkBoot (o : Options) : Part Plain (checkBoot o) := by
  rw [checkBoot]
  split
  · refine part_bind (part_checkMounted _) fun _ => part_request_bind (fun _ => rfl) fun efi => ?_
    split
    · exact part_checkMounted _
    · exact part_pure
  · exact part_pure

/-- So is the preparation of the UpdateVM. -/
theorem part_prepareUpdatevm (sys : System) : Part Plain (prepareUpdatevm sys) := by
  refine part_request_bind (fun _ => rfl) fun rpmdb =>
    part_bind (part_runOrExit fun _ => rfl) fun _ => part_bind (part_runOrExit fun _ => rfl) fun _ =>
    part_bind (part_runOrExit fun _ => rfl) fun _ => part_request_bind (fun _ => rfl) fun statuses => ?_
  split
  · exact part_exit (by assumption)
  · exact part_pure

/-- Everything before the download. -/
theorem part_prepare (sys : System) (o : Options) : Part Plain (prepare sys o) := by
  have hgui : Part Plain (chooseGuiApp sys o) := by
    rw [chooseGuiApp]
    split
    · exact part_findGuiApp sys _
    · exact part_pure
  have hrunning : Part Plain (checkRunning sys o) := by
    rw [checkRunning]
    split
    · exact part_runOrExit fun _ => rfl
    · exact part_pure
  have hclean : Part Plain (cleanPackages o) := by
    rw [cleanPackages]
    split
    · exact part_bind (part_run fun _ => rfl) fun _ => part_run fun _ => rfl
    · exact part_pure
  exact part_bind (part_checkCaller sys o) fun _ => part_bind hgui fun guiapp =>
    part_bind hrunning fun _ => part_bind hclean fun _ => part_bind (part_run fun _ => rfl)
    fun _ => part_bind (part_checkBoot o) fun _ => part_bind (part_prepareUpdatevm sys)
    fun _ => part_pure

/-- So are the tests for terminals. -/
theorem part_areTtys : Part Plain areTtys := by
  refine part_request_bind (fun _ => rfl) fun tty => ?_
  cases tty with
  | true => exact part_request_bind (fun _ => rfl) fun _ => part_pure
  | false => exact part_pure

/-! ## After the download -/

/-- So is waiting for the download. -/
theorem part_waitForDownload (rounds : Nat) : Part Plain (waitForDownload rounds) := by
  induction rounds with
  | zero => exact part_running
  | succ rounds ih =>
      refine part_request_bind (fun _ => rfl) fun status => ?_
      split
      · exact part_bind (part_run fun _ => rfl) fun _ => ih
      · exact part_pure

/-- So is the test for errors of the transfer. -/
theorem part_checkErrors : Part Plain checkErrors := by
  refine part_request_bind (fun _ => rfl) fun present => ?_
  split
  · exact part_bind (part_run fun _ => rfl) fun _ => part_exit (by decide)
  · exact part_pure

/-- So is the question about a new version of Xen. -/
theorem part_confirmXenUpgrade (o : Options) : Part Plain (confirmXenUpgrade o) := by
  refine part_request_bind (fun _ => rfl) fun count => ?_
  split
  · refine part_bind (part_run fun _ => rfl) fun _ => ?_
    split
    · exact part_pure
    refine part_request_bind (fun _ => rfl) fun answer => ?_
    split
    · exact part_run fun _ => rfl
    · exact part_exit (by decide)
  · exact part_pure

/-- Only `REBOOT_REQUIRED` is set. -/
theorem part_checkXen (o : Options) : Part Plain (checkXen o) := by
  have hreboot : Part Plain (get >>= fun v => set { v with rebootRequired := true } : UpdateM Unit) := by
    intro s t r s' hrun
    obtain ⟨rfl, rfl, rfl⟩ := runs_set.mp (runs_get_bind.mp hrun)
    exact ⟨by simp, by simp, rfl⟩
  refine part_request_bind (fun _ => rfl) fun present => ?_
  split
  · refine part_request_bind (fun _ => rfl) fun inUpdate =>
      part_request_bind (fun _ => rfl) fun info => ?_
    split
    · refine part_bind (part_confirmXenUpgrade o) fun _ => ?_
      split
      · exact hreboot
      · exact part_pure
    · exact part_pure
  · exact part_pure

/-! ## After the installation -/

/-- Installing an audio server is closing. -/
theorem part_installAudio (packages argv : List String) (services : List (List String)) :
    Part Closing (installAudio packages argv services) := by
  refine part_request_bind (fun _ => rfl) fun installed => ?_
  split
  · refine part_request_bind (fun _ => rfl) fun status => ?_
    split
    · exact part_exit (by assumption)
    refine part_request_bind (fun _ => rfl) fun user => ?_
    split
    · exact part_exit (by decide)
    refine part_request_bind (fun _ => rfl) fun uid => ?_
    split
    · exact part_exit (by decide)
    · induction services with
      | nil => exact part_pure
      | cons service rest ih => exact part_bind (part_run fun _ => rfl) fun _ => ih
  · exact part_pure

/-- So is the switch to it. -/
theorem part_switchAudio (o : Options) (audioSwitch : String) :
    Part Closing (switchAudio o audioSwitch) := by
  have hswitch : ∀ packages argv services, Part Closing (switchAudioTo packages argv services) :=
    fun packages argv services =>
      part_bind (part_installAudio packages argv services) fun _ => part_run fun _ => rfl
  rw [switchAudio]
  split
  · exact hswitch _ _ _
  split
  · exact hswitch _ _ _
  · exact part_pure

/-- So is the question about a reboot. -/
theorem part_askReboot (required : Bool) : Part Closing (askReboot required) := by
  rw [askReboot]
  split
  · refine part_request_bind (fun _ => rfl) fun answer => ?_
    split
    · exact part_run fun _ => rfl
    · exact part_pure
  · exact part_pure

/-! ## Events that are no downloads -/

/-- The installation does not download. -/
theorem isDownload_install (sys : System) (o : Options) (guiapp : List String) :
    Emits (fun e => isDownload e = false) (install sys o guiapp) := by
  have hdnf : ∀ pkgs, Emits (fun e => isDownload e = false) (runDnf o pkgs) := fun pkgs =>
    emits_bind (emits_request fun _ => rfl) fun _ => emits_setRetcode _
  have hall : Emits (fun e => isDownload e = false) (installUpdates o guiapp) := by
    rw [installUpdates]
    split
    · exact emits_bind ((part_run fun _ => rfl).emits) fun _ => emits_bind (emits_request fun _ => rfl)
        fun _ => emits_pure
    split
    · exact emits_bind (emits_request fun _ => rfl) fun _ => emits_setRetcode _
    · refine emits_bind (emits_request fun _ => rfl) fun status => ?_
      split
      · exact hdnf []
      · exact emits_pure
  have hrecord : Emits (fun e => isDownload e = false) recordUpdates := by
    refine emits_bind (emits_request fun _ => rfl) fun status => ?_
    split
    · exact emits_bind ((part_run fun _ => rfl).emits) fun _ => (part_run fun _ => rfl).emits
    · exact emits_pure
  refine emits_bind (emits_request fun _ => rfl) fun present => ?_
  split
  · split
    · exact hdnf _
    · exact emits_pure
  split
  · exact emits_bind hall fun _ => hrecord
  · refine emits_bind ((part_run fun _ => rfl).emits) fun _ => ?_
    split
    · exact (part_run fun _ => rfl).emits
    · exact emits_pure

/-- Nothing is downloaded after the download. -/
theorem isDownload_applyUpdates (sys : System) (o : Options) (guiapp : List String) :
    Emits (fun e => isDownload e = false) (applyUpdates sys o guiapp) := by
  have hfinish : Emits (fun e => isDownload e = false) finish :=
    emits_bind emits_get fun v =>
      emits_bind ((part_askReboot v.rebootRequired).emits.mono fun _ => isDownload_of_closing)
        fun _ => emits_exit _
  exact emits_bind ((part_waitForDownload _).emits.mono fun _ => isDownload_of_plain) fun _ =>
    emits_bind (part_checkErrors.emits.mono fun _ => isDownload_of_plain) fun _ =>
    emits_bind ((part_checkXen o).emits.mono fun _ => isDownload_of_plain) fun _ =>
    emits_bind (isDownload_install sys o guiapp) fun _ =>
    emits_bind ((part_switchAudio o _).emits.mono fun _ => isDownload_of_closing) fun _ => hfinish

/-! ## Statements with what follows them -/

section

variable {s s' : Vars} {t : List UpdateEvent}

/-- A program, whatever its status. -/
theorem runs_run {argv : List String} {r : Except Ending Unit} (h : Runs (run argv) s t r s') :
    ∃ status : Nat, t = [⟨.run argv, status⟩] ∧ r = .ok () ∧ s' = s := by
  obtain ⟨(status : Nat), t', rfl, hpure⟩ := runs_request_bind.mp h
  obtain ⟨rfl, hr⟩ := runs_pure.mp hpure
  exact ⟨status, rfl, hr⟩

/-- A program, whatever its status, and what follows it. -/
theorem runs_run_bind {α : Type} {argv : List String} {k : Unit → UpdateM α} {r : Except Ending α}
    (h : Runs (run argv >>= k) s t r s') :
    ∃ (status : Nat) (t' : List UpdateEvent), t = ⟨.run argv, status⟩ :: t' ∧
      Runs (k ()) s t' r s' := by
  rcases runs_bind.mp h with ⟨_, -, hrun⟩ | ⟨_, t₁, t₂, s₁, rfl, hrun, hrest⟩
  · obtain ⟨_, -, hr, -⟩ := runs_run hrun
    cases hr
  · obtain ⟨status, rfl, -, rfl⟩ := runs_run hrun
    exact ⟨status, t₂, rfl, hrest⟩

/-- `program || exit 1`. -/
theorem runs_runOrExit {argv : List String} {r : Except Ending Unit}
    (h : Runs (runOrExit argv) s t r s') :
    ∃ status : Nat, t = [⟨.run argv, status⟩] ∧ s' = s ∧ (r = .error (.exit 1) ∨ r = .ok ()) := by
  obtain ⟨(status : Nat), t', rfl, hrest⟩ := runs_request_bind.mp h
  refine ⟨status, ?_⟩
  split at hrest
  · obtain ⟨rfl, rfl, rfl⟩ := runs_throw.mp hrest
    exact ⟨rfl, rfl, Or.inl rfl⟩
  · obtain ⟨rfl, rfl, rfl⟩ := runs_pure.mp hrest
    exact ⟨rfl, rfl, Or.inr rfl⟩

/-- `program || exit 1`, and what follows it. -/
theorem runs_runOrExit_bind {α : Type} {argv : List String} {k : Unit → UpdateM α}
    {r : Except Ending α} (h : Runs (runOrExit argv >>= k) s t r s') :
    ∃ (status : Nat) (t' : List UpdateEvent), t = ⟨.run argv, status⟩ :: t' ∧
      (r = .error (.exit 1) ∨ Runs (k ()) s t' r s') := by
  rcases runs_bind.mp h with ⟨ending, rfl, hrun⟩ | ⟨_, t₁, t₂, s₁, rfl, hrun, hrest⟩
  · obtain ⟨status, rfl, -, hexit | hexit⟩ := runs_runOrExit hrun
    · cases hexit
      exact ⟨status, [], rfl, Or.inl rfl⟩
    · cases hexit
  · obtain ⟨status, rfl, rfl, -⟩ := runs_runOrExit hrun
    exact ⟨status, t₂, rfl, Or.inr hrest⟩

/-- `RETCODE=$?`, and what follows it. -/
theorem runs_setRetcode_bind {α : Type} {status : Nat} {k : Unit → UpdateM α} {r : Except Ending α} :
    Runs (setRetcode status >>= k) s t r s' ↔
      Runs (k ()) { s with retcode := some status } t r s' := by
  rw [runs_bind]
  constructor
  · rintro (⟨ending, -, hset⟩ | ⟨_, t₁, t₂, s₁, rfl, hset, hrest⟩)
    · cases (runs_set.mp (runs_get_bind.mp hset)).2.1
    · obtain ⟨rfl, -, rfl⟩ := runs_set.mp (runs_get_bind.mp hset)
      exact hrest
  · intro h
    exact Or.inr ⟨⟨⟩, [], t, _, rfl, runs_get_bind.mpr (runs_set.mpr ⟨rfl, rfl, rfl⟩), h⟩

end

/-! ## The command line -/

/-- The options of a command line that gets to the download. -/
def downloadsWith (sys : System) (args : List String) : Option Options :=
  if sys.updatevm = "" ∨ args.head? = some "--help" then none
  else
    match parseOptions (.initial sys.yumAction) args with
    | .error _ => none
    | .ok o =>
        if o.hasTemplate = true ∨ (o.audioSwitch ≠ "" ∧ o.remoteOnly = true)
            ∨ (o.gui = true ∧ o.pkgs ≠ []) then none
        else some o

/-- The script does not get to the download, or goes on with the options. -/
theorem downloadsWith_cases (sys : System) (args : List String) :
    (downloadsWith sys args = none ∧ ((∃ status, script sys args = exit status) ∨
      ∃ o, script sys args = updateDom0 sys o ∧ (o.hasTemplate = true ∨
        (o.audioSwitch ≠ "" ∧ o.remoteOnly = true) ∨ (o.gui = true ∧ o.pkgs ≠ [])))) ∨
    ∃ o, downloadsWith sys args = some o ∧ script sys args = updateDom0 sys o ∧
      ¬ o.hasTemplate = true ∧ ¬ (o.audioSwitch ≠ "" ∧ o.remoteOnly = true) ∧
      ¬ (o.gui = true ∧ o.pkgs ≠ []) := by
  rw [downloadsWith, script]
  by_cases hvm : sys.updatevm = ""
  · exact Or.inl ⟨if_pos (Or.inl hvm), Or.inl ⟨1, if_pos hvm⟩⟩
  by_cases hhelp : args.head? = some "--help"
  · exact Or.inl ⟨if_pos (Or.inr hhelp), Or.inl ⟨0, by rw [if_neg hvm, if_pos hhelp]⟩⟩
  rw [if_neg (not_or.mpr ⟨hvm, hhelp⟩), if_neg hvm, if_neg hhelp]
  cases parseOptions (.initial sys.yumAction) args with
  | error status => exact Or.inl ⟨rfl, Or.inl ⟨status, rfl⟩⟩
  | ok o =>
      by_cases hstop : o.hasTemplate = true ∨ (o.audioSwitch ≠ "" ∧ o.remoteOnly = true)
          ∨ (o.gui = true ∧ o.pkgs ≠ [])
      · exact Or.inl ⟨if_pos hstop, Or.inr ⟨o, rfl, hstop⟩⟩
      · obtain ⟨htemplate, haudio, hgui⟩ := by simpa only [not_or] using hstop
        exact Or.inr ⟨o, if_neg hstop, rfl, htemplate, haudio, hgui⟩

/-- Packages cannot be given together with `--gui`. -/
theorem not_of_runs_checkCaller {sys : System} {o : Options} {s s' : Vars} {t : List UpdateEvent}
    (h : Runs (checkCaller sys o) s t (.ok ()) s') : ¬ (o.gui = true ∧ o.pkgs ≠ []) := by
  obtain ⟨id, t', rfl, hrest⟩ := runs_request_bind.mp h
  split at hrest
  · cases (runs_throw.mp hrest).2.1
  obtain ⟨_, t₁, t₂, s₁, rfl, -, hlock⟩ := runs_bind_ok.mp hrest
  obtain ⟨status, t₃, rfl, hend⟩ := runs_request_bind.mp hlock
  split at hend
  · cases (runs_throw.mp hend).2.1
  split at hend
  · cases (runs_throw.mp hend).2.1
  · assumption

/-- Without a download there are no events of one. -/
theorem isDownload_of_none {sys : System} {args : List String} (h : downloadsWith sys args = none)
    {s s' : Vars} {t : List UpdateEvent} {r : Except Ending Unit}
    (hrun : Runs (script sys args) s t r s') : ∀ e ∈ t, isDownload e = false := by
  rcases downloadsWith_cases sys args with
    ⟨-, ⟨status, hscript⟩ | ⟨o, hscript, hstop⟩⟩ | ⟨o, hsome, -⟩
  · -- an error of the command line, or the help
    rw [hscript] at hrun
    exact emits_exit status _ _ _ _ hrun
  · rw [hscript, updateDom0] at hrun
    by_cases htemplate : o.hasTemplate = true
    · rw [if_pos htemplate] at hrun
      split at hrun
      · exact emits_exit 2 _ _ _ _ hrun
      · exact emits_bind (emits_request fun _ => rfl) (fun _ => emits_exit _) _ _ _ _ hrun
    by_cases haudio : o.audioSwitch ≠ "" ∧ o.remoteOnly = true
    · rw [if_neg htemplate, if_pos haudio] at hrun
      exact emits_exit 2 _ _ _ _ hrun
    · -- packages are given together with `--gui`
      rw [if_neg htemplate, if_neg haudio] at hrun
      have hgui := (hstop.resolve_left htemplate).resolve_left haudio
      rcases runs_bind.mp hrun with ⟨_, -, hprepare⟩ | ⟨_, t₁, t₂, s₁, rfl, hprepare, -⟩
      · exact fun e he => isDownload_of_plain ((part_prepare sys o).emits _ _ _ _ hprepare e he)
      · obtain ⟨_, _, _, _, -, hcaller, -⟩ := runs_bind_ok.mp hprepare
        exact absurd hgui (not_of_runs_checkCaller hcaller)
  · rw [h] at hsome
    cases hsome

/-- The order of the calls of the script, from that of its parts: it hands over to `qvm-template`, or it
prepares the UpdateVM and goes on with the update. -/
theorem heeds_script_of {allowed : List UpdateEvent → UpdateCall → Prop} {sys : System} {args : List String}
    (htemplate : ∀ argv, allowed [] (.execTemplate argv))
    (hprepare : ∀ o, Heeds allowed [] (prepare sys o))
    (hupdate : ∀ o old s t guiapp s', Runs (prepare sys o) s t (.ok guiapp) s' →
      Heeds allowed t (update sys o old guiapp)) : Heeds allowed [] (script sys args) := by
  rw [script]
  split
  · exact heeds_throw
  split
  · exact heeds_throw
  split
  · exact heeds_throw
  rename_i o hoptions
  rw [updateDom0]
  split
  · split
    · exact heeds_throw
    · exact heeds_request_bind (htemplate _) fun _ => heeds_throw
  split
  · exact heeds_throw
  refine heeds_bind (hprepare o) fun s t guiapp s' hrun => ?_
  split
  · exact heeds_throw
  · exact hupdate o _ s t guiapp s' hrun

end Dom0Update

end QubesAdminLinux
