import QubesAdminLinux.Dom0Updates.Dom0Update

/-! # A system that works

An environment of `qubes-dom0-update` in which all calls succeed, but for a few whose outcome is chosen.
How the script ends there is followed part by part.

* **`workingSystem`** — the environment; **`agentSystem`** — a system to go with it.
* **`endsIn_prepare`**, **`endsIn_download`**, **`endsIn_applyUpdates`** — the parts.
* **`endsIn_updateDom0`** — the script after its command line has been read. -/

namespace QubesAdminLinux

namespace Dom0Update

open Proc

/-- The calls whose outcome is chosen. -/
structure Outcomes where
  /-- Whether there is metadata of the repository. -/
  metadata : Bool
  /-- The status of a download whose output is piped. -/
  piped : Nat
  /-- The status of `qvm-template`. -/
  template : Nat
  /-- The status of `dnf`. -/
  dnf : Nat
  /-- The status of `dnf check-update`; without updates it is 0. -/
  check : Nat := 0

/-- Everything else succeeds. -/
def workingSystem (w : Outcomes) : (c : UpdateCall) → c.Reply
  | .run argv => if argv.head? = some "pidof" then (1 : Nat) else (0 : Nat)
  | .output _ => ("0", 0)
  | .pathIs kind _ => kind = "-f" && w.metadata
  | .isTty _ => false
  | .readAnswer => ""
  | .execTemplate _ => w.template
  | .sendRepositories _ => ((0, 0) : Nat × Nat)
  | .downloadWithProgress _ => (0 : Nat)
  | .downloadPiped _ _ => ((w.piped, 0) : Nat × Nat)
  | .downloadPlain _ _ => (0 : Nat)
  | .dnf _ => w.dnf
  | .updateDom0 => (0 : Nat)
  | .guiApp _ => (0 : Nat)
  | .checkUpdate _ => w.check
  | .nested _ => (0 : Nat)

/-- A system whose UpdateVM has an agent of this version; 4.3.1 is too old to report progress. -/
def agentSystem (version : String) : System :=
  ⟨none, "", "", "sys-firewall", fun vm => vm = "fedora", fun _ => some "fedora", fun _ => version,
    fun version minimum => version = "4.3.1" && minimum = "4.4", 3⟩

/-- A usual system. -/
def usualSystem : System := agentSystem "4.4.1"

/-- In the environment, a part ends so. -/
abbrev EndsIn {α : Type} (env : (c : UpdateCall) → c.Reply) (x : UpdateM α) (s : Vars)
    (r : Except Ending α) (s' : Vars) : Prop := (play env x s).2 = (r, s')

/-- Two parts, one after the other. -/
theorem endsIn_bind {α β : Type} {env : (c : UpdateCall) → c.Reply} {x : UpdateM α}
    {f : α → UpdateM β} {a : α} {s s₁ s' : Vars} {r : Except Ending β}
    (hx : EndsIn env x s (.ok a) s₁) (hf : EndsIn env (f a) s₁ r s') : EndsIn env (x >>= f) s r s' :=
  (congrArg Prod.snd (play_bind_ok hx)).trans hf

section

variable {w : Outcomes} {sys : System} {o : Options} {s : Vars}

/-! ## Before the download -/

/-- The script may run, unless packages are given together with `--gui`. -/
theorem endsIn_checkCaller : EndsIn (workingSystem w) (checkCaller sys o) s
    (if o.gui = true ∧ o.pkgs ≠ [] then .error (.exit 1) else .ok ()) s := by
  have hlast : EndsIn (workingSystem w) (if o.gui = true ∧ o.pkgs ≠ [] then exit 1 else pure ()) s
      (if o.gui = true ∧ o.pkgs ≠ [] then .error (.exit 1) else .ok ()) s := by
    split
    · rfl
    · rfl
  exact hlast

/-- A graphical updater is chosen, or none. -/
theorem endsIn_chooseGuiApp : ∃ guiapp, EndsIn (workingSystem w) (chooseGuiApp sys o) s (.ok guiapp) s := by
  rw [chooseGuiApp]
  split
  · rw [guiApps]
    split
    · exact ⟨_, rfl⟩
    · exact ⟨_, rfl⟩
  · exact ⟨_, rfl⟩

/-- Packages together with `--gui` end the script. -/
theorem endsIn_prepare_of_gui (h : o.gui = true ∧ o.pkgs ≠ []) :
    EndsIn (workingSystem w) (prepare sys o) s (.error (.exit 1)) s := by
  have hcaller := @endsIn_checkCaller w sys o s
  rw [if_pos h] at hcaller
  exact play_bind_error hcaller

/-- Up to the download everything goes well. -/
theorem endsIn_prepare (h : ¬ (o.gui = true ∧ o.pkgs ≠ [])) :
    ∃ guiapp, EndsIn (workingSystem w) (prepare sys o) s (.ok guiapp) s := by
  have hcaller := @endsIn_checkCaller w sys o s
  rw [if_neg h] at hcaller
  have hrunning : EndsIn (workingSystem w) (checkRunning sys o) s (.ok ()) s := by
    rw [checkRunning]
    split
    · rfl
    · rfl
  have hclean : EndsIn (workingSystem w) (cleanPackages o) s (.ok ()) s := by
    rw [cleanPackages]
    split
    · rfl
    · rfl
  have hboot : EndsIn (workingSystem w) (checkBoot o) s (.ok ()) s := by
    rw [checkBoot]
    split
    · rfl
    · rfl
  have hupdatevm : EndsIn (workingSystem w) (prepareUpdatevm sys) s (.ok ()) s := rfl
  obtain ⟨guiapp, hgui⟩ := @endsIn_chooseGuiApp w sys o s
  exact ⟨guiapp, endsIn_bind hcaller (endsIn_bind hgui (endsIn_bind hrunning (endsIn_bind hclean
    (endsIn_bind rfl (endsIn_bind hboot (endsIn_bind hupdatevm rfl))))))⟩

/-! ## The download -/

/-- The download succeeds. -/
theorem endsIn_download (old : Bool) : EndsIn (workingSystem w) (download sys o old) s (.ok ())
    { s with retcode := some 0 } := by
  rw [download]
  split
  · rfl
  · have httys : EndsIn (workingSystem w) areTtys s (.ok false) s := rfl
    refine endsIn_bind httys ?_
    split
    · rfl
    · rfl

/-- Remote-only actions end after the download. -/
theorem endsIn_checkDownload (old : Bool) : EndsIn (workingSystem w) (checkDownload o old)
    ⟨some 0, false⟩ (if o.remoteOnly = true then .error (.exit 0) else .ok ()) ⟨some 0, false⟩ := by
  refine endsIn_bind (a := ⟨some 0, false⟩) rfl ?_
  dsimp only [Option.getD_some]
  rw [if_neg (by simp)]
  by_cases hremote : o.remoteOnly = true
  · rw [if_pos (Or.inl hremote), if_pos hremote]
    rfl
  · rw [if_neg (by simpa using hremote), if_neg hremote]
    rfl

/-! ## The installation -/

/-- The status of the installation: only packages of the command line are installed. -/
def Outcomes.installed (w : Outcomes) (o : Options) : Nat :=
  if o.pkgs ≠ [] ∧ w.metadata = true then w.dnf else 0

/-- The version of Xen stays the same. -/
theorem endsIn_checkXen :
    EndsIn (workingSystem w) (checkXen o) ⟨some 0, false⟩ (.ok ()) ⟨some 0, false⟩ := by
  have hmetadata : EndsIn (workingSystem w) hasMetadata ⟨some 0, false⟩ (.ok w.metadata)
      ⟨some 0, false⟩ := rfl
  refine endsIn_bind hmetadata ?_
  split
  · -- the version of Xen is the same
    have hversion : ¬ ("0" ≠ "" ∧ "0" ≠ withoutSuffix "0") := by decide +kernel
    refine endsIn_bind (a := ("0", 0)) rfl (endsIn_bind (a := ("0", 0)) rfl ?_)
    rw [if_neg hversion]
    rfl
  · rfl

/-- The installation ends with the code of the outcome. -/
theorem endsIn_install (hcheck : w.check = 0) (guiapp : List String) :
    EndsIn (workingSystem w) (install sys o guiapp) ⟨some 0, false⟩ (.ok ())
      ⟨some (w.installed o), false⟩ := by
  have hmetadata : EndsIn (workingSystem w) hasMetadata ⟨some 0, false⟩ (.ok w.metadata)
      ⟨some 0, false⟩ := rfl
  refine endsIn_bind hmetadata ?_
  rw [Outcomes.installed]
  by_cases hpkgs : o.pkgs = []
  · have hinstalled : ¬ (o.pkgs ≠ [] ∧ w.metadata = true) := fun h => h.1 hpkgs
    rw [if_neg (not_not_intro hpkgs), if_neg hinstalled]
    split
    · have hall : EndsIn (workingSystem w) (installUpdates o guiapp) ⟨some 0, false⟩ (.ok ())
          ⟨some 0, false⟩ := by
        rw [installUpdates]
        split
        · rfl
        split
        · rfl
        · refine endsIn_bind rfl ?_
          change EndsIn _ (if w.check = 100 then _ else _) _ _ _
          rw [if_neg (by omega)]
          rfl
      refine endsIn_bind hall (endsIn_bind rfl ?_)
      change EndsIn _ (if w.check = 0 then _ else _) _ _ _
      rw [if_pos hcheck]
      rfl
    · refine endsIn_bind rfl ?_
      split
      · rw [showMessage]
        split
        · rfl
        · rfl
      · rfl
  · rw [if_pos hpkgs]
    by_cases hpresent : w.metadata = true
    · rw [if_pos hpresent, if_pos ⟨hpkgs, hpresent⟩]
      rfl
    · have hinstalled : ¬ (o.pkgs ≠ [] ∧ w.metadata = true) := fun h => hpresent h.2
      rw [if_neg hpresent, if_neg hinstalled]
      rfl

/-- The audio server stays the same. -/
theorem endsIn_switchAudio (audioSwitch : String) :
    EndsIn (workingSystem w) (switchAudio o audioSwitch) s (.ok ()) s := by
  rw [switchAudio]
  split
  · rfl
  split
  · rfl
  · rfl

/-- The script ends with the status of the installation. -/
theorem endsIn_applyUpdates (hcheck : w.check = 0) {guiapp : List String} (hrounds : sys.rounds ≠ 0) :
    EndsIn (workingSystem w) (applyUpdates sys o guiapp) ⟨some 0, false⟩
      (.error (.exit (w.installed o))) ⟨some (w.installed o), false⟩ := by
  obtain ⟨rounds, hrounds⟩ := Nat.exists_eq_succ_of_ne_zero hrounds
  have hwait : EndsIn (workingSystem w) (waitForDownload sys.rounds) ⟨some 0, false⟩ (.ok ())
      ⟨some 0, false⟩ := by
    rw [hrounds]
    rfl
  exact endsIn_bind hwait (endsIn_bind rfl (endsIn_bind endsIn_checkXen
    (endsIn_bind (endsIn_install hcheck guiapp) (endsIn_bind (endsIn_switchAudio _) rfl))))

/-! ## The script -/

/-- How the script ends, once it has got to the download. -/
def Outcomes.ending (w : Outcomes) (sys : System) (o : Options) : Ending :=
  match oldVersion sys with
  | none => .running
  | some _ => .exit (if o.remoteOnly = true then 0 else w.installed o)

/-- The script after its command line has been read, if it gets to the download. -/
theorem endsIn_updateDom0 (hupdates : w.check = 0) (htemplate : ¬ o.hasTemplate = true)
    (haudio : ¬ (o.audioSwitch ≠ "" ∧ o.remoteOnly = true)) (hgui : ¬ (o.gui = true ∧ o.pkgs ≠ [])) :
    ∃ s', EndsIn (workingSystem w) (updateDom0 sys o) ⟨none, false⟩ (.error (w.ending sys o)) s' := by
  obtain ⟨guiapp, hprepare⟩ := @endsIn_prepare w sys o ⟨none, false⟩ hgui
  rw [updateDom0, if_neg htemplate, if_neg haudio, Outcomes.ending]
  cases hold : oldVersion sys with
  | none => exact ⟨_, endsIn_bind hprepare rfl⟩
  | some old =>
      have hrounds : sys.rounds ≠ 0 := by
        intro hzero
        rw [oldVersion, hzero] at hold
        cases hold
      have hcheck := @endsIn_checkDownload w o old
      by_cases hremote : o.remoteOnly = true
      · rw [if_pos hremote] at hcheck ⊢
        exact ⟨_, endsIn_bind hprepare (endsIn_bind (endsIn_download old) (play_bind_error hcheck))⟩
      · rw [if_neg hremote] at hcheck ⊢
        exact ⟨_, endsIn_bind hprepare (endsIn_bind (endsIn_download old)
          (endsIn_bind hcheck (endsIn_applyUpdates hupdates hrounds)))⟩

end

end Dom0Update

end QubesAdminLinux
