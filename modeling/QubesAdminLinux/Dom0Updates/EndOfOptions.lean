import QubesAdminLinux.Dom0Updates.OptionLoop
import QubesAdminLinux.Dom0Updates.WorkingSystem

/-! # The end-of-options mark

Package names may follow the mark `--` on the command line of `qubes-dom0-update`.  There they are
options for `dnf` and for the UpdateVM, but not packages: the script does not see templates among them,
accepts them together with `--gui`, and installs them only if `dnf` knows of other updates.

* **`SameBehaviour`** — two command lines have the same effect, whatever the environment replies.
* **`MarkIgnored`** — the options and names for which the mark changes nothing.
* **`sameBehaviour_iff`** — that these are the options and names. -/

namespace QubesAdminLinux

namespace Dom0Update

open Proc

/-! ## Behaviour -/

/-- The events that decide what is downloaded and installed. -/
def isDecisive : UpdateEvent → Bool
  | ⟨.execTemplate _, _⟩ => true
  | ⟨.downloadWithProgress _, _⟩ => true
  | ⟨.downloadPiped _ _, _⟩ => true
  | ⟨.downloadPlain _ _, _⟩ => true
  | ⟨.dnf _, _⟩ => true
  | ⟨.updateDom0, _⟩ => true
  | ⟨.guiApp _, _⟩ => true
  | ⟨.nested _, _⟩ => true
  | _ => false

/-- The decisive events of the script in an environment, and how it ends. -/
def outcome (env : (c : UpdateCall) → c.Reply) (sys : System) (args : List String) (s : Vars) :
    List UpdateEvent × Except Ending Unit :=
  ((play env (script sys args) s).1.filter isDecisive, (play env (script sys args) s).2.1)

/-- In every environment, both command lines have the same outcome. -/
def SameBehaviour (sys : System) (args args' : List String) : Prop :=
  ∀ env s, outcome env sys args s = outcome env sys args' s

/-- Equal scripts behave alike. -/
theorem sameBehaviour_of_eq {sys : System} {args args' : List String}
    (h : script sys args = script sys args') : SameBehaviour sys args args' := by
  intro env s
  rw [outcome, outcome, h]

/-- Different ends in an environment. -/
theorem not_sameBehaviour {env : (c : UpdateCall) → c.Reply} {sys : System} {args args' : List String}
    {s s₁ s₂ : Vars} {r₁ r₂ : Except Ending Unit} (h₁ : EndsIn env (script sys args) s r₁ s₁)
    (h₂ : EndsIn env (script sys args') s r₂ s₂) (hne : r₁ ≠ r₂) : ¬ SameBehaviour sys args args' := by
  intro h
  have hends : (play env (script sys args) s).2.1 = (play env (script sys args') s).2.1 :=
    congrArg Prod.snd (h env s)
  rw [h₁, h₂] at hends
  exact hne hends

/-! ## The two command lines -/

/-- A name of a package: it does not look like an option. -/
def IsName (arg : String) : Prop := ¬ startsWith arg "-" = true

/-- With the options that are read, the names are neither installed nor found to be wrong. -/
def NamesIgnored (sys : System) (o : Options) (names : List String) : Prop :=
  if o.audioSwitch ≠ "" ∧ (o.withNames names).remoteOnly = true then
    -- only a single template is not an error
    ¬ ((o.withNames names).hasTemplate = true ∧ names.length = 1)
  else
    ¬ (o.withNames names).hasTemplate = true ∧ o.gui = false ∧
      ((o.withNames names).remoteOnly = true ∨ oldVersion sys = none)

/-- The options and names for which the mark changes nothing: the script ends before it looks at the
packages, or does nothing with them in dom0. -/
def MarkIgnored (sys : System) (options names : List String) : Prop :=
  sys.updatevm = "" ∨ options.head? = some "--help" ∨
    match parseOptions (.initial sys.yumAction) options with
    | .error _ => True
    | .ok o => NamesIgnored sys o names

section

variable {sys : System} {options names : List String} {o : Options}

/-- What follows the options does not ask for the help. -/
theorem head?_append {args : List String} (h : args.head? ≠ some "--help") :
    (options ++ args).head? = some "--help" ↔ options.head? = some "--help" := by
  cases options with
  | nil => simpa using h
  | cons arg rest => simp

/-- Names do not ask for help. -/
theorem head?_names (hnames : ∀ arg ∈ names, IsName arg) : names.head? ≠ some "--help" := by
  intro h
  have hmem : "--help" ∈ names := List.mem_of_mem_head? h
  exact hnames _ hmem (by decide +kernel)

/-- Nor does the mark of the end of options. -/
theorem head?_mark : ("--" :: names).head? ≠ some "--help" := by simp

/-- The script reads the options and then the rest. -/
theorem script_append {args : List String} (hvm : sys.updatevm ≠ "")
    (hhelp : options.head? ≠ some "--help") (hargs : args.head? ≠ some "--help")
    (hoptions : ∀ arg ∈ options, IsOption arg)
    (hok : parseOptions (.initial sys.yumAction) options = .ok o) {o' : Options}
    (hrest : parseOptions o args = .ok o') : script sys (options ++ args) = updateDom0 sys o' := by
  have hread : parseOptions (.initial sys.yumAction) (options ++ args) = .ok o' := by
    rw [parseOptions_append (fun arg harg => (hoptions arg harg).2), hok]
    exact hrest
  rw [script, if_neg hvm, if_neg (fun h => hhelp ((head?_append hargs).mp h)), hread]

/-- An error in the options ends the script. -/
theorem script_append_error {args : List String} (hvm : sys.updatevm ≠ "")
    (hhelp : options.head? ≠ some "--help") (hargs : args.head? ≠ some "--help")
    (hoptions : ∀ arg ∈ options, IsOption arg) {status : Nat}
    (herror : parseOptions (.initial sys.yumAction) options = .error status) :
    script sys (options ++ args) = exit status := by
  have hread : parseOptions (.initial sys.yumAction) (options ++ args) = .error status := by
    rw [parseOptions_append (fun arg harg => (hoptions arg harg).2), herror]
    rfl
  rw [script, if_neg hvm, if_neg (fun h => hhelp ((head?_append hargs).mp h)), hread]

/-- The names are the packages if there are no others. -/
theorem pkgs_withNames (hpkgs : o.pkgs = []) : (o.withNames names).pkgs = names := by
  show o.pkgs ++ names = names
  rw [hpkgs, List.nil_append]

/-- After the mark there are no templates. -/
theorem hasTemplate_withMarked (hpkgs : o.pkgs = []) : ¬ (o.withMarked names).hasTemplate = true := by
  have hnone : (o.withMarked names).pkgs = [] := hpkgs
  rw [Options.hasTemplate, hnone]
  exact Bool.false_ne_true

/-! ## Where the mark changes nothing -/

/-- A remote-only action ends after the download. -/
theorem checkDownload_bind {old : Bool} {k : Unit → UpdateM Unit} (h : o.remoteOnly = true) :
    checkDownload o old >>= k = get >>= fun v => exit (v.retcode.getD 0) := by
  rw [checkDownload, bind_assoc]
  congr 1
  funext v
  dsimp only
  rw [if_pos (Or.inl h), ite_self]
  rfl

/-- Without `--gui` the mark does not matter up to the download. -/
theorem prepare_withMarked (hgui : o.gui = false) :
    prepare sys (o.withMarked names) = prepare sys (o.withNames names) := by
  have hcaller : checkCaller sys (o.withMarked names) = checkCaller sys (o.withNames names) := by
    simp [checkCaller, Options.withMarked, Options.withNames, Options.defaultInstall, hgui]
  rw [prepare, prepare, hcaller]
  rfl

/-- If nothing is installed, the mark does not matter. -/
theorem updateDom0_withMarked (hpkgs : o.pkgs = []) (hgui : o.gui = false)
    (htemplate : ¬ (o.withNames names).hasTemplate = true)
    (haudio : ¬ (o.audioSwitch ≠ "" ∧ (o.withNames names).remoteOnly = true))
    (hend : (o.withNames names).remoteOnly = true ∨ oldVersion sys = none) :
    updateDom0 sys (o.withMarked names) = updateDom0 sys (o.withNames names) := by
  have haudio' : ¬ ((o.withMarked names).audioSwitch ≠ "" ∧ (o.withMarked names).remoteOnly = true) :=
    haudio
  have haudio'' : ¬ ((o.withNames names).audioSwitch ≠ "" ∧ (o.withNames names).remoteOnly = true) :=
    haudio
  rw [updateDom0, updateDom0, if_neg (hasTemplate_withMarked hpkgs), if_neg htemplate, if_neg haudio',
    if_neg haudio'', prepare_withMarked hgui]
  congr 1
  funext guiapp
  cases hold : oldVersion sys with
  | none => rfl
  | some old =>
      have hremote : (o.withNames names).remoteOnly = true :=
        hend.resolve_right fun hnone => by simp [hold] at hnone
      have hmarked : (o.withMarked names).remoteOnly = true := hremote
      show update sys (o.withMarked names) old guiapp = update sys (o.withNames names) old guiapp
      rw [update, update, checkDownload_bind hremote, checkDownload_bind hmarked]
      rfl

/-- For these options and names the script is the same. -/
theorem script_mark (hoptions : ∀ arg ∈ options, IsOption arg) (hnames : ∀ arg ∈ names, IsName arg)
    (hne : names ≠ []) (h : MarkIgnored sys options names) :
    script sys (options ++ "--" :: names) = script sys (options ++ names) := by
  by_cases hvm : sys.updatevm = ""
  · rw [script, script, if_pos hvm, if_pos hvm]
  by_cases hhelp : options.head? = some "--help"
  · rw [script, script, if_neg hvm, if_neg hvm, if_pos ((head?_append head?_mark).mpr hhelp),
      if_pos ((head?_append (head?_names hnames)).mpr hhelp)]
  have hread := (h.resolve_left hvm).resolve_left hhelp
  cases hok : parseOptions (.initial sys.yumAction) options with
  | error status =>
      rw [script_append_error hvm hhelp head?_mark hoptions hok,
        script_append_error hvm hhelp (head?_names hnames) hoptions hok]
  | ok o =>
      rw [hok] at hread
      have hpkgs : o.pkgs = [] := pkgs_of_options hoptions hok
      have hmark : parseOptions o ("--" :: names) = .ok (o.withMarked names) := by
        rw [parseOptions_mark, if_neg hne]
      rw [script_append hvm hhelp head?_mark hoptions hok hmark,
        script_append hvm hhelp (head?_names hnames) hoptions hok (parseOptions_names hnames hne o)]
      dsimp only [NamesIgnored] at hread
      split at hread
      · rename_i haudio
        have hmarked : (o.withMarked names).audioSwitch ≠ "" ∧ (o.withMarked names).remoteOnly = true :=
          haudio
        have hnamed : (o.withNames names).audioSwitch ≠ "" ∧ (o.withNames names).remoteOnly = true :=
          haudio
        rw [updateDom0, updateDom0, if_neg (hasTemplate_withMarked hpkgs), if_pos hmarked]
        by_cases htemplate : (o.withNames names).hasTemplate = true
        · have hlength : (o.withNames names).pkgs.length ≠ 1 := by
            rw [pkgs_withNames hpkgs]
            exact fun hone => hread ⟨htemplate, hone⟩
          rw [if_pos htemplate, if_pos hlength]
        · rw [if_neg htemplate, if_pos hnamed]
      · rename_i haudio
        obtain ⟨htemplate, hgui, hend⟩ := hread
        exact updateDom0_withMarked hpkgs hgui htemplate haudio hend

/-! ## Where the mark changes something -/

/-- A system in which `qvm-template` and `dnf` fail. -/
def failingTools : Outcomes := { metadata := true, piped := 0, template := 3, dnf := 5 }

/-- How the script ends in it, after its command line has been read. -/
abbrev EndsWith (sys : System) (o : Options) (ending : Ending) : Prop :=
  ∃ s', EndsIn (workingSystem failingTools) (updateDom0 sys o) ⟨none, false⟩ (.error ending) s'

/-- After the mark nothing is installed, so nothing fails. -/
theorem endsWith_withMarked (hpkgs : o.pkgs = [])
    (haudio : ¬ (o.audioSwitch ≠ "" ∧ (o.withNames names).remoteOnly = true)) :
    EndsWith sys (o.withMarked names) (.exit 0) ∨ EndsWith sys (o.withMarked names) .running := by
  have hnone : (o.withMarked names).pkgs = [] := hpkgs
  have hinstalled : failingTools.installed (o.withMarked names) = 0 := if_neg fun h => h.1 hnone
  have hend := @endsIn_updateDom0 failingTools sys (o.withMarked names) rfl
    (hasTemplate_withMarked hpkgs) haudio fun h => h.2 hnone
  rw [Outcomes.ending, hinstalled, ite_self] at hend
  cases hold : oldVersion sys with
  | none =>
      rw [hold] at hend
      exact Or.inr hend
  | some old =>
      rw [hold] at hend
      exact Or.inl hend

/-- Templates are for `qvm-template`, one at a time. -/
theorem endsWith_template (htemplate : o.hasTemplate = true) :
    EndsWith sys o (.exit (if o.pkgs.length ≠ 1 then 2 else 3)) := by
  rw [EndsWith, updateDom0, if_pos htemplate]
  split
  · exact ⟨_, rfl⟩
  · exact ⟨_, rfl⟩

/-- To switch the audio server without a local update is an error. -/
theorem endsWith_audioSwitch (htemplate : ¬ o.hasTemplate = true)
    (haudio : o.audioSwitch ≠ "" ∧ o.remoteOnly = true) : EndsWith sys o (.exit 2) := by
  rw [EndsWith, updateDom0, if_neg htemplate, if_pos haudio]
  exact ⟨_, rfl⟩

/-- So are named packages with `--gui`. -/
theorem endsWith_gui (htemplate : ¬ o.hasTemplate = true)
    (haudio : ¬ (o.audioSwitch ≠ "" ∧ o.remoteOnly = true)) (hgui : o.gui = true ∧ o.pkgs ≠ []) :
    EndsWith sys o (.exit 1) := by
  rw [EndsWith, updateDom0, if_neg htemplate, if_neg haudio]
  exact ⟨_, play_bind_error (endsIn_prepare_of_gui hgui)⟩

/-- Packages are installed, and `dnf` fails. -/
theorem endsWith_dnf (htemplate : ¬ o.hasTemplate = true) (hgui : ¬ o.gui = true) (hpkgs : o.pkgs ≠ [])
    (hremote : ¬ o.remoteOnly = true) (hold : oldVersion sys ≠ none) : EndsWith sys o (.exit 5) := by
  have hinstalled : failingTools.installed o = 5 := if_pos ⟨hpkgs, rfl⟩
  have hend := @endsIn_updateDom0 failingTools sys o rfl htemplate (fun h => hremote h.2) fun h => hgui h.1
  obtain ⟨old, hold⟩ := Option.ne_none_iff_exists'.mp hold
  rw [Outcomes.ending, hold] at hend
  dsimp only at hend
  rw [if_neg hremote, hinstalled] at hend
  exact hend

/-- Where the names are not ignored, the two forms end differently. -/
theorem endsWith_ne (hpkgs : o.pkgs = []) (hne : names ≠ []) (h : ¬ NamesIgnored sys o names) :
    ∃ e₁ e₂, EndsWith sys (o.withMarked names) e₁ ∧ EndsWith sys (o.withNames names) e₂ ∧ e₁ ≠ e₂ := by
  have hnames : (o.withNames names).pkgs ≠ [] := by
    rw [pkgs_withNames hpkgs]
    exact hne
  rw [NamesIgnored] at h
  by_cases haudio : o.audioSwitch ≠ "" ∧ (o.withNames names).remoteOnly = true
  · -- an error after the mark, and a template without it
    rw [if_pos haudio, not_not] at h
    have hnamed := @endsWith_template sys (o.withNames names) h.1
    rw [pkgs_withNames hpkgs, if_neg (not_not_intro h.2)] at hnamed
    exact ⟨_, _, endsWith_audioSwitch (hasTemplate_withMarked hpkgs) haudio, hnamed, by decide⟩
  rw [if_neg haudio] at h
  have hdiffers : ∀ status, status ≠ 0 → EndsWith sys (o.withNames names) (.exit status) →
      ∃ e₁ e₂, EndsWith sys (o.withMarked names) e₁ ∧ EndsWith sys (o.withNames names) e₂ ∧ e₁ ≠ e₂ := by
    intro status hstatus hnamed
    rcases @endsWith_withMarked sys names o hpkgs haudio with hmarked | hmarked
    · exact ⟨_, _, hmarked, hnamed, by simpa using Ne.symm hstatus⟩
    · exact ⟨_, _, hmarked, hnamed, by simp⟩
  by_cases htemplate : (o.withNames names).hasTemplate = true
  · refine hdiffers _ ?_ (endsWith_template htemplate)
    split
    · decide
    · decide
  by_cases hgui : o.gui = true
  · exact hdiffers 1 (by decide) (endsWith_gui htemplate haudio ⟨hgui, hnames⟩)
  · have hinstalls : ¬ ((o.withNames names).remoteOnly = true ∨ oldVersion sys = none) :=
      fun hend => h ⟨htemplate, Bool.eq_false_iff.mpr hgui, hend⟩
    obtain ⟨hremote, hold⟩ := not_or.mp hinstalls
    exact hdiffers 5 (by decide) (endsWith_dnf htemplate hgui hnames hremote hold)

/-- Package names after the mark are treated as package names without it, for just these options and
names. -/
theorem sameBehaviour_iff (sys : System) (hoptions : ∀ arg ∈ options, IsOption arg)
    (hnames : ∀ arg ∈ names, IsName arg) (hne : names ≠ []) :
    SameBehaviour sys (options ++ "--" :: names) (options ++ names) ↔
      MarkIgnored sys options names := by
  constructor
  · intro hsame
    by_contra h
    obtain ⟨hvm, h⟩ := not_or.mp h
    obtain ⟨hhelp, h⟩ := not_or.mp h
    cases hok : parseOptions (.initial sys.yumAction) options with
    | error status =>
        rw [hok] at h
        exact h trivial
    | ok o =>
        rw [hok] at h
        have hmark : parseOptions o ("--" :: names) = .ok (o.withMarked names) := by
          rw [parseOptions_mark, if_neg hne]
        obtain ⟨e₁, e₂, ⟨s₁, h₁⟩, ⟨s₂, h₂⟩, hdiffer⟩ :=
          endsWith_ne (pkgs_of_options hoptions hok) hne h
        rw [← script_append hvm hhelp head?_mark hoptions hok hmark] at h₁
        rw [← script_append hvm hhelp (head?_names hnames) hoptions hok
          (parseOptions_names hnames hne o)] at h₂
        exact not_sameBehaviour h₁ h₂ (fun heq => hdiffer (Except.error.inj heq)) hsame
  · intro h
    exact sameBehaviour_of_eq (script_mark hoptions hnames hne h)

/-- If only the UpdateVM searches, the mark is ignored. -/
theorem sameBehaviour_iff_search :
    (∀ arg ∈ ["--action=search"], IsOption arg) ∧ (∀ arg ∈ ["vim"], IsName arg) ∧
      SameBehaviour usualSystem ["--action=search", "--", "vim"] ["--action=search", "vim"] := by
  have hoptions : ∀ arg ∈ ["--action=search"], IsOption arg := by
    simp only [IsOption, List.forall_mem_singleton]
    decide +kernel
  have hnames : ∀ arg ∈ ["vim"], IsName arg := by
    simp only [IsName, List.forall_mem_singleton]
    decide +kernel
  have hignored : MarkIgnored usualSystem ["--action=search"] ["vim"] := by
    have hread : parseOptions (.initial usualSystem.yumAction) ["--action=search"] = .ok
        { Options.initial none with
          updatevmOpts := ["--action=search"], yumAction := some "search" } := by
      decide +kernel
    refine Or.inr (Or.inr ?_)
    rw [hread]
    dsimp only [NamesIgnored]
    decide +kernel
  exact ⟨hoptions, hnames, (sameBehaviour_iff usualSystem hoptions hnames (by simp)).mpr hignored⟩

/-- Nothing is installed after the mark: `dnf` fails for the package only without it. -/
theorem mark_not_ignored :
    (outcome (workingSystem failingTools) usualSystem ["--", "vim"] ⟨none, false⟩).2
        = .error (.exit 0) ∧
      (outcome (workingSystem failingTools) usualSystem ["vim"] ⟨none, false⟩).2
        = .error (.exit 5) ∧
      ¬ ∀ (sys : System) (options names : List String), (∀ arg ∈ options, IsOption arg) →
        (∀ arg ∈ names, IsName arg) → names ≠ [] →
          SameBehaviour sys (options ++ "--" :: names) (options ++ names) := by
  have hmarked : (outcome (workingSystem failingTools) usualSystem ["--", "vim"] ⟨none, false⟩).2
      = .error (.exit 0) := by decide +kernel
  have hnamed : (outcome (workingSystem failingTools) usualSystem ["vim"] ⟨none, false⟩).2
      = .error (.exit 5) := by decide +kernel
  refine ⟨hmarked, hnamed, fun h => ?_⟩
  have hnames : ∀ arg ∈ ["vim"], IsName arg := by
    simp only [IsName, List.forall_mem_singleton]
    decide +kernel
  have hsame := congrArg Prod.snd
    (h usualSystem [] ["vim"] (by simp) hnames (by simp) (workingSystem failingTools) ⟨none, false⟩)
  have hends : (Except.error (.exit 0) : Except Ending Unit) = .error (.exit 5) :=
    hmarked.symm.trans (hsame.trans hnamed)
  cases hends

end

end Dom0Update

end QubesAdminLinux
