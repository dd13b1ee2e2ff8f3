import QubesAdminLinux.Dom0Updates.OptionLoop
import QubesAdminLinux.Dom0Updates.UpdateParts
import QubesAdminLinux.Dom0Updates.WorkingSystem
import QubesAdminLinux.Lib.ShellWords

/-! # The command for the UpdateVM

The options and packages for the UpdateVM are written into one command, each in quotes; for a terminal
this command is written, in quotes again, into a command of `script`.  A shell that reads the result
finds the options as they were, and nothing else to do.

* **`quoted_spells`** — an option in quotes is read as the option.
* **`simpleCommand_downloadCommand`, `simpleCommand_downloadCommand_tty`** — the words of both
  commands.
* **`delivered_of_runs`** — what the UpdateVM gets in a run of the script.
* **`options_delivered`** — what the shells find, for all options and for all command lines. -/

namespace QubesAdminLinux

namespace Dom0Update

open Proc

/-! ## Quoting -/

/-- A quoted text spells the text. -/
theorem quoted_spells (text : String) : Spells (quoted text).toList text.toList := by
  have hquoted : (quoted text).toList = quoteWord text.toList := by
    have hquote : "'".toList = [singleQuote] := rfl
    rw [quoted, String.toList_append, String.toList_append, hquote, escapeQuotes, String.toList_ofList]
    rfl
  rw [hquoted]
  exact spells_quoteWord text.toList

/-- The characters of a text that is extended by quoted options. -/
theorem toList_foldl_quoted (cmd : String) (opts : List String) :
    (opts.foldl (fun cmd opt => cmd ++ " " ++ quoted opt) cmd).toList
      = cmd.toList ++ opts.flatMap fun opt => ' ' :: (quoted opt).toList := by
  induction opts generalizing cmd with
  | nil => simp
  | cons opt rest ih =>
      rw [List.foldl_cons, ih, String.toList_append, String.toList_append, List.flatMap_cons]
      simp

/-- What runs in the UpdateVM, before the options. -/
def downloadWords : List String :=
  ["/usr/lib/qubes/qubes-download-dom0-updates.sh", "--doit", "--nogui"]

/-- A word without characters that have a meaning spells itself. -/
theorem literal_spells {word : String} (h : word ≠ "" ∧ word.toList.all isLiteral = true) :
    Spells word.toList word.toList := by
  apply spells_literal
  · intro hnil
    exact h.1 (String.toList_eq_nil_iff.mp hnil)
  · exact List.all_eq_true.mp h.2

/-- Fixed words and then options, each after a blank. -/
def spelledOptions (fixed opts : List String) : List (List Char × List Char) :=
  (fixed.map fun word => (word.toList, word.toList))
    ++ opts.map fun opt => ((quoted opt).toList, opt.toList)

/-- Each of them spells its word. -/
theorem spells_spelledOptions {f : List String}
    (h : ∀ word ∈ f, word ≠ "" ∧ word.toList.all isLiteral = true) (opts : List String) :
    ∀ p ∈ spelledOptions f opts, Spells p.1 p.2 := by
  intro p hp
  rcases List.mem_append.mp hp with hp | hp
  · obtain ⟨word, hword, rfl⟩ := List.mem_map.mp hp
    exact literal_spells (h word hword)
  · obtain ⟨opt, -, rfl⟩ := List.mem_map.mp hp
    exact quoted_spells opt

/-- The words that are spelled. -/
theorem map_ofList_spelledOptions (fixed opts : List String) :
    ((spelledOptions fixed opts).map Prod.snd).map String.ofList = fixed ++ opts := by
  simp [spelledOptions, Function.comp_def]

/-- The characters of the command. -/
theorem toList_downloadCommand (o : Options) :
    (downloadCommand o false).toList
      = "/usr/lib/qubes/qubes-download-dom0-updates.sh".toList
        ++ (spelledOptions ["--doit", "--nogui"] o.downloadOpts).flatMap fun p => ' ' :: p.1 := by
  have hfixed : "/usr/lib/qubes/qubes-download-dom0-updates.sh --doit --nogui".toList
      = "/usr/lib/qubes/qubes-download-dom0-updates.sh".toList
        ++ (' ' :: "--doit".toList ++ ' ' :: "--nogui".toList) := by
    decide +kernel
  rw [downloadCommand, if_neg Bool.false_ne_true, toList_foldl_quoted, hfixed, List.append_assoc,
    spelledOptions, List.flatMap_append, List.flatMap_map, List.flatMap_map]
  rfl

/-- The shell in the UpdateVM finds the fixed words and then the options. -/
theorem simpleCommand_downloadCommand (o : Options) :
    simpleCommand (downloadCommand o false) = some (downloadWords ++ o.downloadOpts) := by
  have hspelled := spells_spelledOptions (f := ["--doit", "--nogui"]) (by decide +kernel)
    o.downloadOpts
  rw [simpleCommand_of_spells (toList_downloadCommand o) (literal_spells (by decide +kernel))
    hspelled (by decide +kernel), List.map_cons, map_ofList_spelledOptions, String.ofList_toList]
  rfl

/-- The words before the command in the command of `script`. -/
def scriptWords : List String := ["script", "--quiet", "--return", "--command"]

/-- The characters of the command for a terminal. -/
theorem toList_downloadCommand_tty (o : Options) :
    (downloadCommand o true).toList
      = "script".toList
        ++ (spelledOptions ["--quiet", "--return", "--command"] [downloadCommand o false]
          ++ spelledOptions ["/dev/null"] []).flatMap fun p => ' ' :: p.1 := by
  have hfixed : "script --quiet --return --command ".toList
      = "script".toList ++ (' ' :: "--quiet".toList ++ ' ' :: "--return".toList
        ++ ' ' :: "--command".toList ++ [' ']) := by
    decide +kernel
  have hcmd : downloadCommand o true = "script --quiet --return --command "
      ++ quoted (downloadCommand o false) ++ " /dev/null" := rfl
  have hnull : " /dev/null".toList = ' ' :: "/dev/null".toList := by decide +kernel
  rw [hcmd, String.toList_append, String.toList_append, hfixed, hnull]
  simp only [spelledOptions, List.map_cons, List.map_nil, List.flatMap_cons, List.flatMap_nil,
    List.append_assoc, List.cons_append, List.nil_append, List.append_nil]

/-- The outer shell finds the words of `script`, one of which is the command for the inner shell. -/
theorem simpleCommand_downloadCommand_tty (o : Options) :
    simpleCommand (downloadCommand o true)
      = some (scriptWords ++ [downloadCommand o false, "/dev/null"]) := by
  have hbefore := spells_spelledOptions (f := ["--quiet", "--return", "--command"])
    (by decide +kernel) [downloadCommand o false]
  have hafter := spells_spelledOptions (f := ["/dev/null"]) (by decide +kernel) []
  have hspelled : ∀ p ∈ spelledOptions ["--quiet", "--return", "--command"]
      [downloadCommand o false] ++ spelledOptions ["/dev/null"] [], Spells p.1 p.2 :=
    List.forall_mem_append.mpr ⟨hbefore, hafter⟩
  rw [simpleCommand_of_spells (toList_downloadCommand_tty o) (literal_spells (by decide +kernel))
    hspelled (by decide +kernel), List.map_cons, List.map_append, List.map_append,
    map_ofList_spelledOptions, map_ofList_spelledOptions, String.ofList_toList]
  rfl

/-! ## The command in a run of the script -/

/-- The command that is sent to the UpdateVM for a download. -/
def commandSent? : UpdateEvent → Option String
  | ⟨.downloadPiped _ cmd, _⟩ => some cmd
  | ⟨.downloadPlain _ cmd, _⟩ => some cmd
  | _ => none

/-- A shell that is given the command runs the download with the options. -/
def Delivers (opts : List String) (cmd : String) : Prop :=
  simpleCommand cmd = some (downloadWords ++ opts) ∨
    ∃ inner, simpleCommand cmd = some (scriptWords ++ [inner, "/dev/null"]) ∧
      simpleCommand inner = some (downloadWords ++ opts)

/-- The command of a download delivers the arguments. -/
theorem delivers_downloadCommand (o : Options) (ttys : Bool) :
    Delivers o.downloadOpts (downloadCommand o ttys) := by
  cases ttys with
  | false => exact Or.inl (simpleCommand_downloadCommand o)
  | true =>
      exact Or.inr ⟨_, simpleCommand_downloadCommand_tty o, simpleCommand_downloadCommand o⟩

/-- An event that sends no command, or one that delivers the options. -/
def SendsOnly (opts : List String) (e : UpdateEvent) : Prop :=
  ∀ cmd, commandSent? e = some cmd → Delivers opts cmd

/-- Other commands deliver none. -/
theorem sendsOnly_of_noDownload {opts : List String} {e : UpdateEvent} (h : isDownload e = false) :
    SendsOnly opts e := by
  intro cmd hcmd
  revert h
  fun_cases isDownload e with
  | case1 => cases hcmd
  | case2 => simp
  | case3 => simp
  | case4 _ _ hpiped hplain =>
      rw [commandSent?] at hcmd
      · cases hcmd
      · exact hpiped
      · exact hplain

/-- So it is with plain calls. -/
theorem sendsOnly_of_plain {opts : List String} {e : UpdateEvent} (h : Plain e) : SendsOnly opts e :=
  sendsOnly_of_noDownload (isDownload_of_plain h)

/-- A download sends no other arguments. -/
theorem sendsOnly_download (sys : System) (o : Options) (old : Bool) :
    Emits (SendsOnly o.downloadOpts) (download sys o old) := by
  have hrun : ∀ argv, Emits (SendsOnly o.downloadOpts) (runOrExit argv) := fun argv =>
    (part_runOrExit fun _ => rfl).emits.mono fun _ => sendsOnly_of_plain
  have hprogress : ∀ reply, SendsOnly o.downloadOpts ⟨.downloadWithProgress sys.updatevm, reply⟩ := by
    rintro reply cmd ⟨⟩
  have hcommand : ∀ ttys cmd, some (downloadCommand o ttys) = some cmd →
      Delivers o.downloadOpts cmd := by
    rintro ttys _ ⟨⟩
    exact delivers_downloadCommand o ttys
  rw [download]
  split
  · refine emits_bind (hrun _) fun _ => emits_bind (hrun _) fun _ =>
      emits_bind (emits_request hprogress) fun status => emits_bind (emits_setRetcode _) fun _ => ?_
    split
    · exact emits_exit _
    split
    · exact emits_exit _
    · exact emits_bind (hrun _) fun _ => hrun _
  · refine emits_bind (part_areTtys.emits.mono fun _ => sendsOnly_of_plain) fun ttys => ?_
    split
    · exact emits_bind (emits_request fun _ => hcommand ttys) fun _ => emits_setRetcode _
    · exact emits_bind (emits_request fun _ => hcommand ttys) fun _ => emits_setRetcode _

/-- The script after its command line has been read. -/
theorem sendsOnly_updateDom0 (sys : System) (o : Options) :
    Emits (SendsOnly o.downloadOpts) (updateDom0 sys o) := by
  rw [updateDom0]
  split
  · split
    · exact emits_exit 2
    · exact emits_bind (emits_request fun _ => sendsOnly_of_noDownload rfl) fun _ => emits_exit _
  split
  · exact emits_exit 2
  refine emits_bind ((part_prepare sys o).emits.mono fun _ => sendsOnly_of_plain) fun guiapp => ?_
  split
  · exact emits_throw
  · exact emits_bind (sendsOnly_download sys o _) fun _ => emits_bind (emits_checkDownload o _) fun _ =>
      (isDownload_applyUpdates sys o guiapp).mono fun _ => sendsOnly_of_noDownload

/-- In every run of the script, a command for the UpdateVM runs the download with the arguments of the script
that are passed on, after the excluded templates. -/
theorem delivered_of_runs {sys : System} {args : List String} {s s' : Vars} {t : List UpdateEvent}
    {r : Except Ending Unit} (h : Runs (script sys args) s t r s') :
    ∀ e ∈ t, SendsOnly ("--exclude=qubes-template-*" :: passedOn args) e := by
  rw [script] at h
  split at h
  · exact emits_exit _ _ _ _ _ h
  split at h
  · exact emits_exit _ _ _ _ _ h
  cases hoptions : parseOptions (.initial sys.yumAction) args with
  | error status =>
      rw [hoptions] at h
      exact emits_exit _ _ _ _ _ h
  | ok o =>
      rw [hoptions] at h
      have hsends := sendsOnly_updateDom0 sys o _ _ _ _ h
      rw [Options.downloadOpts, updatevmOpts_eq hoptions] at hsends
      exact hsends

/-- Whatever the options are, the shell in the UpdateVM runs the download with exactly these options; for a
terminal it runs `script` with exactly this command, for which the inner shell does so.  In every run of the
script, with any command line, the options are the arguments that are passed on. -/
theorem options_delivered :
    (∀ o : Options,
      simpleCommand (downloadCommand o false) = some (downloadWords ++ o.downloadOpts) ∧
      simpleCommand (downloadCommand o true)
        = some (scriptWords ++ [downloadCommand o false, "/dev/null"])) ∧
    ∀ (sys : System) (args : List String) (s s' : Vars) (t : List UpdateEvent) (r : Except Ending Unit),
      Runs (script sys args) s t r s' → ∀ e ∈ t, ∀ cmd, commandSent? e = some cmd →
        Delivers ("--exclude=qubes-template-*" :: passedOn args) cmd :=
  ⟨fun o => ⟨simpleCommand_downloadCommand o, simpleCommand_downloadCommand_tty o⟩,
    fun _ _ _ _ _ _ hrun e he cmd hcmd => delivered_of_runs hrun e he cmd hcmd⟩

/-- `--console` is for dom0 alone; a name with a quote, a semicolon and a blank arrives as it is. -/
theorem options_delivered_quote : ∃ e ∈ (play (workingSystem ⟨true, 0, 0, 0, 0⟩)
      (script usualSystem ["--console", "it's; reboot"]) ⟨none, false⟩).1,
    ∃ cmd, commandSent? e = some cmd ∧ Delivers ["--exclude=qubes-template-*", "it's; reboot"] cmd := by
  have hrun := runs_play (workingSystem ⟨true, 0, 0, 0, 0⟩)
    (script usualSystem ["--console", "it's; reboot"]) ⟨none, false⟩
  obtain ⟨e, he, hsent⟩ : ∃ e ∈ (play (workingSystem ⟨true, 0, 0, 0, 0⟩)
      (script usualSystem ["--console", "it's; reboot"]) ⟨none, false⟩).1,
      (commandSent? e).isSome = true := by decide +kernel
  obtain ⟨cmd, hcmd⟩ := Option.isSome_iff_exists.mp hsent
  have hdelivers := options_delivered.2 _ _ _ _ _ _ hrun e he cmd hcmd
  have hpassed : passedOn ["--console", "it's; reboot"] = ["it's; reboot"] := by decide +kernel
  rw [hpassed] at hdelivers
  exact ⟨e, he, cmd, hcmd, hdelivers⟩

end Dom0Update

end QubesAdminLinux
