import QubesAdminLinux.Dom0Updates.AppliedUpdate
import QubesAdminLinux.VmUpdate.AgentCommand

/-! # The runs of `qubes-vm-update` in an update of dom0

`qubes-vm-update` updates dom0 by `qubes-dom0-update`, which runs `qubes-vm-update` twice: to download in
the UpdateVM, and to install in dom0.

* **`UpdateCall.vmUpdateWords`** — the two command lines.
* **`parseVmUpdate_nested`** — both are accepted, and what they are read as.
* **`nested_updates`** — in a run of the script, each nested update has a single target and starts a single
  agent, which is not `qubes-dom0-update`. -/

namespace QubesAdminLinux

open ArgumentParser Proc

namespace Dom0Update

/-! ## The command lines -/

/-- The options of the download in an UpdateVM. -/
def downloadPieces (updatevm : String) : List (Piece VmUpdateOption) :=
  [{ a := .forceUpdate, string := "--force-update".toList, value := none },
    { a := .targets, string := "--targets".toList, value := some updatevm.toList },
    { a := .signalNoUpdates, string := "--signal-no-updates".toList, value := none },
    { a := .agent .justPrintProgress, string := "--just-print-progress".toList, value := none },
    { a := .displayName, string := "--display-name".toList, value := some "dom0".toList },
    { a := .agent .downloadOnly, string := "--download-only".toList, value := none },
    { a := .agent .noCleanup, string := "--no-cleanup".toList, value := none },
    { a := .agent .showOutput, string := "--show-output".toList, value := none },
    { a := .agent .log, string := "--log".toList, value := some "INFO".toList, joined := true }]

/-- The options of the installation in dom0. -/
def installPieces : List (Piece VmUpdateOption) :=
  [{ a := .agent .noRefresh, string := "--no-refresh".toList, value := none },
    { a := .targets, string := "--targets".toList, value := some "dom0".toList },
    { a := .forceUpdate, string := "--force-update".toList, value := none },
    { a := .agent .log, string := "--log".toList, value := some "DEBUG".toList, joined := true },
    { a := .agent .justPrintProgress, string := "--just-print-progress".toList, value := none },
    { a := .agent .showOutput, string := "--show-output".toList, value := none }]

/-- The command line with which a call runs `qubes-vm-update`. -/
def UpdateCall.vmUpdateWords : UpdateCall → Option (List String)
  | .downloadWithProgress updatevm =>
      some ["--force-update", "--targets", updatevm, "--signal-no-updates", "--just-print-progress",
        "--display-name", "dom0", "--download-only", "--no-cleanup", "--show-output", "--log=INFO"]
  | .updateDom0 =>
      some ["--no-refresh", "--targets", "dom0", "--force-update", "--log=DEBUG",
        "--just-print-progress", "--show-output"]
  | _ => none

/-- What the download is read as. -/
def downloadLine (updatevm : String) : VmUpdateLine where
  args := { signalNoUpdates := true, justPrintProgress := true, displayName := some "dom0"
            downloadOnly := true, noCleanup := true, showOutput := true }
  targeting := { targets := updatevm, forceUpdate := true }

/-- What the installation is read as. -/
def installLine : VmUpdateLine where
  args := { noRefresh := true, log := "DEBUG", justPrintProgress := true, showOutput := true }
  targeting := { targets := "dom0", forceUpdate := true }

/-- The names of qubes start with a letter, and hold letters, digits and a few other characters. -/
def QubeName (name : String) : Prop :=
  ∃ c rest, name.toList = c :: rest ∧ c.isAlpha = true ∧
    ∀ d ∈ rest, d.isAlphanum = true ∨ d = '-' ∨ d = '_' ∨ d = '.'

/-- The characters that a name of a qube may have. -/
theorem qubeName_of_all {name : String} {c : Char} {rest : List Char} (heq : name.toList = c :: rest)
    (h : (c.isAlpha && rest.all fun d => d.isAlphanum || d = '-' || d = '_' || d = '.') = true) :
    QubeName name := by
  simp only [Bool.and_eq_true, List.all_eq_true, Bool.or_eq_true, decide_eq_true_iff, or_assoc] at h
  exact ⟨c, rest, heq, h⟩

/-- A name of a qube is no option. -/
theorem QubeName.head?_ne {name : String} (h : QubeName name) : name.toList.head? ≠ some '-' := by
  obtain ⟨c, rest, heq, halpha, -⟩ := h
  rw [heq]
  rintro ⟨⟩
  cases halpha

/-- An option of `qubes-vm-update` that is written correctly, with a value that does not look like an
option. -/
def isReadable (piece : Piece VmUpdateOption) : Bool :=
  piece.string.head? = some '-' && piece.string ≠ separatorWord
    && vmUpdateEntries.lookup piece.string = some piece.a
    && (piece.a.kind = .value) = piece.value.isSome
    && '=' ∉ piece.string && piece.value.all fun text => text.head? ≠ some '-'

/-- No option string holds an equals sign. -/
theorem equals_notMem_vmUpdateEntries : ∀ entry ∈ vmUpdateEntries, '=' ∉ entry.1 := by
  have h : (vmUpdateEntries.all fun entry => '=' ∉ entry.1) = true := by decide +kernel
  simpa using h

/-- Whether a part of a command line is plain can be computed. -/
theorem plain_of_isReadable {default : Int} {piece : Piece VmUpdateOption} (h : isReadable piece = true) :
    (vmUpdateParser default).Plain piece := by
  simp only [isReadable, Bool.and_eq_true, decide_eq_true_iff] at h
  obtain ⟨⟨⟨⟨⟨hdash, hne⟩, hfind⟩, hkind⟩, hequals⟩, hvalue⟩ := h
  exact {
    dash := hdash
    ne := hne
    find := hfind
    kind := by rw [← hkind]; rfl
    argument := by
      intro _ text htext
      rw [Option.mem_def.mp htext] at hvalue
      exact Parser.isArgument_of_head (by simpa using hvalue)
    equals := fun _ => ⟨hequals, equals_notMem_vmUpdateEntries⟩ }

/-- Options that do not exclude each other, ask for no help and take no number. -/
def areFree (options : List VmUpdateOption) : Bool :=
  options.all fun a => a.kind ≠ .help && a ≠ .maxConcurrency && a ≠ .updateIfStale
    && options.all fun b => !a.exclusive b

/-- Any value will do for an option that takes no number. -/
theorem accepts_of_ne {default : Int} {a : VmUpdateOption} (h : a ≠ .maxConcurrency)
    (h' : a ≠ .updateIfStale) (text : Word) : (vmUpdateParser default).accepts a text = true := by
  cases a with
  | maxConcurrency => exact absurd rfl h
  | updateIfStale => exact absurd rfl h'
  | _ => rfl

/-- Options that are written correctly and belong together are read back. -/
theorem parseVmUpdate_pieces {default : Int} {words : List String} {pieces : List (Piece VmUpdateOption)}
    (hwords : words.map String.toList = pieces.flatMap Piece.words)
    (hreadable : ∀ piece ∈ pieces, isReadable piece = true)
    (hfree : areFree (pieces.map Piece.a) = true) :
    parseVmUpdate default words = .ok (readVmUpdate (pieces.map Piece.action)) := by
  simp only [areFree, List.all_eq_true, Bool.and_eq_true, decide_eq_true_iff] at hfree
  have hcompatible : (vmUpdateParser default).Compatible (pieces.map Piece.action) := by
    refine Parser.compatible_of_exclusive (fun action haction => ?_) fun a ha b hb => ?_
    · obtain ⟨piece, hpiece, rfl⟩ := List.mem_map.mp haction
      obtain ⟨⟨⟨hhelp, hmax⟩, hstale⟩, -⟩ := hfree piece.a (List.mem_map_of_mem hpiece)
      exact ⟨fun text _ => accepts_of_ne hmax hstale text, hhelp⟩
    · rw [List.map_map] at ha hb
      have hpair := (hfree a ha).2 b hb
      rwa [Bool.not_eq_true'] at hpair
  rw [parseVmUpdate, hwords, (Parser.parse_pieces (fun piece hpiece => plain_of_isReadable
    (hreadable piece hpiece))).mpr ⟨hcompatible, rfl⟩]
  rfl

/-- The command line of the download. -/
theorem parse_download (default : Int) {updatevm : String} (hname : QubeName updatevm)
    {words : List String} (hwords : (UpdateCall.downloadWithProgress updatevm).vmUpdateWords = some words) :
    parseVmUpdate default words = .ok (downloadLine updatevm) := by
  cases hwords
  have hread : readVmUpdate ((downloadPieces updatevm).map Piece.action) = downloadLine updatevm := by
    have htargets : lastText ((downloadPieces updatevm).map Piece.action) .targets = some updatevm := by
      rw [lastText]
      show some (String.ofList updatevm.toList) = some updatevm
      rw [String.ofList_toList]
    have htargeting : readTargeting ((downloadPieces updatevm).map Piece.action)
        = (downloadLine updatevm).targeting := by
      rw [readTargeting, htargets]
      rfl
    have hargs : readArgs ((downloadPieces updatevm).map Piece.action)
        = (downloadLine updatevm).args := rfl
    rw [readVmUpdate, htargeting, hargs]
    rfl
  rw [← hread]
  refine parseVmUpdate_pieces rfl ?_ rfl
  rw [downloadPieces, List.forall_mem_cons, List.forall_mem_cons]
  refine ⟨rfl, ?_, ?_⟩
  · rw [isReadable, Bool.and_eq_true]
    exact ⟨rfl, by simpa using hname.head?_ne⟩
  · exact List.all_eq_true.mp (by decide +kernel)

/-- The command line of the installation. -/
theorem parse_install (default : Int) {words : List String}
    (hwords : UpdateCall.updateDom0.vmUpdateWords = some words) :
    parseVmUpdate default words = .ok installLine := by
  cases hwords
  have hread : readVmUpdate (installPieces.map Piece.action) = installLine := by decide +kernel
  rw [← hread]
  exact parseVmUpdate_pieces (by decide +kernel) (List.all_eq_true.mp (by decide +kernel)) (by decide +kernel)

/-! ## The targets -/

/-- A text without commas is a single name. -/
theorem splitOnChar_comma {name : String} (h : ',' ∉ name.toList) : splitOnChar ',' name = [name] := by
  have hnot : ∀ c ∈ name.toList, (c == ',') = false := by
    intro c hc
    rw [beq_eq_false_iff_ne]
    rintro rfl
    exact h hc
  rw [splitOnChar, List.splitOn_eq_splitOnP, List.splitOnP_eq_singleton hnot, List.map_singleton,
    String.ofList_toList]

/-- The name of a qube holds no comma, and is not empty. -/
theorem QubeName.comma_notMem {name : String} (h : QubeName name) : ',' ∉ name.toList ∧ name ≠ "" := by
  obtain ⟨c, rest, heq, halpha, hrest⟩ := h
  constructor
  · rw [heq]
    intro hmem
    rcases List.mem_cons.mp hmem with rfl | hmem
    · cases halpha
    · rcases hrest _ hmem with h | h | h | h <;> cases h
  · rintro rfl
    cases heq

/-- With one name only, and without conditions, the target is the qube of this name. -/
theorem getTargets_single {app : QubesApp} {features : Features} {clock : Clock} {args : TargetingArgs}
    {selected : List SystemDomain} (hname : QubeName args.targets)
    (hclasses : args.all = false ∧ args.templates = false ∧ args.standalones = false ∧ args.apps = false)
    (hskip : args.skip = "") (hforce : args.forceUpdate = true)
    (h : (getTargets app features clock args).2 = .ok selected) :
    ∃ vm ∈ app.domains, vm.name = args.targets ∧ selected = [vm] := by
  obtain ⟨hcomma, hne⟩ := hname.comma_notMem
  obtain ⟨haccepted, -, -, rfl⟩ := getTargets_eq_ok.mp h
  have hnames : targetNames args = [args.targets] := splitOnChar_comma hcomma
  have hclass : classTargets app args = [] := by
    simp [classTargets, hclasses, hne]
  have hskipped : toSkip args = [""] := by
    rw [toSkip, hskip]
    decide
  -- exactly one domain has the name
  have hlength := haccepted hne
  rw [hnames, List.length_singleton, eq_comm, List.length_eq_one_iff] at hlength
  obtain ⟨vm, hvm⟩ := hlength
  have hmem : vm ∈ namedDomains app args := by
    rw [hvm]
    exact List.mem_singleton_self vm
  obtain ⟨hdomain, hnamed⟩ := List.mem_filter.mp hmem
  have hvmName : vm.name = args.targets := by simpa [hnames] using hnamed
  refine ⟨vm, hdomain, hvmName, ?_⟩
  have hcandidates : candidates app args = [vm] := by
    rw [candidates, hclass, if_pos hne, hvm, hskipped]
    simp [hvmName, hne]
  rw [hcandidates]
  simp [selects, hforce, hne]

/-! ## The calls of the script -/

/-- A download with progress is one in the UpdateVM of the system. -/
def DownloadsIn (sys : System) (e : UpdateEvent) : Prop :=
  ∀ updatevm, e.call = .downloadWithProgress updatevm → updatevm = sys.updatevm

/-- Any other call is no download in a qube. -/
theorem downloadsIn_of_not {sys : System} {e : UpdateEvent} (h : isDownload e = false) :
    DownloadsIn sys e := by
  rintro updatevm hcall
  obtain ⟨call, reply⟩ := e
  cases hcall
  cases h

/-- The download is one in the UpdateVM. -/
theorem downloadsIn_download (sys : System) (o : Options) (old : Bool) :
    Emits (DownloadsIn sys) (download sys o old) := by
  have hrun : ∀ argv, Emits (DownloadsIn sys) (runOrExit argv) := fun argv =>
    (part_runOrExit (P := Plain) fun _ => rfl).emits.mono fun _ h =>
      downloadsIn_of_not (isDownload_of_plain h)
  rw [download]
  split
  · refine emits_bind (hrun _) fun _ => emits_bind (hrun _) fun _ =>
      emits_bind (emits_request fun _ => ?_) fun status => emits_bind (emits_setRetcode _) fun _ => ?_
    · rintro updatevm ⟨⟩
      rfl
    split
    · exact emits_exit _
    split
    · exact emits_exit _
    · exact emits_bind (hrun _) fun _ => hrun _
  · refine emits_bind (part_areTtys.emits.mono fun _ h => downloadsIn_of_not (isDownload_of_plain h))
      fun ttys => ?_
    split
    · refine emits_bind (emits_request fun _ => ?_) fun _ => emits_setRetcode _
      rintro updatevm ⟨⟩
    · refine emits_bind (emits_request fun _ => ?_) fun _ => emits_setRetcode _
      rintro updatevm ⟨⟩

/-- All downloads of a run are in the UpdateVM. -/
theorem downloadsIn_script (sys : System) (args : List String) :
    Emits (DownloadsIn sys) (script sys args) := by
  have hupdate : ∀ o, Emits (DownloadsIn sys) (updateDom0 sys o) := by
    intro o
    rw [updateDom0]
    split
    · split
      · exact emits_exit _
      · refine emits_bind (emits_request fun _ => ?_) fun _ => emits_exit _
        rintro updatevm ⟨⟩
    split
    · exact emits_exit _
    refine emits_bind ((part_prepare sys o).emits.mono fun _ h =>
      downloadsIn_of_not (isDownload_of_plain h)) fun guiapp => ?_
    split
    · exact emits_throw
    · exact emits_bind (downloadsIn_download sys o _) fun _ => emits_bind (emits_checkDownload o _)
        fun _ => (isDownload_applyUpdates sys o guiapp).mono fun _ => downloadsIn_of_not
  rw [script]
  split
  · exact emits_exit _
  split
  · exact emits_exit _
  split
  · exact emits_exit _
  · exact hupdate _

/-! ## The nested updates -/

/-- The target of a nested update. -/
def nestedTarget (sys : System) : UpdateCall → String
  | .updateDom0 => "dom0"
  | _ => sys.updatevm

/-- The agent of a nested update. -/
def nestedStart (thisDir : String) : UpdateCall → List String × Option String
  | .updateDom0 =>
      (["/usr/bin/python3", dom0Entrypoint thisDir, "--log", "DEBUG", "--no-refresh", "--show-output",
        "--just-print-progress"], none)
  | _ =>
      (["fakeroot", "/usr/bin/python3", qubeEntrypoint, "--log", "INFO", "--no-cleanup",
        "--download-only", "--show-output", "--just-print-progress"], some "user")

/-- The names of dom0 and of the UpdateVM. -/
structure Named (sys : System) (app : QubesApp) : Prop where
  /-- The name of a qube. -/
  updatevm : QubeName sys.updatevm
  /-- The UpdateVM is not dom0. -/
  ne : sys.updatevm ≠ "dom0"
  /-- The only qube with the class of dom0 has its name. -/
  admin : ∀ vm ∈ app.domains, vm.name = "dom0" → vm.klass = .adminVM

/-- What a nested update is read as. -/
theorem parseVmUpdate_nested (default : Int) {sys : System} (hname : QubeName sys.updatevm)
    {e : UpdateEvent} (he : DownloadsIn sys e) {words : List String}
    (hwords : e.call.vmUpdateWords = some words) :
    (e.call = .updateDom0 ∧ parseVmUpdate default words = .ok installLine) ∨
      (e.call = .downloadWithProgress sys.updatevm
        ∧ parseVmUpdate default words = .ok (downloadLine sys.updatevm)) := by
  cases hcall : e.call with
  | updateDom0 =>
      rw [hcall] at hwords
      exact Or.inl ⟨rfl, parse_install default hwords⟩
  | downloadWithProgress updatevm =>
      obtain rfl := he updatevm hcall
      rw [hcall] at hwords
      exact Or.inr ⟨rfl, parse_download default hname hwords⟩
  | _ =>
      rw [hcall] at hwords
      cases hwords

/-- What a nested update starts, once its targets have been selected. -/
theorem nested_start {sys : System} {app : QubesApp} (hnamed : Named sys app) {default : Int}
    {e : UpdateEvent} (he : DownloadsIn sys e) {words : List String}
    (hwords : e.call.vmUpdateWords = some words) {line : VmUpdateLine}
    (hline : parseVmUpdate default words = .ok line) {features : Features} {clock : Clock} {limit : Int}
    {selected : List SystemDomain}
    (hselected : (getTargets app features clock (line.selection limit)).2 = .ok selected) :
    ∃ vm, selected = [vm] ∧ vm.name = nestedTarget sys e.call ∧ line.args.dryRun = false ∧
      line.args.log ≠ "--download-only" ∧ ∀ thisDir,
        agentStart thisDir vm.toQube line.args line.args.showProgress (vm.klass.batch.dom0 line.args)
          = nestedStart thisDir e.call := by
  rcases parseVmUpdate_nested default hnamed.updatevm he hwords with ⟨hcall, hparse⟩ | ⟨hcall, hparse⟩
  · obtain rfl := Except.ok.inj (hparse.symm.trans hline)
    have hdom0 : QubeName "dom0" := qubeName_of_all rfl (by decide +kernel)
    obtain ⟨vm, hmem, hvm, rfl⟩ := getTargets_single hdom0 ⟨rfl, rfl, rfl, rfl⟩ rfl rfl hselected
    have hklass := hnamed.admin vm hmem hvm
    refine ⟨vm, rfl, by rw [hvm, hcall]; rfl, rfl, by decide, fun thisDir => ?_⟩
    rw [agentStart, if_pos hklass, hcall, hklass]
    rfl
  · obtain rfl := Except.ok.inj (hparse.symm.trans hline)
    obtain ⟨vm, hmem, hvm, rfl⟩ := getTargets_single hnamed.updatevm ⟨rfl, rfl, rfl, rfl⟩ rfl rfl hselected
    have hklass : vm.klass ≠ .adminVM := by
      intro hadmin
      refine hnamed.ne ?_
      rw [← vm.adminName hadmin, hvm]
      rfl
    refine ⟨vm, rfl, by rw [hvm, hcall]; rfl, rfl, show "INFO" ≠ "--download-only" by decide,
      fun thisDir => ?_⟩
    rw [agentStart, if_neg hklass, hcall]
    rfl

/-- Each nested update of a run is accepted; it has a single target, the UpdateVM or dom0; and the only
agent that it starts is the entrypoint for a download or for the installation of ready updates.  So no
nested update runs `qubes-dom0-update` once more. -/
theorem nested_updates {sys : System} {app : QubesApp} (hnamed : Named sys app) {args : List String}
    {v v' : Vars} {t : List UpdateEvent} {r : Except Ending Unit}
    (hrun : Runs (script sys args) v t r v') {e : UpdateEvent} (he : e ∈ t) {words : List String}
    (hwords : e.call.vmUpdateWords = some words) (default : Int) :
    ∃ line, parseVmUpdate default words = .ok line ∧ ∀ features clock limit selected,
      (getTargets app features clock (line.selection limit)).2 = .ok selected →
      ∃ vm, selected = [vm] ∧ vm.name = nestedTarget sys e.call ∧
        ∀ thisDir, Emits (StartsOnly (nestedStart thisDir e.call))
          (updateQube thisDir vm.toQube line.args line.args.showProgress
            (vm.klass.batch.dom0 line.args)) := by
  have hdownloads := downloadsIn_script sys args _ _ _ _ hrun e he
  obtain ⟨line, hline⟩ : ∃ line, parseVmUpdate default words = .ok line := by
    rcases parseVmUpdate_nested default hnamed.updatevm hdownloads hwords with
      ⟨-, hparse⟩ | ⟨-, hparse⟩
    · exact ⟨_, hparse⟩
    · exact ⟨_, hparse⟩
  refine ⟨line, hline, fun features clock limit selected hselected => ?_⟩
  obtain ⟨vm, rfl, hname, -, hlog, hstart⟩ := nested_start hnamed hdownloads hwords hline hselected
  refine ⟨vm, rfl, hname, fun thisDir => ?_⟩
  rw [← hstart thisDir]
  exact startsAgent_updateQube hlog

/-- The UpdateVM of the usual system. -/
def firewall : SystemDomain := ⟨⟨"sys-firewall", .appVM, by decide⟩, false, true⟩

/-- The command line of a download by `sys-firewall` is accepted, and targets this qube only. -/
theorem nested_updates_firewall :
    ∃ line, parseVmUpdate 7 ["--force-update", "--targets", "sys-firewall", "--signal-no-updates",
      "--just-print-progress", "--display-name", "dom0", "--download-only", "--no-cleanup",
      "--show-output", "--log=INFO"] = .ok line ∧ ∀ features clock limit selected,
      (getTargets ⟨[firewall], List.nodup_singleton _⟩ features clock (line.selection limit)).2
        = .ok selected →
      ∃ vm, selected = [vm] ∧ vm.name = "sys-firewall" ∧ ∀ thisDir,
        Emits (StartsOnly (nestedStart thisDir (.downloadWithProgress "sys-firewall")))
          (updateQube thisDir vm.toQube line.args line.args.showProgress
            (vm.klass.batch.dom0 line.args)) := by
  have hnamed : Named usualSystem ⟨[firewall], List.nodup_singleton _⟩ := {
    updatevm := qubeName_of_all rfl (by decide +kernel)
    ne := by decide
    admin := by
      intro vm hmem hname
      rw [List.mem_singleton.mp hmem] at hname
      exact absurd hname (by decide) }
  have hrun := runs_play (checkingSystem 100) (script usualSystem ["--just-print-progress"]) ⟨none, false⟩
  exact nested_updates (e := ⟨.downloadWithProgress "sys-firewall", (0 : Nat)⟩) hnamed hrun
    (@List.mem_of_getElem? _ _ 14 _ rfl) rfl 7

end Dom0Update

end QubesAdminLinux
