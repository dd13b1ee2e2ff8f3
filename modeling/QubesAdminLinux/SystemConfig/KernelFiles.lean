import QubesAdminLinux.Lib.Guarantees
import QubesAdminLinux.SystemConfig.BootableConfig
import QubesAdminLinux.SystemConfig.KernelInstall

/-! # The files that the boot configuration names

The hook can fail or be killed between any two of its commands.  It writes the files of a kernel before the
section that names them, and removes the section before the files, so that what can be loaded is there.

* **`Supplied`** — each section names only the files of its kernel, and they are there.
* **`works_kernelInstall`** — one run keeps this at any moment.
* **`boots_of_installRuns`** — what is left after any number of runs, wherever they have been stopped. -/

namespace QubesAdminLinux

namespace XenCfg

open Proc

/-! ## The files of the sections -/

/-- The file that a line names. -/
def fileOf (line : Line) : Option Line :=
  if beginsWith "kernel=" line then some ((line.drop "kernel=".length).takeWhile (· ≠ ' '))
  else if beginsWith "ramdisk=" line then some ((line.drop "ramdisk=".length).takeWhile (· ≠ ' '))
  else none

/-- The two files of a kernel. -/
def IsFileOf (kver : KernelVersion) (file : Line) : Prop := file = kernelFile kver ∨ file = ramdiskFile kver

/-- Each section names only the files of its own kernel, and they are there. -/
def Supplied (complete : Line → Bool) (lines : List Line) : Prop :=
  ∀ sec ∈ sections isHeader lines, ∀ line ∈ sec.body, ∀ file, fileOf line = some file →
    ∃ kver, sec.header = header kver.text ∧ IsFileOf kver file ∧ complete file = true

/-- There is no blank in the version of a kernel. -/
theorem blank_notMem_text (kver : KernelVersion) : ' ' ∉ kver.text := by
  intro hmem
  have hplain := List.all_eq_true.mp kver.plain ' ' hmem
  exact absurd hplain (by decide)

/-- So there is none in the names of its files. -/
theorem blank_notMem_of_isFileOf {kver : KernelVersion} {file : Line} (h : IsFileOf kver file) :
    ' ' ∉ file := by
  have hkernel : ' ' ∉ "vmlinuz-".toList := by decide +kernel
  have hramdisk : ' ' ∉ "initramfs-".toList := by decide +kernel
  have himage : ' ' ∉ ".img".toList := by decide +kernel
  intro hmem
  rcases h with rfl | rfl
  · rcases List.mem_append.mp hmem with hmem | hmem
    · exact hkernel hmem
    · exact blank_notMem_text kver hmem
  · rcases List.mem_append.mp hmem with hmem | hmem
    · exact hramdisk hmem
    rcases List.mem_append.mp hmem with hmem | hmem
    · exact blank_notMem_text kver hmem
    · exact himage hmem

/-- Two kernels have no file in common. -/
theorem text_eq_of_isFileOf {kver kver' : KernelVersion} {file : Line} (h : IsFileOf kver file)
    (h' : IsFileOf kver' file) : kver.text = kver'.text := by
  rcases h with rfl | rfl
  · rcases h' with h' | h'
    · exact List.append_cancel_left h'
    · cases congrArg List.head? h'
  · rcases h' with h' | h'
    · cases congrArg List.head? h'
    · exact List.append_cancel_right (List.append_cancel_left h')

/-- The name of a file ends at the first space. -/
theorem takeWhile_file {file : Line} (h : ' ' ∉ file) (rest : Line) :
    (file ++ rest.dropWhile (· ≠ ' ')).takeWhile (· ≠ ' ') = file := by
  have hpos : ∀ c ∈ file, decide (c ≠ ' ') = true := by
    intro c hc
    rw [decide_eq_true_eq]
    rintro rfl
    exact h hc
  have hrest : (rest.dropWhile (· ≠ ' ')).takeWhile (· ≠ ' ') = [] := by
    induction rest with
    | nil => rfl
    | cons c rest ih =>
        by_cases hc : c = ' '
        · simp [hc]
        · simpa [hc] using ih
  rw [List.takeWhile_append_of_pos hpos, hrest, List.append_nil]

/-- The files of a new section. -/
theorem isFileOf_copiedLine {kver : KernelVersion} {line file : Line}
    (h : fileOf (copiedLine kver line) = some file) : IsFileOf kver file := by
  cases hkernel : beginsWith "kernel=" line with
  | true =>
      obtain ⟨rest, rfl⟩ := beginsWith_iff.mp hkernel
      rw [copiedLine_kernel] at h
      have hfile : fileOf ("kernel=".toList ++ (kernelFile kver ++ rest.dropWhile (· ≠ ' ')))
          = some ((kernelFile kver ++ rest.dropWhile (· ≠ ' ')).takeWhile (· ≠ ' ')) := rfl
      rw [hfile, takeWhile_file (blank_notMem_of_isFileOf (Or.inl rfl))] at h
      exact Or.inl (Option.some.inj h).symm
  | false =>
  cases hramdisk : beginsWith "ramdisk=" line with
  | true =>
      obtain ⟨rest, rfl⟩ := beginsWith_iff.mp hramdisk
      rw [copiedLine_ramdisk] at h
      have hfile : fileOf ("ramdisk=".toList ++ (ramdiskFile kver ++ rest.dropWhile (· ≠ ' ')))
          = some ((ramdiskFile kver ++ rest.dropWhile (· ≠ ' ')).takeWhile (· ≠ ' ')) := rfl
      rw [hfile, takeWhile_file (blank_notMem_of_isFileOf (Or.inr rfl))] at h
      exact Or.inr (Option.some.inj h).symm
  | false =>
      rw [copiedLine_other hkernel hramdisk, fileOf, hkernel, hramdisk] at h
      cases h

/-- Changing the default changes no file that is named. -/
theorem fileOf_defaultLine (kver : KernelVersion) (line : Line) :
    fileOf (defaultLine kver line) = fileOf line := by
  rw [defaultLine]
  split
  · rename_i hdefault
    obtain ⟨rest, rfl⟩ := beginsWith_iff.mp hdefault
    rfl
  · rfl

variable {complete : Line → Bool} {lines : List Line} {kver : KernelVersion}

/-- A new section is supplied when the files are there. -/
theorem Supplied.appendDefault (h : Supplied complete lines) (hkernel : complete (kernelFile kver) = true)
    (hramdisk : complete (ramdiskFile kver) = true) : Supplied complete (appendDefault kver lines) := by
  cases hnamed : namedLater false [] lines with
  | false =>
      rw [appendDefault_eq_self hnamed]
      exact h
  | true =>
      obtain ⟨sec, hsec, happend, hbody⟩ := @appendDefault_eq kver lines hnamed
      rw [happend]
      intro sec' hsec' line hline file hfile
      rw [sections_new hbody] at hsec'
      rcases List.mem_append.mp hsec' with hold | hnew
      · exact h sec' hold line hline file hfile
      · cases List.mem_singleton.mp hnew
        obtain ⟨line', -, rfl⟩ := List.mem_map.mp hline
        have hown := isFileOf_copiedLine hfile
        refine ⟨kver, rfl, hown, ?_⟩
        rcases hown with rfl | rfl
        · exact hkernel
        · exact hramdisk

/-- Another default names no other files. -/
theorem Supplied.changeDefault (h : Supplied complete lines) (kver : KernelVersion) :
    Supplied complete (changeDefault kver lines) := by
  intro sec' hsec' line' hline' file hfile
  rw [sections_changeDefault] at hsec'
  obtain ⟨sec, hsec, rfl⟩ := List.mem_map.mp hsec'
  obtain ⟨line, hline, rfl⟩ := List.mem_map.mp hline'
  rw [fileOf_defaultLine] at hfile
  obtain ⟨kver', hheader, hown⟩ := h sec hsec line hline file hfile
  exact ⟨kver', defaultLine_eq_header.mpr hheader, hown⟩

/-- Without a section, no other files are needed. -/
theorem Supplied.remove (h : Supplied complete lines) (kver : KernelVersion) :
    Supplied complete (remove kver lines) := by
  intro sec hsec
  rw [sections_remove] at hsec
  exact h sec (List.mem_of_mem_filter hsec)

/-- A section that has been removed is not there any more. -/
theorem header_notMem_remove (kver : KernelVersion) (lines : List Line) :
    header kver.text ∉ remove kver lines := by
  intro hmem
  obtain ⟨sec, hsec, hheader⟩ := exists_section hmem (isHeader_header kver.text)
  rw [sections_remove, List.mem_filter] at hsec
  simp [hheader] at hsec

/-- A file of a kernel is written to its end, or there is no section for this kernel. -/
theorem Supplied.update (h : Supplied complete lines) {file : Line} (hfile : IsFileOf kver file)
    {written : Bool} (hwritten : written = true ∨ header kver.text ∉ lines) :
    Supplied (Function.update complete file written) lines := by
  intro sec hsec line hline file' hnames
  obtain ⟨kver', hheader, hown, hcomplete⟩ := h sec hsec line hline file' hnames
  refine ⟨kver', hheader, hown, ?_⟩
  by_cases hsame : file' = file
  · subst hsame
    rw [Function.update_self]
    refine hwritten.resolve_right fun hnone => hnone ?_
    rw [text_eq_of_isFileOf hfile hown, ← hheader]
    exact (header_mem hsec).1
  · rw [Function.update_of_ne hsame, hcomplete]

/-! ## What holds while the script runs -/

/-- A configuration during a call, and before it. -/
def Follows (hook : Option Hook) (cfg cfg' : Option (List Line)) : Prop :=
  cfg' = cfg ∨ ∃ h lines lines', hook = some h ∧ cfg = some lines ∧ cfg' = some lines' ∧
    lines' ∈ h.contents lines

/-- What the sections name is there, in all directories. -/
def AllSupplied (esp : Esp) : Prop :=
  ∀ dir lines, (esp dir).cfg = some lines → Supplied (esp dir).complete lines

/-- What holds at any moment of a call that began with `esp₀`. -/
structure Held (hook : Option Hook) (esp₀ esp : Esp) : Prop where
  /-- What can be loaded is there. -/
  supplied : AllSupplied esp
  /-- The configurations have the contents of the hook. -/
  follows : ∀ dir, Follows hook (esp₀ dir).cfg (esp dir).cfg

/-- A point of the script in a directory with some configuration, where some files of the kernel have been
written, or removed. -/
structure Point (hook : Option Hook) (esp₀ : Esp) (dir : String) (lines : List Line) (written : Bool)
    (files : List Line) (esp : Esp) : Prop where
  /-- The invariant. -/
  held : Held hook esp₀ esp
  /-- The configuration. -/
  cfg : (esp dir).cfg = some lines
  /-- The files. -/
  files : ∀ file ∈ files, (esp dir).complete file = written

variable {hook : Option Hook} {esp₀ esp : Esp} {dir : String} {files : List Line} {written : Bool}

/-- At the beginning, nothing has been lost. -/
theorem held_start (hsupplied : AllSupplied esp₀) : Held hook esp₀ esp₀ :=
  ⟨hsupplied, fun _ => Or.inl rfl⟩

/-- What has to be shown when a directory changes. -/
theorem Held.update (h : Held hook esp₀ esp) {now : BootDir}
    (hsupplied : ∀ lines, now.cfg = some lines → Supplied now.complete lines)
    (hfollows : Follows hook (esp₀ dir).cfg now.cfg) : Held hook esp₀ (Function.update esp dir now) := by
  constructor
  · intro other lines hlines
    by_cases hother : other = dir
    · subst hother
      rw [Function.update_self] at hlines ⊢
      exact hsupplied lines hlines
    · rw [Function.update_of_ne hother] at hlines ⊢
      exact h.supplied other lines hlines
  · intro other
    by_cases hother : other = dir
    · subst hother
      rwa [Function.update_self]
    · rw [Function.update_of_ne hother]
      exact h.follows other

namespace Point

/-- The files that the sections name are complete. -/
theorem supplied (h : Point hook esp₀ dir lines written files esp) : Supplied (esp dir).complete lines :=
  h.held.supplied dir lines h.cfg

/-- A file of a kernel is written or removed. -/
theorem setFile (h : Point hook esp₀ dir lines written files esp) {file : Line}
    (hfile : IsFileOf kver file) {complete : Bool}
    (hcomplete : complete = true ∨ header kver.text ∉ lines) :
    Held hook esp₀ (esp.setFile dir file complete) ∧
      (complete = written →
        Point hook esp₀ dir lines written (file :: files) (esp.setFile dir file complete)) := by
  have hheld : Held hook esp₀ (esp.setFile dir file complete) := by
    refine h.held.update (fun lines' hlines' => ?_) (h.held.follows dir)
    cases Option.some.inj (hlines'.symm.trans h.cfg)
    exact h.supplied.update hfile hcomplete
  refine ⟨hheld, fun hwritten => ⟨hheld, ?_, fun file' hfile' => ?_⟩⟩
  · rw [Esp.setFile_self]
    exact h.cfg
  · rw [Esp.setFile_self]
    change Function.update (esp dir).complete file complete file' = written
    by_cases hsame : file' = file
    · rw [hsame, Function.update_self, hwritten]
    · rw [Function.update_of_ne hsame]
      exact h.files file' ((List.mem_cons.mp hfile').resolve_left hsame)

/-- The configuration is replaced. -/
theorem setCfg (h : Point hook esp₀ dir lines written files esp) {lines' : List Line}
    (hsupplied : Supplied (esp dir).complete lines')
    (hfollows : Follows hook (esp₀ dir).cfg (some lines')) :
    Point hook esp₀ dir lines' written files (esp.setCfg dir (some lines')) := by
  refine ⟨h.held.update (fun lines'' hlines'' => ?_) hfollows, by rw [Esp.setCfg_self], ?_⟩
  · cases Option.some.inj hlines''
    exact hsupplied
  · rw [Esp.setCfg_self]
    exact h.files

/-- `xen.cfg.new` is not read by the loader. -/
theorem setNew (h : Point hook esp₀ dir lines written files esp) (cfgNew : Option (List Line)) :
    Point hook esp₀ dir lines written files (esp.setNew dir cfgNew) ∧
      (esp.setNew dir cfgNew dir).cfgNew = cfgNew := by
  rw [Esp.setNew_self]
  refine ⟨⟨h.held.update (h.held.supplied dir) (h.held.follows dir), ?_, ?_⟩, rfl⟩
  · rw [Esp.setNew_self]
    exact h.cfg
  · rw [Esp.setNew_self]
    exact h.files

end Point

/-- The script while it works: the invariant holds at any moment. -/
abbrev Works (hook : Option Hook) (esp₀ : Esp) {α : Type} (P : Esp → Prop) (x : HookM α)
    (Q : α → Esp → Prop) : Prop := Guarantees espMemory (Held hook esp₀) P x Q

/-- A failure ends the script where it is. -/
theorem works_orExit {P : Esp → Prop} {status : Nat} (hI : ∀ esp, P esp → Held hook esp₀ esp) :
    Works hook esp₀ P (orExit status) fun _ esp => P esp ∧ status = 0 := by
  rw [orExit]
  split
  · exact guarantees_throw hI
  · rename_i hstatus
    exact guarantees_pure hI fun esp h => ⟨h, not_not.mp hstatus⟩

/-- A command that has to succeed. -/
theorem works_command {c : HookCall} {status : c.Reply → Nat} {P Q : Esp → Prop}
    (hI : ∀ esp, P esp → Held hook esp₀ esp)
    (h : ∀ esp a, P esp → espMemory.allows esp ⟨c, a⟩ →
      Held hook esp₀ (esp.answer ⟨c, a⟩) ∧ (status a = 0 → Q (esp.answer ⟨c, a⟩))) :
    Works hook esp₀ P (command c status) fun _ => Q := by
  refine guarantees_request_bind (R := fun a esp => Held hook esp₀ esp ∧ (status a = 0 → Q esp)) hI
    (fun esp a hP hallows => ⟨(h esp a hP hallows).1, h esp a hP hallows⟩) fun a => ?_
  exact (works_orExit fun esp h => h.1).mono (fun _ => id) fun _ esp h => h.1.2 h.2

/-! ## Adding a kernel -/

/-- A command that writes a file of a kernel. -/
theorem Point.write (h : Point hook esp₀ dir lines true files esp) {file : Line}
    (hfile : IsFileOf kver file) {status : Nat} {complete : Bool}
    (hallows : (decide (status ≠ 0) || complete) = true)
    (hspoils : (!complete && (esp dir).hasSection kver) = false) :
    Held hook esp₀ (esp.setFile dir file complete) ∧
      (status = 0 → Point hook esp₀ dir lines true (file :: files) (esp.setFile dir file complete)) := by
  have hwritten : complete = true ∨ header kver.text ∉ lines := by
    cases complete with
    | true => exact Or.inl rfl
    | false =>
        have hnone : ∀ line ∈ lines, line ≠ header kver.text := by
          simpa [BootDir.hasSection, h.cfg] using hspoils
        exact Or.inr fun hmem => hnone _ hmem rfl
  obtain ⟨hheld, hpoint⟩ := h.setFile hfile hwritten
  refine ⟨hheld, fun hstatus => hpoint ?_⟩
  simpa [hstatus] using hallows

/-- The initial ramdisk is copied after the kernel. -/
theorem works_addRamdisk : Works hook esp₀ (Point hook esp₀ dir lines true files) (addRamdisk dir kver)
    fun _ => Point hook esp₀ dir lines true (ramdiskFile kver :: files) := by
  refine guarantees_request_bind (R := fun _ => Point hook esp₀ dir lines true files)
    (fun esp h => h.held) (fun esp a h _ => ⟨h.held, h⟩) fun present => ?_
  change Bool at present
  refine guarantees_ite (fun _ => works_command (fun esp h => h.held) ?_)
    fun _ => works_command (fun esp h => h.held) ?_
  · rintro esp ⟨status, complete⟩ h ⟨hallows, hspoils⟩
    exact h.write (Or.inr rfl) hallows hspoils
  · rintro esp ⟨status, complete⟩ h ⟨hallows, hspoils⟩
    exact h.write (Or.inr rfl) hallows hspoils

/-- A section is appended as a whole, or not at all. -/
theorem works_appendSection (hword : isOneWord dir = true)
    (hfollows : Follows hook (esp₀ dir).cfg (some (appendDefault kver lines))) :
    Works hook esp₀ (Point hook esp₀ dir lines true [ramdiskFile kver, kernelFile kver])
      (command (.appendSection dir kver) Prod.fst)
      fun _ => Point hook esp₀ dir (appendDefault kver lines) true [ramdiskFile kver, kernelFile kver] := by
  refine works_command (fun esp h => h.held) ?_
  rintro esp ⟨status, text⟩ h ⟨hallows, hspoils⟩
  have hwhole : status = 0 → text = newSection kver lines := by
    simpa [Esp.allows, hword, h.cfg, or_iff_not_imp_left] using hallows
  have hpart : text = [] ∨ text = newSection kver lines := by
    simpa [Esp.spoils, h.cfg, or_iff_not_imp_left] using hspoils
  have hnext : esp.answer ⟨.appendSection dir kver, (status, text)⟩ =
      esp.setCfg dir (some (lines ++ text)) := by
    simp only [Esp.answer, h.cfg, Option.map_some]
  have hsection : text = newSection kver lines → Point hook esp₀ dir (appendDefault kver lines) true
      [ramdiskFile kver, kernelFile kver] (esp.setCfg dir (some (lines ++ text))) := by
    rintro rfl
    exact h.setCfg (h.supplied.appendDefault (h.files _ (by simp)) (h.files _ (by simp))) hfollows
  rw [hnext]
  refine ⟨?_, fun hstatus => hsection (hwhole hstatus)⟩
  rcases hpart with rfl | hall
  · -- nothing has been written
    rw [List.append_nil]
    exact (h.setCfg h.supplied (h.cfg ▸ h.held.follows dir)).held
  · exact (hsection hall).held

/-- The default is changed, or `sed` fails and leaves the file as it is. -/
theorem works_rewriteDefault
    (hfollows : Follows hook (esp₀ dir).cfg (some (changeDefault kver lines))) :
    Works hook esp₀ (Point hook esp₀ dir lines written files) (command (.rewriteDefault dir kver) id)
      fun _ => Point hook esp₀ dir (changeDefault kver lines) written files := by
  refine works_command (fun esp h => h.held) fun esp status h _ => ?_
  change Nat at status
  by_cases hstatus : status = 0
  · have hnext : esp.answer ⟨.rewriteDefault dir kver, status⟩ =
        esp.setCfg dir (some (changeDefault kver lines)) := by
      simp only [Esp.answer, if_pos hstatus, h.cfg, Option.map_some]
    have hpoint := h.setCfg (h.supplied.changeDefault kver) hfollows
    rw [hnext]
    exact ⟨hpoint.held, fun _ => hpoint⟩
  · have hnext : esp.answer ⟨.rewriteDefault dir kver, status⟩ = esp := by
      simp only [Esp.answer, if_neg hstatus]
    rw [hnext]
    exact ⟨h.held, fun hzero => absurd hzero hstatus⟩

/-- The section is written when both files are there. -/
theorem works_addSection (hword : isOneWord dir = true) (hstart : (esp₀ dir).cfg = some lines) :
    Works (some (.add kver)) esp₀
      (Point (some (.add kver)) esp₀ dir lines true [ramdiskFile kver, kernelFile kver])
      (addSection dir kver) fun _ esp => ∃ lines', ((Hook.add kver).contents lines).getLast? = some lines' ∧
        Point (some (.add kver)) esp₀ dir lines' true [ramdiskFile kver, kernelFile kver] esp := by
  refine guarantees_request_bind (R := fun found esp => let found : Nat := found
      Point (some (.add kver)) esp₀ dir lines true [ramdiskFile kver, kernelFile kver] esp ∧
        decide (found = 0) = mentions kver lines)
    (fun esp h => h.held) (fun esp found h hallows => ⟨h.held, h, ?_⟩) fun found => ?_
  · have hfound := hallows.1
    simp only [Esp.allows, hword, h.cfg, Bool.not_true, Bool.false_or, beq_iff_eq] at hfound
    exact hfound
  change Nat at found
  refine guarantees_ite (fun hfound => ?_) fun hfound => guarantees_pure (fun esp h => h.1.held) ?_
  · -- what `Hook.contents` says that the commands write
    by_cases hmentions : mentions kver lines = true
    · intro esp h
      exact absurd (of_decide_eq_true (h.2.trans hmentions)) hfound
    have hcontents : (Hook.add kver).contents lines =
        [lines, appendDefault kver lines, changeDefault kver (appendDefault kver lines)] := by
      rw [Hook.contents, if_neg hmentions]
    have hfollows : ∀ lines' ∈ (Hook.add kver).contents lines,
        Follows (some (.add kver)) (esp₀ dir).cfg (some lines') := fun lines' hmem =>
      Or.inr ⟨.add kver, lines, lines', rfl, hstart, rfl, hmem⟩
    refine guarantees_bind
      (Q := fun _ => Point (some (.add kver)) esp₀ dir (appendDefault kver lines) true
        [ramdiskFile kver, kernelFile kver])
      ((works_appendSection hword (hfollows _ (by simp [hcontents]))).mono (fun esp h => h.1)
        fun _ _ => id) fun _ =>
      (works_rewriteDefault (hfollows _ (by simp [hcontents]))).mono (fun _ => id)
        fun _ esp h => ⟨_, by rw [hcontents]; rfl, h⟩
  · intro esp h
    have hmentions : mentions kver lines = true := by
      rw [← h.2]
      simpa using hfound
    exact ⟨lines, by rw [Hook.contents, if_pos hmentions]; rfl, h.1⟩

/-- What a call leaves in its directory if it comes to its end. -/
structure Completed (hook : Hook) (before now : BootDir) : Prop where
  /-- The last contents. -/
  cfg : ∃ lines lines', before.cfg = some lines ∧ (hook.contents lines).getLast? = some lines' ∧
    now.cfg = some lines'
  /-- The files of the kernel have been written, or removed. -/
  files : ∀ file, IsFileOf hook.kver file → now.complete file = decide (hook = .add hook.kver)

/-- A kernel is added as a whole. -/
theorem works_addKernel (hword : isOneWord dir = true) (hstart : (esp₀ dir).cfg = some lines) :
    Works (some (.add kver)) esp₀ (Point (some (.add kver)) esp₀ dir lines true []) (addKernel dir kver)
      fun _ esp => Completed (.add kver) (esp₀ dir) (esp dir) := by
  refine guarantees_bind (Q := fun _ => Point (some (.add kver)) esp₀ dir lines true [kernelFile kver])
    (works_command (fun esp h => h.held) ?_) fun _ => guarantees_bind works_addRamdisk fun _ =>
      (works_addSection hword hstart).mono (fun _ => id) fun _ esp h => ?_
  · rintro esp ⟨status, complete⟩ h ⟨hallows, hspoils⟩
    exact h.write (Or.inl rfl) hallows hspoils
  · obtain ⟨lines', hlast, hpoint⟩ := h
    refine ⟨⟨lines, lines', hstart, hlast, hpoint.cfg⟩, fun file hfile => ?_⟩
    rw [Hook.kver, decide_eq_true rfl]
    rcases hfile with rfl | rfl
    · exact hpoint.files _ (by simp [Hook.kver])
    · exact hpoint.files _ (by simp [Hook.kver])

/-! ## Removing a kernel -/

/-- The section goes before the files. -/
theorem works_dropSection (hword : isOneWord dir = true) (hstart : (esp₀ dir).cfg = some lines) :
    Works (some (.remove kver)) esp₀ (Point (some (.remove kver)) esp₀ dir lines false [])
      (dropSection dir kver)
      fun _ => Point (some (.remove kver)) esp₀ dir (remove kver lines) false [] := by
  refine guarantees_request_bind (R := fun readable esp => let readable : Bool := readable
      Point (some (.remove kver)) esp₀ dir lines false [] esp ∧ readable = true)
    (fun esp h => h.held) (fun esp readable h hallows => ⟨h.held, h, ?_⟩) fun readable => ?_
  · have hreadable := hallows.1
    simp only [Esp.allows, hword, h.cfg, Bool.not_true, Bool.false_or] at hreadable
    exact beq_iff_eq.mp hreadable
  change Bool at readable
  refine guarantees_ite (fun _ => ?_) fun hnot =>
    guarantees_pure (fun esp h => h.1.held) fun esp h => absurd h.2 hnot
  have hfollows : Follows (some (.remove kver)) (esp₀ dir).cfg (some (remove kver lines)) :=
    Or.inr ⟨.remove kver, lines, _, rfl, hstart, rfl, by simp [Hook.contents]⟩
  refine guarantees_bind (Q := fun _ esp => Point (some (.remove kver)) esp₀ dir lines false [] esp ∧
      (esp dir).cfgNew = some (remove kver lines))
    (works_command (fun esp h => h.1.held) ?_) fun _ => works_command (fun esp h => h.1.held) ?_
  · rintro esp ⟨status, text⟩ h ⟨hallows, -⟩
    have hwhole : status = 0 → text = remove kver lines := by
      simpa [Esp.allows, hword, h.1.cfg, or_iff_not_imp_left] using hallows
    obtain ⟨hpoint, hnew⟩ := h.1.setNew (some text)
    refine ⟨hpoint.held, fun (hstatus : status = 0) => ⟨hpoint, ?_⟩⟩
    rw [← hwhole hstatus]
    exact hnew
  · intro esp status h _
    change Nat at status
    by_cases hstatus : status = 0
    · have hnext : esp.answer ⟨.moveNew dir, status⟩ =
          (esp.setCfg dir (some (remove kver lines))).setNew dir none := by
        simp only [Esp.answer, if_pos hstatus, h.2]
      rw [hnext]
      have hpoint := ((h.1.setCfg (h.1.supplied.remove kver) hfollows).setNew none).1
      exact ⟨hpoint.held, fun _ => hpoint⟩
    · have hnext : esp.answer ⟨.moveNew dir, status⟩ = esp := by
        simp only [Esp.answer, if_neg hstatus]
      rw [hnext]
      exact ⟨h.1.held, fun hzero => absurd hzero hstatus⟩

/-- A file is removed that no section names. -/
theorem works_removeFile {c : HookCall} {status : c.Reply → Nat} {file : Line} (hfile : IsFileOf kver file)
    (hanswer : ∀ (esp : Esp) a,
      esp.answer ⟨c, a⟩ = if status a = 0 then esp.setFile dir file false else esp) :
    Works hook esp₀ (Point hook esp₀ dir (remove kver lines) false files) (command c status)
      fun _ => Point hook esp₀ dir (remove kver lines) false (file :: files) := by
  refine works_command (fun esp h => h.held) fun esp a h _ => ?_
  rw [hanswer]
  split
  · obtain ⟨hheld, hpoint⟩ := h.setFile hfile (Or.inr (header_notMem_remove kver lines))
    exact ⟨hheld, fun _ => hpoint rfl⟩
  · rename_i hstatus
    exact ⟨h.held, fun hzero => absurd hzero hstatus⟩

/-- A kernel is removed as a whole. -/
theorem works_dropKernel (hword : isOneWord dir = true) (hstart : (esp₀ dir).cfg = some lines) :
    Works (some (.remove kver)) esp₀ (Point (some (.remove kver)) esp₀ dir lines false [])
      (dropKernel dir kver) fun _ esp => Completed (.remove kver) (esp₀ dir) (esp dir) := by
  refine guarantees_bind (works_dropSection hword hstart) fun _ => guarantees_bind
    (works_removeFile (Or.inr rfl) fun _ _ => rfl) fun _ => ?_
  refine (works_removeFile (Or.inl rfl) fun _ _ => rfl).mono (fun _ => id) fun _ esp h => ?_
  refine ⟨⟨lines, _, hstart, rfl, h.cfg⟩, fun file hfile => ?_⟩
  rw [Hook.kver, decide_eq_false (by rintro ⟨⟩)]
  rcases hfile with rfl | rfl
  · exact h.files _ (by simp [Hook.kver])
  · exact h.files _ (by simp [Hook.kver])

/-! ## Runs of the script -/

/-- The hook that is completed is the one that the script was called for. -/
theorem works_completed {h : Hook} {P : Esp → Prop} {x : HookM Unit}
    (hx : Works (some h) esp₀ P x fun _ esp => Completed h (esp₀ dir) (esp dir)) :
    Works (some h) esp₀ P x
      fun _ esp => ∀ hook, some h = some hook → ∃ dir, Completed hook (esp₀ dir) (esp dir) := by
  refine hx.mono (fun _ => id) fun _ esp hcompleted => ?_
  rintro hook ⟨⟩
  exact ⟨dir, hcompleted⟩

/-- The whole script, in whatever directory it works, as long as the path is one word.  A call that is no
hook does nothing. -/
theorem works_kernelInstall {cmd : String} (hsupplied : AllSupplied esp₀) :
    Works (calledHook cmd kver) esp₀ (fun esp => esp = esp₀) (kernelInstall cmd kver) fun _ esp =>
      ∀ hook, calledHook cmd kver = some hook → ∃ dir, Completed hook (esp₀ dir) (esp dir) := by
  have hheld : ∀ esp, esp = esp₀ → Held (calledHook cmd kver) esp₀ esp := by
    rintro esp rfl
    exact held_start hsupplied
  refine guarantees_request_bind (R := fun found esp => let found : List Line × Nat := found
      esp = esp₀ ∧ isOneWord (efiDirectory found.1) = true) hheld (fun esp found h hallows => ?_)
    fun found => guarantees_bind (works_orExit fun esp h => hheld esp h.1) fun _ => ?_
  · obtain ⟨entries, status⟩ := found
    exact ⟨hheld esp h, h, by simpa [Esp.spoils] using hallows.2⟩
  change List Line × Nat at found
  refine guarantees_request_bind (R := fun readable esp => let readable : Bool := readable
      esp = esp₀ ∧ isOneWord (efiDirectory found.1) = true ∧
        readable = (esp₀ (efiDirectory found.1)).cfg.isSome)
    (fun esp h => hheld esp h.1.1)
    (fun esp a h hallows => ⟨hheld esp h.1.1, h.1.1, h.1.2, h.1.1 ▸ beq_iff_eq.mp hallows.1⟩)
    fun readable => ?_
  change Bool at readable
  refine guarantees_ite (fun _ => guarantees_throw fun esp h => hheld esp h.1) fun hpresent => ?_
  -- there is a configuration in the directory
  have hpoint : ∀ esp, (esp = esp₀ ∧ isOneWord (efiDirectory found.1) = true ∧
      readable = (esp₀ (efiDirectory found.1)).cfg.isSome) →
      ∃ lines, (esp₀ (efiDirectory found.1)).cfg = some lines ∧
        ∀ written, Point (calledHook cmd kver) esp₀ (efiDirectory found.1) lines written [] esp := by
    rintro esp ⟨rfl, -, hreadable⟩
    rw [Bool.not_eq_false, hreadable] at hpresent
    obtain ⟨lines, hlines⟩ := Option.isSome_iff_exists.mp hpresent
    exact ⟨lines, hlines, fun _ => ⟨hheld esp rfl, hlines, fun file hfile => by cases hfile⟩⟩
  refine guarantees_ite (fun hadd => ?_) fun hadd => guarantees_ite (fun hremove => ?_) fun hremove => ?_
  · have hhook : calledHook cmd kver = some (.add kver) := if_pos hadd
    rw [hhook] at hpoint ⊢
    intro esp h
    obtain ⟨lines, hlines, hstart⟩ := hpoint esp h
    exact works_completed (works_addKernel h.2.1 hlines) esp (hstart true)
  · have hhook : calledHook cmd kver = some (.remove kver) := by
      rw [calledHook, if_neg hadd, if_pos hremove]
    rw [hhook] at hpoint ⊢
    intro esp h
    obtain ⟨lines, hlines, hstart⟩ := hpoint esp h
    exact works_completed (works_dropKernel h.2.1 hlines) esp (hstart false)
  · refine guarantees_pure (fun esp h => hheld esp h.1) fun esp h hook hhook => ?_
    rw [calledHook, if_neg hadd, if_neg hremove] at hhook
    cases hhook

/-- From a directory with a configuration, the default and every other kernel that has a section can be
loaded: the default has a section, the files that sections name are there, and no kernel has two
sections. -/
structure Ready (dir : BootDir) (lines : List Line) : Prop where
  /-- The configuration. -/
  cfg : dir.cfg = some lines
  /-- Its sections. -/
  bootable : Bootable lines
  /-- Their files. -/
  supplied : Supplied dir.complete lines

/-- All directories that have a configuration are ready. -/
def AllReady (esp : Esp) : Prop := ∀ dir lines, (esp dir).cfg = some lines → Ready (esp dir) lines

/-- The script is called with care, whatever configuration it finds. -/
def CarefulCall (esp : Esp) (cmd : String) (kver : KernelVersion) : Prop :=
  ∀ hook, calledHook cmd kver = some hook → ∀ dir lines, (esp dir).cfg = some lines → Careful hook lines

/-- Calls of the script, one after the other; each has come to its end or has been stopped at any moment. -/
inductive InstallRuns (esp₀ : Esp) : Esp → Prop
  | start : InstallRuns esp₀ esp₀
  | run {esp : Esp} {cmd : String} {kver : KernelVersion} {t rest : List HookEvent} {r : Except Nat Unit}
      (h : InstallRuns esp₀ esp) (hrun : Runs (kernelInstall cmd kver) () (t ++ rest) r ())
      (hserves : espMemory.Serves esp t) (hcareful : CarefulCall esp cmd kver) :
      InstallRuns esp₀ (espMemory.after esp t)

/-- What a careful call makes of a configuration can be booted. -/
theorem Held.allReady {cmd : String} (h : Held (calledHook cmd kver) esp₀ esp) (hready : AllReady esp₀)
    (hcareful : CarefulCall esp₀ cmd kver) : AllReady esp := by
  intro dir lines hlines
  refine ⟨hlines, ?_, h.supplied dir lines hlines⟩
  rcases h.follows dir with hsame | ⟨hook, before, lines', hhook, hbefore, hnow, hmem⟩
  · exact (hready dir lines (hsame.symm.trans hlines)).bootable
  · cases Option.some.inj (hlines.symm.trans hnow)
    exact ((keeps_iff_careful (hready dir before hbefore).bootable).mpr
      (hcareful hook hhook dir before hbefore) lines hmem).bootable

/-- No configuration is lost. -/
theorem Held.isSome (h : Held hook esp₀ esp) (hsome : (esp₀ dir).cfg.isSome = true) :
    (esp dir).cfg.isSome = true := by
  rcases h.follows dir with hsame | ⟨_, _, lines', -, -, hnow, -⟩
  · rw [hsame, hsome]
  · rw [hnow]
    rfl

/-- After any calls, everything is ready, and no configuration has disappeared. -/
theorem ready_of_installRuns (hready : AllReady esp₀) (h : InstallRuns esp₀ esp) :
    AllReady esp ∧ ((esp₀ dir).cfg.isSome = true → (esp dir).cfg.isSome = true) := by
  induction h with
  | start => exact ⟨hready, id⟩
  | run h hrun hserves hcareful ih =>
      have hheld := (works_kernelInstall fun dir lines hlines => (ih.1 dir lines hlines).supplied).stopped
        rfl hrun hserves
      exact ⟨hheld.allReady ih.1 hcareful, fun hsome => hheld.isSome (ih.2 hsome)⟩

/-- However many kernels have been added and removed, and wherever this has been stopped: what can be loaded
from the configuration is there.  A further call that comes to its end leaves what it should. -/
theorem boots_of_installRuns (hready : AllReady esp₀) (h : InstallRuns esp₀ esp) :
    (∀ dir lines, (esp₀ dir).cfg = some lines → ∃ lines', Ready (esp dir) lines') ∧
      ∀ cmd kver hook t, calledHook cmd kver = some hook →
        Runs (kernelInstall cmd kver) () t (.ok ()) () → espMemory.Serves esp t →
        ∃ dir, Completed hook (esp dir) (espMemory.after esp t dir) := by
  constructor
  · intro dir lines hlines
    obtain ⟨hnow, hsome⟩ := @ready_of_installRuns esp₀ esp dir hready h
    obtain ⟨lines', hlines'⟩ := Option.isSome_iff_exists.mp (hsome (Option.isSome_of_eq_some hlines))
    exact ⟨lines', hnow dir lines' hlines'⟩
  · intro cmd kver hook t hhook hrun hserves
    have hnow := (@ready_of_installRuns esp₀ esp "" hready h).1
    exact (works_kernelInstall (fun dir lines hlines => (hnow dir lines hlines).supplied) esp rfl _ _ _ _
      hrun).2 () rfl hserves hook hhook

/-- The directory that is taken when the firmware names none. -/
def defaultDirectory : String := efiDirectory []

/-- A partition with one kernel. -/
def oneKernel : Esp :=
  Function.update (fun _ => ⟨none, none, fun _ => false⟩) defaultDirectory
    ⟨some globalFirst, none, fun file => file = kernelFile kernel510 || file = ramdiskFile kernel510⟩

/-- What the commands reply when a kernel is added, with the status of `grep`. -/
def addingReply (found : Nat) : (c : HookCall) → c.Reply
  | .findDirectory => (([], 0) : List Line × Nat)
  | .isReadable _ | .isReadableWords _ | .ramdiskExists _ => true
  | .copyKernel _ _ | .copyRamdisk _ _ | .dracut _ _ => ((0, true) : Nat × Bool)
  | .grep _ _ => found
  | .appendSection _ kver => ((0, newSection kver globalFirst) : Nat × List Line)
  | .printOthers _ kver => ((0, remove kver globalFirst) : Nat × List Line)
  | .rewriteDefault _ _ | .moveNew _ | .removeRamdisk _ _ | .removeKernel _ _ => (0 : Nat)

/-- A kernel is added, up to its section. -/
def addedSection : List HookEvent := (play (addingReply 1) (kernelInstall "add" kernel515) ()).1.take 7

/-- It is added again. -/
def addedAgain : List HookEvent := (play (addingReply 0) (kernelInstall "add" kernel515) ()).1

/-- The only configuration of the example. -/
theorem cfg_oneKernel {dir : String} {lines : List Line} (h : (oneKernel dir).cfg = some lines) :
    dir = defaultDirectory ∧ lines = globalFirst := by
  by_cases hdir : dir = defaultDirectory
  · subst hdir
    exact ⟨rfl, (Option.some.inj h).symm⟩
  · rw [oneKernel, Function.update_of_ne hdir] at h
    cases h

/-- In the example, everything is ready. -/
theorem allReady_oneKernel : AllReady oneKernel := by
  intro dir lines hlines
  obtain ⟨rfl, rfl⟩ := cfg_oneKernel hlines
  have hall : ∀ sec ∈ sections isHeader globalFirst, ∀ line ∈ sec.body, (fileOf line).all (fun file =>
      decide (sec.header = header kernel510.text) &&
        (decide (file = kernelFile kernel510) || decide (file = ramdiskFile kernel510))) = true := by
    decide +kernel
  refine ⟨hlines, @bootable_of_nodup globalFirst kernel510.text (by decide +kernel) (by decide +kernel)
    (by decide +kernel), fun sec hsec line hline file hfile => ?_⟩
  have hown := hall sec hsec line hline
  rw [hfile, Option.all_some, Bool.and_eq_true, decide_eq_true_eq] at hown
  exact ⟨kernel510, hown.1, by simpa [IsFileOf] using hown.2, hown.2⟩

/-- The script has been stopped before the default is changed: both kernels can be loaded.  The next call
finds the section and copies the files again. -/
theorem boots_of_installRuns_stopped :
    (∃ lines', Ready (espMemory.after oneKernel addedSection defaultDirectory) lines' ∧
      header kernel515.text ∈ lines') ∧
    ∃ dir, Completed (.add kernel515) (espMemory.after oneKernel addedSection dir)
      (espMemory.after (espMemory.after oneKernel addedSection) addedAgain dir) := by
  have hrun := runs_play (addingReply 1) (kernelInstall "add" kernel515) ()
  rw [← List.take_append_drop 7 (play (addingReply 1) (kernelInstall "add" kernel515) ()).1] at hrun
  have hcareful : CarefulCall oneKernel "add" kernel515 := by
    intro hook hhook dir lines hlines
    obtain ⟨-, rfl⟩ := cfg_oneKernel hlines
    cases Option.some.inj hhook
    exact Or.inr ⟨by decide +kernel, by decide +kernel⟩
  have hserves : espMemory.Serves oneKernel addedSection := by decide +kernel
  obtain ⟨hready, hcompleted⟩ := boots_of_installRuns allReady_oneKernel (.run .start hrun hserves hcareful)
  constructor
  · obtain ⟨lines', hlines'⟩ := hready defaultDirectory globalFirst rfl
    have hcfg : (espMemory.after oneKernel addedSection defaultDirectory).cfg =
        some (appendDefault kernel515 globalFirst) := by decide +kernel
    refine ⟨lines', hlines', ?_⟩
    cases Option.some.inj (hlines'.cfg.symm.trans hcfg)
    decide +kernel
  · exact hcompleted "add" kernel515 (.add kernel515) addedAgain rfl
      (runs_play (addingReply 0) (kernelInstall "add" kernel515) ()) (by decide +kernel)

end XenCfg

end QubesAdminLinux
