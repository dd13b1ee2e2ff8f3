import Mathlib.Data.List.Count
import Mathlib.Data.List.Forall2
import Mathlib.Data.List.Nodup
import QubesAdminLinux.SystemConfig.XenCfg

/-! # A configuration that stays bootable

The section that `default=` names should always be there, and hooks should leave the sections of other
kernels alone.  The script that adds a kernel looks for the section before it rewrites `default=`, but
rewrites it also when the section has not been found.

* **`Bootable`** — the file names a section that exists, and has no kernel twice.
* **`Careful`** — the calls of the hook after which this is so.
* **`bootable_of_careful`** — what holds after every run of the hook, however many were before. -/

namespace QubesAdminLinux

namespace XenCfg

/-- The value of `default=` in the section `[global]`. -/
def defaultOf (lines : List Line) : Option Line :=
  ((sections isHeader lines).find? fun sec => decide (sec.header = globalHeader)).bind
    fun sec => (sec.body.find? isDefault).map (·.drop "default=".length)

/-- The default names an existing section, and each kernel has at most one section. -/
structure Bootable (lines : List Line) : Prop where
  /-- The default exists. -/
  default_exists : ∃ name, defaultOf lines = some name ∧ header name ∈ lines
  /-- No kernel has two sections. -/
  unique : ∀ kver : KernelVersion, lines.count (header kver.text) ≤ 1

/-- A line that a hook leaves alone, or one of `default=` whose value it changes. -/
def SameLine (line line' : Line) : Prop :=
  line = line' ∨ (isDefault line = true ∧ isDefault line' = true)

/-- A section that a hook leaves alone; in `[global]` it may change the default. -/
def SameSection (sec sec' : Section Line) : Prop :=
  sec.header = sec'.header ∧
    if sec.header = globalHeader then List.Forall₂ SameLine sec.body sec'.body
    else sec.body = sec'.body

/-- The sections that do not belong to a kernel. -/
def otherSections (kver : KernelVersion) (lines : List Line) : List (Section Line) :=
  (sections isHeader lines).filter fun sec => !decide (sec.header = header kver.text)

/-- The sections of other kernels are left alone. -/
def OthersKept (hook : Hook) (lines lines' : List Line) : Prop :=
  List.Forall₂ SameSection (otherSections hook.kver lines) (otherSections hook.kver lines')

/-- A line of a new section, and the line from which it was made. -/
structure MadeFrom (kver : KernelVersion) (line line' : Line) : Prop where
  /-- The kernel; what follows a space is kept. -/
  kernel : ∀ rest, line = "kernel=".toList ++ rest →
    line' = "kernel=".toList ++ (kernelFile kver ++ rest.dropWhile (· ≠ ' '))
  /-- Its initial ramdisk. -/
  ramdisk : ∀ rest, line = "ramdisk=".toList ++ rest →
    line' = "ramdisk=".toList ++ (ramdiskFile kver ++ rest.dropWhile (· ≠ ' '))
  /-- Anything else. -/
  other : beginsWith "kernel=" line = false → beginsWith "ramdisk=" line = false → SameLine line line'

/-- A section that is new is made from one that was there, and it is for an added kernel. -/
def Created (hook : Hook) (lines lines' : List Line) : Prop :=
  header hook.kver.text ∉ lines → ∀ sec' ∈ sections isHeader lines',
    sec'.header = header hook.kver.text → hook = .add hook.kver ∧
      ∃ sec ∈ sections isHeader lines, List.Forall₂ (MadeFrom hook.kver) sec.body sec'.body

/-- What a hook should do to a file. -/
structure Keeps (hook : Hook) (lines lines' : List Line) : Prop where
  /-- The default exists, and no kernel has two sections. -/
  bootable : Bootable lines'
  /-- The sections of other kernels are left alone. -/
  others : OthersKept hook lines lines'
  /-- A new section is made from one that was there. -/
  created : Created hook lines lines'

/-- When a kernel is added whose name is not in the file, the section that `default=` names comes after
it, and no section but `[global]` has a `default=` with another value.  When a kernel is removed, it is
not the default. -/
def Careful : Hook → List Line → Prop
  | .add kver, lines =>
      mentions kver lines = true ∨
        (namedLater false [] lines = true ∧
          ∀ sec ∈ sections isHeader lines, sec.header ≠ globalHeader →
            ∀ line ∈ sec.body, defaultLine kver line = line)
  | .remove kver, lines => defaultOf lines ≠ some kver.text

/-- Runs of the hook, each of them after a careful call. -/
inductive CarefulRuns : List Line → List Line → Prop
  | refl (lines : List Line) : CarefulRuns lines lines
  | step {lines₀ lines lines' : List Line} {running : KernelVersion} {hook : Hook}
      (hruns : CarefulRuns lines₀ lines) (hrun : HookRun running hook lines lines')
      (hcareful : Careful hook lines) : CarefulRuns lines₀ lines'

/-! ## Removing a kernel -/

/-- A list is related to itself, element by element. -/
theorem forall₂_same_refl {α : Type} {R : α → α → Prop} (hR : ∀ a, R a a) (l : List α) :
    List.Forall₂ R l l := List.forall₂_same.mpr fun a _ => hR a

/-- A line is the same as itself. -/
theorem sameLine_refl (line : Line) : SameLine line line := Or.inl rfl

/-- So is a section. -/
theorem sameSection_refl (sec : Section Line) : SameSection sec sec := by
  refine ⟨rfl, ?_⟩
  split
  · exact forall₂_same_refl sameLine_refl sec.body
  · rfl

/-- Without a change, all sections are kept. -/
theorem othersKept_refl (hook : Hook) (lines : List Line) : OthersKept hook lines lines :=
  forall₂_same_refl sameSection_refl _

/-- If nothing is changed, there is no new section. -/
theorem created_refl (hook : Hook) (lines : List Line) : Created hook lines lines := by
  intro hnew sec' hsec' hheader
  have hmem := (header_mem hsec').1
  rw [hheader] at hmem
  exact absurd hmem hnew

/-- The section `[global]` is not the one of a kernel. -/
theorem defaultOf_remove (kver : KernelVersion) (lines : List Line) :
    defaultOf (remove kver lines) = defaultOf lines := by
  rw [defaultOf, defaultOf, sections_remove, List.find?_filter]
  congr 2
  funext sec
  by_cases hglobal : sec.header = globalHeader
  · simp [hglobal, (header_ne_global kver).symm]
  · simp [hglobal]

/-- What can be booted can be booted without a kernel that is not the default. -/
theorem bootable_remove {kver : KernelVersion} {lines : List Line} (h : Bootable lines)
    (hkver : defaultOf lines ≠ some kver.text) : Bootable (remove kver lines) := by
  obtain ⟨⟨name, hname, hexists⟩, hunique⟩ := h
  refine ⟨⟨name, (defaultOf_remove kver lines).trans hname, ?_⟩, fun k => ?_⟩
  · obtain ⟨sec, hsec, hheader⟩ := exists_section hexists (isHeader_header name)
    have hother : sec.header ≠ header kver.text := by
      rw [hheader]
      intro heq
      exact hkver (header_injective heq ▸ hname)
    have hmem : sec ∈ sections isHeader (remove kver lines) := by
      rw [sections_remove]
      exact List.mem_filter.mpr ⟨hsec, by simpa using hother⟩
    exact hheader ▸ (header_mem hmem).1
  · exact ((remove_sublist kver lines).count_le _).trans (hunique k)

/-- Removing a kernel keeps the other sections. -/
theorem othersKept_remove (kver : KernelVersion) (lines : List Line) :
    OthersKept (.remove kver) lines (remove kver lines) := by
  rw [OthersKept, otherSections, otherSections, Hook.kver, sections_remove, List.filter_filter]
  simp only [Bool.and_self]
  exact forall₂_same_refl sameSection_refl _

/-- Removing a kernel creates no section. -/
theorem created_remove (kver : KernelVersion) (lines : List Line) :
    Created (.remove kver) lines (remove kver lines) := by
  intro _ sec' hsec' hheader
  rw [sections_remove] at hsec'
  have hother := (List.mem_filter.mp hsec').2
  rw [hheader] at hother
  simp [Hook.kver] at hother

/-! ## Adding a kernel -/

/-- A header that is not in the file is not mentioned only if it is not there. -/
theorem header_notMem {kver : KernelVersion} {lines : List Line} (h : mentions kver lines = false) :
    header kver.text ∉ lines := by
  intro hmem
  have hmentions : mentions kver lines = true :=
    List.any_eq_true.mpr ⟨_, hmem, decide_eq_true List.infix_rfl⟩
  rw [hmentions] at h
  cases h

/-- A copy of a section is appended. -/
theorem appendDefault_eq {kver : KernelVersion} {lines : List Line}
    (hnamed : namedLater false [] lines = true) :
    ∃ sec ∈ sections isHeader lines, appendDefault kver lines =
      lines ++ (header kver.text :: sec.body.map (copiedLine kver)) ∧
      ∀ line ∈ sec.body.map (copiedLine kver), isHeader line = false := by
  rcases @copyDefault_eq kver .initial rfl lines with
    ⟨hnone, -⟩ | ⟨before, name, after, hlines, -, hcopy⟩
  · cases hnamed.symm.trans hnone
  · refine ⟨⟨header name, beforeHeader isHeader after⟩, ?_, ?_, fun line hline => ?_⟩
    · rw [hlines]
      exact section_mem (isHeader_header name)
    · rw [appendDefault, newSection, hcopy]
    · obtain ⟨line, hmem, rfl⟩ := List.mem_map.mp hline
      rw [isHeader_copiedLine]
      exact not_header_of_mem_beforeHeader hmem

/-- Nothing is appended where no section is named. -/
theorem appendDefault_eq_self {kver : KernelVersion} {lines : List Line}
    (hnamed : namedLater false [] lines = false) : appendDefault kver lines = lines := by
  rcases @copyDefault_eq kver .initial rfl lines with ⟨-, hcopy⟩ | ⟨_, _, _, -, hsome, -⟩
  · rw [appendDefault, newSection, hcopy, List.append_nil]
  · cases hnamed.symm.trans hsome

variable {kver : KernelVersion} {lines body : List Line}

/-- The sections after the section of a new kernel has been appended. -/
theorem sections_new (hbody : ∀ line ∈ body, isHeader line = false) :
    sections isHeader (lines ++ header kver.text :: body) =
      sections isHeader lines ++ [⟨header kver.text, body⟩] := by
  have hheader := isHeader_header kver.text
  rw [sections_append (beforeHeader_cons_header hheader body), sections_cons_header hheader,
    beforeHeader_eq_self hbody, sections_eq_nil hbody]

/-- The default is found before the new section. -/
theorem bootable_new (h : Bootable lines) (hnew : header kver.text ∉ lines)
    (hbody : ∀ line ∈ body, isHeader line = false) :
    Bootable (lines ++ header kver.text :: body) := by
  obtain ⟨⟨name, hname, hexists⟩, hunique⟩ := h
  refine ⟨⟨name, ?_, List.mem_append_left _ hexists⟩, fun k => ?_⟩
  · rw [defaultOf] at hname ⊢
    rw [sections_new hbody, List.find?_append]
    cases hfind : (sections isHeader lines).find? fun sec => decide (sec.header = globalHeader) with
    | none =>
        rw [hfind] at hname
        cases hname
    | some sec =>
        rw [hfind] at hname
        exact hname
  · have hnone : body.count (header k.text) = 0 := by
      rw [List.count_eq_zero]
      intro hmem
      cases (isHeader_header k.text).symm.trans (hbody _ hmem)
    rw [List.count_append]
    by_cases hk : header kver.text = header k.text
    · rw [hk] at hnew ⊢
      rw [List.count_eq_zero_of_not_mem hnew, List.count_cons_self, hnone]
    · rw [List.count_cons_of_ne hk, hnone]
      exact hunique k

/-- The new section is the only one that has been added. -/
theorem otherSections_new (hbody : ∀ line ∈ body, isHeader line = false) :
    otherSections kver (lines ++ header kver.text :: body) = otherSections kver lines := by
  rw [otherSections, sections_new hbody, List.filter_append]
  simp [otherSections]

/-- The new kernel becomes the default. -/
theorem defaultOf_changeDefault {name : Line} (h : defaultOf lines = some name) :
    defaultOf (changeDefault kver lines) = some kver.text := by
  have hglobal : ((fun sec => decide (sec.header = globalHeader)) ∘ Section.map (defaultLine kver))
      = fun sec : Section Line => decide (sec.header = globalHeader) := by
    funext sec
    exact decide_eq_decide.mpr defaultLine_eq_header
  have hdefault : isDefault ∘ defaultLine kver = isDefault := funext (isDefault_defaultLine kver)
  rw [defaultOf] at h ⊢
  rw [sections_changeDefault, List.find?_map, hglobal]
  cases hfind : (sections isHeader lines).find? fun sec => decide (sec.header = globalHeader) with
  | none =>
      rw [hfind] at h
      cases h
  | some sec =>
      rw [hfind, Option.bind_some] at h
      rw [Option.map_some, Option.bind_some, Section.body_map, List.find?_map, hdefault]
      cases hline : sec.body.find? isDefault with
      | none =>
          rw [hline] at h
          cases h
      | some line =>
          rw [Option.map_some, Option.map_some, defaultLine, if_pos (List.find?_some hline)]
          rfl

/-- The new default changes no header. -/
theorem header_mem_changeDefault {name : Line} :
    header name ∈ changeDefault kver lines ↔ header name ∈ lines := by
  rw [changeDefault, List.mem_map]
  constructor
  · rintro ⟨line, hline, hheader⟩
    exact defaultLine_eq_header.mp hheader ▸ hline
  · exact fun h => ⟨_, h, defaultLine_eq_header.mpr rfl⟩

/-- After the value of `default=` has been changed, it names the new section. -/
theorem bootable_changeDefault (h : Bootable lines) (hexists : header kver.text ∈ lines) :
    Bootable (changeDefault kver lines) := by
  obtain ⟨⟨name, hname, -⟩, hunique⟩ := h
  refine ⟨⟨kver.text, defaultOf_changeDefault hname, header_mem_changeDefault.mpr hexists⟩,
    fun k => ?_⟩
  have hcount : (changeDefault kver lines).count (header k.text) = lines.count (header k.text) := by
    rw [changeDefault, List.count_eq_countP, List.countP_map, List.count_eq_countP]
    refine List.countP_congr fun line _ => ?_
    simpa using defaultLine_eq_header
  rw [hcount]
  exact hunique k

/-- The sections that do not belong to the kernel, after the value of `default=` has been changed. -/
theorem otherSections_changeDefault (kver : KernelVersion) (lines : List Line) :
    otherSections kver (changeDefault kver lines) =
      (otherSections kver lines).map (Section.map (defaultLine kver)) := by
  rw [otherSections, otherSections, sections_changeDefault, List.filter_map]
  congr 1
  refine List.filter_congr fun sec _ => ?_
  exact congrArg (!·) (decide_eq_decide.mpr defaultLine_eq_header)

/-- Another section is left alone just if it has no `default=` with another value, or is `[global]`. -/
theorem sameSection_iff {sec : Section Line} (hheader : isHeader sec.header = true) :
    SameSection sec (sec.map (defaultLine kver)) ↔
      (sec.header ≠ globalHeader → ∀ line ∈ sec.body, defaultLine kver line = line) := by
  have hdefault : defaultLine kver sec.header = sec.header := by
    rw [defaultLine]
    split
    · rename_i hdefault
      cases (not_header_of_default hdefault).symm.trans hheader
    · rfl
  rw [SameSection, Section.header_map, hdefault, Section.body_map]
  by_cases hglobal : sec.header = globalHeader
  · rw [if_pos hglobal]
    refine ⟨fun _ hother => absurd hglobal hother, fun _ => ⟨rfl, ?_⟩⟩
    refine List.forall₂_map_right_iff.mpr (forall₂_same_refl (fun line => ?_) sec.body)
    cases hline : isDefault line with
    | true => exact Or.inr ⟨hline, (isDefault_defaultLine kver line).trans hline⟩
    | false => exact Or.inl (if_neg (by simp [hline])).symm
  · rw [if_neg hglobal]
    have hbody : sec.body.map (defaultLine kver) = sec.body.map id ↔
        ∀ line ∈ sec.body, defaultLine kver line = line := List.map_inj_left
    rw [List.map_id] at hbody
    exact ⟨fun h _ => hbody.mp h.2.symm, fun h => ⟨rfl, (hbody.mpr (h hglobal)).symm⟩⟩

/-- The other sections are left alone just if no section but `[global]` has a `default=` with another
value. -/
theorem othersKept_changeDefault_iff {lines' : List Line} (hnew : header kver.text ∉ lines)
    (hothers : otherSections kver lines' = otherSections kver lines) :
    OthersKept (.add kver) lines (changeDefault kver lines') ↔
      ∀ sec ∈ sections isHeader lines, sec.header ≠ globalHeader →
        ∀ line ∈ sec.body, defaultLine kver line = line := by
  have hall : otherSections kver lines = sections isHeader lines := by
    rw [otherSections, List.filter_eq_self]
    intro sec hsec
    have hheader : sec.header ≠ header kver.text := fun h => hnew (h ▸ (header_mem hsec).1)
    simpa using hheader
  rw [OthersKept, Hook.kver, otherSections_changeDefault, hothers, hall, List.forall₂_map_right_iff,
    List.forall₂_same]
  exact forall₂_congr fun sec hsec => sameSection_iff (header_mem hsec).2

/-- A line of the copy is made from the line that is copied. -/
theorem madeFrom_copiedLine (kver : KernelVersion) (line : Line) :
    MadeFrom kver line (copiedLine kver line) := by
  refine ⟨?_, ?_, fun hkernel hramdisk => Or.inl (copiedLine_other hkernel hramdisk kver).symm⟩
  · rintro rest rfl
    exact copiedLine_kernel kver rest
  · rintro rest rfl
    exact copiedLine_ramdisk kver rest

/-- The change of the default does not matter for this. -/
theorem MadeFrom.defaultLine {line line' : Line} (h : MadeFrom kver line line') :
    MadeFrom kver line (defaultLine kver line') := by
  refine ⟨fun rest hrest => ?_, fun rest hrest => ?_, fun hkernel hramdisk => ?_⟩
  · rw [h.kernel rest hrest]
    rfl
  · rw [h.ramdisk rest hrest]
    rfl
  · rw [XenCfg.defaultLine]
    split
    · rename_i hdefault
      refine Or.inr ⟨?_, beginsWith_iff.mpr ⟨kver.text, rfl⟩⟩
      rcases h.other hkernel hramdisk with rfl | hsame
      · exact hdefault
      · exact hsame.1
    · exact h.other hkernel hramdisk

/-- The new section is made from the one that is copied, whatever has become of the others. -/
theorem created_new {others : List Line} {sec : Section Line} (hsec : sec ∈ sections isHeader lines)
    (hothers : header kver.text ∈ others → header kver.text ∈ lines)
    (hbody : ∀ line ∈ body, isHeader line = false)
    (hmade : List.Forall₂ (MadeFrom kver) sec.body body) :
    Created (.add kver) lines (others ++ header kver.text :: body) := by
  intro hnew sec' hsec' hheader
  refine ⟨rfl, sec, hsec, ?_⟩
  rw [sections_new hbody] at hsec'
  rcases List.mem_append.mp hsec' with hold | hlast
  · have hmem := (header_mem hold).1
    rw [hheader] at hmem
    exact absurd (hothers hmem) hnew
  · rw [List.mem_singleton.mp hlast]
    exact hmade

/-- Without a change, everything is kept. -/
theorem keeps_refl {hook : Hook} (h : Bootable lines) : Keeps hook lines lines :=
  ⟨h, othersKept_refl hook lines, created_refl hook lines⟩

/-- Removing the default leaves it without a section. -/
theorem not_bootable_remove (h : defaultOf lines = some kver.text) : ¬ Bootable (remove kver lines) := by
  rintro ⟨⟨name, hname, hexists⟩, -⟩
  rw [defaultOf_remove, h] at hname
  cases hname
  obtain ⟨sec, hsec, hheader⟩ := exists_section hexists (isHeader_header kver.text)
  rw [sections_remove] at hsec
  simpa [hheader] using (List.mem_filter.mp hsec).2

/-- The default is changed even if no section has been copied. -/
theorem not_bootable_changeDefault {name : Line} (h : defaultOf lines = some name)
    (hnew : header kver.text ∉ lines) : ¬ Bootable (changeDefault kver lines) := by
  rintro ⟨⟨name', hname, hexists⟩, -⟩
  rw [defaultOf_changeDefault h] at hname
  cases hname
  exact hnew (header_mem_changeDefault.mp hexists)

/-- The contents of the file while a section is added. -/
theorem keeps_add (h : Bootable lines) (hmentions : mentions kver lines = false)
    (hnamed : namedLater false [] lines = true)
    (hothers : ∀ sec ∈ sections isHeader lines, sec.header ≠ globalHeader →
      ∀ line ∈ sec.body, defaultLine kver line = line) :
    Keeps (.add kver) lines (appendDefault kver lines) ∧
      Keeps (.add kver) lines (changeDefault kver (appendDefault kver lines)) := by
  have hnew := header_notMem hmentions
  obtain ⟨sec, hsec, happend, hbody⟩ := @appendDefault_eq kver lines hnamed
  have hmade : List.Forall₂ (MadeFrom kver) sec.body (sec.body.map (copiedLine kver)) :=
    List.forall₂_map_right_iff.mpr (forall₂_same_refl (madeFrom_copiedLine kver) sec.body)
  rw [happend]
  constructor
  · refine ⟨bootable_new h hnew hbody, ?_, created_new hsec id hbody hmade⟩
    rw [OthersKept, Hook.kver, otherSections_new hbody]
    exact forall₂_same_refl sameSection_refl _
  · refine ⟨bootable_changeDefault (bootable_new h hnew hbody) (by simp),
      (othersKept_changeDefault_iff hnew (otherSections_new hbody)).mpr hothers, ?_⟩
    rw [changeDefault, List.map_append, List.map_cons, defaultLine_eq_header.mpr rfl]
    refine created_new hsec header_mem_changeDefault.mp (fun line hline => ?_) ?_
    · obtain ⟨line, hmem, rfl⟩ := List.mem_map.mp hline
      exact (isHeader_defaultLine kver line).trans (hbody line hmem)
    · exact List.forall₂_map_right_iff.mpr (hmade.imp fun _ _ => MadeFrom.defaultLine)

/-- A hook keeps the file as it should, wherever it ends, just if it is called with care. -/
theorem keeps_iff_careful {hook : Hook} (h : Bootable lines) :
    (∀ lines' ∈ hook.contents lines, Keeps hook lines lines') ↔ Careful hook lines := by
  cases hook with
  | remove kver =>
      constructor
      · intro hall hdefault
        exact not_bootable_remove hdefault (hall _ (by simp [Hook.contents])).bootable
      · intro hcareful lines' hlines'
        rcases List.mem_cons.mp hlines' with rfl | hlines'
        · exact keeps_refl h
        · rw [List.mem_singleton.mp hlines']
          exact ⟨bootable_remove h hcareful, othersKept_remove kver lines, created_remove kver lines⟩
  | add kver =>
      rw [Hook.contents, Careful]
      cases hmentions : mentions kver lines with
      | true =>
          -- the kernel is taken to be there
          rw [if_pos rfl]
          refine ⟨fun _ => Or.inl rfl, fun _ lines' hlines' => ?_⟩
          rw [List.mem_singleton.mp hlines']
          exact keeps_refl h
      | false =>
          rw [if_neg Bool.false_ne_true]
          constructor
          · intro hall
            have hnew := header_notMem hmentions
            have hend := hall (changeDefault kver (appendDefault kver lines)) (by simp)
            cases hnamed : namedLater false [] lines with
            | false =>
                obtain ⟨name, hname, -⟩ := h.default_exists
                rw [appendDefault_eq_self hnamed] at hend
                exact absurd hend.bootable (not_bootable_changeDefault hname hnew)
            | true =>
                obtain ⟨sec, hsec, happend, hbody⟩ := @appendDefault_eq kver lines hnamed
                rw [happend] at hend
                exact Or.inr ⟨rfl,
                  (othersKept_changeDefault_iff hnew (otherSections_new hbody)).mp hend.others⟩
          · intro hcareful lines' hlines'
            obtain ⟨hnamed, hothers⟩ := hcareful.resolve_left Bool.false_ne_true
            obtain ⟨happended, hchanged⟩ := keeps_add h hmentions hnamed hothers
            simp only [List.mem_cons, List.not_mem_nil, or_false] at hlines'
            rcases hlines' with rfl | rfl | rfl
            · exact keeps_refl h
            · exact happended
            · exact hchanged

/-- The file stays bootable in careful runs. -/
theorem bootable_of_carefulRuns {lines₀ : List Line} (h : Bootable lines₀)
    (hruns : CarefulRuns lines₀ lines) : Bootable lines := by
  induction hruns with
  | refl => exact h
  | step _ hrun hcareful ih => exact ((keeps_iff_careful ih).mpr hcareful _ hrun.2).bootable

/-- However many runs of hooks there were, the next one keeps the file as it should, as long as all of
them are called with care. -/
theorem keeps_of_carefulRuns {lines₀ lines lines' : List Line} {running : KernelVersion} {hook : Hook}
    (h : Bootable lines₀) (hruns : CarefulRuns lines₀ lines) (hrun : HookRun running hook lines lines')
    (hcareful : Careful hook lines) : Keeps hook lines lines' :=
  (keeps_iff_careful (bootable_of_carefulRuns h hruns)).mpr hcareful lines' hrun.2

/-- A kernel. -/
def kernel510 : KernelVersion := ⟨"5.10.8-1.fc32.x86_64".toList, by decide, by decide⟩

/-- A newer kernel. -/
def kernel515 : KernelVersion := ⟨"5.15.2-1.fc32.x86_64".toList, by decide, by decide⟩

/-- A file that begins with `[global]`. -/
def globalFirst : List Line :=
  ["[global]", "default=5.10.8-1.fc32.x86_64", "", "[5.10.8-1.fc32.x86_64]", "options=console=vga",
    "kernel=vmlinuz-5.10.8-1.fc32.x86_64 root=/dev/dm-0", "ramdisk=initramfs-5.10.8-1.fc32.x86_64.img"
    ].map String.toList

/-- A file that ends with `[global]`. -/
def globalLast : List Line :=
  ["[5.10.8-1.fc32.x86_64]", "kernel=vmlinuz-5.10.8-1.fc32.x86_64 root=/dev/dm-0", "[global]",
    "default=5.10.8-1.fc32.x86_64"].map String.toList

/-- A configuration whose lines differ and whose default exists can be booted. -/
theorem bootable_of_nodup {lines : List Line} {name : Line} (hname : defaultOf lines = some name)
    (hexists : header name ∈ lines) (hnodup : lines.Nodup) : Bootable lines :=
  ⟨⟨name, hname, hexists⟩, fun _ => List.nodup_iff_count_le_one.mp hnodup _⟩

/-- A kernel is added after `[global]`. -/
theorem keeps_globalFirst :
    (changeDefault kernel515 (appendDefault kernel515 globalFirst)).drop 7 =
      ["[5.15.2-1.fc32.x86_64]", "options=console=vga",
        "kernel=vmlinuz-5.15.2-1.fc32.x86_64 root=/dev/dm-0",
        "ramdisk=initramfs-5.15.2-1.fc32.x86_64.img"].map String.toList ∧
    Keeps (.add kernel515) globalFirst (changeDefault kernel515 (appendDefault kernel515 globalFirst)) := by
  have hbootable : Bootable globalFirst :=
    @bootable_of_nodup globalFirst kernel510.text (by decide +kernel) (by decide +kernel)
      (by decide +kernel)
  have hrun : HookRun kernel510 (.add kernel515) globalFirst
      (changeDefault kernel515 (appendDefault kernel515 globalFirst)) :=
    ⟨by decide, by rw [Hook.contents, if_neg (by decide +kernel)]; simp⟩
  exact ⟨by decide +kernel, keeps_of_carefulRuns hbootable (.refl _) hrun
    (Or.inr ⟨by decide +kernel, by decide +kernel⟩)⟩

/-- Where `[global]` comes last, no section is found, and the default is changed all the same. -/
theorem not_bootable_globalLast : ∃ lines', Bootable globalLast ∧
    HookRun kernel510 (.add kernel515) globalLast lines' ∧ ¬ Bootable lines' := by
  have hbootable : Bootable globalLast :=
    @bootable_of_nodup globalLast kernel510.text (by decide +kernel) (by decide +kernel)
      (by decide +kernel)
  refine ⟨changeDefault kernel515 globalLast, hbootable, ⟨by decide, ?_⟩, ?_⟩
  · rw [Hook.contents, if_neg (by decide +kernel),
      @appendDefault_eq_self kernel515 globalLast (by decide +kernel)]
    simp
  · exact @not_bootable_changeDefault kernel515 globalLast kernel510.text (by decide +kernel)
      (by decide +kernel)

end XenCfg

end QubesAdminLinux
