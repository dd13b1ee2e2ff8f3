import Mathlib.Data.List.Infix
import Mathlib.Order.RelClasses
import QubesAdminLinux.Lib.Sections

/-! # The boot configuration of Xen

The hook `kernel-xen-efi.install` adds the section of a new kernel to `xen.cfg` and removes that of an
old one, with scripts that go through the file line by line.  A file is the list of its lines, each of
which ends with a newline.

* **`copyDefault`** — the section of a new kernel, copied from the default one.
* **`Hook.contents`** — the file while a hook runs.
* **`copyDefault_eq`, `sections_remove`** — what the scripts do to the sections of the file. -/

namespace QubesAdminLinux

namespace XenCfg

/-! ## Lines -/

/-- A line, without its newline. -/
abbrev Line := List Char

/-- The release of a kernel, as `kernel-install` passes it. -/
structure KernelVersion where
  /-- The text of the release. -/
  text : Line
  /-- It begins with a digit. -/
  digit : text.head?.any Char.isDigit = true
  /-- No character of it has a meaning for `awk` or `sed`. -/
  plain : (text.all fun c => c.isAlphanum || c = '.' || c = '-' || c = '_' || c = '+' || c = '~') = true
  deriving DecidableEq

/-- `[name]`. -/
def header (name : Line) : Line := '[' :: (name ++ [']'])

/-- `[global]`. -/
def globalHeader : Line := header "global".toList

/-- `/^\[/`. -/
def isHeader (line : Line) : Bool := line.head? = some '['

/-- `/^start/` for a text without special characters. -/
def beginsWith (start : String) (line : Line) : Bool := start.toList.isPrefixOf line

/-- `/^default=/`. -/
def isDefault (line : Line) : Bool := beginsWith "default=" line

/-- `$2`, with `=` between the fields. -/
def secondField (line : Line) : Line :=
  ((line.dropWhile (· ≠ '=')).drop 1).takeWhile (· ≠ '=')

/-- `sub("=[^ ]*", "=" value)`. -/
def substitute (value line : Line) : Line :=
  if '=' ∈ line then
    line.takeWhile (· ≠ '=') ++ '=' :: (value ++ (line.dropWhile (· ≠ '=')).dropWhile (· ≠ ' '))
  else line

/-- A line that begins with `item` gets another value. -/
def setValue (item : String) (value line : Line) : Line :=
  if beginsWith item line then substitute value line else line

/-- The value of `kernel=` for a kernel. -/
def kernelFile (kver : KernelVersion) : Line := "vmlinuz-".toList ++ kver.text

/-- The value of `ramdisk=` for a kernel. -/
def ramdiskFile (kver : KernelVersion) : Line := "initramfs-".toList ++ (kver.text ++ ".img".toList)

/-- A line of the default section, in the copy of it. -/
def copiedLine (kver : KernelVersion) (line : Line) : Line :=
  setValue "ramdisk=" (ramdiskFile kver) (setValue "kernel=" (kernelFile kver) line)

/-! ## Adding a kernel -/

/-- The variables of the script that copies the default section. -/
structure Copying where
  /-- `in_global`. -/
  inGlobal : Bool
  /-- `in_default`. -/
  inDefault : Bool
  /-- `default_name`. -/
  defaultName : Line

namespace Copying

/-- The values before the first line. -/
def initial : Copying := ⟨false, false, []⟩

/-- What the rules for headers and for `[global]` set. -/
def enter (v : Copying) (line : Line) : Copying :=
  ⟨(v.inGlobal && !isHeader line) || decide (globalHeader.IsInfix line),
    v.inDefault && !isHeader line, v.defaultName⟩

/-- What the rule for `default=` sets. -/
def read (v : Copying) (line : Line) : Copying :=
  if isDefault line ∧ v.inGlobal then { v with defaultName := secondField line } else v

end Copying

/-- What the script prints, from some line on. -/
def copyDefault (kver : KernelVersion) (v : Copying) : List Line → List Line
  | [] => []
  | line :: rest =>
      -- the default section has ended
      if isHeader line ∧ v.inDefault then []
      else if isHeader line ∧ header (v.enter line).defaultName = line then
        header kver.text :: copyDefault kver { v.enter line with inDefault := true } rest
      else
        let v := (v.enter line).read line
        if v.inDefault then copiedLine kver line :: copyDefault kver v rest
        else copyDefault kver v rest

/-- `grep -F -q "[kver]"`. -/
def mentions (kver : KernelVersion) (lines : List Line) : Bool :=
  lines.any fun line => decide ((header kver.text).IsInfix line)

/-- What the script prints for a file. -/
def newSection (kver : KernelVersion) (lines : List Line) : List Line := copyDefault kver .initial lines

/-- A copy of the default section is appended to the file. -/
def appendDefault (kver : KernelVersion) (lines : List Line) : List Line := lines ++ newSection kver lines

/-- `s/^default=.*/default=kver/`. -/
def defaultLine (kver : KernelVersion) (line : Line) : Line :=
  if isDefault line then "default=".toList ++ kver.text else line

/-- The default is changed. -/
def changeDefault (kver : KernelVersion) (lines : List Line) : List Line := lines.map (defaultLine kver)

/-! ## Removing a kernel -/

/-- What the script prints, from some line on; the flag is `in_current`. -/
def removeFrom (kver : KernelVersion) (inCurrent : Bool) : List Line → List Line
  | [] => []
  | line :: rest =>
      let inCurrent := if isHeader line then decide (line = header kver.text) else inCurrent
      if inCurrent then removeFrom kver inCurrent rest else line :: removeFrom kver inCurrent rest

/-- The file without the section of a kernel. -/
def remove (kver : KernelVersion) (lines : List Line) : List Line := removeFrom kver false lines

/-! ## Runs of the hook -/

/-- A call of the hook. -/
inductive Hook
  | add (kver : KernelVersion)
  | remove (kver : KernelVersion)
  deriving DecidableEq

namespace Hook

/-- The kernel that a hook is called for. -/
def kver : Hook → KernelVersion
  | .add kver | .remove kver => kver

/-- The contents of the file while a hook runs.  The last one is left at the end, the others where a
command fails. -/
def contents : Hook → List Line → List (List Line)
  | .add kver, lines =>
      if mentions kver lines then [lines]
      else [lines, appendDefault kver lines, changeDefault kver (appendDefault kver lines)]
  | .remove kver, lines => [lines, XenCfg.remove kver lines]

end Hook

/-- A hook that is not called to remove the running kernel leaves the file so. -/
def HookRun (running : KernelVersion) (hook : Hook) (lines lines' : List Line) : Prop :=
  hook ≠ .remove running ∧ lines' ∈ hook.contents lines

/-! ## Headers -/

/-- A header is one. -/
theorem isHeader_header (name : Line) : isHeader (header name) = true := rfl

/-- Sections with different names have different headers. -/
theorem header_injective {a b : Line} (h : header a = header b) : a = b := by
  simpa [header] using h

/-- No kernel has the name of the section `[global]`. -/
theorem text_ne_global (kver : KernelVersion) : kver.text ≠ "global".toList := by
  intro h
  have hdigit := kver.digit
  rw [h] at hdigit
  exact absurd hdigit (by decide)

/-- No kernel has the name of the global section. -/
theorem header_ne_global (kver : KernelVersion) : header kver.text ≠ globalHeader :=
  fun h => text_ne_global kver (header_injective h)

/-- A line begins with a text if the rest can be added to it. -/
theorem beginsWith_iff {start : String} {line : Line} :
    beginsWith start line = true ↔ ∃ rest, line = start.toList ++ rest := by
  rw [beginsWith, List.isPrefixOf_iff_prefix]
  constructor
  · rintro ⟨rest, rfl⟩
    exact ⟨rest, rfl⟩
  · rintro ⟨rest, rfl⟩
    exact ⟨rest, rfl⟩

/-- The line with the default is no header. -/
theorem not_header_of_default {line : Line} (h : isDefault line = true) : isHeader line = false := by
  obtain ⟨rest, rfl⟩ := beginsWith_iff.mp h
  rfl

/-! ## Lines that are rewritten -/

/-- The changed line is the one with the default as before. -/
theorem isDefault_defaultLine (kver : KernelVersion) (line : Line) :
    isDefault (defaultLine kver line) = isDefault line := by
  rw [defaultLine]
  split
  · rename_i hdefault
    rw [hdefault]
    exact beginsWith_iff.mpr ⟨kver.text, rfl⟩
  · rfl

/-- It is a header as before. -/
theorem isHeader_defaultLine (kver : KernelVersion) (line : Line) :
    isHeader (defaultLine kver line) = isHeader line := by
  rw [defaultLine]
  split
  · rename_i hdefault
    rw [not_header_of_default hdefault]
    rfl
  · rfl

/-- No header is changed, and no line becomes one. -/
theorem defaultLine_eq_header {kver : KernelVersion} {line name : Line} :
    defaultLine kver line = header name ↔ line = header name := by
  rw [defaultLine]
  split
  · rename_i hdefault
    constructor
    · intro h
      cases congrArg isHeader h
    · rintro rfl
      cases not_header_of_default hdefault
  · exact Iff.rfl

/-- The value up to the first space is replaced. -/
theorem setValue_append {item : String} {name : Line} (hitem : item.toList = name ++ ['='])
    (hname : '=' ∉ name) (value rest : Line) : setValue item value (item.toList ++ rest) =
      item.toList ++ (value ++ rest.dropWhile (· ≠ ' ')) := by
  have hbegins : beginsWith item (item.toList ++ rest) = true := beginsWith_iff.mpr ⟨rest, rfl⟩
  have hpos : ∀ c ∈ name, decide (c ≠ '=') = true := by
    intro c hc
    rw [decide_eq_true_eq]
    rintro rfl
    exact hname hc
  rw [setValue, if_pos hbegins, hitem, substitute, if_pos (by simp)]
  rw [List.append_assoc, List.takeWhile_append_of_pos hpos, List.dropWhile_append_of_pos hpos]
  simp

/-- Other lines stay as they are. -/
theorem setValue_of_not {item : String} {line : Line} (h : beginsWith item line = false)
    (value : Line) : setValue item value line = line := if_neg (by simp [h])

/-- `kernel=` in the copy of the default section. -/
theorem copiedLine_kernel (kver : KernelVersion) (rest : Line) :
    copiedLine kver ("kernel=".toList ++ rest) =
      "kernel=".toList ++ (kernelFile kver ++ rest.dropWhile (· ≠ ' ')) := by
  rw [copiedLine, @setValue_append "kernel=" "kernel".toList rfl (by decide)]
  exact setValue_of_not rfl _

/-- `ramdisk=` in the copy of the default section. -/
theorem copiedLine_ramdisk (kver : KernelVersion) (rest : Line) :
    copiedLine kver ("ramdisk=".toList ++ rest) =
      "ramdisk=".toList ++ (ramdiskFile kver ++ rest.dropWhile (· ≠ ' ')) := by
  have hkernel : setValue "kernel=" (kernelFile kver) ("ramdisk=".toList ++ rest)
      = "ramdisk=".toList ++ rest := setValue_of_not rfl _
  rw [copiedLine, hkernel, @setValue_append "ramdisk=" "ramdisk".toList rfl (by decide)]

/-- Any other line is copied as it is. -/
theorem copiedLine_other {line : Line} (hkernel : beginsWith "kernel=" line = false)
    (hramdisk : beginsWith "ramdisk=" line = false) (kver : KernelVersion) :
    copiedLine kver line = line := by
  rw [copiedLine, setValue_of_not hkernel, setValue_of_not hramdisk]

/-- A line is a header just if its copy is one. -/
theorem isHeader_copiedLine (kver : KernelVersion) (line : Line) :
    isHeader (copiedLine kver line) = isHeader line := by
  cases hkernel : beginsWith "kernel=" line with
  | true =>
      obtain ⟨rest, rfl⟩ := beginsWith_iff.mp hkernel
      rw [copiedLine_kernel]
      rfl
  | false =>
  cases hramdisk : beginsWith "ramdisk=" line with
  | true =>
      obtain ⟨rest, rfl⟩ := beginsWith_iff.mp hramdisk
      rw [copiedLine_ramdisk]
      rfl
  | false => rw [copiedLine_other hkernel hramdisk]

/-! ## What the scripts do to the sections -/

/-- Within the default section its lines are copied up to the next header. -/
theorem copyDefault_inDefault {kver : KernelVersion} {v : Copying} (hv : v.inDefault = true)
    (lines : List Line) : copyDefault kver v lines =
      (beforeHeader isHeader lines).map (copiedLine kver) := by
  induction lines generalizing v with
  | nil => rfl
  | cons line rest ih =>
      rw [copyDefault]
      cases hline : isHeader line with
      | true =>
          rw [if_pos ⟨rfl, hv⟩, beforeHeader_cons_header hline]
          rfl
      | false =>
          have hin : ((v.enter line).read line).inDefault = true := by
            rw [Copying.read]
            split
            · simp [Copying.enter, hline, hv]
            · simp [Copying.enter, hline, hv]
          rw [if_neg (by simp), if_neg (by simp), beforeHeader_cons hline]
          dsimp only
          rw [if_pos hin, ih hin]
          rfl

/-- Whether some section has the name that the last `default=` before it gives.  Only a `default=` counts
that comes after `[global]` and before the next header; `name` is given at the start. -/
def namedLater (inGlobal : Bool) (name : Line) : List Line → Bool
  | [] => false
  | line :: rest =>
      let inGlobal := (inGlobal && !isHeader line) || decide (globalHeader.IsInfix line)
      decide (line = header name)
        || namedLater inGlobal (if isDefault line ∧ inGlobal then secondField line else name) rest

/-- The script goes on after a line that is not the header of the default section. -/
theorem copyDefault_cons {kver : KernelVersion} {v : Copying} {line : Line} (hv : v.inDefault = false)
    (hline : line ≠ header v.defaultName) (rest : List Line) :
    copyDefault kver v (line :: rest) = copyDefault kver ((v.enter line).read line) rest ∧
      ((v.enter line).read line).inDefault = false := by
  have hin : ((v.enter line).read line).inDefault = false := by
    rw [Copying.read]
    split
    · simp [Copying.enter, hv]
    · simp [Copying.enter, hv]
  refine ⟨?_, hin⟩
  rw [copyDefault, if_neg (by simp [hv]), if_neg fun h => hline h.2.symm]
  dsimp only
  rw [if_neg (by simp [hin])]

/-- A line that is not the wanted header is read and left behind. -/
theorem namedLater_cons {v : Copying} {line : Line} (hline : line ≠ header v.defaultName)
    (rest : List Line) : namedLater v.inGlobal v.defaultName (line :: rest) =
      namedLater ((v.enter line).read line).inGlobal ((v.enter line).read line).defaultName rest := by
  have henter : ((v.inGlobal && !isHeader line) || decide (globalHeader.IsInfix line))
      = (v.enter line).inGlobal := rfl
  rw [namedLater, decide_eq_false hline, Bool.false_or, henter, Copying.read]
  split
  · rfl
  · rfl

/-- The section of a new kernel is a copy of a section, if one is named before it begins, and empty
otherwise. -/
theorem copyDefault_eq {kver : KernelVersion} {v : Copying} (hv : v.inDefault = false)
    (lines : List Line) :
    (namedLater v.inGlobal v.defaultName lines = false ∧ copyDefault kver v lines = []) ∨
      ∃ before name after, lines = before ++ header name :: after ∧
        namedLater v.inGlobal v.defaultName lines = true ∧
        copyDefault kver v lines =
          header kver.text :: (beforeHeader isHeader after).map (copiedLine kver) := by
  induction lines generalizing v with
  | nil => exact Or.inl ⟨rfl, rfl⟩
  | cons line rest ih =>
      by_cases hline : line = header v.defaultName
      · -- the header of the default section
        subst hline
        refine Or.inr ⟨[], v.defaultName, rest, rfl, by simp [namedLater], ?_⟩
        rw [copyDefault, if_neg (by simp [hv]), if_pos ⟨rfl, rfl⟩, copyDefault_inDefault rfl]
      · obtain ⟨hcopy, hin⟩ := @copyDefault_cons kver v line hv hline rest
        rw [hcopy, namedLater_cons hline]
        rcases ih hin with hnone | ⟨before, name, after, rfl, hfound⟩
        · exact Or.inl hnone
        · exact Or.inr ⟨line :: before, name, after, rfl, hfound⟩

/-- The section of a kernel is dropped. -/
theorem removeFrom_eq (kver : KernelVersion) (inCurrent : Bool) (lines : List Line) :
    removeFrom kver inCurrent lines =
      dropSections isHeader (fun line => decide (line = header kver.text)) inCurrent lines := by
  induction lines generalizing inCurrent with
  | nil => rfl
  | cons line rest ih =>
      rw [removeFrom, dropSections]
      generalize (if isHeader line then decide (line = header kver.text) else inCurrent) = current
      cases current with
      | true => exact ih true
      | false => exact congrArg (line :: ·) (ih false)

/-- The sections with other names are left. -/
theorem sections_remove (kver : KernelVersion) (lines : List Line) :
    sections isHeader (remove kver lines) =
      (sections isHeader lines).filter fun sec => !decide (sec.header = header kver.text) := by
  rw [remove, removeFrom_eq, sections_dropSections]

/-- Lines are only removed. -/
theorem remove_sublist (kver : KernelVersion) (lines : List Line) :
    (remove kver lines).Sublist lines := by
  rw [remove, removeFrom_eq]
  exact dropSections_sublist false lines

/-- The values of `default=` are changed, and nothing else. -/
theorem sections_changeDefault (kver : KernelVersion) (lines : List Line) :
    sections isHeader (changeDefault kver lines) =
      (sections isHeader lines).map (Section.map (defaultLine kver)) :=
  sections_map (isHeader_defaultLine kver) lines

end XenCfg

end QubesAdminLinux
