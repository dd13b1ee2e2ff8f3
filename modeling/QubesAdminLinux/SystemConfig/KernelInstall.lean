import QubesAdminLinux.Lib.Threads
import QubesAdminLinux.SystemConfig.XenCfg

/-! # The whole hook

The hook `kernel-xen-efi.install` copies kernels and initial ramdisks to the directory from which Xen is
booted, and rewrites `xen.cfg` there.  What its scripts do to the lines of `xen.cfg` is in `XenCfg`; here
are its commands, and the directories they work on.

* **`efiDirectory`** — the directory, as `awk` finds it in the boot entries of the firmware.
* **`kernelInstall`** — the script, over its commands.
* **`Esp`** — the directories of the system partition, with what each command does to them. -/

namespace QubesAdminLinux

namespace XenCfg

open Proc

/-! ## The directory -/

/-- What follows the last occurrence of a text. -/
def afterLast (text : Line) : Line → Option Line
  | [] => none
  | c :: rest =>
      match afterLast text rest with
      | some found => some found
      | none => if text.isPrefixOf (c :: rest) then some ((c :: rest).drop text.length) else none

/-- What comes before the first place with some property. -/
def beforePlace (place : Line → Bool) : Line → Line
  | [] => []
  | c :: rest => if place (c :: rest) then [] else c :: beforePlace place rest

/-- `\\xen.efi\)` at the start of a text; the point stands for any character. -/
def startsWithLoader : Line → Bool
  | '\\' :: 'x' :: 'e' :: 'n' :: _ :: rest => "efi)".toList.isPrefixOf rest
  | _ => false

/-- `/^Boot....\* .*xen\.efi/`. -/
def isLoaderEntry : Line → Bool
  | 'B' :: 'o' :: 'o' :: 't' :: _ :: _ :: _ :: _ :: '*' :: ' ' :: rest =>
      decide ("xen.efi".toList.IsInfix rest)
  | _ => false

/-- The fields of a line, with blanks and tabs between them. -/
def fieldsOf (line : Line) : List Line :=
  (line.splitOnP fun c => c = ' ' || c = '\t').filter fun field => field ≠ []

/-- The path that is printed for an entry: what stands between `File(` and `\xen.efi)`, with slashes. -/
def loaderPath (line : Line) : Line :=
  (beforePlace startsWithLoader ((afterLast "File(".toList line).getD line)).map fun c =>
    if c = '\\' then '/' else c

/-- What `awk` prints for the output of `efibootmgr -v`; `current` is the variable of the script. -/
def findLoader (current : Line) : List Line → List Line
  | [] => []
  | line :: rest =>
      let current := if beginsWith "BootCurrent:" line then (fieldsOf line).getD 1 [] else current
      if isLoaderEntry line ∧ "Boot".toList ++ current ++ ['*'] = (fieldsOf line).getD 0 [] then
        loaderPath line :: findLoader current rest
      else findLoader current rest

/-- `ESP_MOUNTPOINT`. -/
def espMountpoint : String := "/boot/efi"

/-- `EFI_DIR`. -/
def efiDirectory (entries : List Line) : String :=
  let found := String.intercalate "\n" ((findLoader [] entries).map String.ofList)
  if found = "" then espMountpoint ++ "/EFI/qubes" else espMountpoint ++ found

/-- Whether the shell takes a path for one word where it stands without quotes: it has no blank, and no
character of a pattern. -/
def isOneWord (path : String) : Bool :=
  path.toList.all fun c =>
    !(c == ' ' || c == '\t' || c == '\n' || c == '*' || c == '?' || c == '[')

example : efiDirectory (["BootCurrent: 0001", "BootOrder: 0001,0000",
    "Boot0000* Windows\tHD(1,GPT,d5)/File(\\EFI\\Microsoft\\Boot\\bootmgfw.efi)",
    "Boot0001* Qubes\tHD(1,GPT,d5)/File(\\EFI\\qubes\\xen.efi)"].map String.toList)
      = "/boot/efi/EFI/qubes" := by decide +kernel

/-! ## The script -/

/-- The commands of the script; all but the first work in the directory. -/
inductive HookCall
  /-- `efibootmgr -v`, and the script of `awk` that reads its output. -/
  | findDirectory
  /-- `[ ! -r "$EFI_DIR/xen.cfg" ]`; the answer is whether the file can be read. -/
  | isReadable (dir : String)
  /-- `[ -r $EFI_DIR/xen.cfg ]`, without quotes. -/
  | isReadableWords (dir : String)
  /-- `cp "/boot/vmlinuz-$KVER" "$EFI_DIR/"`. -/
  | copyKernel (dir : String) (kver : KernelVersion)
  /-- `[ -e "/boot/initramfs-${KVER}.img" ]`. -/
  | ramdiskExists (kver : KernelVersion)
  /-- `cp -f "/boot/initramfs-${KVER}.img" "$EFI_DIR/"`. -/
  | copyRamdisk (dir : String) (kver : KernelVersion)
  /-- `dracut -f "$EFI_DIR/initramfs-${KVER}.img" "$KVER"`. -/
  | dracut (dir : String) (kver : KernelVersion)
  /-- `grep -F -q "[${KVER}]" $EFI_DIR/xen.cfg`. -/
  | grep (dir : String) (kver : KernelVersion)
  /-- The script of `awk` that appends the default section. -/
  | appendSection (dir : String) (kver : KernelVersion)
  /-- `sed -i` with the new default. -/
  | rewriteDefault (dir : String) (kver : KernelVersion)
  /-- The script of `awk` that writes the other sections to `xen.cfg.new`. -/
  | printOthers (dir : String) (kver : KernelVersion)
  /-- `mv $EFI_DIR/xen.cfg.new $EFI_DIR/xen.cfg`. -/
  | moveNew (dir : String)
  /-- `rm -f "$EFI_DIR/initramfs-${KVER}.img"`. -/
  | removeRamdisk (dir : String) (kver : KernelVersion)
  /-- `rm -f "$EFI_DIR/vmlinuz-${KVER}"`. -/
  | removeKernel (dir : String) (kver : KernelVersion)
  deriving DecidableEq

/-- What a command replies: the output of `efibootmgr` and the status of `awk`, the answer of a test, or a
status.  Next to the status of a command that writes a kernel or a ramdisk stands whether the whole file is
there, and next to that of a script of `awk` the lines that it has written. -/
def HookCall.Reply : HookCall → Type
  | .findDirectory => List Line × Nat
  | .isReadable _ | .isReadableWords _ | .ramdiskExists _ => Bool
  | .copyKernel _ _ | .copyRamdisk _ _ | .dracut _ _ => Nat × Bool
  | .appendSection _ _ | .printOthers _ _ => Nat × List Line
  | .grep _ _ | .rewriteDefault _ _ | .moveNew _ | .removeRamdisk _ _ | .removeKernel _ _ => Nat

/-- An event of the script. -/
abbrev HookEvent := Event HookCall.Reply

/-- The script: it has no variables that change, and what it throws is its exit status. -/
abbrev HookM (α : Type) := Proc HookCall HookCall.Reply Unit Nat α

/-- `set -e`. -/
def orExit (status : Nat) : HookM Unit := if status ≠ 0 then throw status else pure ()

/-- A command that has to succeed. -/
def command (c : HookCall) (status : c.Reply → Nat) : HookM Unit := do
  let reply ← request c
  orExit (status reply)

/-- The initial ramdisk of a new kernel. -/
def addRamdisk (dir : String) (kver : KernelVersion) : HookM Unit := do
  let present : Bool ← request (HookCall.ramdiskExists kver)
  if present then command (.copyRamdisk dir kver) Prod.fst else command (.dracut dir kver) Prod.fst

/-- The section of a new kernel. -/
def addSection (dir : String) (kver : KernelVersion) : HookM Unit := do
  let found : Nat ← request (HookCall.grep dir kver)
  if found ≠ 0 then do
    command (.appendSection dir kver) Prod.fst
    command (.rewriteDefault dir kver) id
  else pure ()

/-- `add`. -/
def addKernel (dir : String) (kver : KernelVersion) : HookM Unit := do
  command (.copyKernel dir kver) Prod.fst
  addRamdisk dir kver
  addSection dir kver

/-- The section of an old kernel. -/
def dropSection (dir : String) (kver : KernelVersion) : HookM Unit := do
  let readable : Bool ← request (HookCall.isReadableWords dir)
  if readable then do
    command (.printOthers dir kver) Prod.fst
    command (.moveNew dir) id
  else pure ()

/-- `remove`. -/
def dropKernel (dir : String) (kver : KernelVersion) : HookM Unit := do
  dropSection dir kver
  command (.removeRamdisk dir kver) id
  command (.removeKernel dir kver) id

/-- The script. -/
def kernelInstall (cmd : String) (kver : KernelVersion) : HookM Unit := do
  let found : List Line × Nat ← request HookCall.findDirectory
  orExit found.2
  let readable : Bool ← request (HookCall.isReadable (efiDirectory found.1))
  -- not a system with EFI
  if readable = false then throw 0
  else if cmd = "add" then addKernel (efiDirectory found.1) kver
  else if cmd = "remove" then dropKernel (efiDirectory found.1) kver
  else pure ()

/-- What a call of the script stands for. -/
def calledHook (cmd : String) (kver : KernelVersion) : Option Hook :=
  if cmd = "add" then some (.add kver) else if cmd = "remove" then some (.remove kver) else none

/-! ## The file system -/

/-- A directory from which Xen can be booted. -/
structure BootDir where
  /-- The lines of `xen.cfg`. -/
  cfg : Option (List Line)
  /-- The lines of `xen.cfg.new`. -/
  cfgNew : Option (List Line)
  /-- Whether a kernel or a ramdisk is there, and has been written to its end. -/
  complete : Line → Bool

/-- Whether a directory has a section for a kernel. -/
def BootDir.hasSection (dir : BootDir) (kver : KernelVersion) : Bool :=
  dir.cfg.any fun lines => lines.any fun line => decide (line = header kver.text)

/-- The directories of the system partition. -/
abbrev Esp := String → BootDir

namespace Esp

/-- A file is written or removed. -/
def setFile (esp : Esp) (dir : String) (file : Line) (complete : Bool) : Esp :=
  Function.update esp dir { esp dir with complete := Function.update (esp dir).complete file complete }

/-- `xen.cfg` is replaced. -/
def setCfg (esp : Esp) (dir : String) (cfg : Option (List Line)) : Esp :=
  Function.update esp dir { esp dir with cfg := cfg }

/-- `xen.cfg.new` is written or moved away. -/
def setNew (esp : Esp) (dir : String) (cfgNew : Option (List Line)) : Esp :=
  Function.update esp dir { esp dir with cfgNew := cfgNew }

/-- A file is changed in its directory. -/
theorem setFile_self (esp : Esp) (dir : String) (file : Line) (complete : Bool) :
    esp.setFile dir file complete dir =
      { esp dir with complete := Function.update (esp dir).complete file complete } :=
  Function.update_self dir _ esp

/-- The configuration is changed in its directory. -/
theorem setCfg_self (esp : Esp) (dir : String) (cfg : Option (List Line)) :
    esp.setCfg dir cfg dir = { esp dir with cfg := cfg } := Function.update_self dir _ esp

/-- So is the new configuration. -/
theorem setNew_self (esp : Esp) (dir : String) (cfgNew : Option (List Line)) :
    esp.setNew dir cfgNew dir = { esp dir with cfgNew := cfgNew } := Function.update_self dir _ esp

/-- Which replies are possible.  Any command may fail, but the tests tell what is there, and a command that
writes a file and succeeds has written all of it.  Of a path that is not one word nothing is known where it
stands without quotes. -/
def allows (esp : Esp) : HookEvent → Bool
  | ⟨.isReadable dir, reply⟩ =>
      let reply : Bool := reply
      reply == (esp dir).cfg.isSome
  | ⟨.isReadableWords dir, reply⟩ =>
      let reply : Bool := reply
      !isOneWord dir || reply == (esp dir).cfg.isSome
  | ⟨.copyKernel _ _, (status, complete)⟩ => status ≠ 0 || complete
  | ⟨.copyRamdisk _ _, (status, complete)⟩ => status ≠ 0 || complete
  | ⟨.dracut _ _, (status, complete)⟩ => status ≠ 0 || complete
  | ⟨.grep dir kver, status⟩ =>
      let status : Nat := status
      !isOneWord dir || decide (status = 0) == (esp dir).cfg.any (mentions kver)
  | ⟨.appendSection dir kver, (status, written)⟩ =>
      !isOneWord dir || status ≠ 0 || (esp dir).cfg.all fun lines => written = newSection kver lines
  | ⟨.printOthers dir kver, (status, written)⟩ =>
      !isOneWord dir || status ≠ 0 || (esp dir).cfg.all fun lines => written = remove kver lines
  | _ => true

/-- What a command does.  A section may be appended in part; the other commands that rewrite `xen.cfg` put a
new file in its place, and leave it as it is if they fail. -/
def answer (esp : Esp) : HookEvent → Esp
  | ⟨.copyKernel dir kver, (_, complete)⟩ => esp.setFile dir (kernelFile kver) complete
  | ⟨.copyRamdisk dir kver, (_, complete)⟩ => esp.setFile dir (ramdiskFile kver) complete
  | ⟨.dracut dir kver, (_, complete)⟩ => esp.setFile dir (ramdiskFile kver) complete
  | ⟨.appendSection dir _, (_, written)⟩ => esp.setCfg dir ((esp dir).cfg.map (· ++ written))
  | ⟨.rewriteDefault dir kver, status⟩ =>
      let status : Nat := status
      if status = 0 then esp.setCfg dir ((esp dir).cfg.map (changeDefault kver)) else esp
  | ⟨.printOthers dir _, (_, written)⟩ => esp.setNew dir (some written)
  | ⟨.moveNew dir, status⟩ =>
      let status : Nat := status
      if status = 0 then (esp.setCfg dir (esp dir).cfgNew).setNew dir none else esp
  | ⟨.removeRamdisk dir kver, status⟩ =>
      let status : Nat := status
      if status = 0 then esp.setFile dir (ramdiskFile kver) false else esp
  | ⟨.removeKernel dir kver, status⟩ =>
      let status : Nat := status
      if status = 0 then esp.setFile dir (kernelFile kver) false else esp
  | _ => esp

/-- What the script does not provide for: a directory whose path is not one word, a file of a kernel that is
cut short where the kernel has a section already, and a section of which only a part is written. -/
def spoils (esp : Esp) : HookEvent → Bool
  | ⟨.findDirectory, (entries, _)⟩ => !isOneWord (efiDirectory entries)
  | ⟨.copyKernel dir kver, (_, complete)⟩ => !complete && (esp dir).hasSection kver
  | ⟨.copyRamdisk dir kver, (_, complete)⟩ => !complete && (esp dir).hasSection kver
  | ⟨.dracut dir kver, (_, complete)⟩ => !complete && (esp dir).hasSection kver
  | ⟨.appendSection dir kver, (_, written)⟩ =>
      written ≠ [] && (esp dir).cfg.any fun lines => written ≠ newSection kver lines
  | _ => false

end Esp

/-- The directories as a memory, as long as nothing is spoiled. -/
def espMemory : Memory Esp Empty HookCall.Reply where
  allows esp e := esp.allows e = true ∧ esp.spoils e = false
  answer := Esp.answer
  receive esp _ := esp

instance (esp : Esp) (e : HookEvent) : Decidable (espMemory.allows esp e) :=
  inferInstanceAs (Decidable (esp.allows e = true ∧ esp.spoils e = false))

end XenCfg

end QubesAdminLinux
