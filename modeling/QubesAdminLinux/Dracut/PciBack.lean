import QubesAdminLinux.Lib.Shell
import QubesAdminLinux.Lib.Text

/-! # Hiding PCI devices during boot

The script `qubes-pciback.sh` of the initial ramdisk takes network and USB controllers away from the
drivers of dom0.  Its loop over the devices stands in a subshell with `set -e`, on the left of `||`.

* **`Boot.script`** — the script, over its calls.
* **`Boot.script_ignoresErrexit`** — the `set -e` has no effect.
* **`Boot.hidden_iff`** — in which runs the script ends normally only if all devices are hidden. -/

namespace QubesAdminLinux

namespace PciBack

open Proc Shell

/-- What can be read from `/sys/hypervisor/type`. -/
inductive Hypervisor
  /-- The file is not readable. -/
  | unreadable
  /-- Reading it fails. -/
  | readFails
  /-- Its text. -/
  | type (text : String)
  deriving DecidableEq, Repr

/-- The machine that boots. -/
structure Boot where
  /-- `getarg`, on the kernel command line. -/
  getarg : String → String
  /-- `getargbool`. -/
  getargbool : Nat → String → Bool
  /-- The devices of a class as `lspci` and `awk` print them, and the status of the two. -/
  lspci : String → String × Nat
  /-- The file `secondary_bus_number` of a bridge. -/
  secondaryBus : String → Option String
  /-- The arithmetic expansion of `"0x$bus" + bus_offset`, unless it is an error. -/
  addBus : String → String → Option Int
  /-- The type of the hypervisor. -/
  hypervisor : Hypervisor
  /-- The status with which `die` ends the shell. -/
  dieStatus : Nat

/-- The files to which the name of a device is written. -/
inductive SysFile
  /-- `unbind` of the driver of the device. -/
  | unbind
  /-- `pciback/new_slot`. -/
  | newSlot
  /-- `pciback/bind`. -/
  | bind
  deriving DecidableEq, Repr

/-- The calls of the script. -/
inductive BootCall
  /-- `modprobe xen-pciback`. -/
  | modprobe
  /-- `[ -e driver ]` for a device. -/
  | driverPresent (bdf : String)
  /-- Write the name of a device. -/
  | write (file : SysFile) (bdf : String)
  /-- The message of `die`. -/
  | die (message : String)
  /-- `warn`. -/
  | warn (message : String)
  /-- `info`. -/
  | info (message : String)
  /-- `systemctl`. -/
  | systemctl (args : List String)
  deriving DecidableEq

/-- The reply of a call: a status, an answer, whether a write has succeeded, or nothing. -/
def BootCall.Reply : BootCall → Type
  | .modprobe | .systemctl _ => Nat
  | .driverPresent _ | .write _ _ => Bool
  | .die _ | .warn _ | .info _ => Unit

/-- An event of the script. -/
abbrev BootEvent := Event BootCall.Reply

/-- The variables of the script. -/
structure Vars where
  /-- `re`. -/
  re : String
  /-- `usb_in_dom0`. -/
  usbInDom0 : Bool
  /-- `HIDE_PCI`. -/
  hidePci : String
  /-- `manual_pcidevs`. -/
  manualPcidevs : String
  /-- `dom0_usb`. -/
  dom0Usb : String
  /-- `dev`. -/
  dev : String
  /-- `BDF`. -/
  bdf : String
  /-- `skip`. -/
  skip : Bool
  /-- `exposed`. -/
  exposed : String
  /-- `hypervisor_type`. -/
  hypervisorType : String
  deriving DecidableEq, Repr

/-- No variable is set. -/
def Vars.unset : Vars := ⟨"", false, "", "", "", "", "", false, "", ""⟩

/-- A command of the script. -/
abbrev BootCmd := Cmd BootCall BootCall.Reply Vars

namespace Boot

variable (m : Boot)

/-! ## Names of devices -/

/-- A hexadecimal digit in lower case. -/
def isHex (c : Char) : Bool :=
  ('0'.toNat ≤ c.toNat && c.toNat ≤ '9'.toNat) || ('a'.toNat ≤ c.toNat && c.toNat ≤ 'f'.toNat)

/-- A character in a pattern. -/
def lit (c : Char) : Glob := .one fun d => d = c

/-- Each step of the loop takes one hyphen away. -/
theorem count_hyphen_lt {dev : List Char} (h : '-' ∈ dev) (bus : Option Int) :
    ((bus.map printHex).getD [] ++ '_' :: removeThrough '_' (removeThrough '-' dev)).count '-'
      < dev.count '-' := by
  have hbus : ((bus.map printHex).getD []).count '-' = 0 := by
    cases bus with
    | none => rfl
    | some n => exact List.count_eq_zero.mpr (minus_notMem_printHex n)
  have hrest := (removeThrough_sublist '_' (removeThrough '-' dev)).count_le '-'
  have hdev := count_removeThrough_lt h
  rw [List.count_append, hbus, List.count_cons_of_ne (by decide), Nat.zero_add]
  omega

/-- The `while` loop of `resolve_dev`: it replaces the bridges of a path by bus numbers, and returns
nothing if a bridge has none. -/
def resolveBridges (segment : List Char) (dev : List Char) : Option (List Char) :=
  if '-' ∈ dev then
    let bridge := replaceChar '_' ':' (upTo '-' dev)
    let rest := removeThrough '-' dev
    let bus := upTo '_' rest
    match m.secondaryBus (String.ofList (segment ++ ':' :: bridge)) with
    | none => none
    | some offset =>
        let bus := ((m.addBus (String.ofList bus) offset).map printHex).getD []
        resolveBridges segment (bus ++ '_' :: removeThrough '_' rest)
  else some dev
termination_by dev.count '-'
decreasing_by exact count_hyphen_lt ‹_› _

/-- `resolve_dev`: what it prints, and its status. -/
def resolveDev (dev : String) : String × Nat :=
  let text := dev.toList
  let resolved (segment text : List Char) : String × Nat :=
    match m.resolveBridges segment text with
    | some path => (String.ofList (segment ++ ':' :: replaceChar '_' ':' path), 0)
    | none => ("", 1)
  if globMatches [.one isHex, .one isHex, .one isHex, .one isHex, lit '_', .star, lit '_', .star,
      lit '.', .star] text then resolved (upTo '_' text) (removeThrough '_' text)
  else if globMatches [.star, lit '_', .star, lit '.', .star] text then resolved "0000".toList text
  else if globMatches [.star, lit ':', .star, lit ':', .star, lit '.', .star] text then (dev, 0)
  else if globMatches [.star, lit ':', .star, lit '.', .star] text then ("0000:" ++ dev, 0)
  -- an invalid device
  else ("", 0)

/-- The name of a device as the script uses it. -/
def bdfOf (dev : String) : String := (m.resolveDev dev).1

/-! ## The script -/

/-- `die`. -/
def die (message : Vars → String) : BootCmd :=
  .simple do
    let v ← get
    let _ ← request (BootCall.die (message v))
    throw (.exit m.dieStatus)

/-- `warn`. -/
def warn (message : String) : BootCmd := .external (fun _ => .warn message) fun _ _ => 0

/-- `systemctl`. -/
def systemctl (args : List String) : BootCmd :=
  .external (fun _ => .systemctl args) fun _ status => status

/-- `echo -n "$BDF" > file`. -/
def writeBdf (file : SysFile) : BootCmd :=
  .external (fun v => .write file v.bdf) fun _ succeeded =>
    let succeeded : Bool := succeeded
    if succeeded then 0 else 1

/-- The characters that `rd.qubes.hide_pci` and `rd.qubes.dom0_usb` may have. -/
def isOptionChar (c : Char) : Bool :=
  isHex c || c = '_' || c = '.' || c = ':' || c = ',' || c = '-'

/-- The characters that a list of devices may have. -/
def isListChar (c : Char) : Bool :=
  isHex c || c = '_' || c = '.' || c = ':' || c = ' ' || c = '\n' || c = '-'

/-- The class of the devices to hide. -/
def selectClass : BootCmd :=
  .block [
    .assign (fun v => { v with usbInDom0 := false }) fun _ => 0,
    .ifElse (.test fun _ => m.getargbool 0 "rd.qubes.hide_all_usb")
      (.assign (fun v => { v with re := "0(2|c03)" }) fun _ => 0)
      (.ifElse (.test fun _ => !m.getargbool 1 "usbcore.authorized_default")
        (.block [
          .assign (fun v => { v with re := "02" }) fun _ => 0,
          .assign (fun v => { v with usbInDom0 := true }) fun _ => 0])
        (.block [
          .assign (fun v => { v with re := "02" }) fun _ => 0,
          warn ("USB in dom0 is not restricted. Consider rd.qubes.hide_all_usb or "
            ++ "usbcore.authorized_default=0.")]))]

/-- The list of the devices to hide. -/
def selectDevices : BootCmd :=
  .block [
    .orList (.assign (fun v => { v with hidePci := (m.lspci v.re).1 }) fun v => (m.lspci v.re).2)
      (m.die fun _ => "Cannot obtain list of PCI devices to unbind."),
    .assign (fun v => { v with manualPcidevs := m.getarg "rd.qubes.hide_pci" }) fun _ => 0,
    .ifElse (.test fun v => v.manualPcidevs.toList.any fun c => !isOptionChar c)
      (warn "Bogus rd.qubes.hide_pci option - fix your kernel command line!") .skip,
    .assign (fun v => { v with
      hidePci := v.hidePci ++ " " ++ String.ofList (replaceChar ',' ' ' v.manualPcidevs.toList) })
      fun _ => 0,
    .orList (.test fun v => !v.hidePci.toList.isEmpty && v.hidePci.toList.all isListChar)
      (m.die fun _ => "Bogus PCI device list - fix your kernel command line!")]

/-- The devices that dom0 keeps. -/
def selectExempted : BootCmd :=
  .block [
    .orList (.external (fun _ => .modprobe) fun _ status => status) .skip,
    .assign (fun v => { v with dom0Usb := m.getarg "rd.qubes.dom0_usb" }) fun _ => 0,
    .ifElse (.test fun v => v.dom0Usb.toList.any fun c => !isOptionChar c)
      (.block [
        warn "Bogus rd.qubes.dom0_usb option - fix your kernel command line!",
        .assign (fun v => { v with dom0Usb := "" }) fun _ => 0])
      (.ifElse (.test fun v => v.dom0Usb ≠ "")
        (.block [
          .assign (fun v => { v with
            dom0Usb := String.ofList (replaceChar ',' ' ' v.dom0Usb.toList) }) fun _ => 0,
          .assign (fun v => { v with usbInDom0 := true }) fun _ => 0])
        .skip)]

/-- The body of the loop over the devices that dom0 keeps. -/
def compareExempted : BootCmd :=
  .block [
    .assign (fun v => { v with exposed := (m.resolveDev v.exposed).1 })
      fun v => (m.resolveDev v.exposed).2,
    .ifElse (.test fun v => v.bdf = v.exposed)
      (.assign (fun v => { v with skip := true }) fun _ => 0) .skip]

/-- Take a device away from its driver, if it has one. -/
def unbindDriver : BootCmd :=
  .ifElse
    (.external (fun v => .driverPresent v.bdf) fun _ present =>
      let present : Bool := present
      if present then 0 else 1)
    (writeBdf .unbind) .skip

/-- The body of the loop over the devices. -/
def hideDevice : BootCmd :=
  .block [
    .assign (fun v => { v with bdf := (m.resolveDev v.dev).1 }) fun v => (m.resolveDev v.dev).2,
    .ifElse (.test fun v => v.bdf = "")
      (m.die fun v => "Cannot find device '" ++ v.dev ++ "' to hide") .skip,
    .assign (fun v => { v with skip := false }) fun _ => 0,
    .forEach (fun v => fields v.dom0Usb) (fun exposed v => { v with exposed })
      m.compareExempted,
    .ifElse (.test fun v => v.skip) .continueLoop .skip,
    unbindDriver,
    writeBdf .newSlot,
    writeBdf .bind]

/-- The subshell with the loop. -/
def hideDevices : BootCmd :=
  .subshell (.seq .setErrexit
    (.forEach (fun v => fields v.hidePci) (fun dev v => { v with dev }) m.hideDevice))

/-- What follows if the subshell fails. -/
def cannotHide : BootCmd :=
  .block [
    .assign (fun v => { v with hypervisorType := "" }) fun _ => 0,
    .ifElse (.test fun _ => m.hypervisor ≠ .unreadable)
      (.orList
        (.assign (fun v => { v with
            hypervisorType := match m.hypervisor with
              | .type text => text
              | _ => "" })
          fun _ => if m.hypervisor = .readFails then 1 else 0)
        (m.die fun _ => "Cannot determine hypervisor type"))
      .skip,
    .ifElse (.test fun v => v.hypervisorType = "xen")
      (m.die fun _ => "Cannot unbind PCI devices.")
      (warn "Cannot unbind PCI devices - not running under Xen")]

/-- What is left to do for USB devices in dom0. -/
def restrictUsb : BootCmd :=
  .ifElse (.test fun v => v.usbInDom0)
    (.block [
      .external (fun _ => .info "Restricting USB in dom0 via usbguard.") fun _ _ => 0,
      systemctl ["--quiet", "--", "enable", "usbguard.service"],
      systemctl ["--no-block", "start", "usbguard.service"]])
    .skip

/-- The script. -/
def script : BootCmd :=
  .block [m.selectClass, m.selectDevices, m.selectExempted, .orList m.hideDevices m.cannotHide,
    restrictUsb]

/-- The `set -e` stands on the left of `||`. -/
theorem script_ignoresErrexit : m.script.ignoresErrexit = true := rfl

/-! ## One device -/

variable {m}

/-- Whether dom0 keeps a device of the list. -/
def exempted (m : Boot) (dom0Usb dev : String) : Bool :=
  (fields dom0Usb).any fun exposed => m.bdfOf exposed = m.bdfOf dev

/-- What the body of the loop comes to for a device. -/
inductive HideOutcome (m : Boot) (dom0Usb dev : String) : List BootEvent → Except Jump Nat → Prop
  /-- There is no such device. -/
  | unknown (hdev : m.bdfOf dev = "") : HideOutcome m dom0Usb dev
      [⟨.die ("Cannot find device '" ++ dev ++ "' to hide"), ()⟩] (.error (.exit m.dieStatus))
  /-- Dom0 keeps the device. -/
  | kept (hdev : m.bdfOf dev ≠ "") (hexempted : m.exempted dom0Usb dev = true) :
      HideOutcome m dom0Usb dev [] (.error .nextItem)
  /-- The writes are made, and only the status of the last one is returned. -/
  | written (hdev : m.bdfOf dev ≠ "") (hexempted : m.exempted dom0Usb dev = false)
      {first : List BootEvent} (hfirst : first = [⟨.driverPresent (m.bdfOf dev), false⟩] ∨
        ∃ unbind : Bool, first = [⟨.driverPresent (m.bdfOf dev), true⟩,
          ⟨.write .unbind (m.bdfOf dev), unbind⟩]) (newSlot bind : Bool) :
      HideOutcome m dom0Usb dev (first ++ [⟨.write .newSlot (m.bdfOf dev), newSlot⟩,
        ⟨.write .bind (m.bdfOf dev), bind⟩]) (.ok (if bind then 0 else 1))

variable {v v' : Vars} {t : List BootEvent} {r : Except Jump Nat}

/-- A fatal error ends the hook with its message and changes nothing else. -/
theorem runs_die {message : Vars → String} (h : Runs (m.die message).plain v t r v') :
    t = [⟨.die (message v), ()⟩] ∧ r = .error (.exit m.dieStatus) ∧ v' = v := by
  obtain ⟨_, t', rfl, hexit⟩ := runs_request_bind.mp (runs_get_bind.mp h)
  obtain ⟨rfl, rfl, rfl⟩ := runs_throw.mp hexit
  exact ⟨rfl, rfl, rfl⟩

/-- The inner loop finds out whether dom0 keeps the device. -/
theorem runs_compareExempted {items : List String} {status : Nat}
    (h : Runs (forLoop (fun exposed (v : Vars) => { v with exposed }) m.compareExempted.plain status
      items) v t r v') :
    t = [] ∧ (∃ status', r = .ok status') ∧ ∃ exposed, v' = { v with
      exposed, skip := v.skip || items.any fun exposed => m.bdfOf exposed = v.bdf } := by
  induction items generalizing status v t with
  | nil =>
      obtain ⟨rfl, rfl, rfl⟩ := runs_pure.mp h
      exact ⟨rfl, ⟨status, rfl⟩, v'.exposed, by simp⟩
  | cons item rest ih =>
      -- one comparison makes no calls and returns
      have hbody : ∀ {t₁ r₁ v₁}, Runs m.compareExempted.plain { v with exposed := item } t₁ r₁ v₁ →
          t₁ = [] ∧ (∃ status', r₁ = .ok status') ∧ v₁ = { v with
            exposed := m.bdfOf item, skip := v.skip || m.bdfOf item = v.bdf } := by
        intro t₁ r₁ v₁ h₁
        rw [compareExempted, Cmd.runs_block_assign] at h₁
        rcases Cmd.runs_ifElse_test.mp h₁ with ⟨hsame, h₁⟩ | ⟨hother, h₁⟩
        · obtain ⟨rfl, rfl, rfl⟩ := Cmd.runs_assign.mp h₁
          have hbdf : v.bdf = m.bdfOf item := of_decide_eq_true hsame
          exact ⟨rfl, ⟨_, rfl⟩, by rw [decide_eq_true hbdf.symm, Bool.or_true]; rfl⟩
        · obtain ⟨rfl, rfl, rfl⟩ := Cmd.runs_skip.mp h₁
          have hbdf : v.bdf ≠ m.bdfOf item := of_decide_eq_false hother
          exact ⟨rfl, ⟨_, rfl⟩, by rw [decide_eq_false hbdf.symm, Bool.or_false]; rfl⟩
      rcases runs_forLoop_cons.mp h with ⟨code, -, h₁⟩ | ⟨status', t₁, t₂, v₁, rfl, h₁, h₂⟩
      · obtain ⟨-, ⟨_, hr⟩, -⟩ := hbody h₁
        cases hr
      · rcases h₁ with h₁ | ⟨-, h₁⟩
        · obtain ⟨rfl, -, rfl⟩ := hbody h₁
          obtain ⟨rfl, hr, exposed, rfl⟩ := ih h₂
          exact ⟨rfl, hr, exposed, by simp [Bool.or_assoc]⟩
        · obtain ⟨-, ⟨_, hr⟩, -⟩ := hbody h₁
          cases hr

/-- A write, whose status is that of the command. -/
theorem runs_writeBdf {file : SysFile} (h : Runs (writeBdf file).plain v t r v') :
    ∃ succeeded : Bool, t = [⟨.write file v.bdf, succeeded⟩] ∧
      r = .ok (if succeeded then 0 else 1) ∧ v' = v :=
  Cmd.runs_external.mp h

/-- A driver is unbound if there is one, whatever comes of it. -/
theorem runs_unbindDriver (h : Runs unbindDriver.plain v t r v') :
    (t = [⟨.driverPresent v.bdf, false⟩] ∨ ∃ unbind : Bool,
      t = [⟨.driverPresent v.bdf, true⟩, ⟨.write .unbind v.bdf, unbind⟩]) ∧
    (∃ status, r = .ok status) ∧ v' = v := by
  rcases runs_bind.mp h with ⟨jump, -, h⟩ | ⟨status, t₁, t₂, v₁, rfl, h₁, h₂⟩
  · obtain ⟨_, -, hr, -⟩ := Cmd.runs_external.mp h
    cases hr
  obtain ⟨present, rfl, hstatus, rfl⟩ := Cmd.runs_external.mp h₁
  cases hstatus
  cases present with
  | true =>
      obtain ⟨unbind, rfl, rfl, rfl⟩ := runs_writeBdf h₂
      exact ⟨Or.inr ⟨unbind, rfl⟩, ⟨_, rfl⟩, rfl⟩
  | false =>
      obtain ⟨rfl, rfl, rfl⟩ := Cmd.runs_skip.mp h₂
      exact ⟨Or.inl rfl, ⟨_, rfl⟩, rfl⟩

/-- The body of the loop. -/
theorem runs_hideDevice (h : Runs m.hideDevice.plain v t r v') :
    v'.hidePci = v.hidePci ∧ v'.dom0Usb = v.dom0Usb ∧ HideOutcome m v.dom0Usb v.dev t r := by
  rw [hideDevice, Cmd.runs_block_assign, Cmd.runs_block_cons] at h
  rcases h with ⟨jump, rfl, h⟩ | ⟨_, t₁, t₂, v₁, rfl, h₁, h⟩
  · rcases Cmd.runs_ifElse_test.mp h with ⟨hempty, h⟩ | ⟨-, h⟩
    · obtain ⟨rfl, hr, rfl⟩ := runs_die h
      cases hr
      exact ⟨rfl, rfl, .unknown (of_decide_eq_true hempty)⟩
    · cases (Cmd.runs_skip.mp h).2.1
  rcases Cmd.runs_ifElse_test.mp h₁ with ⟨-, h₁⟩ | ⟨hdev, h₁⟩
  · cases (runs_die h₁).2.1
  obtain ⟨rfl, -, rfl⟩ := Cmd.runs_skip.mp h₁
  have hdev : m.bdfOf v.dev ≠ "" := of_decide_eq_false hdev
  rw [Cmd.runs_block_assign, Cmd.runs_block_cons] at h
  rcases h with ⟨jump, -, h⟩ | ⟨_, t₁, t₂, v₁, rfl, h₁, h⟩
  · obtain ⟨-, ⟨_, hr⟩, -⟩ := runs_compareExempted (runs_get_bind.mp h)
    cases hr
  obtain ⟨rfl, -, exposed, rfl⟩ := runs_compareExempted (runs_get_bind.mp h₁)
  rw [Cmd.runs_block_cons] at h
  rcases h with ⟨jump, rfl, h⟩ | ⟨_, t₁, t₂, v₁, rfl, h₁, h⟩
  · rcases Cmd.runs_ifElse_test.mp h with ⟨hskip, h⟩ | ⟨-, h⟩
    · obtain ⟨rfl, hr, rfl⟩ := Cmd.runs_continueLoop.mp h
      cases hr
      exact ⟨rfl, rfl, .kept hdev hskip⟩
    · cases (Cmd.runs_skip.mp h).2.1
  rcases Cmd.runs_ifElse_test.mp h₁ with ⟨-, h₁⟩ | ⟨hskip, h₁⟩
  · cases (Cmd.runs_continueLoop.mp h₁).2.1
  obtain ⟨rfl, -, rfl⟩ := Cmd.runs_skip.mp h₁
  -- the three writes, of which only the last one counts
  rw [Cmd.runs_block_cons] at h
  rcases h with ⟨jump, -, h⟩ | ⟨_, first, t₂, v₁, rfl, h₁, h⟩
  · obtain ⟨-, ⟨_, hr⟩, -⟩ := runs_unbindDriver h
    cases hr
  obtain ⟨hfirst, -, rfl⟩ := runs_unbindDriver h₁
  rw [Cmd.runs_block_cons] at h
  rcases h with ⟨jump, -, h⟩ | ⟨_, t₁, t₂, v₁, rfl, h₁, h⟩
  · obtain ⟨_, -, hr, -⟩ := runs_writeBdf h
    cases hr
  obtain ⟨newSlot, rfl, -, rfl⟩ := runs_writeBdf h₁
  obtain ⟨bind, rfl, rfl, rfl⟩ := runs_writeBdf h
  exact ⟨rfl, rfl, .written hdev hskip hfirst newSlot bind⟩

/-! ## The loop -/

/-- The device for which an event is a write. -/
def writtenBdf : BootEvent → Option String
  | ⟨.write _ bdf, _⟩ => some bdf
  | _ => none

/-- Whether an event is a write. -/
def isWrite (e : BootEvent) : Bool := (writtenBdf e).isSome

/-- Whether an event is a write that fails. -/
def writeFails : BootEvent → Bool
  | ⟨.write _ _, succeeded⟩ =>
      let succeeded : Bool := succeeded
      !succeeded
  | _ => false

/-- The writes are those of the devices that dom0 does not keep. -/
structure Tried (m : Boot) (dom0Usb : String) (devices : List String) (t : List BootEvent) : Prop where
  /-- A device that dom0 does not keep is offered to `pciback`. -/
  attempted : ∀ dev ∈ devices, m.exempted dom0Usb dev = false → ∃ newSlot bind : Bool,
    ⟨.write .newSlot (m.bdfOf dev), newSlot⟩ ∈ t ∧ ⟨.write .bind (m.bdfOf dev), bind⟩ ∈ t
  /-- There are no other writes. -/
  only : ∀ e ∈ t, ∀ bdf, writtenBdf e = some bdf →
    ∃ dev ∈ devices, m.exempted dom0Usb dev = false ∧ bdf = m.bdfOf dev

/-- The last device is not one that dom0 keeps, and the last write, which is one for it, fails. -/
def LastFails (m : Boot) (dom0Usb : String) (devices : List String) (t : List BootEvent) : Prop :=
  (∃ dev, devices.getLast? = some dev ∧ m.exempted dom0Usb dev = false) ∧
    ∃ e, (t.filter isWrite).getLast? = some e ∧ writeFails e = true

/-- Two lists of devices, one after the other. -/
theorem Tried.append {dom0Usb : String} {first second : List String} {t₁ t₂ : List BootEvent}
    (h₁ : Tried m dom0Usb first t₁) (h₂ : Tried m dom0Usb second t₂) :
    Tried m dom0Usb (first ++ second) (t₁ ++ t₂) := by
  refine ⟨fun dev hdev hexempted => ?_, fun e hmem bdf hbdf => ?_⟩
  · rcases List.mem_append.mp hdev with hdev | hdev
    · obtain ⟨newSlot, bind, hn, hb⟩ := h₁.attempted dev hdev hexempted
      exact ⟨newSlot, bind, List.mem_append_left _ hn, List.mem_append_left _ hb⟩
    · obtain ⟨newSlot, bind, hn, hb⟩ := h₂.attempted dev hdev hexempted
      exact ⟨newSlot, bind, List.mem_append_right _ hn, List.mem_append_right _ hb⟩
  · rcases List.mem_append.mp hmem with hmem | hmem
    · obtain ⟨dev, hdev, hwrite⟩ := h₁.only e hmem bdf hbdf
      exact ⟨dev, List.mem_append_left _ hdev, hwrite⟩
    · obtain ⟨dev, hdev, hwrite⟩ := h₂.only e hmem bdf hbdf
      exact ⟨dev, List.mem_append_right _ hdev, hwrite⟩

/-- If there are more devices, they decide. -/
theorem lastFails_append {dom0Usb : String} {first second : List String} {t₁ t₂ : List BootEvent}
    (h : second ≠ []) (h₂ : Tried m dom0Usb second t₂) :
    LastFails m dom0Usb (first ++ second) (t₁ ++ t₂) ↔ LastFails m dom0Usb second t₂ := by
  obtain ⟨dev, hdev⟩ : ∃ dev, second.getLast? = some dev :=
    Option.isSome_iff_exists.mp (List.getLast?_isSome.mpr h)
  have hdevices : (first ++ second).getLast? = some dev := by
    rw [List.getLast?_append, hdev, Option.some_or]
  rw [LastFails, LastFails, hdevices, hdev]
  by_cases hexempted : m.exempted dom0Usb dev = false
  · -- there is a write for the last device
    obtain ⟨newSlot, bind, -, hbind⟩ := h₂.attempted dev (List.mem_of_getLast? hdev) hexempted
    have hne : t₂.filter isWrite ≠ [] := List.ne_nil_of_mem (List.mem_filter.mpr ⟨hbind, rfl⟩)
    obtain ⟨e, he⟩ := Option.isSome_iff_exists.mp (List.getLast?_isSome.mpr hne)
    rw [List.filter_append, List.getLast?_append, he, Option.some_or]
  · have hnone : ¬ ∃ dev', some dev = some dev' ∧ m.exempted dom0Usb dev' = false := by
      rintro ⟨dev', hsome, hfalse⟩
      cases hsome
      exact hexempted hfalse
    simp only [hnone, false_and]

/-- The status of the loop body is that of the last write for the device. -/
theorem HideOutcome.last {dom0Usb dev : String} (h : HideOutcome m dom0Usb dev t r) :
    (r = .error (.exit m.dieStatus) ∧ m.bdfOf dev = "") ∨
    (m.bdfOf dev ≠ "" ∧ Tried m dom0Usb [dev] t ∧ ∃ status,
      (r = .ok status ∨ (status = 0 ∧ r = .error .nextItem)) ∧
      (status ≠ 0 ↔ LastFails m dom0Usb [dev] t)) := by
  cases h with
  | unknown hdev => exact Or.inl ⟨rfl, hdev⟩
  | kept hdev hexempted =>
      refine Or.inr ⟨hdev, ⟨?_, by simp⟩, 0, Or.inr ⟨rfl, rfl⟩, ?_⟩
      · simp [hexempted]
      · simp [LastFails]
  | @written hdev hexempted first hfirst newSlot bind =>
      refine Or.inr ⟨hdev, ⟨?_, ?_⟩, _, Or.inl rfl, ?_⟩
      · intro dev' hmem _
        rw [List.mem_singleton.mp hmem]
        exact ⟨newSlot, bind, by simp, by simp⟩
      · intro e hmem bdf hbdf
        refine ⟨dev, List.mem_singleton_self dev, hexempted, ?_⟩
        have hall : ∀ e ∈ first ++ [⟨.write .newSlot (m.bdfOf dev), newSlot⟩,
            ⟨.write .bind (m.bdfOf dev), bind⟩], ∀ bdf, writtenBdf e = some bdf →
            bdf = m.bdfOf dev := by
          rcases hfirst with rfl | ⟨unbind, rfl⟩
          · simp [writtenBdf]
          · simp [writtenBdf]
        exact hall e hmem bdf hbdf
      · -- the write to `bind` is the last one
        have hlast : ((first ++ [⟨.write .newSlot (m.bdfOf dev), newSlot⟩,
            ⟨.write .bind (m.bdfOf dev), bind⟩] : List BootEvent).filter isWrite).getLast?
            = some ⟨.write .bind (m.bdfOf dev), bind⟩ := by
          simp [List.filter_append, isWrite, writtenBdf]
        rw [LastFails, hlast]
        cases bind with
        | true => simp [writeFails]
        | false => simp [writeFails, hexempted]

/-- The loop: a device is unknown, or all of them are tried and the last write decides. -/
theorem runs_hideLoop {devices : List String} {status : Nat}
    (h : Runs (forLoop (fun dev (v : Vars) => { v with dev }) m.hideDevice.plain status devices)
      v t r v') :
    (r = .error (.exit m.dieStatus) ∧ ∃ dev ∈ devices, m.bdfOf dev = "") ∨
    ((∀ dev ∈ devices, m.bdfOf dev ≠ "") ∧ Tried m v.dom0Usb devices t ∧ ∃ status', r = .ok status' ∧
      (devices = [] → status' = status) ∧
      (devices ≠ [] → (status' ≠ 0 ↔ LastFails m v.dom0Usb devices t))) := by
  induction devices generalizing status v t with
  | nil =>
      obtain ⟨rfl, rfl, rfl⟩ := runs_pure.mp h
      exact Or.inr ⟨by simp, ⟨by simp, by simp⟩, status, rfl, fun _ => rfl, fun h => absurd rfl h⟩
  | cons dev rest ih =>
      rcases runs_forLoop_cons.mp h with ⟨code, rfl, h₁⟩ | ⟨status', t₁, t₂, v₁, rfl, h₁, h₂⟩
      · obtain ⟨-, -, houtcome⟩ := runs_hideDevice h₁
        rcases houtcome.last with ⟨hr, hdev⟩ | ⟨-, -, _, hr | ⟨-, hr⟩, -⟩
        · exact Or.inl ⟨hr, dev, List.mem_cons_self, hdev⟩
        · cases hr
        · cases hr
      -- the first device has been tried, and the rest of the loop follows
      have hfirst : v₁.dom0Usb = v.dom0Usb ∧ m.bdfOf dev ≠ "" ∧ Tried m v.dom0Usb [dev] t₁ ∧
          (status' ≠ 0 ↔ LastFails m v.dom0Usb [dev] t₁) := by
        rcases h₁ with h₁ | ⟨rfl, h₁⟩
        · obtain ⟨-, hdom0, houtcome⟩ := runs_hideDevice h₁
          rcases houtcome.last with ⟨hr, -⟩ | ⟨hdev, htried, _, hr | ⟨-, hr⟩, hstatus⟩
          · cases hr
          · cases hr
            exact ⟨hdom0, hdev, htried, hstatus⟩
          · cases hr
        · obtain ⟨-, hdom0, houtcome⟩ := runs_hideDevice h₁
          rcases houtcome.last with ⟨hr, -⟩ | ⟨hdev, htried, _, hr | ⟨rfl, -⟩, hstatus⟩
          · cases hr
          · cases hr
          · exact ⟨hdom0, hdev, htried, hstatus⟩
      obtain ⟨hdom0, hdev, htried, hstatus⟩ := hfirst
      have hrest := ih h₂
      rw [hdom0] at hrest
      rcases hrest with ⟨rfl, dev', hmem, hdev'⟩ | ⟨hall, htried', status'', rfl, hnil, hlast⟩
      · exact Or.inl ⟨rfl, dev', List.mem_cons_of_mem dev hmem, hdev'⟩
      refine Or.inr ⟨List.forall_mem_cons.mpr ⟨hdev, hall⟩, htried.append htried', status'', rfl,
        fun h => absurd h (List.cons_ne_nil _ _), fun _ => ?_⟩
      by_cases hempty : rest = []
      · subst hempty
        obtain ⟨rfl, hr, -⟩ := runs_pure.mp h₂
        cases hr
        rw [List.append_nil]
        exact hstatus
      · exact (hlast hempty).trans (@lastFails_append m v.dom0Usb [dev] rest t₁ t₂ hempty htried').symm

/-- The subshell: if it fails, a device is unknown or the last write has failed. -/
theorem runs_hideDevices (h : Runs m.hideDevices.plain v t r v') :
    v' = v ∧ ∃ status, r = .ok status ∧
      ((status = m.dieStatus ∧ ∃ dev ∈ fields v.hidePci, m.bdfOf dev = "") ∨
        ((∀ dev ∈ fields v.hidePci, m.bdfOf dev ≠ "") ∧
          Tried m v.dom0Usb (fields v.hidePci) t ∧
          (status ≠ 0 ↔ LastFails m v.dom0Usb (fields v.hidePci) t))) := by
  obtain ⟨outcome, v₁, hbody, rfl, rfl⟩ := Cmd.runs_subshell.mp h
  refine ⟨rfl, _, rfl, ?_⟩
  rcases runs_bind.mp hbody with ⟨jump, -, hset⟩ | ⟨_, t₁, t₂, v₂, rfl, hset, hloop⟩
  · cases (runs_pure.mp hset).2.1
  obtain ⟨rfl, -, rfl⟩ := runs_pure.mp hset
  rcases runs_hideLoop (runs_get_bind.mp hloop) with
    ⟨rfl, hunknown⟩ | ⟨hall, htried, status, rfl, hnil, hlast⟩
  · exact Or.inl ⟨rfl, hunknown⟩
  · refine Or.inr ⟨hall, htried, ?_⟩
    by_cases hempty : fields v₂.hidePci = []
    · rw [hnil hempty, hempty]
      simp [subshellStatus, LastFails]
    · exact hlast hempty

/-! ## The rest of the script -/

/-- The class of the devices to hide. -/
def deviceClass (m : Boot) : String :=
  if m.getargbool 0 "rd.qubes.hide_all_usb" then "0(2|c03)" else "02"

/-- The devices to hide. -/
def devices (m : Boot) : List String :=
  fields ((m.lspci m.deviceClass).1 ++ " "
    ++ String.ofList (replaceChar ',' ' ' (m.getarg "rd.qubes.hide_pci").toList))

/-- The devices that dom0 keeps. -/
def dom0Usb (m : Boot) : String :=
  if (m.getarg "rd.qubes.dom0_usb").toList.any fun c => !isOptionChar c then ""
  else String.ofList (replaceChar ',' ' ' (m.getarg "rd.qubes.dom0_usb").toList)

/-- There is no write among some events. -/
def NoWrites (t : List BootEvent) : Prop := t.filter isWrite = []

/-- Two parts that write nothing. -/
theorem noWrites_append {t₁ t₂ : List BootEvent} (h₁ : NoWrites t₁) (h₂ : NoWrites t₂) :
    NoWrites (t₁ ++ t₂) := by
  rw [NoWrites, List.filter_append, h₁, h₂, List.append_nil]

/-- A warning writes nothing to a device. -/
theorem runs_warn {message : String} (h : Runs (warn message).plain v t r v') :
    NoWrites t ∧ r = .ok 0 ∧ v' = v := by
  obtain ⟨_, rfl, hr, hv⟩ := Cmd.runs_external.mp h
  exact ⟨rfl, hr, hv⟩

/-- A command without calls, and `die` if it fails. -/
theorem runs_orDie {c : BootCmd} {status : Nat} {v₁ : Vars} {message : Vars → String}
    (hc : ∀ t r v', Runs c.plain v t r v' → t = [] ∧ r = .ok status ∧ v' = v₁)
    (h : Runs (Cmd.orList c (m.die message)).plain v t r v') :
    NoWrites t ∧ (r = .error (.exit m.dieStatus) ∨ (r = .ok 0 ∧ status = 0 ∧ v' = v₁)) := by
  rcases Cmd.runs_orList.mp h with ⟨jump, -, hc'⟩ | ⟨rfl, hc'⟩ | ⟨code, t₁, t₂, v₂, -, rfl, h₁, h₂⟩
  · cases (hc _ _ _ hc').2.1
  · obtain ⟨rfl, hr, hv⟩ := hc _ _ _ hc'
    cases hr
    exact ⟨rfl, Or.inr ⟨rfl, rfl, hv⟩⟩
  · obtain ⟨rfl, -, -⟩ := hc _ _ _ h₁
    obtain ⟨rfl, hr, -⟩ := runs_die h₂
    exact ⟨rfl, Or.inl hr⟩

/-- The class of the devices is chosen by the command line. -/
theorem runs_selectClass (h : Runs m.selectClass.plain v t r v') :
    NoWrites t ∧ (∃ status, r = .ok status) ∧ v'.re = m.deviceClass := by
  rw [selectClass, Cmd.runs_block_assign] at h
  rcases Cmd.runs_ifElse_test.mp h with ⟨hall, h⟩ | ⟨hall, h⟩
  · obtain ⟨rfl, rfl, rfl⟩ := Cmd.runs_assign.mp h
    exact ⟨rfl, ⟨_, rfl⟩, (if_pos hall).symm⟩
  have hclass : "02" = m.deviceClass := (if_neg (by simpa using hall)).symm
  rcases Cmd.runs_ifElse_test.mp h with ⟨-, h⟩ | ⟨-, h⟩
  · obtain ⟨rfl, rfl, rfl⟩ := Cmd.runs_assign.mp (Cmd.runs_block_assign.mp h)
    exact ⟨rfl, ⟨_, rfl⟩, hclass⟩
  · obtain ⟨hwrites, rfl, rfl⟩ := runs_warn (Cmd.runs_block_assign.mp h)
    exact ⟨hwrites, ⟨_, rfl⟩, hclass⟩

/-- The devices of this class are chosen, or those of the command line. -/
theorem runs_selectDevices (h : Runs m.selectDevices.plain v t r v') (hre : v.re = m.deviceClass) :
    NoWrites t ∧ (r = .error (.exit m.dieStatus) ∨
      ((∃ status, r = .ok status) ∧ fields v'.hidePci = m.devices)) := by
  rw [selectDevices, Cmd.runs_block_cons] at h
  rcases h with ⟨jump, rfl, h⟩ | ⟨_, t₁, t₂, v₁, rfl, h₁, h⟩
  · obtain ⟨hwrites, hr⟩ := runs_orDie (fun _ _ _ => Cmd.runs_assign.mp) h
    exact ⟨hwrites, hr.imp_right fun hr => by cases hr.1⟩
  obtain ⟨hwrites₁, hr | ⟨-, -, rfl⟩⟩ := runs_orDie (fun _ _ _ => Cmd.runs_assign.mp) h₁
  · cases hr
  rw [Cmd.runs_block_assign, Cmd.runs_block_cons] at h
  rcases h with ⟨jump, -, h⟩ | ⟨_, t₂, t₃, v₁, rfl, h₂, h⟩
  · rcases Cmd.runs_ifElse_test.mp h with ⟨-, h⟩ | ⟨-, h⟩
    · cases (runs_warn h).2.1
    · cases (Cmd.runs_skip.mp h).2.1
  have hwarn : NoWrites t₂ ∧ v₁ = { v with
      hidePci := (m.lspci v.re).1, manualPcidevs := m.getarg "rd.qubes.hide_pci" } := by
    rcases Cmd.runs_ifElse_test.mp h₂ with ⟨-, h₂⟩ | ⟨-, h₂⟩
    · obtain ⟨hwrites₂, -, rfl⟩ := runs_warn h₂
      exact ⟨hwrites₂, rfl⟩
    · obtain ⟨rfl, -, rfl⟩ := Cmd.runs_skip.mp h₂
      exact ⟨rfl, rfl⟩
  obtain ⟨hwrites₂, rfl⟩ := hwarn
  rw [Cmd.runs_block_assign] at h
  obtain ⟨hwrites₃, hr⟩ := runs_orDie (fun _ _ _ => Cmd.runs_test.mp) h
  refine ⟨noWrites_append hwrites₁ (noWrites_append hwrites₂ hwrites₃), hr.imp_right ?_⟩
  rintro ⟨rfl, -, rfl⟩
  exact ⟨⟨_, rfl⟩, by rw [devices, ← hre]⟩

/-- The devices that dom0 keeps are chosen. -/
theorem runs_selectExempted (h : Runs m.selectExempted.plain v t r v') :
    NoWrites t ∧ (∃ status, r = .ok status) ∧ v'.hidePci = v.hidePci ∧ v'.dom0Usb = m.dom0Usb := by
  have hmodprobe : ∀ {t r v'}, Runs (Cmd.orList (.external (fun _ => .modprobe) fun _ status => status)
      .skip : BootCmd).plain v t r v' → NoWrites t ∧ (∃ status, r = .ok status) ∧ v' = v := by
    intro t r v' h
    rcases Cmd.runs_orList.mp h with ⟨jump, -, hm⟩ | ⟨rfl, hm⟩ | ⟨_, t₁, t₂, v₂, -, rfl, h₁, h₂⟩
    · obtain ⟨_, -, hr, -⟩ := Cmd.runs_external.mp hm
      cases hr
    · obtain ⟨_, rfl, -, rfl⟩ := Cmd.runs_external.mp hm
      exact ⟨rfl, ⟨_, rfl⟩, rfl⟩
    · obtain ⟨_, rfl, -, rfl⟩ := Cmd.runs_external.mp h₁
      obtain ⟨rfl, rfl, rfl⟩ := Cmd.runs_skip.mp h₂
      exact ⟨rfl, ⟨_, rfl⟩, rfl⟩
  rw [selectExempted, Cmd.runs_block_cons] at h
  rcases h with ⟨jump, -, h⟩ | ⟨_, t₁, t₂, v₁, rfl, h₁, h⟩
  · obtain ⟨-, ⟨_, hr⟩, -⟩ := hmodprobe h
    cases hr
  obtain ⟨hwrites₁, -, rfl⟩ := hmodprobe h₁
  rw [Cmd.runs_block_assign] at h
  rcases Cmd.runs_ifElse_test.mp h with ⟨hbogus, h⟩ | ⟨hbogus, h⟩
  · rw [Cmd.runs_block_cons] at h
    rcases h with ⟨jump, -, h⟩ | ⟨_, t₃, t₄, v₂, rfl, h₂, h₃⟩
    · cases (runs_warn h).2.1
    · obtain ⟨hwrites₂, -, rfl⟩ := runs_warn h₂
      obtain ⟨rfl, rfl, rfl⟩ := Cmd.runs_assign.mp h₃
      exact ⟨noWrites_append hwrites₁ (noWrites_append hwrites₂ rfl), ⟨_, rfl⟩, rfl,
        (if_pos hbogus).symm⟩
  have hvalid : m.dom0Usb = String.ofList (replaceChar ',' ' ' (m.getarg "rd.qubes.dom0_usb").toList) :=
    if_neg (by simpa using hbogus)
  rcases Cmd.runs_ifElse_test.mp h with ⟨-, h⟩ | ⟨hempty, h⟩
  · obtain ⟨rfl, rfl, rfl⟩ := Cmd.runs_assign.mp (Cmd.runs_block_assign.mp h)
    exact ⟨noWrites_append hwrites₁ rfl, ⟨_, rfl⟩, rfl, hvalid.symm⟩
  · obtain ⟨rfl, rfl, rfl⟩ := Cmd.runs_skip.mp h
    have hunset : m.getarg "rd.qubes.dom0_usb" = "" := by simpa using hempty
    exact ⟨noWrites_append hwrites₁ rfl, ⟨_, rfl⟩, rfl, by rw [hvalid, hunset]; rfl⟩

/-- Under Xen, what cannot be hidden is a fatal error. -/
theorem runs_cannotHide (hxen : m.hypervisor = .type "xen") (h : Runs m.cannotHide.plain v t r v') :
    NoWrites t ∧ r = .error (.exit m.dieStatus) := by
  rw [cannotHide, Cmd.runs_block_assign, Cmd.runs_block_cons] at h
  rcases h with ⟨jump, rfl, h⟩ | ⟨_, t₁, t₂, v₁, rfl, h₁, h⟩
  · rcases Cmd.runs_ifElse_test.mp h with ⟨-, h⟩ | ⟨-, h⟩
    · obtain ⟨hwrites, hr⟩ := runs_orDie (fun _ _ _ => Cmd.runs_assign.mp) h
      exact ⟨hwrites, hr.resolve_right fun hr => by cases hr.1⟩
    · cases (Cmd.runs_skip.mp h).2.1
  rcases Cmd.runs_ifElse_test.mp h₁ with ⟨-, h₁⟩ | ⟨hnone, -⟩
  · obtain ⟨hwrites₁, hr | ⟨-, -, rfl⟩⟩ := runs_orDie (fun _ _ _ => Cmd.runs_assign.mp) h₁
    · cases hr
    rcases Cmd.runs_ifElse_test.mp h with ⟨-, h⟩ | ⟨hother, -⟩
    · obtain ⟨rfl, hr, -⟩ := runs_die h
      exact ⟨noWrites_append hwrites₁ rfl, hr⟩
    · rw [hxen] at hother
      cases hother
  · rw [hxen] at hnone
    cases hnone

/-- Restricting the USB devices of dom0 writes nothing to a PCI device. -/
theorem runs_restrictUsb (h : Runs restrictUsb.plain v t r v') :
    NoWrites t ∧ ∃ status, r = .ok status := by
  rcases Cmd.runs_ifElse_test.mp h with ⟨-, husb⟩ | ⟨-, husb⟩
  · rw [Cmd.runs_block_cons] at husb
    rcases husb with ⟨jump, -, hjump⟩ | ⟨_, t₁, t₂, v₁, rfl, hinfo, husb⟩
    · obtain ⟨_, -, hr, -⟩ := Cmd.runs_external.mp hjump
      cases hr
    obtain ⟨_, rfl, -, rfl⟩ := Cmd.runs_external.mp hinfo
    rw [Cmd.runs_block_cons] at husb
    rcases husb with ⟨jump, -, hjump⟩ | ⟨_, t₁, t₂, v₁, rfl, henable, hstart⟩
    · obtain ⟨_, -, hr, -⟩ := Cmd.runs_external.mp hjump
      cases hr
    obtain ⟨_, rfl, -, rfl⟩ := Cmd.runs_external.mp henable
    obtain ⟨_, rfl, rfl, -⟩ := Cmd.runs_external.mp hstart
    exact ⟨rfl, _, rfl⟩
  · obtain ⟨rfl, rfl, -⟩ := Cmd.runs_skip.mp husb
    exact ⟨rfl, _, rfl⟩

/-- Where the writes are. -/
theorem filter_isWrite {t₁ t₂ t₃ t₄ t₅ : List BootEvent} (h : NoWrites (t₁ ++ (t₂ ++ t₃)))
    (h₅ : NoWrites t₅) :
    (t₁ ++ (t₂ ++ (t₃ ++ (t₄ ++ t₅)))).filter isWrite = t₄.filter isWrite := by
  have hassoc : t₁ ++ (t₂ ++ (t₃ ++ (t₄ ++ t₅))) = (t₁ ++ (t₂ ++ t₃)) ++ t₄ ++ t₅ := by simp
  rw [hassoc, List.filter_append, List.filter_append, h, h₅, List.nil_append, List.append_nil]

/-- The whole script under Xen: it dies before it writes anything, or it ends as the subshell lets
it. -/
theorem runs_script (hxen : m.hypervisor = .type "xen")
    (h : Runs (m.script.exec false) ⟨.unset, false⟩ t r s') :
    (NoWrites t ∧ ∃ status, r = .error (.exit status)) ∨
    ∃ status t₁, t.filter isWrite = t₁.filter isWrite ∧
      ((status = m.dieStatus ∧ ∃ dev ∈ m.devices, m.bdfOf dev = "") ∨
        ((∀ dev ∈ m.devices, m.bdfOf dev ≠ "") ∧ Tried m m.dom0Usb m.devices t₁ ∧
          (status ≠ 0 ↔ LastFails m m.dom0Usb m.devices t₁))) ∧
      ((∃ code, r = .ok code) ↔ status = 0) := by
  have hplain := Cmd.runs_plain (Or.inr ⟨m.script_ignoresErrexit, rfl⟩) h
  rw [script, Cmd.runs_block_cons] at hplain
  rcases hplain with ⟨jump, -, hclass⟩ | ⟨_, t₁, t₂, v₁, rfl, hclass, hplain⟩
  · obtain ⟨-, ⟨_, hr⟩, -⟩ := runs_selectClass hclass
    cases hr
  obtain ⟨hwrites₁, -, hre⟩ := runs_selectClass hclass
  rw [Cmd.runs_block_cons] at hplain
  rcases hplain with ⟨jump, rfl, hdevices⟩ | ⟨_, t₂, t₃, v₂, rfl, hdevices, hplain⟩
  · obtain ⟨hwrites₂, hr | ⟨⟨_, hr⟩, -⟩⟩ := runs_selectDevices hdevices hre
    · exact Or.inl ⟨noWrites_append hwrites₁ hwrites₂, _, hr⟩
    · cases hr
  obtain ⟨hwrites₂, hr | ⟨-, hlist⟩⟩ := runs_selectDevices hdevices hre
  · cases hr
  rw [Cmd.runs_block_cons] at hplain
  rcases hplain with ⟨jump, -, hexempted⟩ | ⟨_, t₃, t₄, v₃, rfl, hexempted, hplain⟩
  · obtain ⟨-, ⟨_, hr⟩, -⟩ := runs_selectExempted hexempted
    cases hr
  obtain ⟨hwrites₃, -, hpci, hdom0⟩ := runs_selectExempted hexempted
  have hbefore := noWrites_append hwrites₁ (noWrites_append hwrites₂ hwrites₃)
  right
  rw [Cmd.runs_block_cons] at hplain
  rcases hplain with ⟨jump, rfl, hor⟩ | ⟨_, t₅, t₆, v₄, rfl, hor, husb⟩
  · rcases Cmd.runs_orList.mp hor with ⟨jump', -, hhide⟩ | ⟨hr, -⟩ | hfails
    · obtain ⟨-, _, hr, -⟩ := runs_hideDevices hhide
      cases hr
    · cases hr
    · -- the subshell has failed
      obtain ⟨status, t₅, t₆, v₄, hstatus, rfl, hhide, hcannot⟩ := hfails
      obtain ⟨-, _, hr, hresult⟩ := runs_hideDevices hhide
      cases hr
      obtain ⟨hwrites₆, hr⟩ := runs_cannotHide hxen hcannot
      rw [hpci, hlist, hdom0] at hresult
      refine ⟨status, t₅, filter_isWrite hbefore hwrites₆, hresult, ?_⟩
      simp [hr, hstatus]
  · obtain ⟨hwrites₆, code, rfl⟩ := runs_restrictUsb husb
    rcases Cmd.runs_orList.mp hor with ⟨jump, hr, -⟩ | ⟨-, hhide⟩ | hfails
    · cases hr
    · obtain ⟨-, _, hr, hresult⟩ := runs_hideDevices hhide
      cases hr
      rw [hpci, hlist, hdom0] at hresult
      exact ⟨0, t₅, filter_isWrite hbefore hwrites₆, hresult, by simp⟩
    · obtain ⟨status, t₇, t₈, v₅, -, -, -, hcannot⟩ := hfails
      cases (runs_cannotHide hxen hcannot).2

/-- All writes for a device have been made, and have succeeded. -/
structure Hidden (t : List BootEvent) (bdf : String) : Prop where
  /-- The device is known to `pciback`. -/
  newSlot : ⟨.write .newSlot bdf, true⟩ ∈ t
  /-- The device belongs to `pciback`. -/
  bind : ⟨.write .bind bdf, true⟩ ∈ t
  /-- No write for it has failed. -/
  succeeds : ∀ e ∈ t, writtenBdf e = some bdf → writeFails e = false

/-- A failed write is a write. -/
theorem isWrite_of_writeFails {e : BootEvent} (h : writeFails e = true) : isWrite e = true := by
  revert h
  fun_cases writeFails e with
  | case1 => exact fun _ => rfl
  | case2 =>
      intro h
      cases h

/-- If all devices are tried, they are hidden just if no write fails. -/
theorem Tried.forall_hidden_iff {dom0Usb : String} {devices : List String} {t t₁ : List BootEvent}
    (h : Tried m dom0Usb devices t₁) (ht : t.filter isWrite = t₁.filter isWrite) :
    (∀ dev ∈ devices, m.exempted dom0Usb dev = false → Hidden t (m.bdfOf dev)) ↔
      ¬ ∃ e ∈ t, writeFails e = true := by
  have hmem : ∀ e, isWrite e = true → (e ∈ t ↔ e ∈ t₁) := by
    intro e he
    have hfilter : e ∈ t.filter isWrite ↔ e ∈ t₁.filter isWrite := by rw [ht]
    simpa [he] using hfilter
  constructor
  · rintro hhidden ⟨e, he, hfails⟩
    -- a failing write is one for a device of the list
    have hwrite := isWrite_of_writeFails hfails
    obtain ⟨bdf, hbdf⟩ := Option.isSome_iff_exists.mp hwrite
    obtain ⟨dev, hdev, hexempted, rfl⟩ := h.only e ((hmem e hwrite).mp he) bdf hbdf
    have hsucceeds := (hhidden dev hdev hexempted).succeeds e he hbdf
    rw [hfails] at hsucceeds
    cases hsucceeds
  · intro hnone dev hdev hexempted
    have hall : ∀ e ∈ t, writeFails e = false := by
      intro e he
      by_contra hfails
      exact hnone ⟨e, he, by simpa using hfails⟩
    obtain ⟨newSlot, bind, hn, hb⟩ := h.attempted dev hdev hexempted
    have hn' := (hmem _ rfl).mpr hn
    have hb' := (hmem _ rfl).mpr hb
    have hnewSlot : newSlot = true := by simpa [writeFails] using hall _ hn'
    have hbind : bind = true := by simpa [writeFails] using hall _ hb'
    exact ⟨hnewSlot ▸ hn', hbind ▸ hb', fun e he _ => hall e he⟩

/-- Under Xen, the script ends normally only if all devices that dom0 does not keep are hidden, except
in the runs in which a write fails, all devices are known, and the failing write is not the last one
for the last device.  It is assumed that `die` ends the shell with an error. -/
theorem hidden_iff (hdie : m.dieStatus ≠ 0) (hxen : m.hypervisor = .type "xen")
    (h : Runs (m.script.exec false) ⟨.unset, false⟩ t r s') :
    ((∃ code, r = .ok code) →
        ∀ dev ∈ m.devices, m.exempted m.dom0Usb dev = false → Hidden t (m.bdfOf dev)) ↔
      ((∃ e ∈ t, writeFails e = true) →
        (∃ dev ∈ m.devices, m.bdfOf dev = "") ∨ LastFails m m.dom0Usb m.devices t) := by
  rcases runs_script hxen h with ⟨hwrites, status, rfl⟩ | ⟨status, t₁, ht, hresult, hends⟩
  · -- nothing has been written
    refine ⟨fun _ hfails => ?_, fun _ hok => ?_⟩
    · obtain ⟨e, he, hfails⟩ := hfails
      have hmem := List.mem_filter.mpr ⟨he, isWrite_of_writeFails hfails⟩
      rw [hwrites] at hmem
      cases hmem
    · obtain ⟨_, hr⟩ := hok
      cases hr
  rcases hresult with ⟨rfl, hunknown⟩ | ⟨hall, htried, hlast⟩
  · refine ⟨fun _ _ => Or.inl hunknown, fun _ hok => ?_⟩
    exact absurd (hends.mp hok) hdie
  have hlast' : LastFails m m.dom0Usb m.devices t ↔ LastFails m m.dom0Usb m.devices t₁ := by
    rw [LastFails, LastFails, ht]
  have hnone : ¬ ∃ dev ∈ m.devices, m.bdfOf dev = "" := by
    rintro ⟨dev, hdev, hempty⟩
    exact hall dev hdev hempty
  rw [htried.forall_hidden_iff ht, hends, hlast', ← hlast]
  constructor
  · intro himp hfails
    refine Or.inr fun hstatus => himp hstatus hfails
  · intro himp hstatus hfails
    rcases himp hfails with hunknown | hne
    · exact hnone hunknown
    · exact hne hstatus

/-- A machine with two devices to hide. -/
def twoDevices : Boot where
  getarg name := if name = "rd.qubes.hide_pci" then "0000:00:14.0,0000:00:1a.0" else ""
  getargbool default _ := default = 1
  lspci _ := ("", 0)
  secondaryBus _ := none
  addBus _ _ := none
  hypervisor := .type "xen"
  dieStatus := 1

/-- Boot the machine; no device has a driver, and `bind` fails for some of them. -/
def bootPlayed (failing : List String) : List BootEvent × Except Jump Nat × State Vars :=
  play
    (fun
      | .modprobe => (0 : Nat)
      | .systemctl _ => (0 : Nat)
      | .driverPresent _ => false
      | .write .bind bdf => decide (bdf ∉ failing)
      | .write _ _ => true
      | .die _ | .warn _ | .info _ => ())
    (twoDevices.script.exec false) ⟨.unset, false⟩

/-- If no write fails, both devices are hidden. -/
theorem hidden_iff_succeeds :
    (bootPlayed []).2.1 = .ok 0 ∧
      ∀ dev ∈ twoDevices.devices, twoDevices.exempted twoDevices.dom0Usb dev = false →
        Hidden (bootPlayed []).1 (twoDevices.bdfOf dev) := by
  have hnone : ¬ ∃ e ∈ (bootPlayed []).1, writeFails e = true := by decide +kernel
  have hok : (bootPlayed []).2.1 = .ok 0 := by decide +kernel
  exact ⟨hok, (hidden_iff (by decide) rfl (runs_play _ _ _)).mpr (fun hfails => absurd hfails hnone)
    ⟨0, hok⟩⟩

/-- If `bind` fails for the first device only, the script ends normally. -/
theorem first_not_hidden :
    ∃ (t : List BootEvent) (r : Except Jump Nat) (s' : State Vars),
      Runs (twoDevices.script.exec false) ⟨.unset, false⟩ t r s' ∧ (∃ code, r = .ok code) ∧
        ¬ ∀ dev ∈ twoDevices.devices, twoDevices.exempted twoDevices.dom0Usb dev = false →
          Hidden t (twoDevices.bdfOf dev) := by
  have hok : (bootPlayed ["0000:00:14.0"]).2.1 = .ok 0 := by decide +kernel
  have hdev : "0000:00:14.0" ∈ twoDevices.devices ∧
      twoDevices.exempted twoDevices.dom0Usb "0000:00:14.0" = false := by decide +kernel
  refine ⟨_, _, _, runs_play _ _ _, ⟨0, hok⟩, fun h => ?_⟩
  have hsucceeds := (h "0000:00:14.0" hdev.1 hdev.2).succeeds
  revert hsucceeds
  change ¬ ∀ e ∈ (bootPlayed ["0000:00:14.0"]).1,
    writtenBdf e = some (twoDevices.bdfOf "0000:00:14.0") → writeFails e = false
  decide +kernel

end Boot

end PciBack

end QubesAdminLinux
