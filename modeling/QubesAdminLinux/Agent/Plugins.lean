import QubesAdminLinux.Agent.BookwormBackports
import QubesAdminLinux.Agent.DisableDeltarpm
import QubesAdminLinux.Lib.Components
import QubesAdminLinux.Lib.Histories

/-! # The plugins of the agent

Before an update, the agent runs plugins that adapt the system: each of them is meant for some systems and
does nothing on the others.

* **`runPlugins`** — the plugins, in the order of their names.
* **`Reason`** — what a plugin has to know about the system, and to have seen, before it changes anything.
* **`reason_of_changes`** — whatever the system answers, each change has its reason. -/

namespace QubesAdminLinux

namespace Plugins

open Proc

/-! ## Calls -/

/-- The plugins. -/
inductive Plugin
  | allowReleaseInfoChange
  | bookwormBackports
  | disableDeltarpm
  | fixMeminfoWriterLabel
  | manageRpmMacro
  | pipewireArchlinux
  | updatesproxyFix
  | whonix17Key
  deriving DecidableEq, Repr

/-- The module of a plugin. -/
def Plugin.moduleName : Plugin → String
  | .allowReleaseInfoChange => "allow_release_info_change"
  | .bookwormBackports => "bookworm_backports"
  | .disableDeltarpm => "disable_deltarpm"
  | .fixMeminfoWriterLabel => "fix_meminfo_writer_label"
  | .manageRpmMacro => "manage_rpm_macro"
  | .pipewireArchlinux => "pipewire_archlinux"
  | .updatesproxyFix => "updatesproxy_fix"
  | .whonix17Key => "whonix17_key"

/-- The files that the plugins look at. -/
inductive PluginFile
  | aptConf
  | sourcesList
  | prefs
  | dnfConf
  | selinuxenabled
  | meminfoWriter
  | pidFile
  | rpmMacro
  | updatesProxy
  | keyring
  deriving DecidableEq, Repr

/-- Where a file is. -/
def PluginFile.path : PluginFile → String
  | .aptConf => "/etc/apt/apt.conf.d/01qubes-update"
  | .sourcesList => "/etc/apt/sources.list.d/backports.list"
  | .prefs => "/etc/apt/preferences.d/backports_pins"
  | .dnfConf => "/etc/dnf/dnf.conf"
  | .selinuxenabled => "/usr/sbin/selinuxenabled"
  | .meminfoWriter => "/usr/bin/meminfo-writer"
  | .pidFile => "/run/meminfo-writer.pid"
  | .rpmMacro => "/usr/lib/rpm/macros.d/macros.qubes"
  | .updatesProxy => "/etc/qubes-rpc/qubes.UpdatesProxy"
  | .keyring => "/usr/share/keyrings/derivative.asc"

/-- The plugin that looks at a file. -/
abbrev PluginFile.plugin : PluginFile → Plugin
  | .aptConf => .allowReleaseInfoChange
  | .sourcesList => .bookwormBackports
  | .prefs => .bookwormBackports
  | .dnfConf => .disableDeltarpm
  | .selinuxenabled => .fixMeminfoWriterLabel
  | .meminfoWriter => .fixMeminfoWriterLabel
  | .pidFile => .fixMeminfoWriterLabel
  | .rpmMacro => .manageRpmMacro
  | .updatesProxy => .updatesproxyFix
  | .keyring => .whonix17Key

/-- The commands that the plugins run. -/
inductive PluginCommand
  | aptUris
  | dpkgList (package : Backports.Package)
  | selinuxenabled
  | listLabel (path : String)
  | chcon (path : String)
  | setenforce
  | pacmanQuery
  | pacmanUpdates
  | pacmanRemove
  | gpgListing
  deriving DecidableEq, Repr

/-- The type that `meminfo-writer` should have. -/
def expectedLabel : String := "qubes_meminfo_writer_exec_t"

/-- The name of a package of bookworm. -/
def packageName : Backports.Package → String
  | .firmware => "firmware-linux-nonfree"
  | .pipewire => "pipewire"

/-- The words of a command line. -/
def PluginCommand.argv : PluginCommand → List String
  | .aptUris => ["apt-get", "--print-uris", "update"]
  | .dpkgList package => ["dpkg", "-l", packageName package]
  | .selinuxenabled => [PluginFile.selinuxenabled.path]
  | .listLabel path => ["ls", "-Z", path]
  | .chcon path => ["chcon", "-t", expectedLabel, path]
  | .setenforce => ["setenforce", "0"]
  | .pacmanQuery => ["pacman", "-Q", "pulseaudio"]
  | .pacmanUpdates => ["pacman", "-Syup"]
  | .pacmanRemove => ["pacman", "-Rdd", "--noconfirm", "pulseaudio"]
  | .gpgListing => ["gpg", "--with-colons", PluginFile.keyring.path]

/-- The plugin that runs a command. -/
abbrev PluginCommand.plugin : PluginCommand → Plugin
  | .aptUris => .bookwormBackports
  | .dpkgList _ => .bookwormBackports
  | .selinuxenabled => .fixMeminfoWriterLabel
  | .listLabel _ => .fixMeminfoWriterLabel
  | .chcon _ => .fixMeminfoWriterLabel
  | .setenforce => .fixMeminfoWriterLabel
  | .pacmanQuery => .pipewireArchlinux
  | .pacmanUpdates => .pipewireArchlinux
  | .pacmanRemove => .pipewireArchlinux
  | .gpgListing => .whonix17Key

/-- What the caller gets: the status from `call`, the output from `check_output`, decoded unless it is
searched as bytes, and nothing from `check_call`. -/
abbrev PluginCommand.Result : PluginCommand → Type
  | .aptUris => String
  | .dpkgList _ => Bytes
  | .selinuxenabled => Int
  | .listLabel _ => String
  | .chcon _ => Unit
  | .setenforce => Unit
  | .pacmanQuery => Int
  | .pacmanUpdates => String
  | .pacmanRemove => Unit
  | .gpgListing => String

/-- The exceptions of a plugin; `FileNotFoundError` is an `OSError`, and `UnicodeDecodeError` a
`ValueError`. -/
inductive PluginError
  | calledProcessError
  | osError
  | valueError
  | keyError
  | attributeError
  | overflowError
  deriving DecidableEq, Repr

/-- The calls of the plugins. -/
inductive PluginCall
  /-- `os.path.exists`. -/
  | pathExists (file : PluginFile)
  /-- Open a file and read it. -/
  | read (file : PluginFile)
  /-- Open a file and write it anew. -/
  | write (file : PluginFile) (content : List Char)
  /-- `os.remove`. -/
  | remove (file : PluginFile)
  /-- A function of `subprocess`. -/
  | run (command : PluginCommand)
  /-- `os.kill(pid, signal.SIGUSR1)`. -/
  | kill (pid : Int)

/-- What a call returns or raises. -/
abbrev PluginCall.Reply : PluginCall → Type
  | .pathExists _ => Bool
  | .read _ => Except PluginError (List Char)
  | .write _ _ => Except PluginError Unit
  | .remove _ => Except PluginError Unit
  | .run command => Except PluginError command.Result
  | .kill _ => Except PluginError Unit

/-- The plugin that makes a call. -/
abbrev PluginCall.plugin : PluginCall → Plugin
  | .pathExists file => file.plugin
  | .read file => file.plugin
  | .write file _ => file.plugin
  | .remove file => file.plugin
  | .run command => command.plugin
  | .kill _ => .fixMeminfoWriterLabel

/-- Whether a call changes the system, apart from lists of packages that are downloaded. -/
def PluginCall.changes : PluginCall → Bool
  | .write _ _ => true
  | .remove _ => true
  | .run (.chcon _) => true
  | .run .setenforce => true
  | .run .pacmanRemove => true
  | .kill _ => true
  | _ => false

/-- An event of a plugin. -/
abbrev PluginEvent := Event PluginCall.Reply

/-- Code of a plugin: its state are the requirements. -/
abbrev PluginM (α : Type) := Proc PluginCall PluginCall.Reply (Dict String String) PluginError α

/-- `os.path.exists`. -/
def pathExists (file : PluginFile) : PluginM Bool := request (PluginCall.pathExists file)

/-- The content of a file. -/
def read (file : PluginFile) : PluginM (List Char) := ask (PluginCall.read file) fun reply => reply

/-- Write a file. -/
def write (file : PluginFile) (content : List Char) : PluginM Unit :=
  ask (PluginCall.write file content) fun reply => reply

/-- Run a command. -/
def run (command : PluginCommand) : PluginM command.Result :=
  ask (PluginCall.run command) fun reply => reply

/-- Run a command, with `none` if it fails. -/
def unlessFailed (command : PluginCommand) : PluginM (Option command.Result) :=
  tryCatch (do return some (← run command)) fun exc =>
    if exc = .calledProcessError then pure none else throw exc

/-! ## The plugins -/

/-- What is written for `buster`. -/
def allowReleaseInfoChangeText : List Char := "\nAcquire::AllowReleaseInfoChange \"false\";\n".toList

/-- `allow_release_info_change`. -/
def allowReleaseInfoChange (osData : OsRelease.OsData) : PluginM Unit :=
  if osData.codename = some (.str "buster") then write .aptConf allowReleaseInfoChangeText else pure ()

/-- `check_package_not_from_backports`. -/
def checkPackageNotFromBackports (package : Backports.Package) : PluginM Bool := do
  return Backports.checkPackageNotFromBackports (← unlessFailed (.dpkgList package))

/-- `add_backports_repo`: what is written if there is no such list yet does not depend on the list. -/
def addBackportsRepo : PluginM Unit := do
  match Backports.addBackportsRepo (← unlessFailed .aptUris) none with
  | none => pure ()
  | some sources => do
      let present ← pathExists .sourcesList
      if present then pure () else write .sourcesList sources.toList

/-- The pins for packages that are not from backports. -/
def prefsText (updateFirmware updatePipewire : Bool) : List Char :=
  (if updateFirmware then Backports.Package.firmware.prefsData else [])
    ++ (if updatePipewire then Backports.Package.pipewire.prefsData else [])

/-- `bookworm_backports`. -/
def bookwormBackports (osData : OsRelease.OsData) : PluginM Unit :=
  if osData.codename = some (.str "bookworm") then do
    let updateFirmware ← checkPackageNotFromBackports .firmware
    let updatePipewire ← checkPackageNotFromBackports .pipewire
    if updateFirmware = false ∧ updatePipewire = false then pure ()
    else do
      addBackportsRepo
      let present ← pathExists .prefs
      if present then pure () else write .prefs (prefsText updateFirmware updatePipewire)
  else pure ()

/-- `disable_deltarpm`. -/
def disableDeltarpm (osData : OsRelease.OsData) : PluginM Unit :=
  if osData.osFamily = "RedHat" then do
    let content ← read .dnfConf
    match Deltarpm.disableIn (fileLines content) with
    | none => throw .valueError
    | some lines => write .dnfConf lines.flatten
  else pure ()

/-- The guarded part of `fix_meminfo_writer_label`: whether the label has been changed. -/
def relabel (meminfoPath : String) : PluginM Bool := do
  let enabled : Option Int ← unlessFailed .selinuxenabled
  if enabled = some 0 then do
    match ← unlessFailed (.listLabel meminfoPath) with
    | none => pure false
    | some output => do
        let expected := Backports.contains output expectedLabel
        let changed : Option Unit ← if expected then pure (some ()) else unlessFailed (.chcon meminfoPath)
        match changed with
        | none => pure false
        | some () => do
            -- a failure is logged, and the label has been changed all the same
            let _ ← unlessFailed .setenforce
            pure (!expected)
  else pure false

/-- Tell `meminfo-writer` about its label. -/
def signalWriter : PluginM Unit :=
  tryCatch (do
    let text ← read .pidFile
    match PyFloat.intOfText? (String.ofList text) with
    | some pid => ask (PluginCall.kill pid) fun reply => reply
    | none => throw .valueError) fun exc =>
    if exc = .osError ∨ exc = .valueError then pure () else throw exc

/-- `fix_meminfo_writer_label`. -/
def fixMeminfoWriterLabel (osData : OsRelease.OsData) : PluginM Unit :=
  if osData.id = "fedora" then do
    let selinux ← pathExists .selinuxenabled
    if selinux then do
      let present ← pathExists .meminfoWriter
      let labelChanged ←
        relabel (if present then PluginFile.meminfoWriter.path else "/usr/sbin/meminfo-writer")
      if labelChanged then signalWriter else pure ()
    else pure ()
  else pure ()

/-- What is written for an old Fedora. -/
def rpmMacroText : List Char := "# CVE-2021-20271 mitigation\n%_pkgverify_level all".toList

/-- The version of Fedora. -/
def fedoraVersion (release : String) : Int :=
  (PyFloat.intOfText? (String.ofList (release.toList.takeWhile (· ≠ '.')))).getD 99

/-- The requirements of systems like RHEL. -/
def rhelRequirements : Dict String String := Dict.ofList [("dnf", "4.7.0"), ("rpm", "4.14.2")]

/-- `manage_rpm_macro`. -/
def manageRpmMacro (osData : OsRelease.OsData) : PluginM Unit :=
  if osData.osFamily = "RedHat" then
    if osData.id = "fedora" then
      match osData.release with
      | none => throw .keyError
      | some (.tuple _) => throw .attributeError
      | some (.str release) =>
          if fedoraVersion release < 33 then write .rpmMacro rpmMacroText else pure ()
    else do
      let present ← pathExists .rpmMacro
      if present then ask (PluginCall.remove .rpmMacro) fun reply => reply else pure ()
      modify fun requirements => requirements.update rhelRequirements
  else pure ()

/-- Whether `pipewire-pulse` is going to be installed. -/
def listsPipewire (updateList : String) : Bool :=
  (splitLines updateList).any fun line => Backports.contains line "/pipewire-pulse-"

/-- `pipewire_archlinux`. -/
def pipewireArchlinux (osData : OsRelease.OsData) : PluginM Unit :=
  if osData.osFamily ≠ "ArchLinux" then pure ()
  else do
    let p : Int ← run .pacmanQuery
    if p ≠ 0 then pure ()
    else do
      let updateList ← run .pacmanUpdates
      if listsPipewire updateList then run .pacmanRemove else pure ()

/-- The service with the address that does not work. -/
def brokenProxy : String := "STDIO TCP:localhost:8082"

/-- The service that works. -/
def updatesProxyText : List Char := "exec socat STDIO TCP4:127.0.0.1:8082\n".toList

/-- `updatesproxy_fix`. -/
def updatesproxyFix (osData : OsRelease.OsData) : PluginM Unit :=
  if osData.osFamily = "RedHat" then do
    let present ← pathExists .updatesProxy
    if present then do
      let content ← read .updatesProxy
      if Backports.contains (String.ofList content) brokenProxy then write .updatesProxy updatesProxyText
      else pure ()
    else pure ()
  else pure ()

/-- Whether there is an expired key. -/
def listsExpired (keyInfo : String) : Bool :=
  (splitLines keyInfo).any fun line => "pub:e:".toList.isPrefixOf line.toList

/-- `whonix17_key`, for the key that comes with it. -/
def whonix17Key (kicksecureKey : List Char) (osData : OsRelease.OsData) : PluginM Unit :=
  if osData.codename ≠ some (.str "bookworm") then pure ()
  else do
    let present ← pathExists .keyring
    if present then do
      let keyInfo ← run .gpgListing
      if listsExpired keyInfo then write .keyring kicksecureKey else pure ()
    else pure ()

/-- The function of a plugin. -/
def Plugin.entrypoint (kicksecureKey : List Char) (osData : OsRelease.OsData) : Plugin → PluginM Unit
  | .allowReleaseInfoChange => Plugins.allowReleaseInfoChange osData
  | .bookwormBackports => Plugins.bookwormBackports osData
  | .disableDeltarpm => Plugins.disableDeltarpm osData
  | .fixMeminfoWriterLabel => Plugins.fixMeminfoWriterLabel osData
  | .manageRpmMacro => Plugins.manageRpmMacro osData
  | .pipewireArchlinux => Plugins.pipewireArchlinux osData
  | .updatesproxyFix => Plugins.updatesproxyFix osData
  | .whonix17Key => Plugins.whonix17Key kicksecureKey osData

/-- `plugins.entrypoints`: the modules are sorted by their names. -/
def entrypoints : List Plugin :=
  [.allowReleaseInfoChange, .bookwormBackports, .disableDeltarpm, .fixMeminfoWriterLabel,
    .manageRpmMacro, .pipewireArchlinux, .updatesproxyFix, .whonix17Key]

example : (entrypoints.map Plugin.moduleName).Pairwise (· < ·) := by decide +kernel

/-- The plugins one after the other; an exception ends them all. -/
def runPlugins (kicksecureKey : List Char) (osData : OsRelease.OsData) : PluginM Unit :=
  runAll (Plugin.entrypoint kicksecureKey osData) entrypoints

/-! ## Reasons for a change -/

section Reasons

variable (kicksecureKey : List Char) (osData : OsRelease.OsData)

/-- `dpkg` has listed a package that is not from backports. -/
def Outside (before : List PluginEvent) (package : Backports.Package) : Prop :=
  ∃ output, ⟨.run (.dpkgList package), Except.ok output⟩ ∈ before ∧
    Backports.checkPackageNotFromBackports (some output) = true

/-- What holds of the system, and has been seen, before a change. -/
inductive Reason (before : List PluginEvent) : PluginCall → Prop
  /-- Debian buster. -/
  | aptConf (hname : osData.codename = some (.str "buster")) :
      Reason before (.write .aptConf allowReleaseInfoChangeText)
  /-- Debian bookworm without the list, an address of the repository, and a package of which the backport
  is wanted. -/
  | sources {uris sources : String} {package : Backports.Package}
      (hname : osData.codename = some (.str "bookworm")) (hpackage : Outside before package)
      (huris : ⟨.run .aptUris, Except.ok uris⟩ ∈ before)
      (hsources : Backports.addBackportsRepo (some uris) none = some sources)
      (habsent : ⟨.pathExists .sourcesList, false⟩ ∈ before) :
      Reason before (.write .sourcesList sources.toList)
  /-- Debian bookworm without pins, and packages of which the backports are wanted. -/
  | prefs {updateFirmware updatePipewire : Bool}
      (hname : osData.codename = some (.str "bookworm"))
      (hsome : updateFirmware = true ∨ updatePipewire = true)
      (hfirmware : updateFirmware = true → Outside before .firmware)
      (hpipewire : updatePipewire = true → Outside before .pipewire)
      (habsent : ⟨.pathExists .prefs, false⟩ ∈ before) :
      Reason before (.write .prefs (prefsText updateFirmware updatePipewire))
  /-- A system like Fedora, and a file with both markers. -/
  | dnfConf {content : List Char} {lines : List (List Char)} (hfamily : osData.osFamily = "RedHat")
      (hread : ⟨.read .dnfConf, Except.ok content⟩ ∈ before)
      (hlines : Deltarpm.disableIn (fileLines content) = some lines) :
      Reason before (.write .dnfConf lines.flatten)
  /-- Fedora with SELinux, and a file with another label. -/
  | chcon {path output : String} (hid : osData.id = "fedora")
      (henabled : ⟨.run .selinuxenabled, Except.ok (0 : Int)⟩ ∈ before)
      (hlabel : ⟨.run (.listLabel path), Except.ok output⟩ ∈ before)
      (hother : Backports.contains output expectedLabel = false) : Reason before (.run (.chcon path))
  /-- Fedora with SELinux. -/
  | setenforce (hid : osData.id = "fedora")
      (henabled : ⟨.run .selinuxenabled, Except.ok (0 : Int)⟩ ∈ before) :
      Reason before (.run .setenforce)
  /-- The label of the running program has been changed. -/
  | kill {path : String} {text : List Char} {pid : Int}
      (hchcon : ⟨.run (.chcon path), Except.ok ()⟩ ∈ before)
      (hread : ⟨.read .pidFile, Except.ok text⟩ ∈ before)
      (hpid : PyFloat.intOfText? (String.ofList text) = some pid) : Reason before (.kill pid)
  /-- An old Fedora. -/
  | writeMacro {release : String} (hfamily : osData.osFamily = "RedHat") (hid : osData.id = "fedora")
      (hrelease : osData.release = some (.str release)) (hold : fedoraVersion release < 33) :
      Reason before (.write .rpmMacro rpmMacroText)
  /-- A system like RHEL that has the file. -/
  | removeMacro (hfamily : osData.osFamily = "RedHat") (hid : osData.id ≠ "fedora")
      (hpresent : ⟨.pathExists .rpmMacro, true⟩ ∈ before) : Reason before (.remove .rpmMacro)
  /-- Arch Linux with `pulseaudio`, just before `pipewire-pulse` is installed. -/
  | pacmanRemove {updateList : String} (hfamily : osData.osFamily = "ArchLinux")
      (hinstalled : ⟨.run .pacmanQuery, Except.ok (0 : Int)⟩ ∈ before)
      (hupdates : ⟨.run .pacmanUpdates, Except.ok updateList⟩ ∈ before)
      (hlisted : listsPipewire updateList = true) : Reason before (.run .pacmanRemove)
  /-- A system like Fedora with the service that does not work. -/
  | updatesProxy {content : List Char} (hfamily : osData.osFamily = "RedHat")
      (hread : ⟨.read .updatesProxy, Except.ok content⟩ ∈ before)
      (hbroken : Backports.contains (String.ofList content) brokenProxy = true) :
      Reason before (.write .updatesProxy updatesProxyText)
  /-- Debian bookworm, and an expired key in the keyring. -/
  | keyring {keyInfo : String} (hname : osData.codename = some (.str "bookworm"))
      (hpresent : ⟨.pathExists .keyring, true⟩ ∈ before)
      (hlisting : ⟨.run .gpgListing, Except.ok keyInfo⟩ ∈ before)
      (hexpired : listsExpired keyInfo = true) : Reason before (.write .keyring kicksecureKey)

/-- A call that changes the system has its reason. -/
def Justified (before : List PluginEvent) (call : PluginCall) : Prop :=
  call.changes = true → Reason kicksecureKey osData before call

/-- The calls of a plugin. -/
def Allowed (plugin : Plugin) (before : List PluginEvent) (call : PluginCall) : Prop :=
  call.plugin = plugin ∧ Justified kicksecureKey osData before call

variable {kicksecureKey osData} {past : List PluginEvent} {plugin : Plugin} {α : Type}

/-- A call that changes nothing needs no reason. -/
theorem allowed_of_not_changes {call : PluginCall} (h : call.changes = false) :
    Allowed kicksecureKey osData call.plugin past call := by
  refine ⟨rfl, fun hchanges => ?_⟩
  rw [h] at hchanges
  cases hchanges

/-- Another call needs one. -/
theorem allowed_of_reason {call : PluginCall} (h : Reason kicksecureKey osData past call) :
    Allowed kicksecureKey osData call.plugin past call := ⟨rfl, fun _ => h⟩

/-- A file may be written with a reason. -/
theorem heeds_write {file : PluginFile} {content : List Char}
    (h : Reason kicksecureKey osData past (.write file content)) :
    Heeds (Allowed kicksecureKey osData file.plugin) past (write file content) :=
  heeds_ask (allowed_of_reason h)

/-- The test for a file needs no reason, and its result is known from then on. -/
theorem heeds_pathExists_bind {file : PluginFile} {f : Bool → PluginM α}
    (hf : ∀ present, Heeds (Allowed kicksecureKey osData file.plugin) (past ++ [⟨.pathExists file, present⟩])
      (f present)) : Heeds (Allowed kicksecureKey osData file.plugin) past (pathExists file >>= f) :=
  heeds_request_bind (allowed_of_not_changes rfl) hf

/-- Reading a file needs no reason, and its content is known from then on. -/
theorem heeds_read_bind {file : PluginFile} {f : List Char → PluginM α}
    (hf : ∀ content, Heeds (Allowed kicksecureKey osData file.plugin) (past ++ [⟨.read file, .ok content⟩])
      (f content)) : Heeds (Allowed kicksecureKey osData file.plugin) past (read file >>= f) :=
  heeds_ask_bind (allowed_of_not_changes rfl) fun _ content hreply => hreply ▸ hf content

/-- A command that changes nothing needs no reason, and its result is known from then on. -/
theorem heeds_run_bind {command : PluginCommand} {f : command.Result → PluginM α}
    (hcommand : (PluginCall.run command).changes = false)
    (hf : ∀ result, Heeds (Allowed kicksecureKey osData command.plugin) (past ++ [⟨.run command, .ok result⟩])
      (f result)) : Heeds (Allowed kicksecureKey osData command.plugin) past (run command >>= f) :=
  heeds_ask_bind (allowed_of_not_changes hcommand) fun _ result hreply => hreply ▸ hf result

/-- A command that may fail, and what follows it. -/
theorem heeds_unlessFailed_bind {command : PluginCommand} {f : Option command.Result → PluginM α}
    (hcommand : Allowed kicksecureKey osData command.plugin past (.run command))
    (hok : ∀ result, Heeds (Allowed kicksecureKey osData command.plugin) (past ++ [⟨.run command, .ok result⟩])
      (f (some result)))
    (hfailed : Heeds (Allowed kicksecureKey osData command.plugin)
      (past ++ [⟨.run command, .error .calledProcessError⟩]) (f none)) :
    Heeds (Allowed kicksecureKey osData command.plugin) past (unlessFailed command >>= f) := by
  have hrun : Heeds (Allowed kicksecureKey osData command.plugin) past (unlessFailed command) := by
    refine heeds_tryCatch (heeds_ask_bind hcommand fun _ _ _ => heeds_pure) fun _ _ exc _ _ => ?_
    split
    · exact heeds_pure
    · exact heeds_throw
  refine heeds_bind hrun fun s t outcome s' h => ?_
  rcases runs_tryCatch.mp h with ⟨some?, hr, h⟩ | ⟨exc, t₁, t₂, s₁, rfl, h, hhandler⟩
  · cases hr
    obtain ⟨result, t₁, t₂, s₁, rfl, h, hpure⟩ := runs_bind_ok.mp h
    obtain ⟨reply, rfl, hreply, -⟩ := runs_ask.mp h
    obtain ⟨rfl, hresult, -⟩ := runs_pure.mp hpure
    cases hresult
    rw [List.append_nil, ← hreply]
    exact hok result
  · rcases runs_bind.mp h with ⟨exc', hexc, h⟩ | ⟨result, t₃, t₄, s₂, -, -, hpure⟩
    · cases hexc
      obtain ⟨reply, rfl, hreply, -⟩ := runs_ask.mp h
      split at hhandler
      · rename_i hfailure
        obtain ⟨rfl, houtcome, -⟩ := runs_pure.mp hhandler
        cases houtcome
        rw [List.append_nil, ← hreply, hfailure]
        exact hfailed
      · cases (runs_throw.mp hhandler).2.1
    · cases (runs_pure.mp hpure).2.1

/-- A package of which the backport may be wanted. -/
theorem heeds_checkPackage_bind {package : Backports.Package} {f : Bool → PluginM α}
    (hf : ∀ update more, (update = true → Outside (past ++ more) package) →
      Heeds (Allowed kicksecureKey osData .bookwormBackports) (past ++ more) (f update)) :
    Heeds (Allowed kicksecureKey osData .bookwormBackports) past
      (checkPackageNotFromBackports package >>= f) := by
  rw [checkPackageNotFromBackports, bind_assoc]
  refine heeds_unlessFailed_bind (allowed_of_not_changes rfl) (fun output => ?_) ?_
  · rw [pure_bind]
    exact hf _ _ fun hupdate => ⟨output, by simp, hupdate⟩
  · rw [pure_bind]
    exact hf _ _ fun hupdate => by cases hupdate

/-- What has been listed stays listed. -/
theorem Outside.mono {before more : List PluginEvent} {package : Backports.Package}
    (h : Outside before package) : Outside (before ++ more) package := by
  obtain ⟨output, hmem, houtput⟩ := h
  exact ⟨output, List.mem_append_left _ hmem, houtput⟩

/-- The list of backports. -/
theorem heeds_addBackportsRepo_bind {package : Backports.Package} {f : Unit → PluginM α}
    (hname : osData.codename = some (.str "bookworm")) (hpackage : Outside past package)
    (hf : ∀ more, Heeds (Allowed kicksecureKey osData .bookwormBackports) (past ++ more) (f ())) :
    Heeds (Allowed kicksecureKey osData .bookwormBackports) past (addBackportsRepo >>= f) := by
  have hrepo : Heeds (Allowed kicksecureKey osData .bookwormBackports) past addBackportsRepo := by
    refine heeds_unlessFailed_bind (allowed_of_not_changes rfl) (fun (uris : String) => ?_) heeds_pure
    cases hsources : Backports.addBackportsRepo (some uris) none with
    | none => exact heeds_pure
    | some sources =>
        refine heeds_pathExists_bind fun present => ?_
        cases present with
        | true => exact heeds_pure
        | false => exact heeds_write (.sources hname hpackage.mono.mono (by simp) hsources (by simp))
  exact heeds_bind hrepo fun _ more _ _ _ => hf more

/-- The list and the pins of the backports are written with a reason. -/
theorem heeds_bookwormBackports :
    Heeds (Allowed kicksecureKey osData .bookwormBackports) past (bookwormBackports osData) := by
  rw [bookwormBackports]
  split
  · rename_i hname
    refine heeds_checkPackage_bind fun updateFirmware first hfirmware =>
      heeds_checkPackage_bind fun updatePipewire second hpipewire => ?_
    have hfirmware : updateFirmware = true → Outside (past ++ first ++ second) .firmware :=
      fun hupdate => (hfirmware hupdate).mono
    split
    · exact heeds_pure
    · rename_i hneeded
      have hsome : updateFirmware = true ∨ updatePipewire = true := by
        cases updateFirmware <;> cases updatePipewire <;> simp_all
      obtain ⟨package, hpackage⟩ : ∃ package, Outside (past ++ first ++ second) package :=
        hsome.elim (fun h => ⟨_, hfirmware h⟩) fun h => ⟨_, hpipewire h⟩
      refine heeds_addBackportsRepo_bind hname hpackage fun third =>
        heeds_pathExists_bind fun present => ?_
      cases present with
      | true => exact heeds_pure
      | false =>
          exact heeds_write (.prefs hname hsome (fun h => (hfirmware h).mono.mono)
            (fun h => (hpipewire h).mono.mono) (by simp))
  · exact heeds_pure

/-- `deltarpm` is disabled with a reason. -/
theorem heeds_disableDeltarpm :
    Heeds (Allowed kicksecureKey osData .disableDeltarpm) past (disableDeltarpm osData) := by
  rw [disableDeltarpm]
  split
  · rename_i hfamily
    refine heeds_read_bind fun content => ?_
    cases hlines : Deltarpm.disableIn (fileLines content) with
    | none => exact heeds_throw
    | some lines => exact heeds_write (.dnfConf hfamily (by simp) hlines)
  · exact heeds_pure

/-- The label is changed for a reason, and what follows knows about it. -/
theorem heeds_relabel_bind {path : String} {f : Bool → PluginM α} (hid : osData.id = "fedora")
    (hf : ∀ labelChanged more,
      (labelChanged = true → ⟨.run (.chcon path), Except.ok ()⟩ ∈ past ++ more) →
        Heeds (Allowed kicksecureKey osData .fixMeminfoWriterLabel) (past ++ more) (f labelChanged)) :
    Heeds (Allowed kicksecureKey osData .fixMeminfoWriterLabel) past (relabel path >>= f) := by
  have hnone : ∀ more, Heeds (Allowed kicksecureKey osData .fixMeminfoWriterLabel) (past ++ more) (f false) :=
    fun more => hf false more fun h => by cases h
  rw [relabel, bind_assoc]
  refine heeds_unlessFailed_bind (allowed_of_not_changes rfl) (fun (code : Int) => ?_) ?_
  · by_cases hcode : some code = some 0
    · obtain rfl := Option.some.inj hcode
      rw [if_pos hcode, bind_assoc]
      refine heeds_unlessFailed_bind (allowed_of_not_changes rfl) (fun (output : String) => ?_) ?_
      · dsimp only
        -- a file with the label is left alone
        have hlast : ∀ (expected : Bool) more, ⟨.run .selinuxenabled, Except.ok (0 : Int)⟩ ∈ more →
            (expected = false → ⟨.run (.chcon path), Except.ok ()⟩ ∈ past ++ more) →
            Heeds (Allowed kicksecureKey osData .fixMeminfoWriterLabel) (past ++ more) ((do
              let _ ← unlessFailed .setenforce
              pure (!expected)) >>= f) := by
          intro expected more henabled hchcon
          rw [bind_assoc]
          have hreason : Allowed kicksecureKey osData .fixMeminfoWriterLabel (past ++ more)
              (.run .setenforce) :=
            allowed_of_reason (.setenforce hid (List.mem_append_right _ henabled))
          refine heeds_unlessFailed_bind hreason (fun _ => ?_) ?_
          all_goals
            rw [pure_bind, List.append_assoc]
            refine hf _ _ fun hchanged => ?_
            rw [← List.append_assoc]
            exact List.mem_append_left _ (hchcon (by simpa using hchanged))
        split
        · rename_i hexpected
          rw [pure_bind, hexpected, List.append_assoc]
          exact hlast true _ (by simp) fun h => by cases h
        · rename_i hexpected
          have hother : Backports.contains output expectedLabel = false := by simpa using hexpected
          rw [bind_assoc, hother]
          refine heeds_unlessFailed_bind (allowed_of_reason (.chcon hid (by simp) (by simp) hother))
            (fun (_ : Unit) => ?_) ?_
          · rw [List.append_assoc, List.append_assoc]
            exact hlast false _ (by simp) fun _ => by simp
          · rw [pure_bind, List.append_assoc, List.append_assoc]
            exact hnone _
      · rw [pure_bind, List.append_assoc]
        exact hnone _
    · rw [if_neg hcode, pure_bind]
      exact hnone _
  · rw [if_neg (by simp), pure_bind]
    exact hnone _

/-- The meminfo writer is signalled only after its label has been changed. -/
theorem heeds_signalWriter {path : String} (hchcon : ⟨.run (.chcon path), Except.ok ()⟩ ∈ past) :
    Heeds (Allowed kicksecureKey osData .fixMeminfoWriterLabel) past signalWriter := by
  refine heeds_tryCatch (heeds_read_bind fun text => ?_) fun _ _ exc _ _ => ?_
  · cases hpid : PyFloat.intOfText? (String.ofList text) with
    | none => exact heeds_throw
    | some pid => exact heeds_ask (allowed_of_reason (.kill (List.mem_append_left _ hchcon) (by simp) hpid))
  · split
    · exact heeds_pure
    · exact heeds_throw

/-- The label and the enforcement are changed with a reason. -/
theorem heeds_fixMeminfoWriterLabel :
    Heeds (Allowed kicksecureKey osData .fixMeminfoWriterLabel) past (fixMeminfoWriterLabel osData) := by
  rw [fixMeminfoWriterLabel]
  split
  · rename_i hid
    refine heeds_pathExists_bind fun selinux => ?_
    split
    · refine heeds_pathExists_bind fun present => heeds_relabel_bind hid fun labelChanged more h => ?_
      cases labelChanged with
      | true => exact heeds_signalWriter (h rfl)
      | false => exact heeds_pure
    · exact heeds_pure
  · exact heeds_pure

/-- The macros of RPM are written or removed with a reason. -/
theorem heeds_manageRpmMacro :
    Heeds (Allowed kicksecureKey osData .manageRpmMacro) past (manageRpmMacro osData) := by
  have hmodify : ∀ past, Heeds (Allowed kicksecureKey osData .manageRpmMacro) past
      (modify fun requirements => requirements.update rhelRequirements : PluginM Unit) := by
    intro past s t r s' h
    rw [(Program.runs_pure.mp h).1]
    exact heeded_nil
  rw [manageRpmMacro]
  split
  · rename_i hfamily
    split
    · rename_i hid
      cases hrelease : osData.release with
      | none => exact heeds_throw
      | some value =>
          cases value with
          | tuple repr => exact heeds_throw
          | str release =>
              dsimp only
              split
              · rename_i hold
                exact heeds_write (.writeMacro hfamily hid hrelease hold)
              · exact heeds_pure
    · rename_i hid
      refine heeds_pathExists_bind fun present => ?_
      cases present with
      | true =>
          exact heeds_ask_bind (allowed_of_reason (.removeMacro hfamily hid (by simp))) fun _ _ _ =>
            hmodify _
      | false => exact hmodify _
  · exact heeds_pure

/-- Pulseaudio is removed with a reason. -/
theorem heeds_pipewireArchlinux :
    Heeds (Allowed kicksecureKey osData .pipewireArchlinux) past (pipewireArchlinux osData) := by
  rw [pipewireArchlinux]
  split
  · exact heeds_pure
  · rename_i hfamily
    refine heeds_run_bind rfl fun (code : Int) => ?_
    split
    · exact heeds_pure
    · rename_i hcode
      obtain rfl : code = 0 := not_not.mp hcode
      refine heeds_run_bind rfl fun (updateList : String) => ?_
      split
      · rename_i hlisted
        exact heeds_ask (allowed_of_reason
          (.pacmanRemove (not_not.mp hfamily) (by simp) (by simp) hlisted))
      · exact heeds_pure

/-- The updates proxy is replaced with a reason. -/
theorem heeds_updatesproxyFix :
    Heeds (Allowed kicksecureKey osData .updatesproxyFix) past (updatesproxyFix osData) := by
  rw [updatesproxyFix]
  split
  · rename_i hfamily
    refine heeds_pathExists_bind fun present => ?_
    split
    · refine heeds_read_bind fun content => ?_
      split
      · rename_i hbroken
        exact heeds_write (.updatesProxy hfamily (by simp) hbroken)
      · exact heeds_pure
    · exact heeds_pure
  · exact heeds_pure

/-- The key of Whonix is written with a reason. -/
theorem heeds_whonix17Key :
    Heeds (Allowed kicksecureKey osData .whonix17Key) past (whonix17Key kicksecureKey osData) := by
  rw [whonix17Key]
  split
  · exact heeds_pure
  · rename_i hname
    refine heeds_pathExists_bind fun present => ?_
    cases present with
    | true =>
        refine heeds_run_bind rfl fun (keyInfo : String) => ?_
        split
        · rename_i hexpired
          exact heeds_write (.keyring (not_not.mp hname) (by simp) (by simp) hexpired)
        · exact heeds_pure
    | false => exact heeds_pure

/-- Each plugin has its reasons. -/
theorem heeds_entrypoint (plugin : Plugin) :
    Heeds (Allowed kicksecureKey osData plugin) past (plugin.entrypoint kicksecureKey osData) := by
  cases plugin with
  | allowReleaseInfoChange =>
      rw [Plugin.entrypoint, allowReleaseInfoChange]
      split
      · rename_i hname
        exact heeds_write (.aptConf hname)
      · exact heeds_pure
  | bookwormBackports => exact heeds_bookwormBackports
  | disableDeltarpm => exact heeds_disableDeltarpm
  | fixMeminfoWriterLabel => exact heeds_fixMeminfoWriterLabel
  | manageRpmMacro => exact heeds_manageRpmMacro
  | pipewireArchlinux => exact heeds_pipewireArchlinux
  | updatesproxyFix => exact heeds_updatesproxyFix
  | whonix17Key => exact heeds_whonix17Key

/-- In a run of several plugins, each change has its reason. -/
theorem heeds_runAll (plugins : List Plugin) : Heeds (Justified kicksecureKey osData) past
    (runAll (Plugin.entrypoint kicksecureKey osData) plugins) := by
  induction plugins generalizing past with
  | nil => exact heeds_pure
  | cons plugin plugins ih =>
      have hplugin := @heeds_entrypoint kicksecureKey osData past plugin
      exact heeds_bind (hplugin.imp fun _ _ h => h.2) fun _ _ _ _ _ => ih

/-- Whatever the system answers, a plugin changes only a system that it is meant for, and only after it has
seen that the change is needed. -/
theorem reason_of_changes {s s' : Dict String String} {t : List PluginEvent}
    {r : Except PluginError Unit} (h : Runs (runPlugins kicksecureKey osData) s t r s')
    {t₁ t₂ : List PluginEvent} {e : PluginEvent} (heq : t = t₁ ++ e :: t₂)
    (hchanges : e.call.changes = true) : Reason kicksecureKey osData t₁ e.call := by
  have hallowed := heeded_iff.mp (@heeds_runAll _ _ [] entrypoints _ _ _ _ h) t₁ e t₂ heq
  exact hallowed hchanges

end Reasons

/-- Arch Linux. -/
def archLinux : OsRelease.OsData := { id := "arch", name := "Arch Linux", osFamily := "ArchLinux" }

/-- An update that replaces `pulseaudio`. -/
def pipewireUpdate : String :=
  "file:///var/cache/pacman/pkg/pipewire-pulse-1.0.5-1-x86_64.pkg.tar.zst\n"

/-- A system that is about to get this update. -/
def replacesPulseaudio : (c : PluginCall) → c.Reply
  | .run .pacmanUpdates => .ok pipewireUpdate
  | .run .pacmanQuery => .ok (0 : Int)
  | .run .pacmanRemove => .ok ()
  | .run _ => .error .osError
  | .pathExists _ => false
  | .read _ => .error .osError
  | .write _ _ => .ok ()
  | .remove _ => .ok ()
  | .kill _ => .ok ()

/-- On Arch Linux, pulseaudio is removed because pipewire is among the updates. -/
theorem reason_of_changes_archLinux :
    Reason [] archLinux [⟨.run .pacmanQuery, Except.ok (0 : Int)⟩,
      ⟨.run .pacmanUpdates, Except.ok pipewireUpdate⟩] (.run .pacmanRemove) := by
  have hrun := runs_play replacesPulseaudio (runPlugins [] archLinux) Dict.empty
  have htrace : (play replacesPulseaudio (runPlugins [] archLinux) Dict.empty).1 =
      [⟨.run .pacmanQuery, Except.ok (0 : Int)⟩, ⟨.run .pacmanUpdates, Except.ok pipewireUpdate⟩]
        ++ ⟨.run .pacmanRemove, Except.ok ()⟩ :: [] := by rfl
  exact reason_of_changes hrun htrace rfl

end Plugins

end QubesAdminLinux
