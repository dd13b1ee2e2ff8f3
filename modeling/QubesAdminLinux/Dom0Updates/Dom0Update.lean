import QubesAdminLinux.Lib.Program
import QubesAdminLinux.Lib.Text

/-! # The update of dom0

The script `qubes-dom0-update` lets the UpdateVM download packages and installs them.  Its statuses
meet in one variable, `RETCODE`, which each part sets or leaves as it is.

* **`parseOptions`** — the command line.
* **`download`** — the three ways to download.
* **`install`** — the installation in dom0.
* **`script`** — the whole script, over its calls. -/

namespace QubesAdminLinux

namespace Dom0Update

open Proc

/-! ## The command line -/

/-- What the script takes from its command line. -/
structure Options where
  /-- `PKGS`. -/
  pkgs : List String
  /-- `YUM_OPTS`. -/
  yumOpts : List String
  /-- `UPDATEVM_OPTS`. -/
  updatevmOpts : List String
  /-- `QVMTEMPLATE_OPTS`. -/
  qvmTemplateOpts : List String
  /-- `YUM_ACTION`, if it is set. -/
  yumAction : Option String
  /-- `GUI`. -/
  gui : Bool
  /-- `PROGRESS_REPORTING`. -/
  progressReporting : Bool
  /-- `CHECK_ONLY`. -/
  checkOnly : Bool
  /-- `CLEAN`. -/
  clean : Bool
  /-- `FORCE_XEN_UPGRADE`. -/
  forceXenUpgrade : Bool
  /-- `DOWNLOADONLY`. -/
  downloadOnly : Bool
  /-- `SKIP_BOOT_CHECK`. -/
  skipBootCheck : Bool
  /-- `AUDIO_SWITCH`. -/
  audioSwitch : String
  deriving DecidableEq, Repr

/-- The options before the command line is read; `YUM_ACTION` may come from the environment. -/
def Options.initial (yumAction : Option String) : Options :=
  ⟨[], [], [], [], yumAction, false, false, false, false, false, false, false, ""⟩

/-- `: "${YUM_ACTION=install}"`. -/
def Options.defaultInstall (o : Options) : Options :=
  { o with yumAction := some (o.yumAction.getD "install") }

/-- An argument is passed on to the UpdateVM. -/
def Options.forUpdatevm (o : Options) (arg : String) : Options :=
  { o with updatevmOpts := o.updatevmOpts ++ [arg] }

/-- An argument is passed on to `qvm-template`. -/
def Options.forTemplate (o : Options) (arg : String) : Options :=
  { o with qvmTemplateOpts := o.qvmTemplateOpts ++ [arg] }

/-- `${arg#start}` for an argument that starts so. -/
def afterStart (start arg : String) : String := String.ofList (arg.toList.drop start.length)

/-- The loop over the command line: the options, or the status of an error. -/
def parseOptions (o : Options) : List String → Except Nat Options
  | [] => .ok o
  | arg :: rest =>
      if startsWith arg "--enablerepo=" || startsWith arg "--disablerepo=" then
        parseOptions ((o.forUpdatevm arg).forTemplate arg) rest
      else if arg = "--downloadonly" then
        parseOptions { o.forTemplate arg with yumOpts := o.yumOpts ++ [arg], downloadOnly := true } rest
      else if arg = "--clean" then
        parseOptions { o.forUpdatevm arg with clean := true } rest
      else if arg = "--gui" then
        parseOptions { o.forUpdatevm arg with gui := true } rest
      else if arg = "--show-output" then parseOptions o rest
      -- what is printed is of no concern here
      else if arg = "--silent" then parseOptions o rest
      else if arg = "--just-print-progress" then
        parseOptions { o with progressReporting := true } rest
      else if arg = "--check-only" then
        parseOptions { o.forUpdatevm arg with checkOnly := true } rest
      else if arg = "--preserve-terminal" then parseOptions o rest
      else if arg = "--console" then parseOptions o rest
      else if arg = "--force-xen-upgrade" then
        parseOptions { o with forceXenUpgrade := true } rest
      else if arg = "--switch-audio-server-to=pipewire" then
        parseOptions { o with audioSwitch := "pipewire" } rest
      else if arg = "--switch-audio-server-to=pulseaudio" then
        parseOptions { o with audioSwitch := "pulseaudio" } rest
      else if startsWith arg "--switch-audio-server-to" then .error 2
      else if startsWith arg "--action=" then
        parseOptions { o.forUpdatevm arg with yumAction := some (afterStart "--action=" arg) } rest
      else if arg = "--skip-boot-check" then
        parseOptions { o with skipBootCheck := true } rest
      else if arg = "--" then
        -- the rest of the command line is taken as it is
        if rest = [] then .ok o
        else .ok ({ o with
          yumOpts := o.yumOpts ++ rest, updatevmOpts := o.updatevmOpts ++ rest }).defaultInstall
      else if startsWith arg "-" then
        parseOptions { (o.forUpdatevm arg).forTemplate arg with yumOpts := o.yumOpts ++ [arg] } rest
      else
        parseOptions (({ o with pkgs := o.pkgs ++ [arg] }).forUpdatevm arg).defaultInstall rest

namespace Options

/-- `${YUM_ACTION=upgrade}`. -/
def action (o : Options) : String := o.yumAction.getD "upgrade"

/-- `REMOTE_ONLY`. -/
def remoteOnly (o : Options) : Bool := o.checkOnly || o.action = "list" || o.action = "search"

/-- `has_template "${PKGS[@]}"`. -/
def hasTemplate (o : Options) : Bool := o.pkgs.any fun arg => startsWith arg "qubes-template-"

/-- `(-[0-9]+)(\.[0-9-]+)+(\.[0-9a-zA-Z_]+)?` for the whole of a text. -/
def isVersionSuffix (text : List Char) : Bool :=
  match text.splitOn '.' with
  | ('-' :: epoch) :: version :: more =>
      let isVersion (part : List Char) := !part.isEmpty && part.all fun c => c.isDigit || c = '-'
      !epoch.isEmpty && epoch.all Char.isDigit && isVersion version && more.dropLast.all isVersion
        && more.getLast?.all fun part =>
          isVersion part || (!part.isEmpty && part.all fun c => c.isAlphanum || c = '_')
  | _ => false

/-- `TEMPLATE`: the name without the version, which is as short as possible. -/
def templateName (pkg : String) : String :=
  let name := pkg.toList.drop "qubes-template-".length
  match (List.range (name.length + 1)).reverse.find? fun n => isVersionSuffix (name.drop n) with
  | some n => String.ofList (name.take n)
  | none => String.ofList name

example : templateName "qubes-template-fedora-38-4.2.0-202305.fc37" = "fedora-38" := by decide +kernel

/-- `YUM_OPTS` with the excluded templates. -/
def dnfOpts (o : Options) : List String := "--exclude=qubes-template-*" :: o.yumOpts

/-- `UPDATEVM_OPTS` with the excluded templates. -/
def downloadOpts (o : Options) : List String := "--exclude=qubes-template-*" :: o.updatevmOpts

end Options

/-! ## Calls -/

/-- The environment of the script. -/
structure System where
  /-- `YUM_ACTION`, if it is set. -/
  yumAction : Option String
  /-- `SWITCHING_AUDIO_IN_PROGRESS`. -/
  switchingAudio : String
  /-- `KDE_FULL_SESSION`. -/
  kdeFullSession : String
  /-- The UpdateVM, as `qubes-prefs` prints it. -/
  updatevm : String
  /-- `qvm-check --template` or `qvm-check --standalone`. -/
  isBase : String → Bool
  /-- `qvm-prefs VM template`. -/
  templateOf : String → Option String
  /-- `qvm-features VM qubes-agent-version`. -/
  agentVersion : String → String
  /-- How `awk` compares two versions. -/
  older : String → String → Bool
  /-- How many rounds of an unbounded loop are looked at. -/
  rounds : Nat

/-- The calls of the script. -/
inductive UpdateCall
  /-- Run a program. -/
  | run (argv : List String)
  /-- Run programs for what they print. -/
  | output (argv : List String)
  /-- A test of a path. -/
  | pathIs (kind path : String)
  /-- `[[ -t fd ]]`. -/
  | isTty (fd : Nat)
  /-- `read`. -/
  | readAnswer
  /-- `exec qvm-template`. -/
  | execTemplate (argv : List String)
  /-- Send the repository information to the UpdateVM: `tar` and `qvm-run`. -/
  | sendRepositories (updatevm : String)
  /-- Let `qubes-vm-update` download. -/
  | downloadWithProgress (updatevm : String)
  /-- Let `qvm-run` download, its output piped through `sed`. -/
  | downloadPiped (updatevm cmd : String)
  /-- Let `qvm-run` download. -/
  | downloadPlain (updatevm cmd : String)
  /-- `dnf` with an action. -/
  | dnf (argv : List String)
  /-- Let `qubes-vm-update` update dom0. -/
  | updateDom0
  /-- The graphical program that updates dom0. -/
  | guiApp (argv : List String)
  /-- `dnf check-update`, possibly with `-q`. -/
  | checkUpdate (quiet : Bool)
  /-- The script itself, to switch the audio server. -/
  | nested (argv : List String)
  deriving DecidableEq

/-- The reply of a call: the status, both statuses of a pipeline, an answer, or a text and the status. -/
def UpdateCall.Reply : UpdateCall → Type
  | .run _ | .execTemplate _ | .downloadWithProgress _ | .downloadPlain _ _ | .dnf _ | .updateDom0
  | .guiApp _ | .checkUpdate _ | .nested _ => Nat
  | .sendRepositories _ | .downloadPiped _ _ => Nat × Nat
  | .pathIs _ _ | .isTty _ => Bool
  | .readAnswer => String
  | .output _ => String × Nat

/-- An event of the script. -/
abbrev UpdateEvent := Event UpdateCall.Reply

/-- How the script ends. -/
inductive Ending
  /-- With a status. -/
  | exit (status : Nat)
  /-- It has not ended after the rounds that are looked at. -/
  | running
  deriving DecidableEq, Repr

/-- The variables that outlive a part of the script. -/
structure Vars where
  /-- `RETCODE`, if it is set. -/
  retcode : Option Nat
  /-- `REBOOT_REQUIRED`. -/
  rebootRequired : Bool
  deriving DecidableEq, Repr

/-- A part of the script. -/
abbrev UpdateM (α : Type) := Proc UpdateCall UpdateCall.Reply Vars Ending α

/-- `exit status`. -/
def exit {α : Type} (status : Nat) : UpdateM α := throw (.exit status)

/-- Run a program, whatever its status. -/
def run (argv : List String) : UpdateM Unit := do
  let _ ← request (UpdateCall.run argv)
  pure ()

/-- `program || exit 1`. -/
def runOrExit (argv : List String) : UpdateM Unit := do
  let status : Nat ← request (UpdateCall.run argv)
  if status ≠ 0 then exit 1 else pure ()

/-- Run a program in the UpdateVM, or exit with 1. -/
def qvmRunOrExit (sys : System) (opts : List String) (cmd : String) : UpdateM Unit :=
  runOrExit (["qvm-run"] ++ opts ++ ["--", sys.updatevm, cmd])

/-- `RETCODE=$?`. -/
def setRetcode (status : Nat) : UpdateM Unit := do
  let v ← get
  set { v with retcode := some status }

/-! ## Before the download -/

/-- The graphical program for updates, with its arguments. -/
def guiAppOf (app : String) : List String :=
  if app = "apper" then ["apper", "--updates", "--nofork"]
  else if app = "xterm" then ["xterm", "-e", "sudo", "dnf", "update"]
  else if app = "konsole" then ["konsole", "--hold", "-e", "sudo", "dnf", "update"]
  else [app]

/-- The graphical programs, in the order in which they are looked for. -/
def guiApps (sys : System) : List String :=
  if sys.kdeFullSession ≠ "" then ["konsole", "xterm", "apper", "yumex", "gpk-update-viewer"]
  else ["xterm", "konsole", "yumex", "apper", "gpk-update-viewer"]

/-- Show a message in a window. -/
def showMessage (sys : System) (kdialog zenity : List String) : UpdateM Unit :=
  run (if sys.kdeFullSession ≠ "" then "kdialog" :: kdialog else "zenity" :: zenity)

/-- The first of some programs that is installed. -/
def findGuiApp (sys : System) : List String → UpdateM (List String)
  | [] => do
      showMessage sys ["--sorry"] ["--error"]
      exit 1
  | app :: rest => do
      let status : Nat ← request (UpdateCall.run ["type", app])
      if status = 0 then pure (guiAppOf app) else findGuiApp sys rest

/-- `check_mounted`. -/
def checkMounted (mountpoint : String) : UpdateM Unit := do
  let mounted : Nat ← request (UpdateCall.run ["awk", mountpoint, "/proc/mounts"])
  if mounted = 0 then pure ()
  else do
    let listed : Nat ← request (UpdateCall.run ["awk", mountpoint, "/etc/fstab"])
    if listed ≠ 0 then pure ()
    else do
      let tty : Bool ← request (UpdateCall.isTty 1)
      if tty = false then exit 1
      else do
        let choice : String ← request UpdateCall.readAnswer
        if choice = "y" ∨ choice = "Y" then runOrExit ["mount", mountpoint]
        else if choice = "n" ∨ choice = "N" then pure ()
        else exit 1

/-- Let the group use the lock file. -/
def shareLock (id : String) : UpdateM Unit :=
  if id = "0" then do
    let status : Nat ← request (UpdateCall.run ["chgrp", "qubes", "qubes-dom0-update.lock"])
    if status = 0 then run ["chmod", "g+w", "qubes-dom0-update.lock"] else pure ()
  else pure ()

/-- Whether the script may run. -/
def checkCaller (sys : System) (o : Options) : UpdateM Unit := do
  let id : String × Nat ← request (UpdateCall.output ["id", "-ur"])
  if id.1 ≠ "0" ∧ o.gui = false ∧ o.checkOnly = false then exit 1
  else do
    shareLock id.1
    let status : Nat ← request (UpdateCall.run ["flock", "-n", "9"])
    if status ≠ 0 ∧ sys.switchingAudio = "" then exit 1
    else if o.gui = true ∧ o.pkgs ≠ [] then exit 1
    else pure ()

/-- The graphical program, in the mode that needs one. -/
def chooseGuiApp (sys : System) (o : Options) : UpdateM (List String) :=
  if o.gui then findGuiApp sys (guiApps sys) else pure []

/-- Only a running UpdateVM is asked whether there are updates. -/
def checkRunning (sys : System) (o : Options) : UpdateM Unit :=
  if o.checkOnly then runOrExit ["qvm-check", "-q", "--running", sys.updatevm] else pure ()

/-- `--clean`. -/
def cleanPackages (o : Options) : UpdateM Unit :=
  if o.clean then do
    run ["rm", "-f", "/var/lib/qubes/updates/rpm/*"]
    run ["rm", "-f", "/var/lib/qubes/updates/repodata/*"]
  else pure ()

/-- The mount points below `/boot`. -/
def checkBoot (o : Options) : UpdateM Unit :=
  if o.skipBootCheck = false ∧ o.checkOnly = false ∧ o.remoteOnly = false ∧ o.downloadOnly = false
  then do
    checkMounted "/boot"
    let efi : Bool ← request (UpdateCall.pathIs "-d" "/sys/firmware/efi")
    if efi then checkMounted "/boot/efi" else pure ()
  else pure ()

/-- The directory in the UpdateVM to which the packages are downloaded. -/
def dom0UpdatesDir : String := "/var/lib/qubes/dom0-updates"

/-- The text of the command that gives a directory to the user of the UpdateVM. -/
def chownCommand (dir : String) : String :=
  "user=$(qubesdb-read /default-user) && chown -R -- \"$user:qubes\" '" ++ dir ++ "'"

/-- Prepare the directory in the UpdateVM, and send it the repository information. -/
def prepareUpdatevm (sys : System) : UpdateM Unit := do
  let rpmdb : String × Nat ← request (UpdateCall.output ["rpm", "--eval", "%\x7b_dbpath\x7d"])
  let rpmdbPath := String.ofList (if startsWith rpmdb.1 "/" then rpmdb.1.toList.tail else rpmdb.1.toList)
  qvmRunOrExit sys ["--nogui", "-q", "-u", "root"] ("mkdir -m 775 -p -- '" ++ dom0UpdatesDir ++ "'")
  qvmRunOrExit sys ["--nogui", "-q", "-u", "root"] (chownCommand dom0UpdatesDir)
  qvmRunOrExit sys ["--nogui", "-q"]
    ("rm -rf -- '" ++ dom0UpdatesDir ++ "/etc' '" ++ dom0UpdatesDir ++ "/" ++ rpmdbPath ++ "'")
  -- the status of a pipeline is that of its last command
  let statuses : Nat × Nat ← request (UpdateCall.sendRepositories sys.updatevm)
  if statuses.2 ≠ 0 then exit statuses.2 else pure ()

/-- Everything before the download; it returns the graphical program. -/
def prepare (sys : System) (o : Options) : UpdateM (List String) := do
  checkCaller sys o
  let guiapp ← chooseGuiApp sys o
  checkRunning sys o
  cleanPackages o
  run ["rm", "-f", "/var/lib/qubes/updates/errors"]
  checkBoot o
  prepareUpdatevm sys
  pure guiapp

/-! ## The download -/

/-- `get_base_vm`: nothing if the loop goes on after the rounds that are looked at. -/
def getBaseVm (sys : System) : Nat → String → Option (Option String)
  | 0, _ => none
  | rounds + 1, vm =>
      if sys.isBase vm then some (some vm)
      else
        match sys.templateOf vm with
        | none => some none
        | some template => getBaseVm sys rounds template

/-- `version_check`. -/
def versionCheck (sys : System) (version minimum : String) : Bool := sys.older version minimum

/-- `progress_agent_version`. -/
def progressAgentVersion : String := "4.4"

/-- `OLD_VERSION`. -/
def oldVersion (sys : System) : Option Bool :=
  (getBaseVm sys sys.rounds sys.updatevm).map fun
    | none => false
    | some base =>
        base ≠ "" && sys.agentVersion base ≠ ""
          && versionCheck sys (sys.agentVersion base) progressAgentVersion

/-- A text with its single quotes escaped for a shell. -/
def escapeQuotes (text : String) : String :=
  String.ofList (text.toList.flatMap fun c =>
    if c = singleQuote then [singleQuote, backslash, singleQuote, singleQuote] else [c])

/-- A text in single quotes. -/
def quoted (text : String) : String := "'" ++ escapeQuotes text ++ "'"

/-- The command with which the UpdateVM downloads, inside of `script` for a terminal. -/
def downloadCommand (o : Options) (ttys : Bool) : String :=
  let cmd := o.downloadOpts.foldl (fun cmd opt => cmd ++ " " ++ quoted opt)
    "/usr/lib/qubes/qubes-download-dom0-updates.sh --doit --nogui"
  if ttys then "script --quiet --return --command " ++ quoted cmd ++ " /dev/null" else cmd

/-- `QVMRUN_OPTS`. -/
def qvmrunOpts : List String := ["--quiet", "--filter-escape-chars", "--nogui", "--pass-io"]

/-- The download with progress, by `qubes-vm-update`. -/
def downloadWithProgress (sys : System) : UpdateM Unit := do
  qvmRunOrExit sys qvmrunOpts "/usr/lib/qubes/qubes-download-dom0-updates-init.sh"
  qvmRunOrExit sys ["--nogui", "-q", "-u", "root"] (chownCommand "/var/log/qubes/qubes-update")
  let status : Nat ← request (UpdateCall.downloadWithProgress sys.updatevm)
  setRetcode status
  if status = 100 then exit 100
  else if status ≠ 0 then exit status
  else do
    qvmRunOrExit sys ["--nogui", "-q", "-u", "root"] (chownCommand dom0UpdatesDir)
    qvmRunOrExit sys qvmrunOpts "/usr/lib/qubes/qubes-download-dom0-updates-finish.sh"

/-- `[[ -t 1 ]] && [[ -t 2 ]]`. -/
def areTtys : UpdateM Bool := do
  let tty : Bool ← request (UpdateCall.isTty 1)
  if tty then request (UpdateCall.isTty 2) else pure false

/-- The download by `qvm-run`. -/
def downloadByScript (sys : System) (o : Options) : UpdateM Unit := do
  let ttys ← areTtys
  if o.progressReporting then do
    let statuses : Nat × Nat ←
      request (UpdateCall.downloadPiped sys.updatevm (downloadCommand o ttys))
    -- the status of the pipeline is that of `sed`
    setRetcode statuses.2
  else do
    let status : Nat ← request (UpdateCall.downloadPlain sys.updatevm (downloadCommand o ttys))
    setRetcode status

/-- The download. -/
def download (sys : System) (o : Options) (old : Bool) : UpdateM Unit :=
  if o.progressReporting = true ∧ old = false then downloadWithProgress sys
  else downloadByScript sys o

/-- The tests of `RETCODE` after the download. -/
def checkDownload (o : Options) (old : Bool) : UpdateM Unit := do
  let v ← get
  let status := v.retcode.getD 0
  if o.progressReporting = true ∧ old = true ∧ status ≠ 0 then exit status
  else if o.remoteOnly = true ∨ status ≠ 0 then exit status
  else pure ()

/-! ## The installation -/

/-- Wait until the packages have been received. -/
def waitForDownload : Nat → UpdateM Unit
  | 0 => throw .running
  | rounds + 1 => do
      let status : Nat ← request (UpdateCall.run ["pidof", "-x", "qubes-receive-updates"])
      if status = 0 then do
        run ["sleep", "0.5"]
        waitForDownload rounds
      else pure ()

/-- The errors that `qubes-receive-updates` has left. -/
def checkErrors : UpdateM Unit := do
  let present : Bool ← request (UpdateCall.pathIs "-r" "/var/lib/qubes/updates/errors")
  if present then do
    run ["cat", "/var/lib/qubes/updates/errors"]
    exit 1
  else pure ()

/-- Whether there is metadata of the repository. -/
def hasMetadata : UpdateM Bool :=
  request (UpdateCall.pathIs "-f" "/var/lib/qubes/updates/repodata/repomd.xml")

/-- What is asked about running qubes before Xen is upgraded. -/
def confirmXenUpgrade (o : Options) : UpdateM Unit := do
  let count : String × Nat ← request (UpdateCall.output ["xl", "list", "wc", "-l"])
  if 2 < (count.1.toNat?).getD 0 then do
    run ["qvm-ls", "--running"]
    if o.forceXenUpgrade then pure ()
    else do
      let answer : String ← request UpdateCall.readAnswer
      if answer = "y" ∨ answer = "Y" then run ["qvm-shutdown", "--all", "--wait"] else exit 1
  else pure ()

/-- `${version%-*}`. -/
def withoutSuffix (version : String) : String :=
  if '-' ∈ version.toList then
    String.ofList ((version.toList.reverse.dropWhile (· ≠ '-')).tail.reverse)
  else version

/-- The check for a major upgrade of Xen. -/
def checkXen (o : Options) : UpdateM Unit := do
  let present ← hasMetadata
  if present then do
    let inUpdate : String × Nat ← request (UpdateCall.output ["ls", "xen-libs", "sed", "cut", "uniq"])
    let info : String × Nat ← request (UpdateCall.output ["xl", "info", "xen_version", "cut"])
    if inUpdate.1 ≠ "" ∧ inUpdate.1 ≠ withoutSuffix info.1 then do
      confirmXenUpgrade o
      if o.downloadOnly = false then do
        let v ← get
        set { v with rebootRequired := true }
      else pure ()
    else pure ()
  else pure ()

/-- `dnf` with the action, and its status in `RETCODE`. -/
def runDnf (o : Options) (pkgs : List String) : UpdateM Unit := do
  let status : Nat ← request (UpdateCall.dnf (fields o.action ++ o.dnfOpts ++ pkgs))
  setRetcode status

/-- Record that there are no more updates. -/
def clearUpdatesAvailable : UpdateM Unit := run ["qvm-features", "dom0", "updates-available", ""]

/-- The installation of all updates. -/
def installUpdates (o : Options) (guiapp : List String) : UpdateM Unit :=
  if o.gui then do
    run ["pkcon", "refresh", "force"]
    let _ ← request (UpdateCall.guiApp guiapp)
    pure ()
  else if o.progressReporting then do
    let status : Nat ← request UpdateCall.updateDom0
    setRetcode status
  else do
    let status : Nat ← request (UpdateCall.checkUpdate false)
    if status = 100 then runDnf o [] else pure ()

/-- If there are no updates left, record it. -/
def recordUpdates : UpdateM Unit := do
  let status : Nat ← request (UpdateCall.checkUpdate true)
  if status = 0 then do
    clearUpdatesAvailable
    run ["qvm-features", "dom0", "last-update"]
  else pure ()

/-- The installation. -/
def install (sys : System) (o : Options) (guiapp : List String) : UpdateM Unit := do
  let present ← hasMetadata
  if o.pkgs ≠ [] then
    -- otherwise nothing has been downloaded
    if present then runDnf o o.pkgs else pure ()
  else if present then do
    installUpdates o guiapp
    recordUpdates
  else do
    clearUpdatesAvailable
    if o.gui then showMessage sys ["--msgbox"] ["--info"] else pure ()

/-! ## After the installation -/

/-- Install another audio server, unless some packages are installed: the nested run, and what is then
done as the user with `systemctl`. -/
def installAudio (packages argv : List String) (services : List (List String)) : UpdateM Unit := do
  let installed : Nat ← request (UpdateCall.run (["rpm", "-q"] ++ packages))
  if installed ≠ 0 then do
    let status : Nat ← request (UpdateCall.nested argv)
    if status ≠ 0 then exit status
    else do
      let user : String × Nat ← request (UpdateCall.output ["getent", "group", "qubes", "cut", "cut"])
      if user.2 ≠ 0 then exit 1
      else do
        let uid : String × Nat ← request (UpdateCall.output ["id", "-u", user.1])
        if uid.2 ≠ 0 then exit 1
        else services.forM fun service =>
          run (["sudo", "-u", user.1, "XDG_RUNTIME_DIR=/run/user/" ++ uid.1, "systemctl", "--user"]
            ++ service)
  else pure ()

/-- Switch the audio server. -/
def switchAudioTo (packages argv : List String) (services : List (List String)) : UpdateM Unit := do
  installAudio packages argv services
  run ["echo", "1", "/var/lib/qubes/.audio-switch-done"]

/-- The switch of the audio server that the command line asks for. -/
def switchAudio (o : Options) (audioSwitch : String) : UpdateM Unit :=
  if audioSwitch = "pipewire" then
    switchAudioTo ["pipewire", "pipewire-pulseaudio"]
      (o.downloadOpts ++ ["--action=install", "--allowerasing", "pipewire", "pipewire-pulseaudio"])
      [["start", "pipewire-pulse"]]
  else if audioSwitch = "pulseaudio" then
    switchAudioTo ["pulseaudio"]
      (o.downloadOpts ++ ["--allowerasing", "--action=swap", "pipewire", "pulseaudio"])
      [["stop", "pipewire", "pipewire-pulse", "pipewire.socket", "pipewire-pulse.socket"],
        ["start", "pulseaudio"]]
  else pure ()

/-- Restart, if that is required. -/
def askReboot (required : Bool) : UpdateM Unit :=
  if required then do
    let answer : String ← request UpdateCall.readAnswer
    if answer ≠ "n" ∧ answer ≠ "N" then run ["reboot"] else pure ()
  else pure ()

/-- The end of the script. -/
def finish : UpdateM Unit := do
  let v ← get
  askReboot v.rebootRequired
  -- `exit ""` is an error
  exit (v.retcode.getD 2)

/-- What follows a successful download. -/
def applyUpdates (sys : System) (o : Options) (guiapp : List String) : UpdateM Unit := do
  waitForDownload sys.rounds
  checkErrors
  checkXen o
  install sys o guiapp
  -- no recursive switch
  switchAudio o (if sys.switchingAudio ≠ "" then "" else o.audioSwitch)
  finish

/-- The download and what follows it. -/
def update (sys : System) (o : Options) (old : Bool) (guiapp : List String) : UpdateM Unit := do
  download sys o old
  checkDownload o old
  applyUpdates sys o guiapp

/-- The script after the command line has been read. -/
def updateDom0 (sys : System) (o : Options) : UpdateM Unit :=
  if o.hasTemplate then
    if o.pkgs.length ≠ 1 then exit 2
    else do
      let status : Nat ← request (UpdateCall.execTemplate
        (["qvm-template", o.action] ++ o.qvmTemplateOpts ++ o.pkgs.map Options.templateName))
      exit status
  else if o.audioSwitch ≠ "" ∧ o.remoteOnly = true then exit 2
  else do
    let guiapp ← prepare sys o
    match oldVersion sys with
    | none => throw .running
    | some old => update sys o old guiapp

/-- The script. -/
def script (sys : System) (args : List String) : UpdateM Unit :=
  if sys.updatevm = "" then exit 1
  -- the help
  else if args.head? = some "--help" then exit 0
  else
    match parseOptions (.initial sys.yumAction) args with
    | .error status => exit status
    | .ok o => updateDom0 sys o

end Dom0Update

end QubesAdminLinux
