import QubesAdminLinux.Lib.Text
import Mathlib.Tactic.Common

/-! # Qubes, options and exceptions

The data shared by the dom0 side of the updater: the qubes it works on, the parsed command line and
the exceptions that its `except` clauses tell apart.

* **`Qube`** — a domain with its class.
* **`Args`** — the parsed options; `Args.toCliArgs` turns the agent's part back into a command line.
* **`PyException`** — exceptions by the class that decides which handler catches them. -/

namespace QubesAdminLinux

/-- The class of a qube. -/
inductive Klass
  | adminVM
  | templateVM
  | standaloneVM
  | appVM
  | dispVM
  | other (name : String)
  deriving DecidableEq, Repr

/-- A qube as seen by the updater. -/
structure Qube where
  /-- Its name. -/
  name : String
  /-- Its class. -/
  klass : Klass
  /-- The only `AdminVM` is dom0. -/
  adminName : klass = .adminVM → name = "dom0" := by decide
  deriving DecidableEq

/-- A template is not dom0. -/
theorem templateVM_adminName (name : String) : Klass.templateVM = .adminVM → name = "dom0" := nofun

/-- Nor is a standalone qube. -/
theorem standaloneVM_adminName (name : String) : Klass.standaloneVM = .adminVM → name = "dom0" := nofun

/-- Nor is an app qube. -/
theorem appVM_adminName (name : String) : Klass.appVM = .adminVM → name = "dom0" := nofun

/-- The parsed command line of `qubes-vm-update`; the options of the agent come second. -/
structure Args where
  /-- Just print what happens. -/
  dryRun : Bool := false
  /-- Return 100 instead of 0 if there are no updates. -/
  signalNoUpdates : Bool := false
  /-- Restart not updated service qubes whose template has been updated. -/
  applyToSys : Bool := false
  /-- As `applyToSys`, and shut down the other not updated derived qubes. -/
  applyToAll : Bool := false
  /-- Name shown instead of the name of the qube. -/
  displayName : Option String := none
  /-- Logging level. -/
  log : String := "INFO"
  /-- Do not refresh available packages. -/
  noRefresh : Bool := false
  /-- Upgrade even if errors are encountered. -/
  forceUpgrade : Bool := false
  /-- Do not remove cache files. -/
  noCleanup : Bool := false
  /-- Do not remove obsolete packages. -/
  leaveObsolete : Bool := false
  /-- Only download packages. -/
  downloadOnly : Bool := false
  /-- Show output of management commands. -/
  showOutput : Bool := false
  /-- Do not print anything to stdout. -/
  quiet : Bool := false
  /-- Do not show upgrading progress. -/
  noProgress : Bool := false
  /-- Print progress as plain lines. -/
  justPrintProgress : Bool := false
  deriving DecidableEq, Repr

/-- The names that `logging` has for levels. -/
def levelNames : List String :=
  ["CRITICAL", "FATAL", "ERROR", "WARN", "WARNING", "INFO", "DEBUG", "NOTSET"]

/-- `show_progress` as computed by the update manager. -/
def Args.showProgress (args : Args) : Bool := !args.quiet && !args.noProgress

/-- The flag word of an option that is set. -/
def flagWord (set : Bool) (word : String) : List String := if set then [word] else []

/-- `AgentArgs.to_cli_args`: the options passed on to the entrypoint of the agent. -/
def Args.toCliArgs (args : Args) : List String :=
  ["--log", args.log]
    ++ flagWord args.noRefresh "--no-refresh"
    ++ flagWord args.forceUpgrade "--force-upgrade"
    ++ flagWord args.noCleanup "--no-cleanup"
    ++ flagWord args.leaveObsolete "--leave-obsolete"
    ++ flagWord args.downloadOnly "--download-only"
    ++ flagWord args.showOutput "--show-output"
    ++ flagWord args.quiet "--quiet"
    ++ flagWord args.noProgress "--no-progress"
    ++ flagWord args.justPrintProgress "--just-print-progress"

/-- Exceptions, one constructor for each class that some handler singles out. -/
inductive PyException
  /-- `subprocess.CalledProcessError`. -/
  | calledProcessError (returncode : Int) (output : Option Bytes) (text : String)
  /-- `OSError` and its subclasses. -/
  | osError (text : String)
  /-- `qubesadmin.exc.QubesVMError` and its subclasses. -/
  | qubesVMError (text : String)
  /-- `qubesadmin.exc.QubesDaemonAccessError`. -/
  | qubesDaemonAccessError (text : String)
  /-- `IndexError`. -/
  | indexError (text : String)
  /-- `KeyError`. -/
  | keyError (key : String)
  /-- Any other subclass of `Exception`. -/
  | other (text : String)
  deriving DecidableEq

/-- `str(exc)`. -/
def PyException.str : PyException → String
  | .calledProcessError _ _ text => text
  | .osError text => text
  | .qubesVMError text => text
  | .qubesDaemonAccessError text => text
  | .indexError text => text
  | .keyError key => "'" ++ key ++ "'"
  | .other text => text

/-- Whether `except OSError` catches the exception. -/
def PyException.isOSError : PyException → Bool
  | .osError _ => true
  | _ => false

/-- Whether `except QubesVMError` catches the exception. -/
def PyException.isQubesVMError : PyException → Bool
  | .qubesVMError _ => true
  | _ => false

/-- Whether `except QubesDaemonAccessError` catches the exception. -/
def PyException.isQubesDaemonAccessError : PyException → Bool
  | .qubesDaemonAccessError _ => true
  | _ => false

end QubesAdminLinux
