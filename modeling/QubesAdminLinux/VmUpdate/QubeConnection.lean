import QubesAdminLinux.Lib.Program
import QubesAdminLinux.Agent.ProcessResult
import QubesAdminLinux.Agent.Status
import QubesAdminLinux.VmUpdate.Domain

/-! # The connection to a qube

A worker talks to the rest of the system by the calls of `WorkerCall`; everything it cannot know in
advance (exit codes, exceptions, the bytes an agent writes, the termination flag) is a reply.
The state of a worker is the `status` attribute of its connection.

* **`runCommandAndWaitForOutput`, `runCommandAndActivelyReportProgress`** — the two ways to run a
  command in a qube.
* **`transferAgent`, `runEntrypoint`, `readLogs`** — the steps of an update.
* **`withConnection`** — the `with` statement: `__enter__`, the body, and `__exit__` on every path. -/

namespace QubesAdminLinux

/-- A command run in a qube, with the words of its command line. -/
inductive Command
  /-- Create the working directory. -/
  | mkdir (dir : String)
  /-- Unpack the agent. -/
  | untar (archive dir : String)
  /-- Run the agent. -/
  | entrypoint (argv : List String)
  /-- Print the log of the agent. -/
  | readLogs (path : String)
  /-- Remove the working directory. -/
  | remove (dir : String)
  deriving DecidableEq, Repr

/-- The words of a command line. -/
def Command.argv : Command → List String
  | .mkdir dir => ["mkdir", "-p", dir]
  | .untar archive dir => ["tar", "-xzf", archive, "-C", dir]
  | .entrypoint argv => argv
  | .readLogs path => ["cat", path]
  | .remove dir => ["rm", "-r", dir]

/-- The two moments at which a connection asks whether its qube is running. -/
inductive Moment
  | entry
  | exit
  deriving DecidableEq, Repr

/-- What a started agent process writes, and the order in which its two reader threads get to put
their messages: `true` is the turn of the error stream. -/
structure Streams where
  /-- The error stream, if there is one. -/
  stderr : Option Bytes
  /-- The output stream, if there is one. -/
  stdout : Option Bytes
  /-- The turns of the reader threads. -/
  turns : List Bool

/-- The calls of a worker. -/
inductive WorkerCall
  /-- Read `termination.value`. -/
  | readTermination
  /-- `status_notifier.put`. -/
  | put (message : Message PyFloat)
  /-- `init_logs`. -/
  | initLogs
  /-- `qube.is_running()`. -/
  | isRunning (moment : Moment)
  /-- Pack the agent into an archive in dom0. -/
  | makeArchive (srcDir : String)
  /-- `subprocess.Popen` in dom0 and `communicate`. -/
  | popen (command : Command)
  /-- `target.run_with_args`. -/
  | runWithArgs (command : Command)
  /-- Open the archive and `qube.run` the command with its content as input. -/
  | copyArchive (command : String)
  /-- `subprocess.Popen` in dom0, with the streams read line by line. -/
  | popenStreams (argv : List String)
  /-- `target.run_service` of the command as `user`, with the streams read line by line. -/
  | runService (argv : List String) (user : String)
  /-- Wait for the end of the output stream when the reader of the error stream has raised: an agent
  that blocks on its error stream, which is not read any more, never ends its output. -/
  | outputEnd
  /-- `proc.wait()`. -/
  | wait
  /-- `any(vm.devices["pci"].get_assigned_devices())`. -/
  | assignedPciDevices
  /-- `vm.shutdown()`, or `vm.shutdown(force=True)`. -/
  | shutdown (force : Bool)
  /-- `asyncio.run(wait_for_domain_shutdown(...))` for the qube, or for nothing. -/
  | waitForDomainShutdown (accepted : Bool)

/-- What a call returns or raises. -/
def WorkerCall.Reply : WorkerCall → Type
  | .readTermination => Bool
  | .put _ => Unit
  | .initLogs => Except PyException Unit
  | .isRunning _ => Except PyException Bool
  | .makeArchive _ => Except PyException Unit
  | .popen _ => Except PyException (Int × Bytes × Bytes)
  | .runWithArgs _ => Except PyException (Bytes × Bytes)
  | .copyArchive _ => Except PyException (Bytes × Bytes)
  | .popenStreams _ => Except PyException Streams
  | .runService _ _ => Except PyException Streams
  | .outputEnd => Unit
  | .wait => Int
  | .assignedPciDevices => Except PyException Bool
  | .shutdown _ => Except PyException Unit
  | .waitForDomainShutdown _ => Except PyException Unit

/-- An event of a worker. -/
abbrev WorkerEvent := Event WorkerCall.Reply

/-- Worker code: calls, the status of the connection, exceptions. -/
abbrev WorkerM (α : Type) := Proc WorkerCall WorkerCall.Reply FinalStatus PyException α

/-- Make a call of a worker. -/
def call (c : WorkerCall) : WorkerM c.Reply := Proc.request c

/-- Return or raise according to a reply. -/
def ofReply {α : Type} : Except PyException α → WorkerM α
  | .ok a => pure a
  | .error exc => throw exc

/-- A status notifier under the wrappers that mask the name of the qube, outermost first. -/
structure StatusNotifier where
  /-- The masking names. -/
  masks : List String := []

/-- `StatusNotifierWrapper(notifier, name)`. -/
def StatusNotifier.wrap (notifier : StatusNotifier) (name : String) : StatusNotifier :=
  ⟨name :: notifier.masks⟩

/-- The message that reaches the queue when `message` is put on the notifier. -/
def StatusNotifier.mask (notifier : StatusNotifier) (message : Message PyFloat) :
    Message PyFloat :=
  notifier.masks.foldl (fun message name => message.withQname name) message

/-- Put a message on a notifier. -/
def StatusNotifier.put (notifier : StatusNotifier) (message : Message PyFloat) : WorkerM Unit :=
  call (.put (notifier.mask message))

/-- Put messages one after the other. -/
def StatusNotifier.putAll (notifier : StatusNotifier) : List (Message PyFloat) → WorkerM Unit
  | [] => pure ()
  | message :: rest => do
      notifier.put message
      notifier.putAll rest

/-- The attributes of a `QubeConnection` that do not change. -/
structure QubeConnection where
  /-- The qube connected to. -/
  qube : Qube
  /-- The working directory in the qube. -/
  destDir : Option String
  /-- Whether to remove the working directory at the end. -/
  cleanup : Bool
  /-- Whether progress is reported while the agent runs. -/
  showProgress : Bool
  /-- Where messages go. -/
  statusNotifier : StatusNotifier

/-! ## Reading the streams of an agent -/

/-- How `_collect_stderr` reads a line while the progress is not finished. -/
inductive ProgressReading
  /-- The line, or its last word, is a number. -/
  | number (progress : PyFloat)
  /-- Neither is a number. -/
  | text
  /-- The line has no word: `line.split()[-1]` raises `IndexError`. -/
  | noWord
  deriving DecidableEq

/-- `float(line)`, else `float(line.split()[-1])`. -/
def readProgress (line : String) : ProgressReading :=
  match PyFloat.ofText line with
  | some progress => .number progress
  | none =>
      match (words line).getLast? with
      | none => .noWord
      | some word =>
          match PyFloat.ofText word with
          | some progress => .number progress
          | none => .text

/-- `_collect_stderr`: the messages put for the lines of the error stream, and the exception that
ends the reading early, if there is one. -/
def collectStderr (qname : String) (progressFinished : Bool) :
    List Bytes → List (Message PyFloat) × Option PyException
  | [] => ([], none)
  | untrustedLine :: rest =>
      let line := sanitizeOutput untrustedLine true
      if line = "" then collectStderr qname progressFinished rest
      else if progressFinished then
        let more := collectStderr qname true rest
        (.line ⟨qname, "err", line⟩ :: more.1, more.2)
      else
        match readProgress line with
        -- only exactly 100 ends the progress
        | .number progress =>
            let more := collectStderr qname (progress = .finite 100) rest
            (.status (.updating qname progress) :: more.1, more.2)
        -- not a progress line: it is passed on like the output
        | .text =>
            let more := collectStderr qname false rest
            (.line ⟨qname, "err", line⟩ :: more.1, more.2)
        -- the exception leaves the thread, the lines after this one are not read
        | .noWord => ([], some (.indexError "list index out of range"))

/-- `_collect_stdout`: the messages put for the lines of the output stream. -/
def collectStdout (qname : String) (lines : List Bytes) : List (Message PyFloat) :=
  lines.filterMap fun untrustedLine =>
    let line := sanitizeOutput untrustedLine true
    if line = "" then none else some (.line ⟨qname, "out", line⟩)

/-- The messages of two threads in the order of their turns; what is left at the end of the turns
follows, the first thread before the second. -/
def mergeTurns {α : Type} : List Bool → List α → List α → List α
  | true :: turns, a :: first, second => a :: mergeTurns turns first second
  | false :: turns, first, b :: second => b :: mergeTurns turns first second
  | _, first, second => first ++ second

namespace QubeConnection

/-! ## Running commands -/

/-- The `except` clauses of `_run_command_and_wait_for_output`: exit code 100 means "no updates". -/
def onCommandException : PyException → WorkerM ProcessResult
  | .calledProcessError returncode output _ => do
      if returncode = 100 then
        set FinalStatus.noUpdates
        pure { ProcessResult.fromUntrustedOutErr output output with code := 0 }
      else
        pure { ProcessResult.fromUntrustedOutErr output output with code := returncode }
  | exc => pure { code := 1, err := exc.str }

/-- The process of a command run to its end: in dom0 directly, elsewhere through qrexec. -/
def communicate (conn : QubeConnection) (command : Command) : WorkerM (Bytes × Bytes) :=
  if conn.qube.klass = .adminVM then do
    let (returncode, out, err) ← ofReply (← call (.popen command))
    -- the text of this exception only goes to the log
    if returncode ≠ 0 then throw (.calledProcessError returncode (some (out ++ err)) "")
    else pure (out, err)
  else do ofReply (← call (.runWithArgs command))

/-- `_run_command_and_wait_for_output`. -/
def runCommandAndWaitForOutput (conn : QubeConnection) (command : Command) :
    WorkerM ProcessResult :=
  tryCatch
    (do
      let untrusted ← conn.communicate command
      pure (({} : ProcessResult).iadd
        (ProcessResult.fromUntrustedOutErr (some untrusted.1) (some untrusted.2))))
    onCommandException

/-- The call that starts a command whose streams are read as they come. -/
def startStreams (conn : QubeConnection) (argv : List String) : WorkerM Streams :=
  if conn.qube.klass = .adminVM then do ofReply (← call (.popenStreams argv))
  -- for download-only commands, run with fakeroot
  else if "--download-only" ∈ argv then do
    ofReply (← call (.runService ("fakeroot" :: argv) "user"))
  else do ofReply (← call (.runService argv "root"))

/-- `_run_command_and_actively_report_progress`. -/
def runCommandAndActivelyReportProgress (conn : QubeConnection) (command : Command) :
    WorkerM ProcessResult := do
  let streams ← conn.startStreams command.argv
  let fromErr := collectStderr conn.qube.name false (readLines (streams.stderr.getD []))
  let fromOut := collectStdout conn.qube.name (readLines (streams.stdout.getD []))
  conn.statusNotifier.putAll (mergeTurns streams.turns fromErr.1 fromOut)
  -- `result()` of the futures raises what a reader has raised, the output stream comes first
  match fromErr.2 with
  | some exc => do
      call .outputEnd
      throw exc
  | none => do
      -- the output is not kept, it has already been shown
      let result := ProcessResult.fromUntrustedOutErr (some []) (some [])
      let returncode : Int ← call .wait
      if returncode = 100 then
        set FinalStatus.noUpdates
        pure { result with code := 0 }
      else pure { result with code := returncode }

/-- `_run_shell_command_in_qube`. -/
def runShellCommandInQube (conn : QubeConnection) (command : Command) (display : Bool) :
    WorkerM ProcessResult :=
  if !display then conn.runCommandAndWaitForOutput command
  else conn.runCommandAndActivelyReportProgress command

/-! ## The steps of an update -/

/-- `_copy_file_from_dom0`: only `OSError` is turned into a result. -/
def copyFileFromDom0 (dest : String) : WorkerM ProcessResult :=
  tryCatch
    (do
      let untrusted ← ofReply (← call (.copyArchive (" ".intercalate ["cat", ">", dest])))
      let result := ProcessResult.fromUntrustedOutErr (some untrusted.1) (some untrusted.2)
      if result.code ≠ 0 then throw (.osError s!"Command returns code: {result.code}")
      else pure result)
    fun
      | .osError text => pure { code := 1, out := text }
      | exc => throw exc

/-- `transfer_agent`: create the directory, copy the archive, unpack it; stop at the first error. -/
def transferAgent (conn : QubeConnection) (srcDir : String) : WorkerM ProcessResult :=
  match conn.destDir with
  | none => throw (.other "")
  | some destDir => do
      ofReply (← call (.makeArchive srcDir))
      let destArch := pathJoin destDir (baseName srcDir ++ ".tar.gz")
      let result ← conn.runShellCommandInQube (.mkdir destDir) false
      -- `if result: return result`
      if result.toBool then pure result
      else do
        let result := result.iadd (← copyFileFromDom0 destArch)
        if result.toBool then pure result
        else do
          return result.iadd (← conn.runShellCommandInQube (.untar destArch destDir) false)

/-- What to run as the agent: a script by its path, or a whole command line. -/
inductive Entrypoint
  | script (path : String)
  | commandLine (argv : List String)
  deriving DecidableEq, Repr

/-- `run_entrypoint`. -/
def runEntrypoint (conn : QubeConnection) (entrypoint : Entrypoint) (agentArgs : Args) :
    WorkerM ProcessResult :=
  let argv :=
    match entrypoint with
    | .script path => "/usr/bin/python3" :: path :: agentArgs.toCliArgs
    | .commandLine argv => argv
  conn.runShellCommandInQube (.entrypoint argv) conn.showProgress

/-- `read_logs`. -/
def readLogs (conn : QubeConnection) : WorkerM ProcessResult :=
  conn.runShellCommandInQube
    (.readLogs (pathJoin "/var/log/qubes/qubes-update" "update-agent.log")) false

/-! ## The `with` statement -/

/-- `_has_assigned_pci_devices`. -/
def hasAssignedPciDevices : WorkerM Bool := do
  match ← call .assignedPciDevices with
  | .ok assigned => pure assigned
  | .error (.qubesDaemonAccessError _) => pure false
  | .error exc => throw exc

/-- `shutdown_domains([qube])`. -/
def shutdownDomain : WorkerM Unit := do
  match ← call (.shutdown true) with
  | .ok () => ofReply (← call (.waitForDomainShutdown true))
  | .error (.qubesVMError _) => ofReply (← call (.waitForDomainShutdown false))
  | .error exc => throw exc

/-- Remove the working directory; no exception gets out. -/
def removeDestDir (conn : QubeConnection) : WorkerM Unit :=
  if conn.cleanup then
    tryCatch
      (match conn.destDir with
        | none => throw (.other "")
        | some destDir => discard (conn.runShellCommandInQube (.remove destDir) false))
      fun _ => pure ()
  else pure ()

/-- Stop the qube if it was started by this connection. -/
def stopQube (initiallyRunning : Bool) : WorkerM Unit := do
  let running ← ofReply (← call (.isRunning .exit))
  if running && !initiallyRunning then
    if ← hasAssignedPciDevices then shutdownDomain
    else ofReply (← call (.shutdown false))
  else pure ()

/-- What `__exit__` does after the DONE message. -/
def release (conn : QubeConnection) (initiallyRunning : Bool) : WorkerM Unit := do
  conn.removeDestDir
  stopQube initiallyRunning

/-- `__exit__`. -/
def exit (conn : QubeConnection) (initiallyRunning : Bool) : WorkerM Unit := do
  let status ← get
  conn.statusNotifier.put (.status (.done conn.qube.name status))
  conn.release initiallyRunning

/-- `with QubeConnection(...)`: the body runs after `__enter__`, and `__exit__` runs whether or not
the body raises; an exception of `__exit__` replaces the one of the body. -/
def withConnection {α : Type} (conn : QubeConnection) (body : WorkerM α) : WorkerM α := do
  -- pessimistic until the agent has run
  set FinalStatus.error
  let initiallyRunning ← ofReply (← call (.isRunning .entry))
  match ← Proc.observe body with
  | .ok a => do
      conn.exit initiallyRunning
      pure a
  | .error exc => do
      conn.exit initiallyRunning
      throw exc

end QubeConnection

end QubesAdminLinux
