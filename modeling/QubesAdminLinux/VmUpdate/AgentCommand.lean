import QubesAdminLinux.VmUpdate.Arguments

/-! # The command that starts an agent

A worker starts an agent by one command line, whose end is the command line of the entrypoint.  Which of
the calls it uses depends on the class of the qube and on whether progress is shown.

* **`agentStart`** — the command line and the user.
* **`startsAgent_updateQube`** — a worker never starts anything else as an agent.
* **`agent_reads_arguments`** — from the command line of `qubes-vm-update` to the options of its agents. -/

namespace QubesAdminLinux

open Proc WorkerEvent QubeConnection ArgumentParser

/-- The command line that a call starts as the agent, with the user in a qube. -/
def WorkerCall.agentStart? : WorkerCall → Option (List String × Option String)
  | .popen (.entrypoint argv) => some (argv, none)
  | .popenStreams argv => some (argv, none)
  | .runWithArgs (.entrypoint argv) => some (argv, some "root")
  | .runService argv user => some (argv, some user)
  | _ => none

/-- The command line of the entrypoint. -/
def entrypointCommand (path : String) (args : Args) : List String :=
  "/usr/bin/python3" :: path :: args.toCliArgs

/-- The entrypoint in dom0. -/
def dom0Entrypoint (thisDir : String) : String := pathJoin thisDir UpdateAgentManager.entrypoint

/-- The entrypoint in a qube. -/
def qubeEntrypoint : String := pathJoin UpdateAgentManager.workdir UpdateAgentManager.entrypoint

/-- What the update of a qube starts: in a qube, downloads with progress need no rights of root. -/
def agentStart (thisDir : String) (qube : Qube) (args : Args) (showProgress dom0 : Bool) :
    List String × Option String :=
  if qube.klass = .adminVM then
    if dom0 then
      (["sudo", "qubes-dom0-update", "-y"]
        ++ flagWord (args.justPrintProgress || showProgress) "--just-print-progress"
        ++ flagWord args.quiet "--silent", none)
    else (entrypointCommand (dom0Entrypoint thisDir) args, none)
  else if showProgress && args.downloadOnly then
    ("fakeroot" :: entrypointCommand qubeEntrypoint args, some "user")
  else (entrypointCommand qubeEntrypoint args, some "root")

/-- If an event starts an agent, then by this command line and user. -/
def StartsOnly (start : List String × Option String) (e : WorkerEvent) : Prop :=
  ∀ started, e.call.agentStart? = some started → started = start

/-- Only the step of the entrypoint starts an agent. -/
theorem step?_of_agentStart? {e : WorkerEvent} {started : List String × Option String}
    (h : e.call.agentStart? = some started) : e.step? = some .entrypoint := by
  obtain ⟨c, reply⟩ := e
  cases c with
  | popen command | runWithArgs command =>
      cases command with
      | entrypoint argv => rfl
      | mkdir _ | untar _ _ | readLogs _ | remove _ => cases h
  | popenStreams argv | runService argv user => rfl
  | readTermination | put _ | initLogs | isRunning _ | makeArchive _ | copyArchive _ | wait
  | outputEnd | assignedPciDevices | shutdown _ | waitForDomainShutdown _ => cases h

/-- Events of other steps start no agent. -/
theorem startsOnly_of_quiet {start : List String × Option String} {e : WorkerEvent}
    (h : e.Quiet (· ≠ .entrypoint)) : StartsOnly start e := by
  intro started hstarted
  exact absurd rfl (h.step _ (step?_of_agentStart? hstarted))

/-- A step other than the entrypoint starts no agent. -/
theorem startsOnly_of_step {start : List String × Option String} {e : WorkerEvent}
    (h : e.step? ≠ some .entrypoint) : StartsOnly start e := by
  intro started hstarted
  exact absurd (step?_of_agentStart? hstarted) h

/-! ## The calls of a connection -/

section Connection

variable {conn : QubeConnection}

/-- The command line of an entrypoint. -/
def entrypointArgv (args : Args) : Entrypoint → List String
  | .script path => entrypointCommand path args
  | .commandLine argv => argv

/-- What a connection starts for a command line. -/
def connectionStart (conn : QubeConnection) (argv : List String) : List String × Option String :=
  if conn.qube.klass = .adminVM then (argv, none)
  else if conn.showProgress = true ∧ "--download-only" ∈ argv then ("fakeroot" :: argv, some "user")
  else (argv, some "root")

/-- A command that is run to its end. -/
theorem startsOnly_communicate {argv : List String} (hshow : conn.showProgress = false) :
    Emits (StartsOnly (connectionStart conn argv)) (conn.communicate (.entrypoint argv)) := by
  rw [communicate, connectionStart, hshow]
  split
  · refine emits_bind (emits_request fun reply started hstarted => ?_) fun reply =>
      emits_bind (emits_ofReply _) fun ended => ?_
    · cases hstarted
      rfl
    · obtain ⟨returncode, out, err⟩ := ended
      dsimp only
      split
      · exact emits_throw
      · exact emits_pure
  · refine emits_bind (emits_request fun reply started hstarted => ?_) fun reply => emits_ofReply _
    cases hstarted
    rfl

/-- A command whose streams are read as they come. -/
theorem startsOnly_startStreams {argv : List String} (hshow : conn.showProgress = true) :
    Emits (StartsOnly (connectionStart conn argv)) (conn.startStreams argv) := by
  rw [startStreams, connectionStart, hshow]
  split
  · refine emits_bind (emits_request fun reply started hstarted => ?_) fun reply => emits_ofReply _
    cases hstarted
    rfl
  by_cases hdownload : "--download-only" ∈ argv
  · rw [if_pos hdownload, if_pos ⟨rfl, hdownload⟩]
    refine emits_bind (emits_request fun reply started hstarted => ?_) fun reply => emits_ofReply _
    cases hstarted
    rfl
  · rw [if_neg hdownload, if_neg fun h => hdownload h.2]
    refine emits_bind (emits_request fun reply started hstarted => ?_) fun reply => emits_ofReply _
    cases hstarted
    rfl

/-- Messages start no agent. -/
theorem startsOnly_putAll {start : List String × Option String} {notifier : StatusNotifier}
    (queue : List (Message PyFloat)) : Emits (StartsOnly start) (notifier.putAll queue) := by
  induction queue with
  | nil => exact emits_pure
  | cons message rest ih =>
      exact emits_bind (emits_request fun _ => startsOnly_of_step (by rintro ⟨⟩)) fun _ => ih

/-- The exceptions of a command start nothing. -/
theorem startsOnly_onCommandException {start : List String × Option String} (exc : PyException) :
    Emits (StartsOnly start) (onCommandException exc) := by
  unfold onCommandException
  split
  · split
    · exact emits_bind emits_set fun _ => emits_pure
    · exact emits_pure
  · exact emits_pure

/-- The agent is started by its command line. -/
theorem startsOnly_entrypoint (argv : List String) :
    Emits (StartsOnly (connectionStart conn argv))
      (conn.runShellCommandInQube (.entrypoint argv) conn.showProgress) := by
  cases hshow : conn.showProgress with
  | false =>
      exact emits_tryCatch (emits_bind (startsOnly_communicate hshow) fun _ => emits_pure)
        fun exc => startsOnly_onCommandException exc
  | true =>
      refine emits_bind (startsOnly_startStreams hshow) fun streams =>
        emits_bind (startsOnly_putAll _) fun _ => ?_
      split
      · refine emits_bind (emits_request fun _ => ?_) fun _ => emits_throw
        rintro started ⟨⟩
      · refine emits_bind (emits_request fun _ => ?_) fun returncode => ?_
        · rintro started ⟨⟩
        split
        · exact emits_bind emits_set fun _ => emits_pure
        · exact emits_pure

end Connection

/-! ## The whole update -/

variable {thisDir : String} {qube : Qube} {args : Args} {showProgress dom0 : Bool}

/-- Whether the command line of an agent is one of a download. -/
theorem mem_entrypointCommand (hlog : args.log ≠ "--download-only") :
    "--download-only" ∈ entrypointCommand qubeEntrypoint args ↔ args.downloadOnly = true := by
  have hflag : ∀ (set : Bool) (word : String),
      "--download-only" ∈ flagWord set word ↔ set = true ∧ word = "--download-only" := by
    intro set word
    cases set <;> simp [flagWord, eq_comm]
  have hpath : "--download-only" ≠ qubeEntrypoint := by decide +kernel
  simp [entrypointCommand, Args.toCliArgs, hflag, hpath, Ne.symm hlog]

/-- The connection of a manager starts what `agentStart` says. -/
theorem connectionStart_connection (hlog : args.log ≠ "--download-only") {manager : UpdateAgentManager}
    (notifier : StatusNotifier) :
    connectionStart (manager.connection args notifier).1
        (entrypointArgv args (manager.connection args notifier).2.2)
      = agentStart manager.thisDir manager.qube args manager.showProgress manager.dom0 := by
  rw [UpdateAgentManager.connection, agentStart]
  by_cases hklass : manager.qube.klass = .adminVM
  · rw [if_pos hklass, if_pos hklass, connectionStart, if_pos hklass]
    cases manager.dom0 <;> rfl
  · rw [if_neg hklass, if_neg hklass, connectionStart, if_neg hklass]
    have hdownload := mem_entrypointCommand hlog
    by_cases hboth : manager.showProgress = true ∧ args.downloadOnly = true
    · have hmem := hdownload.mpr hboth.2
      rw [if_pos ⟨hboth.1, hmem⟩, if_pos (by simp [hboth])]
      rfl
    · rw [if_neg fun h => hboth ⟨h.1, hdownload.mp h.2⟩, if_neg (by simpa using hboth)]
      rfl

/-- What runs inside the `with` statement starts nothing but the entrypoint. -/
theorem startsOnly_runInConnection {start : List String × Option String} {manager : UpdateAgentManager}
    {qconn : QubeConnection} {srcDir : Option String} {entrypoint : Entrypoint}
    (hstart : connectionStart qconn (entrypointArgv args entrypoint) = start) :
    Emits (StartsOnly start) (manager.runInConnection qconn srcDir entrypoint args) := by
  have htransfer : Emits (StartsOnly start) (manager.transferAgent qconn srcDir) :=
    (UpdateAgentManager.emits_transferAgent (by rintro step hstep rfl; cases hstep)).mono
      fun _ h => startsOnly_of_quiet h
  have hlogs : Emits (StartsOnly start) qconn.readLogs :=
    (emits_readLogs (by decide)).mono fun _ h => startsOnly_of_quiet h
  refine emits_bind htransfer fun result => emits_bind (emits_request fun cancelled => ?_)
    fun cancelled => ?_
  · rintro started ⟨⟩
  dsimp only
  split
  · exact emits_bind emits_set fun _ => emits_pure
  · refine emits_bind (emits_bind ?_ fun ran => emits_bind emits_get fun status => ?_)
      fun _ => emits_bind (emits_bind hlogs fun _ => emits_pure) fun _ => emits_pure
    · rw [← hstart]
      exact startsOnly_entrypoint _
    · split
      · exact emits_bind emits_set fun _ => emits_pure
      · exact emits_pure

/-- A manager starts nothing else as an agent. -/
theorem startsOnly_runAgent (hlog : args.log ≠ "--download-only") (manager : UpdateAgentManager)
    (notifier : StatusNotifier) :
    Emits (StartsOnly (agentStart manager.thisDir manager.qube args manager.showProgress manager.dom0))
      (manager.runAgent args notifier) := by
  intro s t r s' hrun
  obtain ⟨q, hwith, -⟩ := UpdateAgentManager.runs_runAgent hrun
  have hentered : ∀ reply, StartsOnly
      (agentStart manager.thisDir manager.qube args manager.showProgress manager.dom0)
      ⟨.isRunning .entry, reply⟩ := fun reply => startsOnly_of_step (by rintro ⟨⟩)
  rcases runs_withConnection hwith with
    ⟨exc, rfl, -⟩ | ⟨running, tb, te, q, sb, re, rfl, hbody, hrelease, -⟩
  · rw [List.forall_mem_singleton]
    exact hentered _
  · have hreleased : ∀ e ∈ te, Quiet (· ≠ StepKind.entrypoint) e :=
      emits_release running (by decide) _ _ _ _ hrelease
    rw [List.forall_mem_cons, List.forall_mem_append, List.forall_mem_cons]
    exact ⟨hentered _, startsOnly_runInConnection (connectionStart_connection hlog _) _ _ _ _ hbody,
      startsOnly_of_step (by rintro ⟨⟩), fun e he => startsOnly_of_quiet (hreleased e he)⟩

/-- The manager that `__init__` returns. -/
theorem runs_init_ok {s s' : FinalStatus} {t : List WorkerEvent} {runner : UpdateAgentManager}
    (h : Runs (UpdateAgentManager.init thisDir qube args showProgress dom0) s t (.ok runner) s') :
    runner.thisDir = thisDir ∧ runner.qube = qube ∧ runner.showProgress = showProgress
      ∧ runner.dom0 = dom0 := by
  obtain ⟨reply, t₂, rfl, hrest⟩ := runs_call h
  rcases reply with exc | ⟨⟩
  · cases (runs_throw.mp hrest).2.1
  · obtain ⟨-, hrunner, -⟩ := runs_pure.mp hrest
    cases hrunner
    exact ⟨rfl, rfl, rfl, rfl⟩

/-- The update of a qube starts nothing but `agentStart` as an agent. -/
theorem startsAgent_updateQube (hlog : args.log ≠ "--download-only") :
    Emits (StartsOnly (agentStart thisDir qube args showProgress dom0))
      (updateQube thisDir qube args showProgress dom0) := by
  have hput : ∀ message : Message PyFloat, StartsOnly (agentStart thisDir qube args showProgress dom0)
      ⟨.put message, ()⟩ := fun message => startsOnly_of_step (by rintro ⟨⟩)
  refine emits_bind (emits_request fun _ => startsOnly_of_step (by rintro ⟨⟩)) fun cancelled => ?_
  split
  · exact emits_bind (emits_request fun _ => hput _) fun _ => emits_pure
  refine emits_tryCatch ?_ fun exc => emits_bind (emits_request fun _ => hput _) fun _ => emits_pure
  intro s t r s' hrun
  have hinit : Emits (StartsOnly (agentStart thisDir qube args showProgress dom0))
      (UpdateAgentManager.init thisDir qube args showProgress dom0) :=
    emits_bind (emits_request fun _ => startsOnly_of_step (by rintro ⟨⟩))
      fun _ => emits_bind (emits_ofReply _) fun _ => emits_pure
  rcases runs_bind.mp hrun with ⟨exc, -, hrunner⟩ | ⟨runner, t₁, t₂, s₁, rfl, hrunner, hrest⟩
  · exact hinit _ _ _ _ hrunner
  · obtain ⟨hdir, hqube, hshow, hdom0⟩ := runs_init_ok hrunner
    have hagent := startsOnly_runAgent hlog runner (qubeNotifier args)
    rw [hdir, hqube, hshow, hdom0] at hagent
    rw [List.forall_mem_append]
    exact ⟨hinit _ _ _ _ hrunner, emits_bind hagent (fun _ => emits_pure) _ _ _ _ hrest⟩

/-- Whatever `qubes-vm-update` has accepted, with a logging level that exists: an agent that is started in
the update of a qube is started by `agentStart`, and an entrypoint reads exactly the options that were given
to `qubes-vm-update`. -/
theorem agent_reads_arguments {default : Int} {argv : List String} {line : VmUpdateLine}
    (hparse : parseVmUpdate default argv = .ok line) (hlevel : line.args.log ∈ levelNames)
    {s s' : FinalStatus} {t : List WorkerEvent} {r : Except PyException (String × ProcessResult)}
    (hrun : Runs (updateQube thisDir qube line.args showProgress dom0) s t r s') {e : WorkerEvent}
    (he : e ∈ t) {started : List String × Option String} (hstarted : e.call.agentStart? = some started) :
    started = agentStart thisDir qube line.args showProgress dom0
      ∧ parseEntrypoint line.args.toCliArgs = .ok line.args.entrypointArgs := by
  have hlog : line.args.log ≠ "--download-only" := by
    intro heq
    rw [heq] at hlevel
    exact absurd hlevel (by decide)
  exact ⟨startsAgent_updateQube hlog _ _ _ _ hrun e he started hstarted,
    parseEntrypoint_of_level hparse hlevel⟩

/-- A download with progress. -/
def downloadArgs : Args := { downloadOnly := true, justPrintProgress := true }

/-- The agent of a download for dom0 reads its options. -/
theorem agent_reads_arguments_download :
    (["fakeroot", "/usr/bin/python3", "/run/qubes-update/agent/entrypoint.py", "--log", "INFO",
        "--download-only", "--just-print-progress"], some "user")
      = agentStart "/usr/lib/vmupdate" ⟨"sys-net", .appVM, by decide⟩ downloadArgs true false
      ∧ parseEntrypoint downloadArgs.toCliArgs = .ok downloadArgs.entrypointArgs := by
  have hparse : parseVmUpdate 7 ["--targets", "sys-net", "--download-only", "--just-print-progress"]
      = .ok { args := downloadArgs, targeting := { targets := "sys-net" } } := by
    decide +kernel
  have hrun := runs_play (cannedEnvironment (.ok ([], [])) (.ok ([], [])) 0)
    (updateQube "/usr/lib/vmupdate" ⟨"sys-net", .appVM, by decide⟩ downloadArgs true false) .error
  refine agent_reads_arguments hparse (by decide) hrun (e := ⟨.runService
    ["fakeroot", "/usr/bin/python3", "/run/qubes-update/agent/entrypoint.py", "--log", "INFO",
      "--download-only", "--just-print-progress"] "user", .ok ⟨none, none, []⟩⟩) ?_ rfl
  -- the calls in front of it prepare the working directory
  exact @List.mem_of_getElem? _ _ 8 _ rfl

end QubesAdminLinux
