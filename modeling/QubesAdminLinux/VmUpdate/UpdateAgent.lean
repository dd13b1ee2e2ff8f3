import QubesAdminLinux.VmUpdate.ConnectionRules

/-! # Updating one qube

`update_qube` is what a process of the pool runs for one qube: it builds an `UpdateAgentManager`,
which opens a connection, transfers the agent, runs it and reads its log.

* **`updateQube`** — the whole update; it never raises.
* **`runs_runInConnection`** — what a run inside the `with` statement returns and which status it
  leaves, from the outcomes of its commands. -/

namespace QubesAdminLinux

open Proc WorkerEvent QubeConnection

/-! ## The manager of an update -/

/-- The attributes of an `UpdateAgentManager`. -/
structure UpdateAgentManager where
  /-- The qube to update. -/
  qube : Qube
  /-- Whether dom0 is updated by `qubes-dom0-update`. -/
  dom0 : Bool
  /-- Whether to remove the working directory at the end. -/
  cleanup : Bool
  /-- Whether progress is reported while the agent runs. -/
  showProgress : Bool
  /-- The log file of the update. -/
  logPath : String
  /-- The directory of the program. -/
  thisDir : String

namespace UpdateAgentManager

/-- The directory of the agent, relative to the program or to the working directory. -/
def agentRelativeDir : String := "agent"

/-- The entrypoint of the agent, relative to the same directories. -/
def entrypoint : String := agentRelativeDir ++ "/entrypoint.py"

/-- The directory of the log files in dom0. -/
def logDir : String := "/var/log/qubes"

/-- The working directory in a qube. -/
def workdir : String := "/run/qubes-update/"

/-- `UpdateAgentManager.__init__`. -/
def init (thisDir : String) (qube : Qube) (agentArgs : Args) (showProgress dom0 : Bool) :
    WorkerM UpdateAgentManager := do
  ofReply (← call .initLogs)
  pure {
    qube, dom0, showProgress, thisDir
    cleanup := !agentArgs.noCleanup
    logPath := pathJoin logDir ("update-" ++ qube.name ++ ".log") }

/-- `_transfer_agent`: nothing to transfer to dom0. -/
def transferAgent (manager : UpdateAgentManager) (qconn : QubeConnection)
    (srcDir : Option String) : WorkerM ProcessResult :=
  if manager.qube.klass = .adminVM then pure {}
  else
    match srcDir with
    | none => throw (.other "")
    | some srcDir => do return ({} : ProcessResult).iadd (← qconn.transferAgent srcDir)

/-- `_run_entrypoint`: the update is a success unless the agent failed or had nothing to do. -/
def runEntrypoint (qconn : QubeConnection) (entrypoint : Entrypoint) (agentArgs : Args) :
    WorkerM ProcessResult := do
  let result := ({} : ProcessResult).iadd (← qconn.runEntrypoint entrypoint agentArgs)
  let status ← get
  if !result.toBool && status ≠ .noUpdates then
    set FinalStatus.success
    pure result
  else pure result

/-- What runs inside the `with` statement of `_run_agent`. -/
def runInConnection (manager : UpdateAgentManager) (qconn : QubeConnection)
    (srcDir : Option String) (entrypoint : Entrypoint) (agentArgs : Args) :
    WorkerM ProcessResult := do
  let result ← manager.transferAgent qconn srcDir
  let cancelled : Bool ← call .readTermination
  -- the transfer of an update that is cancelled here is not undone
  if cancelled then
    set FinalStatus.cancelled
    pure { code := Exit.sigint, err := "Cancelled" }
  else
    let result := result.iadd (← runEntrypoint qconn entrypoint agentArgs)
    -- the logs only go to the log file
    discard qconn.readLogs
    pure result

/-- The command line that updates dom0. -/
def dom0UpdateCommand (manager : UpdateAgentManager) (agentArgs : Args) : List String :=
  ["sudo", "qubes-dom0-update", "-y"]
    ++ flagWord (agentArgs.justPrintProgress || manager.showProgress) "--just-print-progress"
    ++ flagWord agentArgs.quiet "--silent"

/-- The connection, the directory to transfer and the entrypoint chosen by `_run_agent`. -/
def connection (manager : UpdateAgentManager) (agentArgs : Args)
    (statusNotifier : StatusNotifier) : QubeConnection × Option String × Entrypoint :=
  if manager.qube.klass = .adminVM then
    -- nothing is transferred to dom0, so there is nothing to remove
    (⟨manager.qube, none, false, manager.showProgress, statusNotifier⟩, none,
      if manager.dom0 then .commandLine (manager.dom0UpdateCommand agentArgs)
      else .script (pathJoin manager.thisDir entrypoint))
  else
    (⟨manager.qube, some workdir, manager.cleanup, manager.showProgress, statusNotifier⟩,
      some (pathJoin manager.thisDir agentRelativeDir), .script (pathJoin workdir entrypoint))

/-- `_log_output`: without `--show-output`, the output is replaced by a summary. -/
def logOutput (manager : UpdateAgentManager) (result : ProcessResult) (showOutput : Bool) :
    ProcessResult :=
  if showOutput then result
  else
    { result with
      out :=
        if result.code = Exit.ok then "OK"
        else s!"ERROR (exit code {result.code}, details in {manager.logPath})" }

/-- The notifier used by `run_agent`: the update of dom0 by its UpdateVM is shown as that of dom0. -/
def agentNotifier (manager : UpdateAgentManager) (statusNotifier : StatusNotifier) :
    StatusNotifier :=
  if manager.qube.klass = .adminVM && !manager.dom0 then statusNotifier.wrap "dom0"
  else statusNotifier

/-- `run_agent`. -/
def runAgent (manager : UpdateAgentManager) (agentArgs : Args) (statusNotifier : StatusNotifier) :
    WorkerM ProcessResult := do
  let (qconn, srcDir, entrypoint) :=
    manager.connection agentArgs (manager.agentNotifier statusNotifier)
  let result ← qconn.withConnection (manager.runInConnection qconn srcDir entrypoint agentArgs)
  pure (manager.logOutput result agentArgs.showOutput)

end UpdateAgentManager

/-! ## The update of a qube -/

/-- The notifier used by `update_qube`. -/
def qubeNotifier (agentArgs : Args) : StatusNotifier :=
  match agentArgs.displayName with
  | some name => ({} : StatusNotifier).wrap name
  | none => {}

/-- The guarded part of `update_qube`. -/
def buildAndRunAgent (thisDir : String) (qube : Qube) (agentArgs : Args)
    (showProgress dom0 : Bool) : WorkerM (String × ProcessResult) := do
  let runner ← UpdateAgentManager.init thisDir qube agentArgs showProgress dom0
  let result ← runner.runAgent agentArgs (qubeNotifier agentArgs)
  pure (qube.name, result)

/-- `update_qube`. -/
def updateQube (thisDir : String) (qube : Qube) (agentArgs : Args) (showProgress dom0 : Bool) :
    WorkerM (String × ProcessResult) := do
  let cancelled : Bool ← call .readTermination
  if cancelled then
    (qubeNotifier agentArgs).put (.status (.done qube.name .cancelled))
    pure (qube.name, { code := Exit.sigint, out := "Canceled" })
  else
    -- any exception of the update becomes a result with its own code
    tryCatch (buildAndRunAgent thisDir qube agentArgs showProgress dom0) fun exc => do
      (qubeNotifier agentArgs).put (.status (.done qube.name .error))
      pure (qube.name,
        { code := Exit.errVmUnhandled, out := s!"ERROR (exception {exc.str})" })

/-! ## Rules for the manager -/

/-- The name under which the update of a qube is shown. -/
def shownName (qube : Qube) (agentArgs : Args) : String := agentArgs.displayName.getD qube.name

/-- The name under which the qube is displayed. -/
theorem shown_qubeNotifier (qube : Qube) (agentArgs : Args) :
    (qubeNotifier agentArgs).shown qube.name = shownName qube agentArgs := by
  rw [qubeNotifier, shownName]
  cases agentArgs.displayName <;> rfl

namespace UpdateAgentManager

variable {manager : UpdateAgentManager} {agentArgs : Args} {s s' : FinalStatus}
  {t : List WorkerEvent}

/-- The update of dom0 by its UpdateVM is shown under the name that dom0 has anyway. -/
theorem shown_agentNotifier (notifier : StatusNotifier) :
    (manager.agentNotifier notifier).shown manager.qube.name
      = notifier.shown manager.qube.name := by
  rw [agentNotifier]
  split
  · rename_i h
    rw [Bool.and_eq_true, decide_eq_true_iff] at h
    rw [manager.qube.adminName h.1]
    rfl
  · rfl

/-- The connection shows the qube of the manager as the given notifier does. -/
theorem shown_connection (manager : UpdateAgentManager) (agentArgs : Args)
    (notifier : StatusNotifier) :
    (manager.connection agentArgs (manager.agentNotifier notifier)).1.statusNotifier.shown
      (manager.connection agentArgs (manager.agentNotifier notifier)).1.qube.name
      = notifier.shown manager.qube.name := by
  rw [← shown_agentNotifier notifier, connection]
  split
  · rfl
  · rfl

variable {name : String} {steps : StepKind → Prop} {qconn : QubeConnection}
  {srcDir : Option String} {entrypoint : Entrypoint}

/-- The transfer reports nothing. -/
theorem emits_transferAgent (hsteps : ∀ step : StepKind, step.isTransfer = true → steps step) :
    Emits (Quiet steps) (manager.transferAgent qconn srcDir) := by
  rw [UpdateAgentManager.transferAgent.eq_def]
  split
  · exact emits_pure
  · split
    · exact emits_throw
    · exact emits_bind (QubeConnection.emits_transferAgent hsteps) fun _ => emits_pure

/-- The entrypoint reports about the qube. -/
theorem emits_runEntrypoint (hname : qconn.statusNotifier.shown qconn.qube.name = name)
    (hstep : steps .entrypoint) :
    Emits (Within name steps) (runEntrypoint qconn entrypoint agentArgs) := by
  refine emits_bind (QubeConnection.emits_runEntrypoint hname hstep) fun result =>
    emits_bind emits_get fun status => ?_
  split
  · exact emits_bind emits_set fun _ => emits_pure
  · exact emits_pure

/-- It raises exactly at a reply that no handler catches. -/
theorem failsOn_runEntrypoint : FailsOn escapes (runEntrypoint qconn entrypoint agentArgs) := by
  refine failsOn_bind QubeConnection.failsOn_runEntrypoint fun result =>
    failsOn_bind failsOn_get fun status => ?_
  split
  · exact failsOn_bind failsOn_set fun _ => failsOn_pure
  · exact failsOn_pure

/-- Whatever happens inside the `with` statement is progress of the qube. -/
theorem emits_runInConnection (hname : qconn.statusNotifier.shown qconn.qube.name = name) :
    Emits (Progressing name) (manager.runInConnection qconn srcDir entrypoint agentArgs) := by
  have hany : ∀ step : StepKind, step.isTransfer = true → True := fun _ _ => trivial
  refine emits_bind (emits_quiet (emits_transferAgent hany)) fun result => ?_
  refine emits_bind (emits_request fun cancelled => ?_) fun cancelled => ?_
  · rintro message ⟨⟩
  dsimp only
  split
  · exact emits_bind emits_set fun _ => emits_pure
  · refine emits_bind (emits_progressing (emits_runEntrypoint hname trivial)) fun entry => ?_
    exact emits_bind (emits_bind (emits_quiet (emits_readLogs trivial))
      fun _ => emits_pure) fun _ => emits_pure

/-- Inside the `with` statement, the exceptions are those that escape from the connection. -/
theorem failsOn_runInConnection (notifier : StatusNotifier) :
    FailsOn escapes (manager.runInConnection (manager.connection agentArgs notifier).1
      (manager.connection agentArgs notifier).2.1 (manager.connection agentArgs notifier).2.2
      agentArgs) := by
  refine failsOn_bind ?_ fun result => failsOn_bind (failsOn_request fun _ h => h)
    fun cancelled => ?_
  · -- dom0 gets no agent, a qube has a working directory
    rw [UpdateAgentManager.transferAgent.eq_def, connection]
    split
    · exact failsOn_pure
    · exact failsOn_bind (failsOn_transferAgent rfl) fun _ => failsOn_pure
  · split
    · exact failsOn_bind failsOn_set fun _ => failsOn_pure
    · exact failsOn_bind failsOn_runEntrypoint fun entry =>
        failsOn_bind (failsOn_bind failsOn_readLogs fun _ => failsOn_pure) fun _ => failsOn_pure

/-- The status that is left inside the `with` statement is known if the one before is. -/
theorem preserves_runInConnection :
    Preserves FinalStatus.Known (manager.runInConnection qconn srcDir entrypoint agentArgs) := by
  refine preserves_bind ?_ fun result => preserves_bind preserves_request fun cancelled => ?_
  · rw [UpdateAgentManager.transferAgent.eq_def]
    split
    · exact preserves_pure
    · split
      · exact preserves_throw
      · exact preserves_bind preserves_transferAgent fun _ => preserves_pure
  · dsimp only
    split
    · exact preserves_bind (preserves_set (by decide)) fun _ => preserves_pure
    · refine preserves_bind ?_ fun entry => preserves_bind (preserves_bind
        preserves_runShellCommandInQube fun _ => preserves_pure) fun _ => preserves_pure
      refine preserves_bind preserves_runShellCommandInQube fun ran =>
        preserves_bind preserves_get fun status => ?_
      split
      · exact preserves_bind (preserves_set (by decide)) fun _ => preserves_pure
      · exact preserves_pure

/-- The logs are prepared first, which may raise. -/
theorem runs_init {thisDir : String} {qube : Qube} {showProgress dom0 : Bool}
    {r : Except PyException UpdateAgentManager}
    (h : Runs (init thisDir qube agentArgs showProgress dom0) s t r s') :
    (∃ exc, t = [⟨.initLogs, .error exc⟩] ∧ r = .error exc) ∨
    ∃ runner, t = [⟨.initLogs, .ok ()⟩] ∧ r = .ok runner ∧ runner.qube = qube := by
  obtain ⟨reply, t₂, rfl, hrest⟩ := runs_call h
  rcases reply with exc | ⟨⟩
  · obtain ⟨rfl, rfl, -⟩ := runs_throw.mp hrest
    exact Or.inl ⟨exc, rfl, rfl⟩
  · obtain ⟨rfl, rfl, -⟩ := runs_pure.mp hrest
    exact Or.inr ⟨_, rfl, rfl, rfl⟩

/-- The summary of the output keeps the code. -/
theorem logOutput_code (manager : UpdateAgentManager) (result : ProcessResult)
    (showOutput : Bool) : (manager.logOutput result showOutput).code = result.code := by
  rw [logOutput]
  split
  · rfl
  · rfl

/-- `run_agent` is the `with` statement, up to the summary of the output. -/
theorem runs_runAgent {notifier : StatusNotifier} {r : Except PyException ProcessResult}
    (h : Runs (manager.runAgent agentArgs notifier) s t r s') :
    ∃ q, Runs ((manager.connection agentArgs (manager.agentNotifier notifier)).1.withConnection
        (manager.runInConnection
          (manager.connection agentArgs (manager.agentNotifier notifier)).1
          (manager.connection agentArgs (manager.agentNotifier notifier)).2.1
          (manager.connection agentArgs (manager.agentNotifier notifier)).2.2 agentArgs)) s t q s' ∧
      r = q.map fun result => manager.logOutput result agentArgs.showOutput := by
  rcases runs_bind.mp h with ⟨exc, rfl, hwith⟩ | ⟨result, t₁, t₂, s₁, rfl, hwith, hrest⟩
  · exact ⟨_, hwith, rfl⟩
  · obtain ⟨rfl, rfl, rfl⟩ := runs_pure.mp hrest
    rw [List.append_nil]
    exact ⟨_, hwith, rfl⟩

/-! ## Status and code -/

variable {result : ProcessResult}

/-- The transfer, as far as the manager sees it: negative codes are gone. -/
theorem runs_transferAgent (h : Runs (manager.transferAgent qconn srcDir) s t (.ok result) s') :
    s' = statusAfter s (commands t) ∧ (∀ command ∈ commands t, command.1.isTransfer = true) ∧
      0 ≤ result.code ∧ (0 < result.code ↔ ∃ command ∈ commands t, 0 < command.2.code) := by
  rw [UpdateAgentManager.transferAgent.eq_def] at h
  split at h
  · obtain ⟨rfl, hr, rfl⟩ := runs_pure.mp h
    cases hr
    simp
  · split at h
    · cases (runs_throw.mp h).2.1
    · obtain ⟨transferred, t₁, t₂, s₁, rfl, htransfer, hend⟩ := runs_bind_ok.mp h
      obtain ⟨rfl, hr, rfl⟩ := runs_pure.mp hend
      cases hr
      obtain ⟨hstatus, hkinds, hcode⟩ := QubeConnection.runs_transferAgent htransfer
      rw [List.append_nil, ← hcode]
      exact ⟨hstatus, hkinds, le_max_left _ _, by simp⟩

/-- The status left by an entrypoint with outcome `o`. -/
def entrypointStatus (s : FinalStatus) (o : Outcome) : FinalStatus :=
  if o.code ≤ 0 ∧ o.status s ≠ .noUpdates then .success else o.status s

/-- Running the entrypoint: a negative code counts as zero, and zero as a success unless there were
no updates. -/
theorem runs_runEntrypoint
    (h : Runs (runEntrypoint qconn entrypoint agentArgs) s t (.ok result) s') :
    ∃ o, commands t = [(.entrypoint, o)] ∧ result.code = max 0 o.code ∧
      s' = entrypointStatus s o := by
  obtain ⟨ran, t₁, t₂, s₁, rfl, hrun, hrest⟩ := runs_bind_ok.mp h
  obtain ⟨o, hcommands, hcode, rfl⟩ := QubeConnection.runs_runEntrypoint hrun
  obtain ⟨status, t₃, t₄, s₂, rfl, hget, hend⟩ := runs_bind_ok.mp hrest
  obtain ⟨rfl, hstatus, rfl⟩ := runs_get.mp hget
  cases hstatus
  -- merging into the empty result cuts negative codes off at zero
  have hfalsy : (!(({} : ProcessResult).iadd ran).toBool) = true ↔ o.code ≤ 0 := by
    rw [Bool.not_eq_true', ProcessResult.toBool_eq_false, ProcessResult.iadd_code, hcode]
    exact max_eq_left_iff
  have hmax : (({} : ProcessResult).iadd ran).code = max 0 o.code := by
    rw [ProcessResult.iadd_code, hcode]
    rfl
  by_cases hsuccess : o.code ≤ 0 ∧ o.status s ≠ .noUpdates
  · rw [if_pos (by rwa [Bool.and_eq_true, hfalsy, decide_eq_true_iff])] at hend
    obtain ⟨_, t₅, t₆, s₃, rfl, hset, hpure⟩ := runs_bind_ok.mp hend
    obtain ⟨rfl, -, rfl⟩ := runs_set.mp hset
    obtain ⟨rfl, hr, rfl⟩ := runs_pure.mp hpure
    cases hr
    exact ⟨o, by simp [hcommands], hmax, by rw [entrypointStatus, if_pos hsuccess]⟩
  · rw [if_neg (by rwa [Bool.and_eq_true, hfalsy, decide_eq_true_iff])] at hend
    obtain ⟨rfl, hr, rfl⟩ := runs_pure.mp hend
    cases hr
    exact ⟨o, by simp [hcommands], hmax, by rw [entrypointStatus, if_neg hsuccess]⟩

/-- What runs inside the `with` statement, if it returns: the transfer, and then either the
cancellation or the entrypoint and the log read. -/
theorem runs_runInConnection
    (h : Runs (manager.runInConnection qconn srcDir entrypoint agentArgs) s t (.ok result) s') :
    ∃ transfer : List (StepKind × Outcome),
      (∀ command ∈ transfer, command.1.isTransfer = true) ∧
      (((∃ e ∈ t, seesTermination e = true) ∧ commands t = transfer ∧
          result.code = Exit.sigint ∧ s' = .cancelled) ∨
        ((¬ ∃ e ∈ t, seesTermination e = true) ∧ ∃ o o' : Outcome,
          commands t = transfer ++ [(.entrypoint, o), (.readLogs, o')] ∧ 0 ≤ result.code ∧
          (0 < result.code ↔ (∃ command ∈ transfer, 0 < command.2.code) ∨ 0 < o.code) ∧
          s' = o'.status (entrypointStatus (statusAfter s transfer) o))) := by
  -- an event that does not read the flag cannot see it set
  have hunseen : ∀ {t' : List WorkerEvent}, (∀ e ∈ t', readsTermination e = false) →
      ¬ ∃ e ∈ t', seesTermination e = true := by
    rintro t' hread ⟨e, he, hsees⟩
    have := hread e he
    rw [readsTermination_of_seesTermination hsees] at this
    cases this
  obtain ⟨transferred, t₁, t₂, s₁, rfl, htransfer, hrest⟩ := runs_bind_ok.mp h
  obtain ⟨rfl, hkinds, hnonneg, hcode⟩ := runs_transferAgent htransfer
  have hquiet : ∀ e ∈ t₁, Quiet (fun _ => True) e :=
    emits_transferAgent (fun _ _ => trivial) _ _ _ _ htransfer
  have ht₁ := hunseen fun e he => (hquiet e he).unread
  obtain ⟨cancelled, t₃, rfl, hbranch⟩ := runs_call hrest
  have hread : commands (⟨.readTermination, cancelled⟩ :: t₃) = commands t₃ := rfl
  change Bool at cancelled
  refine ⟨commands t₁, hkinds, ?_⟩
  rw [commands_append, hread]
  cases cancelled with
  -- cancelled after the transfer: no further command
  | true =>
      obtain ⟨_, t₄, t₅, s₂, rfl, hset, hpure⟩ := runs_bind_ok.mp hbranch
      obtain ⟨rfl, -, rfl⟩ := runs_set.mp hset
      obtain ⟨rfl, hr, rfl⟩ := runs_pure.mp hpure
      cases hr
      exact Or.inl ⟨⟨⟨.readTermination, true⟩, by simp, rfl⟩, by simp, rfl, rfl⟩
  -- the entrypoint runs and then the log is read, whatever the transfer returned
  | false =>
      obtain ⟨ran, t₄, t₅, s₂, rfl, hrun, hlogs⟩ := runs_bind_ok.mp hbranch
      obtain ⟨o, ho, hrancode, rfl⟩ := runs_runEntrypoint hrun
      obtain ⟨_, t₆, t₇, s₃, rfl, hlogs', hpure⟩ := runs_bind_ok.mp hlogs
      obtain ⟨rfl, hr, rfl⟩ := runs_pure.mp hpure
      cases hr
      obtain ⟨read, t₈, t₉, s₄, rfl, hread', hpure'⟩ := runs_bind_ok.mp hlogs'
      obtain ⟨rfl, -, rfl⟩ := runs_pure.mp hpure'
      obtain ⟨o', ho', rfl⟩ := runs_readLogs hread'
      -- the flag is read once: neither the agent nor the log read looks at it
      have hrunWithin : ∀ e ∈ t₄, Within (qconn.statusNotifier.shown qconn.qube.name)
          (fun _ => True) e := emits_runEntrypoint rfl trivial _ _ _ _ hrun
      have hreadQuiet : ∀ e ∈ t₈, Quiet (fun _ => True) e := emits_readLogs trivial _ _ _ _ hread'
      have ht₄ := hunseen fun e he => (hrunWithin e he).unread
      have ht₈ := hunseen fun e he => (hreadQuiet e he).unread
      refine Or.inr ⟨?_, o, o', by simp [ho, ho'], ?_, ?_, rfl⟩
      · rintro ⟨e, he, hsees⟩
        simp only [List.append_nil, List.mem_append, List.mem_cons] at he
        rcases he with he | rfl | he | he
        · exact ht₁ ⟨e, he, hsees⟩
        · cases hsees
        · exact ht₄ ⟨e, he, hsees⟩
        · exact ht₈ ⟨e, he, hsees⟩
      · exact hnonneg.trans (le_max_left _ _)
      · rw [← hcode, ProcessResult.iadd_code, hrancode]
        simp

end UpdateAgentManager

/-- An environment in which everything works, except perhaps the creation of the working directory,
the copy of the archive and the commands run in dom0. -/
def cannedEnvironment (made copied : Except PyException (Bytes × Bytes)) (dom0Code : Int) :
    (c : WorkerCall) → c.Reply
  | .readTermination => false
  | .put _ => ()
  | .initLogs => .ok ()
  | .isRunning _ => .ok true
  | .makeArchive _ => .ok ()
  | .popen _ => .ok (dom0Code, [], [])
  | .runWithArgs (.mkdir _) => made
  | .runWithArgs _ => .ok ([], [])
  | .copyArchive _ => copied
  | .popenStreams _ => .ok ⟨none, none, []⟩
  | .runService _ _ => .ok ⟨none, none, []⟩
  | .outputEnd => ()
  | .wait => (0 : Int)
  | .assignedPciDevices => .ok false
  | .shutdown _ => .ok ()
  | .waitForDomainShutdown _ => .ok ()

end QubesAdminLinux
