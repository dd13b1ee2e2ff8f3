import QubesAdminLinux.Dom0Updates.NestedUpdates
import QubesAdminLinux.Lib.Histories
import QubesAdminLinux.VmUpdate.RunOutcome
import QubesAdminLinux.VmUpdate.UsageErrors

/-! # Agents that apply the update of dom0

With progress, `qubes-dom0-update` leaves the download and the installation to runs of `qubes-vm-update`,
and these to agents.  The script only sees the exit codes of the two runs.

* **`heeds_updateQube`** — a worker waits for an agent only after it has started one.
* **`VmUpdateRun`** — a run of `qubes-vm-update` behind a command line and an exit code.
* **`agents_applied`** — when the script exits with 0, the agents have been started, and their updates count
  as successes. -/

namespace QubesAdminLinux

open Proc WorkerEvent QubeConnection StateExcept

/-! ## A worker waits for what it has started -/

/-- Waiting is allowed once an agent has been started. -/
def WaitsForAgent (before : List WorkerEvent) (c : WorkerCall) : Prop :=
  c = .wait → ∃ e ∈ before, e.call.agentStart?.isSome = true

/-- Whether an event does not wait. -/
def Unwaiting (e : WorkerEvent) : Prop := e.call ≠ .wait

/-- Code that waits for no agent waits for no agent that has not been started. -/
theorem heeds_of_unwaiting {α : Type} {past : List WorkerEvent} {x : WorkerM α}
    (h : Emits Unwaiting x) : Heeds WaitsForAgent past x :=
  h.heeds fun _ _ he hwait => absurd hwait he

/-- A step other than the entrypoint waits for no agent. -/
theorem unwaiting_of_step {e : WorkerEvent} (h : e.step? ≠ some .entrypoint) : Unwaiting e := by
  obtain ⟨c, reply⟩ := e
  rintro rfl
  exact h rfl

/-- Nor does anything quiet. -/
theorem unwaiting_of_quiet {e : WorkerEvent} (h : e.Quiet (· ≠ .entrypoint)) : Unwaiting e :=
  unwaiting_of_step fun hstep => h.step _ hstep rfl

section Connection

variable {conn : QubeConnection} {past : List WorkerEvent}

/-- Nor does a command of the connection. -/
theorem unwaiting_communicate (command : Command) : Emits Unwaiting (conn.communicate command) := by
  rw [communicate]
  split
  · refine emits_bind (emits_request fun _ => by rintro ⟨⟩) fun reply =>
      emits_bind (emits_ofReply _) fun ended => ?_
    obtain ⟨returncode, out, err⟩ := ended
    dsimp only
    split
    · exact emits_throw
    · exact emits_pure
  · exact emits_bind (emits_request fun _ => by rintro ⟨⟩) fun _ => emits_ofReply _

/-- A command that is run to its end is not waited for by another call. -/
theorem unwaiting_runCommandAndWaitForOutput (command : Command) :
    Emits Unwaiting (conn.runCommandAndWaitForOutput command) := by
  refine emits_tryCatch (emits_bind (unwaiting_communicate command) fun _ => emits_pure) fun exc => ?_
  intro s t r s' h
  rw [(runs_onCommandException h).1]
  exact List.forall_mem_nil _

/-- A process that has been started starts the agent. -/
theorem agentStart?_of_started? {e : WorkerEvent} {reply : Except PyException Streams}
    (h : e.started? = some reply) : e.call.agentStart?.isSome = true := by
  rcases eq_of_started h with ⟨argv, rfl⟩ | ⟨argv, user, rfl⟩
  · rfl
  · rfl

/-- A command whose streams are read is waited for after its start. -/
theorem heeds_runCommandAndActivelyReportProgress (command : Command) :
    Heeds WaitsForAgent past (conn.runCommandAndActivelyReportProgress command) := by
  intro s t r s' h
  obtain ⟨e, t', rfl, hcase⟩ := runs_readStreams h
  have hstarted : ∃ reply, e.started? = some reply := by
    rcases hcase with ⟨exc, hstart, -⟩ | ⟨streams, puts, hstart, -⟩
    · exact ⟨_, hstart⟩
    · exact ⟨_, hstart⟩
  obtain ⟨reply, hstart⟩ := hstarted
  refine heeded_iff.mpr fun t₁ e' t₂ heq hwait => ?_
  rcases List.cons_eq_append_iff.mp heq with ⟨rfl, hcons⟩ | ⟨t₃, rfl, -⟩
  · -- the first call is not one that waits
    obtain ⟨rfl, -⟩ := List.cons.inj hcons
    obtain ⟨c, reply'⟩ := e'
    cases hwait
    cases hstart
  · exact ⟨e, by simp, agentStart?_of_started? hstart⟩

/-- An agent is awaited after it has been started. -/
theorem heeds_entrypoint (argv : List String) (display : Bool) :
    Heeds WaitsForAgent past (conn.runShellCommandInQube (.entrypoint argv) display) := by
  cases display with
  | false => exact heeds_of_unwaiting (unwaiting_runCommandAndWaitForOutput _)
  | true => exact heeds_runCommandAndActivelyReportProgress _

end Connection

variable {thisDir : String} {qube : Qube} {args : Args} {showProgress dom0 : Bool}

/-- What runs inside the `with` statement. -/
theorem heeds_runInConnection {past : List WorkerEvent} {manager : UpdateAgentManager}
    {qconn : QubeConnection} {srcDir : Option String} {entrypoint : Entrypoint} :
    Heeds WaitsForAgent past (manager.runInConnection qconn srcDir entrypoint args) := by
  have htransfer : Emits Unwaiting (manager.transferAgent qconn srcDir) :=
    (UpdateAgentManager.emits_transferAgent (by rintro step hstep rfl; cases hstep)).mono
      fun _ h => unwaiting_of_quiet h
  have hlogs : Emits Unwaiting qconn.readLogs :=
    (emits_readLogs (by decide)).mono fun _ h => unwaiting_of_quiet h
  refine heeds_bind (heeds_of_unwaiting htransfer) fun _ _ result _ _ =>
    heeds_request_bind (by rintro ⟨⟩) fun cancelled => ?_
  dsimp only
  split
  · exact heeds_of_unwaiting (emits_bind emits_set fun _ => emits_pure)
  · refine heeds_bind (heeds_bind (heeds_entrypoint _ _) fun _ _ ran _ _ =>
      heeds_of_unwaiting (emits_bind emits_get fun status => ?_)) fun _ _ _ _ _ =>
        heeds_of_unwaiting (emits_bind (emits_bind hlogs fun _ => emits_pure) fun _ => emits_pure)
    split
    · exact emits_bind emits_set fun _ => emits_pure
    · exact emits_pure

/-- A whole update awaits only the agent that it has started. -/
theorem heeds_runAgent {past : List WorkerEvent} (manager : UpdateAgentManager)
    (notifier : StatusNotifier) : Heeds WaitsForAgent past (manager.runAgent args notifier) := by
  intro s t r s' hrun
  obtain ⟨q, hwith, -⟩ := UpdateAgentManager.runs_runAgent hrun
  rcases runs_withConnection hwith with
    ⟨exc, rfl, -⟩ | ⟨running, tb, te, q, sb, re, rfl, hbody, hrelease, -⟩
  · exact heeded_cons.mpr ⟨by rintro ⟨⟩, heeded_nil⟩
  · have hreleased : Emits Unwaiting
        ((manager.connection args (manager.agentNotifier notifier)).1.release running) :=
      (emits_release running (by decide)).mono fun _ h => unwaiting_of_quiet h
    refine heeded_cons.mpr ⟨by rintro ⟨⟩, heeded_append.mpr ⟨heeds_runInConnection _ _ _ _ hbody, ?_⟩⟩
    exact heeded_cons.mpr ⟨by rintro ⟨⟩, heeds_of_unwaiting hreleased _ _ _ _ hrelease⟩

/-- A worker waits for an agent only after it has started one. -/
theorem heeds_updateQube {past : List WorkerEvent} :
    Heeds WaitsForAgent past (updateQube thisDir qube args showProgress dom0) := by
  have hput : ∀ message : Message PyFloat, Unwaiting ⟨.put message, ()⟩ := fun _ => by rintro ⟨⟩
  refine heeds_request_bind (by rintro ⟨⟩) fun cancelled => ?_
  split
  · exact heeds_of_unwaiting (emits_bind (emits_request fun _ => hput _) fun _ => emits_pure)
  refine heeds_tryCatch ?_ fun _ _ exc _ _ =>
    heeds_of_unwaiting (emits_bind (emits_request fun _ => hput _) fun _ => emits_pure)
  refine heeds_bind (heeds_of_unwaiting ?_) fun _ _ runner _ _ =>
    heeds_bind (heeds_runAgent runner _) fun _ _ _ _ _ => heeds_pure
  exact emits_bind (emits_request fun _ => by rintro ⟨⟩) fun _ =>
    emits_bind (emits_ofReply _) fun _ => emits_pure

/-- A worker whose update has succeeded has started the agent, by its command line and user. -/
theorem started_of_agentSucceeded {s s' : FinalStatus} {t : List WorkerEvent}
    {r : Except PyException (String × ProcessResult)} (hlog : args.log ≠ "--download-only")
    (hrun : Runs (updateQube thisDir qube args showProgress dom0) s t r s') (h : AgentSucceeded t) :
    ∃ e ∈ t, e.call.agentStart? = some (agentStart thisDir qube args showProgress dom0) := by
  suffices hsome : ∃ e ∈ t, e.call.agentStart?.isSome = true by
    obtain ⟨e, he, hstarted⟩ := hsome
    obtain ⟨started, heq⟩ := Option.isSome_iff_exists.mp hstarted
    exact ⟨e, he, by rw [heq, startsAgent_updateQube hlog _ _ _ _ hrun e he started heq]⟩
  -- the agent has ended: at once, or it has been waited for
  obtain ⟨o, ho, -⟩ := h.agent
  obtain ⟨e, he, houtcome⟩ := List.mem_filterMap.mp ho
  obtain ⟨c, reply⟩ := e
  have hstep := step?_of_commandOutcome? houtcome
  cases c with
  | wait =>
      obtain ⟨t₁, t₂, rfl⟩ := List.append_of_mem he
      have hheeded := @heeds_updateQube thisDir qube args showProgress dom0 [] _ _ _ _ hrun
      obtain ⟨e, hmem, hstarted⟩ := heeded_iff.mp hheeded t₁ _ t₂ rfl rfl
      rw [List.nil_append] at hmem
      exact ⟨e, List.mem_append_left _ hmem, hstarted⟩
  | popen command | runWithArgs command =>
      cases command with
      | entrypoint argv => exact ⟨_, he, rfl⟩
      | mkdir _ | untar _ _ | readLogs _ | remove _ => cases hstep
  | copyArchive _ => cases hstep
  | readTermination | put _ | initLogs | isRunning _ | makeArchive _ | popenStreams _
  | runService _ _ | outputEnd | assignedPciDevices | shutdown _ | waitForDomainShutdown _ =>
      cases houtcome

namespace Dom0Update

/-! ## A run of `qubes-vm-update` -/

/-- A run of `qubes-vm-update` that gets to the update of its targets: its command line, what it is given,
the steps of the workers of each batch that is started, and the exit code. -/
structure VmUpdateRun (thisDir : String) (host : UpdateHost) (words : List String) (status : Nat) where
  /-- The default limit for stale qubes. -/
  default : Int
  /-- What is read. -/
  line : VmUpdateLine
  /-- The state of the qubes. -/
  world : World
  /-- The limit for stale qubes. -/
  limit : Int
  /-- The selected targets. -/
  targets : List SystemDomain
  /-- The steps of a batch. -/
  log : (batch : Batch) →
    List (BatchLabel (batchManager line.args (targets.map SystemDomain.toQube) batch).qubes.length)
  /-- The results of a batch. -/
  result : (batch : Batch) →
    Fin (batchManager line.args (targets.map SystemDomain.toQube) batch).qubes.length →
      String × ProcessResult
  /-- The command line is accepted. -/
  parsed : parseVmUpdate default words = .ok line
  /-- The limit is accepted. -/
  limited : parseArgs host.limitFeature line.updateIfStale = .ok limit
  /-- The targets are selected. -/
  selected : (getTargets host.app host.features host.clock (line.selection limit)).2 = .ok targets
  /-- The batches. -/
  batches : ∀ batch ∈ (host.vmUpdate line.toCommandLine world).2.started, BatchRun thisDir
    (batchManager line.args (targets.map SystemDomain.toQube) batch) line.args (log batch) (result batch)
    (host.env.outcome batch)
  /-- The exit code. -/
  returned : (host.vmUpdate line.toCommandLine world).1 = .ok (status : Int)

namespace VmUpdateRun

variable {thisDir : String} {host : UpdateHost} {words : List String} {status : Nat}

/-- The state after the messages of the selection. -/
def start (run : VmUpdateRun thisDir host words status) : World :=
  run.world.print (getTargets host.app host.features host.clock (run.line.selection run.limit)).1

/-- The logging level is a known one, as the run has an exit code. -/
theorem mem_levelNames (run : VmUpdateRun thisDir host words status) :
    run.line.args.log ∈ levelNames := by
  by_contra hunknown
  have hreturned := run.returned
  rw [UpdateHost.vmUpdate, run.limited] at hreturned
  dsimp only at hreturned
  rw [if_neg hunknown] at hreturned
  cases hreturned

/-- The selected targets are updated. -/
theorem vmUpdate_eq (run : VmUpdateRun thisDir host words status) :
    host.vmUpdate run.line.toCommandLine run.world =
      let ended := mainRun host.env run.line.args (.ok (run.targets.map SystemDomain.toQube)) run.start
      (ended.1.mapError .stopped, ended.2) := by
  have hlevel : run.line.args.log ∈ levelNames := run.mem_levelNames
  rw [UpdateHost.vmUpdate, run.limited]
  dsimp only
  rw [if_pos hlevel, UpdateHost.updateSelected]
  dsimp only
  rw [run.selected, start]

/-- Only errors are mapped. -/
theorem ok_of_mapError {ε ε' α : Type} {x : Except ε α} {f : ε → ε'} {a : α} (h : x.mapError f = .ok a) :
    x = .ok a := by
  cases x with
  | error exc => cases h
  | ok a' => exact congrArg Except.ok (Except.ok.inj h)

/-- A single worker has been started, its update has succeeded, and it has started the agent by this command
line and user. -/
def AgentRan (run : VmUpdateRun thisDir host words status) (started : List String × Option String) : Prop :=
  ∃ batch i, AgentSucceeded (threadEvents i (run.log batch)) ∧
    ∃ e ∈ threadEvents i (run.log batch), e.call.agentStart? = some started

/-- A run with one target that exits with 0 has run the agent of this target. -/
theorem agentRan_of_returned (run : VmUpdateRun thisDir host words 0) {vm : SystemDomain}
    (htargets : run.targets = [vm]) (hdry : run.line.args.dryRun = false)
    (hlog : run.line.args.log ≠ "--download-only") :
    run.AgentRan (agentStart thisDir vm.toQube run.line.args run.line.args.showProgress
      (vm.klass.batch.dom0 run.line.args)) := by
  have hne : run.targets.map SystemDomain.toQube ≠ [] := by simp [htargets]
  have hreturned := run.returned
  have hbatches := run.batches
  rw [run.vmUpdate_eq, mainRun_of_ne_nil _ _ hne] at hreturned hbatches
  have hzero := ok_of_mapError hreturned
  have hmembers : members vm.klass.batch (run.targets.map SystemDomain.toQube) = [vm.toQube] := by
    rw [htargets]
    simp [members]
  have hsome : members vm.klass.batch (run.targets.map SystemDomain.toQube) ≠ [] := by simp [hmembers]
  obtain ⟨hstarted, hsucceeded⟩ := ((updateTargets_success_iff host.env hdry run.start thisDir
    hbatches).mp (Or.inl hzero)).1 vm.klass.batch hsome
  -- its only worker
  have hqubes : (batchManager run.line.args (run.targets.map SystemDomain.toQube) vm.klass.batch).qubes
      = [vm.toQube] := hmembers
  have hlength : 0 < (batchManager run.line.args (run.targets.map SystemDomain.toQube)
      vm.klass.batch).qubes.length := by simp [hqubes]
  have hget : (batchManager run.line.args (run.targets.map SystemDomain.toQube)
      vm.klass.batch).qubes.get ⟨0, hlength⟩ = vm.toQube := by simp [hqubes]
  obtain ⟨s, hrun⟩ := (hbatches _ hstarted).worker ⟨0, hlength⟩
  rw [hget] at hrun
  exact ⟨vm.klass.batch, ⟨0, hlength⟩, hsucceeded.workers _,
    started_of_agentSucceeded hlog hrun (hsucceeded.workers _)⟩

end VmUpdateRun

/-! ## What the script leaves to nested updates -/

/-- An event of an update with progress: a download is one by `qubes-vm-update`, and without packages
neither is `dnf` run nor are updates looked for before the installation. -/
structure ByProgress (sys : System) (o : Options) (e : UpdateEvent) : Prop where
  /-- The download. -/
  download : isDownload e = true → e.call = .downloadWithProgress sys.updatevm
  /-- The installation. -/
  install : o.pkgs = [] → (∀ argv, e.call ≠ .dnf argv) ∧ e.call ≠ .checkUpdate false

section Script

variable {sys : System} {o : Options}

/-- Plain calls are no download and no installation. -/
theorem byProgress_of_plain {e : UpdateEvent} (h : Plain e) : ByProgress sys o e := by
  refine ⟨fun hdownload => ?_, fun _ => ⟨fun argv hcall => ?_, fun hcall => ?_⟩⟩
  · rw [isDownload_of_plain h] at hdownload
    cases hdownload
  · rw [Plain, hcall] at h
    cases h
  · rw [Plain, hcall] at h
    cases h

/-- Nor are the closing ones. -/
theorem byProgress_of_closing {e : UpdateEvent} (h : Closing e) : ByProgress sys o e := by
  refine ⟨fun hdownload => ?_, fun _ => ⟨fun argv hcall => ?_, fun hcall => ?_⟩⟩
  · rw [isDownload_of_closing h] at hdownload
    cases hdownload
  · rw [Closing, hcall] at h
    cases h
  · rw [Closing, hcall] at h
    cases h

/-- A command is no nested update. -/
theorem byProgress_run (argv : List String) : Emits (ByProgress sys o) (run argv) :=
  (part_run fun _ => rfl).emits.mono fun _ => byProgress_of_plain

/-- Nor is one whose failure ends the script. -/
theorem byProgress_runOrExit (argv : List String) : Emits (ByProgress sys o) (runOrExit argv) :=
  (part_runOrExit fun _ => rfl).emits.mono fun _ => byProgress_of_plain

/-- A request that neither downloads nor looks for updates. -/
theorem byProgress_of_ne {e : UpdateEvent} (hdownload : isDownload e = false)
    (hdnf : ∀ argv, e.call ≠ .dnf argv) (hcheck : e.call ≠ .checkUpdate false) : ByProgress sys o e := by
  refine ⟨fun htrue => ?_, fun _ => ⟨hdnf, hcheck⟩⟩
  rw [hdownload] at htrue
  cases htrue

/-- With progress, the download is a nested update. -/
theorem byProgress_downloadWithProgress : Emits (ByProgress sys o) (downloadWithProgress sys) := by
  refine emits_bind (byProgress_runOrExit _) fun _ => emits_bind (byProgress_runOrExit _) fun _ =>
    emits_bind (emits_request fun _ => ⟨fun _ => rfl, fun _ => ⟨by rintro _ ⟨⟩, by rintro ⟨⟩⟩⟩)
      fun status => emits_bind (emits_setRetcode _) fun _ => ?_
  split
  · exact emits_exit _
  split
  · exact emits_exit _
  · exact emits_bind (byProgress_runOrExit _) fun _ => byProgress_runOrExit _

/-- With progress, the installation is a nested update if no packages are named. -/
theorem byProgress_install (hprogress : o.progressReporting = true) (guiapp : List String) :
    Emits (ByProgress sys o) (install sys o guiapp) := by
  have hall : Emits (ByProgress sys o) (installUpdates o guiapp) := by
    rw [installUpdates, if_pos hprogress]
    split
    · exact emits_bind (byProgress_run _) fun _ => emits_bind (emits_request fun _ =>
        byProgress_of_ne rfl (by rintro _ ⟨⟩) (by rintro ⟨⟩)) fun _ => emits_pure
    · exact emits_bind (emits_request fun _ =>
        byProgress_of_ne rfl (by rintro _ ⟨⟩) (by rintro ⟨⟩)) fun _ => emits_setRetcode _
  have hrecord : Emits (ByProgress sys o) recordUpdates := by
    refine emits_bind (emits_request fun _ =>
      byProgress_of_ne rfl (by rintro _ ⟨⟩) (by rintro ⟨⟩)) fun status => ?_
    split
    · exact emits_bind (byProgress_run _) fun _ => byProgress_run _
    · exact emits_pure
  refine emits_bind (emits_request fun _ => byProgress_of_plain rfl) fun present => ?_
  by_cases hpkgs : o.pkgs ≠ []
  · rw [if_pos hpkgs]
    split
    · -- packages are left to `dnf`
      refine emits_bind (emits_request fun _ => ⟨fun h => ?_, fun hnil => absurd hnil hpkgs⟩)
        fun _ => emits_setRetcode _
      cases h
    · exact emits_pure
  rw [if_neg hpkgs]
  split
  · exact emits_bind hall fun _ => hrecord
  · refine emits_bind (byProgress_run _) fun _ => ?_
    split
    · exact byProgress_run _
    · exact emits_pure

/-- What a run with progress does, with a new agent in the UpdateVM. -/
theorem byProgress_script {args : List String} (hdownloads : downloadsWith sys args = some o)
    (hprogress : o.progressReporting = true) (hnew : oldVersion sys = some false) :
    Emits (ByProgress sys o) (script sys args) := by
  rcases downloadsWith_cases sys args with ⟨hnone, -⟩ | ⟨o', hsome, hscript, htemplate, haudio, -⟩
  · rw [hdownloads] at hnone
    cases hnone
  rw [hdownloads] at hsome
  cases hsome
  have hdownload : Emits (ByProgress sys o) (download sys o false) := by
    rw [download, if_pos ⟨hprogress, rfl⟩]
    exact byProgress_downloadWithProgress
  have hfinish : Emits (ByProgress sys o) finish := emits_bind emits_get fun v =>
    emits_bind ((part_askReboot v.rebootRequired).emits.mono fun _ => byProgress_of_closing)
      fun _ => emits_exit _
  rw [hscript, updateDom0, if_neg htemplate, if_neg haudio, hnew]
  refine emits_bind ((part_prepare sys o).emits.mono fun _ => byProgress_of_plain) fun guiapp =>
    emits_bind hdownload fun _ => emits_bind (emits_checkDownload o _) fun _ =>
    emits_bind ((part_waitForDownload _).emits.mono fun _ => byProgress_of_plain) fun _ =>
    emits_bind (part_checkErrors.emits.mono fun _ => byProgress_of_plain) fun _ =>
    emits_bind ((part_checkXen o).emits.mono fun _ => byProgress_of_plain) fun _ =>
    emits_bind (byProgress_install hprogress guiapp) fun _ =>
    emits_bind ((part_switchAudio o _).emits.mono fun _ => byProgress_of_closing) fun _ => hfinish

/-- The exit code of a nested update. -/
def nestedStatus? : UpdateEvent → Option Nat
  | ⟨.downloadWithProgress _, status⟩ => some status
  | ⟨.updateDom0, status⟩ => some status
  | _ => none

/-- An installation that leaves 0 in `RETCODE` has had it from the nested update, if there is one. -/
theorem InstallRun.nestedStatus_eq {retcode : Option Nat} {steps : List UpdateEvent} {present : Bool}
    (h : InstallRun retcode steps present (some 0)) {e : UpdateEvent} (he : e ∈ steps) {status : Nat}
    (hstatus : nestedStatus? e = some status) : status = 0 := by
  cases h with
  | nothing => cases he
  | packages argv =>
      rw [List.mem_singleton.mp he] at hstatus
      cases hstatus
  | progress _ again =>
      rcases List.mem_pair.mp he with rfl | rfl
      · exact (Option.some.inj hstatus).symm
      · cases hstatus
  | updates argv _ again =>
      rcases List.mem_cons.mp he with rfl | he
      · cases hstatus
      · rcases List.mem_pair.mp he with rfl | rfl
        · cases hstatus
        · cases hstatus
  | unchanged status' again hne =>
      rcases List.mem_pair.mp he with rfl | rfl
      · cases hstatus
      · cases hstatus

/-- With metadata and without packages, an installation with progress is a nested update. -/
theorem InstallRun.nested {retcode : Option Nat} {steps : List UpdateEvent}
    (h : InstallRun retcode steps true (some 0))
    (hsteps : ∀ e ∈ steps, (∀ argv, e.call ≠ .dnf argv) ∧ e.call ≠ .checkUpdate false) :
    ∃ e ∈ steps, e.call = .updateDom0 := by
  cases h with
  | packages argv => exact absurd rfl ((hsteps _ (List.mem_singleton_self _)).1 argv)
  | progress _ again => exact ⟨_, List.mem_cons_self, rfl⟩
  | updates argv _ again => exact absurd rfl (hsteps _ List.mem_cons_self).2
  | unchanged status again hne => exact absurd rfl (hsteps _ List.mem_cons_self).2

/-- The nested updates of a run that exits with 0 have exited with 0. -/
theorem nestedStatus_eq_zero {args : List String} {s s' : Vars} {t : List UpdateEvent}
    (hdownloads : downloadsWith sys args = some o) (hgui : o.gui = false) (hremote : o.remoteOnly = false)
    (hrun : Runs (script sys args) s t (.error (.exit 0)) s') {e : UpdateEvent} (he : e ∈ t)
    {status : Nat} (hstatus : nestedStatus? e = some status) : status = 0 := by
  obtain ⟨⟨download, hdownload, hfails⟩, hinstall⟩ := runs_script hdownloads hgui hremote hrun
  obtain ⟨call, reply⟩ := e
  cases call with
  | downloadWithProgress updatevm =>
      obtain rfl : reply = status := Option.some.inj hstatus
      have hmem : ⟨.downloadWithProgress updatevm, reply⟩ ∈ t.filter isDownload :=
        List.mem_filter.mpr ⟨he, rfl⟩
      rw [hdownload, List.mem_singleton] at hmem
      rw [← hmem] at hfails
      simpa [downloadFails, failureHidden] using hfails
  | updateDom0 => exact hinstall.nestedStatus_eq (List.mem_filter.mpr ⟨he, rfl⟩) hstatus
  | _ => cases hstatus

end Script

/-- The script is run with progress, in the console, and the agent of the UpdateVM can report progress. -/
structure WithProgress (sys : System) (args : List String) (o : Options) : Prop where
  /-- The options. -/
  options : downloadsWith sys args = some o
  /-- Progress is asked for. -/
  progress : o.progressReporting = true
  /-- The agent is new enough. -/
  new : oldVersion sys = some false
  /-- The console. -/
  gui : o.gui = false
  /-- Not just the UpdateVM. -/
  remote : o.remoteOnly = false

/-- When an update with progress exits with 0, `qubes-vm-update` has downloaded in the UpdateVM, and if
metadata has been received and no packages are named, it has installed in dom0.  In each run of it behind
these calls, however its steps were ordered, an agent for the single target has been started, by exactly
the command line and user of the download or of the installation, and its update counts as a success. -/
theorem agents_applied {sys : System} {host : UpdateHost} (hnamed : Named sys host.app)
    {args : List String} {o : Options} (hprogress : WithProgress sys args o) {s s' : Vars}
    {t : List UpdateEvent} (hrun : Runs (script sys args) s t (.error (.exit 0)) s') (thisDir : String) :
    (∃ e ∈ t, e.call = .downloadWithProgress sys.updatevm) ∧
      (metadataReceived t = true → o.pkgs = [] → ∃ e ∈ t, e.call = .updateDom0) ∧
      ∀ e ∈ t, ∀ words status, e.call.vmUpdateWords = some words → nestedStatus? e = some status →
        ∀ run : VmUpdateRun thisDir host words status,
          run.targets.map (fun vm => vm.name) = [nestedTarget sys e.call] ∧
            run.AgentRan (nestedStart thisDir e.call) := by
  obtain ⟨⟨download, hdownload, -⟩, hinstall⟩ :=
    runs_script hprogress.options hprogress.gui hprogress.remote hrun
  have hevents := byProgress_script hprogress.options hprogress.progress hprogress.new _ _ _ _ hrun
  refine ⟨?_, fun hreceived hpkgs => ?_, ?_⟩
  · have hmem : download ∈ t.filter isDownload := hdownload ▸ List.mem_singleton_self download
    obtain ⟨hmem, hdownloads⟩ := List.mem_filter.mp hmem
    exact ⟨download, hmem, (hevents _ hmem).download hdownloads⟩
  · rw [hreceived] at hinstall
    obtain ⟨e, he, hcall⟩ := hinstall.nested fun e he =>
      (hevents e (List.mem_filter.mp he).1).install hpkgs
    exact ⟨e, (List.mem_filter.mp he).1, hcall⟩
  · intro e he words status hwords hstatus run
    obtain rfl := nestedStatus_eq_zero hprogress.options hprogress.gui hprogress.remote hrun he hstatus
    obtain ⟨vm, htargets, hname, hdry, hlog, hstart⟩ := nested_start hnamed
      (downloadsIn_script sys args _ _ _ _ hrun e he) hwords run.parsed run.selected
    refine ⟨by rw [htargets, List.map_singleton, hname], ?_⟩
    rw [← hstart thisDir]
    exact run.agentRan_of_returned htargets hdry hlog

/-- What is given to the nested update that downloads: the worker succeeds. -/
def downloadHost : UpdateHost where
  app := ⟨[firewall], List.nodup_singleton _⟩
  features := skippingFeatures
  clock := lateClock
  env :=
    { outcome := fun _ =>
        { queue := [.status (.done "dom0" .success)]
          results := [("sys-firewall", {})]
          terminated := false }
      system := serviceSystem }

/-- Its command line. -/
def firewallWords : List String :=
  ["--force-update", "--targets", "sys-firewall", "--signal-no-updates", "--just-print-progress",
    "--display-name", "dom0", "--download-only", "--no-cleanup", "--show-output", "--log=INFO"]

/-- The manager of its batch. -/
def downloadManager : UpdateManager :=
  batchManager (downloadLine "sys-firewall").args [firewall.toQube] .derived

/-- The steps of its worker. -/
def downloadBatch : List (BatchLabel downloadManager.qubes.length) ×
    Pool (Fin downloadManager.qubes.length) BatchMemory WorkerCall.Reply
      (Except PyException (String × ProcessResult) × FinalStatus) :=
  (downloadManager.pool "/usr/lib/vmupdate" (downloadLine "sys-firewall").args).play batchMemory
    workingEnvironment (List.replicate 15 ⟨0, by decide⟩)

/-- The download of the example is a run of its batch. -/
theorem batchRun_download : BatchRun "/usr/lib/vmupdate" downloadManager (downloadLine "sys-firewall").args
    downloadBatch.1 (fun _ => ("sys-firewall", {})) (downloadHost.env.outcome .derived) := by
  refine batchRun_play workingEnvironment allows_workingEnvironment _ (fun i => ?_) rfl rfl (List.Perm.refl _)
  have hi : i = ⟨0, by decide⟩ := Fin.ext (Nat.lt_one_iff.mp i.isLt)
  subst hi
  exact ⟨.success, rfl⟩

/-- The logs of the batches. -/
def downloadLog : (batch : Batch) → List (BatchLabel
    (batchManager (downloadLine "sys-firewall").args [firewall.toQube] batch).qubes.length)
  | .derived => downloadBatch.1
  | .admin => []
  | .independent => []

/-- The nested update. -/
def downloadRun : VmUpdateRun "/usr/lib/vmupdate" downloadHost firewallWords 0 where
  default := 7
  line := downloadLine "sys-firewall"
  world := { running := fun _ => true }
  limit := 7
  targets := [firewall]
  log := downloadLog
  result := fun _ _ => ("sys-firewall", {})
  parsed := parse_download 7 (qubeName_of_all rfl (by decide +kernel)) rfl
  limited := rfl
  selected := rfl
  batches := by
    have hstarted : (downloadHost.vmUpdate (downloadLine "sys-firewall").toCommandLine
        { running := fun _ => true }).2.started = [.derived] := rfl
    intro batch hbatch
    rw [hstarted, List.mem_singleton] at hbatch
    subst hbatch
    exact batchRun_download
  returned := rfl

/-- The agent that downloads in `sys-firewall`. -/
theorem agents_applied_firewall : downloadRun.AgentRan
    (["fakeroot", "/usr/bin/python3", "/run/qubes-update/agent/entrypoint.py", "--log", "INFO",
      "--no-cleanup", "--download-only", "--show-output", "--just-print-progress"], some "user") := by
  have hnamed : Named usualSystem downloadHost.app := {
    updatevm := qubeName_of_all rfl (by decide +kernel)
    ne := by decide
    admin := by
      intro vm hmem hname
      rw [List.mem_singleton.mp hmem] at hname
      exact absurd hname (by decide) }
  have hprogress : WithProgress usualSystem ["--just-print-progress"]
      { Options.initial none with progressReporting := true } :=
    ⟨rfl, rfl, by decide +kernel, rfl, rfl⟩
  have hend : (play (checkingSystem 100) (script usualSystem ["--just-print-progress"]) ⟨none, false⟩).2 =
      (.error (.exit 0), ⟨some 0, false⟩) := by decide +kernel
  have hrun := runs_play (checkingSystem 100) (script usualSystem ["--just-print-progress"]) ⟨none, false⟩
  rw [hend] at hrun
  -- the download is the event at position 14
  have hmem := @List.mem_of_getElem? _
    (play (checkingSystem 100) (script usualSystem ["--just-print-progress"]) ⟨none, false⟩).1 14
    ⟨.downloadWithProgress "sys-firewall", (0 : Nat)⟩ rfl
  exact ((agents_applied hnamed hprogress hrun "/usr/lib/vmupdate").2.2 _ hmem _ _ rfl rfl downloadRun).2

end Dom0Update

end QubesAdminLinux
