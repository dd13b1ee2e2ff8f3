import QubesAdminLinux.Agent.Entrypoint
import QubesAdminLinux.VmUpdate.AgentCommand
import QubesAdminLinux.VmUpdate.RunOutcome

/-! # What dom0 reports about an agent

The agent runs in another process, and often in another qube.  Dom0 gives it a command line, and gets back
an exit code; out of this code it makes the status that it shows.

* **`agentExit`** — the process of an agent, from the words of its command line to its exit code.
* **`main_code_iff`** — which codes of `main` are 0 and which are 100.
* **`EndsAsAgent`** — the entrypoint that a worker starts is such a process.
* **`status_iff_journal`** — which status is shown at the end, by what has happened in the agent. -/

namespace QubesAdminLinux

open Proc WorkerEvent QubeConnection StateExcept ArgumentParser

variable {σ : Type}

/-! ## The process of an agent -/

/-- What Python exits with after an exception; a `RuntimeError` is handled around `main`. -/
def AgentError.exitCode : AgentError → Int
  | .runtimeError _ => Exit.errVmUnhandled
  | .notImplementedError _ => Exit.errVmUnhandled
  | .valueError _ => 1
  | .keyError _ => 1
  | .osError _ => 1

/-- What `argparse` exits with. -/
def rejectionCode : Rejection → Int
  | .usage => 2
  | .help => 0

/-- What the process of an agent exits with, started with some words on a system. -/
def agentExit (program : AgentProgram σ) (words : List String) (s : AgentState σ) : Int :=
  match parseEntrypoint words with
  | .error rejection => rejectionCode rejection
  | .ok read =>
      match (exec (program.main read.toAgentArgs) s).1 with
      | .ok code => code
      | .error exc => exc.exitCode

/-- No phase has failed, and nothing says that there was nothing to update.  This does not mean that packages
have changed: after a mere download, for one, they are not compared. -/
structure Journal.Successful (journal : Journal σ) : Prop where
  /-- No phase has failed. -/
  succeeded : ¬ journal.Failed
  /-- The upgrade has not said that there are no updates. -/
  updates : ¬ journal.NoUpdates
  /-- The packages have not been found unchanged. -/
  compared : ¬ journal.FoundUnchanged

/-- The agent has found nothing to update. -/
def Journal.Idle (journal : Journal σ) : Prop := journal.NoUpdates ∨ journal.FoundUnchanged

/-- The codes of `_upgrade`. -/
theorem CodeOutcome.code_iff {journal : Journal σ} {code : Int} (h : CodeOutcome journal code) :
    0 ≤ code ∧ (code = 0 ↔ journal.Successful) ∧ (25 < code ↔ journal.Idle) ∧ (25 < code → code = 100) := by
  cases h with
  | error hcode hfailed hupdates hfound =>
      refine ⟨by omega, iff_of_false (by omega) fun hsuccess => hsuccess.succeeded hfailed,
        iff_of_false (by omega) ?_, by omega⟩
      exact not_or.mpr ⟨hupdates, hfound⟩
  | noUpdates hcode hupdates =>
      exact ⟨by omega, iff_of_false (by omega) fun hsuccess => hsuccess.updates hupdates,
        iff_of_true (by omega) (Or.inl hupdates), fun _ => hcode⟩
  | unchanged hcode hfailed hfound =>
      exact ⟨by omega, iff_of_false (by omega) fun hsuccess => hsuccess.compared hfound,
        iff_of_true (by omega) (Or.inr hfound), fun _ => hcode⟩
  | success hcode hfailed hupdates hfound =>
      exact ⟨by omega, iff_of_true hcode ⟨hfailed, hupdates, hfound⟩,
        iff_of_false (by omega) (not_or.mpr ⟨hupdates, hfound⟩), by omega⟩

/-- The codes of `main`: 0 after a success, 100 if nothing was found to update. -/
theorem main_code_iff {program : AgentProgram σ} {args : AgentArgs} {s : AgentState σ} {code : Int}
    {t' : AgentState (Recorded σ)} (h : exec (program.recording.main args) s.start = (.ok code, t')) :
    0 ≤ code ∧ (code = 0 ↔ t'.journal.Successful) ∧ (code = 100 ↔ t'.journal.Idle) := by
  cases AgentProgram.main_outcome h with
  | upgraded houtcome hcode =>
      have hsame := houtcome.handledCode_max (Or.inl rfl)
      obtain ⟨hnonneg, hzero, hidle, hhundred⟩ := houtcome.code_iff
      rw [max_eq_right hnonneg, ← hcode] at hsame
      rw [hsame, ← hzero, ← hidle]
      omega
  | @cleaned upgraded returnCode clean houtcome hreports hlistings hphase hclean hcode =>
      rw [houtcome.handledCode_max hclean] at hcode
      obtain ⟨hnonneg, hzero, hidle, hhundred⟩ := houtcome.code_iff
      have hsuccess : t'.journal.Successful ↔ upgraded.Successful ∧ clean.code = 0 := by
        constructor
        · rintro ⟨hsucceeded, hupdates, hfound⟩
          rw [Journal.failed_append_clean_iff hreports hphase, not_or, not_not] at hsucceeded
          rw [Journal.noUpdates_append_clean_iff hreports hphase] at hupdates
          rw [Journal.foundUnchanged_congr hlistings] at hfound
          exact ⟨⟨hsucceeded.1, hupdates, hfound⟩, hsucceeded.2⟩
        · rintro ⟨⟨hsucceeded, hupdates, hfound⟩, hclean⟩
          refine ⟨?_, ?_, ?_⟩
          · rw [Journal.failed_append_clean_iff hreports hphase, not_or, not_not]
            exact ⟨hsucceeded, hclean⟩
          · rwa [Journal.noUpdates_append_clean_iff hreports hphase]
          · rwa [Journal.foundUnchanged_congr hlistings]
      have hsameIdle : t'.journal.Idle ↔ upgraded.Idle := by
        rw [Journal.Idle, Journal.noUpdates_append_clean_iff hreports hphase,
          Journal.foundUnchanged_congr hlistings, Journal.Idle]
      rw [hsuccess, hsameIdle, ← hzero, ← hidle]
      omega

section Process

variable {program : AgentProgram σ} {words : List String} {read : EntrypointArgs} {s : AgentState σ}

/-- What an agent does, with a journal. -/
def AgentProgram.recorded (program : AgentProgram σ) (args : AgentArgs) (s : AgentState σ) :
    Except AgentError Int × AgentState (Recorded σ) :=
  exec (program.recording.main args) s.start

/-- The exit code of a process whose command line is accepted. -/
theorem agentExit_iff (hread : parseEntrypoint words = .ok read) :
    0 ≤ agentExit program words s ∧
      (agentExit program words s = 0 ↔ (∃ code, (program.recorded read.toAgentArgs s).1 = .ok code) ∧
        (program.recorded read.toAgentArgs s).2.journal.Successful) ∧
      (agentExit program words s = 100 ↔ (∃ code, (program.recorded read.toAgentArgs s).1 = .ok code) ∧
        (program.recorded read.toAgentArgs s).2.journal.Idle) := by
  have hmain : (exec (program.main read.toAgentArgs) s).1 = (program.recorded read.toAgentArgs s).1 := by
    rw [AgentProgram.exec_main_recording]
    rfl
  rw [agentExit, hread]
  dsimp only
  rw [hmain]
  cases hended : program.recorded read.toAgentArgs s with
  | mk outcome t' =>
  cases outcome with
  | ok code =>
      obtain ⟨hnonneg, hzero, hidle⟩ := main_code_iff hended
      simp [hnonneg, hzero, hidle]
  | error exc => cases exc <;> simp [AgentError.exitCode]

end Process

/-! ## The worker of dom0 -/

/-- The words that follow the script in a command line that starts an entrypoint. -/
def entrypointWords (argv : List String) : List String :=
  (if argv.head? = some "fakeroot" then argv.tail else argv).drop 2

/-- The entrypoint that a worker has started ends as the process of the agent on a system does. -/
def EndsAsAgent (program : AgentProgram σ) (system : AgentState σ) (t : List WorkerEvent) : Prop :=
  ∀ o, (.entrypoint, o) ∈ commands t → ∃ e ∈ t, ∃ started, e.call.agentStart? = some started ∧
    o = .exited (agentExit program (entrypointWords started.1) system)

/-- The commands that prepare and follow the run of an agent do not exit with 100. -/
def OnlyAgentHundred (t : List WorkerEvent) : Prop :=
  ∀ step, step ≠ .remove → step ≠ .entrypoint → (step, .exited 100) ∉ commands t

/-- The agent has been run to its end, and no exception has got out of the connection. -/
structure AgentEnded (t : List WorkerEvent) : Prop where
  /-- No exception. -/
  caught : ∀ e ∈ t, ¬ escapes e
  /-- The agent. -/
  ended : ∃ o, (.entrypoint, o) ∈ commands t

section Worker

variable {thisDir : String} {qube : Qube} {args : Args} {showProgress dom0 : Bool} {s s' : FinalStatus}
  {t : List WorkerEvent}

/-- An entrypoint is started with the words for the options. -/
theorem entrypointWords_agentStart (hentry : qube.klass = .adminVM → dom0 = false) :
    entrypointWords (agentStart thisDir qube args showProgress dom0).1 = args.toCliArgs := by
  rw [agentStart]
  split
  · rename_i hadmin
    rw [hentry hadmin]
    rfl
  · split
    · rfl
    · rfl

/-- The status that `run_agent` announces: that of the agent, unless the update has been cancelled. -/
theorem announced_runAgent {manager : UpdateAgentManager} {notifier : StatusNotifier}
    {result : ProcessResult} (honly : OnlyAgentHundred t)
    (h : Runs (manager.runAgent args notifier) s t (.ok result) s') :
    ((∀ o, (.entrypoint, o) ∉ commands t) ∧ announced t = [.cancelled]) ∨
      ∃ o, (∀ o', (.entrypoint, o') ∈ commands t ↔ o' = o) ∧
        announced t
          = [if o = .exited 100 then .noUpdates else if o.code ≤ 0 then .success else .error] := by
  obtain ⟨qconn, srcDir, entrypoint, tb, sb, result', removals, hbody, -, hannounced, -, hcommands,
    hremovals⟩ := runs_runAgent_ok h
  obtain ⟨transfer, htransfer, hcase⟩ := UpdateAgentManager.runs_runInConnection hbody
  rcases hcase with ⟨-, hbodyCommands, -, rfl⟩ | ⟨-, o, o', hbodyCommands, -, -, rfl⟩
  · -- cancelled after the transfer
    refine Or.inl ⟨fun o hmem => ?_, hannounced⟩
    rw [hcommands, hbodyCommands] at hmem
    rcases List.mem_append.mp hmem with hmem | hmem
    · cases htransfer _ hmem
    · cases hremovals _ hmem
  rw [hbodyCommands] at hcommands
  have hentry : ∀ o₀, (.entrypoint, o₀) ∈ commands t ↔ o₀ = o := by
    intro o₀
    rw [mem_commands_iff hcommands htransfer hremovals]
    simp [StepKind.isTransfer]
  -- only the exit code of the agent counts as "no updates"
  have hlogs : o' ≠ .exited 100 := by
    rintro rfl
    exact honly .readLogs (by decide) (by decide) (by rw [hcommands]; simp)
  have htransferred : ¬ ∃ command ∈ transfer, command.2 = .exited 100 := by
    rintro ⟨⟨step, _⟩, hmem, rfl⟩
    have hstep := htransfer _ hmem
    refine honly step ?_ ?_ (by rw [hcommands]; simp [hmem])
    · rintro rfl
      cases hstep
    · rintro rfl
      cases hstep
  refine Or.inr ⟨o, hentry, ?_⟩
  rw [hannounced, status_entrypointStatus]
  simp only [hlogs, htransferred, false_or, or_false]

/-- Events before an update say nothing about it. -/
theorem onlyAgentHundred_cons {e : WorkerEvent} (he : e.commandOutcome? = none) :
    OnlyAgentHundred (e :: t) ↔ OnlyAgentHundred t := by
  rw [OnlyAgentHundred, commands_cons, he, Option.toList_none, List.nil_append, OnlyAgentHundred]

/-- The last status of an update: the agent has been run to its end and this has been announced, or it is
an error or a cancellation. -/
theorem lastStatus_updateQube {r : Except PyException (String × ProcessResult)}
    (honly : OnlyAgentHundred t) (h : Runs (updateQube thisDir qube args showProgress dom0) s t r s') :
    (¬ AgentEnded t ∧ ((announced t).getLast? = some .error ∨ (announced t).getLast? = some .cancelled)) ∨
      (AgentEnded t ∧ ∃ o, (∀ o', (.entrypoint, o') ∈ commands t ↔ o' = o) ∧ (announced t).getLast?
        = some (if o = .exited 100 then .noUpdates else if o.code ≤ 0 then .success else .error)) := by
  obtain ⟨cancelled, t₂, rfl, hrest⟩ := runs_call h
  change Bool at cancelled
  have hsilent : ∀ c : Bool, announced (⟨.readTermination, c⟩ :: t₂) = announced t₂ := fun _ => rfl
  have hcommands : ∀ c : Bool, commands (⟨.readTermination, c⟩ :: t₂) = commands t₂ := fun _ => rfl
  rw [onlyAgentHundred_cons rfl] at honly
  rw [hsilent, hcommands]
  cases cancelled with
  | true =>
      obtain ⟨⟨⟩, t₃, rfl, hend⟩ := runs_call hrest
      obtain ⟨rfl, -, -⟩ := runs_pure.mp hend
      refine Or.inl ⟨fun hended => ?_, Or.inr ?_⟩
      · obtain ⟨o, ho⟩ := hended.ended
        cases ho
      · rw [announced, messages_putDone]
        rfl
  | false =>
      rcases runs_tryCatch.mp hrest with ⟨result, rfl, hok⟩ | ⟨exc, t₃, t₄, s₁, rfl, hraise, hhandler⟩
      · have hcaught := caught_of_buildAndRunAgent hok
        obtain ⟨runner, s₁, t', rfl, hagent⟩ := runs_buildAndRunAgent_ok hok
        rw [onlyAgentHundred_cons rfl] at honly
        have hlast : announced (⟨.initLogs, .ok ()⟩ :: t') = announced t' := rfl
        have hsame : commands (⟨.initLogs, .ok ()⟩ :: t') = commands t' := rfl
        rw [hlast, hsame]
        rcases announced_runAgent honly hagent with ⟨hnone, hannounced⟩ | ⟨o, ho, hannounced⟩
        · refine Or.inl ⟨fun hended => ?_, Or.inr (by rw [hannounced]; rfl)⟩
          obtain ⟨o, ho⟩ := hended.ended
          exact hnone o ho
        · refine Or.inr ⟨⟨List.forall_mem_cons.mpr ⟨id, hcaught⟩, o, (ho o).mpr rfl⟩, o, ho, ?_⟩
          rw [hannounced]
          rfl
      · -- an exception: the handler announces an error
        obtain ⟨⟨⟩, t₅, rfl, hend⟩ := runs_call hhandler
        obtain ⟨rfl, -, -⟩ := runs_pure.mp hend
        refine Or.inl ⟨fun hended => ?_, Or.inl ?_⟩
        · rcases commands_buildAndRunAgent hraise with ⟨e, he, hescape⟩ | hnone
          · exact hended.caught e (by simp [he]) hescape
          · obtain ⟨o, ho⟩ := hended.ended
            rw [hcommands, commands_append, hnone] at ho
            cases ho
        · rw [announced, messages_append, messages_putDone, List.filterMap_append, List.getLast?_append]
          rfl

section Agent

variable {default : Int} {argv : List String} {line : VmUpdateLine} {program : AgentProgram σ}
  {system : AgentState σ}

/-- The last status of an update whose entrypoint ends as the agent does: it stands for the exit code of the
agent with the words for the options. -/
theorem lastStatus_agentExit (hlevel : line.args.log ∈ levelNames)
    (hentry : qube.klass = .adminVM → dom0 = false) {r : Except PyException (String × ProcessResult)}
    (hrun : Runs (updateQube thisDir qube line.args showProgress dom0) s t r s')
    (hagent : EndsAsAgent program system t) (honly : OnlyAgentHundred t) :
    (¬ AgentEnded t ∧ ((announced t).getLast? = some .error ∨ (announced t).getLast? = some .cancelled)) ∨
      (AgentEnded t ∧ (announced t).getLast? = some (
        if agentExit program line.args.toCliArgs system = 100 then .noUpdates
        else if agentExit program line.args.toCliArgs system ≤ 0 then .success else .error)) := by
  have hlog : line.args.log ≠ "--download-only" := by
    intro heq
    rw [heq] at hlevel
    exact absurd hlevel (by decide)
  rcases lastStatus_updateQube honly hrun with hnot | ⟨hended, o, ho, hlast⟩
  · exact Or.inl hnot
  refine Or.inr ⟨hended, ?_⟩
  -- the code comes from a process with the words for the options
  obtain ⟨e, he, started, hstarted, rfl⟩ := hagent o ((ho o).mpr rfl)
  rw [startsAgent_updateQube hlog _ _ _ _ hrun e he started hstarted,
    entrypointWords_agentStart hentry] at hlast
  rw [hlast]
  by_cases hhundred : agentExit program line.args.toCliArgs system = 100
  · simp [hhundred]
  · simp [hhundred, Outcome.code]

/-- What the agent has done and found is shown as "no updates" exactly if it has found nothing. -/
theorem noUpdates_iff_idle (hparse : parseVmUpdate default argv = .ok line)
    (hlevel : line.args.log ∈ levelNames) (hentry : qube.klass = .adminVM → dom0 = false)
    {r : Except PyException (String × ProcessResult)}
    (hrun : Runs (updateQube thisDir qube line.args showProgress dom0) s t r s')
    (hagent : EndsAsAgent program system t) (honly : OnlyAgentHundred t) :
    (announced t).getLast? = some .noUpdates ↔ AgentEnded t ∧
      (∃ code, (program.recorded line.args.entrypointArgs.toAgentArgs system).1 = .ok code) ∧
      (program.recorded line.args.entrypointArgs.toAgentArgs system).2.journal.Idle := by
  obtain ⟨-, -, hidle⟩ := @agentExit_iff σ program _ _ system (parseEntrypoint_of_level hparse hlevel)
  rw [← hidle]
  rcases lastStatus_agentExit hlevel hentry hrun hagent honly with
    ⟨hnot, hlast | hlast⟩ | ⟨hended, hlast⟩
  · simp [hlast, hnot]
  · simp [hlast, hnot]
  · rw [hlast, and_iff_right hended]
    by_cases hhundred : agentExit program line.args.toCliArgs system = 100
    · simp [hhundred]
    · rw [if_neg hhundred]
      split <;> simp [hhundred]

end Agent

end Worker

/-- The agent in a template exits with 100, and everything else succeeds. -/
def hundredEnvironment : (c : WorkerCall) → c.Reply
  | .wait => (100 : Int)
  | c => cannedEnvironment (.ok ([], [])) (.ok ([], [])) 0 c

/-- What `qubes-vm-update` is told about it. -/
def forcedLine : VmUpdateLine where
  args := { forceUpgrade := true, signalNoUpdates := true }
  targeting := { targets := "fedora" }

/-- The command line of the example is accepted. -/
theorem parse_forced :
    parseVmUpdate 7 ["--targets", "fedora", "--force-upgrade", "--signal-no-updates"] = .ok forcedLine := by
  decide +kernel

/-- The update of the template. -/
def forcedRun : List WorkerEvent :=
  (play hundredEnvironment (updateQube "/usr/lib/vmupdate" fedora forcedLine.args true false) .error).1

/-- The commands of the example. -/
theorem commands_forcedRun : commands forcedRun = [(.mkdir, .exited 0), (.copy, .exited 0),
    (.untar, .exited 0), (.entrypoint, .exited 100), (.readLogs, .exited 0), (.remove, .exited 0)] := rfl

/-- In a template that has nothing to update, the agent exits with 100. -/
theorem endsAsAgent_forcedRun : EndsAsAgent (fedora40.program id) ⟨(), {}⟩ forcedRun := by
  have hexit : agentExit (fedora40.program id) forcedLine.args.toCliArgs ⟨(), {}⟩ = 100 := by decide +kernel
  intro o ho
  rw [commands_forcedRun] at ho
  obtain rfl : o = .exited 100 := by simpa using ho
  have hstarted : ∃ e, forcedRun[8]? = some e ∧ e.call.agentStart?
      = some (entrypointCommand qubeEntrypoint forcedLine.args, some "root") := ⟨_, rfl, rfl⟩
  obtain ⟨e, he, hstart⟩ := hstarted
  exact ⟨e, List.mem_of_getElem? he, _, hstart, by rw [← hexit]; rfl⟩

/-- Only its agent exits with 100. -/
theorem onlyAgentHundred_forcedRun : OnlyAgentHundred forcedRun := by
  intro step hremove hentry hmem
  rw [commands_forcedRun] at hmem
  simp [hentry] at hmem

end QubesAdminLinux
