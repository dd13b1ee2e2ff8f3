import QubesAdminLinux.VmUpdate.DisplayModes
import QubesAdminLinux.VmUpdate.ReportedAgent

/-! # What the code for "no updates" says about the agents

With `--signal-no-updates`, the exit code 100 of a run is made of statuses that its workers have announced,
and these of the exit codes of agents.

* **`BatchRun.reports`** — workers whose exceptions are caught report complete sequences, in any order of
  their steps.
* **`BatchRun.allNoUpdates_iff`** — the statuses of a batch are those that its workers announce last.
* **`mainRun_noUpdates_iff`** — a run returns 100 exactly if every agent has been run and has found nothing
  to update. -/

namespace QubesAdminLinux

open Proc WorkerEvent UpdateManager StateExcept

/-! ## The statuses of a batch -/

/-- Without exceptions, the messages of a worker end with its only final status. -/
theorem complete_of_caught {thisDir : String} {qube : Qube} {args : Args} {showProgress dom0 : Bool}
    {s s' : FinalStatus} {t : List WorkerEvent} {r : Except PyException (String × ProcessResult)}
    (hrun : Runs (updateQube thisDir qube args showProgress dom0) s t r s')
    (hcaught : ∀ e ∈ t, ¬ escapes e) :
    ∃ final, announced t = [final] ∧
      MultipleUpdateMultipleProgressBar.Complete (shownName qube args) final (messages t) := by
  obtain ⟨progress, finals, hmessages, hprogress, -, hfinals⟩ := messages_updateQube hrun
  obtain ⟨hlength, -⟩ := hfinals.resolve_right fun htwo => by
    obtain ⟨e, he, hescape⟩ := htwo.2
    exact hcaught e he hescape
  obtain ⟨final, rfl⟩ := List.length_eq_one_iff.mp hlength
  refine ⟨final, ?_, progress, hmessages, fun message hmem => ⟨(hprogress message hmem).1, ?_⟩⟩
  · have hnone : progress.filterMap Message.doneStatus? = [] :=
      List.filterMap_eq_nil_iff.mpr fun message hmem => (hprogress message hmem).1
    rw [announced, hmessages, List.filterMap_append, hnone]
    rfl
  · rintro info rfl
    exact (hprogress _ hmem).2

namespace BatchRun

variable {thisDir : String} {args : Args} {manager : UpdateManager}
  {log : List (BatchLabel manager.qubes.length)}
  {result : Fin manager.qubes.length → String × ProcessResult} {outcome : BatchOutcome}

/-- Without signals, the messages of the workers are interleaved on the queue. -/
theorem interleaving (h : BatchRun thisDir manager args log result outcome)
    (hcalm : .signal .sigint ∉ log) :
    Interleaving (fun i => messages (threadEvents i log)) outcome.queue := by
  refine ⟨(scheduled log).filterMap fun p => (message? p.2).map (Prod.mk p.1), fun i => ?_, ?_⟩
  · rw [project_filterMap]
    rfl
  · rw [h.queue_eq hcalm, posted, messages, List.map_filterMap, List.filterMap_map]
    refine List.filterMap_congr fun p _ => ?_
    rw [Function.comp_apply]
    cases message? p.2 <;> rfl

/-- Workers whose exceptions are caught report complete sequences. -/
theorem reports (h : BatchRun thisDir manager args log result outcome) (hcalm : .signal .sigint ∉ log)
    (hdisplay : args.displayName = none) (hnodup : (manager.qubes.map Qube.name).Nodup)
    (hcaught : ∀ i, ∀ e ∈ threadEvents i log, ¬ escapes e) :
    ∃ final, Reports manager.qubes final outcome ∧
      ∀ i, (announced (threadEvents i log)).getLast? = some (final (manager.qubes.get i).name) := by
  have hshown : ∀ qube : Qube, shownName qube args = qube.name := by
    intro qube
    rw [shownName, hdisplay, Option.getD_none]
  let name : Fin manager.qubes.length → String := fun i => (manager.qubes.get i).name
  have hname : Function.Injective name := by
    intro i j hij
    have hqube := List.inj_on_of_nodup_map hnodup (List.get_mem _ i) (List.get_mem _ j) hij
    exact (List.nodup_iff_injective_get.mp hnodup.of_map) hqube
  have hcomplete := fun i => complete_of_caught (h.worker i).choose_spec (hcaught i)
  choose status hannounced hsequence using hcomplete
  refine ⟨Function.extend name status fun _ => .unknown, ⟨_, (h.interleaving hcalm).rename hname, ?_, ?_⟩,
    fun i => ?_⟩
  · intro q hq
    refine Function.extend_apply' _ _ _ ?_
    rintro ⟨i, rfl⟩
    exact hq (List.mem_map_of_mem (List.get_mem _ i))
  · intro q hq
    obtain ⟨qube, hqube, rfl⟩ := List.mem_map.mp hq
    obtain ⟨i, rfl⟩ := List.get_of_mem hqube
    have hone := hsequence i
    rw [hshown] at hone
    rw [show (manager.qubes.get i).name = name i from rfl, hname.extend_apply, hname.extend_apply]
    exact hone
  · rw [show (manager.qubes.get i).name = name i from rfl, hname.extend_apply, hannounced]
    rfl

/-- The statuses of a batch with a display are those that its workers announce last. -/
theorem allNoUpdates_iff (h : BatchRun thisDir manager args log result outcome)
    (hcalm : .signal .sigint ∉ log) (hdisplay : args.displayName = none)
    (hnodup : (manager.qubes.map Qube.name).Nodup)
    (hshown : manager.showProgress = true) (hne : manager.qubes ≠ []) (hret : manager.retCode = Exit.ok)
    (hcaught : ∀ i, ∀ e ∈ threadEvents i log, ¬ escapes e) {code : Int}
    {statuses : Dict String FinalStatus} (hrun : manager.run args outcome = .ok (code, statuses)) :
    allNoUpdates statuses = true ↔ ∀ i, (announced (threadEvents i log)).getLast? = some .noUpdates := by
  obtain ⟨final, hreports, hlast⟩ := h.reports hcalm hdisplay hnodup hcaught
  obtain ⟨statuses', hrun', hget⟩ := run_shown hshown hne hret hdisplay hnodup hreports
  obtain ⟨-, rfl⟩ := Prod.mk.inj (Except.ok.inj (hrun.symm.trans hrun'))
  rw [allNoUpdates, List.all_eq_true]
  constructor
  · intro hall i
    have hmem : final (manager.qubes.get i).name ∈ statuses.values :=
      (Dict.mem_values statuses _).mpr ⟨(manager.qubes.get i).name, by
        rw [hget, if_pos (List.mem_map_of_mem (List.get_mem _ i))]⟩
    rw [hlast, of_decide_eq_true (hall _ hmem)]
  · intro hall status hmem
    obtain ⟨q, hq⟩ := (Dict.mem_values statuses _).mp hmem
    rw [hget] at hq
    split at hq
    · rename_i hname
      obtain ⟨qube, hqube, rfl⟩ := List.mem_map.mp hname
      obtain ⟨i, rfl⟩ := List.get_of_mem hqube
      have hone := hall i
      rw [hlast] at hone
      rw [← Option.some.inj hq, Option.some.inj hone]
      rfl
    · cases hq

end BatchRun

/-! ## A whole run -/

section Run

variable {env : Environment} {args : Args} {targets : List Qube} {w : World} {thisDir : String}
  {r : Batch → Int × Dict String FinalStatus}

/-- A run in which everything succeeds returns 0, or 100 if all statuses are "no updates" and this is to be
signalled. -/
theorem updateTargets_returned (hdry : args.dryRun = false)
    (hr : ∀ batch, batchResult env args targets batch = .ok (r batch)) (hzero : ∀ batch, (r batch).1 = 0)
    (happlied : applied env args targets w = .ok Exit.ok) :
    (exec (updateTargets env args targets) { world := w }).1
      = .ok (exitCode args (noUpdatesIn r) Exit.ok) := by
  have hcontinues : ∀ batch, Continues (batchResult env args targets batch) := fun batch =>
    ⟨r batch, hr batch, by rw [hzero]; decide⟩
  rcases updateTargets_cases env targets hdry { world := w } with
    ⟨hnot, -⟩ | ⟨-, hnot, -⟩ | ⟨-, -, hnot, -⟩ | ⟨-, r', hr', hended⟩
  · exact absurd (hcontinues _) hnot
  · exact absurd (hcontinues _) hnot
  · exact absurd (hcontinues _) hnot
  obtain rfl : r' = r := funext fun batch => Except.ok.inj ((hr' batch).symm.trans (hr batch))
  have hfinish : applied env args targets w = (exec (applyUpdatesToAppvm env.system args
      (members .independent targets) (r' .independent).2 (r' .derived).2) w).1.mapError Stop.raised := by
    rw [applied, hr .independent, hr .derived]
    rfl
  rw [hended, finish, MainState.afterBatch_world, MainState.afterBatch_world, MainState.afterBatch_world,
    ← hfinish, happlied, hzero, hzero, hzero]
  rfl

/-- At the end, 100 is the signal for "no updates". -/
theorem exitCode_eq_noUpdates_iff {noUpdates : Bool} :
    exitCode args noUpdates Exit.ok = Exit.okNoUpdates ↔ args.signalNoUpdates = true ∧ noUpdates = true := by
  rw [show Exit.ok = 0 from rfl, exitCode_zero]
  by_cases h : noUpdates = true ∧ args.signalNoUpdates = true
  · rw [if_pos h]
    exact iff_of_true rfl h.symm
  · rw [if_neg h]
    exact iff_of_false (by decide) fun hand => h hand.symm

variable {log : (batch : Batch) → List (BatchLabel (batchManager args targets batch).qubes.length)}
  {result : (batch : Batch) → Fin (batchManager args targets batch).qubes.length → String × ProcessResult}

/-- The batches of a run with a display, all of which succeed: a run returns 100 if each worker announces
"no updates" last. -/
theorem updateTargets_noUpdates_iff (hdry : args.dryRun = false) (hshown : args.showProgress = true)
    (hdisplay : args.displayName = none) (hnodup : (targets.map Qube.name).Nodup)
    (hruns : ∀ batch ∈ (exec (updateTargets env args targets) { world := w }).2.started, BatchRun thisDir
      (batchManager args targets batch) args (log batch) (result batch) (env.outcome batch)) :
    (exec (updateTargets env args targets) { world := w }).1 = .ok Exit.okNoUpdates ↔
      args.signalNoUpdates = true ∧ applied env args targets w = .ok Exit.ok ∧
      ∀ batch, members batch targets ≠ [] →
        batch ∈ (exec (updateTargets env args targets) { world := w }).2.started ∧
          BatchSucceeded args targets batch (log batch) ∧
          ∀ i, (announced (threadEvents i (log batch))).getLast? = some .noUpdates := by
  have hsuccess := updateTargets_success_iff env hdry w thisDir hruns
  -- what a run returns whose batches have succeeded
  have hreturned : (∀ batch, members batch targets ≠ [] →
      batch ∈ (exec (updateTargets env args targets) { world := w }).2.started ∧
        BatchSucceeded args targets batch (log batch)) → applied env args targets w = .ok Exit.ok →
      ((exec (updateTargets env args targets) { world := w }).1 = .ok Exit.okNoUpdates ↔
        args.signalNoUpdates = true ∧ ∀ batch, members batch targets ≠ [] →
          ∀ i, (announced (threadEvents i (log batch))).getLast? = some .noUpdates) := by
    intro hbatches happlied
    have hresult : ∀ batch, ∃ statuses, batchResult env args targets batch = .ok (0, statuses) ∧
        (allNoUpdates statuses = true ↔ (members batch targets ≠ [] →
          ∀ i, (announced (threadEvents i (log batch))).getLast? = some .noUpdates)) := by
      intro batch
      by_cases hmembers : members batch targets = []
      · refine ⟨Dict.empty, by rw [batchResult, if_pos hmembers]; rfl, ?_⟩
        exact iff_of_true rfl fun hne => absurd hmembers hne
      obtain ⟨hstarted, hsucceeded⟩ := hbatches batch hmembers
      have hrun := hruns batch hstarted
      obtain ⟨statuses, hzero⟩ := (batchResult_code_eq_zero_iff hmembers hrun).mpr hsucceeded
      have hmanager := hzero
      rw [batchResult, if_neg hmembers] at hmanager
      refine ⟨statuses, hzero, ?_⟩
      rw [forall_prop_of_true hmembers]
      have hnodup' : ((batchManager args targets batch).qubes.map Qube.name).Nodup :=
        hnodup.sublist ((List.filter_sublist).map _)
      exact hrun.allNoUpdates_iff hsucceeded.calm hdisplay hnodup' hshown hmembers rfl
        (fun i => (hsucceeded.workers i).caught) hmanager
    choose statuses hzero hstatuses using hresult
    rw [updateTargets_returned hdry hzero (fun _ => rfl) happlied, Except.ok.injEq,
      exitCode_eq_noUpdates_iff, noUpdatesIn, Bool.and_eq_true, Bool.and_eq_true, hstatuses, hstatuses,
      hstatuses]
    refine and_congr_right fun _ => ⟨?_, fun hall => ⟨hall _, hall _, hall _⟩⟩
    rintro ⟨hderived, hindependent, hadmin⟩ (_ | _ | _)
    · exact hadmin
    · exact hindependent
    · exact hderived
  constructor
  · intro h
    obtain ⟨hbatches, happlied⟩ := hsuccess.mp (Or.inr h)
    obtain ⟨hsignal, hlast⟩ := (hreturned hbatches happlied).mp h
    refine ⟨hsignal, happlied, fun batch hne => ?_⟩
    exact ⟨(hbatches batch hne).1, (hbatches batch hne).2, hlast batch hne⟩
  · rintro ⟨hsignal, happlied, hall⟩
    refine (hreturned (fun batch hne => ⟨(hall batch hne).1, (hall batch hne).2.1⟩) happlied).mpr
      ⟨hsignal, ?_⟩
    exact fun batch hne => (hall batch hne).2.2

end Run

/-- An agent and the system it is run on. -/
structure AgentOn (σ : Type) where
  /-- The program. -/
  program : AgentProgram σ
  /-- The system. -/
  system : AgentState σ

variable {σ : Type}

/-- The agent is behind the entrypoint that a worker starts, and no other command exits with 100. -/
structure AgentOn.Behind (agent : AgentOn σ) (t : List WorkerEvent) : Prop where
  /-- The entrypoint. -/
  entrypoint : EndsAsAgent agent.program agent.system t
  /-- The other commands. -/
  others : OnlyAgentHundred t

/-- With these options, the agent returns, and has found nothing to update. -/
structure AgentOn.FindsNothing (agent : AgentOn σ) (args : Args) : Prop where
  /-- It returns. -/
  returned : ∃ code, (agent.program.recorded args.entrypointArgs.toAgentArgs agent.system).1 = .ok code
  /-- It has found nothing. -/
  idle : (agent.program.recorded args.entrypointArgs.toAgentArgs agent.system).2.journal.Idle

/-- For every command line that is accepted with an existing logging level, without `--dry-run` and
`--display-name`, with a display, and with targets of different names among which dom0 is not updated by
`qubes-dom0-update`: if no command of a worker but the agent exits with 100, a run returns 100 if and only
if this is asked for, applying the updates returns 0, and each batch that has targets has been started and
each of its workers, in any order of their steps, has run the agent behind it with these options, the agent
has found nothing to update, and nothing else has failed or been cancelled. -/
theorem mainRun_noUpdates_iff (env : Environment) {default : Int} {argv : List String}
    {line : VmUpdateLine} (hparse : parseVmUpdate default argv = .ok line)
    (hlevel : line.args.log ∈ levelNames)
    (hdry : line.args.dryRun = false) (hshown : line.args.showProgress = true)
    (hdisplay : line.args.displayName = none) {targets : List Qube} (hne : targets ≠ [])
    (hnodup : (targets.map Qube.name).Nodup)
    (hadmin : ∀ q ∈ targets, q.klass = .adminVM → line.args.dom0Update = false) (w : World)
    (thisDir : String)
    {log : (batch : Batch) → List (BatchLabel (batchManager line.args targets batch).qubes.length)}
    {result : (batch : Batch) → Fin (batchManager line.args targets batch).qubes.length →
      String × ProcessResult}
    (hruns : ∀ batch ∈ (mainRun env line.args (.ok targets) w).2.started, BatchRun thisDir
      (batchManager line.args targets batch) line.args (log batch) (result batch) (env.outcome batch))
    {agents : (batch : Batch) → Fin (batchManager line.args targets batch).qubes.length → AgentOn σ}
    (hagents : ∀ batch ∈ (mainRun env line.args (.ok targets) w).2.started, ∀ i,
      (agents batch i).Behind (threadEvents i (log batch))) :
    (mainRun env line.args (.ok targets) w).1 = .ok Exit.okNoUpdates ↔
      line.args.signalNoUpdates = true ∧ applied env line.args targets w = .ok Exit.ok ∧
      ∀ batch, members batch targets ≠ [] → batch ∈ (mainRun env line.args (.ok targets) w).2.started ∧
        BatchSucceeded line.args targets batch (log batch) ∧
        ∀ i, (agents batch i).FindsNothing line.args := by
  rw [mainRun_of_ne_nil env line.args hne] at hruns hagents ⊢
  rw [updateTargets_noUpdates_iff hdry hshown hdisplay hnodup hruns]
  refine and_congr_right fun _ => and_congr_right fun _ => forall_congr' fun batch =>
    imp_congr_right fun _ => and_congr_right fun hstarted => and_congr_right fun hsucceeded =>
      forall_congr' fun i => ?_
  -- the agents are not asked to run `qubes-dom0-update`
  have hentry : ((batchManager line.args targets batch).qubes.get i).klass = .adminVM →
      (batchManager line.args targets batch).dom0 = false := by
    intro hklass
    cases batch with
    | admin => exact hadmin _ (mem_members.mp (List.get_mem _ i)).1 hklass
    | independent => rfl
    | derived => rfl
  obtain ⟨s, hrun⟩ := (hruns batch hstarted).worker i
  rw [noUpdates_iff_idle hparse hlevel hentry hrun (hagents batch hstarted i).entrypoint
    (hagents batch hstarted i).others]
  have hended : AgentEnded (threadEvents i (log batch)) := by
    obtain ⟨o, ho, -⟩ := (hsucceeded.workers i).agent
    exact ⟨(hsucceeded.workers i).caught, o, ho⟩
  constructor
  · rintro ⟨-, hreturned, hidle⟩
    exact ⟨hreturned, hidle⟩
  · rintro ⟨hreturned, hidle⟩
    exact ⟨hended, hreturned, hidle⟩

/-- The environment of the workers of a batch, in which the agent exits with 100. -/
def idleEnvironment (shared : BatchMemory) : (c : WorkerCall) → c.Reply
  | .readTermination => shared.termination
  | c => hundredEnvironment c

/-- The answers of the example are allowed. -/
theorem allows_idleEnvironment (shared : BatchMemory) (c : WorkerCall) :
    batchMemory.allows shared ⟨c, idleEnvironment shared c⟩ := by
  cases c with
  | readTermination => rfl
  | _ => trivial

/-- The manager of a template. -/
def idleManager : UpdateManager := batchManager forcedLine.args [fedora] .independent

/-- Its update, in this environment. -/
def idleBatch : List (BatchLabel idleManager.qubes.length) × Pool (Fin idleManager.qubes.length)
    BatchMemory WorkerCall.Reply (Except PyException (String × ProcessResult) × FinalStatus) :=
  (idleManager.pool "/usr/lib/vmupdate" forcedLine.args).play batchMemory idleEnvironment
    (List.replicate 16 ⟨0, by decide⟩)

/-- What the manager makes of it. -/
def idleRun : Environment where
  outcome := fun _ =>
    { queue := [.status (.done "fedora" .noUpdates)]
      results := [("fedora", { out := "OK" })]
      terminated := false }
  system := serviceSystem

/-- The example is a run of its batch. -/
theorem batchRun_idle : BatchRun "/usr/lib/vmupdate" idleManager forcedLine.args idleBatch.1
    (fun _ => ("fedora", { out := "OK" })) (idleRun.outcome .independent) := by
  refine batchRun_play idleEnvironment allows_idleEnvironment _ (fun i => ?_) rfl rfl (List.Perm.refl _)
  have hi : i = ⟨0, by decide⟩ := Fin.ext (Nat.lt_one_iff.mp i.isLt)
  subst hi
  exact ⟨.noUpdates, rfl⟩

/-- The logs of the batches. -/
def idleLog : (batch : Batch) →
    List (BatchLabel (batchManager forcedLine.args [fedora] batch).qubes.length)
  | .independent => idleBatch.1
  | .admin => []
  | .derived => []

/-- Nothing could be updated in the template, and the run says so. -/
theorem mainRun_noUpdates_iff_fedora :
    BatchSucceeded forcedLine.args [fedora] .independent idleBatch.1 ∧
      (fedora40Run { forceUpgrade := true }).2.journal.Idle := by
  have hstarted : (mainRun idleRun forcedLine.args (.ok [fedora]) { running := fun _ => true }).2.started
      = [.independent] := rfl
  have hruns : ∀ batch ∈ (mainRun idleRun forcedLine.args (.ok [fedora])
      { running := fun _ => true }).2.started, BatchRun "/usr/lib/vmupdate"
        (batchManager forcedLine.args [fedora] batch) forcedLine.args (idleLog batch)
        (fun _ => ("fedora", { out := "OK" })) (idleRun.outcome batch) := by
    intro batch hbatch
    rw [hstarted, List.mem_singleton] at hbatch
    subst hbatch
    exact batchRun_idle
  -- the only worker does what it does alone
  have hevents : ∀ i : Fin idleManager.qubes.length, threadEvents i idleBatch.1 = forcedRun := by
    intro i
    have hi : i = ⟨0, by decide⟩ := Fin.ext (Nat.lt_one_iff.mp i.isLt)
    subst hi
    rfl
  have hagents : ∀ batch ∈ (mainRun idleRun forcedLine.args (.ok [fedora])
      { running := fun _ => true }).2.started, ∀ i,
        (⟨fedora40.program id, ⟨(), {}⟩⟩ : AgentOn Unit).Behind (threadEvents i (idleLog batch)) := by
    intro batch hbatch
    rw [hstarted, List.mem_singleton] at hbatch
    subst hbatch
    intro i
    have hi : threadEvents i (idleLog .independent) = forcedRun := hevents i
    rw [hi]
    exact ⟨endsAsAgent_forcedRun, onlyAgentHundred_forcedRun⟩
  have hcode := (mainRun_noUpdates_iff idleRun parse_forced (by decide) rfl rfl rfl
    (List.cons_ne_nil fedora []) (List.nodup_singleton _) (by decide) { running := fun _ => true }
    "/usr/lib/vmupdate" hruns hagents).mp rfl
  obtain ⟨-, hsucceeded, hidle⟩ := hcode.2.2 .independent (List.cons_ne_nil _ _)
  exact ⟨hsucceeded, (hidle ⟨0, by decide⟩).idle⟩

end QubesAdminLinux
