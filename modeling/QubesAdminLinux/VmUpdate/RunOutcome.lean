import QubesAdminLinux.VmUpdate.Agreement
import QubesAdminLinux.VmUpdate.Communication

/-! # What the exit code of a run stands for

The exit code of `qubes-vm-update` is the maximum over codes of commands that have been run in several
processes.  The codes 0 and 100 say that nothing has failed in any of them.

* **`AgentSucceeded`** — the update of a qube has succeeded, as its commands tell.
* **`updateQube_code_eq_zero_iff`** — the result of a worker has the code 0 exactly then.
* **`BatchRun.code_eq_zero_iff`** — a batch returns 0 exactly if all its workers succeed, in any order of
  their steps, and no signal arrives.
* **`mainRun_success_iff`** — a run returns 0 or 100 exactly if all batches do so and the updates have been
  applied. -/

namespace QubesAdminLinux

open Proc WorkerEvent QubeConnection StateExcept

/-! ## The update of a qube -/

/-- The update of a qube counts as a success: the agent has been run after a transfer without errors, and has
ended with 0, with 100 or by a signal, which all count alike; nothing has raised, and nobody has asked for a
cancellation. -/
structure AgentSucceeded (t : List WorkerEvent) : Prop where
  /-- No exception gets out of the connection. -/
  caught : ∀ e ∈ t, ¬ escapes e
  /-- The update has not been cancelled. -/
  continued : ¬ Cancelled t
  /-- The commands of the transfer. -/
  transferred : ¬ TransferFailed t
  /-- The agent: it exits with 0 or 100, or is ended by a signal. -/
  agent : ∃ o, (.entrypoint, o) ∈ commands t ∧ o.code ≤ 0

section Worker

variable {thisDir : String} {qube : Qube} {agentArgs : Args} {showProgress dom0 : Bool}
  {manager : UpdateAgentManager} {notifier : StatusNotifier} {s s' : FinalStatus} {t : List WorkerEvent}

/-- The code that `run_agent` returns, by the outcomes of the commands; with the code 0, nothing but a
success is announced. -/
theorem runs_runAgent_code {result : ProcessResult}
    (h : Runs (manager.runAgent agentArgs notifier) s t (.ok result) s') :
    (result.code = 0 ↔ ¬ Cancelled t ∧ ¬ TransferFailed t ∧
        ∃ o, (.entrypoint, o) ∈ commands t ∧ o.code ≤ 0) ∧
      (result.code = 0 → ∀ final ∈ announced t, final = .success ∨ final = .noUpdates) := by
  obtain ⟨qconn, srcDir, entrypoint, tb, sb, result', removals, hbody, hcode, hannounced, hcancel,
    hcommands, hremovals⟩ := runs_runAgent_ok h
  obtain ⟨transfer, htransfer, hcase⟩ := UpdateAgentManager.runs_runInConnection hbody
  rcases hcase with
    ⟨hcancelled, -, hsigint, -⟩ | ⟨hcontinued, o, o', hbodyCommands, hnonneg, hpos, rfl⟩
  · -- cancelled: code 130
    have hne : result.code ≠ 0 := by
      rw [hcode, hsigint]
      decide
    exact ⟨iff_of_false hne fun hnot => hnot.1 (hcancel.mpr hcancelled), fun hzero => absurd hzero hne⟩
  rw [hbodyCommands] at hcommands
  have hentry : ∀ o₀, (.entrypoint, o₀) ∈ commands t ↔ o₀ = o := by
    intro o₀
    rw [mem_commands_iff hcommands htransfer hremovals]
    simp [StepKind.isTransfer]
  have hzero : result.code = 0 ↔ ¬ TransferFailed t ∧ o.code ≤ 0 := by
    rw [transferFailed_iff hcommands htransfer hremovals, hcode, ← not_lt, ← not_or, ← hpos]
    omega
  constructor
  · rw [hzero, and_iff_right (hcancel.not.mpr hcontinued)]
    simp [hentry]
  · intro h0 final hfinal
    rw [hannounced, List.mem_singleton, status_entrypointStatus] at hfinal
    rw [hfinal, if_pos (hzero.mp h0).2]
    split
    · exact Or.inr rfl
    · exact Or.inl rfl

/-- An update that raises has let an exception out of the connection, or has not run any command. -/
theorem commands_buildAndRunAgent {exc : PyException}
    (h : Runs (buildAndRunAgent thisDir qube agentArgs showProgress dom0) s t (.error exc) s') :
    (∃ e ∈ t, escapes e) ∨ commands t = [] := by
  rcases runs_bind.mp h with ⟨_, -, hinit⟩ | ⟨runner, t₁, t₂, s₁, rfl, hinit, hrest⟩
  · rcases UpdateAgentManager.runs_init hinit with ⟨_, rfl, -⟩ | ⟨_, -, hr, -⟩
    · exact Or.inr rfl
    · cases hr
  rcases UpdateAgentManager.runs_init hinit with ⟨_, -, hr⟩ | ⟨_, rfl, -, -⟩
  · cases hr
  rcases runs_bind.mp hrest with ⟨_, -, hrun⟩ | ⟨_, _, _, _, -, -, hend⟩
  · obtain ⟨q, hwith, hq⟩ := UpdateAgentManager.runs_runAgent hrun
    rcases runs_withConnection hwith with
      ⟨_, rfl, -⟩ | ⟨running, tb, te, q', sb, re, rfl, hbody, hrelease, rfl⟩
    · exact Or.inr rfl
    -- either the body or the release has raised
    have hbodyFails := UpdateAgentManager.failsOn_runInConnection _ _ _ _ _ hbody
    have hreleaseFails := failsOn_release running _ _ _ _ hrelease
    refine Or.inl ?_
    have hraised : (∃ e ∈ tb, escapes e) ∨ ∃ e ∈ te, escapes e := by
      rw [← hbodyFails, ← hreleaseFails]
      cases re with
      | error exc' => exact Or.inr ⟨exc', rfl⟩
      | ok _ =>
          cases q' with
          | error exc' => exact Or.inl ⟨exc', rfl⟩
          | ok _ => cases hq
    rcases hraised with ⟨e, he, hescape⟩ | ⟨e, he, hescape⟩
    · exact ⟨e, by simp [he], hescape⟩
    · exact ⟨e, by simp [he], hescape⟩
  · obtain ⟨-, hr, -⟩ := runs_pure.mp hend
    cases hr

/-- An update that does not raise has run the agent of a manager. -/
theorem runs_buildAndRunAgent_ok {result : String × ProcessResult}
    (h : Runs (buildAndRunAgent thisDir qube agentArgs showProgress dom0) s t (.ok result) s') :
    ∃ (runner : UpdateAgentManager) (s₁ : FinalStatus) (t' : List WorkerEvent),
      t = ⟨.initLogs, .ok ()⟩ :: t' ∧
        Runs (runner.runAgent agentArgs (qubeNotifier agentArgs)) s₁ t' (.ok result.2) s' := by
  obtain ⟨runner, t₁, t₂, s₁, rfl, hinit, hrun⟩ := runs_bind_ok.mp h
  rcases UpdateAgentManager.runs_init hinit with ⟨_, -, hr⟩ | ⟨_, rfl, -, -⟩
  · cases hr
  obtain ⟨result', t₃, t₄, s₂, rfl, hagent, hend⟩ := runs_bind_ok.mp hrun
  obtain ⟨rfl, hr, rfl⟩ := runs_pure.mp hend
  cases hr
  exact ⟨runner, s₁, t₃, by simp, hagent⟩

/-- An event that ends no command, does not see the termination flag set and raises nothing makes no
difference. -/
theorem agentSucceeded_cons {e : WorkerEvent} (hcommand : e.commandOutcome? = none)
    (hsees : ¬ seesTermination e = true) (hescapes : ¬ escapes e) :
    AgentSucceeded (e :: t) ↔ AgentSucceeded t := by
  have hcommands : commands (e :: t) = commands t := by
    rw [commands_cons, hcommand]
    rfl
  have hcancelled : Cancelled (e :: t) ↔ Cancelled t := by
    simp [Cancelled, hsees]
  have htransfer : TransferFailed (e :: t) ↔ TransferFailed t := by
    rw [TransferFailed, hcommands, TransferFailed]
  constructor
  · rintro ⟨hcaught, hcontinued, htransferred, hagent⟩
    rw [hcommands] at hagent
    exact ⟨(List.forall_mem_cons.mp hcaught).2, hcancelled.not.mp hcontinued,
      htransfer.not.mp htransferred, hagent⟩
  · rintro ⟨hcaught, hcontinued, htransferred, hagent⟩
    rw [← hcommands] at hagent
    exact ⟨List.forall_mem_cons.mpr ⟨hescapes, hcaught⟩, hcancelled.not.mpr hcontinued,
      htransfer.not.mpr htransferred, hagent⟩

/-- Preparing the logs decides nothing. -/
@[simp] theorem agentSucceeded_initLogs :
    AgentSucceeded (⟨.initLogs, .ok ()⟩ :: t) ↔ AgentSucceeded t := by
  have hsees : ¬ seesTermination ⟨.initLogs, .ok ()⟩ = true := Bool.false_ne_true
  have hescapes : ¬ escapes ⟨.initLogs, .ok ()⟩ := id
  exact agentSucceeded_cons rfl hsees hescapes

/-- Nor does a clear flag. -/
@[simp] theorem agentSucceeded_readTermination :
    AgentSucceeded (⟨.readTermination, false⟩ :: t) ↔ AgentSucceeded t := by
  have hsees : ¬ seesTermination ⟨.readTermination, false⟩ = true := Bool.false_ne_true
  have hescapes : ¬ escapes ⟨.readTermination, false⟩ := id
  exact agentSucceeded_cons rfl hsees hescapes

/-- Nothing has got out of the connection of an update that does not raise. -/
theorem caught_of_buildAndRunAgent {result : String × ProcessResult}
    (h : Runs (buildAndRunAgent thisDir qube agentArgs showProgress dom0) s t (.ok result) s') :
    ∀ e ∈ t, ¬ escapes e := by
  intro e he hescape
  rcases runs_buildAndRunAgent h with ⟨⟨_, hr⟩, -⟩ | ⟨-, -, -, -, hescapes, -⟩
  · cases hr
  · obtain ⟨_, hr⟩ := hescapes.mpr ⟨e, he, hescape⟩
    cases hr

/-- The code of an update that does not raise. -/
theorem code_of_buildAndRunAgent {result : String × ProcessResult}
    (h : Runs (buildAndRunAgent thisDir qube agentArgs showProgress dom0) s t (.ok result) s') :
    (result.2.code = 0 ↔ AgentSucceeded t) ∧
      (result.2.code = 0 → ∀ final ∈ announced t, final = .success ∨ final = .noUpdates) := by
  have hcaught := caught_of_buildAndRunAgent h
  obtain ⟨runner, s₁, t', rfl, hagent⟩ := runs_buildAndRunAgent_ok h
  obtain ⟨hcode, hannounced⟩ := runs_runAgent_code hagent
  have hcaught' := (List.forall_mem_cons.mp hcaught).2
  have hsilent : announced (⟨.initLogs, .ok ()⟩ :: t') = announced t' := rfl
  rw [agentSucceeded_initLogs, hsilent]
  refine ⟨hcode.trans ?_, hannounced⟩
  constructor
  · rintro ⟨hcontinued, htransferred, hran⟩
    exact ⟨hcaught', hcontinued, htransferred, hran⟩
  · exact fun hsucceeded => ⟨hsucceeded.continued, hsucceeded.transferred, hsucceeded.agent⟩

/-- The result of a worker has the code 0 exactly if the update has succeeded; then nothing but a success is
announced. -/
theorem updateQube_code_eq_zero_iff {result : String × ProcessResult}
    (h : Runs (updateQube thisDir qube agentArgs showProgress dom0) s t (.ok result) s') :
    (result.2.code = 0 ↔ AgentSucceeded t) ∧
      (result.2.code = 0 → ∀ final ∈ announced t, final = .success ∨ final = .noUpdates) := by
  have hfails : ∀ {code : Int}, code ≠ 0 → ¬ AgentSucceeded t → (code = 0 ↔ AgentSucceeded t) ∧
      (code = 0 → ∀ final ∈ announced t, final = .success ∨ final = .noUpdates) :=
    fun hne hnot => ⟨iff_of_false hne hnot, fun hzero => absurd hzero hne⟩
  obtain ⟨cancelled, t₂, rfl, hrest⟩ := runs_call h
  change Bool at cancelled
  cases cancelled with
  | true =>
      obtain ⟨⟨⟩, t₃, rfl, hend⟩ := runs_call hrest
      obtain ⟨-, hr, -⟩ := runs_pure.mp hend
      cases hr
      exact hfails (show Exit.sigint ≠ 0 by decide) fun hsucceeded =>
        hsucceeded.continued ⟨_, List.mem_cons_self, rfl⟩
  | false =>
      rcases runs_tryCatch.mp hrest with ⟨_, hr, hok⟩ | ⟨exc, t₃, t₄, s₁, rfl, hraise, hhandler⟩
      · cases hr
        obtain ⟨hcode, hannounced⟩ := code_of_buildAndRunAgent hok
        rw [agentSucceeded_readTermination]
        exact ⟨hcode, hannounced⟩
      · -- the handler returns the code of an unhandled error
        obtain ⟨⟨⟩, t₅, rfl, hend⟩ := runs_call hhandler
        obtain ⟨rfl, hr, -⟩ := runs_pure.mp hend
        cases hr
        refine hfails (show Exit.errVmUnhandled ≠ 0 by decide) fun hsucceeded => ?_
        rcases commands_buildAndRunAgent hraise with ⟨e, he, hescape⟩ | hnone
        · exact hsucceeded.caught e (by simp [he]) hescape
        · rw [agentSucceeded_readTermination] at hsucceeded
          obtain ⟨o, ho, -⟩ := hsucceeded.agent
          rw [commands_append, hnone] at ho
          cases ho

end Worker

/-! ## A batch -/

namespace UpdateManager

/-- The codes of batches are not negative. -/
theorem finalCode_nonneg (terminated : Bool) (results : List (String × ProcessResult))
    (stats : List FinalStatus) : 0 ≤ finalCode terminated (collectedCode results) stats := by
  cases terminated with
  | true =>
      rw [finalCode_terminated]
      decide
  | false => exact (collectedCode_bounds results).1.trans (collected_le_finalCode _ stats)

end UpdateManager

namespace BatchRun

variable {thisDir : String} {agentArgs : Args} {manager : UpdateManager}
  {log : List (BatchLabel manager.qubes.length)}
  {result : Fin manager.qubes.length → String × ProcessResult} {outcome : BatchOutcome}

/-- The flag is not set without a signal. -/
theorem not_terminated (h : BatchRun thisDir manager agentArgs log result outcome)
    (hcalm : .signal .sigint ∉ log) : outcome.terminated = false := by
  obtain ⟨-, -, hterminated⟩ := h.memory
  have hstart : (manager.memory agentArgs).Calm := ⟨rfl, Or.inl rfl, rfl⟩
  rw [hterminated]
  exact (hstart.foldl hcalm).clear

/-- The final statuses on the queue have been announced by the workers. -/
theorem mem_announced (h : BatchRun thisDir manager agentArgs log result outcome)
    {message : Message PyFloat} (hmessage : message ∈ outcome.queue) {status : FinalStatus}
    (hdone : message.doneStatus? = some status) : ∃ i, status ∈ announced (threadEvents i log) := by
  obtain ⟨i, event, hevent, hput⟩ := h.exists_put hmessage
  exact ⟨i, List.mem_filterMap.mpr ⟨message, List.mem_filterMap.mpr ⟨event, hevent, hput⟩, hdone⟩⟩

/-- A batch without signals whose display can be set up returns. -/
theorem run_calm (h : BatchRun thisDir manager agentArgs log result outcome) (hne : manager.qubes ≠ [])
    {bars : MultipleUpdateMultipleProgressBar PyFloat} (hsetUp : manager.setUp agentArgs = .ok bars)
    (hcalm : .signal .sigint ∉ log) : ∃ returned, manager.run agentArgs outcome = .ok returned := by
  have hstart : (manager.memory agentArgs).Calm := ⟨rfl, Or.inl rfl, rfl⟩
  have hlost : (manager.memoryAfter agentArgs log).lost = [] := (hstart.foldl hcalm).unlost
  obtain ⟨bars', rest, hfeeding⟩ := UpdateManager.feeding_returns hsetUp
    (fun info hmem => h.qname_of_mem_queue hmem)
    (h.length_le_announced fun message hmem => by rw [hlost] at hmem; cases hmem)
  rw [UpdateManager.run, if_neg hne, hsetUp]
  simp only [hfeeding]
  exact ⟨_, rfl⟩

/-- The statuses that a batch returns have been announced by its workers. -/
theorem announced_of_run (h : BatchRun thisDir manager agentArgs log result outcome)
    (hne : manager.qubes ≠ []) {code : Int} {statuses : Dict String FinalStatus}
    (hrun : manager.run agentArgs outcome = .ok (code, statuses)) {q : String} {status : FinalStatus}
    (hget : statuses.get? q = some status) : ∃ i, status ∈ announced (threadEvents i log) := by
  rw [UpdateManager.run, if_neg hne] at hrun
  split at hrun
  · cases hrun
  · rename_i bars hsetUp
    split at hrun
    · cases hrun
    · cases hrun
    · rename_i bars' rest hfeeding
      rw [← (Prod.mk.inj (Except.ok.inj hrun)).2] at hget
      have hempty : bars.statuses = Dict.empty := UpdateManager.statuses_addQubes hsetUp
      rcases MultipleUpdateMultipleProgressBar.statuses_feeding hfeeding hget with
        hstored | ⟨message, hmem, hdone⟩
      · rw [hempty, Dict.get?_empty] at hstored
        cases hstored
      · exact h.mem_announced hmem hdone

/-- A batch returns 0 exactly if its display can be set up, all updates succeed and no signal arrives. -/
theorem code_eq_zero_iff (h : BatchRun thisDir manager agentArgs log result outcome)
    (hne : manager.qubes ≠ []) (hret : manager.retCode = Exit.ok)
    {bars : MultipleUpdateMultipleProgressBar PyFloat} (hsetUp : manager.setUp agentArgs = .ok bars) :
    (∃ statuses, manager.run agentArgs outcome = .ok (0, statuses)) ↔
      (∀ i, AgentSucceeded (threadEvents i log)) ∧ .signal .sigint ∉ log := by
  have hworker := fun i => updateQube_code_eq_zero_iff (h.worker i).choose_spec
  have hresults : (∀ r ∈ outcome.results, r.2.code = 0) ↔ ∀ i, AgentSucceeded (threadEvents i log) := by
    simp only [h.results.mem_iff, List.mem_ofFn, ← (hworker _).1]
    simp
  constructor
  · rintro ⟨statuses, hrun⟩
    have hcode := UpdateManager.run_eq_ok hne hret hrun
    have hexact := UpdateManager.finalCode_exact outcome.results statuses outcome.terminated
    rw [← hcode] at hexact
    obtain ⟨hzero, -, hterminated⟩ := hexact.zero_iff.mp rfl
    refine ⟨hresults.mp hzero, fun hsignal => ?_⟩
    -- after a signal, the batch would not return 0
    rw [h.terminated_of_signal hsignal hne hrun] at hterminated
    cases hterminated
  · rintro ⟨hall, hcalm⟩
    obtain ⟨⟨code, statuses⟩, hrun⟩ := h.run_calm hne hsetUp hcalm
    have hcode := UpdateManager.run_eq_ok hne hret hrun
    have hexact := UpdateManager.finalCode_exact outcome.results statuses outcome.terminated
    rw [← hcode] at hexact
    have hzero : code = 0 := by
      refine hexact.zero_iff.mpr ⟨hresults.mpr hall, fun q status hget => ?_, h.not_terminated hcalm⟩
      obtain ⟨i, hannounced⟩ := h.announced_of_run hne hrun hget
      exact (hworker i).2 ((hworker i).1.mpr (hall i)) status hannounced
    rw [hzero] at hrun
    exact ⟨statuses, hrun⟩

end BatchRun

/-! ## The apply phase -/

/-- The codes of the apply phase are between 0 and 13. -/
theorem applyCodes_bounds : ApplyCodes fun code => 0 ≤ code ∧ code ≤ 13 where
  ok := by decide
  shutdownTmpl := by decide
  shutdownApp := by decide
  startApp := by decide
  max := by
    intro a b ha hb
    omega

/-! ## A whole run -/

variable {env : Environment} {args : Args} {targets : List Qube}

/-- What the apply phase returns, after the batches have returned their statuses. -/
def applied (env : Environment) (args : Args) (targets : List Qube) (w : World) : Except Stop Int := do
  let (_, templStatuses) ← batchResult env args targets .independent
  let (_, appStatuses) ← batchResult env args targets .derived
  (exec (applyUpdatesToAppvm env.system args (members .independent targets) templStatuses appStatuses)
    w).1.mapError Stop.raised

/-- At the end, the code 100 only replaces 0. -/
theorem exitCode_success_iff {noUpdates : Bool} {retCode : Int} (h : retCode ≠ Exit.okNoUpdates) :
    (exitCode args noUpdates retCode = Exit.ok ∨ exitCode args noUpdates retCode = Exit.okNoUpdates)
      ↔ retCode = 0 := by
  rw [exitCode]
  split
  · rename_i hzero
    exact iff_of_true (Or.inr rfl) hzero.1
  · rw [if_neg fun hand => h hand.1]
    exact or_iff_left h

/-- What is known of the workers of a batch that has been started. -/
structure BatchSucceeded (args : Args) (targets : List Qube) (batch : Batch)
    (log : List (BatchLabel (batchManager args targets batch).qubes.length)) : Prop where
  /-- Each qube has a bar. -/
  displayed : ∃ bars, (batchManager args targets batch).setUp args = .ok bars
  /-- All updates succeed. -/
  workers : ∀ i, AgentSucceeded (threadEvents i log)
  /-- No signal arrives. -/
  calm : .signal .sigint ∉ log

/-- A batch that returns 0. -/
theorem batchResult_code_eq_zero_iff {thisDir : String} {batch : Batch} (hne : members batch targets ≠ [])
    {log : List (BatchLabel (batchManager args targets batch).qubes.length)}
    {result : Fin (batchManager args targets batch).qubes.length → String × ProcessResult}
    (h : BatchRun thisDir (batchManager args targets batch) args log result (env.outcome batch)) :
    (∃ statuses, batchResult env args targets batch = .ok (0, statuses))
      ↔ BatchSucceeded args targets batch log := by
  rw [batchResult, if_neg hne]
  cases hsetUp : (batchManager args targets batch).setUp args with
  | error exc =>
      constructor
      · rintro ⟨statuses, hrun⟩
        rw [UpdateManager.run, hsetUp] at hrun
        split at hrun
        · exact absurd ‹_› hne
        · cases hrun
      · rintro ⟨⟨bars, hbars⟩, -, -⟩
        rw [hsetUp] at hbars
        cases hbars
  | ok bars =>
      rw [h.code_eq_zero_iff hne rfl hsetUp]
      exact ⟨fun hand => ⟨⟨bars, hsetUp⟩, hand.1, hand.2⟩, fun hsucceeded =>
        ⟨hsucceeded.workers, hsucceeded.calm⟩⟩

/-- The codes of batches are not negative, and the code for "no updates" is not one of them. -/
theorem batchResult_bounds {batch : Batch} {r : Int × Dict String FinalStatus}
    (h : batchResult env args targets batch = .ok r) : 0 ≤ r.1 ∧ r.1 ≠ Exit.okNoUpdates := by
  rw [batchResult] at h
  split at h
  · rw [← Except.ok.inj h]
    decide
  · rename_i hne
    rw [show r.1 = _ from UpdateManager.run_eq_ok hne rfl h]
    exact ⟨UpdateManager.finalCode_nonneg _ _ _,
      UpdateManager.finalCode_ne_noUpdates _ (UpdateManager.collectedCode_bounds _).2 _⟩

/-- A batch that ends the run does not return 0. -/
theorem continues_of_batchResult {batch : Batch} {statuses : Dict String FinalStatus}
    (h : batchResult env args targets batch = .ok (0, statuses)) :
    Continues (batchResult env args targets batch) :=
  ⟨_, h, show (0 : Int) ≠ Exit.sigint by decide⟩

/-- An empty batch lets the run go on. -/
theorem continues_of_members_eq_nil {batch : Batch} (h : members batch targets = []) :
    Continues (batchResult env args targets batch) := by
  rw [batchResult, if_pos h]
  exact ⟨_, rfl, by decide⟩

/-- What a batch returns that ends the run is no success. -/
theorem map_ne_of_not_continues {r : Except Stop (Int × Dict String FinalStatus)} (h : ¬ Continues r) :
    ¬ (r.map Prod.fst = .ok Exit.ok ∨ r.map Prod.fst = .ok Exit.okNoUpdates) := by
  cases r with
  | error stop =>
      rintro (hr | hr)
      · cases hr
      · cases hr
  | ok returned =>
      have hsigint : returned.1 = Exit.sigint := by
        by_contra hne
        exact h ⟨returned, rfl, hne⟩
      show ¬ ((Except.ok returned.1 : Except Stop Int) = _ ∨ (Except.ok returned.1 : Except Stop Int) = _)
      rw [hsigint]
      simp

/-- The part of a run that updates the targets, from its start. -/
theorem updateTargets_success_iff (env : Environment) (hdry : args.dryRun = false) (w : World)
    (thisDir : String)
    {log : (batch : Batch) → List (BatchLabel (batchManager args targets batch).qubes.length)}
    {result : (batch : Batch) → Fin (batchManager args targets batch).qubes.length →
      String × ProcessResult}
    (hruns : ∀ batch ∈ (exec (updateTargets env args targets) { world := w }).2.started, BatchRun thisDir
      (batchManager args targets batch) args (log batch) (result batch) (env.outcome batch)) :
    ((exec (updateTargets env args targets) { world := w }).1 = .ok Exit.ok ∨
        (exec (updateTargets env args targets) { world := w }).1 = .ok Exit.okNoUpdates) ↔
      (∀ batch, members batch targets ≠ [] →
        batch ∈ (exec (updateTargets env args targets) { world := w }).2.started ∧
          BatchSucceeded args targets batch (log batch)) ∧ applied env args targets w = .ok Exit.ok := by
  -- a batch that has been started and ends the run has not succeeded
  have hstop : ∀ {batch : Batch}, ¬ Continues (batchResult env args targets batch) →
      ¬ ∀ b, members b targets ≠ [] →
        b ∈ (exec (updateTargets env args targets) { world := w }).2.started ∧
          BatchSucceeded args targets b (log b) := by
    intro batch hnot hall
    have hmembers : members batch targets ≠ [] := fun hnil => hnot (continues_of_members_eq_nil hnil)
    obtain ⟨hstarted, hsucceeded⟩ := hall batch hmembers
    obtain ⟨statuses, hzero⟩ :=
      (batchResult_code_eq_zero_iff hmembers (hruns batch hstarted)).mpr hsucceeded
    exact hnot (continues_of_batchResult hzero)
  rcases updateTargets_cases env targets hdry { world := w } with
    ⟨hnot, hended⟩ | ⟨-, hnot, hended⟩ | ⟨-, -, hnot, hended⟩ | ⟨hcontinues, r, hr, hended⟩
  · refine iff_of_false ?_ fun hright => hstop hnot hright.1
    rw [hended]
    exact map_ne_of_not_continues hnot
  · refine iff_of_false ?_ fun hright => hstop hnot hright.1
    rw [hended]
    exact map_ne_of_not_continues hnot
  · refine iff_of_false ?_ fun hright => hstop hnot hright.1
    rw [hended]
    exact map_ne_of_not_continues hnot
  -- all batches have returned
  have hbatches : (∀ batch, members batch targets ≠ [] →
      batch ∈ (exec (updateTargets env args targets) { world := w }).2.started ∧
        BatchSucceeded args targets batch (log batch)) ↔ ∀ batch, (r batch).1 = 0 := by
    refine forall_congr' fun batch => ?_
    by_cases hmembers : members batch targets = []
    · have hreturned := hr batch
      rw [batchResult, if_pos hmembers] at hreturned
      rw [← Except.ok.inj hreturned]
      exact iff_of_true (fun hne => absurd hmembers hne) rfl
    · have hstarted := mem_started_of_continues env targets hdry { world := w } hmembers
        fun b _ => hcontinues b
      have hzero := batchResult_code_eq_zero_iff hmembers (hruns batch hstarted)
      rw [forall_prop_of_true hmembers, and_iff_right hstarted, ← hzero, hr batch]
      constructor
      · rintro ⟨statuses, heq⟩
        rw [Except.ok.inj heq]
      · intro hcode
        exact ⟨(r batch).2, by rw [← hcode]⟩
  have happlied : applied env args targets w = (exec (applyUpdatesToAppvm env.system args
      (members .independent targets) (r .independent).2 (r .derived).2) w).1.mapError Stop.raised := by
    rw [applied, hr .independent, hr .derived]
    rfl
  rw [hbatches, happlied, hended, finish, MainState.afterBatch_world, MainState.afterBatch_world,
    MainState.afterBatch_world]
  cases happly : exec (applyUpdatesToAppvm env.system args (members .independent targets)
      (r .independent).2 (r .derived).2) w with
  | mk outcome w' =>
  cases outcome with
  | error exc => simp [Except.mapError, Except.map]
  | ok restart =>
      -- none of the codes is negative or 100, so their maximum is 0 only if they all are
      have hrestart := applyCodes_bounds.applyUpdatesToAppvm _ _ _ _ _ _ happly
      have hadmin := batchResult_bounds (hr .admin)
      have hindependent := batchResult_bounds (hr .independent)
      have hderived := batchResult_bounds (hr .derived)
      have hall : (∀ batch, (r batch).1 = 0) ↔
          (r .admin).1 = 0 ∧ (r .independent).1 = 0 ∧ (r .derived).1 = 0 :=
        ⟨fun h => ⟨h _, h _, h _⟩, by rintro ⟨h₁, h₂, h₃⟩ (_ | _ | _) <;> assumption⟩
      simp only [Except.mapError, Except.map, Except.ok.injEq]
      rw [exitCode_success_iff, hall]
      · simp only [Exit.ok]
        omega
      · simp only [Exit.okNoUpdates] at *
        omega

/-- A run returns 0, or 100 for "no updates", if and only if each batch that has targets has been started
and has succeeded, whatever the order of the steps of its workers was, and the apply phase returns 0. -/
theorem mainRun_success_iff (env : Environment) {args : Args} (hdry : args.dryRun = false)
    {targets : List Qube} (hne : targets ≠ []) (w : World) (thisDir : String)
    {log : (batch : Batch) → List (BatchLabel (batchManager args targets batch).qubes.length)}
    {result : (batch : Batch) → Fin (batchManager args targets batch).qubes.length →
      String × ProcessResult}
    (hruns : ∀ batch ∈ (mainRun env args (.ok targets) w).2.started, BatchRun thisDir
      (batchManager args targets batch) args (log batch) (result batch) (env.outcome batch)) :
    ((mainRun env args (.ok targets) w).1 = .ok Exit.ok ∨
        (mainRun env args (.ok targets) w).1 = .ok Exit.okNoUpdates) ↔
      (∀ batch, members batch targets ≠ [] → batch ∈ (mainRun env args (.ok targets) w).2.started ∧
        BatchSucceeded args targets batch (log batch)) ∧ applied env args targets w = .ok Exit.ok := by
  rw [mainRun_of_ne_nil env args hne] at hruns ⊢
  exact updateTargets_success_iff env hdry w thisDir hruns

/-- The update of a template in this environment. -/
def workingBatch : List (BatchLabel cancelledManager.qubes.length) ×
    Pool (Fin cancelledManager.qubes.length) BatchMemory WorkerCall.Reply
      (Except PyException (String × ProcessResult) × FinalStatus) :=
  (cancelledManager.pool "/usr/lib/vmupdate" {}).play batchMemory workingEnvironment
    (List.replicate 15 ⟨0, Nat.one_pos⟩)

/-- What the manager makes of it. -/
def workingRun : Environment where
  outcome := fun _ =>
    { queue := [.status (.done "fedora" .success)]
      results := [("fedora", { out := "OK" })]
      terminated := false }
  system := serviceSystem

/-- The example is a run of its batch. -/
theorem batchRun_working : BatchRun "/usr/lib/vmupdate" (batchManager {} [fedora] .independent) {}
    workingBatch.1 (fun _ => ("fedora", { out := "OK" })) (workingRun.outcome .independent) := by
  refine batchRun_play workingEnvironment allows_workingEnvironment _ (fun i => ?_) rfl rfl (List.Perm.refl _)
  have hi : i = ⟨0, by decide⟩ := Fin.ext (Nat.lt_one_iff.mp i.isLt)
  subst hi
  exact ⟨.success, rfl⟩

/-- The logs of the batches. -/
def workingLog : (batch : Batch) → List (BatchLabel (batchManager {} [fedora] batch).qubes.length)
  | .independent => workingBatch.1
  | .admin => []
  | .derived => []

/-- Updating a template returns 0, so its agent has been run. -/
theorem mainRun_success_iff_fedora : BatchSucceeded {} [fedora] .independent workingBatch.1 := by
  have hstarted : (mainRun workingRun {} (.ok [fedora]) { running := fun _ => true }).2.started
      = [.independent] := rfl
  have hruns : ∀ batch ∈ (mainRun workingRun {} (.ok [fedora]) { running := fun _ => true }).2.started,
      BatchRun "/usr/lib/vmupdate" (batchManager {} [fedora] batch) {} (workingLog batch)
        (fun _ => ("fedora", { out := "OK" })) (workingRun.outcome batch) := by
    intro batch hbatch
    rw [hstarted, List.mem_singleton] at hbatch
    subst hbatch
    exact batchRun_working
  have hsuccess := mainRun_success_iff workingRun rfl (List.cons_ne_nil fedora [])
    { running := fun _ => true } "/usr/lib/vmupdate" hruns
  exact ((hsuccess.mp (Or.inl rfl)).1 .independent (List.cons_ne_nil _ _)).2

end QubesAdminLinux
