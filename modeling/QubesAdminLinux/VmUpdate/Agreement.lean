import QubesAdminLinux.VmUpdate.Announcement

/-! # Status and code of the update of a qube

An update is reported twice: by the status its connection announces, and by the code of the result
that `run_agent` returns.  The status is written by three layers, the code is a fold over the commands.

* **`Agrees`** — what the two reports should have to do with each other.
* **`runAgent_agrees_iff`** — they agree exactly under `AgreementCondition`, a condition on the outcomes
  of the commands.
* **`merge_and_entrypoint_failure_iff`** — a failed command counts as failed, by its code and its
  status, exactly if its code is not negative. -/

namespace QubesAdminLinux

open Proc WorkerEvent QubeConnection

/-- The update has been cancelled after the transfer. -/
def Cancelled (t : List WorkerEvent) : Prop := ∃ e ∈ t, seesTermination e = true

/-- A command of the transfer has ended with a positive code. -/
def TransferFailed (t : List WorkerEvent) : Prop :=
  ∃ command ∈ commands t, command.1.isTransfer = true ∧ 0 < command.2.code

/-- The announced status `final` and the returned `code` say the same about the run `t`. -/
structure Agrees (t : List WorkerEvent) (final : FinalStatus) (code : Int) : Prop where
  /-- A success has code 0. -/
  success : final = .success → code = 0
  /-- "No updates" has code 0, and it was the entrypoint that exited with 100. -/
  noUpdates : final = .noUpdates → code = 0 ∧ (.entrypoint, .exited 100) ∈ commands t
  /-- A cancellation is the one with code 130. -/
  cancelled : final = .cancelled ↔ code = Exit.sigint ∧ Cancelled t
  /-- Code 0 is announced as a success or as "no updates". -/
  zero : code = 0 → final = .success ∨ final = .noUpdates

/-- The outcomes after which status and code agree: the update was cancelled; or the entrypoint exited
with 100 after a transfer without error; or no command exited with 100, and no error of the transfer
was followed by an entrypoint without one. -/
def AgreementCondition (t : List WorkerEvent) : Prop :=
  Cancelled t ∨
  ((.entrypoint, .exited 100) ∈ commands t ∧ ¬ TransferFailed t) ∨
  ((∀ step, step ≠ .remove → (step, .exited 100) ∉ commands t) ∧
    ∀ o, (.entrypoint, o) ∈ commands t → o.code ≤ 0 → ¬ TransferFailed t)

variable {manager : UpdateAgentManager} {agentArgs : Args} {notifier : StatusNotifier}
  {s s' : FinalStatus} {t : List WorkerEvent} {result : ProcessResult}

/-- A run of `run_agent` that returns: what ran inside the connection, and what the connection
announced and released afterwards. -/
theorem runs_runAgent_ok (h : Runs (manager.runAgent agentArgs notifier) s t (.ok result) s') :
    ∃ (qconn : QubeConnection) (srcDir : Option String) (entrypoint : Entrypoint)
      (tb : List WorkerEvent) (sb : FinalStatus) (result' : ProcessResult)
      (removals : List (StepKind × Outcome)),
      Runs (manager.runInConnection qconn srcDir entrypoint agentArgs) .error tb (.ok result') sb ∧
      result.code = result'.code ∧ announced t = [sb] ∧ (Cancelled t ↔ Cancelled tb) ∧
      commands t = commands tb ++ removals ∧ ∀ command ∈ removals, command.1 = .remove := by
  obtain ⟨q, hwith, hr⟩ := UpdateAgentManager.runs_runAgent h
  rcases runs_withConnection hwith with
    ⟨exc, rfl, rfl⟩ | ⟨running, tb, te, q, sb, re, rfl, hbody, hrelease, rfl⟩
  · cases hr
  -- since the whole returns, neither the body nor the release has raised
  cases re with
  | error exc => cases hr
  | ok _ =>
      cases q with
      | error exc => cases hr
      | ok result' =>
          cases hr
          let qconn := (manager.connection agentArgs (manager.agentNotifier notifier)).1
          have hbefore : ∀ e ∈ tb, Progressing (qconn.statusNotifier.shown qconn.qube.name) e :=
            UpdateAgentManager.emits_runInConnection rfl _ _ _ _ hbody
          have hafter : ∀ e ∈ te, Quiet (fun step => step = .remove) e :=
            emits_release running (by rfl) _ _ _ _ hrelease
          refine ⟨qconn, _, _, tb, sb, result', commands te, hbody, manager.logOutput_code _ _,
            ?_, ?_, ?_, ?_⟩
          · -- only the DONE message announces a status
            have hdone := message?_doneEvent qconn sb
            have hmessages : messages (⟨.isRunning .entry, .ok running⟩ ::
                (tb ++ qconn.doneEvent sb :: te)) = messages tb ++
                  [.status (.done (qconn.statusNotifier.shown qconn.qube.name) sb)] := by
              simp only [messages_append, messages_cons, hdone, messages_quiet hafter]
              rfl
            have hnone := announced_progressing hbefore
            rw [announced] at hnone
            rw [announced, hmessages, List.filterMap_append, hnone]
            rfl
          · -- nothing outside the body reads the flag
            have hunseen : ∀ {e : WorkerEvent}, readsTermination e = false →
                ¬ seesTermination e = true := by
              intro e hread hsees
              rw [readsTermination_of_seesTermination hsees] at hread
              cases hread
            constructor
            · rintro ⟨e, he, hsees⟩
              rcases List.mem_cons.mp he with rfl | he
              · cases hsees
              rcases List.mem_append.mp he with he | he
              · exact ⟨e, he, hsees⟩
              rcases List.mem_cons.mp he with rfl | he
              · cases hsees
              · exact absurd hsees (hunseen (hafter e he).unread)
            · rintro ⟨e, he, hsees⟩
              exact ⟨e, List.mem_cons_of_mem _ (List.mem_append_left _ he), hsees⟩
          · -- entering and announcing are no commands
            have hentry : commands (⟨.isRunning .entry, .ok running⟩ ::
                (tb ++ qconn.doneEvent sb :: te)) = commands (tb ++ qconn.doneEvent sb :: te) := rfl
            have hdone : commands (qconn.doneEvent sb :: te) = commands te := rfl
            exact hentry.trans (by rw [commands_append, hdone])
          · rintro ⟨step, o⟩ hmem
            obtain ⟨e, he, hout⟩ := List.mem_filterMap.mp hmem
            exact (hafter e he).step step (step?_of_commandOutcome? hout)

/-- The status announced after a transfer and outcomes `o`, `o'` of the entrypoint and the log read:
any exit code 100 makes it "no updates". -/
theorem status_entrypointStatus (transfer : List (StepKind × Outcome)) (o o' : Outcome) :
    o'.status (UpdateAgentManager.entrypointStatus (statusAfter .error transfer) o)
      = if o' = .exited 100 ∨ o = .exited 100 ∨ ∃ command ∈ transfer, command.2 = .exited 100
        then .noUpdates
        else if o.code ≤ 0 then .success else .error := by
  rw [Outcome.status_eq, UpdateAgentManager.entrypointStatus, Outcome.status_eq, statusAfter_eq]
  -- the last exit code 100 decides, so the log read comes first
  by_cases ho' : o' = .exited 100
  · rw [if_pos ho', if_pos (Or.inl ho')]
  by_cases ho : o = .exited 100
  · simp [ho]
  by_cases htransfer : ∃ command ∈ transfer, command.2 = .exited 100
  · simp only [if_neg ho', if_neg ho, if_pos htransfer]
    simp [htransfer]
  · have hnone : ¬ (o' = .exited 100 ∨ o = .exited 100 ∨
        ∃ command ∈ transfer, command.2 = .exited 100) := by
      rintro (h | h | h)
      · exact ho' h
      · exact ho h
      · exact htransfer h
    rw [if_neg ho', if_neg ho, if_neg htransfer, if_neg hnone]
    simp

/-- Without a cancellation, the two reports agree about code 0 and about who exited with 100. -/
theorem agrees_iff {final : FinalStatus} {code : Int} (h : ¬ Cancelled t) :
    Agrees t final code ↔ final ≠ .cancelled ∧
      (code = 0 ↔ final = .success ∨ final = .noUpdates) ∧
      (final = .noUpdates → (.entrypoint, .exited 100) ∈ commands t) := by
  constructor
  · intro hagrees
    refine ⟨fun hfinal => h (hagrees.cancelled.mp hfinal).2, ⟨hagrees.zero, ?_⟩, fun hfinal =>
      (hagrees.noUpdates hfinal).2⟩
    rintro (hfinal | hfinal)
    · exact hagrees.success hfinal
    · exact (hagrees.noUpdates hfinal).1
  · rintro ⟨hne, hzero, hentry⟩
    exact ⟨fun hfinal => hzero.mpr (Or.inl hfinal), fun hfinal =>
      ⟨hzero.mpr (Or.inr hfinal), hentry hfinal⟩, iff_of_false hne fun hc => h hc.2, hzero.mp⟩

section Commands

variable {transfer removals : List (StepKind × Outcome)} {o o' : Outcome}

/-- The commands of an update that has not been cancelled. -/
theorem mem_commands_iff
    (hcommands : commands t = transfer ++ [(.entrypoint, o), (.readLogs, o')] ++ removals)
    (htransfer : ∀ command ∈ transfer, command.1.isTransfer = true)
    (hremovals : ∀ command ∈ removals, command.1 = .remove) {step : StepKind} {o₀ : Outcome} :
    (step, o₀) ∈ commands t ↔
      ((step, o₀) ∈ transfer ∧ step.isTransfer = true) ∨ (step = .entrypoint ∧ o₀ = o) ∨
        (step = .readLogs ∧ o₀ = o') ∨ ((step, o₀) ∈ removals ∧ step = .remove) := by
  rw [and_iff_left_of_imp (htransfer (step, o₀)), and_iff_left_of_imp (hremovals (step, o₀)),
    hcommands]
  simp

/-- The transfer has failed if one of its commands has. -/
theorem transferFailed_iff
    (hcommands : commands t = transfer ++ [(.entrypoint, o), (.readLogs, o')] ++ removals)
    (htransfer : ∀ command ∈ transfer, command.1.isTransfer = true)
    (hremovals : ∀ command ∈ removals, command.1 = .remove) :
    TransferFailed t ↔ ∃ command ∈ transfer, 0 < command.2.code := by
  constructor
  · rintro ⟨⟨step, o₀⟩, hmem, hstep, hpositive⟩
    rcases (mem_commands_iff hcommands htransfer hremovals).mp hmem with
      ⟨hmem, -⟩ | ⟨rfl, -⟩ | ⟨rfl, -⟩ | ⟨-, rfl⟩
    · exact ⟨_, hmem, hpositive⟩
    · cases hstep
    · cases hstep
    · cases hstep
  · rintro ⟨command, hmem, hpositive⟩
    refine ⟨command, ?_, htransfer command hmem, hpositive⟩
    rw [hcommands]
    exact List.mem_append_left _ (List.mem_append_left _ hmem)

/-- Exit code 100 is looked for everywhere but in the removal, which comes after DONE. -/
theorem forall_ne_hundred_iff
    (hcommands : commands t = transfer ++ [(.entrypoint, o), (.readLogs, o')] ++ removals)
    (htransfer : ∀ command ∈ transfer, command.1.isTransfer = true)
    (hremovals : ∀ command ∈ removals, command.1 = .remove) :
    (∀ step, step ≠ .remove → (step, .exited 100) ∉ commands t) ↔
      ¬ (o' = .exited 100 ∨ o = .exited 100 ∨ ∃ command ∈ transfer, command.2 = .exited 100) := by
  constructor
  · rintro hall (rfl | rfl | ⟨⟨step, _⟩, hmem, rfl⟩)
    · exact hall .readLogs (by decide) (by rw [hcommands]; simp)
    · exact hall .entrypoint (by decide) (by rw [hcommands]; simp)
    · refine hall step ?_ (by rw [hcommands]; simp [hmem])
      rintro rfl
      cases htransfer _ hmem
  · rintro hnone step hstep hmem
    rcases (mem_commands_iff hcommands htransfer hremovals).mp hmem with
      ⟨hmem, -⟩ | ⟨-, ho⟩ | ⟨-, ho⟩ | ⟨-, rfl⟩
    · exact hnone (Or.inr (Or.inr ⟨_, hmem, rfl⟩))
    · exact hnone (Or.inr (Or.inl ho.symm))
    · exact hnone (Or.inl ho.symm)
    · exact hstep rfl

end Commands

/-- The status that is announced and the code that is returned agree exactly under
`AgreementCondition`: a failed transfer does not keep the entrypoint from running and from announcing a
success, and an exit code 100 of any command is announced as "no updates". -/
theorem runAgent_agrees_iff
    (h : Runs (manager.runAgent agentArgs notifier) s t (.ok result) s') :
    (∃ final, announced t = [final] ∧ Agrees t final result.code) ↔ AgreementCondition t := by
  obtain ⟨qconn, srcDir, entrypoint, tb, sb, result', removals, hbody, hcode, hannounced, hcancel,
    hcommands, hremovals⟩ := runs_runAgent_ok h
  have hagrees : (∃ final, announced t = [final] ∧ Agrees t final result.code)
      ↔ Agrees t sb result.code := by
    rw [hannounced]
    simp
  rw [hagrees]
  obtain ⟨transfer, htransfer, hcase⟩ := UpdateAgentManager.runs_runInConnection hbody
  rcases hcase with
    ⟨hcancelled, -, hsigint, rfl⟩ | ⟨hcontinued, o, o', hbodyCommands, hnonneg, hpos, rfl⟩
  · -- cancelled: code 130 and CANCELLED, which agree
    have hcancelled' : Cancelled t := hcancel.mpr hcancelled
    refine iff_of_true ⟨?_, ?_, ?_, ?_⟩ (Or.inl hcancelled')
    · simp
    · simp
    · rw [hcode, hsigint]
      simp [hcancelled']
    · rw [hcode, hsigint]
      simp
  · -- not cancelled: everything depends on the outcomes of the commands
    have hcontinued' : ¬ Cancelled t := hcancel.not.mpr hcontinued
    rw [hbodyCommands] at hcommands
    -- the entrypoint has run exactly once
    have hentry : ∀ o₀, (.entrypoint, o₀) ∈ commands t ↔ o₀ = o := by
      intro o₀
      rw [mem_commands_iff hcommands htransfer hremovals]
      simp [StepKind.isTransfer]
    have hfailed := transferFailed_iff hcommands htransfer hremovals
    have hhundred := forall_ne_hundred_iff hcommands htransfer hremovals
    -- the returned code is zero if neither the transfer nor the entrypoint has failed
    have hzero : result.code = 0 ↔ ¬ TransferFailed t ∧ o.code ≤ 0 := by
      rw [hfailed, hcode, ← not_lt, ← not_or, ← hpos]
      omega
    rw [AgreementCondition, hhundred, hentry, agrees_iff hcontinued', hentry,
      status_entrypointStatus, hzero]
    simp only [hentry, forall_eq, hcontinued', false_or]
    by_cases hany : o' = .exited 100 ∨ o = .exited 100 ∨
        ∃ command ∈ transfer, command.2 = .exited 100
    · -- announced as "no updates"
      rw [if_pos hany]
      simp only [hany, ne_eq, reduceCtorEq, not_false_eq_true, or_true, iff_true, true_imp_iff,
        true_and, not_true_eq_false, false_and, or_false]
      constructor
      · rintro ⟨⟨hfailed', -⟩, ho⟩
        exact ⟨ho, hfailed'⟩
      · rintro ⟨rfl, hfailed'⟩
        exact ⟨⟨hfailed', le_refl _⟩, rfl⟩
    · rw [if_neg hany]
      have ho : ¬ .exited 100 = o := fun h => hany (Or.inr (Or.inl h.symm))
      -- no exit code 100: the status is that of the entrypoint alone
      by_cases hsuccess : o.code ≤ 0
      · rw [if_pos hsuccess]
        simp only [hany, ho, hsuccess, ne_eq, reduceCtorEq, not_false_eq_true, and_true, or_false,
          iff_true, false_imp_iff, true_and, false_and, false_or, true_imp_iff]
      · rw [if_neg hsuccess]
        simp only [hany, hsuccess, ne_eq, reduceCtorEq, not_false_eq_true, and_false, or_false,
          false_imp_iff, and_true, or_true]

/-- The manager of the update of a template. -/
def templateManager : UpdateAgentManager :=
  ⟨⟨"debian", .templateVM, by decide⟩, false, true, false, "update-debian.log", "/usr/lib/vmupdate"⟩

/-- The update of a template whose working directory is created with outcome `made`. -/
def directoryRun (made : Except PyException (Bytes × Bytes)) :
    List WorkerEvent × Except PyException ProcessResult × FinalStatus :=
  play (cannedEnvironment made (.ok ([], [])) 0) (templateManager.runAgent {} {}) .error

/-- The characterisation in a run in which everything works. -/
theorem runAgent_agrees_iff_directory :
    (∃ final, announced (directoryRun (.ok ([], []))).1 = [final] ∧
      Agrees (directoryRun (.ok ([], []))).1 final 0)
      ↔ AgreementCondition (directoryRun (.ok ([], []))).1 := by
  have hrun : Runs (templateManager.runAgent {} {}) .error (directoryRun (.ok ([], []))).1
      (.ok { out := "OK" }) .success := runs_play _ _ _
  exact runAgent_agrees_iff hrun

/-- If the working directory cannot be created, the entrypoint is run all the same: the update returns
the code of `mkdir` and announces a success. -/
theorem runAgent_disagrees :
    ¬ ∀ (manager : UpdateAgentManager) (agentArgs : Args) (notifier : StatusNotifier)
      (s s' : FinalStatus) (t : List WorkerEvent) (result : ProcessResult),
      Runs (manager.runAgent agentArgs notifier) s t (.ok result) s' →
      ∃ final, announced t = [final] ∧ Agrees t final result.code := by
  intro h
  have hrun : Runs (templateManager.runAgent {} {}) .error
      (directoryRun (.error (.calledProcessError 1 none "exit status 1"))).1
      (.ok { code := 1, out := "ERROR (exit code 1, details in update-debian.log)" }) .success :=
    runs_play _ _ _
  obtain ⟨final, hannounced, hagrees⟩ := h _ _ _ _ _ _ _ hrun
  have hsuccess : announced (directoryRun (.error (.calledProcessError 1 none "exit status 1"))).1
      = [.success] := by rfl
  rw [hsuccess] at hannounced
  cases hannounced
  cases hagrees.success rfl

/-! ## Negative exit codes -/

/-- A sequence of merges is truthy exactly if one of the results is, unless only negative codes make
results truthy: these are absorbed by the start value. -/
theorem accumulate_toBool_iff_exists_iff (operands : List (ProcessResult.MergeOp × ProcessResult)) :
    ((ProcessResult.accumulate {} operands).toBool = true
        ↔ ∃ operand ∈ operands, operand.2.toBool = true)
      ↔ ((∃ operand ∈ operands, operand.2.code < 0) → ∃ operand ∈ operands, 0 < operand.2.code) := by
  have htruthy : (∃ operand ∈ operands, operand.2.toBool = true) ↔
      (∃ operand ∈ operands, operand.2.code < 0) ∨ ∃ operand ∈ operands, 0 < operand.2.code := by
    rw [← exists_or]
    refine exists_congr fun operand => ?_
    rw [← and_or_left, ProcessResult.toBool_iff, ne_iff_lt_or_gt]
  rw [ProcessResult.accumulate_toBool_iff, htruthy]
  constructor
  · intro h hneg
    exact h.mpr (Or.inl hneg)
  · intro h
    exact ⟨Or.inr, fun hor => hor.elim h id⟩

/-- An entrypoint that ends with an error code is reported as a failure exactly if the code is not
negative. -/
theorem runEntrypoint_failure_iff {qconn : QubeConnection} {entrypoint : Entrypoint} {c : Int}
    (h : Runs (UpdateAgentManager.runEntrypoint qconn entrypoint agentArgs) s t (.ok result) s')
    (hexit : commands t = [(.entrypoint, .exited c)]) (hzero : c ≠ 0) (hhundred : c ≠ 100) :
    (result.code ≠ 0 ∧ (s' = .success → s = .success)) ↔ 0 ≤ c := by
  obtain ⟨o, hcommands, hcode, rfl⟩ := UpdateAgentManager.runs_runEntrypoint h
  rw [hexit] at hcommands
  cases hcommands
  have hoc : (Outcome.exited c).code = c := if_neg hhundred
  have hos : (Outcome.exited c).status s = s := if_neg hhundred
  rw [hcode, UpdateAgentManager.entrypointStatus, hoc, hos]
  constructor
  · rintro ⟨hne, -⟩
    omega
  · intro hc
    -- a positive code is never taken for a success
    have hpos : ¬ (c ≤ 0 ∧ s ≠ .noUpdates) := fun hle => hzero (le_antisymm hle.1 hc)
    rw [if_neg hpos]
    exact ⟨by omega, id⟩

/-- Merging keeps failures and the entrypoint of dom0 reports its failures except where a code is
negative, as that of a process killed by a signal is. -/
theorem merge_and_entrypoint_failure_iff
    (operands : List (ProcessResult.MergeOp × ProcessResult)) (qconn : QubeConnection)
    (entrypoint : Entrypoint) (agentArgs : Args) (s s' : FinalStatus) (t : List WorkerEvent)
    (result : ProcessResult) (c : Int) :
    (((ProcessResult.accumulate {} operands).toBool = true
          ↔ ∃ operand ∈ operands, operand.2.toBool = true)
        ↔ ((∃ operand ∈ operands, operand.2.code < 0) →
            ∃ operand ∈ operands, 0 < operand.2.code)) ∧
    (Runs (UpdateAgentManager.runEntrypoint qconn entrypoint agentArgs) s t (.ok result) s' →
      commands t = [(.entrypoint, .exited c)] → c ≠ 0 → c ≠ 100 →
      ((result.code ≠ 0 ∧ (s' = .success → s = .success)) ↔ 0 ≤ c)) :=
  ⟨accumulate_toBool_iff_exists_iff operands, runEntrypoint_failure_iff⟩

/-- The connection to dom0. -/
def dom0Connection : QubeConnection := ⟨⟨"dom0", .adminVM, by decide⟩, none, false, false, {}⟩

/-- Running `qubes-dom0-update` with a given exit code. -/
def dom0Run (code : Int) : List WorkerEvent × Except PyException ProcessResult × FinalStatus :=
  play (cannedEnvironment (.ok ([], [])) (.ok ([], [])) code)
    (UpdateAgentManager.runEntrypoint dom0Connection (.commandLine ["sudo", "qubes-dom0-update", "-y"])
      {}) .error

/-- The characterisation for a failed and a killed command, and for an update of dom0 that exits
with 1. -/
theorem merge_and_entrypoint_failure_iff_dom0 :
    (((ProcessResult.accumulate {} [(.iadd, { code := 1 }), (.add, { code := -9 })]).toBool = true
          ↔ ∃ operand ∈ [(ProcessResult.MergeOp.iadd, ({ code := 1 } : ProcessResult)),
              (.add, { code := -9 })], operand.2.toBool = true)
        ↔ ((∃ operand ∈ [(ProcessResult.MergeOp.iadd, ({ code := 1 } : ProcessResult)),
              (.add, { code := -9 })], operand.2.code < 0) →
            ∃ operand ∈ [(ProcessResult.MergeOp.iadd, ({ code := 1 } : ProcessResult)),
              (.add, { code := -9 })], 0 < operand.2.code)) ∧
    (((1 : Int) ≠ 0 ∧ (FinalStatus.error = .success → FinalStatus.error = .success)) ↔
      (0 : Int) ≤ 1) := by
  have hrun : Runs (UpdateAgentManager.runEntrypoint dom0Connection
      (.commandLine ["sudo", "qubes-dom0-update", "-y"]) {}) .error (dom0Run 1).1
      (.ok { code := 1 }) .error := runs_play _ _ _
  have hall := merge_and_entrypoint_failure_iff
    [(.iadd, { code := 1 }), (.add, { code := -9 })] dom0Connection
    (.commandLine ["sudo", "qubes-dom0-update", "-y"]) {} .error .error (dom0Run 1).1
    { code := 1 } 1
  exact ⟨hall.1, hall.2 hrun rfl (by decide) (by decide)⟩

/-- An update of dom0 that is killed by a signal has code 0 and status SUCCESS. -/
theorem killed_entrypoint_succeeds :
    (¬ ∀ operands : List (ProcessResult.MergeOp × ProcessResult),
      (ProcessResult.accumulate {} operands).toBool = true
        ↔ ∃ operand ∈ operands, operand.2.toBool = true) ∧
    commands (dom0Run (-9)).1 = [(.entrypoint, .exited (-9))] ∧
    (dom0Run (-9)).2 = (.ok {}, .success) := by
  refine ⟨fun h => ?_, rfl, rfl⟩
  have hkilled := (h [(.iadd, { code := -9 })]).mpr ⟨_, List.mem_singleton_self _, by decide⟩
  exact absurd hkilled (by decide)

end QubesAdminLinux
