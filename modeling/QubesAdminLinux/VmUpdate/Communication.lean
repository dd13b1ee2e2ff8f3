import QubesAdminLinux.VmUpdate.BatchCode
import QubesAdminLinux.VmUpdate.Cancellation

/-! # Interrupted communication

The exit code 40 stands for a qube that could not be talked to.  It is returned if a qube has the
status UNKNOWN at the end, and no worker ever announces this status.

* **`CommunicationFails`** — talking to a qube has failed at some step of its update.
* **`MultipleUpdateMultipleProgressBar.statuses_feeding`** — the statuses of a batch have been announced
  on its queue.
* **`BatchRun.run_ne_errQrexex`** — no batch returns the code 40.
* **`run_reports_iff`** — a batch in which talking to a qube fails does not report it. -/

namespace QubesAdminLinux

open Proc WorkerEvent QubeConnection

/-! ## Statuses of a display -/

namespace MultipleUpdateMultipleProgressBar

variable {ν : Type} {bars bars' : MultipleUpdateMultipleProgressBar ν} {q qname : String}
  {final : FinalStatus}

/-- Describing a bar does not change the statuses. -/
theorem statuses_describe {statusName : String} (h : bars.describe qname statusName = .ok bars') :
    bars'.statuses = bars.statuses := by
  rw [describe] at h
  split at h
  · cases h
  · rw [← Except.ok.inj h]
    rfl

variable [Zero ν] [Add ν] [Sub ν]

/-- Nor does updating it. -/
theorem statuses_update {value : ν} (h : bars.update qname value = .ok bars') :
    bars'.statuses = bars.statuses := by
  rw [update] at h
  split at h
  · rw [← Except.ok.inj h]
    rfl
  · cases h

/-- A message only stores the status it announces. -/
theorem statuses_feed {message : Message ν} {finished : Bool}
    (h : bars.feed message = .ok (bars', finished)) (hget : bars'.statuses.get? q = some final) :
    bars.statuses.get? q = some final ∨ message.doneStatus? = some final := by
  cases message with
  | line formated =>
      obtain ⟨hbars, -⟩ := Prod.mk.inj (Except.ok.inj h)
      rw [← hbars, apply_ite statuses, ite_self] at hget
      exact Or.inl hget
  | status info =>
      cases info with
      | pending q' =>
          rw [feed] at h
          split at h
          · cases h
          · rename_i bars₁ hdescribe
            obtain ⟨rfl, -⟩ := Prod.mk.inj (Except.ok.inj h)
            rw [statuses_describe hdescribe] at hget
            exact Or.inl hget
      | updating q' percent =>
          rw [feed] at h
          split at h
          · cases h
          · rename_i bars₁ hdescribe
            split at h
            · cases h
            · rename_i bars₂ hupdate
              obtain ⟨rfl, -⟩ := Prod.mk.inj (Except.ok.inj h)
              rw [statuses_update hupdate, statuses_describe hdescribe] at hget
              exact Or.inl hget
      | done q' announced =>
          rw [feed, FinalStatus.ofValue?_value] at h
          dsimp only at h
          split at h
          · cases h
          · rename_i bars₁ hdescribe
            obtain ⟨rfl, -⟩ := Prod.mk.inj (Except.ok.inj h)
            rw [statuses_describe hdescribe, storeStatus, Dict.get?_set] at hget
            split at hget
            · exact Or.inr hget
            · exact Or.inl hget

/-- The loop only stores statuses from the queue. -/
theorem statuses_feedingLoop {left : Nat} {queue rest : List (Message ν)}
    (h : bars.feedingLoop left queue = .returned bars' rest)
    (hget : bars'.statuses.get? q = some final) :
    bars.statuses.get? q = some final ∨ ∃ message ∈ queue, message.doneStatus? = some final := by
  induction queue generalizing bars left with
  | nil =>
      cases left with
      | zero =>
          cases h
          exact Or.inl hget
      | succ left => cases h
  | cons message queue ih =>
      cases left with
      | zero =>
          cases h
          exact Or.inl hget
      | succ left =>
          rw [feedingLoop] at h
          split at h
          · cases h
          · rename_i bars₁ finished hfeed
            rcases ih h with hbars₁ | ⟨message', hmem, hdone⟩
            · rcases statuses_feed hfeed hbars₁ with hbars | hdone
              · exact Or.inl hbars
              · exact Or.inr ⟨message, List.mem_cons_self, hdone⟩
            · exact Or.inr ⟨message', List.mem_cons_of_mem message hmem, hdone⟩

/-- What a display shows at the end has been shown before or was announced on the queue. -/
theorem statuses_feeding {queue rest : List (Message ν)}
    (h : bars.feeding queue = .returned bars' rest)
    (hget : bars'.statuses.get? q = some final) :
    bars.statuses.get? q = some final ∨ ∃ message ∈ queue, message.doneStatus? = some final := by
  rw [feeding] at h
  split at h
  · cases h
    exact Or.inl hget
  · exact statuses_feedingLoop h hget

end MultipleUpdateMultipleProgressBar

namespace UpdateManager

variable {manager : UpdateManager} {agentArgs : Args}
  {bars bars' : MultipleUpdateMultipleProgressBar PyFloat}

/-- Adding bars does not change the statuses. -/
theorem statuses_addQubes {qubes : List Qube}
    (h : manager.addQubes agentArgs bars qubes = .ok bars') : bars'.statuses = bars.statuses := by
  induction qubes generalizing bars with
  | nil => rw [← Except.ok.inj h]
  | cons qube rest ih =>
      rw [addQubes] at h
      split at h
      · cases h
      · rename_i bars₁ hadd
        rw [ih h]
        cases hdummy : bars.dummy with
        | false =>
            rcases addQube_eq_ok hdummy hadd with rfl | ⟨bar, -, rfl⟩
            · rfl
            · rfl
        | true =>
            rw [addQube, MultipleUpdateMultipleProgressBar.addBar, if_pos hdummy] at hadd
            dsimp only at hadd
            split at hadd
            · split at hadd
              · cases hadd
              · rw [← Except.ok.inj hadd]
                rfl
            · rw [← Except.ok.inj hadd]

end UpdateManager

/-! ## Batches -/

variable {thisDir : String} {agentArgs : Args}

/-- No worker announces the status UNKNOWN. -/
theorem known_of_mem_announced {qube : Qube} {showProgress dom0 : Bool} {s s' : FinalStatus}
    {t : List WorkerEvent} {r : Except PyException (String × ProcessResult)}
    (h : Runs (updateQube thisDir qube agentArgs showProgress dom0) s t r s') {final : FinalStatus}
    (hfinal : final ∈ announced t) : final.Known := by
  obtain ⟨progress, finals, hmessages, hprogress, hknown, -⟩ := messages_updateQube h
  rw [announced, hmessages, List.filterMap_append, List.mem_append] at hfinal
  rcases hfinal with hfinal | hfinal
  · obtain ⟨message, hmem, hdone⟩ := List.mem_filterMap.mp hfinal
    rw [(hprogress message hmem).1] at hdone
    cases hdone
  · obtain ⟨message, hmem, hdone⟩ := List.mem_filterMap.mp hfinal
    obtain ⟨final', hfinal', rfl⟩ := List.mem_map.mp hmem
    rw [Message.doneStatus?_done] at hdone
    rw [← Option.some.inj hdone]
    exact hknown final' hfinal'

namespace BatchRun

variable {manager : UpdateManager} {log : List (BatchLabel manager.qubes.length)}
  {result : Fin manager.qubes.length → String × ProcessResult} {outcome : BatchOutcome}

/-- What is announced on the queue is announced by a worker. -/
theorem known_of_mem_queue (h : BatchRun thisDir manager agentArgs log result outcome)
    {message : Message PyFloat} (hmem : message ∈ outcome.queue) {final : FinalStatus}
    (hdone : message.doneStatus? = some final) : final.Known := by
  obtain ⟨i, event, hevent, hmessage⟩ := h.exists_put hmem
  obtain ⟨status, hrun⟩ := h.worker i
  refine known_of_mem_announced hrun (List.mem_filterMap.mpr ⟨message, ?_, hdone⟩)
  exact List.mem_filterMap.mpr ⟨event, hevent, hmessage⟩

/-- No batch has a qube with the status UNKNOWN. -/
theorem known_of_run (h : BatchRun thisDir manager agentArgs log result outcome) {code : Int}
    {statuses : Dict String FinalStatus}
    (hrun : manager.run agentArgs outcome = .ok (code, statuses)) : .unknown ∉ statuses.values := by
  intro hunknown
  obtain ⟨q, hget⟩ := (Dict.mem_values statuses _).mp hunknown
  rw [UpdateManager.run] at hrun
  split at hrun
  · -- an empty batch has no status at all
    rw [← (Prod.mk.inj (Except.ok.inj hrun)).2] at hget
    cases hget
  · split at hrun
    · cases hrun
    · rename_i bars hsetUp
      split at hrun
      · cases hrun
      · cases hrun
      · rename_i bars' rest hfeeding
        rw [← (Prod.mk.inj (Except.ok.inj hrun)).2] at hget
        have hempty : bars.statuses = Dict.empty := UpdateManager.statuses_addQubes hsetUp
        rcases MultipleUpdateMultipleProgressBar.statuses_feeding hfeeding hget with
          hbars | ⟨message, hmem, hdone⟩
        · rw [hempty] at hbars
          cases hbars
        · exact h.known_of_mem_queue hmem hdone rfl

/-- So no batch returns the code 40. -/
theorem run_ne_errQrexex (h : BatchRun thisDir manager agentArgs log result outcome)
    (hcode : manager.retCode = Exit.ok) (statuses : Dict String FinalStatus) :
    manager.run agentArgs outcome ≠ .ok (Exit.errQrexex, statuses) := by
  intro hrun
  have hunknown := h.known_of_run hrun
  by_cases hqubes : manager.qubes = []
  · rw [UpdateManager.run, if_pos hqubes] at hrun
    cases hrun
  · have hfinal := UpdateManager.run_eq_ok hqubes hcode hrun
    have hbounds := UpdateManager.collectedCode_bounds outcome.results
    cases hterminated : outcome.terminated with
    | true =>
        rw [hterminated, UpdateManager.finalCode_terminated] at hfinal
        cases hfinal
    | false =>
        rw [hterminated, UpdateManager.finalCode_eq hbounds.2, if_neg hunknown] at hfinal
        simp only [Exit.errQrexex, Exit.sigint, Exit.err] at hfinal
        split at hfinal
        · cases hfinal
        · split at hfinal <;> omega

end BatchRun

/-- Whether an exception may be one of `qubesadmin`. -/
def PyException.isQubesException : PyException → Bool
  | .qubesVMError _ | .qubesDaemonAccessError _ | .other _ => true
  | _ => false

/-- Talking to a qube raises: running a command, copying the archive or starting the agent. -/
def WorkerEvent.communicationFails : WorkerEvent → Prop
  | ⟨.runWithArgs _, .error exc⟩ => exc.isQubesException = true
  | ⟨.copyArchive _, .error exc⟩ => exc.isQubesException = true
  | ⟨.runService _ _, .error exc⟩ => exc.isQubesException = true
  | _ => False

/-- Talking to a qube of the batch has failed. -/
def CommunicationFails {n : Nat} (log : List (BatchLabel n)) : Prop :=
  ∃ i, ∃ e ∈ threadEvents i log, communicationFails e

/-- A batch returns the code 40 whenever talking to a qube fails, if and only if it does not fail. -/
theorem run_reports_iff {thisDir : String} {qubes : List Qube} {args agentArgs : Args} {dom0 : Bool}
    {log : List (BatchLabel (UpdateManager.init qubes args dom0).qubes.length)}
    {result : Fin (UpdateManager.init qubes args dom0).qubes.length → String × ProcessResult}
    {outcome : BatchOutcome}
    (h : BatchRun thisDir (UpdateManager.init qubes args dom0) agentArgs log result outcome) :
    (CommunicationFails log → ∃ statuses, (UpdateManager.init qubes args dom0).run agentArgs outcome
        = .ok (Exit.errQrexex, statuses)) ↔ ¬ CommunicationFails log := by
  constructor
  · intro hreports hfails
    obtain ⟨statuses, hrun⟩ := hreports hfails
    exact h.run_ne_errQrexex rfl statuses hrun
  · intro hfine hfails
    exact absurd hfails hfine

/-- An environment in which no agent can be started. -/
def lostEnvironment (shared : BatchMemory) : (c : WorkerCall) → c.Reply
  | .readTermination => shared.termination
  | .runService _ _ => .error (.other "Got empty response from qubesd")
  | c => cannedEnvironment (.ok ([], [])) (.ok ([], [])) 0 c

/-- The answers of the example are allowed. -/
theorem allows_lostEnvironment (shared : BatchMemory) (c : WorkerCall) :
    batchMemory.allows shared ⟨c, lostEnvironment shared c⟩ := by
  cases c with
  | readTermination => rfl
  | _ => trivial

/-- The manager of a batch of one template. -/
def lostManager : UpdateManager :=
  .init [⟨"fedora", .templateVM, templateVM_adminName "fedora"⟩] {} false

/-- The batch in this environment. -/
def lostBatch : List (BatchLabel lostManager.qubes.length) ×
    Pool (Fin lostManager.qubes.length) BatchMemory WorkerCall.Reply
      (Except PyException (String × ProcessResult) × FinalStatus) :=
  (lostManager.pool "/usr/lib/vmupdate" {}).play batchMemory lostEnvironment
    (List.replicate 15 ⟨0, by decide⟩)

/-- What the worker of this batch returns. -/
def lostResult : String × ProcessResult :=
  ("fedora", { code := 26, out := "ERROR (exception Got empty response from qubesd)" })

/-- What the batch leaves. -/
def lostOutcome : BatchOutcome where
  queue := [.status (.done "fedora" .error), .status (.done "fedora" .error)]
  results := [lostResult]
  terminated := false

/-- The example is a run of its batch. -/
theorem batchRun_lost :
    BatchRun "/usr/lib/vmupdate" lostManager {} lostBatch.1 (fun _ => lostResult) lostOutcome := by
  refine batchRun_play lostEnvironment allows_lostEnvironment _ (fun i => ?_) rfl rfl (List.Perm.refl _)
  have hi : i = ⟨0, by decide⟩ := Fin.ext (Nat.lt_one_iff.mp i.isLt)
  subst hi
  exact ⟨.error, rfl⟩

/-- A template whose agent cannot be started. -/
theorem run_reports_iff_lost :
    (CommunicationFails lostBatch.1 → ∃ statuses, lostManager.run {} lostOutcome
        = .ok (Exit.errQrexex, statuses)) ↔ ¬ CommunicationFails lostBatch.1 :=
  run_reports_iff batchRun_lost

/-- If the agent cannot be started, the code of an unhandled error is returned. -/
theorem communication_failure_unreported :
    (¬ ∀ (thisDir : String) (qubes : List Qube) (args agentArgs : Args) (dom0 : Bool)
      (log : List (BatchLabel (UpdateManager.init qubes args dom0).qubes.length))
      (result : Fin (UpdateManager.init qubes args dom0).qubes.length → String × ProcessResult)
      (outcome : BatchOutcome),
      BatchRun thisDir (UpdateManager.init qubes args dom0) agentArgs log result outcome →
      (∀ label ∈ log, label ≠ .signal .sigint) → CommunicationFails log →
      ∃ statuses, (UpdateManager.init qubes args dom0).run agentArgs outcome
        = .ok (Exit.errQrexex, statuses)) ∧
    (lostManager.run {} lostOutcome).map Prod.fst = .ok Exit.errVmUnhandled := by
  have hcode : (lostManager.run {} lostOutcome).map Prod.fst = .ok Exit.errVmUnhandled := by
    decide +kernel
  refine ⟨fun h => ?_, hcode⟩
  have hstarts : ∃ argv user, .thread ⟨0, by decide⟩ ⟨.runService argv user,
      .error (.other "Got empty response from qubesd")⟩ ∈ lostBatch.1 :=
    ⟨_, _, List.mem_of_getElem? (i := 8) rfl⟩
  obtain ⟨argv, user, hmem⟩ := hstarts
  have hfails : CommunicationFails lostBatch.1 :=
    ⟨⟨0, by decide⟩, _, mem_threadEvents.mpr hmem, rfl⟩
  have hcalm : ∀ label ∈ lostBatch.1, label ≠ .signal .sigint := by
    rintro label hlabel rfl
    obtain ⟨i, event, hthread⟩ := Pool.thread_of_mem_play hlabel
    cases hthread
  obtain ⟨statuses, hrun⟩ := h _ _ _ _ _ _ _ _ batchRun_lost hcalm hfails
  have hlost : lostManager.run {} lostOutcome = .ok (Exit.errQrexex, statuses) := hrun
  rw [hlost] at hcode
  cases hcode

end QubesAdminLinux
