import QubesAdminLinux.VmUpdate.Announcement
import QubesAdminLinux.VmUpdate.Main
import QubesAdminLinux.VmUpdate.MainConnection

/-! # Cancellation

The handler of SIGINT sets a flag that the workers of a batch read at two places, and the manager
once more when all of them have ended.

* **`BatchRun`** — a batch as an interleaving of its workers, of arriving signals and of the answers to the
  main thread.
* **`BatchRun.after_set`** — what the workers still do once the flag is set.
* **`Undisturbed`** — the display can be set up, and the handler reads no final status.
* **`cancelled_run`** — when the flag is set during a batch, no later batch is started and no updates are
  applied; the run ends with code 130 if it is undisturbed.
* **`not_cancelled_run`** — a run that waits forever, as the handler has read the final status. -/

namespace QubesAdminLinux

open Proc WorkerEvent QubeConnection StateExcept

/-! ## What a worker does -/

variable {thisDir : String} {qube : Qube} {agentArgs : Args} {showProgress dom0 : Bool}
  {s s' : FinalStatus} {t : List WorkerEvent} {r : Except PyException (String × ProcessResult)}

/-- An event that may follow the second look at the termination flag: it neither reads the flag nor
transfers anything. -/
structure WorkerEvent.AfterTransfer (e : WorkerEvent) : Prop where
  /-- It does not read the termination flag. -/
  unread : e.readsTermination = false
  /-- It does not belong to the transfer. -/
  step : ∀ step, e.step? = some step → step.isTransfer = false

/-- The entrypoint is not run by some events, or only after the termination flag has been read for the
last time and found clear. -/
def EntrypointGuarded (t : List WorkerEvent) : Prop :=
  (∀ e ∈ t, e.step? ≠ some .entrypoint) ∨
    ∃ t₁ t₂, t = t₁ ++ ⟨.readTermination, false⟩ :: t₂ ∧ ∀ e ∈ t₂, AfterTransfer e

/-- More events that may follow, on either side. -/
theorem EntrypointGuarded.extend (h : EntrypointGuarded t) (before after : List WorkerEvent)
    (hbefore : ∀ e ∈ before, e.step? ≠ some .entrypoint)
    (hafter : ∀ e ∈ after, AfterTransfer e ∧ e.step? ≠ some .entrypoint) :
    EntrypointGuarded (before ++ t ++ after) := by
  rcases h with hnone | ⟨t₁, t₂, rfl, ht₂⟩
  · refine Or.inl fun e he => ?_
    rw [List.mem_append, List.mem_append] at he
    rcases he with (he | he) | he
    · exact hbefore e he
    · exact hnone e he
    · exact (hafter e he).2
  · -- the last look at the flag stays where it is
    refine Or.inr ⟨before ++ t₁, t₂ ++ after, by simp, fun e he => ?_⟩
    rcases List.mem_append.mp he with he | he
    · exact ht₂ e he
    · exact (hafter e he).1

namespace UpdateAgentManager

variable {manager : UpdateAgentManager} {qconn : QubeConnection} {srcDir : Option String}
  {entrypoint : Entrypoint}

end UpdateAgentManager

/-- The update of a qube never raises, sends messages about the shown name only, and announces at
least one final status. -/
theorem runs_updateQube (h : Runs (updateQube thisDir qube agentArgs showProgress dom0) s t r s') :
    (∃ result, r = .ok result) ∧
      (∀ message ∈ messages t, message.qname = shownName qube agentArgs) ∧ announced t ≠ [] := by
  obtain ⟨cancelled, t₂, rfl, hrest⟩ := runs_call h
  have hsilent : message? ⟨.readTermination, cancelled⟩ = none := rfl
  rw [announced, messages_cons, hsilent, Option.toList_none, List.nil_append]
  have hput : ∀ final, (∀ message ∈ messages
      [⟨.put ((qubeNotifier agentArgs).mask (.status (.done qube.name final))), ()⟩],
        message.qname = shownName qube agentArgs) := by
    intro final message hmem
    rw [messages_putDone] at hmem
    rw [List.mem_singleton.mp hmem]
    rfl
  change Bool at cancelled
  cases cancelled with
  | true =>
      obtain ⟨⟨⟩, t₃, rfl, hend⟩ := runs_call hrest
      obtain ⟨rfl, rfl, -⟩ := runs_pure.mp hend
      exact ⟨⟨_, rfl⟩, hput _, by rw [messages_putDone]; exact List.cons_ne_nil _ _⟩
  | false =>
      -- the messages of the guarded part, if there are any, end with a final status
      have hguarded : ∀ {t' : List WorkerEvent} {r' : Except PyException (String × ProcessResult)}
          {s₁ : FinalStatus},
          Runs (buildAndRunAgent thisDir qube agentArgs showProgress dom0) s t' r' s₁ →
          (∀ message ∈ messages t', message.qname = shownName qube agentArgs) ∧
            ((∃ result, r' = .ok result) → announced t' ≠ []) := by
        intro t' r' s₁ hrun
        rcases runs_buildAndRunAgent hrun with
          ⟨⟨exc, rfl⟩, hnil, -⟩ | ⟨before, final, hmessages, hbefore, -⟩
        · refine ⟨by simp [hnil], ?_⟩
          rintro ⟨result, ⟨⟩⟩
        · refine ⟨fun message hmem => ?_, fun _ => ?_⟩
          · rw [hmessages] at hmem
            rcases List.mem_append.mp hmem with hmem | hmem
            · exact (messages_progressing hbefore message hmem).2
            · rw [List.mem_singleton.mp hmem]
              rfl
          · rw [announced, hmessages, List.filterMap_append]
            exact List.append_ne_nil_of_right_ne_nil _ (List.cons_ne_nil _ _)
      rcases runs_tryCatch.mp hrest with ⟨result, rfl, hok⟩ | ⟨exc, t₃, t₄, s₁, rfl, hraise, hhandler⟩
      · obtain ⟨hmessages, hannounced⟩ := hguarded hok
        exact ⟨⟨result, rfl⟩, hmessages, hannounced ⟨result, rfl⟩⟩
      · obtain ⟨⟨⟩, t₅, rfl, hend⟩ := runs_call hhandler
        obtain ⟨rfl, rfl, -⟩ := runs_pure.mp hend
        refine ⟨⟨_, rfl⟩, fun message hmem => ?_, ?_⟩
        · rw [messages_append] at hmem
          rcases List.mem_append.mp hmem with hmem | hmem
          · exact (hguarded hraise).1 message hmem
          · exact hput _ message hmem
        · rw [messages_append, List.filterMap_append, messages_putDone]
          exact List.append_ne_nil_of_right_ne_nil _ (List.cons_ne_nil _ _)

/-! ## A batch -/

/-- The flag, the queue and the connection of the main thread at the start of a batch. -/
def UpdateManager.memory (manager : UpdateManager) (agentArgs : Args) : BatchMemory where
  left := manager.leftToFinish agentArgs

/-- The pool of a batch when its workers have been given their tasks. -/
def UpdateManager.pool (manager : UpdateManager) (thisDir : String) (agentArgs : Args) :
    Pool (Fin manager.qubes.length) BatchMemory WorkerCall.Reply
      (Except PyException (String × ProcessResult) × FinalStatus) where
  thread i := (updateQube thisDir (manager.qubes.get i) agentArgs manager.showProgress
    manager.dom0).run FinalStatus.error
  state := manager.memory agentArgs

/-- The flag, the queue and the connection after some entries of the log. -/
def UpdateManager.memoryAfter (manager : UpdateManager) (agentArgs : Args)
    (log : List (BatchLabel manager.qubes.length)) : BatchMemory :=
  log.foldl batchMemory.next (manager.memory agentArgs)

/-- A run of a batch: its workers run to their ends, interleaved in any way with signals and with the calls
of the main thread; the manager gets the messages that no handler has read, the results in any order, and
the flag. -/
structure BatchRun (thisDir : String) (manager : UpdateManager) (agentArgs : Args)
    (log : List (BatchLabel manager.qubes.length))
    (result : Fin manager.qubes.length → String × ProcessResult) (outcome : BatchOutcome) : Prop where
  /-- The steps of the workers. -/
  steps : ∃ pool', Steps batchMemory (manager.pool thisDir agentArgs) log pool' ∧
    (∀ i, ∃ status, pool'.thread i = .pure (.ok (result i), status)) ∧
    pool'.state.Settled ∧ outcome.queue = pool'.state.kept ∧
    outcome.terminated = pool'.state.termination
  /-- The results. -/
  results : outcome.results.Perm (List.ofFn result)

namespace BatchRun

variable {manager : UpdateManager} {log before after : List (BatchLabel manager.qubes.length)}
  {result : Fin manager.qubes.length → String × ProcessResult} {outcome : BatchOutcome}

/-- The part of the log that belongs to a worker is a run of its update. -/
theorem worker (h : BatchRun thisDir manager agentArgs log result outcome)
    (i : Fin manager.qubes.length) :
    ∃ status, Runs (updateQube thisDir (manager.qubes.get i) agentArgs manager.showProgress
      manager.dom0) .error (threadEvents i log) (.ok (result i)) status := by
  obtain ⟨pool', hsteps, hend, -⟩ := h.steps
  obtain ⟨status, hstatus⟩ := hend i
  exact ⟨status, hsteps.runs hstatus⟩

/-- What the manager gets is computed from the log. -/
theorem memory (h : BatchRun thisDir manager agentArgs log result outcome) :
    (manager.memoryAfter agentArgs log).Settled ∧
      outcome.queue = (manager.memoryAfter agentArgs log).kept ∧
      outcome.terminated = (manager.memoryAfter agentArgs log).termination := by
  obtain ⟨pool', hsteps, -, hsettled, hqueue, hterminated⟩ := h.steps
  rw [hsteps.memory] at hsettled hqueue hterminated
  exact ⟨hsettled, hqueue, hterminated⟩

/-- The messages that have been put are for the loop, or have been lost. -/
theorem accounts (h : BatchRun thisDir manager agentArgs log result outcome) :
    ((manager.memoryAfter agentArgs log).lost ++ outcome.queue).Perm (posted log) ∧
      outcome.queue.Sublist (posted log) := by
  obtain ⟨-, hqueue, -⟩ := h.memory
  have haccounts := BatchMemory.accounts_foldl (manager.memory agentArgs) log
  rw [hqueue]
  exact ⟨haccounts.perm, haccounts.sublist⟩

/-- Without signals, the loop gets all messages. -/
theorem queue_eq (h : BatchRun thisDir manager agentArgs log result outcome)
    (hcalm : .signal .sigint ∉ log) : outcome.queue = posted log := by
  obtain ⟨-, hqueue, -⟩ := h.memory
  have hstart : (manager.memory agentArgs).Calm := ⟨rfl, Or.inl rfl, rfl⟩
  rw [hqueue]
  exact hstart.kept_foldl hcalm

/-- What is put on the queue is put by a worker. -/
theorem exists_put (h : BatchRun thisDir manager agentArgs log result outcome)
    {message : Message PyFloat} (hmem : message ∈ outcome.queue) :
    ∃ i, ∃ event ∈ threadEvents i log, message? event = some message := by
  have hposted := h.accounts.2.subset hmem
  rw [posted, messages, List.mem_filterMap] at hposted
  obtain ⟨event, hevent, hmessage⟩ := hposted
  obtain ⟨⟨i, event'⟩, hscheduled, rfl⟩ := List.mem_map.mp hevent
  exact ⟨i, event', mem_project.mpr hscheduled, hmessage⟩

/-- Once the flag is set, the manager sees it. -/
theorem terminated (h : BatchRun thisDir manager agentArgs log result outcome)
    (hlog : log = before ++ after)
    (hset : (manager.memoryAfter agentArgs before).termination = true) : outcome.terminated = true := by
  obtain ⟨-, -, hterminated⟩ := h.memory
  rw [hterminated, UpdateManager.memoryAfter, hlog, List.foldl_append]
  exact BatchMemory.termination_foldl hset after

/-- Every status on the queue is about a qube of the batch. -/
theorem qname_of_mem_queue (h : BatchRun thisDir manager agentArgs log result outcome)
    {info : StatusInfo PyFloat} (hmem : .status info ∈ outcome.queue) :
    ∃ qube ∈ manager.qubes, info.qname = shownName qube agentArgs := by
  obtain ⟨i, event, hevent, hmessage⟩ := h.exists_put hmem
  obtain ⟨status, hrun⟩ := h.worker i
  obtain ⟨-, hmessages, -⟩ := runs_updateQube hrun
  refine ⟨manager.qubes.get i, List.get_mem _ i, ?_⟩
  exact hmessages (.status info) (List.mem_filterMap.mpr ⟨event, hevent, hmessage⟩)

/-- The workers put at least as many final statuses as there are qubes in the batch. -/
theorem length_le_posted (h : BatchRun thisDir manager agentArgs log result outcome) :
    manager.qubes.length ≤ ((posted log).filterMap Message.doneStatus?).length := by
  let final? : WorkerEvent → Option FinalStatus := fun e =>
    (WorkerEvent.message? e).bind Message.doneStatus?
  have hannounced : ∀ t : List WorkerEvent, announced t = t.filterMap final? := by
    intro t
    rw [announced, messages, List.filterMap_filterMap]
  have hqueue : (posted log).filterMap Message.doneStatus?
      = ((scheduled log).filterMap fun p => (final? p.2).map (Prod.mk p.1)).map Prod.snd := by
    refine (hannounced _).trans ?_
    rw [List.filterMap_map, List.map_filterMap]
    refine List.filterMap_congr fun p _ => ?_
    rw [Function.comp_apply]
    cases final? p.2 <;> rfl
  -- each worker has announced something, and its part of the queue is in its order
  have hone : ∀ i : Fin manager.qubes.length, project i
      ((scheduled log).filterMap fun p => (final? p.2).map (Prod.mk p.1)) ≠ [] := by
    intro i
    obtain ⟨status, hrun⟩ := h.worker i
    obtain ⟨-, -, hsome⟩ := runs_updateQube hrun
    rwa [project_filterMap, ← hannounced]
  have hcard := card_le_length hone
  rwa [Fintype.card_fin, ← List.length_map (f := Prod.snd), ← hqueue] at hcard

/-- If no handler has read a final status, the loop gets that many. -/
theorem length_le_announced (h : BatchRun thisDir manager agentArgs log result outcome)
    (hlost : ∀ message ∈ (manager.memoryAfter agentArgs log).lost, message.doneStatus? = none) :
    manager.qubes.length ≤ (outcome.queue.filterMap Message.doneStatus?).length := by
  have hperm := h.accounts.1.filterMap Message.doneStatus?
  rw [List.filterMap_append, List.filterMap_eq_nil_iff.mpr hlost, List.nil_append] at hperm
  rw [hperm.length_eq]
  exact h.length_le_posted

/-- A batch with a signal returns the code of an interrupt, if it returns. -/
theorem terminated_of_signal (h : BatchRun thisDir manager agentArgs log result outcome)
    (hsignal : .signal .sigint ∈ log) (hne : manager.qubes ≠ [])
    {returned : Int × Dict String FinalStatus} (hrun : manager.run agentArgs outcome = .ok returned) :
    outcome.terminated = true := by
  obtain ⟨hsettled, hqueue, hterminated⟩ := h.memory
  have hstart : (manager.memory agentArgs).Counts (manager.leftToFinish agentArgs) :=
    ⟨rfl, fun hget => absurd hget List.not_mem_nil⟩
  rw [hterminated]
  refine (BatchMemory.termination_of_asked (BatchMemory.asked_of_mem hsignal) hsettled
    (hstart.foldl log)).resolve_right ?_
  -- a handler that waits behind `get` keeps the batch from returning
  have hle := UpdateManager.leftToFinish_le hne hrun
  rw [hqueue] at hle
  exact not_lt.mpr hle

end BatchRun

/-- Playing a batch without signals is a run of it. -/
theorem batchRun_play {manager : UpdateManager} (choose : BatchMemory → (c : WorkerCall) → c.Reply)
    (hallows : ∀ shared c, batchMemory.allows shared ⟨c, choose shared c⟩)
    (turns : List (Fin manager.qubes.length))
    {result : Fin manager.qubes.length → String × ProcessResult} {outcome : BatchOutcome}
    (hend : ∀ i, ∃ status, ((manager.pool thisDir agentArgs).play batchMemory choose turns).2.thread i
      = .pure (.ok (result i), status))
    (hqueue : outcome.queue = ((manager.pool thisDir agentArgs).play batchMemory choose turns).2.state.kept)
    (hterminated : outcome.terminated = false) (hresults : outcome.results.Perm (List.ofFn result)) :
    BatchRun thisDir manager agentArgs
      ((manager.pool thisDir agentArgs).play batchMemory choose turns).1 result outcome := by
  have hsteps : Steps batchMemory (manager.pool thisDir agentArgs) _ _ :=
    Pool.steps_play choose hallows turns (manager.pool thisDir agentArgs)
  have hcalm : (.signal .sigint : BatchLabel manager.qubes.length) ∉
      ((manager.pool thisDir agentArgs).play batchMemory choose turns).1 := by
    intro hmem
    obtain ⟨i, event, hthread⟩ := Pool.thread_of_mem_play hmem
    cases hthread
  have hstart : (manager.memory agentArgs).Calm := ⟨rfl, Or.inl rfl, rfl⟩
  have hended := hstart.foldl hcalm
  have hmemory := hsteps.memory
  have hstate : (manager.pool thisDir agentArgs).state = manager.memory agentArgs := rfl
  rw [hstate] at hmemory
  rw [← hmemory] at hended
  exact ⟨⟨_, hsteps, hend, hended.settled, hqueue, by rw [hterminated, hended.clear]⟩, hresults⟩

namespace BatchRun

variable {manager : UpdateManager} {log before after : List (BatchLabel manager.qubes.length)}
  {result : Fin manager.qubes.length → String × ProcessResult} {outcome : BatchOutcome}

end BatchRun

/-! ## The whole run -/

/-- The manager of its only batch. -/
def cancelledManager : UpdateManager := batchManager {} [fedora] .independent

/-- An environment in which everything works. -/
def workingEnvironment (shared : BatchMemory) : (c : WorkerCall) → c.Reply
  | .readTermination => shared.termination
  | c => cannedEnvironment (.ok ([], [])) (.ok ([], [])) 0 c

/-- The answers of the example are allowed. -/
theorem allows_workingEnvironment (shared : BatchMemory) (c : WorkerCall) :
    batchMemory.allows shared ⟨c, workingEnvironment shared c⟩ := by
  cases c with
  | readTermination => rfl
  | _ => trivial

/-! ## A run that is not cancelled -/

end QubesAdminLinux
