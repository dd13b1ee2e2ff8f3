import QubesAdminLinux.VmUpdate.WorkerEvents

/-! # Rules for the statements of a connection

For each function of a connection: which events it emits (`emits_*`), after which replies it raises
(`failsOn_*`), and how its result and the status depend on the outcome of its command (`runs_*`).

* **`runs_runCommandAndWaitForOutput`, `runs_runEntrypoint`** — one command, its outcome, the code of
  the result and the new status.
* **`runs_readStreams`** — the ways in which reading the streams of a process ends.
* **`TransferRun`** — the runs of a transfer; **`runs_transferAgent`** — its result is an error exactly
  if one of its commands ended with a positive code.
* **`runs_withConnection`** — the `with` statement announces the status its body has left. -/

namespace QubesAdminLinux

open Proc WorkerEvent

variable {α : Type} {name : String} {steps : StepKind → Prop}

/-! ## Calls and messages -/

/-- The steps do not matter for the messages. -/
theorem emits_progressing {x : WorkerM α} (h : Emits (Within name fun _ => True) x) :
    Emits (Progressing name) x := h.mono fun _ h => h.progressing

/-- Quiet code is shown under any name. -/
theorem emits_quiet {x : WorkerM α} (h : Emits (Quiet fun _ => True) x) :
    Emits (Progressing name) x := h.mono fun _ h => h.progressing

/-- Passing on a reply makes no calls. -/
theorem emits_ofReply {P : WorkerEvent → Prop} (a : Except PyException α) :
    Emits P (ofReply a) := by
  cases a with
  | error exc => exact emits_throw
  | ok a => exact emits_pure

/-- A call that is followed by `f`. -/
theorem runs_call {c : WorkerCall} {f : c.Reply → WorkerM α} {s s' : FinalStatus}
    {t : List WorkerEvent} {r : Except PyException α} (h : Runs (call c >>= f) s t r s') :
    ∃ a t₂, t = ⟨c, a⟩ :: t₂ ∧ Runs (f a) s t₂ r s' := runs_request_bind.mp h

/-- A reply is passed on as it is. -/
theorem runs_ofReply {a r : Except PyException α} {s s' : FinalStatus} {t : List WorkerEvent} :
    Runs (ofReply a) s t r s' ↔ t = [] ∧ r = a ∧ s' = s := by
  cases a with
  | error exc => exact runs_throw
  | ok a => exact runs_pure

/-- A call whose exceptions all escape. -/
theorem failsOn_reply {P : WorkerEvent → Prop} (c : WorkerCall)
    (f : c.Reply → Except PyException α)
    (h : ∀ a, (∃ exc, f a = .error exc) ↔ P ⟨c, a⟩) :
    FailsOn P (call c >>= fun a => ofReply (f a)) := by
  intro s t r s' hrun
  obtain ⟨a, t₂, rfl, hreply⟩ := runs_call hrun
  obtain ⟨rfl, rfl, -⟩ := runs_ofReply.mp hreply
  rw [h a]
  simp

/-- A call whose exceptions all escape, followed by `g`. -/
theorem failsOn_reply_bind {β : Type} {P : WorkerEvent → Prop} (c : WorkerCall)
    (f : c.Reply → Except PyException α) (h : ∀ a, (∃ exc, f a = .error exc) ↔ P ⟨c, a⟩)
    {g : α → WorkerM β} (hg : ∀ a, FailsOn P (g a)) :
    FailsOn P (call c >>= fun a => ofReply (f a) >>= g) := by
  -- the call and the check of its reply form the first part of the sequence
  rw [← bind_assoc]
  exact failsOn_bind (failsOn_reply c f h) hg

/-- A message that is not final, under the name of the notifier. -/
theorem emits_put {notifier : StatusNotifier} {message : Message PyFloat}
    (hdone : message.doneStatus? = none) (hname : notifier.shown message.qname = name) :
    Emits (Within name steps) (notifier.put message) := by
  refine emits_request fun _ => ⟨rfl, ?_, fun step h => ?_⟩
  · rintro message' ⟨⟩
    rw [StatusNotifier.doneStatus?_mask, StatusNotifier.qname_mask]
    exact ⟨hdone, hname⟩
  · cases h

/-- Messages about the qube, none of them final. -/
theorem emits_putAll {notifier : StatusNotifier} {queue : List (Message PyFloat)}
    (h : ∀ message ∈ queue, message.doneStatus? = none ∧ notifier.shown message.qname = name) :
    Emits (Within name steps) (notifier.putAll queue) := by
  induction queue with
  | nil => exact emits_pure
  | cons message rest ih =>
      rw [List.forall_mem_cons] at h
      exact emits_bind (emits_put h.1.1 h.1.2) fun _ => ih h.2

/-- Messages raise only what gets out of the update. -/
theorem failsOn_putAll {notifier : StatusNotifier} {queue : List (Message PyFloat)} :
    FailsOn escapes (notifier.putAll queue) := by
  induction queue with
  | nil => exact failsOn_pure
  | cons message rest ih => exact failsOn_bind (failsOn_request fun _ h => h) fun _ => ih

/-- Putting messages runs no command and leaves the status alone. -/
theorem runs_putAll {notifier : StatusNotifier} {queue : List (Message PyFloat)}
    {s s' : FinalStatus} {t : List WorkerEvent} {r : Except PyException Unit}
    (h : Runs (notifier.putAll queue) s t r s') : commands t = [] ∧ s' = s := by
  induction queue generalizing t s with
  | nil =>
      obtain ⟨rfl, -, rfl⟩ := runs_pure.mp h
      exact ⟨rfl, rfl⟩
  | cons message rest ih =>
      obtain ⟨_, t₂, rfl, hrest⟩ := runs_call h
      obtain ⟨hnil, rfl⟩ := ih hrest
      exact ⟨by rw [commands_cons, hnil]; rfl, rfl⟩

/-! ## Reading the streams of an agent -/

/-- The reader of the error stream puts lines and percentages of its qube only. -/
theorem collectStderr_messages (qname : String) (progressFinished : Bool) (lines : List Bytes) :
    ∀ message ∈ (collectStderr qname progressFinished lines).1,
      message.doneStatus? = none ∧ message.qname = qname := by
  induction lines generalizing progressFinished with
  | nil => simp [collectStderr]
  | cons untrustedLine rest ih =>
      rw [collectStderr]
      by_cases hempty : sanitizeOutput untrustedLine true = ""
      · rw [if_pos hempty]
        exact ih progressFinished
      · rw [if_neg hempty]
        by_cases hfinished : progressFinished = true
        · rw [if_pos hfinished, List.forall_mem_cons]
          exact ⟨⟨rfl, rfl⟩, ih true⟩
        · rw [if_neg hfinished]
          -- an unfinished progress: the last word of the line decides, as a number or not
          cases readProgress (sanitizeOutput untrustedLine true) with
          | number progress =>
              rw [List.forall_mem_cons]
              exact ⟨⟨rfl, rfl⟩, ih _⟩
          | text =>
              rw [List.forall_mem_cons]
              exact ⟨⟨rfl, rfl⟩, ih false⟩
          | noWord => simp

/-- Whether the reader of the error stream raises does not depend on the name of the qube. -/
theorem collectStderr_raises (qname qname' : String) (progressFinished : Bool)
    (lines : List Bytes) :
    (collectStderr qname progressFinished lines).2
      = (collectStderr qname' progressFinished lines).2 := by
  induction lines generalizing progressFinished with
  | nil => rfl
  | cons untrustedLine rest ih =>
      rw [collectStderr, collectStderr]
      split
      · exact ih progressFinished
      · split
        · exact ih true
        · -- the verdict on the line is the same under both names
          cases readProgress (sanitizeOutput untrustedLine true) with
          | number progress => exact ih _
          | text => exact ih false
          | noWord => rfl

/-- The reader of the output stream puts lines of its qube only. -/
theorem collectStdout_messages (qname : String) (lines : List Bytes) :
    ∀ message ∈ collectStdout qname lines, message.doneStatus? = none ∧ message.qname = qname := by
  intro message hmem
  obtain ⟨untrustedLine, -, hline⟩ := List.mem_filterMap.mp hmem
  by_cases hempty : sanitizeOutput untrustedLine true = ""
  · simp [hempty] at hline
  · simp only [if_neg hempty, Option.some.injEq] at hline
    rw [← hline]
    exact ⟨rfl, rfl⟩

/-- Merging loses nothing and invents nothing. -/
theorem mem_mergeTurns {a : α} (turns : List Bool) (first second : List α) :
    a ∈ mergeTurns turns first second ↔ a ∈ first ∨ a ∈ second := by
  induction turns, first, second using mergeTurns.induct with
  | case1 turns b first second ih => rw [mergeTurns, List.mem_cons, ih, List.mem_cons, or_assoc]
  | case2 turns first b second ih =>
      rw [mergeTurns, List.mem_cons, ih, List.mem_cons, or_left_comm]
  -- no turn can be taken: the rest of both lists follows
  | case3 turns first second h₁ h₂ =>
      rw [mergeTurns.eq_3 turns first second h₁ h₂, List.mem_append]

/-! ## Running commands -/

/-- An event that ends a command of `step` with outcome `o`. -/
structure EndsCommand (e : WorkerEvent) (step : StepKind) (o : Outcome) : Prop where
  /-- The outcome. -/
  outcome : e.commandOutcome? = some (step, o)
  /-- The step. -/
  step : e.step? = some step
  /-- It puts no message. -/
  silent : e.message? = none
  /-- It does not read the termination flag. -/
  unread : e.readsTermination = false
  /-- Its exceptions are caught. -/
  caught : ¬ e.escapes

/-- The event of a command belongs to its step. -/
theorem EndsCommand.quiet {e : WorkerEvent} {step : StepKind} {o : Outcome}
    (h : EndsCommand e step o) (hstep : steps step) : e.Quiet steps := by
  refine ⟨h.unread, h.silent, fun step' hstep' => ?_⟩
  rw [h.step] at hstep'
  cases hstep'
  exact hstep

namespace QubeConnection

variable {conn : QubeConnection} {s s' : FinalStatus} {t : List WorkerEvent}

/-- Running a command to its end is one event, whose outcome decides what is returned or raised. -/
theorem runs_communicate {command : Command} {r : Except PyException (Bytes × Bytes)}
    (h : Runs (conn.communicate command) s t r s') :
    (∃ e, t = [e] ∧ EndsCommand e command.step (.ofResult r)) ∧ s' = s := by
  rw [communicate] at h
  by_cases hadmin : conn.qube.klass = .adminVM
  · -- dom0: a local process, whose exit code is checked here
    rw [if_pos hadmin] at h
    rcases runs_call h with ⟨reply, t₂, rfl, hrest⟩
    rcases reply with exc | ⟨returncode, out, err⟩
    · obtain ⟨rfl, rfl, rfl⟩ := runs_throw.mp hrest
      exact ⟨⟨_, rfl, rfl, rfl, rfl, rfl, id⟩, rfl⟩
    · replace hrest : Runs (if returncode ≠ 0
          then throw (.calledProcessError returncode (some (out ++ err)) "")
          else (pure (out, err) : WorkerM _)) s t₂ r s' := hrest
      by_cases hcode : returncode = 0
      · subst hcode
        rw [if_neg (not_not.mpr rfl)] at hrest
        obtain ⟨rfl, rfl, rfl⟩ := runs_pure.mp hrest
        exact ⟨⟨_, rfl, rfl, rfl, rfl, rfl, id⟩, rfl⟩
      · rw [if_pos hcode] at hrest
        obtain ⟨rfl, rfl, rfl⟩ := runs_throw.mp hrest
        exact ⟨⟨_, rfl, rfl, rfl, rfl, rfl, id⟩, rfl⟩
  · -- a qube: the service call itself raises on a positive exit code
    rw [if_neg hadmin] at h
    rcases runs_call h with ⟨reply, t₂, rfl, hrest⟩
    obtain ⟨rfl, rfl, rfl⟩ := runs_ofReply.mp hrest
    exact ⟨⟨_, rfl, rfl, rfl, rfl, rfl, id⟩, rfl⟩

/-- The handler returns the code of the outcome and remembers exit code 100. -/
theorem runs_onCommandException {exc : PyException} {r : Except PyException ProcessResult}
    (h : Runs (onCommandException exc) s t r s') :
    t = [] ∧ ∃ result, r = .ok result ∧ result.code = (Outcome.ofException exc).code ∧
      s' = (Outcome.ofException exc).status s := by
  cases exc with
  | calledProcessError returncode output text =>
      rw [onCommandException] at h
      -- exit code 100 is no failure, it is the answer NO_UPDATES
      by_cases hcode : returncode = 100
      · rw [if_pos hcode] at h
        rcases runs_bind.mp h with ⟨exc, -, hset⟩ | ⟨_, t₁, t₂, s₁, rfl, hset, hrest⟩
        · cases (runs_set.mp hset).2.1
        · obtain ⟨rfl, -, rfl⟩ := runs_set.mp hset
          obtain ⟨rfl, rfl, rfl⟩ := runs_pure.mp hrest
          exact ⟨rfl, _, rfl, by simp [Outcome.ofException, Outcome.code, hcode],
            by simp [Outcome.ofException, Outcome.status, hcode]⟩
      · rw [if_neg hcode] at h
        obtain ⟨rfl, rfl, rfl⟩ := runs_pure.mp h
        exact ⟨rfl, _, rfl, by simp [Outcome.ofException, Outcome.code, hcode],
          by simp [Outcome.ofException, Outcome.status, hcode]⟩
  -- any other exception becomes the error code, without a status
  | osError text | qubesVMError text | qubesDaemonAccessError text | indexError text
  | keyError text | other text =>
      obtain ⟨rfl, rfl, rfl⟩ := runs_pure.mp h
      exact ⟨rfl, _, rfl, rfl, rfl⟩

/-- A command that is waited for never raises. -/
theorem runs_runCommandAndWaitForOutput {command : Command}
    {r : Except PyException ProcessResult}
    (h : Runs (conn.runCommandAndWaitForOutput command) s t r s') :
    ∃ e o result, t = [e] ∧ EndsCommand e command.step o ∧ r = .ok result ∧
      result.code = o.code ∧ s' = o.status s := by
  rcases runs_tryCatch.mp h with ⟨result, rfl, hok⟩ | ⟨exc, t₁, t₂, s₁, rfl, hraise, hhandler⟩
  · -- the command has succeeded
    obtain ⟨untrusted, t₁, t₂, s₁, rfl, hcomm, hrest⟩ := runs_bind_ok.mp hok
    obtain ⟨⟨e, rfl, he⟩, rfl⟩ := runs_communicate hcomm
    obtain ⟨rfl, hres, rfl⟩ := runs_pure.mp hrest
    cases hres
    exact ⟨e, _, _, rfl, he, rfl, rfl, rfl⟩
  · -- it is the command that has raised, and the handler turns this into a result
    rcases runs_bind.mp hraise with ⟨exc', hexc, hcomm⟩ | ⟨_, _, t₃, _, rfl, _, hrest⟩
    · cases hexc
      obtain ⟨⟨e, rfl, he⟩, rfl⟩ := runs_communicate hcomm
      obtain ⟨rfl, result, rfl, hcode, rfl⟩ := runs_onCommandException hhandler
      exact ⟨e, _, result, rfl, he, rfl, hcode, rfl⟩
    · cases (runs_pure.mp hrest).2.1

/-- What holds of the event that ends a command holds of all its events. -/
theorem emits_of_endsCommand {P : WorkerEvent → Prop} {command : Command}
    (hends : ∀ e o, EndsCommand e command.step o → P e) :
    Emits P (conn.runCommandAndWaitForOutput command) := by
  intro s t r s' h
  obtain ⟨e, o, result, rfl, he, -⟩ := runs_runCommandAndWaitForOutput h
  rw [List.forall_mem_singleton]
  exact hends e o he

/-- A command that is waited for. -/
theorem emits_runCommandAndWaitForOutput {command : Command} (hstep : steps command.step) :
    Emits (Quiet steps) (conn.runCommandAndWaitForOutput command) :=
  emits_of_endsCommand fun _ _ he => he.quiet hstep

/-- It raises exactly at a reply that no handler catches. -/
theorem failsOn_runCommandAndWaitForOutput {command : Command} :
    FailsOn escapes (conn.runCommandAndWaitForOutput command) := by
  intro s t r s' h
  obtain ⟨e, o, result, rfl, he, rfl, -⟩ := runs_runCommandAndWaitForOutput h
  simp [he.caught]

/-- Starting a process is one event of the entrypoint, which ends no command. -/
theorem runs_startStreams {argv : List String} {r : Except PyException Streams}
    (h : Runs (conn.startStreams argv) s t r s') :
    (t = [⟨.popenStreams argv, r⟩] ∨ (∃ argv' user, t = [⟨.runService argv' user, r⟩])) ∧
      s' = s := by
  rw [startStreams] at h
  split at h
  · obtain ⟨reply, t₂, rfl, hrest⟩ := runs_call h
    obtain ⟨rfl, rfl, rfl⟩ := runs_ofReply.mp hrest
    exact ⟨Or.inl rfl, rfl⟩
  · split at h
    · obtain ⟨reply, t₂, rfl, hrest⟩ := runs_call h
      obtain ⟨rfl, rfl, rfl⟩ := runs_ofReply.mp hrest
      exact ⟨Or.inr ⟨_, _, rfl⟩, rfl⟩
    · obtain ⟨reply, t₂, rfl, hrest⟩ := runs_call h
      obtain ⟨rfl, rfl, rfl⟩ := runs_ofReply.mp hrest
      exact ⟨Or.inr ⟨_, _, rfl⟩, rfl⟩

/-- Waiting for a started process returns its exit code and remembers exit code 100. -/
theorem runs_waitForProcess {result : ProcessResult} {r : Except PyException ProcessResult}
    (h : Runs (do
      let returncode : Int ← call .wait
      if returncode = 100 then
        set FinalStatus.noUpdates
        pure { result with code := 0 }
      else pure { result with code := returncode }) s t r s') :
    ∃ (returncode : Int) (result' : ProcessResult), t = [⟨.wait, returncode⟩] ∧ r = .ok result' ∧
      result'.code = (Outcome.exited returncode).code ∧
      s' = (Outcome.exited returncode).status s := by
  obtain ⟨returncode, t₂, rfl, hrest⟩ := runs_call h
  change Int at returncode
  -- the same special exit code as in the handler of the other branch
  by_cases hcode : returncode = 100
  · rw [if_pos hcode] at hrest
    rcases runs_bind.mp hrest with ⟨exc, -, hset⟩ | ⟨_, t₁, t₃, s₁, rfl, hset, hpure⟩
    · cases (runs_set.mp hset).2.1
    · obtain ⟨rfl, -, rfl⟩ := runs_set.mp hset
      obtain ⟨rfl, rfl, rfl⟩ := runs_pure.mp hpure
      exact ⟨returncode, _, rfl, rfl, by simp [Outcome.code, hcode],
        by simp [Outcome.status, hcode]⟩
  · rw [if_neg hcode] at hrest
    obtain ⟨rfl, rfl, rfl⟩ := runs_pure.mp hrest
    exact ⟨returncode, _, rfl, rfl, by simp [Outcome.code, hcode], by simp [Outcome.status, hcode]⟩

/-- The event that starts a process, and says whether it has been started. -/
theorem started_of_startStreams {argv : List String} {r : Except PyException Streams}
    (h : Runs (conn.startStreams argv) s t r s') :
    ∃ e : WorkerEvent, t = [e] ∧ e.started? = some r ∧ e.commandOutcome? = none := by
  rcases (runs_startStreams h).1 with rfl | ⟨argv', user, rfl⟩
  · exact ⟨_, rfl, rfl, rfl⟩
  · exact ⟨_, rfl, rfl, rfl⟩

/-- No message makes the notifier raise. -/
theorem putAll_returns {notifier : StatusNotifier} {queue : List (Message PyFloat)}
    {r : Except PyException Unit} (h : Runs (notifier.putAll queue) s t r s') : r = .ok () := by
  induction queue generalizing t s with
  | nil => exact (runs_pure.mp h).2.1
  | cons message rest ih =>
      obtain ⟨-, t₂, rfl, hrest⟩ := runs_call h
      exact ih hrest

/-- Reading the streams of a command: it cannot be started, or its error stream cannot be read, or it
is waited for at the end. -/
theorem runs_readStreams {command : Command} {r : Except PyException ProcessResult}
    (h : Runs (conn.runCommandAndActivelyReportProgress command) s t r s') :
    ∃ (e : WorkerEvent) (t' : List WorkerEvent), t = e :: t' ∧
      ((∃ exc, e.started? = some (.error exc) ∧ t' = [] ∧ r = .error exc) ∨
      ∃ (streams : Streams) (puts : List WorkerEvent), e.started? = some (.ok streams) ∧
        commands (e :: puts) = [] ∧ (∀ e' ∈ puts, ¬ escapes e') ∧
        ((∃ exc, (collectStderr conn.qube.name false (readLines (streams.stderr.getD []))).2
            = some exc ∧ t' = puts ++ [⟨.outputEnd, ()⟩] ∧ r = .error exc) ∨
          ((collectStderr conn.qube.name false (readLines (streams.stderr.getD []))).2 = none ∧
            ∃ (code : Int) (result : ProcessResult), t' = puts ++ [⟨.wait, code⟩] ∧ r = .ok result ∧
              result.code = (Outcome.exited code).code ∧ s' = (Outcome.exited code).status s))) := by
  rcases runs_bind.mp h with ⟨exc, rfl, hstart⟩ | ⟨streams, t₁, t₂, s₁, rfl, hstart, hread⟩
  · obtain ⟨e, rfl, hstarted, -⟩ := started_of_startStreams hstart
    exact ⟨e, [], rfl, Or.inl ⟨exc, hstarted, rfl, rfl⟩⟩
  · obtain ⟨e, rfl, hstarted, hnone⟩ := started_of_startStreams hstart
    obtain ⟨-, rfl⟩ := runs_startStreams hstart
    rcases runs_bind.mp hread with ⟨exc, rfl, hput⟩ | ⟨_, puts, t₄, s₂, rfl, hput, hrest⟩
    · cases putAll_returns hput
    · obtain ⟨hputs, rfl⟩ := runs_putAll hput
      have hcommands : commands (e :: puts) = [] := by
        rw [commands_cons, hnone, hputs]
        rfl
      have hcaught : ∀ e' ∈ puts, ¬ escapes e' := fun e' he' hescape => by
        obtain ⟨exc, hraises⟩ := (failsOn_putAll _ _ _ _ hput).mpr ⟨e', he', hescape⟩
        cases hraises
      refine ⟨e, puts ++ t₄, rfl, Or.inr ⟨streams, puts, hstarted, hcommands, hcaught, ?_⟩⟩
      cases hreader : (collectStderr conn.qube.name false
          (readLines (streams.stderr.getD []))).2 with
      -- a line of the error stream could not be read: nobody waits for the process
      | some exc =>
          simp only [hreader] at hrest
          obtain ⟨⟨⟩, t₅, rfl, hthrow⟩ := runs_call hrest
          obtain ⟨rfl, rfl, -⟩ := runs_throw.mp hthrow
          exact Or.inl ⟨exc, rfl, rfl, rfl⟩
      -- both streams were read: the exit code of the process is the outcome
      | none =>
          simp only [hreader] at hrest
          obtain ⟨code, result, rfl, rfl, hcode, rfl⟩ := runs_waitForProcess hrest
          exact Or.inr ⟨rfl, code, result, rfl, rfl, hcode, rfl⟩

/-- A process that could not be started. -/
theorem escapes_of_not_started {e : WorkerEvent} {exc : PyException}
    (h : e.started? = some (.error exc)) : e.escapes := by
  rcases eq_of_started h with ⟨argv, rfl⟩ | ⟨argv, user, rfl⟩
  · trivial
  · trivial

/-- The event of the start carries both streams, so it decides whether a reader raises. -/
theorem escapes_iff_of_started {e : WorkerEvent} {streams : Streams}
    (h : e.started? = some (.ok streams)) (qname : String) : e.escapes ↔
      (collectStderr qname false (readLines (streams.stderr.getD []))).2.isSome = true := by
  rw [collectStderr_raises qname ""]
  rcases eq_of_started h with ⟨argv, rfl⟩ | ⟨argv, user, rfl⟩
  · exact Iff.rfl
  · exact Iff.rfl

/-- A command whose streams are read either ends like one that is waited for, or raises: then it
could not be started or its error stream could not be read. -/
theorem runs_runCommandAndActivelyReportProgress {command : Command}
    {r : Except PyException ProcessResult}
    (h : Runs (conn.runCommandAndActivelyReportProgress command) s t r s') :
    ((∃ exc, r = .error exc) ∧ ∃ e ∈ t, escapes e) ∨
    (∃ o result, commands t = [(.entrypoint, o)] ∧ (∀ e ∈ t, ¬ escapes e) ∧ r = .ok result ∧
      result.code = o.code ∧ s' = o.status s) := by
  obtain ⟨e, t', rfl, ⟨exc, hstart, rfl, rfl⟩ | ⟨streams, puts, hstart, hputs, hcaught, hread⟩⟩ :=
    runs_readStreams h
  · exact Or.inl ⟨⟨exc, rfl⟩, e, List.mem_cons_self, escapes_of_not_started hstart⟩
  · have hraises := escapes_iff_of_started hstart conn.qube.name
    obtain ⟨exc, hreader, rfl, rfl⟩ | ⟨hreader, code, result, rfl, rfl, hcode, rfl⟩ := hread
    · rw [hreader] at hraises
      exact Or.inl ⟨⟨exc, rfl⟩, e, List.mem_cons_self, hraises.mpr rfl⟩
    · rw [hreader] at hraises
      refine Or.inr ⟨.exited code, result, ?_, ?_, rfl, hcode, rfl⟩
      · rw [← List.cons_append, commands_append, hputs]
        rfl
      · rw [List.forall_mem_cons, List.forall_mem_append, List.forall_mem_singleton]
        refine ⟨fun hescape => ?_, hcaught, id⟩
        cases hraises.mp hescape

/-- A command whose progress is reported. -/
theorem emits_runCommandAndActivelyReportProgress {command : Command}
    (hname : conn.statusNotifier.shown conn.qube.name = name) (hstep : steps .entrypoint) :
    Emits (Within name steps) (conn.runCommandAndActivelyReportProgress command) := by
  -- all calls of the process are silent; only the readers put messages
  have hevent : ∀ e : WorkerEvent, e.readsTermination = false → e.message? = none →
      e.step? = some .entrypoint → e.Within name steps := by
    intro e hread hsilent hentry
    refine ⟨hread, fun message h => ?_, fun step h => ?_⟩
    · rw [hsilent] at h
      cases h
    · rw [hentry] at h
      cases h
      exact hstep
  refine emits_bind ?_ fun streams => emits_bind (emits_putAll ?_) fun _ => ?_
  · intro s t r s' h
    rcases (runs_startStreams h).1 with rfl | ⟨argv', user, rfl⟩
    · rw [List.forall_mem_singleton]
      exact hevent _ rfl rfl rfl
    · rw [List.forall_mem_singleton]
      exact hevent _ rfl rfl rfl
  · intro message hmem
    rw [← hname]
    rcases (mem_mergeTurns _ _ _).mp hmem with hmem | hmem
    · obtain ⟨hdone, hq⟩ := collectStderr_messages _ _ _ message hmem
      exact ⟨hdone, by rw [hq]⟩
    · obtain ⟨hdone, hq⟩ := collectStdout_messages _ _ message hmem
      exact ⟨hdone, by rw [hq]⟩
  · split
    · exact emits_bind (emits_request fun _ => hevent _ rfl rfl rfl) fun _ => emits_throw
    · intro s t r s' h
      obtain ⟨returncode, result, rfl, -⟩ := runs_waitForProcess h
      rw [List.forall_mem_singleton]
      exact hevent _ rfl rfl rfl

/-- It raises exactly at a reply that no handler catches. -/
theorem failsOn_runCommandAndActivelyReportProgress {command : Command} :
    FailsOn escapes (conn.runCommandAndActivelyReportProgress command) := by
  intro s t r s' h
  rcases runs_runCommandAndActivelyReportProgress h with
    ⟨hr, he⟩ | ⟨o, result, -, hcaught, rfl, -⟩
  · exact iff_of_true hr he
  · refine iff_of_false (by simp) ?_
    rintro ⟨e, he, hP⟩
    exact hcaught e he hP

/-! ## The steps of an update -/

/-- A command in the qube raises exactly at a reply that no handler catches. -/
theorem failsOn_runShellCommandInQube {command : Command} {display : Bool} :
    FailsOn escapes (conn.runShellCommandInQube command display) := by
  cases display with
  | false => exact failsOn_runCommandAndWaitForOutput
  | true => exact failsOn_runCommandAndActivelyReportProgress

/-- A command that returns: its outcome decides the code of the result and the new status. -/
theorem runs_runShellCommandInQube {command : Command} {display : Bool} {result : ProcessResult}
    (hdisplay : display = true → command.step = .entrypoint)
    (h : Runs (conn.runShellCommandInQube command display) s t (.ok result) s') :
    ∃ o, commands t = [(command.step, o)] ∧ result.code = o.code ∧ s' = o.status s := by
  cases display with
  | false =>
      obtain ⟨e, o, result', rfl, he, hr, hcode, rfl⟩ := runs_runCommandAndWaitForOutput h
      cases hr
      exact ⟨o, by rw [commands_cons, he.outcome]; rfl, hcode, rfl⟩
  | true =>
      -- only the entrypoint is displayed
      rw [hdisplay rfl]
      rcases runs_runCommandAndActivelyReportProgress h with
        ⟨⟨exc, hr⟩, -⟩ | ⟨o, result', hcommands, -, hr, hcode, rfl⟩
      · cases hr
      · cases hr
        exact ⟨o, hcommands, hcode, rfl⟩

/-- The entrypoint reports about the qube. -/
theorem emits_runEntrypoint {entrypoint : Entrypoint} {args : Args}
    (hname : conn.statusNotifier.shown conn.qube.name = name) (hstep : steps .entrypoint) :
    Emits (Within name steps) (conn.runEntrypoint entrypoint args) := by
  rw [runEntrypoint.eq_def, runShellCommandInQube]
  split
  · exact (emits_runCommandAndWaitForOutput hstep).mono fun _ h => ⟨h.unread, h.progressing, h.step⟩
  · exact emits_runCommandAndActivelyReportProgress hname hstep

/-- It raises exactly at a reply that no handler catches. -/
theorem failsOn_runEntrypoint {entrypoint : Entrypoint} {args : Args} :
    FailsOn escapes (conn.runEntrypoint entrypoint args) := failsOn_runShellCommandInQube

/-- The entrypoint, if it returns. -/
theorem runs_runEntrypoint {entrypoint : Entrypoint} {args : Args} {result : ProcessResult}
    (h : Runs (conn.runEntrypoint entrypoint args) s t (.ok result) s') :
    ∃ o, commands t = [(.entrypoint, o)] ∧ result.code = o.code ∧ s' = o.status s :=
  runs_runShellCommandInQube (fun _ => rfl) h

/-- The log read, if it returns. -/
theorem runs_readLogs {result : ProcessResult} (h : Runs conn.readLogs s t (.ok result) s') :
    ∃ o, commands t = [(.readLogs, o)] ∧ s' = o.status s := by
  obtain ⟨o, hcommands, -, hstatus⟩ := runs_runShellCommandInQube (by simp) h
  exact ⟨o, hcommands, hstatus⟩

/-- Reading the logs reports nothing. -/
theorem emits_readLogs (hstep : steps .readLogs) : Emits (Quiet steps) conn.readLogs :=
  emits_runCommandAndWaitForOutput hstep

/-- It raises exactly at a reply that no handler catches. -/
theorem failsOn_readLogs : FailsOn escapes conn.readLogs := failsOn_runShellCommandInQube

/-- Copying is one event; only an `OSError` becomes a result, any other exception escapes. -/
theorem runs_copyFileFromDom0 {dest : String} {r : Except PyException ProcessResult}
    (h : Runs (copyFileFromDom0 dest) s t r s') :
    ∃ (command : String) (reply : Except PyException (Bytes × Bytes)),
      t = [⟨.copyArchive command, reply⟩] ∧ s' = s ∧
      ((∃ exc, r = .error exc) ↔ escapes ⟨.copyArchive command, reply⟩) ∧
      ∀ result, r = .ok result → result.code = (Outcome.ofResult reply).code ∧
        Outcome.ofResult reply ≠ .exited 100 := by
  rcases runs_tryCatch.mp h with ⟨result, rfl, hok⟩ | ⟨exc, t₁, t₂, s₁, rfl, hraise, hhandler⟩
  · obtain ⟨reply, t₂, rfl, hrest⟩ := runs_call hok
    rcases reply with exc | ⟨out, err⟩
    · cases (runs_throw.mp hrest).2.1
    · obtain ⟨rfl, hr, rfl⟩ := runs_pure.mp hrest
      refine ⟨_, .ok (out, err), rfl, rfl, by simp [escapes], ?_⟩
      rintro _ ⟨⟩
      cases hr
      exact ⟨rfl, by simp [Outcome.ofResult]⟩
  · obtain ⟨reply, t₃, rfl, hrest⟩ := runs_call hraise
    rcases reply with exc' | ⟨out, err⟩
    · obtain ⟨rfl, hexc, rfl⟩ := runs_throw.mp hrest
      cases hexc
      refine ⟨" ".intercalate ["cat", ">", dest], .error exc, ?_⟩
      cases exc with
      -- caught: copying failed with an error code
      | osError text =>
          obtain ⟨rfl, rfl, rfl⟩ := runs_pure.mp hhandler
          refine ⟨rfl, rfl, by simp [escapes, PyException.isOSError], ?_⟩
          rintro _ ⟨⟩
          exact ⟨rfl, by simp [Outcome.ofResult, Outcome.ofException]⟩
      -- not caught: it leaves the function
      | calledProcessError _ _ text | qubesVMError text | qubesDaemonAccessError text
      | indexError text | keyError text | other text =>
          obtain ⟨rfl, rfl, rfl⟩ := runs_throw.mp hhandler
          exact ⟨rfl, rfl, by simp [escapes, PyException.isOSError], by simp⟩
    · cases (runs_pure.mp hrest).2.1

/-- Copying a file reports nothing. -/
theorem emits_copyFileFromDom0 {dest : String} (hstep : steps .copy) :
    Emits (Quiet steps) (copyFileFromDom0 dest) := by
  intro s t r s' h
  obtain ⟨command, reply, rfl, -⟩ := runs_copyFileFromDom0 h
  rw [List.forall_mem_singleton]
  refine ⟨rfl, rfl, ?_⟩
  rintro step ⟨⟩
  exact hstep

/-- It raises exactly at a reply that no handler catches. -/
theorem failsOn_copyFileFromDom0 {dest : String} : FailsOn escapes (copyFileFromDom0 dest) := by
  intro s t r s' h
  obtain ⟨command, reply, rfl, -, hfails, -⟩ := runs_copyFileFromDom0 h
  simpa using hfails

/-- The transfer reports nothing. -/
theorem emits_transferAgent {srcDir : String}
    (hsteps : ∀ step : StepKind, step.isTransfer = true → steps step) :
    Emits (Quiet steps) (conn.transferAgent srcDir) := by
  rw [transferAgent]
  cases conn.destDir with
  | none => exact emits_throw
  | some destDir =>
      refine emits_bind (emits_request fun _ => ?_) fun _ => emits_bind (emits_ofReply _) fun _ => ?_
      · refine ⟨rfl, rfl, ?_⟩
        rintro step ⟨⟩
        exact hsteps .archive rfl
      refine emits_bind (emits_runCommandAndWaitForOutput (hsteps .mkdir rfl)) fun result => ?_
      split
      · exact emits_pure
      refine emits_bind (emits_copyFileFromDom0 (hsteps .copy rfl)) fun copied => ?_
      dsimp only
      split
      · exact emits_pure
      refine emits_bind (emits_runCommandAndWaitForOutput (hsteps .untar rfl)) fun _ => ?_
      exact emits_pure

/-- To a known directory, it raises exactly at a reply that no handler catches. -/
theorem failsOn_transferAgent {srcDir destDir : String} (hdest : conn.destDir = some destDir) :
    FailsOn escapes (conn.transferAgent srcDir) := by
  rw [transferAgent, hdest]
  refine failsOn_reply_bind (.makeArchive srcDir) id ?_ fun _ =>
    failsOn_bind failsOn_runShellCommandInQube fun result => ?_
  · rintro (exc | ⟨⟩)
    · exact iff_of_true ⟨exc, rfl⟩ trivial
    · exact iff_of_false (by rintro ⟨exc, ⟨⟩⟩) id
  split
  · exact failsOn_pure
  refine failsOn_bind failsOn_copyFileFromDom0 fun copied => ?_
  dsimp only
  split
  · exact failsOn_pure
  exact failsOn_bind failsOn_runShellCommandInQube fun _ => failsOn_pure

/-- A command that is waited for, and what follows it. -/
theorem runs_waitFor_bind {α : Type} {command : Command} {f : ProcessResult → WorkerM α}
    {r : Except PyException α}
    (h : Runs (conn.runShellCommandInQube command false >>= f) s t r s') :
    ∃ e o result t₂, t = e :: t₂ ∧ EndsCommand e command.step o ∧ result.code = o.code ∧
      Runs (f result) (o.status s) t₂ r s' := by
  rcases runs_bind.mp h with ⟨exc, -, hrun⟩ | ⟨result, t₁, t₂, s₁, rfl, hrun, hrest⟩
  · obtain ⟨e, o, result, -, -, hr, -⟩ := runs_runCommandAndWaitForOutput hrun
    cases hr
  · obtain ⟨e, o, result', rfl, he, hr, hcode, rfl⟩ := runs_runCommandAndWaitForOutput hrun
    cases hr
    exact ⟨e, o, result, t₂, rfl, he, hcode, hrest⟩

/-- The runs of a transfer. -/
inductive TransferRun (srcDir : String) (s : FinalStatus) :
    List WorkerEvent → Except PyException ProcessResult → FinalStatus → Prop
  /-- The agent could not be packed. -/
  | notPacked (exc : PyException) :
      TransferRun srcDir s [⟨.makeArchive srcDir, .error exc⟩] (.error exc) s
  /-- Creating the directory failed. -/
  | notMade {e : WorkerEvent} {o : Outcome} {made : ProcessResult} (hmkdir : EndsCommand e .mkdir o)
      (hcode : made.code = o.code) (hstop : o.code ≠ 0) :
      TransferRun srcDir s [⟨.makeArchive srcDir, .ok ()⟩, e] (.ok made) (o.status s)
  /-- Copying the archive raised. -/
  | raised {e : WorkerEvent} {o : Outcome} {command : String}
      {reply : Except PyException (Bytes × Bytes)} {exc : PyException}
      (hmkdir : EndsCommand e .mkdir o) (hmade : o.code = 0)
      (hescape : escapes ⟨.copyArchive command, reply⟩) :
      TransferRun srcDir s [⟨.makeArchive srcDir, .ok ()⟩, e, ⟨.copyArchive command, reply⟩]
        (.error exc) (o.status s)
  /-- Copying the archive failed. -/
  | notCopied {e : WorkerEvent} {o : Outcome} {command : String}
      {reply : Except PyException (Bytes × Bytes)} {result : ProcessResult}
      (hmkdir : EndsCommand e .mkdir o) (hmade : o.code = 0)
      (hcaught : ¬ escapes ⟨.copyArchive command, reply⟩)
      (hcode : result.code = (Outcome.ofResult reply).code)
      (hne : Outcome.ofResult reply ≠ .exited 100) (hstop : 0 < result.code) :
      TransferRun srcDir s [⟨.makeArchive srcDir, .ok ()⟩, e, ⟨.copyArchive command, reply⟩]
        (.ok result) (o.status s)
  /-- The archive was unpacked, or this failed. -/
  | unpacked {e e' : WorkerEvent} {o o' : Outcome} {command : String}
      {reply : Except PyException (Bytes × Bytes)} {result : ProcessResult}
      (hmkdir : EndsCommand e .mkdir o) (hmade : o.code = 0)
      (hcaught : ¬ escapes ⟨.copyArchive command, reply⟩)
      (hne : Outcome.ofResult reply ≠ .exited 100) (hcopied : (Outcome.ofResult reply).code ≤ 0)
      (huntar : EndsCommand e' .untar o') (hcode : result.code = max 0 o'.code) :
      TransferRun srcDir s [⟨.makeArchive srcDir, .ok ()⟩, e, ⟨.copyArchive command, reply⟩, e']
        (.ok result) (o'.status (o.status s))

/-- Each step is followed by the next one unless it fails. -/
theorem transferRun_of_runs {srcDir destDir : String} {r : Except PyException ProcessResult}
    (hdest : conn.destDir = some destDir) (h : Runs (conn.transferAgent srcDir) s t r s') :
    TransferRun srcDir s t r s' := by
  rw [transferAgent, hdest] at h
  obtain ⟨reply, t₁, rfl, hpacked⟩ := runs_call h
  rcases reply with exc | packed
  · rcases runs_bind.mp hpacked with ⟨exc', rfl, hreply⟩ | ⟨_, t₂, t₃, s₁, rfl, hreply, -⟩
    · obtain ⟨rfl, hr, rfl⟩ := runs_ofReply.mp hreply
      cases hr
      exact .notPacked exc
    · cases (runs_ofReply.mp hreply).2.1
  have hstart : (ofReply (.ok packed) : WorkerM Unit) = pure packed := rfl
  rw [hstart, pure_bind] at hpacked
  -- creating the directory, copying and unpacking, each stopping at an error
  obtain ⟨e, o, made, t₂, rfl, hmkdir, hmade, hrest⟩ := runs_waitFor_bind hpacked
  by_cases hstop : made.toBool = true
  · rw [if_pos hstop] at hrest
    obtain ⟨rfl, rfl, rfl⟩ := runs_pure.mp hrest
    rw [ProcessResult.toBool_iff, hmade] at hstop
    exact .notMade hmkdir hmade hstop
  rw [if_neg hstop] at hrest
  rw [ProcessResult.toBool_iff, not_not, hmade] at hstop
  rcases runs_bind.mp hrest with ⟨exc, rfl, hcopy⟩ | ⟨copied, t₃, t₄, s₁, rfl, hcopy, hcopied⟩
  · obtain ⟨command, reply, rfl, rfl, hfails, -⟩ := runs_copyFileFromDom0 hcopy
    exact .raised hmkdir hstop (hfails.mp ⟨exc, rfl⟩)
  · obtain ⟨command, reply, rfl, rfl, hfails, hcode⟩ := runs_copyFileFromDom0 hcopy
    obtain ⟨hcode, hne⟩ := hcode copied rfl
    have hcaught : ¬ escapes ⟨.copyArchive command, reply⟩ := by
      rw [← hfails]
      simp
    -- the code of the directory does not count towards the sum
    have hsum : (made.iadd copied).code = max 0 (Outcome.ofResult reply).code := by
      rw [ProcessResult.iadd_code, hmade, hstop, hcode]
    dsimp only at hcopied
    by_cases hstop' : (made.iadd copied).toBool = true
    · rw [if_pos hstop'] at hcopied
      obtain ⟨rfl, rfl, rfl⟩ := runs_pure.mp hcopied
      rw [ProcessResult.toBool_iff, hsum] at hstop'
      have hpositive : 0 < (Outcome.ofResult reply).code := by omega
      have hresult : (made.iadd copied).code = (Outcome.ofResult reply).code := by
        rw [hsum]
        omega
      exact .notCopied hmkdir hstop hcaught hresult hne (hresult ▸ hpositive)
    · rw [if_neg hstop'] at hcopied
      rw [ProcessResult.toBool_iff, not_not, hsum] at hstop'
      obtain ⟨e', o', untarred, t₅, rfl, huntar, huntarred, hend⟩ := runs_waitFor_bind hcopied
      obtain ⟨rfl, rfl, rfl⟩ := runs_pure.mp hend
      have hcopied₀ : (Outcome.ofResult reply).code ≤ 0 := by omega
      refine .unpacked hmkdir hstop hcaught hne hcopied₀ huntar ?_
      rw [ProcessResult.iadd_code, hsum, hstop', huntarred]

/-- A transfer that returns runs its commands up to the first error: its result has a positive code
exactly if one of them does. -/
theorem runs_transferAgent {srcDir : String} {result : ProcessResult}
    (h : Runs (conn.transferAgent srcDir) s t (.ok result) s') :
    s' = statusAfter s (commands t) ∧ (∀ command ∈ commands t, command.1.isTransfer = true) ∧
      (0 < result.code ↔ ∃ command ∈ commands t, 0 < command.2.code) := by
  cases hdest : conn.destDir with
  | none =>
      rw [transferAgent, hdest] at h
      cases (runs_throw.mp h).2.1
  | some destDir =>
      cases transferRun_of_runs hdest h with
      | @notMade e o made hmkdir hcode hstop =>
          have hcommands : commands [⟨.makeArchive srcDir, .ok ()⟩, e] = [(.mkdir, o)] := by
            rw [commands_cons, commands_cons, hmkdir.outcome]
            rfl
          rw [hcommands]
          simp [hcode, StepKind.isTransfer]
      | @notCopied e o command reply result hmkdir hmade hcaught hcode hne hstop =>
          have hcommands : commands [⟨.makeArchive srcDir, .ok ()⟩, e, ⟨.copyArchive command, reply⟩]
              = [(.mkdir, o), (.copy, .ofResult reply)] := by
            rw [commands_cons, commands_cons, hmkdir.outcome]
            rfl
          rw [hcommands]
          simp [hmade, hcode, Outcome.status_of_ne hne, StepKind.isTransfer]
      | @unpacked e e' o o' command reply result hmkdir hmade hcaught hne hcopied huntar hcode =>
          have hcommands : commands [⟨.makeArchive srcDir, .ok ()⟩, e, ⟨.copyArchive command, reply⟩,
              e'] = [(.mkdir, o), (.copy, .ofResult reply), (.untar, o')] := by
            rw [commands_cons, commands_cons, commands_cons, commands_cons, hmkdir.outcome,
              huntar.outcome]
            rfl
          rw [hcommands]
          simp [hmade, hcode, Outcome.status_of_ne hne, StepKind.isTransfer, not_lt.mpr hcopied]

/-! ## Statuses -/

/-- No command makes the status unknown. -/
theorem preserves_runShellCommandInQube {command : Command} {display : Bool} :
    Preserves FinalStatus.Known (conn.runShellCommandInQube command display) := by
  cases display with
  | false =>
      intro s t r s' h hs
      obtain ⟨e, o, result, -, -, -, -, rfl⟩ := runs_runCommandAndWaitForOutput h
      exact o.known_status hs
  | true =>
      have hstart : ∀ argv, Preserves FinalStatus.Known (conn.startStreams argv) := by
        intro argv s t r s' h hs
        rw [(runs_startStreams h).2]
        exact hs
      refine preserves_bind (hstart _) fun streams => preserves_bind ?_ fun _ => ?_
      · intro s t r s' h hs
        rw [(runs_putAll h).2]
        exact hs
      · split
        · exact preserves_bind preserves_request fun _ => preserves_throw
        · intro s t r s' h hs
          obtain ⟨returncode, result, -, -, -, rfl⟩ := runs_waitForProcess h
          exact (Outcome.exited returncode).known_status hs

/-- Nor does the transfer. -/
theorem preserves_transferAgent {srcDir : String} :
    Preserves FinalStatus.Known (conn.transferAgent srcDir) := by
  intro s t r s' h hs
  cases hdest : conn.destDir with
  | none =>
      rw [transferAgent, hdest] at h
      obtain ⟨-, -, rfl⟩ := runs_throw.mp h
      exact hs
  | some destDir =>
      cases transferRun_of_runs hdest h with
      | notPacked exc => exact hs
      | notMade | raised | notCopied => exact Outcome.known_status hs _
      | unpacked => exact Outcome.known_status (Outcome.known_status hs _) _

/-! ## The `with` statement -/

/-- Asking for PCI devices raises unless access is denied. -/
theorem failsOn_hasAssignedPciDevices : FailsOn escapes hasAssignedPciDevices := by
  intro s t r s' h
  obtain ⟨reply, t₂, rfl, hrest⟩ := runs_call h
  rcases reply with exc | assigned
  · cases exc with
    -- access denied counts as no devices
    | qubesDaemonAccessError text =>
        obtain ⟨rfl, rfl, rfl⟩ := runs_pure.mp hrest
        simp [escapes, PyException.isQubesDaemonAccessError]
    | calledProcessError _ _ text | osError text | qubesVMError text | indexError text
    | keyError text | other text =>
        obtain ⟨rfl, rfl, rfl⟩ := runs_throw.mp hrest
        simp [escapes, PyException.isQubesDaemonAccessError]
  · obtain ⟨rfl, rfl, rfl⟩ := runs_pure.mp hrest
    simp [escapes]

/-- So does waiting for the shutdown. -/
theorem failsOn_waitForDomainShutdown (accepted : Bool) :
    FailsOn escapes (call (.waitForDomainShutdown accepted) >>= fun a => ofReply (id a)) := by
  refine failsOn_reply (.waitForDomainShutdown accepted) id ?_
  rintro (exc | ⟨⟩)
  · exact iff_of_true ⟨exc, rfl⟩ trivial
  · exact iff_of_false (by rintro ⟨exc, ⟨⟩⟩) id

/-- Forcing a qube down raises unless the qube refuses, or if waiting for it does. -/
theorem failsOn_shutdownDomain : FailsOn escapes shutdownDomain := by
  intro s t r s' h
  obtain ⟨reply, t₂, rfl, hrest⟩ := runs_call h
  rcases reply with exc | ⟨⟩
  · cases exc with
    -- a qube that refuses is waited for all the same
    | qubesVMError text =>
        have := failsOn_waitForDomainShutdown false s t₂ r s' hrest
        simpa [escapes, PyException.isQubesVMError] using this
    | calledProcessError _ _ text | osError text | qubesDaemonAccessError text | indexError text
    | keyError text | other text =>
        obtain ⟨rfl, rfl, rfl⟩ := runs_throw.mp hrest
        simp [escapes, PyException.isQubesVMError]
  · have := failsOn_waitForDomainShutdown true s t₂ r s' hrest
    simpa [escapes] using this

/-- So does removing the directory. -/
theorem failsOn_removeDestDir : FailsOn escapes conn.removeDestDir := by
  rw [removeDestDir]
  split
  · refine failsOn_tryCatch ?_ fun _ => failsOn_pure
    -- without a directory the attempt raises, and the handler swallows it
    cases conn.destDir with
    | none => exact emits_throw
    | some destDir =>
        exact emits_bind (emits_of_endsCommand fun _ _ he => he.caught) fun _ => emits_pure
  · exact failsOn_pure

/-- So does stopping the qube. -/
theorem failsOn_stopQube (initiallyRunning : Bool) : FailsOn escapes (stopQube initiallyRunning) := by
  refine failsOn_reply_bind (.isRunning .exit) id ?_ fun running => ?_
  · rintro (exc | running)
    · exact iff_of_true ⟨exc, rfl⟩ trivial
    · exact iff_of_false (by rintro ⟨exc, ⟨⟩⟩) id
  split
  · -- a qube with devices is forced down, any other is asked
    refine failsOn_bind failsOn_hasAssignedPciDevices fun assigned => ?_
    split
    · exact failsOn_shutdownDomain
    · refine failsOn_reply (.shutdown false) id ?_
      rintro (exc | ⟨⟩)
      · exact iff_of_true ⟨exc, rfl⟩ trivial
      · exact iff_of_false (by rintro ⟨exc, ⟨⟩⟩) id
  · exact failsOn_pure

/-- The removal is at most one command. -/
theorem emits_removal {P : WorkerEvent → Prop} (hends : ∀ e o, EndsCommand e .remove o → P e) :
    Emits P conn.removeDestDir := by
  rw [removeDestDir]
  split
  · refine emits_tryCatch ?_ fun _ => emits_pure
    cases conn.destDir with
    | none => exact emits_throw
    | some destDir => exact emits_bind (emits_of_endsCommand hends) fun _ => emits_pure
  · exact emits_pure

/-- Removing the directory reports nothing. -/
theorem emits_removeDestDir (hstep : steps .remove) : Emits (Quiet steps) conn.removeDestDir :=
  emits_removal fun _ _ he => he.quiet hstep

/-- Stopping the qube is not a step of the update, and puts no message. -/
theorem emits_stopQube (initiallyRunning : Bool) :
    Emits (Quiet steps) (stopQube initiallyRunning) := by
  -- none of the calls reads the flag, puts a message or belongs to a step
  have hcall : ∀ c : WorkerCall, (∀ a : c.Reply, readsTermination ⟨c, a⟩ = false) →
      (∀ a : c.Reply, message? ⟨c, a⟩ = none) → (∀ a : c.Reply, step? ⟨c, a⟩ = none) →
      Emits (Quiet steps) (call c) := by
    intro c hread hsilent hstep
    refine emits_request fun a => ⟨hread a, hsilent a, fun step h => ?_⟩
    rw [hstep a] at h
    cases h
  have hforce : ∀ accepted : Bool, Emits (Quiet steps)
      (call (.waitForDomainShutdown accepted) >>= fun a => ofReply (id a)) := fun accepted =>
    emits_bind (hcall _ (fun _ => rfl) (fun _ => rfl) fun _ => rfl) fun a => emits_ofReply _
  refine emits_bind (hcall _ (fun _ => rfl) (fun _ => rfl) fun _ => rfl) fun reply =>
    emits_bind (emits_ofReply _) fun running => ?_
  split
  · refine emits_bind (emits_bind (hcall _ (fun _ => rfl) (fun _ => rfl) fun _ => rfl) ?_)
      fun assigned => ?_
    · intro reply
      split
      · exact emits_pure
      · exact emits_pure
      · exact emits_throw
    · split
      · refine emits_bind (hcall _ (fun _ => rfl) (fun _ => rfl) fun _ => rfl) ?_
        intro reply
        split
        · exact hforce true
        · exact hforce false
        · exact emits_throw
      · exact emits_bind (hcall _ (fun _ => rfl) (fun _ => rfl) fun _ => rfl) fun _ =>
          emits_ofReply _
  · exact emits_pure

/-- Leaving the connection raises exactly at a reply that no handler catches. -/
theorem failsOn_release (initiallyRunning : Bool) :
    FailsOn escapes (conn.release initiallyRunning) :=
  failsOn_bind failsOn_removeDestDir fun _ => failsOn_stopQube initiallyRunning

/-- It reports nothing. -/
theorem emits_release (initiallyRunning : Bool) (hstep : steps .remove) :
    Emits (Quiet steps) (conn.release initiallyRunning) :=
  emits_bind (emits_removeDestDir hstep) fun _ => emits_stopQube initiallyRunning

/-- The DONE message of a connection. -/
def doneEvent (conn : QubeConnection) (status : FinalStatus) : WorkerEvent :=
  ⟨.put (conn.statusNotifier.mask (.status (.done conn.qube.name status))), ()⟩

/-- The message of a final status. -/
theorem message?_doneEvent (conn : QubeConnection) (status : FinalStatus) :
    message? (conn.doneEvent status)
      = some (.status (.done (conn.statusNotifier.shown conn.qube.name) status)) :=
  congrArg some (conn.statusNotifier.mask_done conn.qube.name status)

/-- At the end of the connection, the status is announced before the qube is released. -/
theorem runs_exit {initiallyRunning : Bool} {r : Except PyException Unit}
    (h : Runs (conn.exit initiallyRunning) s t r s') :
    ∃ te, t = conn.doneEvent s :: te ∧ Runs (conn.release initiallyRunning) s te r s' := by
  rcases runs_bind.mp h with ⟨exc, -, hget⟩ | ⟨status, t₁, t₂, s₁, rfl, hget, hput⟩
  · cases (runs_get.mp hget).2.1
  · obtain ⟨rfl, hstatus, rfl⟩ := runs_get.mp hget
    cases hstatus
    obtain ⟨_, te, rfl, hrelease⟩ := runs_call hput
    exact ⟨te, rfl, hrelease⟩

/-- The `with` statement: either `__enter__` raises, or the body runs and then the connection
announces the status the body has left and is released; an exception of the release replaces the
outcome of the body. -/
theorem runs_withConnection {body : WorkerM α} {r : Except PyException α}
    (h : Runs (conn.withConnection body) s t r s') :
    (∃ exc, t = [⟨.isRunning .entry, .error exc⟩] ∧ r = .error exc) ∨
    ∃ (running : Bool) (tb te : List WorkerEvent) (q : Except PyException α) (sb : FinalStatus)
      (re : Except PyException Unit),
      t = ⟨.isRunning .entry, .ok running⟩ :: (tb ++ conn.doneEvent sb :: te) ∧
      Runs body .error tb q sb ∧ Runs (conn.release running) sb te re s' ∧
      r = re.bind fun _ => q := by
  rcases runs_bind.mp h with ⟨exc, -, hset⟩ | ⟨_, t₁, t₂, s₁, rfl, hset, hrest⟩
  · cases (runs_set.mp hset).2.1
  obtain ⟨rfl, -, rfl⟩ := runs_set.mp hset
  -- `__enter__` asks whether the qube is running
  obtain ⟨reply, t₃, rfl, hentered⟩ := runs_call hrest
  rcases runs_bind.mp hentered with ⟨exc, rfl, hreply⟩ | ⟨running, t₄, t₅, s₂, rfl, hreply, hbody⟩
  · obtain ⟨rfl, rfl, -⟩ := runs_ofReply.mp hreply
    exact Or.inl ⟨exc, rfl, rfl⟩
  obtain ⟨rfl, rfl, rfl⟩ := runs_ofReply.mp hreply
  right
  rcases runs_bind.mp hbody with ⟨exc, -, hobs⟩ | ⟨q, tb, t₆, sb, rfl, hobs, hexit⟩
  · obtain ⟨q, hq, -⟩ := runs_observe.mp hobs
    cases hq
  obtain ⟨q', hq, hrun⟩ := runs_observe.mp hobs
  cases hq
  -- the exit runs in both cases; only what is passed on afterwards differs
  cases q with
  | ok a =>
      rcases runs_bind.mp hexit with ⟨exc, rfl, hexit'⟩ | ⟨_, t₇, t₈, s₃, rfl, hexit', hend⟩
      · obtain ⟨te, rfl, hrelease⟩ := runs_exit hexit'
        exact ⟨running, tb, te, _, sb, _, rfl, hrun, hrelease, rfl⟩
      · obtain ⟨te, rfl, hrelease⟩ := runs_exit hexit'
        obtain ⟨rfl, rfl, rfl⟩ := runs_pure.mp hend
        exact ⟨running, tb, te, _, sb, _, by simp, hrun, hrelease, rfl⟩
  | error exc =>
      rcases runs_bind.mp hexit with ⟨exc', rfl, hexit'⟩ | ⟨_, t₇, t₈, s₃, rfl, hexit', hend⟩
      · obtain ⟨te, rfl, hrelease⟩ := runs_exit hexit'
        exact ⟨running, tb, te, _, sb, _, rfl, hrun, hrelease, rfl⟩
      · obtain ⟨te, rfl, hrelease⟩ := runs_exit hexit'
        obtain ⟨rfl, rfl, rfl⟩ := runs_throw.mp hend
        exact ⟨running, tb, te, _, sb, _, by simp, hrun, hrelease, rfl⟩

end QubeConnection

end QubesAdminLinux
