import QubesAdminLinux.VmUpdate.QubeConnection

/-! # What the events of a worker say

Every fact about a run of the update of one qube is a fact about its events.

* **`messages`, `announced`** — what the worker puts on its notifier, and the final statuses in it.
* **`commandOutcome?`** — how the commands run in the qube ended; `Outcome.code` and `Outcome.status`
  are what the connection makes of it.
* **`escapes`** — the replies that raise an exception no handler of the connection catches.

The rules at the end give these for each statement of a connection. -/

namespace QubesAdminLinux

open Proc

/-! ## Messages -/

namespace WorkerEvent

/-- The message put by an event. -/
def message? : WorkerEvent → Option (Message PyFloat)
  | ⟨.put message, _⟩ => some message
  | _ => none

end WorkerEvent

/-- The messages put in a run, in their order. -/
def messages (t : List WorkerEvent) : List (Message PyFloat) := t.filterMap WorkerEvent.message?

/-- The final statuses announced in a run. -/
def announced (t : List WorkerEvent) : List FinalStatus := (messages t).filterMap Message.doneStatus?

/-- Nothing has been put. -/
@[simp] theorem messages_nil : messages [] = [] := rfl

/-- Two parts of a trace. -/
@[simp] theorem messages_append (t₁ t₂ : List WorkerEvent) :
    messages (t₁ ++ t₂) = messages t₁ ++ messages t₂ := List.filterMap_append

/-- An event may put a message. -/
@[simp] theorem messages_cons (e : WorkerEvent) (t : List WorkerEvent) :
    messages (e :: t) = e.message?.toList ++ messages t := by
  rw [messages, List.filterMap_cons]
  cases e.message? <;> rfl

/-- The name under which a notifier shows a qube. -/
def StatusNotifier.shown (notifier : StatusNotifier) (name : String) : String :=
  notifier.masks.foldl (fun _ mask => mask) name

/-- Masking shows every message under the same name. -/
@[simp] theorem StatusNotifier.qname_mask (notifier : StatusNotifier) (message : Message PyFloat) :
    (notifier.mask message).qname = notifier.shown message.qname := by
  rw [mask, shown]
  induction notifier.masks generalizing message with
  | nil => rfl
  | cons name rest ih =>
      rw [List.foldl_cons, List.foldl_cons, ih, Message.qname_withQname]

/-- A masked final status is the final status of the shown qube. -/
theorem StatusNotifier.mask_done (notifier : StatusNotifier) (name : String)
    (final : FinalStatus) : notifier.mask (.status (.done name final))
      = .status (.done (notifier.shown name) final) := by
  rw [mask, shown]
  induction notifier.masks generalizing name with
  | nil => rfl
  | cons mask rest ih => exact ih mask

/-- Masking does not change what is announced. -/
@[simp] theorem StatusNotifier.doneStatus?_mask (notifier : StatusNotifier)
    (message : Message PyFloat) : (notifier.mask message).doneStatus? = message.doneStatus? := by
  rw [mask]
  induction notifier.masks generalizing message with
  | nil => rfl
  | cons name rest ih => rw [List.foldl_cons, ih, Message.doneStatus?_withQname]

/-! ## Outcomes of commands -/

/-- A status other than `UNKNOWN`, which stands for a lost connection. -/
def FinalStatus.Known (status : FinalStatus) : Prop := status ≠ .unknown

instance : DecidablePred FinalStatus.Known := fun _ => inferInstanceAs (Decidable (_ ≠ _))

/-- How a command run in a qube ended. -/
inductive Outcome
  /-- The process ended with an exit code. -/
  | exited (code : Int)
  /-- The command could not be run to its end: another exception than `CalledProcessError`. -/
  | failed
  deriving DecidableEq, Repr

namespace Outcome

/-- The code of the result: 100 is turned into 0, an exception into 1. -/
def code : Outcome → Int
  | .exited c => if c = 100 then 0 else c
  | .failed => 1

/-- The status of the connection afterwards: 100 is remembered as "no updates". -/
def status (s : FinalStatus) : Outcome → FinalStatus
  | .exited c => if c = 100 then .noUpdates else s
  | .failed => s

/-- Only exit code 100 changes the status. -/
theorem status_eq (s : FinalStatus) (o : Outcome) :
    o.status s = if o = .exited 100 then .noUpdates else s := by
  cases o with
  | exited c => simp [status]
  | failed => rfl

/-- No outcome makes the status unknown. -/
theorem known_status {s : FinalStatus} (h : s.Known) (o : Outcome) : (o.status s).Known := by
  rw [status_eq]
  split
  · decide
  · exact h

/-- The status is kept by every other outcome. -/
theorem status_of_ne {o : Outcome} (h : o ≠ .exited 100) (s : FinalStatus) : o.status s = s := by
  rw [status_eq, if_neg h]

/-- The outcome of a command that raised. -/
def ofException : PyException → Outcome
  | .calledProcessError returncode _ _ => .exited returncode
  | _ => .failed

/-- The outcome of a command that returned or raised; it returns only after exit code 0. -/
def ofResult {α : Type} : Except PyException α → Outcome
  | .ok _ => .exited 0
  | .error exc => .ofException exc

end Outcome

/-- The steps of an update: packing the agent, and the commands run in the qube. -/
inductive StepKind
  | archive
  | mkdir
  | copy
  | untar
  | entrypoint
  | readLogs
  | remove
  deriving DecidableEq, Repr

/-- Whether a step belongs to the transfer of the agent. -/
def StepKind.isTransfer : StepKind → Bool
  | .archive | .mkdir | .copy | .untar => true
  | _ => false

/-- The step that a command belongs to. -/
def Command.step : Command → StepKind
  | .mkdir _ => .mkdir
  | .untar _ _ => .untar
  | .entrypoint _ => .entrypoint
  | .readLogs _ => .readLogs
  | .remove _ => .remove

/-- Which command ended with an event, and how; a command whose streams are read as they come ends
with `wait`. -/
def WorkerEvent.commandOutcome? : WorkerEvent → Option (StepKind × Outcome)
  | ⟨.popen command, .ok (returncode, _, _)⟩ => some (command.step, .exited returncode)
  | ⟨.popen command, .error exc⟩ => some (command.step, .ofException exc)
  | ⟨.runWithArgs command, result⟩ => some (command.step, .ofResult result)
  | ⟨.copyArchive _, result⟩ => some (.copy, .ofResult result)
  | ⟨.wait, returncode⟩ => some (.entrypoint, .exited returncode)
  | _ => none

/-- The commands run to their end, in their order, with their outcomes. -/
def commands (t : List WorkerEvent) : List (StepKind × Outcome) :=
  t.filterMap WorkerEvent.commandOutcome?

/-- No command has been run. -/
@[simp] theorem commands_nil : commands [] = [] := rfl

/-- Two parts of a trace. -/
@[simp] theorem commands_append (t₁ t₂ : List WorkerEvent) :
    commands (t₁ ++ t₂) = commands t₁ ++ commands t₂ := List.filterMap_append

/-- An event may be a command. -/
@[simp] theorem commands_cons (e : WorkerEvent) (t : List WorkerEvent) :
    commands (e :: t) = e.commandOutcome?.toList ++ commands t := by
  rw [commands, List.filterMap_cons]
  cases e.commandOutcome? <;> rfl

/-- The status of the connection after some commands. -/
def statusAfter (s : FinalStatus) (outcomes : List (StepKind × Outcome)) : FinalStatus :=
  outcomes.foldl (fun s' command => command.2.status s') s

/-- Without commands, the status stays. -/
@[simp] theorem statusAfter_nil (s : FinalStatus) : statusAfter s [] = s := rfl

/-- One command and those after it. -/
@[simp] theorem statusAfter_cons (s : FinalStatus) (command : StepKind × Outcome)
    (rest : List (StepKind × Outcome)) :
    statusAfter s (command :: rest) = statusAfter (command.2.status s) rest := rfl

/-- Commands only change the status if one of them exits with 100. -/
theorem statusAfter_eq (s : FinalStatus) (outcomes : List (StepKind × Outcome)) :
    statusAfter s outcomes
      = if ∃ command ∈ outcomes, command.2 = .exited 100 then .noUpdates else s := by
  induction outcomes generalizing s with
  | nil => simp
  | cons command rest ih =>
      rw [statusAfter_cons, ih, Outcome.status_eq]
      by_cases hrest : ∃ command ∈ rest, command.2 = Outcome.exited 100
      · -- a later command exits with 100, whatever this one has done
        rw [if_pos hrest, if_pos]
        obtain ⟨c, hmem, hc⟩ := hrest
        exact ⟨c, List.mem_cons_of_mem command hmem, hc⟩
      · -- this command is the last that could
        rw [if_neg hrest]
        congr 1
        simp [hrest]

/-- The step that an event belongs to; a command whose streams are read as they come is the
entrypoint. -/
def WorkerEvent.step? : WorkerEvent → Option StepKind
  | ⟨.makeArchive _, _⟩ => some .archive
  | ⟨.popen command, _⟩ => some command.step
  | ⟨.runWithArgs command, _⟩ => some command.step
  | ⟨.copyArchive _, _⟩ => some .copy
  | ⟨.popenStreams _, _⟩ => some .entrypoint
  | ⟨.runService _ _, _⟩ => some .entrypoint
  | ⟨.outputEnd, _⟩ => some .entrypoint
  | ⟨.wait, _⟩ => some .entrypoint
  | _ => none

/-- A command that ends with an event is one of its step. -/
theorem WorkerEvent.step?_of_commandOutcome? {e : WorkerEvent} {step : StepKind} {o : Outcome}
    (h : e.commandOutcome? = some (step, o)) : e.step? = some step := by
  obtain ⟨c, reply⟩ := e
  cases c with
  | popen command =>
      rcases reply with exc | ⟨returncode, out, err⟩
      · rw [(Prod.mk.inj (Option.some.inj h)).1.symm]
        rfl
      · rw [(Prod.mk.inj (Option.some.inj h)).1.symm]
        rfl
  | runWithArgs command | copyArchive command | wait =>
      rw [(Prod.mk.inj (Option.some.inj h)).1.symm]
      rfl
  -- these calls end no command
  | readTermination | put _ | initLogs | isRunning _ | makeArchive _ | popenStreams _
  | runService _ _ | outputEnd | assignedPciDevices | shutdown _ | waitForDomainShutdown _ => cases h

/-- Whether an event reads the termination flag. -/
def WorkerEvent.readsTermination : WorkerEvent → Bool
  | ⟨.readTermination, _⟩ => true
  | _ => false

/-- Whether an event finds the termination flag set. -/
def WorkerEvent.seesTermination : WorkerEvent → Bool
  | ⟨.readTermination, cancelled⟩ => cancelled
  | _ => false

/-- To see the flag, one has to read it. -/
theorem WorkerEvent.readsTermination_of_seesTermination {e : WorkerEvent}
    (h : e.seesTermination = true) : e.readsTermination = true := by
  obtain ⟨c, reply⟩ := e
  cases c with
  | readTermination => rfl
  | _ => cases h

/-! ## Exceptions that no handler of the connection catches -/

/-- The replies after which the connection lets an exception out, although it has been entered. -/
def WorkerEvent.escapes : WorkerEvent → Prop
  | ⟨.makeArchive _, .error _⟩ => True
  | ⟨.copyArchive _, .error exc⟩ => exc.isOSError = false
  | ⟨.popenStreams _, .error _⟩ => True
  -- the name of the qube does not matter for whether the reader raises
  | ⟨.popenStreams _, .ok streams⟩ =>
      (collectStderr "" false (readLines (streams.stderr.getD []))).2.isSome = true
  | ⟨.runService _ _, .error _⟩ => True
  | ⟨.runService _ _, .ok streams⟩ =>
      (collectStderr "" false (readLines (streams.stderr.getD []))).2.isSome = true
  | ⟨.isRunning .exit, .error _⟩ => True
  | ⟨.assignedPciDevices, .error exc⟩ => exc.isQubesDaemonAccessError = false
  | ⟨.shutdown false, .error _⟩ => True
  | ⟨.shutdown true, .error exc⟩ => exc.isQubesVMError = false
  | ⟨.waitForDomainShutdown _, .error _⟩ => True
  | _ => False

/-- What an event that starts a command returns or raises. -/
def WorkerEvent.started? : WorkerEvent → Option (Except PyException Streams)
  | ⟨.popenStreams _, reply⟩ => some reply
  | ⟨.runService _ _, reply⟩ => some reply
  | _ => none

/-- A process is started here, or by a service of a qube. -/
theorem WorkerEvent.eq_of_started {e : WorkerEvent} {reply : Except PyException Streams}
    (h : e.started? = some reply) :
    (∃ argv, e = ⟨.popenStreams argv, reply⟩) ∨ ∃ argv user, e = ⟨.runService argv user, reply⟩ := by
  obtain ⟨c, reply'⟩ := e
  cases c with
  | popenStreams argv =>
      obtain rfl : reply' = reply := Option.some.inj h
      exact Or.inl ⟨argv, rfl⟩
  | runService argv user =>
      obtain rfl : reply' = reply := Option.some.inj h
      exact Or.inr ⟨argv, user, rfl⟩
  | readTermination | put _ | initLogs | isRunning _ | makeArchive _ | popen _ | runWithArgs _
  | copyArchive _ | outputEnd | wait | assignedPciDevices | shutdown _ | waitForDomainShutdown _ => cases h

/-- An event whose message, if it puts one, is shown under `name` and is not final. -/
def WorkerEvent.Progressing (name : String) (e : WorkerEvent) : Prop :=
  ∀ message, e.message? = some message → message.doneStatus? = none ∧ message.qname = name

/-- An event that neither puts a message nor reads the termination flag, and belongs to a step in
`steps`, if to any. -/
structure WorkerEvent.Quiet (steps : StepKind → Prop) (e : WorkerEvent) : Prop where
  /-- It does not read the termination flag. -/
  unread : e.readsTermination = false
  /-- It puts no message. -/
  silent : e.message? = none
  /-- Its step. -/
  step : ∀ step, e.step? = some step → steps step

/-- A progressing event that does not read the termination flag and belongs to a step in `steps`, if
to any. -/
structure WorkerEvent.Within (name : String) (steps : StepKind → Prop) (e : WorkerEvent) : Prop where
  /-- It does not read the termination flag. -/
  unread : e.readsTermination = false
  /-- It announces nothing. -/
  progressing : e.Progressing name
  /-- Its step. -/
  step : ∀ step, e.step? = some step → steps step

/-- An event without a message is progressing under any name. -/
theorem WorkerEvent.Quiet.progressing {name : String} {steps : StepKind → Prop} {e : WorkerEvent}
    (h : e.Quiet steps) : e.Progressing name := by
  intro message hmessage
  rw [h.silent] at hmessage
  cases hmessage

/-- Quiet events put no message. -/
theorem messages_quiet {steps : StepKind → Prop} {t : List WorkerEvent}
    (h : ∀ e ∈ t, WorkerEvent.Quiet steps e) : messages t = [] := by
  rw [messages, List.filterMap_eq_nil_iff]
  intro e he
  exact (h e he).silent

/-- The messages of progressing events. -/
theorem messages_progressing {name : String} {t : List WorkerEvent}
    (h : ∀ e ∈ t, WorkerEvent.Progressing name e) :
    ∀ message ∈ messages t, message.doneStatus? = none ∧ message.qname = name := by
  intro message hmem
  obtain ⟨e, he, hmessage⟩ := List.mem_filterMap.mp hmem
  exact h e he message hmessage

/-- Progressing events announce nothing. -/
theorem announced_progressing {name : String} {t : List WorkerEvent}
    (h : ∀ e ∈ t, WorkerEvent.Progressing name e) : announced t = [] := by
  rw [announced, List.filterMap_eq_nil_iff]
  intro message hmem
  exact (messages_progressing h message hmem).1

end QubesAdminLinux
