import QubesAdminLinux.VmUpdate.ConnectionRules

/-! # The power state of a qube after a connection

A connection starts its qube if necessary, and stops it when it is left.  Between them are the body of
the `with` statement and the removal of the working directory, either of which may fail.

* **`requestedShutdowns`** — the requests to shut down in a run, each with its path.
* **`Started`, `due`** — the qube was started by this connection; the requests that are due then, given
  what has been read of its devices.
* **`raised?`** — the exception that a call of the exit lets out.
* **`PowerRestored`** — the qube is read once more, its devices if it was started, what is due is
  requested, nothing is announced, and the only exception raised is the outcome;
  **`QubeConnection.powerRestored_release`** proves it for every run of the release.
* **`QubeConnection.left_of_runs`** — leaving a `with` statement in any way. -/

namespace QubesAdminLinux

open Proc WorkerEvent

/-! ## What is read and what is requested -/

/-- How a shutdown is requested. -/
inductive ShutdownPath
  /-- `shutdown_domains`: force the qube down and wait. -/
  | waiting
  /-- `vm.shutdown()`. -/
  | plain
  deriving DecidableEq, Repr

/-- The requests after `_has_assigned_pci_devices` has returned or raised. -/
def ShutdownPath.after : Except PyException Bool → List ShutdownPath
  | .ok true => [.waiting]
  | .ok false => [.plain]
  | .error _ => []

namespace WorkerEvent

/-- The shutdown that an event requests. -/
def requestedShutdown? : WorkerEvent → Option ShutdownPath
  | ⟨.shutdown true, _⟩ => some .waiting
  | ⟨.shutdown false, _⟩ => some .plain
  | _ => none

/-- What is read of the running state on exit. -/
def runningOnExit? : WorkerEvent → Option (Except PyException Bool)
  | ⟨.isRunning .exit, reply⟩ => some reply
  | _ => none

/-- What is read of the assigned PCI devices. -/
def assignedPciDevices? : WorkerEvent → Option (Except PyException Bool)
  | ⟨.assignedPciDevices, reply⟩ => some reply
  | _ => none

/-- Whether an event waits until the qube is down. -/
def waitsForShutdown : WorkerEvent → Bool
  | ⟨.waitForDomainShutdown true, _⟩ => true
  | _ => false

/-- Whether an event forces the qube down, and the qube accepts. -/
def forcesDown : WorkerEvent → Bool
  | ⟨.shutdown true, .ok ()⟩ => true
  | _ => false

/-- The exception that a call of `__exit__` lets out: denied access to the devices is caught, and so is
a qube that refuses to be forced down. -/
def raised? : WorkerEvent → Option PyException
  | ⟨.isRunning .exit, .error exc⟩ => some exc
  | ⟨.assignedPciDevices, .error exc⟩ => if exc.isQubesDaemonAccessError then none else some exc
  | ⟨.shutdown true, .error exc⟩ => if exc.isQubesVMError then none else some exc
  | ⟨.shutdown false, .error exc⟩ => some exc
  | ⟨.waitForDomainShutdown _, .error exc⟩ => some exc
  | _ => none

/-- An event that has nothing to do with the power state, and puts no message. -/
structure Powerless (e : WorkerEvent) : Prop where
  silent : e.message? = none
  unrequested : e.requestedShutdown? = none
  unread : e.runningOnExit? = none ∧ e.assignedPciDevices? = none
  unforced : e.waitsForShutdown = false ∧ e.forcesDown = false
  unraised : e.raised? = none

/-- The events of a command are such. -/
theorem powerless_of_step {e : WorkerEvent} {step : StepKind} (h : e.step? = some step) :
    e.Powerless := by
  obtain ⟨c, reply⟩ := e
  cases c with
  | makeArchive _ | popen _ | runWithArgs _ | copyArchive _ | popenStreams _ | runService _ _
  | outputEnd | wait => exact ⟨rfl, rfl, ⟨rfl, rfl⟩, ⟨rfl, rfl⟩, rfl⟩
  | readTermination | put _ | initLogs | isRunning _ | assignedPciDevices | shutdown _
  | waitForDomainShutdown _ => cases h

end WorkerEvent

/-- The shutdowns requested in a run. -/
def requestedShutdowns (t : List WorkerEvent) : List ShutdownPath :=
  t.filterMap WorkerEvent.requestedShutdown?

/-- What is read of the running state on exit, in a run. -/
def runningReads (t : List WorkerEvent) : List (Except PyException Bool) :=
  t.filterMap WorkerEvent.runningOnExit?

/-- What is read of the PCI devices, in a run. -/
def deviceReads (t : List WorkerEvent) : List (Except PyException Bool) :=
  t.filterMap WorkerEvent.assignedPciDevices?

/-- The exceptions that the calls of the exit let out, in a run. -/
def raisedExceptions (t : List WorkerEvent) : List PyException := t.filterMap WorkerEvent.raised?

/-- The exception of an outcome. -/
def exceptions {α : Type} : Except PyException α → List PyException
  | .ok _ => []
  | .error exc => [exc]

/-- The qube was not running on entry, and is found running on exit. -/
def Started (runningOnEntry : Bool) (runningOnExit : Except PyException Bool) : Prop :=
  runningOnEntry = false ∧ runningOnExit = .ok true

/-- The shutdowns that are due for a qube that was started, given what was read of its PCI devices.
Access to the devices may be denied; any other exception ends the exit. -/
def due : Except PyException Bool → List ShutdownPath
  | .ok true => [.waiting]
  | .ok false => [.plain]
  | .error exc => if exc.isQubesDaemonAccessError then [.plain] else []

/-- In the run `t` with outcome `r` the running state is read once.  The devices of a qube that was
started are read once, and what is due is requested; for any other qube they are not read, and nothing is
requested.  A qube that is forced down is waited for, nothing is put on the notifier, and the only
exception that a call lets out is the outcome. -/
structure PowerRestored (runningOnEntry : Bool) (t : List WorkerEvent) (r : Except PyException Unit) :
    Prop where
  silent : messages t = []
  stopped : ∃ runningOnExit, runningReads t = [runningOnExit] ∧
    (Started runningOnEntry runningOnExit → ∃ assigned, deviceReads t = [assigned] ∧
      requestedShutdowns t = due assigned) ∧
    (¬Started runningOnEntry runningOnExit → deviceReads t = [] ∧ requestedShutdowns t = [])
  awaited : t.any waitsForShutdown = t.any forcesDown
  raised : raisedExceptions t = exceptions r

/-- Events before that have nothing to do with the power state. -/
theorem PowerRestored.append {runningOnEntry : Bool} {t₁ t₂ : List WorkerEvent}
    {r : Except PyException Unit} (h : PowerRestored runningOnEntry t₂ r)
    (h₁ : ∀ e ∈ t₁, e.Powerless) : PowerRestored runningOnEntry (t₁ ++ t₂) r := by
  induction t₁ with
  | nil => exact h
  | cons e rest ih =>
      rw [List.forall_mem_cons] at h₁
      obtain ⟨hsilent, hunrequested, ⟨hrunning, hassigned⟩, ⟨hwaits, hforces⟩, hraised⟩ := h₁.1
      have hrest := ih h₁.2
      rw [List.cons_append]
      refine ⟨?_, ?_, ?_, ?_⟩
      · rw [messages_cons, hsilent, hrest.silent]
        rfl
      · rw [runningReads, deviceReads, requestedShutdowns, List.filterMap_cons_none hrunning,
          List.filterMap_cons_none hassigned, List.filterMap_cons_none hunrequested]
        exact hrest.stopped
      · rw [List.any_cons, List.any_cons, hwaits, hforces]
        exact hrest.awaited
      · rw [raisedExceptions, List.filterMap_cons_none hraised]
        exact hrest.raised

namespace QubeConnection

variable {conn : QubeConnection} {s s' : FinalStatus} {t : List WorkerEvent}

/-- The removal of the working directory has nothing to do with the power state, and no exception
gets out of it. -/
theorem emits_removeDestDir_powerless :
    Emits (fun e : WorkerEvent => e.Powerless ∧ ¬ e.escapes) conn.removeDestDir :=
  emits_removal fun _ _ he => ⟨powerless_of_step he.step, he.caught⟩

/-- What is left of the exit after the reads: requests, a wait for a qube that is forced down, and the only
exception that is let out. -/
structure Requested (requests : List ShutdownPath) (t : List WorkerEvent) (r : Except PyException Unit) :
    Prop where
  silent : messages t = []
  unread : runningReads t = [] ∧ deviceReads t = []
  requested : requestedShutdowns t = requests
  awaited : t.any waitsForShutdown = t.any forcesDown
  raised : raisedExceptions t = exceptions r

/-- The shutdown of a qube that is only asked. -/
theorem requested_shutdown (reply : Except PyException Unit) :
    Requested [.plain] [⟨.shutdown false, reply⟩] reply := by
  cases reply with
  | ok _ => exact ⟨rfl, ⟨rfl, rfl⟩, rfl, rfl, rfl⟩
  | error exc => exact ⟨rfl, ⟨rfl, rfl⟩, rfl, rfl, rfl⟩

/-- A qube that is forced down, and waited for. -/
theorem requested_accepted (reply : Except PyException Unit) : Requested [.waiting]
    [⟨.shutdown true, .ok ()⟩, ⟨.waitForDomainShutdown true, reply⟩] reply := by
  cases reply with
  | ok _ => exact ⟨rfl, ⟨rfl, rfl⟩, rfl, rfl, rfl⟩
  | error exc => exact ⟨rfl, ⟨rfl, rfl⟩, rfl, rfl, rfl⟩

/-- A qube that refuses to be forced down is left out of the wait. -/
theorem requested_refused (text : String) (reply : Except PyException Unit) : Requested [.waiting]
    [⟨.shutdown true, .error (.qubesVMError text)⟩, ⟨.waitForDomainShutdown false, reply⟩] reply := by
  cases reply with
  | ok _ => exact ⟨rfl, ⟨rfl, rfl⟩, rfl, rfl, rfl⟩
  | error exc => exact ⟨rfl, ⟨rfl, rfl⟩, rfl, rfl, rfl⟩

/-- The request of the shutdown by the waiting path. -/
theorem requested_of_shutdownDomain {r : Except PyException Unit} (h : Runs shutdownDomain s t r s') :
    Requested [.waiting] t r := by
  obtain ⟨reply, t₁, rfl, hrest⟩ := runs_call h
  rcases reply with exc | ⟨⟩
  · cases exc with
    | qubesVMError text =>
        obtain ⟨waited, t₂, rfl, hreply⟩ := runs_call hrest
        obtain ⟨rfl, rfl, -⟩ := runs_ofReply.mp hreply
        exact requested_refused text r
    | calledProcessError _ _ text | osError text | qubesDaemonAccessError text | indexError text
    | keyError text | other text =>
        obtain ⟨rfl, rfl, -⟩ := runs_throw.mp hrest
        exact ⟨rfl, ⟨rfl, rfl⟩, rfl, rfl, rfl⟩
  · obtain ⟨waited, t₂, rfl, hreply⟩ := runs_call hrest
    obtain ⟨rfl, rfl, -⟩ := runs_ofReply.mp hreply
    exact requested_accepted r

/-- The devices are read once; denied access counts as no devices, and no other exception is caught. -/
theorem runs_hasAssignedPciDevices {r : Except PyException Bool}
    (h : Runs hasAssignedPciDevices s t r s') :
    ∃ assigned, t = [⟨.assignedPciDevices, assigned⟩] ∧ due assigned = ShutdownPath.after r ∧
      raisedExceptions t = exceptions r := by
  obtain ⟨reply, t₁, rfl, hrest⟩ := runs_call h
  rcases reply with exc | assigned
  · cases exc with
    | qubesDaemonAccessError text =>
        obtain ⟨rfl, rfl, -⟩ := runs_pure.mp hrest
        exact ⟨_, rfl, rfl, rfl⟩
    | calledProcessError _ _ text | osError text | qubesVMError text | indexError text
    | keyError text | other text =>
        obtain ⟨rfl, rfl, -⟩ := runs_throw.mp hrest
        exact ⟨_, rfl, rfl, rfl⟩
  · obtain ⟨rfl, rfl, -⟩ := runs_pure.mp hrest
    cases assigned with
    | true => exact ⟨_, rfl, rfl, rfl⟩
    | false => exact ⟨_, rfl, rfl, rfl⟩

/-- The shutdown of a qube that was started, after its devices have been read. -/
theorem powerRestored_shutdown {assigned : Except PyException Bool} {r : Except PyException Unit}
    (hread : raisedExceptions [⟨.assignedPciDevices, assigned⟩] = [])
    (hrequested : Requested (due assigned) t r) :
    PowerRestored false
      (⟨.isRunning .exit, .ok true⟩ :: ([⟨.assignedPciDevices, assigned⟩] ++ t)) r := by
  refine ⟨?_, ⟨.ok true, ?_, fun _ => ⟨assigned, ?_, ?_⟩, fun hnot => absurd ⟨rfl, rfl⟩ hnot⟩, ?_, ?_⟩
  · rw [messages_cons, List.singleton_append, messages_cons, hrequested.silent]
    rfl
  · exact congrArg (List.cons (.ok true)) hrequested.unread.1
  · exact congrArg (List.cons assigned) hrequested.unread.2
  · exact hrequested.requested
  · exact hrequested.awaited
  · have hcons : raisedExceptions (⟨.isRunning .exit, .ok true⟩ ::
        ([⟨.assignedPciDevices, assigned⟩] ++ t))
        = raisedExceptions [⟨.assignedPciDevices, assigned⟩] ++ raisedExceptions t :=
      List.filterMap_append
    rw [hcons, hread, List.nil_append]
    exact hrequested.raised

/-- The qube is stopped as it is due. -/
theorem powerRestored_stopQube {runningOnEntry : Bool} {r : Except PyException Unit}
    (h : Runs (stopQube runningOnEntry) s t r s') : PowerRestored runningOnEntry t r := by
  obtain ⟨reply, t₁, rfl, hread⟩ := runs_call h
  rcases runs_bind.mp hread with ⟨exc, rfl, hreply⟩ | ⟨running, t₂, t₃, s₁, rfl, hreply, hrest⟩
  · -- the running state cannot be read
    obtain ⟨rfl, hreply, -⟩ := runs_ofReply.mp hreply
    cases hreply
    refine ⟨rfl, ⟨.error exc, rfl, ?_, fun _ => ⟨rfl, rfl⟩⟩, rfl, rfl⟩
    rintro ⟨-, hrunning⟩
    cases hrunning
  obtain ⟨rfl, rfl, rfl⟩ := runs_ofReply.mp hreply
  rw [List.nil_append]
  split at hrest
  · rename_i hstarted
    obtain ⟨rfl, rfl⟩ : running = true ∧ runningOnEntry = false := by simpa using hstarted
    rcases runs_bind.mp hrest with ⟨exc, rfl, hdevices⟩ | ⟨b, t₄, t₅, s₂, rfl, hdevices, hrequest⟩
    · -- reading the devices has raised
      obtain ⟨assigned, rfl, hdue, hraised⟩ := runs_hasAssignedPciDevices hdevices
      exact ⟨rfl, ⟨.ok true, rfl, fun _ => ⟨assigned, rfl, hdue.symm⟩,
        fun hnot => absurd ⟨rfl, rfl⟩ hnot⟩, rfl, hraised⟩
    obtain ⟨assigned, rfl, hdue, hraised⟩ := runs_hasAssignedPciDevices hdevices
    cases b with
    | true =>
        refine powerRestored_shutdown hraised ?_
        rw [hdue]
        exact requested_of_shutdownDomain hrequest
    | false =>
        obtain ⟨reply, t₆, rfl, hreply'⟩ := runs_call hrequest
        obtain ⟨rfl, rfl, -⟩ := runs_ofReply.mp hreply'
        refine powerRestored_shutdown hraised ?_
        rw [hdue]
        exact requested_shutdown r
  · rename_i hstarted
    obtain ⟨rfl, rfl, -⟩ := runs_pure.mp hrest
    refine ⟨rfl, ⟨.ok running, rfl, ?_, fun _ => ⟨rfl, rfl⟩⟩, rfl, rfl⟩
    rintro ⟨hentry, hrunning⟩
    apply absurd _ hstarted
    cases hrunning
    rw [hentry]
    rfl

/-- The release restores the power state, whatever the removal of the directory does. -/
theorem powerRestored_release {runningOnEntry : Bool} {r : Except PyException Unit}
    (h : Runs (conn.release runningOnEntry) s t r s') : PowerRestored runningOnEntry t r := by
  rcases runs_bind.mp h with ⟨exc, rfl, hremove⟩ | ⟨_, t₁, t₂, s₁, rfl, hremove, hstop⟩
  · -- an exception of the removal is swallowed
    have hevents := emits_removeDestDir_powerless s t _ s' hremove
    obtain ⟨e, he, hescapes⟩ := (failsOn_removeDestDir s t _ s' hremove).mp ⟨exc, rfl⟩
    exact absurd hescapes (hevents e he).2
  · have hevents := emits_removeDestDir_powerless s t₁ _ s₁ hremove
    exact (powerRestored_stopQube hstop).append fun e he => (hevents e he).1

/-- Leaving a connection, in every run of a `with` statement that is entered: the DONE message has the
status that the body has left, the power state is restored, and the outcome is that of the body unless
a call of the exit lets an exception out, which is the outcome then. -/
theorem left_of_runs {α : Type} {body : WorkerM α} {r : Except PyException α}
    (h : Runs (conn.withConnection body) s t r s') :
    (∃ exc, t = [⟨.isRunning .entry, .error exc⟩] ∧ r = .error exc) ∨
    ∃ runningOnEntry tb q sb te re,
      t = ⟨.isRunning .entry, .ok runningOnEntry⟩ :: (tb ++ conn.doneEvent sb :: te) ∧
      Runs body .error tb q sb ∧ PowerRestored runningOnEntry te re ∧
      (raisedExceptions te = [] → r = q) ∧ ∀ exc ∈ raisedExceptions te, r = .error exc := by
  rcases runs_withConnection h with hentry | ⟨running, tb, te, q, sb, re, rfl, hbody, hrelease, rfl⟩
  · exact Or.inl hentry
  · have hrestored := powerRestored_release hrelease
    refine Or.inr ⟨running, tb, q, sb, te, re, rfl, hbody, hrestored, ?_⟩
    rw [hrestored.raised]
    cases re with
    | ok _ => exact ⟨fun _ => rfl, fun _ hexc => absurd hexc List.not_mem_nil⟩
    | error exc =>
        refine ⟨fun hnone => absurd hnone (List.cons_ne_nil _ _), fun exc' hexc => ?_⟩
        rw [List.mem_singleton.mp hexc]
        rfl

/-- A connection without cleanup. -/
def plainConnection (name : String) : QubeConnection where
  qube := ⟨name, .templateVM, templateVM_adminName name⟩
  destDir := none
  cleanup := false
  showProgress := false
  statusNotifier := {}

/-- A qube that was not running and has been started, given what is read of its devices. -/
def startedQube (assigned : Except PyException Bool) : (c : WorkerCall) → c.Reply
  | .readTermination => false
  | .put _ => ()
  | .initLogs => .ok ()
  | .isRunning .entry => .ok false
  | .isRunning .exit => .ok true
  | .makeArchive _ => .ok ()
  | .popen _ => .ok (0, [], [])
  | .runWithArgs _ => .ok ([], [])
  | .copyArchive _ => .ok ([], [])
  | .popenStreams _ => .ok ⟨none, none, []⟩
  | .runService _ _ => .ok ⟨none, none, []⟩
  | .outputEnd => ()
  | .wait => (0 : Int)
  | .assignedPciDevices => assigned
  | .shutdown _ => .ok ()
  | .waitForDomainShutdown _ => .ok ()

/-- The run of a `with` statement whose body raises. -/
def raisingRun (assigned : Except PyException Bool) :
    List WorkerEvent × Except PyException Unit × FinalStatus :=
  play (startedQube assigned) ((plainConnection "fedora").withConnection
    (throw (.keyError "fedora") : WorkerM Unit)) .error

/-- The body raises in a qube with devices: it is forced down once, and the exception of the body leaves. -/
theorem left_of_runs_assigned :
    requestedShutdowns (raisingRun (.ok true)).1 = [.waiting] ∧
    (raisingRun (.ok true)).2.1 = .error (.keyError "fedora") ∧
    ((∃ exc, (raisingRun (.ok true)).1 = [⟨.isRunning .entry, .error exc⟩] ∧
      (raisingRun (.ok true)).2.1 = .error exc) ∨
    ∃ runningOnEntry tb q sb te re,
      (raisingRun (.ok true)).1 = ⟨.isRunning .entry, .ok runningOnEntry⟩ ::
        (tb ++ (plainConnection "fedora").doneEvent sb :: te) ∧
      Runs (throw (.keyError "fedora") : WorkerM Unit) .error tb q sb ∧
      PowerRestored runningOnEntry te re ∧
      (raisedExceptions te = [] → (raisingRun (.ok true)).2.1 = q) ∧
      ∀ exc ∈ raisedExceptions te, (raisingRun (.ok true)).2.1 = .error exc) := by
  have hrun : Runs ((plainConnection "fedora").withConnection
      (throw (.keyError "fedora") : WorkerM Unit)) .error (raisingRun (.ok true)).1
      (raisingRun (.ok true)).2.1 (raisingRun (.ok true)).2.2 := runs_play _ _ _
  exact ⟨rfl, rfl, left_of_runs hrun⟩

/-- The body raises, and so does the reading of the devices: no shutdown is requested, and the
exception of the body is lost. -/
theorem not_requested_unreadableDevices :
    (¬ ∀ (conn : QubeConnection) (body : WorkerM Unit) (s s' : FinalStatus) (t : List WorkerEvent)
      (r : Except PyException Unit) (runningOnEntry : Bool) (tb : List WorkerEvent)
      (q : Except PyException Unit) (sb : FinalStatus) (te : List WorkerEvent),
      Runs (conn.withConnection body) s t r s' →
      t = ⟨.isRunning .entry, .ok runningOnEntry⟩ :: (tb ++ conn.doneEvent sb :: te) →
      Runs body .error tb q sb →
      runningOnEntry = false → runningReads te = [.ok true] →
      (requestedShutdowns te).length = 1) ∧
    (raisingRun (.error (.other "Failed to list devices"))).2.1
      = .error (.other "Failed to list devices") := by
  have hrun := runs_play (startedQube (.error (.other "Failed to list devices")))
    ((plainConnection "fedora").withConnection (throw (.keyError "fedora") : WorkerM Unit)) .error
  refine ⟨fun h => ?_, rfl⟩
  have hone := h _ _ _ _ _ _ false [] (.error (.keyError "fedora")) .error
    [⟨.isRunning .exit, .ok true⟩, ⟨.assignedPciDevices, .error (.other "Failed to list devices")⟩]
    hrun rfl (runs_throw.mpr ⟨rfl, rfl, rfl⟩) rfl rfl
  exact absurd hone (by decide)

end QubeConnection

end QubesAdminLinux
