import QubesAdminLinux.VmUpdate.UpdateAgent
import Mathlib.Data.List.Basic

/-! # What the update of a qube announces

The progress display counts the final statuses it receives against the number of qubes, so each
update should announce exactly one.

* **`runs_buildAndRunAgent`** — the guarded part of `update_qube` announces the status its connection
  has at the end, once, and raises exactly if an exception escapes from the connection.
* **`messages_updateQube`** — the whole update puts its progress and then one final status, or two.
* **`updateQube_announces_once_iff`** — the whole update announces exactly one final status, as its
  last message, if and only if no exception escapes. -/

namespace QubesAdminLinux

open Proc WorkerEvent QubeConnection

/-- A sequence of messages about the qube `name` that announces one final status, at its end. -/
def AnnouncesOnceLast (name : String) (queue : List (Message PyFloat)) : Prop :=
  ∃ progress final, queue = progress ++ [.status (.done name final)] ∧
    ∀ message ∈ progress, message.doneStatus? = none ∧ message.qname = name

/-- A final status before the last message. -/
theorem not_announcesOnceLast {name : String} {queue : List (Message PyFloat)}
    {message last : Message PyFloat} (hmem : message ∈ queue)
    (hdone : message.doneStatus? ≠ none) : ¬ AnnouncesOnceLast name (queue ++ [last]) := by
  rintro ⟨progress, final, hqueue, hprogress⟩
  obtain ⟨rfl, -⟩ := List.append_inj' hqueue rfl
  exact hdone (hprogress message hmem).1

variable {thisDir : String} {qube : Qube} {agentArgs : Args} {showProgress dom0 : Bool}

/-- A guarded update either ends before the connection is entered, with an exception, or has three
parts: the body, the DONE message, the release. -/
theorem parts_buildAndRunAgent {s s' : FinalStatus} {t : List WorkerEvent}
    {r : Except PyException (String × ProcessResult)}
    (h : Runs (buildAndRunAgent thisDir qube agentArgs showProgress dom0) s t r s') :
    (∃ exc, r = .error exc ∧ (t = [⟨.initLogs, .error exc⟩] ∨
      t = [⟨.initLogs, .ok ()⟩, ⟨.isRunning .entry, .error exc⟩])) ∨
    ∃ (runner : UpdateAgentManager) (notifier : StatusNotifier) (running : Bool)
      (tb te : List WorkerEvent) (q : Except PyException ProcessResult) (sb : FinalStatus)
      (re : Except PyException Unit),
      (runner.connection agentArgs notifier).1.statusNotifier.shown
        (runner.connection agentArgs notifier).1.qube.name = shownName qube agentArgs ∧
      t = ⟨.initLogs, .ok ()⟩ :: ⟨.isRunning .entry, .ok running⟩
        :: (tb ++ (runner.connection agentArgs notifier).1.doneEvent sb :: te) ∧
      Runs (runner.runInConnection (runner.connection agentArgs notifier).1
        (runner.connection agentArgs notifier).2.1 (runner.connection agentArgs notifier).2.2 agentArgs)
        .error tb q sb ∧
      Runs ((runner.connection agentArgs notifier).1.release running) sb te re s' ∧
      ((∃ exc, r = .error exc) ↔ ∃ exc, (re.bind fun _ => q) = .error exc) := by
  rcases runs_bind.mp h with ⟨exc, rfl, hinit⟩ | ⟨runner, t₁, t₂, s₁, rfl, hinit, hrest⟩
  · rcases UpdateAgentManager.runs_init hinit with ⟨exc', rfl, hr⟩ | ⟨runner, -, hr, -⟩
    · cases hr
      exact Or.inl ⟨exc, rfl, Or.inl rfl⟩
    · cases hr
  rcases UpdateAgentManager.runs_init hinit with ⟨exc', -, hr⟩ | ⟨runner', rfl, hr, hqube⟩
  · cases hr
  cases hr
  -- the connection, whose result is paired with the name of the qube
  have hrun : ∃ q, Runs (runner.runAgent agentArgs (qubeNotifier agentArgs)) s₁ t₂ q s' ∧
      r = q.map fun result => (qube.name, result) := by
    rcases runs_bind.mp hrest with ⟨exc, rfl, hrun⟩ | ⟨result, t₃, t₄, s₂, rfl, hrun, hend⟩
    · exact ⟨_, hrun, rfl⟩
    · obtain ⟨rfl, rfl, rfl⟩ := runs_pure.mp hend
      exact ⟨_, by rwa [List.append_nil], rfl⟩
  obtain ⟨q, hrun, rfl⟩ := hrun
  obtain ⟨q', hwith, rfl⟩ := UpdateAgentManager.runs_runAgent hrun
  have hname := runner.shown_connection agentArgs (qubeNotifier agentArgs)
  rw [hqube, shown_qubeNotifier] at hname
  have hraises : ∀ (x : Except PyException ProcessResult) (f : ProcessResult → ProcessResult)
      (g : ProcessResult → String × ProcessResult),
      (∃ exc, (x.map f).map g = .error exc) ↔ ∃ exc, x = .error exc := by
    intro x f g
    cases x with
    | error exc => exact iff_of_true ⟨exc, rfl⟩ ⟨exc, rfl⟩
    | ok result => exact iff_of_false (by rintro ⟨exc, ⟨⟩⟩) (by rintro ⟨exc, ⟨⟩⟩)
  rcases runs_withConnection hwith with
    ⟨exc, rfl, rfl⟩ | ⟨running, tb, te, q, sb, re, rfl, hbody, hrelease, rfl⟩
  · exact Or.inl ⟨exc, rfl, Or.inr rfl⟩
  · exact Or.inr ⟨runner, _, running, tb, te, q, sb, re, hname, rfl, hbody, hrelease, hraises _ _ _⟩

/-- A guarded update either ends before the connection is entered, with an exception and without a
message, or announces the status its body has left; then it raises exactly if an exception escapes
from the connection. -/
theorem runs_buildAndRunAgent {s s' : FinalStatus} {t : List WorkerEvent}
    {r : Except PyException (String × ProcessResult)}
    (h : Runs (buildAndRunAgent thisDir qube agentArgs showProgress dom0) s t r s') :
    ((∃ exc, r = .error exc) ∧ messages t = [] ∧ ∀ e ∈ t, ¬ escapes e) ∨
    ∃ (before : List WorkerEvent) (final : FinalStatus),
      messages t = messages before ++ [.status (.done (shownName qube agentArgs) final)] ∧
      (∀ e ∈ before, Progressing (shownName qube agentArgs) e) ∧
      ((∃ exc, r = .error exc) ↔ ∃ e ∈ t, escapes e) ∧ final.Known := by
  rcases parts_buildAndRunAgent h with ⟨exc, rfl, rfl | rfl⟩ |
    ⟨runner, notifier, running, tb, te, q, sb, re, hname, rfl, hbody, hrelease, hr⟩
  · exact Or.inl ⟨⟨exc, rfl⟩, rfl, by simp [escapes]⟩
  · exact Or.inl ⟨⟨exc, rfl⟩, rfl, by simp [escapes]⟩
  right
  have hbefore := UpdateAgentManager.emits_runInConnection hname _ _ _ _ hbody
  have hreleaseQuiet : ∀ e ∈ te, Quiet (fun _ => True) e :=
    emits_release running trivial _ _ _ _ hrelease
  have hafter := messages_quiet hreleaseQuiet
  have hbodyFails := UpdateAgentManager.failsOn_runInConnection _ _ _ _ _ hbody
  have hreleaseFails := failsOn_release running _ _ _ _ hrelease
  refine ⟨tb, sb, ?_, hbefore, ?_, ?_⟩
  · have hdone := message?_doneEvent (runner.connection agentArgs notifier).1 sb
    rw [hname] at hdone
    simp only [messages_append, messages_cons, hdone, hafter]
    rfl
  · -- entering and announcing cannot raise
    have hcalls : (∃ e ∈ ⟨.initLogs, .ok ()⟩ ::
        ⟨.isRunning .entry, .ok running⟩
          :: (tb ++ (runner.connection agentArgs notifier).1.doneEvent sb :: te), escapes e)
        ↔ (∃ e ∈ tb, escapes e) ∨ ∃ e ∈ te, escapes e := by
      simp [escapes, doneEvent, or_and_right, exists_or]
    rw [hr, hcalls, ← hbodyFails, ← hreleaseFails]
    -- an exception of the body or of the release, and only these
    cases q with
    | error exc =>
        cases re with
        | error exc' => exact iff_of_true ⟨exc', rfl⟩ (Or.inl ⟨exc, rfl⟩)
        | ok _ => exact iff_of_true ⟨exc, rfl⟩ (Or.inl ⟨exc, rfl⟩)
    | ok result =>
        cases re with
        | error exc' => exact iff_of_true ⟨exc', rfl⟩ (Or.inr ⟨exc', rfl⟩)
        | ok _ =>
            refine iff_of_false (by rintro ⟨exc, ⟨⟩⟩) ?_
            rintro (⟨exc, h⟩ | ⟨exc, h⟩)
            · cases h
            · cases h
  · -- the connection starts with ERROR
    exact UpdateAgentManager.preserves_runInConnection _ _ _ _ hbody (by decide)

/-- The final status that `update_qube` itself puts. -/
theorem messages_putDone (qube : Qube) (agentArgs : Args) (final : FinalStatus) :
    messages [⟨.put ((qubeNotifier agentArgs).mask (.status (.done qube.name final))), ()⟩]
      = [.status (.done (shownName qube agentArgs) final)] := by
  rw [← shown_qubeNotifier]
  exact congrArg (fun message => [message]) (StatusNotifier.mask_done _ _ _)

/-- What the update of a qube puts: its progress, and then one final status, or two of them if an
exception escapes from its connection, since the handler of `update_qube` announces one more.  None of
them is UNKNOWN. -/
theorem messages_updateQube {s s' : FinalStatus} {t : List WorkerEvent}
    {r : Except PyException (String × ProcessResult)}
    (h : Runs (updateQube thisDir qube agentArgs showProgress dom0) s t r s') :
    ∃ (progress : List (Message PyFloat)) (finals : List FinalStatus),
      messages t
        = progress ++ finals.map (fun final => .status (.done (shownName qube agentArgs) final)) ∧
      (∀ message ∈ progress,
        message.doneStatus? = none ∧ message.qname = shownName qube agentArgs) ∧
      (∀ final ∈ finals, final.Known) ∧
      ((finals.length = 1 ∧ ∀ e ∈ t, ¬ escapes e) ∨
        (finals.length = 2 ∧ ∃ e ∈ t, escapes e)) := by
  obtain ⟨cancelled, t₂, rfl, hrest⟩ := runs_call h
  have hread : ¬ escapes ⟨.readTermination, cancelled⟩ := id
  have hsilent : message? ⟨.readTermination, cancelled⟩ = none := rfl
  have hlater : (∃ e ∈ ⟨.readTermination, cancelled⟩ :: t₂, escapes e) ↔ ∃ e ∈ t₂, escapes e := by
    simp [hread]
  rw [List.forall_mem_cons, and_iff_right hread, hlater, messages_cons, hsilent,
    Option.toList_none, List.nil_append]
  change Bool at cancelled
  cases cancelled with
  -- cancelled before the start: one message, and no connection
  | true =>
      obtain ⟨⟨⟩, t₃, rfl, hend⟩ := runs_call hrest
      obtain ⟨rfl, -, -⟩ := runs_pure.mp hend
      rw [messages_putDone]
      exact ⟨[], [.cancelled], rfl, by simp, List.forall_mem_singleton.mpr (by decide),
        Or.inl ⟨rfl, by simp [escapes]⟩⟩
  | false =>
      rcases runs_tryCatch.mp hrest with ⟨result, rfl, hok⟩ | ⟨exc, t₃, t₄, s₁, rfl, hraise, hhandler⟩
      · -- no exception: the connection has announced its status
        rcases runs_buildAndRunAgent hok with
          ⟨⟨exc, hr⟩, -⟩ | ⟨before, final, hmessages, hbefore, hfails, hknown⟩
        · cases hr
        · have hnone : ¬ ∃ e ∈ t₂, escapes e := by
            rw [← hfails]
            simp
          exact ⟨messages before, [final], hmessages, messages_progressing hbefore,
            List.forall_mem_singleton.mpr hknown, Or.inl ⟨rfl, by simpa using hnone⟩⟩
      · -- the handler announces ERROR
        obtain ⟨⟨⟩, t₅, rfl, hend⟩ := runs_call hhandler
        obtain ⟨rfl, -, -⟩ := runs_pure.mp hend
        have hput : ∀ message, ¬ escapes ⟨.put message, ()⟩ := fun _ => id
        rw [messages_append, messages_putDone, List.forall_mem_append, List.forall_mem_singleton,
          and_iff_left (hput _)]
        rcases runs_buildAndRunAgent hraise with
          ⟨-, hnil, hcaught⟩ | ⟨before, final, hmessages, hbefore, hfails, hknown⟩
        · -- before the connection was entered: this is the only announcement
          rw [hnil]
          exact ⟨[], [.error], rfl, by simp, List.forall_mem_singleton.mpr (by decide),
            Or.inl ⟨rfl, hcaught⟩⟩
        · -- after that: it is the second one
          obtain ⟨e, he, hescape⟩ := hfails.mp ⟨exc, rfl⟩
          refine ⟨messages before, [final, .error], ?_, messages_progressing hbefore,
            List.forall_mem_cons.mpr ⟨hknown, List.forall_mem_singleton.mpr (by decide)⟩,
            Or.inr ⟨rfl, e, List.mem_append_left _ he, hescape⟩⟩
          rw [hmessages, List.append_assoc]
          rfl

/-! ## Before the end of an agent -/

/-- The update of a qube announces exactly one final status, as its last message, if and only if no
exception escapes from its connection: after one that does, the handler of `update_qube` announces a
second one. -/
theorem updateQube_announces_once_iff {s s' : FinalStatus} {t : List WorkerEvent}
    {r : Except PyException (String × ProcessResult)}
    (h : Runs (updateQube thisDir qube agentArgs showProgress dom0) s t r s') :
    AnnouncesOnceLast (shownName qube agentArgs) (messages t) ↔ ∀ e ∈ t, ¬ escapes e := by
  obtain ⟨progress, finals, hmessages, hprogress, -, ⟨hone, hcaught⟩ | ⟨htwo, e, he, hescape⟩⟩ :=
    messages_updateQube h
  · obtain ⟨final, rfl⟩ := List.length_eq_one_iff.mp hone
    exact iff_of_true ⟨progress, final, hmessages, hprogress⟩ hcaught
  · -- the first of two final statuses comes before the last message
    obtain ⟨first, last, rfl⟩ := List.length_eq_two.mp htwo
    refine iff_of_false ?_ fun hcaught => hcaught e he hescape
    rw [hmessages, List.map_cons, List.map_singleton, List.append_cons]
    exact not_announcesOnceLast (List.mem_append_right _ (List.mem_singleton_self _))
      (Option.some_ne_none first)

/-- The update of a qube whose archive is copied with outcome `copied`. -/
def copyingRun (copied : Except PyException (Bytes × Bytes)) :
    List WorkerEvent × Except PyException (String × ProcessResult) × FinalStatus :=
  play (cannedEnvironment (.ok ([], [])) copied 0)
    (updateQube "/usr/lib/vmupdate" ⟨"work", .standaloneVM, by decide⟩ {} true false) .error

/-- The characterisation in a run whose copy fails with an `OSError`. -/
theorem updateQube_announces_once_iff_osError :
    AnnouncesOnceLast "work" (messages (copyingRun (.error (.osError "no space"))).1)
      ↔ ∀ e ∈ (copyingRun (.error (.osError "no space"))).1, ¬ escapes e :=
  updateQube_announces_once_iff (runs_play _ _ _)

/-- If the copy of the archive exits with a non-zero code, `qube.run` raises `CalledProcessError`,
and two final statuses are announced. -/
theorem updateQube_announces_twice :
    ¬ ∀ (thisDir : String) (qube : Qube) (agentArgs : Args) (showProgress dom0 : Bool)
      (s s' : FinalStatus) (t : List WorkerEvent) (r : Except PyException (String × ProcessResult)),
      Runs (updateQube thisDir qube agentArgs showProgress dom0) s t r s' →
      AnnouncesOnceLast (shownName qube agentArgs) (messages t) := by
  intro h
  have honce := h _ _ _ _ _ _ _ _ _ (runs_play (cannedEnvironment
    (.ok ([], [])) (.error (.calledProcessError 1 none "exit status 1")) 0)
    (updateQube "/usr/lib/vmupdate" ⟨"work", .standaloneVM, by decide⟩ {} true false) .error)
  have htwice : messages (copyingRun (.error (.calledProcessError 1 none "exit status 1"))).1
      = [.status (.done "work" .error)] ++ [.status (.done "work" .error)] := by rfl
  rw [copyingRun] at htwice
  rw [htwice] at honce
  have hmem : (.status (.done "work" .error) : Message PyFloat) ∈ [.status (.done "work" .error)] :=
    List.mem_singleton_self _
  exact not_announcesOnceLast hmem (Option.some_ne_none FinalStatus.error) honce

end QubesAdminLinux
