import QubesAdminLinux.VmUpdate.StderrLines

/-! # Exit codes and start-up failures of commands

A command run in a qube ends with an exit code, or cannot be started.  The connection has three ways to
run one: `run_with_args` and `run`, which raise on a non-zero exit code, and a service process whose
streams are read.

* **`Ending`**, **`Follows`** — how commands end, and the replies that say so.
* **`transferAgent_reports_iff`** — the transfer of the agent reports the first failing step, unless
  copying fails, or a step exits with 100 or with a negative code.
* **`runCommand_agree_iff`** — waiting for a command and reading its streams agree if and only if the
  command can be started and its error stream can be read. -/

namespace QubesAdminLinux

open Proc WorkerEvent QubeConnection

/-- How a command ends. -/
inductive Ending
  /-- Its process exits. -/
  | exits (code : Int)
  /-- It cannot be started. -/
  | raises (exc : PyException)

namespace Ending

/-- What a call that waits for the command returns or raises. -/
def Answers : Ending → Except PyException (Bytes × Bytes) → Prop
  | .exits code, .ok _ => code = 0
  | .exits code, .error exc => code ≠ 0 ∧ ∃ output text, exc = .calledProcessError code output text
  | .raises exc, reply => reply = .error exc

/-- What a call that starts the command returns or raises. -/
def Starts : Ending → Except PyException Streams → Prop
  | .exits _, reply => ∃ streams, reply = .ok streams
  | .raises exc, reply => reply = .error exc

/-- What `subprocess` says about the command. -/
def Pops : Ending → Except PyException (Int × Bytes × Bytes) → Prop
  | .exits code, reply => ∃ out err, reply = .ok (code, out, err)
  | .raises exc, reply => reply = .error exc

/-- The outcome of a command, as the connection sees it. -/
def outcome : Ending → Outcome
  | .exits code => .exited code
  | .raises exc => .ofException exc

/-- The answer to a command tells how it has ended. -/
theorem ofResult_of_answers {ending : Ending} {reply : Except PyException (Bytes × Bytes)}
    (h : ending.Answers reply) : Outcome.ofResult reply = ending.outcome := by
  cases ending with
  | exits code =>
      cases reply with
      | ok texts =>
          have hzero : code = 0 := h
          rw [hzero]
          rfl
      | error exc =>
          obtain ⟨-, output, text, rfl⟩ := h
          rfl
  | raises exc =>
      have herror : reply = .error exc := h
      rw [herror]
      rfl

end Ending

/-- An event of commands that end as `endings` says; nothing goes wrong in dom0. -/
def Follows (endings : StepKind → Ending) : WorkerEvent → Prop
  | ⟨.makeArchive _, reply⟩ => reply = .ok ()
  | ⟨.popen command, reply⟩ => (endings command.step).Pops reply
  | ⟨.runWithArgs command, reply⟩ => (endings command.step).Answers reply
  | ⟨.copyArchive _, reply⟩ => (endings .copy).Answers reply
  | ⟨.popenStreams _, reply⟩ => (endings .entrypoint).Starts reply
  | ⟨.runService _ _, reply⟩ => (endings .entrypoint).Starts reply
  | ⟨.wait, code⟩ => endings .entrypoint = .exits code
  | _ => True

/-- The outcome in an event is that of the ending of its step. -/
theorem outcome_of_follows {endings : StepKind → Ending} {e : WorkerEvent} {step : StepKind}
    {o : Outcome} (hfollows : Follows endings e) (h : e.commandOutcome? = some (step, o)) :
    o = (endings step).outcome := by
  obtain ⟨c, reply⟩ := e
  cases c with
  | popen command =>
      have hpops : (endings command.step).Pops reply := hfollows
      cases hending : endings command.step with
      | exits code =>
          rw [hending] at hpops
          obtain ⟨out, err, rfl⟩ := hpops
          obtain ⟨rfl, rfl⟩ := Prod.mk.inj (Option.some.inj h)
          rw [hending]
          rfl
      | raises exc =>
          rw [hending] at hpops
          have hreply : reply = .error exc := hpops
          subst hreply
          obtain ⟨rfl, rfl⟩ := Prod.mk.inj (Option.some.inj h)
          rw [hending]
          rfl
  | runWithArgs command =>
      obtain ⟨rfl, rfl⟩ := Prod.mk.inj (Option.some.inj h)
      exact Ending.ofResult_of_answers hfollows
  | copyArchive command =>
      obtain ⟨rfl, rfl⟩ := Prod.mk.inj (Option.some.inj h)
      exact Ending.ofResult_of_answers hfollows
  | wait =>
      have hexits : endings .entrypoint = .exits reply := hfollows
      obtain ⟨rfl, rfl⟩ := Prod.mk.inj (Option.some.inj h)
      rw [hexits]
      rfl
  | readTermination | put _ | initLogs | isRunning _ | makeArchive _ | popenStreams _
  | runService _ _ | outputEnd | assignedPciDevices | shutdown _ | waitForDomainShutdown _ => cases h

/-! ## The transfer of the agent -/

namespace QubeConnection

variable {conn : QubeConnection} {s s' : FinalStatus} {t : List WorkerEvent}

/-- The transfer of an agent whose remote steps exit with the given codes: it returns after the first one,
raises after copying the archive, or returns after the last one. -/
theorem transferAgent_of_follows {codes : StepKind → Int} {srcDir destDir : String}
    {r : Except PyException ProcessResult} (hdest : conn.destDir = some destDir)
    (h : Runs (conn.transferAgent srcDir) s t r s')
    (hfollows : ∀ e ∈ t, Follows (fun step => .exits (codes step)) e) :
    ((codes .mkdir ≠ 0 ∧ codes .mkdir ≠ 100) ∧ (commands t).map Prod.fst = [.mkdir] ∧
      ∃ result, r = .ok result ∧ result.code = codes .mkdir) ∨
    ((codes .mkdir = 0 ∨ codes .mkdir = 100) ∧
      ((codes .copy ≠ 0 ∧ ∃ exc, r = .error exc) ∨
        (codes .copy = 0 ∧ (commands t).map Prod.fst = [.mkdir, .copy, .untar] ∧
          ∃ result, r = .ok result ∧
            result.code = max 0 (if codes .untar = 100 then 0 else codes .untar)))) := by
  -- the code of a step, and what this says about its exit code
  have hcodes : ∀ {e : WorkerEvent} {step : StepKind} {o : Outcome}, e ∈ t →
      EndsCommand e step o → o.code = if codes step = 100 then 0 else codes step := by
    intro e step o he hends
    rw [outcome_of_follows (hfollows e he) hends.outcome]
    rfl
  have hzero : ∀ {step : StepKind}, (if codes step = 100 then 0 else codes step) = 0 →
      codes step = 0 ∨ codes step = 100 := by
    intro step h
    split at h
    · exact Or.inr (by assumption)
    · exact Or.inl h
  cases transferRun_of_runs hdest h with
  | notPacked exc =>
      have hpacked : Except.error exc = Except.ok () := hfollows _ List.mem_cons_self
      cases hpacked
  | @notMade e o made hmkdir hcode hstop =>
      rw [hcodes (by simp) hmkdir] at hcode hstop
      have hne : codes .mkdir ≠ 0 ∧ codes .mkdir ≠ 100 := by
        split at hstop
        · exact absurd rfl hstop
        · exact ⟨hstop, by assumption⟩
      rw [if_neg hne.2] at hcode
      refine Or.inl ⟨hne, ?_, made, rfl, hcode⟩
      rw [commands_cons, commands_cons, hmkdir.outcome]
      rfl
  | @raised e o command reply exc hmkdir hmade hescape =>
      rw [hcodes (by simp) hmkdir] at hmade
      refine Or.inr ⟨hzero hmade, Or.inl ⟨?_, exc, rfl⟩⟩
      have hanswers : (Ending.exits (codes .copy)).Answers reply :=
        hfollows ⟨.copyArchive command, reply⟩ (by simp)
      cases reply with
      | error exc' => exact hanswers.1
      | ok texts => exact absurd hescape id
  | @notCopied e o command reply result hmkdir hmade hcaught hcode hne hstop =>
      have hanswers : (Ending.exits (codes .copy)).Answers reply :=
        hfollows ⟨.copyArchive command, reply⟩ (by simp)
      cases reply with
      | error exc =>
          -- a non-zero exit code is no `OSError`
          obtain ⟨-, output, text, rfl⟩ := hanswers
          exact absurd rfl hcaught
      | ok texts =>
          rw [hcode] at hstop
          exact absurd hstop (lt_irrefl _)
  | @unpacked e e' o o' command reply result hmkdir hmade hcaught hne hcopied huntar hcode =>
      rw [hcodes (by simp) hmkdir] at hmade
      rw [hcodes (by simp) huntar] at hcode
      have hanswers : (Ending.exits (codes .copy)).Answers reply :=
        hfollows ⟨.copyArchive command, reply⟩ (by simp)
      refine Or.inr ⟨hzero hmade, Or.inr ⟨?_, ?_, result, rfl, hcode⟩⟩
      · cases reply with
        | error exc =>
            obtain ⟨-, output, text, rfl⟩ := hanswers
            exact absurd rfl hcaught
        | ok texts => exact hanswers
      · rw [commands_cons, commands_cons, commands_cons, commands_cons, hmkdir.outcome,
          huntar.outcome]
        rfl

end QubeConnection

/-- The code of the transfer after exit code `c` of its last step. -/
theorem mergedCode_eq_zero_iff (c : Int) :
    (max 0 (if c = 100 then 0 else c) = 0 ↔ c = 0) ↔ c ≠ 100 ∧ 0 ≤ c := by
  by_cases hhundred : c = 100
  · simp [hhundred]
  · rw [if_neg hhundred]
    omega

/-- The remote steps that a transfer should run, given their exit codes. -/
def executedSteps (codes : StepKind → Int) : List StepKind :=
  if codes .mkdir ≠ 0 then [.mkdir]
  else if codes .copy ≠ 0 then [.mkdir, .copy]
  else [.mkdir, .copy, .untar]

/-- A transfer reports the exit codes of its remote steps. -/
structure TransferReports (codes : StepKind → Int) (t : List WorkerEvent)
    (r : Except PyException ProcessResult) : Prop where
  /-- It returns, with code 0 exactly if all steps have exited with 0. -/
  returns : ∃ result, r = .ok result ∧
    (result.code = 0 ↔ codes .mkdir = 0 ∧ codes .copy = 0 ∧ codes .untar = 0)
  /-- The steps after the first failing one are not run. -/
  stops : (commands t).map Prod.fst = executedSteps codes

/-- The exit codes that a transfer reports: creating the directory fails, but not with 100, or the
directory and the archive are there and unpacking exits with neither 100 nor a negative code. -/
def ReportedCodes (codes : StepKind → Int) : Prop :=
  (codes .mkdir ≠ 0 ∧ codes .mkdir ≠ 100) ∨
    (codes .mkdir = 0 ∧ codes .copy = 0 ∧ codes .untar ≠ 100 ∧ 0 ≤ codes .untar)

/-- A transfer whose remote steps exit with the given codes reports them if and only if these are
`ReportedCodes`. -/
theorem transferAgent_reports_iff {conn : QubeConnection} {srcDir destDir : String}
    {codes : StepKind → Int} {s s' : FinalStatus} {t : List WorkerEvent}
    {r : Except PyException ProcessResult} (hdest : conn.destDir = some destDir)
    (h : Runs (conn.transferAgent srcDir) s t r s')
    (hfollows : ∀ e ∈ t, Follows (fun step => .exits (codes step)) e) :
    TransferReports codes t r ↔ ReportedCodes codes := by
  rcases transferAgent_of_follows hdest h hfollows with
    ⟨hne, hsteps, made, rfl, hmade⟩ | ⟨hmkdir, ⟨hcopy, exc, rfl⟩ | ⟨hcopy, hsteps, result, rfl, hcode⟩⟩
  · -- the directory could not be created
    refine iff_of_true ⟨⟨made, rfl, ?_⟩, ?_⟩ (Or.inl hne)
    · rw [hmade]
      simp [hne.1]
    · rw [hsteps, executedSteps, if_pos hne.1]
  · -- a failed copy raises
    apply iff_of_false
    · rintro ⟨⟨result, hresult, -⟩, -⟩
      cases hresult
    · rintro (⟨hzero, hhundred⟩ | ⟨-, hzero, -⟩)
      · exact hmkdir.elim hzero hhundred
      · exact hcopy hzero
  · -- all steps are run, whatever the first one has exited with
    have hfirst : ¬ (codes .mkdir ≠ 0 ∧ codes .mkdir ≠ 100) := by
      rintro ⟨hzero, hhundred⟩
      exact hmkdir.elim hzero hhundred
    have hreturns := mergedCode_eq_zero_iff (codes .untar)
    rw [ReportedCodes, or_iff_right hfirst, and_iff_right hcopy]
    constructor
    · rintro ⟨⟨result', hr, hiff⟩, hstops⟩
      cases hr
      have hmkdirZero : codes .mkdir = 0 := by
        by_contra hne
        rw [hsteps, executedSteps, if_pos hne] at hstops
        cases hstops
      rw [hcode, hmkdirZero, hcopy] at hiff
      exact ⟨hmkdirZero, hreturns.mp (by simpa using hiff)⟩
    · rintro ⟨hmkdirZero, huntarCode⟩
      refine ⟨⟨result, rfl, ?_⟩, ?_⟩
      · rw [hcode, hmkdirZero, hcopy, hreturns.mpr huntarCode]
        simp
      · rw [hsteps, executedSteps, if_neg (not_not.mpr hmkdirZero), if_neg (not_not.mpr hcopy)]

/-- The reply to a command that is waited for and exits with `code`. -/
def exitReply (code : Int) : Except PyException (Bytes × Bytes) :=
  if code = 0 then .ok ([], []) else .error (.calledProcessError code none "")

/-- An environment in which commands exit with the given codes and write nothing. -/
def exitEnvironment (codes : StepKind → Int) : (c : WorkerCall) → c.Reply
  | .popen command => .ok (codes command.step, [], [])
  | .runWithArgs command => exitReply (codes command.step)
  | .copyArchive _ => exitReply (codes .copy)
  | .wait => codes .entrypoint
  | c => cannedEnvironment (.ok ([], [])) (.ok ([], [])) 0 c

/-- The answer to a command that exits. -/
theorem answers_exitReply (code : Int) : (Ending.exits code).Answers (exitReply code) := by
  rw [exitReply]
  split
  · assumption
  · exact ⟨by assumption, none, "", rfl⟩

/-- In the example, every command exits with its code. -/
theorem follows_exitEnvironment (codes : StepKind → Int) (c : WorkerCall) :
    Follows (fun step => .exits (codes step)) ⟨c, exitEnvironment codes c⟩ := by
  cases c with
  | runWithArgs command => exact answers_exitReply (codes command.step)
  | copyArchive command => exact answers_exitReply (codes .copy)
  | popen command => exact ⟨[], [], rfl⟩
  | popenStreams argv => exact ⟨_, rfl⟩
  | runService argv user => exact ⟨_, rfl⟩
  | makeArchive srcDir => rfl
  | wait => rfl
  | readTermination | put _ | initLogs | isRunning _ | assignedPciDevices | shutdown _
  | waitForDomainShutdown _ | outputEnd => trivial

/-- The connection to a qube whose agent is copied to `/run/qubes-update`. -/
def workConnection : QubeConnection :=
  ⟨⟨"work", .standaloneVM, standaloneVM_adminName "work"⟩, some "/run/qubes-update", true, true, {}⟩

/-- The transfer of the agent by commands that exit with the given codes. -/
def transferRun (codes : StepKind → Int) :
    List WorkerEvent × Except PyException ProcessResult × FinalStatus :=
  play (exitEnvironment codes) (workConnection.transferAgent "/usr/lib/vmupdate/agent") .error

/-- The transfer of the example is a run. -/
theorem runs_transferRun (codes : StepKind → Int) :
    Runs (workConnection.transferAgent "/usr/lib/vmupdate/agent") .error (transferRun codes).1
      (transferRun codes).2.1 (transferRun codes).2.2 :=
  runs_play _ _ _

/-- Its commands end as they should. -/
theorem follows_transferRun (codes : StepKind → Int) :
    ∀ e ∈ (transferRun codes).1, Follows (fun step => .exits (codes step)) e :=
  forall_mem_play (follows_exitEnvironment codes) _ _

/-- The codes with which everything works. -/
theorem transferAgent_reports_iff_work :
    TransferReports (fun _ => 0) (transferRun fun _ => 0).1 (transferRun fun _ => 0).2.1
      ↔ ReportedCodes fun _ => 0 :=
  transferAgent_reports_iff rfl (runs_transferRun _) (follows_transferRun _)

/-- The codes of the remote steps if the archive cannot be written. -/
def fullDiskCodes : StepKind → Int
  | .copy => 1
  | _ => 0

/-- If writing the archive exits with 1, the transfer raises. -/
theorem transferAgent_raises :
    (¬ ∀ (conn : QubeConnection) (srcDir destDir : String) (codes : StepKind → Int)
      (s s' : FinalStatus) (t : List WorkerEvent) (r : Except PyException ProcessResult),
      conn.destDir = some destDir → Runs (conn.transferAgent srcDir) s t r s' →
      (∀ e ∈ t, Follows (fun step => .exits (codes step)) e) → TransferReports codes t r) ∧
    (transferRun fullDiskCodes).2.1 = .error (.calledProcessError 1 none "") := by
  have hraises : (transferRun fullDiskCodes).2.1 = .error (.calledProcessError 1 none "") := rfl
  refine ⟨fun h => ?_, hraises⟩
  have hreports := h _ _ _ _ _ _ _ _ rfl (runs_transferRun fullDiskCodes)
    (follows_transferRun fullDiskCodes)
  obtain ⟨result, hresult, -⟩ := hreports.returns
  rw [hraises] at hresult
  cases hresult

/-! ## Waiting for a command and reading its streams -/

/-- An event of a command that writes `stderr` to its error stream, if it is started. -/
def Writes (stderr : Bytes) (e : WorkerEvent) : Prop :=
  ∀ streams, e.started? = some (.ok streams) → streams.stderr.getD [] = stderr

/-- An event that starts the entrypoint follows its ending. -/
theorem starts_of_follows {endings : StepKind → Ending} {e : WorkerEvent}
    {reply : Except PyException Streams} (hfollows : Follows endings e)
    (h : e.started? = some reply) : (endings .entrypoint).Starts reply := by
  rcases eq_of_started h with ⟨argv, rfl⟩ | ⟨argv, user, rfl⟩
  · exact hfollows
  · exact hfollows

/-- Two commands leave the same status and return results with the same code; neither raises. -/
def SameOutcome (r₁ : Except PyException ProcessResult) (s₁ : FinalStatus)
    (r₂ : Except PyException ProcessResult) (s₂ : FinalStatus) : Prop :=
  s₁ = s₂ ∧ ∃ result₁ result₂, r₁ = .ok result₁ ∧ r₂ = .ok result₂ ∧ result₁.code = result₂.code

/-- A command ends the same way if it is waited for and if its streams are read, if and only if it can
be started and no line of its error stream consists of spaces before the progress has reached 100. -/
theorem runCommand_agree_iff {conn : QubeConnection} {command : Command} {ending : Ending}
    {stderr : Bytes} {s s₁ s₂ : FinalStatus} {t₁ t₂ : List WorkerEvent}
    {r₁ r₂ : Except PyException ProcessResult}
    (h₁ : Runs (conn.runCommandAndWaitForOutput command) s t₁ r₁ s₁)
    (h₂ : Runs (conn.runCommandAndActivelyReportProgress command) s t₂ r₂ s₂)
    (hends₁ : ∀ e ∈ t₁, Follows (fun _ => ending) e)
    (hends₂ : ∀ e ∈ t₂, Follows (fun _ => ending) e)
    (hstderr : ∀ e ∈ t₂, Writes stderr e) :
    SameOutcome r₁ s₁ r₂ s₂ ↔
      (∃ code, ending = .exits code) ∧ ¬ SpacesBeforeEnd (readLines stderr) := by
  obtain ⟨e, o, result₁, rfl, hevent, rfl, hcode₁, rfl⟩ := runs_runCommandAndWaitForOutput h₁
  have ho : o = ending.outcome :=
    outcome_of_follows (hends₁ e (List.mem_singleton_self e)) hevent.outcome
  obtain ⟨e', t', rfl, ⟨exc, hstart, -, rfl⟩ | ⟨streams, puts, hstart, -, -, hread⟩⟩ :=
    runs_readStreams h₂
  · -- the command cannot be started
    have hstarts := starts_of_follows (hends₂ e' List.mem_cons_self) hstart
    apply iff_of_false
    · rintro ⟨-, _, _, -, hr, -⟩
      cases hr
    · rintro ⟨⟨code, rfl⟩, -⟩
      obtain ⟨streams, hreply⟩ := hstarts
      cases hreply
  · have hstarts := starts_of_follows (hends₂ e' List.mem_cons_self) hstart
    have hexits : ∃ code, ending = .exits code := by
      cases ending with
      | exits code => exact ⟨code, rfl⟩
      | raises exc =>
          have hreply : Except.ok streams = .error exc := hstarts
          cases hreply
    have hreader := stderrHandled_iff conn.qube.name stderr
    rw [hstderr e' List.mem_cons_self streams hstart] at hread
    rw [and_iff_right hexits]
    obtain ⟨exc, hraises, -, rfl⟩ | ⟨hnone, code, result₂, rfl, rfl, hcode₂, rfl⟩ := hread
    · -- the reader raises
      apply iff_of_false
      · rintro ⟨-, _, _, -, hr, -⟩
        cases hr
      · rw [← hreader]
        intro hhandled
        have hnone := hhandled.returns
        rw [hraises] at hnone
        cases hnone
    · -- the exit code is mapped in the same way
      have hcode : ending = .exits code := hends₂ ⟨.wait, code⟩ (by simp)
      have hsame : o = .exited code := by
        rw [ho, hcode]
        rfl
      apply iff_of_true
      · rw [hsame] at hcode₁ ⊢
        exact ⟨rfl, result₁, result₂, rfl, rfl, hcode₁.trans hcode₂.symm⟩
      · rw [← hreader]
        exact ⟨hnone, stderrUnread_of_returns hnone, passedOn_of_returns hnone⟩

/-- Running a program that is waited for in `env`. -/
def waitingRun (env : (c : WorkerCall) → c.Reply) :
    List WorkerEvent × Except PyException ProcessResult × FinalStatus :=
  play env (workConnection.runCommandAndWaitForOutput (.entrypoint ["agent"])) .error

/-- Running a program whose streams are read in `env`. -/
def streamingRun (env : (c : WorkerCall) → c.Reply) :
    List WorkerEvent × Except PyException ProcessResult × FinalStatus :=
  play env (workConnection.runCommandAndActivelyReportProgress (.entrypoint ["agent"])) .error

/-- Nothing is written to the error stream where commands only exit. -/
theorem writes_exitEnvironment (codes : StepKind → Int) (c : WorkerCall) :
    Writes [] ⟨c, exitEnvironment codes c⟩ := by
  intro streams h
  cases c with
  | popenStreams argv | runService argv user =>
      have hstreams : Except.ok ⟨none, none, []⟩ = Except.ok streams := Option.some.inj h
      cases hstreams
      rfl
  | readTermination | put _ | initLogs | isRunning _ | makeArchive _ | popen _ | runWithArgs _
  | copyArchive _ | outputEnd | wait | assignedPciDevices | shutdown _ | waitForDomainShutdown _ => cases h

/-- A program that exits with 3. -/
theorem runCommand_agree_iff_three :
    SameOutcome (waitingRun (exitEnvironment fun _ => 3)).2.1
        (waitingRun (exitEnvironment fun _ => 3)).2.2
        (streamingRun (exitEnvironment fun _ => 3)).2.1
        (streamingRun (exitEnvironment fun _ => 3)).2.2
      ↔ (∃ code, Ending.exits 3 = .exits code) ∧ ¬ SpacesBeforeEnd (readLines []) :=
  runCommand_agree_iff (runs_play _ _ _) (runs_play _ _ _)
    (forall_mem_play (follows_exitEnvironment fun _ => 3) _ _)
    (forall_mem_play (follows_exitEnvironment fun _ => 3) _ _)
    (forall_mem_play (writes_exitEnvironment fun _ => 3) _ _)

/-- An environment in which no command can be started. -/
def refusingEnvironment (exc : PyException) : (c : WorkerCall) → c.Reply
  | .runWithArgs _ => .error exc
  | .runService _ _ => .error exc
  | c => cannedEnvironment (.ok ([], [])) (.ok ([], [])) 0 c

/-- If a program cannot be started, waiting for it returns code 1 and reading its streams raises. -/
theorem runCommand_disagree :
    (¬ ∀ (conn : QubeConnection) (command : Command) (ending : Ending) (stderr : Bytes)
      (s s₁ s₂ : FinalStatus) (t₁ t₂ : List WorkerEvent) (r₁ r₂ : Except PyException ProcessResult),
      Runs (conn.runCommandAndWaitForOutput command) s t₁ r₁ s₁ →
      Runs (conn.runCommandAndActivelyReportProgress command) s t₂ r₂ s₂ →
      (∀ e ∈ t₁, Follows (fun _ => ending) e) → (∀ e ∈ t₂, Follows (fun _ => ending) e) →
      (∀ e ∈ t₂, Writes stderr e) → SameOutcome r₁ s₁ r₂ s₂) ∧
    (waitingRun (refusingEnvironment (.qubesVMError "cannot start"))).2.1
      = .ok { code := 1, err := "cannot start" } ∧
    (streamingRun (refusingEnvironment (.qubesVMError "cannot start"))).2.1
      = .error (.qubesVMError "cannot start") := by
  refine ⟨fun h => ?_, rfl, rfl⟩
  have hwait : Runs (workConnection.runCommandAndWaitForOutput (.entrypoint ["agent"])) .error
      [⟨.runWithArgs (.entrypoint ["agent"]), .error (.qubesVMError "cannot start")⟩]
      (.ok { code := 1, err := "cannot start" }) .error :=
    runs_play (refusingEnvironment (.qubesVMError "cannot start")) _ _
  have hread : Runs (workConnection.runCommandAndActivelyReportProgress (.entrypoint ["agent"]))
      .error [⟨.runService ["agent"] "root", .error (.qubesVMError "cannot start")⟩]
      (.error (.qubesVMError "cannot start")) .error :=
    runs_play (refusingEnvironment (.qubesVMError "cannot start")) _ _
  have hagree := h _ _ (.raises (.qubesVMError "cannot start")) [] _ _ _ _ _ _ _ hwait hread
  simp only [List.forall_mem_singleton] at hagree
  obtain ⟨-, _, _, -, hr, -⟩ := hagree rfl rfl fun _ hstarted => by cases hstarted
  cases hr

end QubesAdminLinux
