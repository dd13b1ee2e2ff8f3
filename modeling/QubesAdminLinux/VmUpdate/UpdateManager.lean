import QubesAdminLinux.Agent.ProcessResult
import QubesAdminLinux.VmUpdate.ProgressBars
import QubesAdminLinux.VmUpdate.UpdateAgent

/-! # Updating a batch of qubes

`UpdateManager.run` gives each qube of a batch to a process of a pool, shows their progress, and turns
the results and the final statuses into one exit code.

* **`BatchOutcome`** — what the workers of a batch leave: their messages in the order of the queue,
  their results in the order of the callbacks, and the termination flag.
* **`UpdateManager.run`** — the exit code and the statuses of the batch.
* **`run_hidden`, `run_shown`** — both of them in closed form, without and with a progress display. -/

namespace QubesAdminLinux

/-- What the workers of a batch do, as far as the manager sees it. -/
structure BatchOutcome where
  /-- The messages for the loop of `feeding`, in the order of the queue. -/
  queue : List (Message PyFloat)
  /-- What the workers return, in the order in which it is collected. -/
  results : List (String × ProcessResult)
  /-- The termination flag when all workers have ended. -/
  terminated : Bool

/-- Why some code does not return. -/
inductive Stop
  /-- It raises. -/
  | raised (exc : PyException)
  /-- It waits forever. -/
  | blocked
  deriving DecidableEq

/-- The attributes of an `UpdateManager`. -/
structure UpdateManager where
  /-- The qubes of the batch. -/
  qubes : List Qube
  /-- Whether the output of the agents is shown. -/
  showOutput : Bool
  /-- Whether nothing is printed. -/
  quiet : Bool
  /-- Whether no progress is shown. -/
  noProgress : Bool
  /-- Whether progress is printed as plain lines. -/
  justPrintProgress : Bool
  /-- Whether dom0 is updated by `qubes-dom0-update`. -/
  dom0 : Bool
  /-- The exit code so far. -/
  retCode : Int := Exit.ok
  /-- The texts printed by the callbacks, oldest first. -/
  printed : List String := []

namespace UpdateManager

/-- `UpdateManager.__init__`; the number of workers is of no effect here. -/
def init (qubes : List Qube) (args : Args) (dom0 : Bool) : UpdateManager where
  qubes := qubes
  showOutput := args.showOutput
  quiet := args.quiet
  noProgress := args.noProgress
  justPrintProgress := args.justPrintProgress
  dom0 := dom0

/-- Whether the batch has a progress display. -/
def showProgress (manager : UpdateManager) : Bool := !manager.quiet && !manager.noProgress

/-- The code that the result of a worker counts as. -/
def vmCode (code : Int) : Int :=
  let vmCode := if code ∉ Exit.vmHandled then Exit.errVmUnhandled else code
  -- a worker has already turned the code for "no updates" into zero
  if vmCode = Exit.okNoUpdates then Exit.errVmUnhandled else vmCode

/-- The texts that `collect_result` prints. -/
def collectedTexts (manager : UpdateManager) (qubeName : String) (result : ProcessResult) :
    List String :=
  if manager.showOutput then
    ((splitNewlines result.out).map fun line => (FormatedLine.mk qubeName "out" line).str)
      ++ (splitNewlines result.err).map fun line => (FormatedLine.mk qubeName "err" line).str
  else if !manager.quiet && manager.noProgress then [result.out]
  else []

/-- `collect_result`. -/
def collectResult (manager : UpdateManager) (resultTuple : String × ProcessResult) :
    UpdateManager :=
  { manager with
    retCode := max manager.retCode (vmCode resultTuple.2.code)
    printed := manager.printed ++ manager.collectedTexts resultTuple.1 resultTuple.2 }

/-- The display of a batch before it has bars. -/
def progressBar (manager : UpdateManager) : MultipleUpdateMultipleProgressBar PyFloat where
  dummy := !manager.showProgress
  output := if manager.justPrintProgress then .simpleTerminalBar else .tqdm
  printer := manager.showOutput

/-- The bar of a qube; the progress of dom0 continues that of another process, so its first value is
skipped. -/
def addQube (manager : UpdateManager) (agentArgs : Args)
    (bars : MultipleUpdateMultipleProgressBar PyFloat) (qube : Qube) :
    Except PyException (MultipleUpdateMultipleProgressBar PyFloat) :=
  match bars.addBar (shownName qube agentArgs) with
  | .error exc => .error exc
  | .ok bars =>
      if qube.klass = .adminVM ∧ manager.showProgress = true then
        match bars.progressBars.get? qube.name with
        -- `progress_bars[qube.name]`: the bar has the displayed name
        | none => .error (.keyError qube.name)
        | some bar => .ok (bars.setBar qube.name bar.reset)
      else .ok bars

/-- The bars of some qubes. -/
def addQubes (manager : UpdateManager) (agentArgs : Args)
    (bars : MultipleUpdateMultipleProgressBar PyFloat) :
    List Qube → Except PyException (MultipleUpdateMultipleProgressBar PyFloat)
  | [] => .ok bars
  | qube :: rest =>
      match manager.addQube agentArgs bars qube with
      | .error exc => .error exc
      | .ok bars => manager.addQubes agentArgs bars rest

/-- The loop of `run` that adds a bar for each qube and starts its worker. -/
def setUp (manager : UpdateManager) (agentArgs : Args) :
    Except PyException (MultipleUpdateMultipleProgressBar PyFloat) :=
  manager.addQubes agentArgs manager.progressBar manager.qubes

/-- The exit code of a batch, from the code collected from the workers. -/
def finalCode (terminated : Bool) (collected : Int) (stats : List FinalStatus) : Int :=
  -- inform the caller about a requested cancel, even if all targets were updated
  let retCode := if terminated then Exit.sigint else collected
  let retCode := if .cancelled ∈ stats then max retCode Exit.sigint else retCode
  let retCode := if .error ∈ stats then max retCode Exit.err else retCode
  if .unknown ∈ stats then max retCode Exit.errQrexex else retCode

/-- `run`, given what the workers do.  The pool is assumed to start: `multiprocessing.Pool` refuses only a
number of workers below 1. -/
def run (manager : UpdateManager) (agentArgs : Args) (outcome : BatchOutcome) :
    Except Stop (Int × Dict String FinalStatus) :=
  if manager.qubes = [] then .ok (Exit.ok, Dict.empty)
  else
    match manager.setUp agentArgs with
    | .error exc => .error (.raised exc)
    | .ok bars =>
        match bars.feeding outcome.queue with
        | .raised exc => .error (.raised exc)
        | .blocked _ => .error .blocked
        | .returned bars _ =>
            -- the pool has been joined, so every result has been collected
            let manager := outcome.results.foldl collectResult manager
            .ok (finalCode outcome.terminated manager.retCode bars.statuses.values, bars.statuses)

/-! ## The exit code -/

/-- Workers count as codes between 0 and 26. -/
theorem vmCode_bounds (code : Int) : 0 ≤ vmCode code ∧ vmCode code ≤ 26 := by
  unfold vmCode
  by_cases h : code ∈ Exit.vmHandled
  · simp only [Exit.vmHandled, List.mem_cons, List.not_mem_nil, or_false] at h
    rcases h with rfl | rfl | rfl | rfl | rfl | rfl | rfl <;> decide
  · -- a code that is not expected of a worker becomes that of an unhandled error
    rw [if_pos h]
    decide

/-- Only the code 0 counts as a success. -/
theorem vmCode_eq_zero (code : Int) : vmCode code = 0 ↔ code = 0 := by
  unfold vmCode
  by_cases h : code ∈ Exit.vmHandled
  · simp only [Exit.vmHandled, List.mem_cons, List.not_mem_nil, or_false] at h
    rcases h with rfl | rfl | rfl | rfl | rfl | rfl | rfl <;> decide
  · rw [if_pos h]
    have hne : code ≠ 0 := by
      rintro rfl
      exact h (by decide)
    simp [hne]

/-- The code collected from some results. -/
def collectedCode (results : List (String × ProcessResult)) : Int :=
  results.foldl (fun code result => max code (vmCode result.2.code)) Exit.ok

/-- The callbacks collect the maximum of the codes. -/
theorem retCode_foldl_collectResult (manager : UpdateManager)
    (results : List (String × ProcessResult)) :
    (results.foldl collectResult manager).retCode
      = results.foldl (fun code result => max code (vmCode result.2.code)) manager.retCode := by
  induction results generalizing manager with
  | nil => rfl
  | cons result rest ih => rw [List.foldl_cons, List.foldl_cons, ih, collectResult]

/-- The collected code is the least upper bound of the codes and 0. -/
theorem collectedCode_le_iff (results : List (String × ProcessResult)) (bound : Int) :
    collectedCode results ≤ bound ↔ 0 ≤ bound ∧ ∀ result ∈ results, vmCode result.2.code ≤ bound := by
  -- the start value takes the place of one more result
  have hfold : ∀ start : Int,
      results.foldl (fun code result => max code (vmCode result.2.code)) start ≤ bound
        ↔ start ≤ bound ∧ ∀ result ∈ results, vmCode result.2.code ≤ bound := by
    induction results with
    | nil => simp
    | cons result rest ih =>
        intro start
        rw [List.foldl_cons, ih, max_le_iff, List.forall_mem_cons, and_assoc]
  exact hfold Exit.ok

/-- A batch of workers counts as a code between 0 and 26. -/
theorem collectedCode_bounds (results : List (String × ProcessResult)) :
    0 ≤ collectedCode results ∧ collectedCode results ≤ 26 := by
  have hself := (collectedCode_le_iff results (collectedCode results)).mp le_rfl
  refine ⟨hself.1, (collectedCode_le_iff results 26).mpr ⟨by decide, fun result _ => ?_⟩⟩
  exact (vmCode_bounds result.2.code).2

/-- A batch counts as a success exactly if all workers do. -/
theorem collectedCode_eq_zero (results : List (String × ProcessResult)) :
    collectedCode results = 0 ↔ ∀ result ∈ results, result.2.code = 0 := by
  have hle := collectedCode_le_iff results 0
  have hnonneg := (collectedCode_bounds results).1
  constructor
  · intro hzero result hmem
    -- no code is negative, so the bound is reached
    have hcode := (hle.mp hzero.le).2 result hmem
    rw [← vmCode_eq_zero]
    exact le_antisymm hcode (vmCode_bounds _).1
  · intro hall
    refine le_antisymm (hle.mpr ⟨le_rfl, fun result hmem => ?_⟩) hnonneg
    rw [hall result hmem]
    decide

/-- The order of the callbacks does not matter. -/
theorem collectedCode_perm {results results' : List (String × ProcessResult)}
    (h : results.Perm results') : collectedCode results = collectedCode results' := by
  have hmem : ∀ bound, collectedCode results ≤ bound ↔ collectedCode results' ≤ bound := by
    intro bound
    rw [collectedCode_le_iff, collectedCode_le_iff]
    simp only [h.mem_iff]
  exact le_antisymm ((hmem _).mpr le_rfl) ((hmem _).mp le_rfl)

/-- A requested cancel decides the exit code. -/
@[simp] theorem finalCode_terminated (collected : Int) (stats : List FinalStatus) :
    finalCode true collected stats = Exit.sigint := by
  unfold finalCode
  simp only [if_true]
  split <;> split <;> split <;> decide

/-- Without statuses, the collected code is the exit code. -/
@[simp] theorem finalCode_nil (collected : Int) : finalCode false collected [] = collected := by
  simp [finalCode]

/-- The exit code of a batch that has not been interrupted: a status counts more than the codes of
workers, except that an error only counts if all of them are 0. -/
theorem finalCode_eq {collected : Int} (hle : collected ≤ 26) (stats : List FinalStatus) :
    finalCode false collected stats
      = if .cancelled ∈ stats then Exit.sigint
        else if .unknown ∈ stats then Exit.errQrexex
        else if .error ∈ stats then max collected Exit.err
        else collected := by
  unfold finalCode
  simp only [Bool.false_eq_true, if_false, Exit.sigint, Exit.errQrexex, Exit.err]
  split
  · -- the code 130 is larger than every other one
    split <;> split <;> omega
  · split <;> split <;> omega

/-! ## The batch -/

variable {manager : UpdateManager} {agentArgs : Args} {outcome : BatchOutcome}

/-- A batch without a display has neither bars nor statuses. -/
theorem setUp_hidden (h : manager.showProgress = false) :
    manager.setUp agentArgs = .ok manager.progressBar := by
  have hdummy : manager.progressBar.dummy = true := by
    rw [progressBar, h]
    rfl
  have hadd : ∀ qubes, manager.addQubes agentArgs manager.progressBar qubes
      = .ok manager.progressBar := by
    intro qubes
    induction qubes with
    | nil => rfl
    | cons qube rest ih =>
        have hone : manager.addQube agentArgs manager.progressBar qube = .ok manager.progressBar := by
          rw [addQube, MultipleUpdateMultipleProgressBar.addBar, if_pos hdummy]
          simp [h]
        rw [addQubes, hone]
        exact ih
  exact hadd manager.qubes

/-- Without a display, the batch returns the collected code and no status at all. -/
theorem run_hidden (h : manager.showProgress = false) (hqubes : manager.qubes ≠ [])
    (hcode : manager.retCode = Exit.ok) :
    manager.run agentArgs outcome
      = .ok (if outcome.terminated then Exit.sigint else collectedCode outcome.results,
          Dict.empty) := by
  -- a dummy display returns at once, and leaves all messages on the queue
  have hfeeding : manager.progressBar.feeding outcome.queue
      = .returned manager.progressBar outcome.queue := by
    rw [MultipleUpdateMultipleProgressBar.feeding, progressBar, h]
    rfl
  rw [run, if_neg hqubes, setUp_hidden h]
  simp only [hfeeding, retCode_foldl_collectResult, hcode]
  have hstats : manager.progressBar.statuses = Dict.empty := rfl
  rw [hstats, Dict.values_empty]
  cases outcome.terminated with
  | true => rw [finalCode_terminated, if_pos rfl]
  | false => rw [finalCode_nil, if_neg Bool.false_ne_true, collectedCode]

/-! ## The display of a batch -/

variable {bars bars' : MultipleUpdateMultipleProgressBar PyFloat} {qube : Qube}

/-- The bars of a batch while its qubes are added: each displayed name has one. -/
structure Displays (names : List String) (bars : MultipleUpdateMultipleProgressBar PyFloat) :
    Prop where
  /-- Something is displayed. -/
  shown : bars.dummy = false
  /-- The bars. -/
  bar : ∀ q ∈ names, (bars.progressBars.get? q).isSome = true
  /-- The progress. -/
  percent : ∀ q ∈ names, (bars.progresses.get? q).isSome = true
  /-- A name that is displayed twice has one bar only. -/
  size : bars.progresses.size ≤ names.length

/-- Adding a qube either adds a bar for its displayed name, and resets it for dom0, or raises. -/
theorem addQube_eq_ok (hshown : bars.dummy = false)
    (h : manager.addQube agentArgs bars qube = .ok bars') :
    bars' = bars.newBar (shownName qube agentArgs) ∨
      ∃ bar, ((bars.newBar (shownName qube agentArgs)).progressBars.get? qube.name).isSome = true ∧
        bars' = (bars.newBar (shownName qube agentArgs)).setBar qube.name bar := by
  rw [addQube, MultipleUpdateMultipleProgressBar.addBar, if_neg (by rw [hshown]; decide)] at h
  by_cases hposition : bars.output = .simpleTerminalBar ∧
      bars.progressBars.size ≠ bars.parentProgresses
  · rw [if_pos hposition] at h
    cases h
  · rw [if_neg hposition] at h
    simp only at h
    -- only dom0 has a bar that is reset
    by_cases hreset : qube.klass = .adminVM ∧ manager.showProgress = true
    · rw [if_pos hreset] at h
      cases hbar : (bars.newBar (shownName qube agentArgs)).progressBars.get? qube.name with
      | none =>
          rw [hbar] at h
          cases h
      | some bar =>
          rw [hbar] at h
          exact Or.inr ⟨bar.reset, rfl, (Except.ok.inj h).symm⟩
    · rw [if_neg hreset] at h
      exact Or.inl (Except.ok.inj h).symm

/-- A new bar is one more displayed name. -/
theorem Displays.newBar {names : List String} (h : Displays names bars) (qname : String) :
    Displays (names ++ [qname]) (bars.newBar qname) := by
  refine ⟨h.shown, fun q hq => ?_, fun q hq => ?_, ?_⟩
  · rw [List.mem_append, List.mem_singleton] at hq
    rw [MultipleUpdateMultipleProgressBar.newBar, Dict.isSome_get?_set]
    exact hq.symm.imp_right (h.bar q)
  · rw [List.mem_append, List.mem_singleton] at hq
    rw [MultipleUpdateMultipleProgressBar.newBar, Dict.isSome_get?_set]
    exact hq.symm.imp_right (h.percent q)
  · -- a name that is displayed twice keeps its entry
    have hsize := Dict.size_set_le bars.progresses qname 0
    rw [List.length_append, List.length_singleton]
    exact hsize.trans (Nat.succ_le_succ h.size)

/-- Changing a bar that exists displays the same names. -/
theorem Displays.setBar {names : List String} (h : Displays names bars) {qname : String}
    (hbar : (bars.progressBars.get? qname).isSome = true) (bar : Bar PyFloat) :
    Displays names (bars.setBar qname bar) := by
  refine ⟨h.shown, fun q hq => ?_, h.percent, h.size⟩
  rw [MultipleUpdateMultipleProgressBar.isSome_setBar hbar]
  exact h.bar q hq

/-- Adding a qube displays its name. -/
theorem Displays.addQube {names : List String} (h : Displays names bars)
    (hadd : manager.addQube agentArgs bars qube = .ok bars') :
    Displays (names ++ [shownName qube agentArgs]) bars' := by
  rcases addQube_eq_ok h.shown hadd with rfl | ⟨bar, hbar, rfl⟩
  · exact h.newBar _
  · exact (h.newBar _).setBar hbar bar

/-- Adding qubes displays their names. -/
theorem Displays.addQubes {names : List String} (h : Displays names bars) {qubes : List Qube}
    (hadd : manager.addQubes agentArgs bars qubes = .ok bars') :
    Displays (names ++ qubes.map (shownName · agentArgs)) bars' := by
  induction qubes generalizing names bars with
  | nil =>
      rw [List.map_nil, List.append_nil]
      exact Except.ok.inj hadd ▸ h
  | cons qube rest ih =>
      rw [UpdateManager.addQubes] at hadd
      cases hone : manager.addQube agentArgs bars qube with
      | error exc =>
          rw [hone] at hadd
          cases hadd
      | ok bars₁ =>
          rw [hone] at hadd
          rw [List.map_cons, List.append_cons]
          exact ih (h.addQube hone) hadd

/-- Once the bars are there, feeding ends in every display mode, provided that the messages are about
the qubes of the batch and each qube sends at least one final status. -/
theorem feeding_returns {queue : List (Message PyFloat)} (hsetUp : manager.setUp agentArgs = .ok bars)
    (hqueue : ∀ info, .status info ∈ queue →
      ∃ qube ∈ manager.qubes, info.qname = shownName qube agentArgs)
    (hdone : manager.qubes.length ≤ (queue.filterMap Message.doneStatus?).length) :
    ∃ bars' rest, bars.feeding queue = .returned bars' rest := by
  cases hshow : manager.showProgress with
  | false =>
      rw [setUp_hidden hshow] at hsetUp
      refine ⟨bars, queue, ?_⟩
      rw [← Except.ok.inj hsetUp, MultipleUpdateMultipleProgressBar.feeding, progressBar, hshow]
      rfl
  | true =>
      have hstart : Displays [] manager.progressBar := by
        refine ⟨?_, by simp, by simp, le_rfl⟩
        rw [progressBar, hshow]
        rfl
      have hdisplays := hstart.addQubes hsetUp
      rw [List.nil_append] at hdisplays
      -- every status finds the bar of its qube
      have hname : ∀ info, .status info ∈ queue →
          info.qname ∈ manager.qubes.map (shownName · agentArgs) := by
        intro info hmem
        obtain ⟨qube, hqube, hinfo⟩ := hqueue info hmem
        rw [hinfo]
        exact List.mem_map_of_mem hqube
      -- the counter starts at the number of displayed names, which is at most that of the qubes
      have hleft : bars.progresses.size ≤ (queue.filterMap Message.doneStatus?).length := by
        have hsize := hdisplays.size
        rw [List.length_map] at hsize
        exact hsize.trans hdone
      rw [MultipleUpdateMultipleProgressBar.feeding, hdisplays.shown, if_neg Bool.false_ne_true]
      exact MultipleUpdateMultipleProgressBar.feedingLoop_returns
        (fun info hmem => ⟨hdisplays.bar _ (hname info hmem), hdisplays.percent _ (hname info hmem)⟩)
        hleft

/-- The final statuses that the loop of `feeding` waits for. -/
def leftToFinish (manager : UpdateManager) (agentArgs : Args) : Nat :=
  match manager.setUp agentArgs with
  | .error _ => 0
  | .ok bars => if bars.dummy then 0 else bars.progresses.size

/-- A batch that returns has got them. -/
theorem leftToFinish_le (hqubes : manager.qubes ≠ []) {returned : Int × Dict String FinalStatus}
    (h : manager.run agentArgs outcome = .ok returned) :
    manager.leftToFinish agentArgs ≤ (outcome.queue.filterMap Message.doneStatus?).length := by
  rw [run, if_neg hqubes] at h
  rw [leftToFinish]
  cases hsetUp : manager.setUp agentArgs with
  | error exc => exact Nat.zero_le _
  | ok bars =>
      rw [hsetUp] at h
      dsimp only
      split
      · exact Nat.zero_le _
      · rename_i hshown
        cases hfeeding : bars.feeding outcome.queue with
        | raised exc =>
            simp only [hfeeding] at h
            cases h
        | blocked bars' =>
            simp only [hfeeding] at h
            cases h
        | returned bars' rest =>
            rw [MultipleUpdateMultipleProgressBar.feeding, if_neg hshown] at hfeeding
            exact MultipleUpdateMultipleProgressBar.le_of_feedingLoop_returned hfeeding

/-! ## A batch that is shown -/

/-- Resetting a bar of a fresh display leaves it fresh. -/
theorem fresh_setBar {names : List String}
    (h : MultipleUpdateMultipleProgressBar.Fresh names bars) {qname : String} (hq : qname ∈ names)
    (bar : Bar PyFloat) :
    MultipleUpdateMultipleProgressBar.Fresh names (bars.setBar qname bar) := by
  refine ⟨h.shown, ?_, h.percentKeys, h.zero, h.status, h.count⟩
  rw [MultipleUpdateMultipleProgressBar.setBar, Dict.keys_set, h.barKeys, if_pos hq]

/-- Qubes that are displayed under distinct names get their bars; that of dom0 is looked up under its
own name. -/
theorem addQubes_fresh_shown (manager : UpdateManager) {names : List String}
    (h : MultipleUpdateMultipleProgressBar.Fresh names bars) {qubes : List Qube}
    (hadmin : ∀ qube ∈ qubes, qube.klass = .adminVM → shownName qube agentArgs = qube.name)
    (hnodup : (names ++ qubes.map (shownName · agentArgs)).Nodup) :
    ∃ bars', manager.addQubes agentArgs bars qubes = .ok bars' ∧
      MultipleUpdateMultipleProgressBar.Fresh (names ++ qubes.map (shownName · agentArgs)) bars' := by
  induction qubes generalizing names bars with
  | nil => exact ⟨bars, rfl, by rwa [List.map_nil, List.append_nil]⟩
  | cons qube rest ih =>
      rw [List.forall_mem_cons] at hadmin
      have hq : shownName qube agentArgs ∉ names := fun hmem =>
        (List.disjoint_of_nodup_append hnodup) hmem List.mem_cons_self
      obtain ⟨bars₁, hadd, hfresh⟩ := h.addBar hq
      -- dom0 or not, the display stays fresh
      have hone : ∃ bars₂, manager.addQube agentArgs bars qube = .ok bars₂ ∧
          MultipleUpdateMultipleProgressBar.Fresh (names ++ [shownName qube agentArgs]) bars₂ := by
        rw [UpdateManager.addQube, hadd]
        simp only
        split
        · rename_i hreset
          have hmem : qube.name ∈ names ++ [shownName qube agentArgs] := by
            simp [hadmin.1 hreset.1]
          have hkey : qube.name ∈ bars₁.progressBars.keys := by rwa [hfresh.barKeys]
          rw [Dict.mem_keys] at hkey
          obtain ⟨bar, hbar⟩ := Option.isSome_iff_exists.mp hkey
          rw [hbar]
          exact ⟨_, rfl, fresh_setBar hfresh hmem bar.reset⟩
        · exact ⟨_, rfl, hfresh⟩
      obtain ⟨bars₂, hone, hfresh₂⟩ := hone
      rw [List.map_cons, List.append_cons] at hnodup ⊢
      obtain ⟨bars₃, hall, hfresh₃⟩ := ih hfresh₂ hadmin.2 hnodup
      exact ⟨bars₃, by rw [UpdateManager.addQubes, hone]; exact hall, hfresh₃⟩

/-- Without a display name, qubes with distinct names get their bars. -/
theorem addQubes_fresh (manager : UpdateManager) (hdisplay : agentArgs.displayName = none)
    {names : List String} (h : MultipleUpdateMultipleProgressBar.Fresh names bars) {qubes : List Qube}
    (hnodup : (names ++ qubes.map Qube.name).Nodup) :
    ∃ bars', manager.addQubes agentArgs bars qubes = .ok bars' ∧
      MultipleUpdateMultipleProgressBar.Fresh (names ++ qubes.map Qube.name) bars' := by
  have hname : ∀ qube : Qube, shownName qube agentArgs = qube.name := by
    intro qube
    rw [shownName, hdisplay, Option.getD_none]
  have hmap : qubes.map (shownName · agentArgs) = qubes.map Qube.name :=
    List.map_congr_left fun qube _ => hname qube
  have hall := addQubes_fresh_shown manager h (fun qube _ _ => hname qube) (by rwa [hmap])
  rwa [hmap] at hall

/-- The bars of a batch after `count` qubes that are all displayed as `name`. -/
structure OneName (name : String) (count : Nat) (bars : MultipleUpdateMultipleProgressBar PyFloat) :
    Prop where
  /-- Something is displayed. -/
  shown : bars.dummy = false
  /-- There is one bar at most. -/
  keys : bars.progressBars.keys = if count = 0 then [] else [name]
  /-- The plain bars are counted all the same. -/
  plain : bars.output = .simpleTerminalBar → bars.parentProgresses = count

/-- One more bar under this name. -/
theorem OneName.newBar {name : String} {count : Nat} (h : OneName name count bars) :
    OneName name (count + 1) (bars.newBar name) := by
  refine ⟨h.shown, ?_, fun houtput => ?_⟩
  · rw [MultipleUpdateMultipleProgressBar.newBar, Dict.keys_set, h.keys, if_neg (Nat.succ_ne_zero count)]
    by_cases hcount : count = 0
    · simp [hcount]
    · simp [hcount]
  · change bars.output = .simpleTerminalBar at houtput
    rw [MultipleUpdateMultipleProgressBar.newBar, if_pos houtput, h.plain houtput]

/-- Then only this name has a bar. -/
theorem OneName.isSome_get?_iff {name q : String} {count : Nat} (h : OneName name (count + 1) bars) :
    (bars.progressBars.get? q).isSome = true ↔ q = name := by
  rw [← Dict.mem_keys, h.keys, if_neg (Nat.succ_ne_zero count), List.mem_singleton]

/-- One more qube under this name. -/
theorem OneName.addQube {name : String} {count : Nat} (h : OneName name count bars)
    (hname : shownName qube agentArgs = name) (hshow : manager.showProgress = true) :
    ((∃ bars', manager.addQube agentArgs bars qube = .ok bars') ↔
      (bars.output = .simpleTerminalBar → count ≤ 1) ∧ (qube.klass = .adminVM → qube.name = name)) ∧
    ∀ bars', manager.addQube agentArgs bars qube = .ok bars' →
      OneName name (count + 1) bars' ∧ bars'.output = bars.output := by
  have hsize : bars.progressBars.size = if count = 0 then 0 else 1 := by
    rw [← Dict.length_keys, h.keys]
    split
    · rfl
    · rfl
  have hnew : OneName name (count + 1) (bars.newBar name) := h.newBar
  have hposition : (bars.output = .simpleTerminalBar ∧ bars.progressBars.size ≠ bars.parentProgresses) ↔
      ¬ (bars.output = .simpleTerminalBar → count ≤ 1) := by
    rw [Classical.not_imp]
    refine and_congr_right fun houtput => ?_
    rw [hsize, h.plain houtput]
    split
    · omega
    · omega
  rw [UpdateManager.addQube, MultipleUpdateMultipleProgressBar.addBar, if_neg (by rw [h.shown]; decide),
    hname]
  by_cases hplain : bars.output = .simpleTerminalBar → count ≤ 1
  · rw [if_neg (hposition.not.mpr (not_not.mpr hplain))]
    dsimp only
    by_cases hadmin : qube.klass = .adminVM
    · rw [if_pos ⟨hadmin, hshow⟩]
      cases hbar : (bars.newBar name).progressBars.get? qube.name with
      | none =>
          refine ⟨iff_of_false (by rintro ⟨bars', ⟨⟩⟩) fun hand => ?_, by rintro bars' ⟨⟩⟩
          have hsome := hnew.isSome_get?_iff.mpr (hand.2 hadmin)
          rw [hbar] at hsome
          cases hsome
      | some bar =>
          have hsome : ((bars.newBar name).progressBars.get? qube.name).isSome = true := by
            rw [hbar]
            rfl
          have hmem : qube.name ∈ (bars.newBar name).progressBars.keys := (Dict.mem_keys _ _).mpr hsome
          have hkey : qube.name = name := hnew.isSome_get?_iff.mp hsome
          refine ⟨iff_of_true ⟨_, rfl⟩ ⟨hplain, fun _ => hkey⟩, ?_⟩
          rintro bars' ⟨⟩
          refine ⟨⟨hnew.shown, ?_, hnew.plain⟩, rfl⟩
          rw [MultipleUpdateMultipleProgressBar.setBar, Dict.keys_set, if_pos hmem]
          exact hnew.keys
    · rw [if_neg fun hand => hadmin hand.1]
      refine ⟨iff_of_true ⟨_, rfl⟩ ⟨hplain, fun h => absurd h hadmin⟩, ?_⟩
      rintro bars' ⟨⟩
      exact ⟨hnew, rfl⟩
  · rw [if_pos (hposition.mpr hplain)]
    exact ⟨iff_of_false (by rintro ⟨bars', ⟨⟩⟩) fun hand => hplain hand.1, by rintro bars' ⟨⟩⟩

/-- The workers of a batch report complete sequences, each ending with the final status of its
qube. -/
structure Reports (qubes : List Qube) (final : String → FinalStatus) (outcome : BatchOutcome) :
    Prop where
  /-- The messages of the qubes are interleaved on the queue. -/
  interleaved : ∃ f, Interleaving f outcome.queue ∧
    (∀ q, q ∉ qubes.map Qube.name → f q = []) ∧
    ∀ q ∈ qubes.map Qube.name, MultipleUpdateMultipleProgressBar.Complete q (final q) (f q)

/-- With a display, a batch returns the final status of each qube, and a code that takes them into
account. -/
theorem run_shown {final : String → FinalStatus} (h : manager.showProgress = true)
    (hqubes : manager.qubes ≠ []) (hcode : manager.retCode = Exit.ok)
    (hdisplay : agentArgs.displayName = none) (hnodup : (manager.qubes.map Qube.name).Nodup)
    (hreports : Reports manager.qubes final outcome) :
    ∃ statuses, manager.run agentArgs outcome
        = .ok (finalCode outcome.terminated (collectedCode outcome.results) statuses.values,
            statuses) ∧
      ∀ q, statuses.get? q = if q ∈ manager.qubes.map Qube.name then some (final q) else none := by
  obtain ⟨f, hqueue, hsender, hcomplete⟩ := hreports.interleaved
  have hstart : MultipleUpdateMultipleProgressBar.Fresh [] manager.progressBar := by
    refine ⟨?_, rfl, rfl, by simp, rfl, fun _ => rfl⟩
    rw [progressBar, h]
    rfl
  obtain ⟨bars, hadd, hfresh⟩ :=
    addQubes_fresh manager hdisplay hstart (by rwa [List.nil_append])
  rw [List.nil_append] at hfresh
  obtain ⟨bars', hfeeding, hstatuses, -⟩ := hfresh.feeding hnodup hsender hcomplete hqueue
  refine ⟨bars'.statuses, ?_, hstatuses⟩
  rw [run, if_neg hqubes, setUp, hadd]
  simp only [hfeeding, retCode_foldl_collectResult, hcode]
  rfl

end UpdateManager

end QubesAdminLinux
