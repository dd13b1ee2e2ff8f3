import QubesAdminLinux.VmUpdate.Main

/-! # Runs in different display modes

With `--quiet` or `--no-progress` there is no progress display, and the statuses of a batch are known
to the display only.

* **`behaviour`** — what a run does apart from what it displays.
* **`Environment.Plays`** — the workers of a run have given outcomes, in any order.
* **`behaviour_eq_iff`** — when two runs with the same outcomes, with and without a display, do the
  same.
* **`display_irrelevant_iff`** — when the display mode does not matter at all. -/

namespace QubesAdminLinux

open StateExcept UpdateManager

/-- The options with other display options. -/
def Args.withDisplay (args : Args) (quiet noProgress : Bool) : Args :=
  { args with quiet, noProgress }

/-- What a run does apart from what it displays: its outcome and the requests it sends. -/
def behaviour (env : Environment) (args : Args) (targets : Except String (List Qube)) (w : World) :
    Except Stop Int × List Request :=
  ((mainRun env args targets w).1, (mainRun env args targets w).2.world.requests)

/-- Every batch that a run starts returns a final status for each of its qubes. -/
def ReportsAll (env : Environment) (args : Args) (targets : Except String (List Qube)) (w : World) :
    Prop :=
  ∀ batch ∈ (mainRun env args targets w).2.started, ∃ code statuses,
    batchResult env args (targetList targets) batch = .ok (code, statuses) ∧
      ∀ q ∈ members batch (targetList targets), (statuses.get? q.name).isSome = true

/-- The workers return `result` and announce `final` for each target, and the user interrupts the
batches in `terminated`. -/
structure Environment.Plays (env : Environment) (targets : List Qube)
    (final : String → FinalStatus) (result : String → ProcessResult) (terminated : Batch → Bool) :
    Prop where
  /-- The results, in any order. -/
  results : ∀ batch, (env.outcome batch).results.Perm
    ((members batch targets).map fun q => (q.name, result q.name))
  /-- The messages, in any order. -/
  reports : ∀ batch, Reports (members batch targets) final (env.outcome batch)
  /-- The interrupts. -/
  terminated : ∀ batch, (env.outcome batch).terminated = terminated batch

/-! ## Three batches that return -/

variable {env env' : Environment} {args : Args} {targets : List Qube}

/-- The largest code of the batches. -/
def maxCode (code : Batch → Int) : Int := max (max (code .admin) (code .independent)) (code .derived)

/-- The largest code is bounded if all of them are. -/
theorem maxCode_le_iff {code : Batch → Int} {bound : Int} :
    maxCode code ≤ bound ↔ ∀ batch, code batch ≤ bound := by
  rw [maxCode, max_le_iff, max_le_iff]
  constructor
  · rintro ⟨⟨h₁, h₂⟩, h₃⟩ (_ | _ | _)
    · exact h₁
    · exact h₂
    · exact h₃
  · intro h
    exact ⟨⟨h _, h _⟩, h _⟩

/-- No code is larger. -/
theorem le_maxCode (code : Batch → Int) (batch : Batch) : code batch ≤ maxCode code :=
  maxCode_le_iff.mp le_rfl batch

/-- If a batch returns the code of an interrupt, the run returns it and applies nothing. -/
theorem exec_updateTargets_interrupted (env : Environment) (args : Args) (targets : List Qube)
    (hdry : args.dryRun = false) (st : MainState) {r : Batch → Int × Dict String FinalStatus}
    (hr : ∀ batch, batchResult env args targets batch = .ok (r batch)) (batch : Batch)
    (hbatch : (r batch).1 = Exit.sigint) :
    (exec (updateTargets env args targets) st).1 = .ok Exit.sigint ∧
      (exec (updateTargets env args targets) st).2.world = st.world := by
  -- whatever batch ends the run, it is by the code of an interrupt
  have hcode : ∀ b, ¬ Continues (batchResult env args targets b) →
      (batchResult env args targets b).map Prod.fst = .ok Exit.sigint := by
    intro b hstop
    rw [hr b] at hstop ⊢
    by_contra hne
    exact hstop ⟨r b, rfl, fun heq => hne (congrArg Except.ok heq)⟩
  rcases updateTargets_cases env targets hdry st with
    ⟨hstop, hended⟩ | ⟨-, hstop, hended⟩ | ⟨-, -, hstop, hended⟩ | ⟨hcont, -⟩
  · rw [hended]
    exact ⟨hcode _ hstop, by simp⟩
  · rw [hended]
    exact ⟨hcode _ hstop, by simp⟩
  · rw [hended]
    exact ⟨hcode _ hstop, by simp⟩
  · obtain ⟨returned, hreturned, hne⟩ := hcont batch
    rw [hr batch] at hreturned
    cases hreturned
    exact absurd hbatch hne

/-- If no batch returns the code of an interrupt, the run ends with the apply phase. -/
theorem exec_updateTargets_completed (env : Environment) (args : Args) (targets : List Qube)
    (hdry : args.dryRun = false) (st : MainState) {r : Batch → Int × Dict String FinalStatus}
    (hr : ∀ batch, batchResult env args targets batch = .ok (r batch))
    (hcode : ∀ batch, (r batch).1 ≠ Exit.sigint) :
    ∃ st₃ : MainState, st₃.world = st.world ∧ exec (updateTargets env args targets) st
      = finish env args targets (r .admin) (r .independent) (r .derived) st₃ := by
  refine ⟨((st.afterBatch targets .admin).afterBatch targets .independent).afterBatch targets
    .derived, by simp, ?_⟩
  rw [exec_updateTargets hdry, hr, hr, hr]
  dsimp only
  rw [if_neg (hcode _), if_neg (hcode _), if_neg (hcode _)]

/-! ## The batches in both modes -/

/-- The code that the results of a batch count as. -/
def workerCode (targets : List Qube) (result : String → ProcessResult) (batch : Batch) : Int :=
  collectedCode ((members batch targets).map fun q => (q.name, result q.name))

/-- The code of a batch is between 0 and 26. -/
theorem workerCode_bounds (targets : List Qube) (result : String → ProcessResult) (batch : Batch) :
    0 ≤ workerCode targets result batch ∧ workerCode targets result batch ≤ 26 :=
  collectedCode_bounds _

/-- So is the largest one. -/
theorem maxCode_workerCode_bounds (targets : List Qube) (result : String → ProcessResult) :
    0 ≤ maxCode (workerCode targets result) ∧ maxCode (workerCode targets result) ≤ 26 :=
  ⟨(workerCode_bounds targets result .admin).1.trans (le_maxCode _ _),
    maxCode_le_iff.mpr fun batch => (workerCode_bounds targets result batch).2⟩

/-- All batches count as successes exactly if all workers do. -/
theorem maxCode_workerCode_eq_zero {result : String → ProcessResult} :
    maxCode (workerCode targets result) = 0 ↔ ∀ q ∈ targets, (result q.name).code = 0 := by
  have hzero : ∀ batch, workerCode targets result batch = 0 ↔
      ∀ q ∈ members batch targets, (result q.name).code = 0 := by
    intro batch
    rw [workerCode, collectedCode_eq_zero, List.forall_mem_map]
  constructor
  · intro h q hq
    -- no code is negative, so each of them is zero
    have hle := le_maxCode (workerCode targets result) q.klass.batch
    rw [h] at hle
    have hbatch := le_antisymm hle (workerCode_bounds targets result q.klass.batch).1
    exact (hzero _).mp hbatch q (mem_members.mpr ⟨hq, rfl⟩)
  · intro h
    refine le_antisymm (maxCode_le_iff.mpr fun batch => ?_) (maxCode_workerCode_bounds _ _).1
    exact ((hzero batch).mpr fun q hq => h q (mem_members.mp hq).1).le

/-- Without a display, a batch returns no status. -/
theorem batchResult_hidden {final : String → FinalStatus} {result : String → ProcessResult}
    {terminated : Batch → Bool} (hplays : env.Plays targets final result terminated)
    (hhidden : args.showProgress = false) (batch : Batch) :
    batchResult env args targets batch
      = .ok (if members batch targets ≠ [] ∧ terminated batch = true then Exit.sigint
          else workerCode targets result batch, Dict.empty) := by
  have hmode : (batchManager args targets batch).showProgress = false := hhidden
  rw [batchResult]
  by_cases hempty : members batch targets = []
  · rw [if_pos hempty, if_neg fun h => h.1 hempty, workerCode, hempty]
    rfl
  · rw [if_neg hempty, run_hidden hmode hempty rfl, hplays.terminated, workerCode,
      collectedCode_perm (hplays.results batch)]
    cases terminated batch <;> simp [hempty]

/-- With a display, a batch returns the status of each of its qubes. -/
theorem batchResult_shown {final : String → FinalStatus} {result : String → ProcessResult}
    {terminated : Batch → Bool} (hplays : env.Plays targets final result terminated)
    (hshown : args.showProgress = true) (hdisplay : args.displayName = none)
    (hnodup : (targets.map Qube.name).Nodup) (batch : Batch) :
    ∃ statuses, batchResult env args targets batch
        = .ok (finalCode (members batch targets ≠ [] ∧ terminated batch = true)
            (workerCode targets result batch) statuses.values, statuses) ∧
      ∀ name, statuses.get? name
        = if name ∈ (members batch targets).map Qube.name then some (final name) else none := by
  have hmode : (batchManager args targets batch).showProgress = true := hshown
  rw [batchResult]
  by_cases hempty : members batch targets = []
  · refine ⟨Dict.empty, ?_, fun name => ?_⟩
    · rw [if_pos hempty, workerCode, hempty]
      rfl
    · rw [hempty]
      rfl
  · have hnodup' : ((members batch targets).map Qube.name).Nodup :=
      hnodup.sublist ((List.filter_sublist).map _)
    obtain ⟨statuses, hrun, hstatuses⟩ := run_shown hmode hempty rfl hdisplay hnodup'
      (hplays.reports batch)
    refine ⟨statuses, ?_, hstatuses⟩
    rw [if_neg hempty, hrun, hplays.terminated, workerCode,
      collectedCode_perm (hplays.results batch)]
    cases terminated batch <;> simp [hempty]

/-- The statuses that a batch with a display knows. -/
theorem mem_values_shown {final : String → FinalStatus} {batch : Batch}
    {statuses : Dict String FinalStatus}
    (h : ∀ name, statuses.get? name
      = if name ∈ (members batch targets).map Qube.name then some (final name) else none)
    (status : FinalStatus) :
    status ∈ statuses.values ↔ ∃ q ∈ members batch targets, final q.name = status := by
  rw [Dict.mem_values]
  constructor
  · rintro ⟨name, hname⟩
    rw [h name] at hname
    split at hname
    · rename_i hmem
      obtain ⟨q, hq, rfl⟩ := List.mem_map.mp hmem
      exact ⟨q, hq, Option.some.inj hname⟩
    · cases hname
  · rintro ⟨q, hq, rfl⟩
    exact ⟨q.name, by rw [h, if_pos (List.mem_map_of_mem hq)]⟩

/-! ## The end of a run -/

/-- The code of a failed batch is kept. -/
theorem exitCode_of_pos {code : Int} (hpos : 0 < code) (hlt : code < 100) (noUpdates : Bool) :
    exitCode args noUpdates code = code := by
  rw [exitCode, if_neg fun h => hpos.ne' h.1, if_neg fun h => hlt.ne h.1]

/-- Success is signalled as "no updates" if it is asked for. -/
theorem exitCode_zero (args : Args) (noUpdates : Bool) :
    exitCode args noUpdates 0
      = if noUpdates = true ∧ args.signalNoUpdates = true then Exit.okNoUpdates else Exit.ok := by
  unfold exitCode
  cases noUpdates <;> cases args.signalNoUpdates <;> rfl

/-- Whether the updates are to be applied. -/
def Args.applies (args : Args) : Prop := args.applyToSys = true ∨ args.applyToAll = true

/-- Whether no batch has a status that is not "no updates". -/
def noUpdatesIn (r : Batch → Int × Dict String FinalStatus) : Bool :=
  allNoUpdates (r .derived).2 && (allNoUpdates (r .independent).2 && allNoUpdates (r .admin).2)

/-- Without updated templates and standalones, or without the request to apply their updates, a run
ends with the code of its batches. -/
theorem finish_unapplied (env : Environment) (hdry : args.dryRun = false)
    (hnone : args.applies → members .independent targets = [])
    (r : Batch → Int × Dict String FinalStatus) (st : MainState)
    (hnonneg : 0 ≤ maxCode fun batch => (r batch).1) :
    ∃ st', finish env args targets (r .admin) (r .independent) (r .derived) st
        = (.ok (exitCode args (noUpdatesIn r) (maxCode fun batch => (r batch).1)), st') ∧
      st'.world.requests = st.world.requests := by
  -- there is nothing to apply, or nobody has asked for it
  have happly : ∃ w', exec (applyUpdatesToAppvm env.system args (members .independent targets)
      (r .independent).2 (r .derived).2) st.world = (.ok Exit.ok, w') ∧
      w'.requests = st.world.requests := by
    by_cases hflags : args.applies
    · rw [hnone hflags]
      exact exec_applyUpdatesToAppvm_nil hdry _ _
    · rw [Args.applies, not_or, Bool.not_eq_true, Bool.not_eq_true] at hflags
      exact ⟨st.world, exec_applyUpdatesToAppvm_none hflags.1 hflags.2 _ _ _, rfl⟩
  obtain ⟨w', hexec, hrequests⟩ := happly
  refine ⟨{ st with world := w' }, ?_, hrequests⟩
  rw [finish, hexec]
  have hmax : max (maxCode fun batch => (r batch).1) Exit.ok = maxCode fun batch => (r batch).1 :=
    max_eq_left hnonneg
  rw [maxCode] at hmax
  dsimp only [Except.mapError, Except.map]
  rw [hmax]
  rfl

/-- Without the statuses of the templates and standalones, applying the updates fails at once. -/
theorem finish_keyError (hflags : args.applies) {vm : Qube} {rest : List Qube}
    (hindependent : members .independent targets = vm :: rest)
    (r₁ r₃ : Int × Dict String FinalStatus) (code : Int) (st : MainState) :
    finish env args targets r₁ (code, Dict.empty) r₃ st
      = (.error (.raised (.keyError vm.name)), st) := by
  have hasked : (!args.applyToSys && !args.applyToAll) = false := by
    rcases hflags with h | h <;> simp [h]
  -- the first template or standalone has no status
  have happly : exec (applyUpdatesToAppvm env.system args (vm :: rest) Dict.empty r₃.2) st.world
      = (.error (.keyError vm.name), st.world) := by
    rw [applyUpdatesToAppvm, hasked, if_neg Bool.false_ne_true]
    exact exec_bind_error (exec_ofResult _) _
  rw [finish, hindependent, happly]
  rfl

/-- With these statuses, applying the updates raises only after a request. -/
theorem finish_advances {r₁ r₂ r₃ : Int × Dict String FinalStatus} {st : MainState}
    (h : ∀ vm ∈ members .independent targets, (r₂.2.get? vm.name).isSome = true) {stop : Stop}
    (hstop : (finish env args targets r₁ r₂ r₃ st).1 = .error stop) :
    (finish env args targets r₁ r₂ r₃ st).2.world.requests ≠ st.world.requests := by
  obtain ⟨-, hlt⟩ := advances_applyUpdatesToAppvm env.system args h r₃.2 st.world
  have herror : ∃ exc, (exec (applyUpdatesToAppvm env.system args (members .independent targets)
      r₂.2 r₃.2) st.world).1 = .error exc := by
    rw [finish] at hstop
    cases hexec : (exec (applyUpdatesToAppvm env.system args (members .independent targets)
        r₂.2 r₃.2) st.world).1 with
    | error exc => exact ⟨exc, rfl⟩
    | ok code =>
        rw [hexec] at hstop
        cases hstop
  obtain ⟨exc, hexc⟩ := herror
  intro heq
  exact (hlt exc hexc).ne' (congrArg List.length heq)

/-! ## Two runs with the same outcomes -/

/-- The outcomes of the targets for which a run with and a run without a display do the same. -/
def SameInBothModes (args : Args) (targets : List Qube) (final : String → FinalStatus)
    (result : String → ProcessResult) (terminated : Batch → Bool) : Prop :=
  (∃ batch, members batch targets ≠ [] ∧ terminated batch = true) ∨
    ((∀ q ∈ targets, final q.name ≠ .cancelled ∧ final q.name ≠ .unknown) ∧
      ((∃ q ∈ targets, final q.name = .error) → ∃ q ∈ targets, (result q.name).code ≠ 0) ∧
      (args.signalNoUpdates = true → (∀ q ∈ targets, (result q.name).code = 0) →
        ∀ q ∈ targets, final q.name = .noUpdates) ∧
      (args.applies → members .independent targets = []))

variable {final : String → FinalStatus} {result : String → ProcessResult}

/-- What the batches of a run with a display return, if none of them is interrupted. -/
structure ShownBatches (targets : List Qube) (final : String → FinalStatus)
    (result : String → ProcessResult) (shown : Batch → Int × Dict String FinalStatus) : Prop where
  /-- The code takes the statuses into account. -/
  code : ∀ batch, (shown batch).1
    = finalCode false (workerCode targets result batch) (shown batch).2.values
  /-- The statuses are those of the qubes of the batch. -/
  statuses : ∀ batch status, status ∈ (shown batch).2.values ↔
    ∃ q ∈ members batch targets, final q.name = status

/-- A target with some status is one of its batch. -/
theorem exists_members_iff {p : Qube → Prop} :
    (∃ batch, ∃ q ∈ members batch targets, p q) ↔ ∃ q ∈ targets, p q := by
  constructor
  · rintro ⟨batch, q, hq, hp⟩
    exact ⟨q, (mem_members.mp hq).1, hp⟩
  · rintro ⟨q, hq, hp⟩
    exact ⟨q.klass.batch, q, mem_members.mpr ⟨hq, rfl⟩, hp⟩

namespace ShownBatches

variable {shown : Batch → Int × Dict String FinalStatus}

/-- The statuses of all batches are "no updates" exactly if those of all targets are. -/
theorem noUpdatesIn_iff (h : ShownBatches targets final result shown) :
    noUpdatesIn shown = true ↔ ∀ q ∈ targets, final q.name = .noUpdates := by
  have hbatch : ∀ batch, allNoUpdates (shown batch).2 = true ↔
      ∀ q ∈ members batch targets, final q.name = .noUpdates := by
    intro batch
    rw [allNoUpdates, List.all_eq_true]
    constructor
    · intro hall q hq
      exact of_decide_eq_true (hall _ ((h.statuses batch _).mpr ⟨q, hq, rfl⟩))
    · intro hall status hstatus
      obtain ⟨q, hq, rfl⟩ := (h.statuses batch status).mp hstatus
      exact decide_eq_true (hall q hq)
  rw [noUpdatesIn, Bool.and_eq_true, Bool.and_eq_true, hbatch, hbatch, hbatch]
  constructor
  · rintro ⟨hderived, hindependent, hadmin⟩ q hq
    -- every target is in the batch of its class
    cases hclass : q.klass.batch with
    | admin => exact hadmin q (mem_members.mpr ⟨hq, hclass⟩)
    | independent => exact hindependent q (mem_members.mpr ⟨hq, hclass⟩)
    | derived => exact hderived q (mem_members.mpr ⟨hq, hclass⟩)
  · intro hall
    exact ⟨fun q hq => hall q (mem_members.mp hq).1, fun q hq => hall q (mem_members.mp hq).1,
      fun q hq => hall q (mem_members.mp hq).1⟩

/-- The code of a batch by the worst status of its qubes. -/
theorem code_eq (h : ShownBatches targets final result shown) (batch : Batch) :
    (shown batch).1
      = if ∃ q ∈ members batch targets, final q.name = .cancelled then Exit.sigint
        else if ∃ q ∈ members batch targets, final q.name = .unknown then Exit.errQrexex
        else if ∃ q ∈ members batch targets, final q.name = .error
        then max (workerCode targets result batch) Exit.err
        else workerCode targets result batch := by
  rw [h.code, finalCode_eq (workerCode_bounds targets result batch).2]
  simp only [h.statuses]

/-- A batch returns the code of an interrupt exactly if one of its qubes is cancelled. -/
theorem code_eq_sigint_iff (h : ShownBatches targets final result shown) (batch : Batch) :
    (shown batch).1 = Exit.sigint ↔ ∃ q ∈ members batch targets, final q.name = .cancelled := by
  have hle := (workerCode_bounds targets result batch).2
  rw [h.code_eq]
  by_cases hcancelled : ∃ q ∈ members batch targets, final q.name = .cancelled
  · rw [if_pos hcancelled]
    exact iff_of_true rfl hcancelled
  · rw [if_neg hcancelled, Exit.sigint, Exit.errQrexex, Exit.err]
    refine iff_of_false ?_ hcancelled
    split
    · decide
    · split <;> omega

/-- The codes of the batches are not negative. -/
theorem code_nonneg (h : ShownBatches targets final result shown) (batch : Batch) :
    0 ≤ (shown batch).1 := by
  have hpos := (workerCode_bounds targets result batch).1
  rw [h.code_eq, Exit.sigint, Exit.errQrexex, Exit.err]
  split
  · decide
  · split
    · decide
    · split <;> omega

/-- The code of a batch without a cancelled qube. -/
theorem code_eq_of_not_cancelled (h : ShownBatches targets final result shown)
    (hcancelled : ∀ q ∈ targets, final q.name ≠ .cancelled) (batch : Batch) :
    (shown batch).1
      = if ∃ q ∈ members batch targets, final q.name = .unknown then Exit.errQrexex
        else if ∃ q ∈ members batch targets, final q.name = .error
        then max (workerCode targets result batch) Exit.err
        else workerCode targets result batch := by
  rw [h.code_eq, if_neg]
  rintro ⟨q, hq, hfinal⟩
  exact hcancelled q (mem_members.mp hq).1 hfinal

/-- The code of a batch whose statuses are all known. -/
theorem code_eq_of_known (h : ShownBatches targets final result shown)
    (hcancelled : ∀ q ∈ targets, final q.name ≠ .cancelled)
    (hknown : ∀ q ∈ targets, final q.name ≠ .unknown) (batch : Batch) :
    (shown batch).1
      = if ∃ q ∈ members batch targets, final q.name = .error
        then max (workerCode targets result batch) Exit.err
        else workerCode targets result batch := by
  rw [h.code_eq_of_not_cancelled hcancelled, if_neg]
  rintro ⟨q, hq, hfinal⟩
  exact hknown q (mem_members.mp hq).1 hfinal

/-- An unknown status gives the code of a lost connection, which no worker has. -/
theorem maxCode_of_unknown (h : ShownBatches targets final result shown)
    (hcancelled : ∀ q ∈ targets, final q.name ≠ .cancelled)
    (hunknown : ∃ q ∈ targets, final q.name = .unknown) :
    (maxCode fun batch => (shown batch).1) = Exit.errQrexex := by
  apply le_antisymm
  · rw [maxCode_le_iff]
    intro batch
    have hle := (workerCode_bounds targets result batch).2
    rw [h.code_eq_of_not_cancelled hcancelled, Exit.errQrexex, Exit.err]
    split
    · omega
    · split <;> omega
  · obtain ⟨batch, hbatch⟩ := exists_members_iff.mpr hunknown
    have hle := le_maxCode (fun batch => (shown batch).1) batch
    rwa [h.code_eq_of_not_cancelled hcancelled, if_pos hbatch] at hle

/-- If all workers succeed, an error is only known to the display. -/
theorem maxCode_of_error (h : ShownBatches targets final result shown)
    (hcancelled : ∀ q ∈ targets, final q.name ≠ .cancelled)
    (hknown : ∀ q ∈ targets, final q.name ≠ .unknown)
    (hzero : maxCode (workerCode targets result) = 0)
    (herror : ∃ q ∈ targets, final q.name = .error) :
    (maxCode fun batch => (shown batch).1) = Exit.err := by
  apply le_antisymm
  · rw [maxCode_le_iff]
    intro batch
    have hle := le_maxCode (workerCode targets result) batch
    rw [h.code_eq_of_known hcancelled hknown, Exit.err]
    split <;> omega
  · obtain ⟨batch, hbatch⟩ := exists_members_iff.mpr herror
    have hle := le_maxCode (fun batch => (shown batch).1) batch
    rw [h.code_eq_of_known hcancelled hknown, if_pos hbatch] at hle
    exact (le_max_right _ _).trans hle

/-- Without errors, or next to a failed worker, whose code is larger than that of an error, the
display does not change the code. -/
theorem maxCode_eq (h : ShownBatches targets final result shown)
    (hcancelled : ∀ q ∈ targets, final q.name ≠ .cancelled)
    (hknown : ∀ q ∈ targets, final q.name ≠ .unknown)
    (herror : (∃ q ∈ targets, final q.name = .error) → maxCode (workerCode targets result) ≠ 0) :
    (maxCode fun batch => (shown batch).1) = maxCode (workerCode targets result) := by
  apply le_antisymm
  · rw [maxCode_le_iff]
    intro batch
    have hle := le_maxCode (workerCode targets result) batch
    rw [h.code_eq_of_known hcancelled hknown, Exit.err]
    split
    case isTrue hbatch =>
        have hne := herror (exists_members_iff.mp ⟨batch, hbatch⟩)
        have hnonneg := (maxCode_workerCode_bounds targets result).1
        omega
    case isFalse => exact hle
  · rw [maxCode_le_iff]
    intro batch
    apply le_trans _ (le_maxCode (fun batch => (shown batch).1) batch)
    rw [h.code_eq_of_known hcancelled hknown]
    split
    · exact le_max_left _ _
    · exact le_rfl

end ShownBatches

/-- The exit code of a run without a display: it takes success for "no updates". -/
theorem exitCode_hidden (args : Args) {code : Int} (hcode : 0 ≤ code ∧ code ≤ 26) :
    exitCode args true code
      = if code = 0 then (if args.signalNoUpdates = true then Exit.okNoUpdates else Exit.ok)
        else code := by
  by_cases hzero : code = 0
  · rw [if_pos hzero, hzero, exitCode_zero]
    simp
  · rw [if_neg hzero, exitCode_of_pos (by omega) (by omega)]

/-- No run without a display has an exit code from 27 on, but 100. -/
theorem exitCode_hidden_ne (args : Args) (targets : List Qube) (result : String → ProcessResult)
    {code : Int} (hcode : 26 < code) (hne : code ≠ 100) :
    exitCode args true (maxCode (workerCode targets result)) ≠ code := by
  have hbounds := maxCode_workerCode_bounds targets result
  rw [exitCode_hidden args hbounds, Exit.okNoUpdates, Exit.ok]
  split
  · split <;> omega
  · omega

/-- The exit codes of a run with a display and of one without, if no batch is interrupted and no qube
cancelled. -/
theorem ShownBatches.exitCode_iff {shown : Batch → Int × Dict String FinalStatus}
    (h : ShownBatches targets final result shown)
    (hcancelled : ∀ q ∈ targets, final q.name ≠ .cancelled) :
    exitCode args (noUpdatesIn shown) (maxCode fun batch => (shown batch).1)
        = exitCode args true (maxCode (workerCode targets result)) ↔
      (∀ q ∈ targets, final q.name ≠ .unknown) ∧
      ((∃ q ∈ targets, final q.name = .error) → ∃ q ∈ targets, (result q.name).code ≠ 0) ∧
      (args.signalNoUpdates = true → (∀ q ∈ targets, (result q.name).code = 0) →
        ∀ q ∈ targets, final q.name = .noUpdates) := by
  have hmax := maxCode_workerCode_bounds targets result
  have hsome : (∃ q ∈ targets, (result q.name).code ≠ 0) ↔
      maxCode (workerCode targets result) ≠ 0 := by
    rw [ne_eq, maxCode_workerCode_eq_zero]
    push Not
    rfl
  by_cases hunknown : ∃ q ∈ targets, final q.name = .unknown
  · -- the code of a lost connection is not that of any worker
    refine iff_of_false ?_ fun hsame => ?_
    · rw [h.maxCode_of_unknown hcancelled hunknown, exitCode_of_pos (by decide) (by decide)]
      exact Ne.symm (exitCode_hidden_ne args targets result (by decide) (by decide))
    · obtain ⟨q, hq, hfinal⟩ := hunknown
      exact hsame.1 q hq hfinal
  · have hknown : ∀ q ∈ targets, final q.name ≠ .unknown := fun q hq hfinal =>
      hunknown ⟨q, hq, hfinal⟩
    rw [and_iff_right hknown, hsome, ← maxCode_workerCode_eq_zero, ← h.noUpdatesIn_iff]
    by_cases hzero : maxCode (workerCode targets result) = 0
    · by_cases herror : ∃ q ∈ targets, final q.name = .error
      · -- only the display turns the error into a code
        refine iff_of_false ?_ fun hsame => hsame.1 herror hzero
        rw [h.maxCode_of_error hcancelled hknown hzero herror,
          exitCode_of_pos (by decide) (by decide), exitCode_hidden args hmax, if_pos hzero]
        split <;> decide
      · have hshown := h.maxCode_eq hcancelled hknown fun hyes => absurd hyes herror
        rw [hshown, hzero, exitCode_zero, exitCode_zero, imp_iff_right rfl,
          and_iff_right fun hyes => absurd hyes herror]
        cases noUpdatesIn shown <;> cases args.signalNoUpdates <;> simp
    · -- some worker has failed, and both runs return its code
      have hshown := h.maxCode_eq hcancelled hknown fun _ => hzero
      refine iff_of_true ?_ ⟨fun _ => hzero, fun _ hall => absurd hall hzero⟩
      rw [hshown, exitCode_of_pos (by omega) (by omega), exitCode_of_pos (by omega) (by omega)]

/-- Without targets, no run does anything but print a message. -/
theorem behaviour_nil (env : Environment) (args : Args) (w : World) :
    behaviour env args (.ok []) w
      = (.ok (if args.signalNoUpdates then Exit.okNoUpdates else Exit.ok), w.requests) := by
  rw [behaviour, mainRun, main]
  cases args.quiet <;> rfl

variable {terminated : Batch → Bool} {quiet noProgress : Bool} {w : World}

/-- A run without a display that is not interrupted. -/
theorem behaviour_hidden (env : Environment) (args : Args) (hdry : args.dryRun = false)
    (hhidden : args.showProgress = false) (hne : targets ≠ [])
    (hplays : env.Plays targets final result terminated)
    (hterminated : ¬ ∃ batch, members batch targets ≠ [] ∧ terminated batch = true) (w : World) :
    ((args.applies → members .independent targets = []) →
      behaviour env args (.ok targets) w
        = (.ok (exitCode args true (maxCode (workerCode targets result))), w.requests)) ∧
    ((¬ (args.applies → members .independent targets = [])) →
      ∃ name, behaviour env args (.ok targets) w
        = (.error (.raised (.keyError name)), w.requests)) := by
  have hworker := workerCode_bounds targets result
  have hr : ∀ batch, batchResult env args targets batch
      = .ok (workerCode targets result batch, Dict.empty) := by
    intro batch
    rw [batchResult_hidden hplays hhidden, if_neg fun h => hterminated ⟨batch, h⟩]
  -- without statuses, no code of a batch is that of an interrupt
  have hcode : ∀ batch, workerCode targets result batch ≠ Exit.sigint := by
    intro batch heq
    have hle := (hworker batch).2
    rw [heq] at hle
    exact absurd hle (by decide)
  obtain ⟨st₃, hworld, hexec⟩ := exec_updateTargets_completed env args targets hdry { world := w }
    (r := fun batch => (workerCode targets result batch, Dict.empty)) hr hcode
  constructor
  · intro hnone
    obtain ⟨st', hfinish, hrequests⟩ := finish_unapplied env hdry hnone
      (fun batch => (workerCode targets result batch, Dict.empty)) st₃
      ((hworker .admin).1.trans (le_maxCode (workerCode targets result) _))
    rw [behaviour, mainRun_of_ne_nil env args hne, hexec, hfinish, hrequests, hworld]
    rfl
  · intro happlied
    rw [Classical.not_imp] at happlied
    obtain ⟨hflags, hindependent⟩ := happlied
    obtain ⟨vm, rest, hmembers⟩ := List.exists_cons_of_ne_nil hindependent
    refine ⟨vm.name, ?_⟩
    rw [behaviour, mainRun_of_ne_nil env args hne, hexec, finish_keyError hflags hmembers, hworld]

/-- A run with a display that is not interrupted, in terms of what its batches return: it is cut short
by a cancelled qube, and raises only after it has sent a request. -/
theorem behaviour_shown (env : Environment) (args : Args) (hdry : args.dryRun = false)
    (hshown : args.showProgress = true) (hdisplay : args.displayName = none) (hne : targets ≠ [])
    (hnodup : (targets.map Qube.name).Nodup)
    (hplays : env.Plays targets final result terminated)
    (hterminated : ¬ ∃ batch, members batch targets ≠ [] ∧ terminated batch = true) (w : World) :
    ∃ shown : Batch → Int × Dict String FinalStatus,
      ShownBatches targets final result shown ∧
      ((∃ q ∈ targets, final q.name = .cancelled) →
        behaviour env args (.ok targets) w = (.ok Exit.sigint, w.requests)) ∧
      ((∀ q ∈ targets, final q.name ≠ .cancelled) →
        (args.applies → members .independent targets = []) →
        behaviour env args (.ok targets) w
          = (.ok (exitCode args (noUpdatesIn shown) (maxCode fun batch => (shown batch).1)),
              w.requests)) ∧
      ∀ stop, (behaviour env args (.ok targets) w).1 = .error stop →
        (behaviour env args (.ok targets) w).2 ≠ w.requests := by
  choose statuses hr hstatuses using
    fun batch => batchResult_shown hplays hshown hdisplay hnodup batch
  let shown : Batch → Int × Dict String FinalStatus := fun batch =>
    (finalCode false (workerCode targets result batch) (statuses batch).values, statuses batch)
  have hresult : ∀ batch, batchResult env args targets batch = .ok (shown batch) := by
    intro batch
    have hnot : decide (members batch targets ≠ [] ∧ terminated batch = true) = false :=
      decide_eq_false fun h => hterminated ⟨batch, h⟩
    rw [hr batch, hnot]
  have hbatches : ShownBatches targets final result shown :=
    ⟨fun _ => rfl, fun batch => mem_values_shown (hstatuses batch)⟩
  refine ⟨shown, hbatches, ?_, ?_, ?_⟩
  · rintro ⟨q, hq, hfinal⟩
    have hrun := exec_updateTargets_interrupted env args targets hdry { world := w } hresult
      q.klass.batch ((hbatches.code_eq_sigint_iff _).mpr ⟨q, mem_members.mpr ⟨hq, rfl⟩, hfinal⟩)
    rw [behaviour, mainRun_of_ne_nil env args hne, hrun.1, hrun.2]
  · intro hcancelled hnone
    obtain ⟨st₃, hworld, hexec⟩ := exec_updateTargets_completed env args targets hdry
      { world := w } hresult fun batch heq => by
        obtain ⟨q, hq, hfinal⟩ := (hbatches.code_eq_sigint_iff batch).mp heq
        exact hcancelled q (mem_members.mp hq).1 hfinal
    have hnonneg : 0 ≤ maxCode fun batch => (shown batch).1 :=
      (hbatches.code_nonneg .admin).trans (le_maxCode (fun batch => (shown batch).1) .admin)
    obtain ⟨st', hfinish, hrequests⟩ := finish_unapplied env hdry hnone shown st₃ hnonneg
    rw [behaviour, mainRun_of_ne_nil env args hne, hexec, hfinish, hrequests, hworld]
  · -- an exception can only come from the apply phase
    intro stop hstop
    rw [behaviour, mainRun_of_ne_nil env args hne] at hstop ⊢
    by_cases hcancelled : ∃ batch, (shown batch).1 = Exit.sigint
    · obtain ⟨batch, hbatch⟩ := hcancelled
      rw [(exec_updateTargets_interrupted env args targets hdry { world := w } hresult batch
        hbatch).1] at hstop
      cases hstop
    · push Not at hcancelled
      obtain ⟨st₃, hworld, hexec⟩ := exec_updateTargets_completed env args targets hdry
        { world := w } hresult hcancelled
      rw [hexec] at hstop ⊢
      -- every template and standalone has a status, so there is no KeyError
      have hcomplete : ∀ vm ∈ members .independent targets,
          ((shown .independent).2.get? vm.name).isSome = true := by
        intro vm hvm
        rw [hstatuses .independent vm.name, if_pos (List.mem_map_of_mem hvm)]
        rfl
      have hgrown := finish_advances hcomplete hstop
      rwa [hworld] at hgrown

/-- Two runs with the same outcomes, one of them with and the other without a display. -/
theorem behaviour_eq_iff (env env' : Environment) (args : Args) (hdry : args.dryRun = false)
    (hshown : args.showProgress = true)
    (hhidden : (args.withDisplay quiet noProgress).showProgress = false)
    (hdisplay : args.displayName = none) (hnodup : (targets.map Qube.name).Nodup)
    (hplays : env.Plays targets final result terminated)
    (hplays' : env'.Plays targets final result terminated) :
    behaviour env' (args.withDisplay quiet noProgress) (.ok targets) w
        = behaviour env args (.ok targets) w ↔
      SameInBothModes args targets final result terminated := by
  by_cases hne : targets = []
  · subst hne
    rw [behaviour_nil, behaviour_nil]
    exact iff_of_true rfl (Or.inr ⟨by simp, by simp, by simp, fun _ => rfl⟩)
  by_cases hterminated : ∃ batch, members batch targets ≠ [] ∧ terminated batch = true
  · -- both runs end with the first interrupted batch
    refine iff_of_true ?_ (Or.inl hterminated)
    obtain ⟨batch, hbatch⟩ := hterminated
    choose statuses hr hstatuses using
      fun batch => batchResult_shown hplays hshown hdisplay hnodup batch
    have hrun := exec_updateTargets_interrupted env args targets hdry { world := w } hr batch
      (by simp [hbatch])
    have hrun' := exec_updateTargets_interrupted env' (args.withDisplay quiet noProgress) targets hdry
      { world := w } (batchResult_hidden hplays' hhidden) batch (if_pos hbatch)
    rw [behaviour, behaviour, mainRun_of_ne_nil _ _ hne, mainRun_of_ne_nil _ _ hne, hrun.1, hrun.2,
      hrun'.1, hrun'.2]
  obtain ⟨hcompleted, hkeyError⟩ :=
    behaviour_hidden env' (args.withDisplay quiet noProgress) hdry hhidden hne hplays' hterminated w
  obtain ⟨shown, hbatches, hcancelled, hfinished, hraised⟩ :=
    behaviour_shown env args hdry hshown hdisplay hne hnodup hplays hterminated w
  rw [SameInBothModes, or_iff_right hterminated]
  by_cases hnone : args.applies → members .independent targets = []
  · rw [hcompleted hnone]
    by_cases hcancel : ∃ q ∈ targets, final q.name = .cancelled
    · -- only the run with a display knows that a qube has been cancelled
      rw [hcancelled hcancel]
      refine iff_of_false ?_ fun h => ?_
      · rw [Prod.mk.injEq, not_and]
        intro heq _
        exact exitCode_hidden_ne _ targets result (by decide) (by decide) (Except.ok.inj heq)
      · obtain ⟨q, hq, hfinal⟩ := hcancel
        exact absurd hfinal (h.1 q hq).1
    · push Not at hcancel
      rw [hfinished hcancel hnone, Prod.mk.injEq, and_iff_left rfl, Except.ok.injEq, eq_comm]
      refine (hbatches.exitCode_iff hcancel).trans ?_
      constructor
      · rintro ⟨hunknown, herror, hsignal⟩
        exact ⟨fun q hq => ⟨hcancel q hq, hunknown q hq⟩, herror, hsignal, hnone⟩
      · rintro ⟨hknown, herror, hsignal, -⟩
        exact ⟨fun q hq => (hknown q hq).2, herror, hsignal⟩
  · -- one run raises at once, the other one only after a request
    obtain ⟨name, herror⟩ := hkeyError hnone
    refine iff_of_false (fun heq => ?_) fun h => hnone h.2.2.2
    rw [herror] at heq
    exact hraised _ (congrArg Prod.fst heq).symm (congrArg Prod.snd heq).symm

/-! ## The display mode -/

/-- The display mode does not matter for a run: it does the same without a display, and in both modes
every batch returns a final status for each of its qubes. -/
def DisplayIrrelevant (env env' : Environment) (args : Args) (quiet noProgress : Bool)
    (targets : Except String (List Qube)) (w : World) : Prop :=
  behaviour env' (args.withDisplay quiet noProgress) targets w = behaviour env args targets w ∧
    ReportsAll env args targets w ∧
    ReportsAll env' (args.withDisplay quiet noProgress) targets w

/-- In a dry run, the display options are not looked at, and nothing is updated. -/
theorem updateTargets_withDisplay (hsystem : env'.system = env.system) (hdry : args.dryRun = true)
    (quiet noProgress : Bool) (targets : List Qube) :
    updateTargets env' (args.withDisplay quiet noProgress) targets
      = updateTargets env args targets := by
  have hdry' : (args.withDisplay quiet noProgress).dryRun = true := hdry
  have happly : ∀ vmUpdated templ app, applyUpdatesToAppvm env'.system
      (args.withDisplay quiet noProgress) vmUpdated templ app
        = applyUpdatesToAppvm env.system args vmUpdated templ app := by
    intro vmUpdated templ app
    rw [hsystem]
    rfl
  have hexit : ∀ noUpdates code, exitCode (args.withDisplay quiet noProgress) noUpdates code
      = exitCode args noUpdates code := fun _ _ => rfl
  unfold updateTargets updateAdmin runUpdate
  simp only [hdry, hdry', if_true, happly, hexit]

/-- A run with targets starts some batch, in any display mode. -/
theorem exists_started (env : Environment) (args : Args) (hdry : args.dryRun = false)
    (hne : targets ≠ []) (st : MainState) :
    ∃ batch ∈ (exec (updateTargets env args targets) st).2.started, members batch targets ≠ [] := by
  have hfirst : ∃ batch : Batch, members batch targets ≠ [] ∧
      ∀ b : Batch, b.index < batch.index → members b targets = [] := by
    by_cases h₁ : members .admin targets = []
    · by_cases h₂ : members .independent targets = []
      · -- the first target is in one of the batches, so it is in the last one
        obtain ⟨q, hq⟩ := List.exists_mem_of_ne_nil _ hne
        have hmem := List.ne_nil_of_mem (mem_members.mpr ⟨hq, rfl⟩)
        refine ⟨.derived, ?_, ?_⟩
        · cases hclass : q.klass.batch with
          | admin => exact absurd h₁ (hclass ▸ hmem)
          | independent => exact absurd h₂ (hclass ▸ hmem)
          | derived => exact hclass ▸ hmem
        · rintro (_ | _ | _) hlt
          · exact h₁
          · exact h₂
          · exact absurd hlt (lt_irrefl _)
      · refine ⟨.independent, h₂, ?_⟩
        rintro (_ | _ | _) hlt
        · exact h₁
        · exact absurd hlt (lt_irrefl _)
        · exact absurd hlt (by decide)
    · exact ⟨.admin, h₁, fun b hlt => absurd hlt (Nat.not_lt_zero _)⟩
  obtain ⟨batch, hbatch, hempty⟩ := hfirst
  refine ⟨batch, ?_, hbatch⟩
  refine mem_started_of_continues env targets hdry st hbatch fun b hlt => ?_
  -- a batch without targets returns at once
  rw [batchResult, if_pos (hempty b hlt)]
  exact ⟨_, rfl, by decide⟩

/-- The display mode does not matter exactly if nothing is updated: any batch that is run without a
display returns no status at all.  As to what a run does, for given outcomes of the workers it does
the same in both modes exactly if these are `SameInBothModes`. -/
theorem display_irrelevant_iff (env env' : Environment) (hsystem : env'.system = env.system)
    (args : Args) (quiet noProgress : Bool) (hshown : args.showProgress = true)
    (hhidden : (args.withDisplay quiet noProgress).showProgress = false)
    (targets : Except String (List Qube)) (w : World) :
    (DisplayIrrelevant env env' args quiet noProgress targets w ↔
      args.dryRun = true ∨ targetList targets = []) ∧
    ∀ (final : String → FinalStatus) (result : String → ProcessResult) (terminated : Batch → Bool),
      args.dryRun = false → args.displayName = none →
      ((targetList targets).map Qube.name).Nodup →
      env.Plays (targetList targets) final result terminated →
      env'.Plays (targetList targets) final result terminated →
      (behaviour env' (args.withDisplay quiet noProgress) targets w = behaviour env args targets w ↔
        SameInBothModes args (targetList targets) final result terminated) := by
  refine ⟨⟨fun h => ?_, fun h => ?_⟩, fun final result terminated hdry hdisplay hnodup hplays
    hplays' => ?_⟩
  · -- a run that updates something has a batch without statuses
    by_contra hupdates
    rw [not_or, Bool.not_eq_true] at hupdates
    obtain ⟨hdry, hne⟩ := hupdates
    cases targets with
    | error text => exact hne rfl
    | ok qubes =>
        change qubes ≠ [] at hne
        have hreports := h.2.2
        rw [ReportsAll, mainRun_of_ne_nil _ _ hne] at hreports
        obtain ⟨batch, hbatch, hmembers⟩ :=
          exists_started env' (args.withDisplay quiet noProgress) hdry hne { world := w }
        obtain ⟨code, statuses, hresult, hall⟩ := hreports batch hbatch
        rw [targetList, batchResult, if_neg hmembers] at hresult
        have hmode : (batchManager (args.withDisplay quiet noProgress) qubes batch).showProgress
            = false := hhidden
        rw [run_hidden hmode hmembers rfl, Except.ok.injEq, Prod.mk.injEq] at hresult
        obtain ⟨q, hq⟩ := List.exists_mem_of_ne_nil _ hmembers
        have hstatus := hall q hq
        rw [← hresult.2] at hstatus
        cases hstatus
  · cases targets with
    | error text =>
        have hnone : ∀ (e : Environment) (a : Args), ReportsAll e a (.error text) w := by
          intro e a batch hbatch
          cases hbatch
        exact ⟨rfl, hnone _ _, hnone _ _⟩
    | ok qubes =>
        by_cases hne : qubes = []
        · subst hne
          have hnone : ∀ (e : Environment) (a : Args), ReportsAll e a (.ok []) w := by
            intro e a batch hbatch
            rw [mainRun, main] at hbatch
            cases hquiet : a.quiet <;> rw [hquiet] at hbatch <;> cases hbatch
          refine ⟨?_, hnone _ _, hnone _ _⟩
          rw [behaviour_nil, behaviour_nil]
          rfl
        · -- a dry run starts no batch
          have hdry := h.resolve_right hne
          have hnone : ∀ (e : Environment) (a : Args), a.dryRun = true →
              ReportsAll e a (.ok qubes) w := by
            intro e a ha batch hbatch
            rw [mainRun_of_ne_nil _ _ hne, keeps_started_dryRun e ha qubes] at hbatch
            cases hbatch
          refine ⟨?_, hnone _ _ hdry, hnone _ _ hdry⟩
          rw [behaviour, behaviour, mainRun_of_ne_nil _ _ hne, mainRun_of_ne_nil _ _ hne,
            updateTargets_withDisplay hsystem hdry]
  · cases targets with
    | error text => exact iff_of_true rfl (Or.inr ⟨by simp [targetList], by simp [targetList],
        by simp [targetList], fun _ => rfl⟩)
    | ok qubes =>
        exact behaviour_eq_iff env env' args hdry hshown hhidden hdisplay hnodup hplays hplays'

/-- A run in which this template is updated successfully. -/
def templateEnvironment : Environment where
  outcome
    | .independent =>
        { queue := [.status (.done "fedora" .success)], results := [("fedora", {})],
          terminated := false }
    | _ => { queue := [], results := [], terminated := false }
  system := serviceSystem

/-- The outcomes of that run. -/
theorem templateEnvironment_plays :
    templateEnvironment.Plays [fedora] (fun _ => .success) (fun _ => {}) fun _ => false := by
  refine ⟨fun batch => ?_, fun batch => ⟨?_⟩, fun batch => ?_⟩
  · cases batch with
    | admin | independent | derived => exact List.Perm.refl _
  · cases batch with
    | admin | derived =>
        exact ⟨fun _ => [], ⟨[], fun _ => rfl, rfl⟩, fun _ _ => rfl,
          by simp [members, fedora, Klass.batch]⟩
    | independent =>
        refine ⟨fun q => if q = "fedora" then [.status (.done "fedora" .success)] else [],
          ⟨[("fedora", .status (.done "fedora" .success))], fun q => ?_, rfl⟩, fun q hq => ?_,
          fun q hq => ?_⟩
        · dsimp only
          by_cases h : q = "fedora"
          · rw [if_pos h, h, project_cons_self, project_nil]
          · rw [if_neg h, project_cons_ne (Ne.symm h), project_nil]
        · dsimp only
          rw [if_neg]
          rintro rfl
          exact hq (by decide)
        · have hname : q = "fedora" := by simpa [members, fedora, Klass.batch] using hq
          rw [hname]
          exact ⟨[], rfl, by simp⟩
  · cases batch with
    | admin | independent | derived => rfl

/-- Updating a template with `--quiet` and `--apply-to-sys`. -/
theorem display_irrelevant_iff_template :
    (DisplayIrrelevant templateEnvironment templateEnvironment { applyToSys := true } true false
        (.ok [fedora]) { running := fun _ => true } ↔ false = true ∨ [fedora] = []) ∧
      (behaviour templateEnvironment (Args.withDisplay { applyToSys := true } true false)
          (.ok [fedora]) { running := fun _ => true }
        = behaviour templateEnvironment { applyToSys := true } (.ok [fedora])
          { running := fun _ => true } ↔
        SameInBothModes { applyToSys := true } [fedora] (fun _ => .success) (fun _ => {})
          fun _ => false) := by
  have h := display_irrelevant_iff templateEnvironment templateEnvironment rfl
    { applyToSys := true } true false rfl rfl (.ok [fedora]) { running := fun _ => true }
  exact ⟨h.1, h.2 _ _ _ rfl rfl (List.nodup_singleton _) templateEnvironment_plays
    templateEnvironment_plays⟩

/-- The display mode matters: without a display, the run of `templateEnvironment` raises `KeyError`
instead of applying the updates. -/
theorem display_relevant :
    ¬ ∀ (env env' : Environment) (args : Args) (quiet noProgress : Bool) (targets : List Qube)
      (w : World) (final : String → FinalStatus) (result : String → ProcessResult)
      (terminated : Batch → Bool), env'.system = env.system → args.showProgress = true →
      (args.withDisplay quiet noProgress).showProgress = false →
      env.Plays targets final result terminated → env'.Plays targets final result terminated →
      DisplayIrrelevant env env' args quiet noProgress (.ok targets) w := by
  intro h
  have hbehaviour := (h templateEnvironment templateEnvironment { applyToSys := true } true false
    [fedora] { running := fun _ => true } _ _ _ rfl rfl rfl templateEnvironment_plays
    templateEnvironment_plays).1
  have hnodup : ([fedora].map Qube.name).Nodup := List.nodup_singleton _
  have hsame := (behaviour_eq_iff templateEnvironment templateEnvironment { applyToSys := true } rfl
    rfl rfl rfl hnodup templateEnvironment_plays templateEnvironment_plays).mp hbehaviour
  rcases hsame with ⟨batch, -, hterminated⟩ | ⟨-, -, -, hnone⟩
  · cases hterminated
  · have hindependent := hnone (Or.inl rfl)
    cases hindependent

end QubesAdminLinux
