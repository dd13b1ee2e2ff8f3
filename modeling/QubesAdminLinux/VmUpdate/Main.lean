import QubesAdminLinux.VmUpdate.ApplyUpdates
import QubesAdminLinux.VmUpdate.UpdateManager

/-! # A run of the updater

`main` updates dom0 first, then the templates and standalones, then the other qubes, and at last
applies the updates.  A cancelled batch ends the run.

* **`Batch`, `members`** — the three batches and how the targets are divided among them.
* **`main`** — the whole run, given the parsed options, the selected targets and what the workers of
  each batch do.
* **`exec_updateTargets`** — a run without `--dry-run`, batch by batch. -/

namespace QubesAdminLinux

open StateExcept

/-- The batches, in the order of their updates. -/
inductive Batch
  | admin
  | independent
  | derived
  deriving DecidableEq, Repr

/-- The batch that a class of qubes belongs to. -/
def Klass.batch : Klass → Batch
  | .adminVM => .admin
  | .templateVM | .standaloneVM => .independent
  | .appVM | .dispVM | .other _ => .derived

/-- The targets of a batch. -/
def members (batch : Batch) (targets : List Qube) : List Qube :=
  targets.filter fun target => target.klass.batch = batch

/-- What the updater meets: the workers of each batch and the qubes of the apply phase. -/
structure Environment where
  /-- What the workers of a batch do. -/
  outcome : Batch → BatchOutcome
  /-- The qubes. -/
  system : System

/-- The state of a run. -/
structure MainState where
  /-- What the apply phase changes, and the standard output. -/
  world : World
  /-- The batches whose update has been started, in this order. -/
  started : List Batch := []
  /-- The lines written to the standard error output. -/
  stderr : List String := []

/-- Code of the updater. -/
abbrev MainM (α : Type) := StateExcept MainState Stop α

/-- A plan as a part of a run. -/
def runPlan {α : Type} (plan : PlanM α) : MainM α :=
  zoom MainState.world (fun w st => { st with world := w }) Stop.raised plan

/-- The state when the update of a batch starts. -/
def MainState.start (st : MainState) (batch : Batch) : MainState :=
  { st with started := st.started ++ [batch] }

/-- The message of `run_update`. -/
def updateMessage (targets : List Qube) (qubeKlass : String) : String :=
  if targets ≠ [] then
    s!"Following {qubeKlass} will be updated: " ++ ", ".intercalate (targets.map Qube.name)
  -- no need to inform about app VMs
  else if qubeKlass = "qubes" then ""
  else s!"No {qubeKlass} will be updated."

/-- `run_update`. -/
def runUpdate (env : Environment) (batch : Batch) (targets : List Qube) (args : Args)
    (qubeKlass : String) (dom0 : Bool) : MainM (Int × Dict String FinalStatus) :=
  if args.dryRun then do
    if updateMessage targets qubeKlass ≠ "" then
      runPlan (printLine (updateMessage targets qubeKlass))
    -- in a dry run, every target counts as updated
    pure (Exit.ok, Dict.ofList (targets.map fun target => (target.name, .success)))
  else if targets = [] then pure (Exit.ok, Dict.empty)
  else do
    modify fun st => st.start batch
    ofResult ((UpdateManager.init targets args dom0).run args (env.outcome batch))

/-- `all(stat == FinalStatus.NO_UPDATES for stat in statuses.values())`. -/
def allNoUpdates (statuses : Dict String FinalStatus) : Bool :=
  statuses.values.all (· = .noUpdates)

/-- The message about dom0. -/
def adminMessage : List Qube → String
  | [] => "The admin VM will not be updated."
  | admin :: _ => s!"The admin VM ({admin.name}) will be updated."

/-- Whether dom0 is updated by `qubes-dom0-update`; the other way only installs ready updates. -/
def Args.dom0Update (args : Args) : Bool := !(args.justPrintProgress && args.noRefresh)

/-- The part of `main` that updates dom0; it returns `ret_code_admin` and `no_updates`. -/
def updateAdmin (env : Environment) (args : Args) (admin : List Qube) : MainM (Int × Bool) :=
  if args.dryRun then do
    runPlan (printLine (adminMessage admin))
    pure (Exit.ok, true)
  else if admin = [] then pure (Exit.ok, true)
  else do
    let (retCodeAdmin, adminStatus) ←
      runUpdate env .admin admin args "admin VM" args.dom0Update
    pure (retCodeAdmin, allNoUpdates adminStatus)

/-- The end of `main`: the code for "no updates" instead of success, if it is asked for. -/
def exitCode (args : Args) (noUpdates : Bool) (retCode : Int) : Int :=
  if retCode = Exit.ok ∧ noUpdates ∧ args.signalNoUpdates then Exit.okNoUpdates
  else if retCode = Exit.okNoUpdates ∧ !args.signalNoUpdates then Exit.ok
  else retCode

/-- `main`, once there are targets. -/
def updateTargets (env : Environment) (args : Args) (targets : List Qube) : MainM Int := do
  let independent := members .independent targets
  let (retCodeAdmin, noUpdates) ← updateAdmin env args (members .admin targets)
  if retCodeAdmin = Exit.sigint then pure Exit.sigint
  else do
    -- independent qubes first
    let (retCodeIndependent, templStatuses) ←
      runUpdate env .independent independent args "templates and standalones" false
    let noUpdates := allNoUpdates templStatuses && noUpdates
    if retCodeIndependent = Exit.sigint then pure Exit.sigint
    else do
      -- then derived qubes
      let (retCodeAppvm, appStatuses) ←
        runUpdate env .derived (members .derived targets) args "qubes" false
      let noUpdates := allNoUpdates appStatuses && noUpdates
      if retCodeAppvm = Exit.sigint then pure Exit.sigint
      else do
        let retCodeRestart ←
          runPlan (applyUpdatesToAppvm env.system args independent templStatuses appStatuses)
        pure (exitCode args noUpdates
          (max (max (max retCodeAdmin retCodeIndependent) retCodeAppvm) retCodeRestart))

/-- `main`, given what `get_targets` returns, or the text of its `ArgumentError`. -/
def main (env : Environment) (args : Args) : Except String (List Qube) → MainM Int
  | .error text => do
      modify fun st => { st with stderr := st.stderr ++ [text] }
      pure Exit.errUsage
  | .ok [] => do
      -- the two blanks are those of the message in the code
      if !args.quiet then
        runPlan (printLine ("No qube eligible for update. Try --force-update to ensure  "
          ++ "all qubes are checked for new updates."))
      pure (if args.signalNoUpdates then Exit.okNoUpdates else Exit.ok)
  | .ok (target :: rest) => updateTargets env args (target :: rest)

/-- A run of `main`. -/
def mainRun (env : Environment) (args : Args) (targets : Except String (List Qube)) (w : World) :
    Except Stop Int × MainState :=
  exec (main env args targets) { world := w }

/-- The selected targets. -/
def targetList : Except String (List Qube) → List Qube
  | .ok targets => targets
  | .error _ => []

/-! ## A run, batch by batch -/

/-- A plan whose result is used once. -/
theorem exec_runPlan_map {α β : Type} (plan : PlanM α) (f : α → β) (st : MainState) :
    exec (runPlan plan >>= fun a => pure (f a)) st
      = (((exec plan st.world).1.mapError Stop.raised).map f,
          { st with world := (exec plan st.world).2 }) := by
  have hplan := exec_zoom MainState.world (fun w st => { st with world := w }) Stop.raised plan st
  cases h : (exec plan st.world).1 with
  | error exc =>
      rw [h] at hplan
      exact exec_bind_error hplan _
  | ok a =>
      rw [h] at hplan
      exact exec_bind hplan _

variable {env : Environment} {args : Args} {targets : List Qube}

/-- A target belongs to exactly one batch. -/
theorem mem_members {batch : Batch} {q : Qube} :
    q ∈ members batch targets ↔ q ∈ targets ∧ q.klass.batch = batch := by
  rw [members, List.mem_filter, decide_eq_true_iff]

/-- How dom0 is updated in a batch. -/
def Batch.dom0 (args : Args) : Batch → Bool
  | .admin => args.dom0Update
  | .independent => false
  | .derived => false

/-- The manager of a batch. -/
def batchManager (args : Args) (targets : List Qube) (batch : Batch) : UpdateManager :=
  UpdateManager.init (members batch targets) args (batch.dom0 args)

/-- What the update of a batch returns. -/
def batchResult (env : Environment) (args : Args) (targets : List Qube) (batch : Batch) :
    Except Stop (Int × Dict String FinalStatus) :=
  if members batch targets = [] then .ok (Exit.ok, Dict.empty)
  else (batchManager args targets batch).run args (env.outcome batch)

/-- The state when the update of a batch has ended: a batch without targets is not started. -/
def MainState.afterBatch (st : MainState) (targets : List Qube) (batch : Batch) : MainState :=
  if members batch targets = [] then st else st.start batch

/-- The update of the targets of a batch. -/
theorem exec_runUpdate (env : Environment) (targets : List Qube) (hdry : args.dryRun = false)
    (batch : Batch) (qubeKlass : String) (st : MainState) :
    exec (runUpdate env batch (members batch targets) args qubeKlass (batch.dom0 args)) st
      = (batchResult env args targets batch, st.afterBatch targets batch) := by
  rw [runUpdate, hdry, if_neg Bool.false_ne_true, batchResult, MainState.afterBatch]
  by_cases hempty : members batch targets = []
  · rw [if_pos hempty, if_pos hempty, if_pos hempty]
    rfl
  · rw [if_neg hempty, if_neg hempty, if_neg hempty, exec_bind (exec_modify _)]
    rfl

/-- The update of dom0. -/
theorem exec_updateAdmin (env : Environment) (targets : List Qube) (hdry : args.dryRun = false)
    (st : MainState) :
    exec (updateAdmin env args (members .admin targets)) st
      = ((batchResult env args targets .admin).map fun r => (r.1, allNoUpdates r.2),
          st.afterBatch targets .admin) := by
  have hrun := exec_runUpdate env targets hdry .admin "admin VM" st
  rw [updateAdmin, hdry, if_neg Bool.false_ne_true]
  by_cases hempty : members .admin targets = []
  · rw [if_pos hempty, batchResult, MainState.afterBatch, if_pos hempty, if_pos hempty]
    rfl
  · rw [if_neg hempty]
    cases hresult : batchResult env args targets .admin with
    | error stop =>
        rw [hresult] at hrun
        rw [show args.dom0Update = Batch.dom0 args .admin from rfl, exec_bind_error hrun]
        rfl
    | ok r =>
        rw [hresult] at hrun
        rw [show args.dom0Update = Batch.dom0 args .admin from rfl, exec_bind hrun]
        rfl

/-- The apply phase and the exit code of a run whose batches have returned `r₁`, `r₂` and `r₃`. -/
def finish (env : Environment) (args : Args) (targets : List Qube)
    (r₁ r₂ r₃ : Int × Dict String FinalStatus) (st : MainState) : Except Stop Int × MainState :=
  let applied := exec (applyUpdatesToAppvm env.system args (members .independent targets) r₂.2 r₃.2)
    st.world
  ((applied.1.mapError Stop.raised).map fun retCodeRestart =>
      exitCode args (allNoUpdates r₃.2 && (allNoUpdates r₂.2 && allNoUpdates r₁.2))
        (max (max (max r₁.1 r₂.1) r₃.1) retCodeRestart),
    { st with world := applied.2 })

/-- A run goes from batch to batch until one of them does not return, or returns the code of an
interrupt. -/
theorem exec_updateTargets (hdry : args.dryRun = false) (st : MainState) :
    exec (updateTargets env args targets) st =
      let st₁ := st.afterBatch targets .admin
      let st₂ := st₁.afterBatch targets .independent
      let st₃ := st₂.afterBatch targets .derived
      match batchResult env args targets .admin with
      | .error stop => (.error stop, st₁)
      | .ok r₁ =>
          if r₁.1 = Exit.sigint then (.ok Exit.sigint, st₁)
          else
            match batchResult env args targets .independent with
            | .error stop => (.error stop, st₂)
            | .ok r₂ =>
                if r₂.1 = Exit.sigint then (.ok Exit.sigint, st₂)
                else
                  match batchResult env args targets .derived with
                  | .error stop => (.error stop, st₃)
                  | .ok r₃ =>
                      if r₃.1 = Exit.sigint then (.ok Exit.sigint, st₃)
                      else finish env args targets r₁ r₂ r₃ st₃ := by
  have hadmin := exec_updateAdmin env targets hdry st
  rw [updateTargets]
  dsimp only
  cases h₁ : batchResult env args targets .admin with
  | error stop =>
      rw [h₁] at hadmin
      rw [exec_bind_error hadmin]
  | ok r₁ =>
      rw [h₁] at hadmin
      rw [exec_bind hadmin]
      dsimp only
      by_cases hsigint₁ : r₁.1 = Exit.sigint
      · -- an interrupt of the first batch
        rw [if_pos hsigint₁, if_pos hsigint₁, exec_pure]
      rw [if_neg hsigint₁, if_neg hsigint₁]
      have hindependent := exec_runUpdate env targets hdry .independent "templates and standalones"
        (st.afterBatch targets .admin)
      rw [Batch.dom0] at hindependent
      cases h₂ : batchResult env args targets .independent with
      | error stop =>
          rw [h₂] at hindependent
          rw [exec_bind_error hindependent]
      | ok r₂ =>
          rw [h₂] at hindependent
          rw [exec_bind hindependent]
          dsimp only
          by_cases hsigint₂ : r₂.1 = Exit.sigint
          · rw [if_pos hsigint₂, if_pos hsigint₂, exec_pure]
          rw [if_neg hsigint₂, if_neg hsigint₂]
          have hderived := exec_runUpdate env targets hdry .derived "qubes"
            ((st.afterBatch targets .admin).afterBatch targets .independent)
          rw [Batch.dom0] at hderived
          cases h₃ : batchResult env args targets .derived with
          | error stop =>
              rw [h₃] at hderived
              rw [exec_bind_error hderived]
          | ok r₃ =>
              rw [h₃] at hderived
              rw [exec_bind hderived]
              dsimp only
              by_cases hsigint₃ : r₃.1 = Exit.sigint
              · rw [if_pos hsigint₃, if_pos hsigint₃, exec_pure]
              rw [if_neg hsigint₃, if_neg hsigint₃, finish]
              -- no batch was interrupted: the updates are applied
              exact exec_runPlan_map _ _ _

/-- With targets, a run consists of its batches and the apply phase. -/
theorem mainRun_of_ne_nil (env : Environment) (args : Args) (hne : targets ≠ []) (w : World) :
    mainRun env args (.ok targets) w = exec (updateTargets env args targets) { world := w } := by
  cases targets with
  | nil => exact absurd rfl hne
  | cons target rest => rfl

/-- A dry run starts no batch. -/
theorem keeps_started_dryRun (env : Environment) (hdry : args.dryRun = true) (targets : List Qube) :
    Keeps MainState.started (updateTargets env args targets) := by
  -- only the world is touched by what is printed or planned
  have hplan : ∀ {α : Type} (plan : PlanM α), Keeps MainState.started (runPlan plan) := by
    intro α plan
    unfold runPlan
    refine keeps_zoom ?_ plan
    intro w st
    rfl
  have hupdate : ∀ batch batchTargets qubeKlass dom0,
      Keeps MainState.started (runUpdate env batch batchTargets args qubeKlass dom0) := by
    intro batch batchTargets qubeKlass dom0
    rw [runUpdate, if_pos hdry]
    split
    · exact keeps_bind (hplan _) fun _ => keeps_pure _
    · exact keeps_pure _
  have hadmin : ∀ admin, Keeps MainState.started (updateAdmin env args admin) := by
    intro admin
    rw [updateAdmin, if_pos hdry]
    exact keeps_bind (hplan _) fun _ => keeps_pure _
  refine keeps_bind (hadmin _) fun r₁ => ?_
  dsimp only
  split
  · exact keeps_pure _
  refine keeps_bind (hupdate _ _ _ _) fun r₂ => ?_
  split
  · exact keeps_pure _
  refine keeps_bind (hupdate _ _ _ _) fun r₃ => ?_
  split
  · exact keeps_pure _
  · exact keeps_bind (hplan _) fun _ => keeps_pure _

/-- Noting a batch does not touch the qubes. -/
@[simp] theorem MainState.afterBatch_world (st : MainState) (targets : List Qube) (batch : Batch) :
    (st.afterBatch targets batch).world = st.world := by
  rw [MainState.afterBatch]
  split
  · rfl
  · rfl

/-- A batch has returned another code than that of an interrupt. -/
def Continues (r : Except Stop (Int × Dict String FinalStatus)) : Prop :=
  ∃ returned, r = .ok returned ∧ returned.1 ≠ Exit.sigint

/-- One value for each batch. -/
def Batch.pick {α : Type} (admin independent derived : α) : Batch → α
  | .admin => admin
  | .independent => independent
  | .derived => derived

/-- How a run with targets ends: with the first batch that does not let it continue, or with the apply
phase. -/
theorem updateTargets_cases (env : Environment) (targets : List Qube) (hdry : args.dryRun = false)
    (st : MainState) :
    let R := batchResult env args targets
    let st₁ := st.afterBatch targets .admin
    let st₂ := st₁.afterBatch targets .independent
    let st₃ := st₂.afterBatch targets .derived
    let ended := exec (updateTargets env args targets) st
    (¬ Continues (R .admin) ∧ ended = ((R .admin).map Prod.fst, st₁)) ∨
    (Continues (R .admin) ∧ ¬ Continues (R .independent) ∧
      ended = ((R .independent).map Prod.fst, st₂)) ∨
    (Continues (R .admin) ∧ Continues (R .independent) ∧ ¬ Continues (R .derived) ∧
      ended = ((R .derived).map Prod.fst, st₃)) ∨
    ((∀ batch, Continues (R batch)) ∧ ∃ r : Batch → Int × Dict String FinalStatus,
      (∀ batch, R batch = .ok (r batch)) ∧
      ended = finish env args targets (r .admin) (r .independent) (r .derived) st₃) := by
  have herror : ∀ stop, ¬ Continues (.error stop) := by
    rintro stop ⟨returned, ⟨⟩, -⟩
  -- the code of an interrupt ends the run, as an exception does
  have hsigint : ∀ r : Int × Dict String FinalStatus, r.1 = Exit.sigint → ¬ Continues (.ok r) := by
    rintro r hr ⟨returned, ⟨⟩, hne⟩
    exact hne hr
  dsimp only
  rw [exec_updateTargets hdry]
  dsimp only
  cases h₁ : batchResult env args targets .admin with
  | error stop => exact Or.inl ⟨herror stop, rfl⟩
  | ok r₁ =>
      dsimp only
      by_cases hsigint₁ : r₁.1 = Exit.sigint
      · rw [if_pos hsigint₁]
        exact Or.inl ⟨hsigint r₁ hsigint₁, by rw [Except.map, hsigint₁]⟩
      have hcont₁ : Continues (.ok r₁) := ⟨r₁, rfl, hsigint₁⟩
      rw [if_neg hsigint₁]
      refine Or.inr ?_
      cases h₂ : batchResult env args targets .independent with
      | error stop => exact Or.inl ⟨hcont₁, herror stop, rfl⟩
      | ok r₂ =>
          dsimp only
          by_cases hsigint₂ : r₂.1 = Exit.sigint
          · rw [if_pos hsigint₂]
            exact Or.inl ⟨hcont₁, hsigint r₂ hsigint₂, by rw [Except.map, hsigint₂]⟩
          have hcont₂ : Continues (.ok r₂) := ⟨r₂, rfl, hsigint₂⟩
          rw [if_neg hsigint₂]
          refine Or.inr ?_
          cases h₃ : batchResult env args targets .derived with
          | error stop => exact Or.inl ⟨hcont₁, hcont₂, herror stop, rfl⟩
          | ok r₃ =>
              dsimp only
              by_cases hsigint₃ : r₃.1 = Exit.sigint
              · rw [if_pos hsigint₃]
                exact Or.inl ⟨hcont₁, hcont₂, hsigint r₃ hsigint₃, by rw [Except.map, hsigint₃]⟩
              have hcont₃ : Continues (.ok r₃) := ⟨r₃, rfl, hsigint₃⟩
              rw [if_neg hsigint₃]
              refine Or.inr ⟨?_, Batch.pick r₁ r₂ r₃, ?_, rfl⟩
              · rintro (_ | _ | _)
                · rwa [h₁]
                · rwa [h₂]
                · rwa [h₃]
              · rintro (_ | _ | _)
                · exact h₁
                · exact h₂
                · exact h₃

/-- The batches that have been started when a batch has ended. -/
theorem mem_started_afterBatch {st : MainState} {batch b : Batch} :
    b ∈ (st.afterBatch targets batch).started ↔
      b ∈ st.started ∨ (b = batch ∧ members batch targets ≠ []) := by
  rw [MainState.afterBatch]
  by_cases h : members batch targets = []
  · rw [if_pos h, or_iff_left fun h' => h'.2 h]
  · rw [if_neg h, MainState.start, List.mem_append, List.mem_singleton, and_iff_left h]

/-- The update of a batch with targets starts it. -/
theorem started_afterBatch_self (st : MainState) {batch : Batch} (h : members batch targets ≠ []) :
    batch ∈ (st.afterBatch targets batch).started :=
  mem_started_afterBatch.mpr (Or.inr ⟨rfl, h⟩)

/-- The place of a batch in the order of the updates. -/
def Batch.index : Batch → Nat
  | .admin => 0
  | .independent => 1
  | .derived => 2

/-- A batch with targets is started if all batches before it let the run continue. -/
theorem mem_started_of_continues (env : Environment) (targets : List Qube)
    (hdry : args.dryRun = false) (st : MainState) {batch : Batch} (hne : members batch targets ≠ [])
    (hbefore : ∀ b : Batch, b.index < batch.index → Continues (batchResult env args targets b)) :
    batch ∈ (exec (updateTargets env args targets) st).2.started := by
  -- no later state of the run forgets that a batch has been started
  have hthird : batch ∈ (((st.afterBatch targets .admin).afterBatch targets
      .independent).afterBatch targets .derived).started := by
    rw [mem_started_afterBatch, mem_started_afterBatch, mem_started_afterBatch]
    cases batch with
    | admin => exact Or.inl (Or.inl (Or.inr ⟨rfl, hne⟩))
    | independent => exact Or.inl (Or.inr ⟨rfl, hne⟩)
    | derived => exact Or.inr ⟨rfl, hne⟩
  rcases updateTargets_cases env targets hdry st with
    ⟨hstop, hended⟩ | ⟨-, hstop, hended⟩ | ⟨-, -, -, hended⟩ | ⟨-, r, -, hended⟩
  · rw [hended]
    cases batch with
    | admin => exact started_afterBatch_self st hne
    | independent | derived => exact absurd (hbefore .admin (by decide)) hstop
  · rw [hended, mem_started_afterBatch]
    cases batch with
    | admin => exact Or.inl (started_afterBatch_self st hne)
    | independent => exact Or.inr ⟨rfl, hne⟩
    | derived => exact absurd (hbefore .independent (by decide)) hstop
  · rwa [hended]
  · rwa [hended]

end QubesAdminLinux
