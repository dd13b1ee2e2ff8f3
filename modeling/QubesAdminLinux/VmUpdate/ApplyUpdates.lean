import QubesAdminLinux.Agent.ProcessResult
import QubesAdminLinux.Agent.Status
import QubesAdminLinux.Lib.Dict
import QubesAdminLinux.Lib.StateExcept
import QubesAdminLinux.VmUpdate.Domain
import Mathlib.Data.List.Dedup

/-! # Applying updates to derived qubes

After the updates, templates are shut down and the qubes derived from them are restarted or shut down,
so that they get the updated root volume.

* **`System`** — what the plan reads from the qubes, and which requests they refuse.
* **`World`** — what the plan changes: which qubes run, and the requests sent.
* **`applyUpdatesToAppvm`** — the plan, with its second computation after a failure.
* **`applyUpdatesToAppvm_requests`** — which requests it sends, for every topology and every choice of
  refused requests. -/

namespace QubesAdminLinux

open StateExcept

/-! ## The qubes -/

/-- A request sent to a qube. -/
inductive Request
  /-- `vm.shutdown(force=True)`. -/
  | shutdown (vm : Qube)
  /-- `vm.start()`. -/
  | start (vm : Qube)
  deriving DecidableEq

/-- What reading a feature of a qube gives. -/
inductive FeatureRead
  | value (text : String)
  | absent
  | accessDenied
  deriving DecidableEq, Repr

/-- The qubes as the plan sees them. -/
structure System where
  /-- `template.derived_vms`. -/
  derivedVms : Qube → List Qube
  /-- Reading the feature `servicevm`. -/
  servicevm : Qube → FeatureRead
  /-- `vm.auto_cleanup`. -/
  autoCleanup : Qube → Bool
  /-- The answer to a request: accepted, or an exception. -/
  reply : Request → Except PyException Unit
  /-- The order in which a set, given by its elements, is iterated over. -/
  iterate : List Qube → List Qube
  /-- Iterating over a set meets each element once. -/
  iterate_perm : ∀ vms, (iterate vms).Perm vms.dedup

/-- What a plan changes. -/
structure World where
  /-- Which qubes are running. -/
  running : Qube → Bool
  /-- The requests sent, oldest first. -/
  requests : List Request := []
  /-- The lines printed, oldest first. -/
  stdout : List String := []

/-- Code that plans and sends requests. -/
abbrev PlanM (α : Type) := StateExcept World PyException α

/-- `get_feature(vm, name, None)`. -/
def FeatureRead.get : FeatureRead → Option String
  | .value text => some text
  | .absent => none
  | .accessDenied => none

/-- `get_boolean_feature(vm, "servicevm", False)`: a feature is true unless it is the empty string. -/
def System.isService (sys : System) (vm : Qube) : Bool :=
  match (sys.servicevm vm).get with
  | some text => text ≠ ""
  | none => false

/-- `bool(statuses.get(vm.name, False))`. -/
def updatedSuccessfully (statuses : Dict String FinalStatus) (vm : Qube) : Bool :=
  match statuses.get? vm.name with
  | some status => status.toBool
  | none => false

/-! ## Sending requests -/

/-- Whether a request is accepted. -/
def System.accepts (sys : System) (request : Request) : Bool :=
  match sys.reply request with
  | .ok () => true
  | .error _ => false

/-- The world after a request; a qube that accepts to start is running. -/
def World.send (sys : System) (w : World) (request : Request) : World :=
  { w with
    requests := w.requests ++ [request]
    running := fun q => w.running q || (request = .start q && sys.accepts request) }

/-- Send a request and return the answer. -/
def sendRequest (sys : System) (request : Request) : PlanM (Except PyException Unit) := do
  modify fun w => w.send sys request
  pure (sys.reply request)

/-- The loop of `shutdown_domains`: the code so far and the qubes to wait for. -/
def requestShutdowns (sys : System) : List Qube → Int → List Qube → PlanM (Int × List Qube)
  | [], retCode, waitFor => pure (retCode, waitFor)
  | vm :: rest, retCode, waitFor => do
      match ← sendRequest sys (.shutdown vm) with
      | .ok () => requestShutdowns sys rest retCode (waitFor ++ [vm])
      -- a refused request is remembered by the code, and the qube is not waited for
      | .error (.qubesVMError _) => requestShutdowns sys rest Exit.errShutdownApp waitFor
      | .error exc => throw exc

/-- `asyncio.run(wait_for_domain_shutdown(vms))`: afterwards the qubes are halted. -/
def waitForDomainShutdown (vms : List Qube) : PlanM Unit :=
  modify fun w => { w with running := fun q => w.running q && q ∉ vms }

/-- `shutdown_domains`. -/
def shutdownDomains (sys : System) (toShutdown : List Qube) : PlanM (Int × List Qube) := do
  let (retCode, waitFor) ← requestShutdowns sys toShutdown Exit.ok []
  waitForDomainShutdown waitFor
  pure (retCode, waitFor)

/-- The second loop of `restart_vms`. -/
def requestStarts (sys : System) : List Qube → Int → PlanM Int
  | [], retCode => pure retCode
  | vm :: rest, retCode => do
      match ← sendRequest sys (.start vm) with
      | .ok () => requestStarts sys rest retCode
      -- the same for a refused start
      | .error (.qubesVMError _) => requestStarts sys rest Exit.errStartApp
      | .error exc => throw exc

/-- `restart_vms`. -/
def restartVms (sys : System) (toRestart : List Qube) : PlanM Int := do
  let (retCode, shutdowns) ← shutdownDomains sys toRestart
  requestStarts sys shutdowns retCode

/-! ## The plan -/

/-- Whether `get_derived_vm_to_apply` takes a derived qube, in a given world. -/
def needsApply (sys : System) (derivedStatuses : Dict String FinalStatus) (w : World) (vm : Qube) :
    Bool :=
  !updatedSuccessfully derivedStatuses vm && w.running vm
    && (vm.klass ≠ .dispVM || !sys.autoCleanup vm)

/-- `get_derived_vm_to_apply`: the derived qubes to restart and those to shut down. -/
def getDerivedVmToApply (sys : System) (templates : List Qube)
    (derivedStatuses : Dict String FinalStatus) : PlanM (List Qube × List Qube) := do
  let w ← get
  -- a set: qubes derived from several templates occur once
  let possiblyChangedVms := sys.iterate (templates.flatMap sys.derivedVms)
  let changed := possiblyChangedVms.filter (needsApply sys derivedStatuses w)
  pure (changed.filter (sys.isService ·), changed.filter fun vm => !sys.isService vm)

/-- The templates among the updated qubes that have been updated successfully; looking up a status
that does not exist raises `KeyError`. -/
def updatedTemplates (templateStatuses : Dict String FinalStatus) :
    List Qube → Except PyException (List Qube)
  | [] => .ok []
  | vm :: rest =>
      match templateStatuses.get? vm.name with
      | none => .error (.keyError vm.name)
      | some status =>
          match updatedTemplates templateStatuses rest with
          | .error exc => .error exc
          | .ok templates =>
              .ok (if status.toBool ∧ vm.klass = .templateVM then vm :: templates else templates)

/-- The names of some qubes as a dry run prints them. -/
def joinNames (vms : List Qube) : String := ",".intercalate (vms.map Qube.name)

/-- `print(text, file=sys.stdout)` of a plan. -/
def printLine (text : String) : PlanM Unit :=
  modify fun w => { w with stdout := w.stdout ++ [text] }

/-- The end of `apply_updates_to_appvm`: restart or shut down the derived qubes. -/
def applyToDerived (sys : System) (args : Args) (retCode : Int) (toRestart toShutdown : List Qube) :
    PlanM Int := do
  -- both flags include service qubes
  let restartCode ← restartVms sys (sys.iterate toRestart)
  if args.applyToAll then do
    -- there is no need to start plain AppVMs automatically
    let (appCode, _) ← shutdownDomains sys (sys.iterate toShutdown)
    pure (max (max retCode restartCode) appCode)
  else pure (max retCode restartCode)

/-- The part of `apply_updates_to_appvm` that acts on a plan. -/
def carryOut (sys : System) (args : Args) (updatedTmpls templatesToShutdown : List Qube)
    (derivedStatuses : Dict String FinalStatus) (toRestart toShutdown : List Qube) : PlanM Int := do
  -- first shutdown templates to apply changes to the root volume
  let (retCode, _) ← shutdownDomains sys templatesToShutdown
  if retCode ≠ Exit.ok then do
    -- some templates are not down, there is no point in restarting their derived qubes
    let w ← get
    let ready := updatedTmpls.filter fun tmpl => !w.running tmpl
    let (toRestart, toShutdown) ← getDerivedVmToApply sys ready derivedStatuses
    applyToDerived sys args Exit.errShutdownTmpl toRestart toShutdown
  else applyToDerived sys args retCode toRestart toShutdown

/-- `apply_updates_to_appvm`. -/
def applyUpdatesToAppvm (sys : System) (args : Args) (vmUpdated : List Qube)
    (templateStatuses derivedStatuses : Dict String FinalStatus) : PlanM Int :=
  if !args.applyToSys && !args.applyToAll then pure Exit.ok
  else do
    let updatedTmpls ← ofResult (updatedTemplates templateStatuses vmUpdated)
    let (toRestart, toShutdown) ← getDerivedVmToApply sys updatedTmpls derivedStatuses
    let w ← get
    let templatesToShutdown := updatedTmpls.filter (w.running ·)
    if args.dryRun then do
      printLine ("Following templates will be shutdown: " ++ joinNames templatesToShutdown)
      printLine ("Following qubes CAN be restarted: " ++ joinNames (sys.iterate toRestart))
      printLine ("Following qubes CAN be shutdown: " ++ joinNames (sys.iterate toShutdown))
      pure Exit.ok
    else carryOut sys args updatedTmpls templatesToShutdown derivedStatuses toRestart toShutdown

/-! ## What the parts of a plan do -/

/-- Every refused request is refused with `QubesVMError`. -/
def System.Refuses (sys : System) : Prop :=
  ∀ request exc, sys.reply request = .error exc → exc.isQubesVMError = true

variable {sys : System} {w : World}

/-- A request is accepted, or refused with `QubesVMError`. -/
theorem System.Refuses.reply_cases (h : sys.Refuses) (request : Request) :
    (sys.reply request = .ok () ∧ sys.accepts request = true) ∨
      (∃ text, sys.reply request = .error (.qubesVMError text)) ∧ sys.accepts request = false := by
  cases hreply : sys.reply request with
  | ok _ => exact Or.inl ⟨rfl, by rw [System.accepts, hreply]⟩
  | error exc =>
      have hvm := h request exc hreply
      refine Or.inr ⟨?_, by rw [System.accepts, hreply]⟩
      cases exc with
      | qubesVMError text => exact ⟨text, rfl⟩
      | calledProcessError _ _ _ | osError _ | qubesDaemonAccessError _ | indexError _ | keyError _
      | other _ => cases hvm

/-- The qubes of a list that accept to shut down. -/
def System.accepting (sys : System) (vms : List Qube) : List Qube :=
  vms.filter fun vm => sys.accepts (.shutdown vm)

/-- A request is sent and answered. -/
theorem exec_sendRequest (request : Request) :
    (sendRequest sys request).exec w = (.ok (sys.reply request), w.send sys request) := rfl

/-- The world after a request to shut down, which by itself stops nothing. -/
theorem send_shutdown (vm : Qube) :
    w.send sys (.shutdown vm) = { w with requests := w.requests ++ [.shutdown vm] } := by
  rw [World.send]
  simp

/-- The loop of `shutdown_domains` sends one request to each qube. -/
theorem exec_requestShutdowns (h : sys.Refuses) (vms : List Qube) (retCode : Int)
    (waitFor : List Qube) :
    (requestShutdowns sys vms retCode waitFor).exec w
      = (.ok (if vms.all (fun vm => sys.accepts (.shutdown vm)) then retCode
            else Exit.errShutdownApp, waitFor ++ sys.accepting vms),
          { w with requests := w.requests ++ vms.map .shutdown }) := by
  induction vms generalizing w retCode waitFor with
  | nil => simp [requestShutdowns, System.accepting]
  | cons vm rest ih =>
      rw [requestShutdowns, exec_bind (exec_sendRequest _), send_shutdown]
      rcases h.reply_cases (.shutdown vm) with ⟨hreply, haccepts⟩ | ⟨⟨text, hreply⟩, haccepts⟩
      · -- accepted: the qube will be waited for
        rw [hreply, ih, System.accepting, System.accepting, List.filter_cons, if_pos haccepts,
          List.all_cons, haccepts]
        simp
      · -- refused: the code is an error from here on
        rw [hreply, ih, System.accepting, System.accepting, List.filter_cons, haccepts,
          List.all_cons, haccepts]
        simp

/-- The world after `shutdown_domains`: the qubes that accept are halted. -/
def World.shutDown (sys : System) (w : World) (vms : List Qube) : World :=
  { w with
    requests := w.requests ++ vms.map .shutdown
    running := fun q => w.running q && q ∉ sys.accepting vms }

/-- `shutdown_domains` returns the qubes that accept. -/
theorem exec_shutdownDomains (h : sys.Refuses) (vms : List Qube) :
    (shutdownDomains sys vms).exec w
      = (.ok (if vms.all (fun vm => sys.accepts (.shutdown vm)) then Exit.ok
            else Exit.errShutdownApp, sys.accepting vms), w.shutDown sys vms) := by
  rw [shutdownDomains, exec_bind (exec_requestShutdowns h vms _ _)]
  rfl

/-- The second loop of `restart_vms` sends one request to each qube. -/
theorem exec_requestStarts (h : sys.Refuses) (w : World) (vms : List Qube) (retCode : Int) :
    ∃ code running, (requestStarts sys vms retCode).exec w
      = (.ok code, { w with requests := w.requests ++ vms.map .start, running }) := by
  induction vms generalizing w retCode with
  | nil => exact ⟨retCode, w.running, by simp [requestStarts]⟩
  | cons vm rest ih =>
      rw [requestStarts, exec_bind (exec_sendRequest _)]
      rcases h.reply_cases (.start vm) with ⟨hreply, -⟩ | ⟨⟨text, hreply⟩, -⟩
      · rw [hreply]
        obtain ⟨code, running, hexec⟩ := ih (w.send sys (.start vm)) retCode
        exact ⟨code, running, by simp only [hexec]; simp [World.send]⟩
      · rw [hreply]
        obtain ⟨code, running, hexec⟩ := ih (w.send sys (.start vm)) Exit.errStartApp
        exact ⟨code, running, by simp only [hexec]; simp [World.send]⟩

/-- `restart_vms` asks every qube to shut down, and those that accept to start again. -/
theorem exec_restartVms (h : sys.Refuses) (w : World) (vms : List Qube) :
    ∃ code running, (restartVms sys vms).exec w
      = (.ok code, { w with
          requests := w.requests ++ (vms.map .shutdown ++ (sys.accepting vms).map .start)
          running }) := by
  rw [restartVms, exec_bind (exec_shutdownDomains h vms)]
  obtain ⟨code, running, hexec⟩ := exec_requestStarts h (w.shutDown sys vms)
    (sys.accepting vms) (if vms.all (fun vm => sys.accepts (.shutdown vm)) then Exit.ok
      else Exit.errShutdownApp)
  exact ⟨code, running, by simp only [hexec]; simp [World.shutDown]⟩

/-- `get_derived_vm_to_apply` as a function of the world. -/
def derivedVmsToApply (sys : System) (templates : List Qube)
    (derivedStatuses : Dict String FinalStatus) (w : World) : List Qube × List Qube :=
  let changed := (sys.iterate (templates.flatMap sys.derivedVms)).filter
    (needsApply sys derivedStatuses w)
  (changed.filter (sys.isService ·), changed.filter fun vm => !sys.isService vm)

/-- The plan is computed without a change. -/
theorem exec_getDerivedVmToApply (templates : List Qube)
    (derivedStatuses : Dict String FinalStatus) :
    (getDerivedVmToApply sys templates derivedStatuses).exec w
      = (.ok (derivedVmsToApply sys templates derivedStatuses w), w) := rfl

/-- Iterating over a set meets its elements. -/
theorem System.mem_iterate (sys : System) {vms : List Qube} {q : Qube} :
    q ∈ sys.iterate vms ↔ q ∈ vms := by
  rw [(sys.iterate_perm vms).mem_iff, List.mem_dedup]

/-- Iterating over a set meets no element twice. -/
theorem System.nodup_iterate (sys : System) (vms : List Qube) : (sys.iterate vms).Nodup :=
  (sys.iterate_perm vms).nodup_iff.mpr vms.nodup_dedup

/-- The qubes to restart. -/
theorem mem_derivedVmsToApply_fst {templates : List Qube}
    {derivedStatuses : Dict String FinalStatus} {q : Qube} :
    q ∈ (derivedVmsToApply sys templates derivedStatuses w).1 ↔
      (∃ t ∈ templates, q ∈ sys.derivedVms t) ∧ needsApply sys derivedStatuses w q = true ∧
        sys.isService q = true := by
  rw [derivedVmsToApply, List.mem_filter, List.mem_filter, sys.mem_iterate, List.mem_flatMap,
    and_assoc]

/-- The qubes to shut down. -/
theorem mem_derivedVmsToApply_snd {templates : List Qube}
    {derivedStatuses : Dict String FinalStatus} {q : Qube} :
    q ∈ (derivedVmsToApply sys templates derivedStatuses w).2 ↔
      (∃ t ∈ templates, q ∈ sys.derivedVms t) ∧ needsApply sys derivedStatuses w q = true ∧
        sys.isService q = false := by
  rw [derivedVmsToApply, List.mem_filter, List.mem_filter, sys.mem_iterate, List.mem_flatMap,
    and_assoc, Bool.not_eq_true']

/-- The templates that have been updated successfully. -/
def SuccessTemplate (updated : List Qube) (templateStatuses : Dict String FinalStatus) (t : Qube) :
    Prop :=
  t ∈ updated ∧ t.klass = .templateVM ∧ templateStatuses.get? t.name = some .success

/-- With a status for every updated qube, the successful templates are found. -/
theorem updatedTemplates_eq {updated : List Qube} {templateStatuses : Dict String FinalStatus}
    (h : ∀ vm ∈ updated, (templateStatuses.get? vm.name).isSome = true) :
    ∃ templates, updatedTemplates templateStatuses updated = .ok templates ∧
      templates.Sublist updated ∧ ∀ t, t ∈ templates ↔ SuccessTemplate updated templateStatuses t := by
  induction updated with
  | nil => exact ⟨[], rfl, List.Sublist.refl _, by simp [SuccessTemplate]⟩
  | cons vm rest ih =>
      rw [List.forall_mem_cons] at h
      obtain ⟨status, hstatus⟩ := Option.isSome_iff_exists.mp h.1
      obtain ⟨templates, heq, hsub, hmem⟩ := ih h.2
      refine ⟨if status.toBool ∧ vm.klass = .templateVM then vm :: templates else templates,
        by rw [updatedTemplates, hstatus, heq], ?_, fun t => ?_⟩
      · split
        · exact hsub.cons_cons vm
        · exact hsub.cons vm
      · -- a successful template is the first qube or one of the rest
        have hsplit : SuccessTemplate (vm :: rest) templateStatuses t ↔
            (t = vm ∧ status.toBool = true ∧ vm.klass = .templateVM) ∨ t ∈ templates := by
          rw [hmem t, SuccessTemplate, SuccessTemplate, List.mem_cons, or_and_right,
            FinalStatus.toBool_iff]
          refine or_congr (and_congr_right fun heq => ?_) Iff.rfl
          rw [heq, hstatus, Option.some.injEq, and_comm]
        rw [hsplit]
        by_cases hvm : status.toBool = true ∧ vm.klass = .templateVM
        · rw [if_pos hvm, List.mem_cons, and_iff_left hvm]
        · rw [if_neg hvm, or_iff_right fun h => hvm h.2]

/-! ## The whole plan -/

variable {args : Args}

/-- What a plan sends: shutdowns of templates, restarts, and shutdowns of derived qubes if these are
asked for. -/
def sentRequests (sys : System) (args : Args) (templates restarts shutdowns : List Qube) :
    List Request :=
  templates.map .shutdown ++ (restarts.map .shutdown ++ (sys.accepting restarts).map .start)
    ++ if args.applyToAll then shutdowns.map .shutdown else []

/-- The qubes asked to shut down. -/
theorem shutdown_mem_sentRequests {templates restarts shutdowns : List Qube} {q : Qube} :
    .shutdown q ∈ sentRequests sys args templates restarts shutdowns ↔
      q ∈ templates ∨ q ∈ restarts ∨ (args.applyToAll = true ∧ q ∈ shutdowns) := by
  rw [sentRequests]
  cases args.applyToAll <;> simp

/-- The qubes asked to start. -/
theorem start_mem_sentRequests {templates restarts shutdowns : List Qube} {q : Qube} :
    .start q ∈ sentRequests sys args templates restarts shutdowns ↔
      q ∈ restarts ∧ sys.accepts (.shutdown q) = true := by
  rw [sentRequests, ← List.mem_filter (p := fun vm => sys.accepts (.shutdown vm)),
    ← System.accepting]
  cases args.applyToAll <;> simp

/-- A plan over disjoint sets of qubes sends no request twice. -/
theorem nodup_sentRequests {templates restarts shutdowns : List Qube} (ht : templates.Nodup)
    (hr : restarts.Nodup) (hs : shutdowns.Nodup) (htr : ∀ q ∈ templates, q ∉ restarts)
    (hts : ∀ q ∈ templates, q ∉ shutdowns) (hrs : ∀ q ∈ restarts, q ∉ shutdowns) :
    (sentRequests sys args templates restarts shutdowns).Nodup := by
  have hshutdown : ∀ {vms : List Qube}, vms.Nodup → (vms.map Request.shutdown).Nodup :=
    fun h => h.map fun _ _ => Request.shutdown.inj
  have hstart : ((sys.accepting restarts).map Request.start).Nodup :=
    (hr.filter _).map fun _ _ => Request.start.inj
  -- shutdowns and starts are different requests
  have hmiddle : (restarts.map Request.shutdown
      ++ (sys.accepting restarts).map Request.start).Nodup := by
    rw [List.nodup_append]
    refine ⟨hshutdown hr, hstart, ?_⟩
    simp
  rw [sentRequests, List.nodup_append, List.nodup_append]
  refine ⟨⟨hshutdown ht, hmiddle, ?_⟩, ?_, ?_⟩
  · -- no template is restarted
    rintro _ hmem _ hmem' rfl
    obtain ⟨q, hq, rfl⟩ := List.mem_map.mp hmem
    simp [htr q hq] at hmem'
  · split
    · exact hshutdown hs
    · exact List.nodup_nil
  · rintro _ hmem _ hmem' rfl
    split at hmem'
    · obtain ⟨q, hq, rfl⟩ := List.mem_map.mp hmem'
      simp only [List.mem_append, List.mem_map, Request.shutdown.injEq, exists_eq_right,
        reduceCtorEq, and_false, exists_false, or_false] at hmem
      rcases hmem with hmem | hmem
      · exact hts q hmem hq
      · exact hrs q hmem hq
    · cases hmem'

/-- A template that is not running after the templates have been asked to shut down. -/
def DownAfterwards (sys : System) (w : World) (t : Qube) : Prop :=
  w.running t = true → sys.accepts (.shutdown t) = true

/-- A derived qube that the plan applies the updates to. -/
def Applicable (sys : System) (updated : List Qube)
    (templateStatuses derivedStatuses : Dict String FinalStatus) (w : World) (q : Qube) : Prop :=
  w.running q = true ∧ derivedStatuses.get? q.name ≠ some .success ∧
    ¬ (q.klass = .dispVM ∧ sys.autoCleanup q = true) ∧
    ∃ t, SuccessTemplate updated templateStatuses t ∧ DownAfterwards sys w t ∧ q ∈ sys.derivedVms t

/-- The test of the plan. -/
theorem needsApply_iff {derivedStatuses : Dict String FinalStatus} {q : Qube} :
    needsApply sys derivedStatuses w q = true ↔
      w.running q = true ∧ derivedStatuses.get? q.name ≠ some .success ∧
        ¬ (q.klass = .dispVM ∧ sys.autoCleanup q = true) := by
  have hstatus : updatedSuccessfully derivedStatuses q = false ↔
      derivedStatuses.get? q.name ≠ some .success := by
    rw [updatedSuccessfully]
    cases derivedStatuses.get? q.name with
    | none => simp
    | some status =>
        rw [← Bool.not_eq_true, FinalStatus.toBool_iff, ne_eq, Option.some.injEq]
  rw [needsApply, Bool.and_eq_true, Bool.and_eq_true, Bool.not_eq_true', hstatus, and_assoc,
    and_left_comm, not_and_or]
  simp

/-- What a plan takes as its derived qubes after the templates `ready` in the world `w'`, if this
world differs from `w` in templates only. -/
theorem mem_derivedVmsToApply {updated ready : List Qube}
    {templateStatuses : Dict String FinalStatus} (derivedStatuses : Dict String FinalStatus)
    {w' : World} (hderived : ∀ t vm, vm ∈ sys.derivedVms t → vm.klass ≠ .templateVM)
    (hready : ∀ t, t ∈ ready ↔
      SuccessTemplate updated templateStatuses t ∧ DownAfterwards sys w t)
    (hrunning : ∀ q : Qube, q.klass ≠ .templateVM → w'.running q = w.running q) (q : Qube) :
    (q ∈ (derivedVmsToApply sys ready derivedStatuses w').1 ↔
      Applicable sys updated templateStatuses derivedStatuses w q ∧ sys.isService q = true) ∧
    (q ∈ (derivedVmsToApply sys ready derivedStatuses w').2 ↔
      Applicable sys updated templateStatuses derivedStatuses w q ∧ sys.isService q = false) := by
  have hbase : (∃ t ∈ ready, q ∈ sys.derivedVms t) ∧ needsApply sys derivedStatuses w' q = true ↔
      Applicable sys updated templateStatuses derivedStatuses w q := by
    rw [needsApply_iff, Applicable]
    constructor
    · -- derived qubes are no templates, so both worlds agree on whether they run
      rintro ⟨⟨t, ht, hq⟩, hrun, hstatus, hcleanup⟩
      rw [hrunning q (hderived t q hq)] at hrun
      obtain ⟨hsuccess, hdown⟩ := (hready t).mp ht
      exact ⟨hrun, hstatus, hcleanup, t, hsuccess, hdown, hq⟩
    · rintro ⟨hrun, hstatus, hcleanup, t, hsuccess, hdown, hq⟩
      rw [← hrunning q (hderived t q hq)] at hrun
      exact ⟨⟨t, (hready t).mpr ⟨hsuccess, hdown⟩, hq⟩, hrun, hstatus, hcleanup⟩
  rw [mem_derivedVmsToApply_fst, mem_derivedVmsToApply_snd, ← and_assoc, ← and_assoc, hbase]
  exact ⟨Iff.rfl, Iff.rfl⟩

/-- Shutting down templates changes the running state of these templates only. -/
theorem shutDown_running_of_ne {templates : List Qube}
    (h : ∀ t ∈ templates, t.klass = .templateVM) {q : Qube} (hq : q.klass ≠ .templateVM) :
    (w.shutDown sys templates).running q = w.running q := by
  have hmem : q ∉ sys.accepting templates := fun hmem => hq (h q (List.mem_filter.mp hmem).1)
  rw [World.shutDown]
  simp [hmem]

/-- The end of a plan sends the requests for the derived qubes. -/
theorem exec_applyToDerived (h : sys.Refuses) (w : World) (args : Args) (retCode : Int)
    (toRestart toShutdown : List Qube) :
    ∃ code w', (applyToDerived sys args retCode toRestart toShutdown).exec w = (.ok code, w') ∧
      w'.requests = w.requests ++
        ((sys.iterate toRestart).map .shutdown ++
          (sys.accepting (sys.iterate toRestart)).map .start
          ++ if args.applyToAll then (sys.iterate toShutdown).map .shutdown else []) := by
  obtain ⟨restartCode, running, hrestart⟩ := exec_restartVms h w (sys.iterate toRestart)
  rw [applyToDerived, exec_bind hrestart]
  by_cases hall : args.applyToAll = true
  · rw [if_pos hall, if_pos hall, exec_bind (exec_shutdownDomains h _)]
    exact ⟨_, _, rfl, by simp [World.shutDown]⟩
  · rw [if_neg hall, if_neg hall]
    exact ⟨_, _, rfl, by simp⟩

/-- The part of the plan that acts sends the requests for the templates, and then for the derived
qubes that are applicable. -/
theorem exec_carryOut (h : sys.Refuses) (w : World) (args : Args)
    (derivedStatuses : Dict String FinalStatus) {updated templates toShut : List Qube}
    {templateStatuses : Dict String FinalStatus}
    (hderived : ∀ t vm, vm ∈ sys.derivedVms t → vm.klass ≠ .templateVM)
    (htemplates : ∀ t, t ∈ templates ↔ SuccessTemplate updated templateStatuses t)
    (htoShut : toShut = templates.filter (w.running ·)) :
    ∃ code w' restarts shutdowns,
      (carryOut sys args templates toShut derivedStatuses
        (derivedVmsToApply sys templates derivedStatuses w).1
        (derivedVmsToApply sys templates derivedStatuses w).2).exec w = (.ok code, w') ∧
      w'.requests = w.requests ++ sentRequests sys args toShut restarts shutdowns ∧
      restarts.Nodup ∧ shutdowns.Nodup ∧
      (∀ q, q ∈ restarts ↔
        Applicable sys updated templateStatuses derivedStatuses w q ∧ sys.isService q = true) ∧
      ∀ q, q ∈ shutdowns ↔
        Applicable sys updated templateStatuses derivedStatuses w q ∧ sys.isService q = false := by
  have hclass : ∀ t ∈ toShut, t.klass = .templateVM := by
    intro t ht
    rw [htoShut, List.mem_filter, htemplates] at ht
    exact ht.1.2.1
  -- the templates that count are the successful ones that are down after the first requests
  have hdown : ∀ t, t ∈ templates → ((w.shutDown sys toShut).running t = false ↔
      DownAfterwards sys w t) := by
    intro t ht
    rw [World.shutDown, DownAfterwards, System.accepting]
    simp only [htoShut, List.mem_filter, ht, true_and, Bool.and_eq_false_iff,
      decide_eq_false_iff_not, not_not]
    cases w.running t <;> simp
  rw [carryOut, exec_bind (exec_shutdownDomains h toShut)]
  by_cases hall : toShut.all (fun vm => sys.accepts (.shutdown vm)) = true
  · -- every template is down, so the first computation of the plan stands
    have hready : ∀ t, t ∈ templates ↔
        SuccessTemplate updated templateStatuses t ∧ DownAfterwards sys w t := by
      intro t
      rw [htemplates t, iff_self_and]
      intro ht hrun
      refine List.all_eq_true.mp hall t ?_
      rw [htoShut, List.mem_filter]
      exact ⟨(htemplates t).mpr ht, hrun⟩
    have hmem := mem_derivedVmsToApply derivedStatuses hderived hready fun _ _ => rfl
    let plan := derivedVmsToApply sys templates derivedStatuses w
    obtain ⟨code, w', hexec, hrequests⟩ := exec_applyToDerived h (w.shutDown sys toShut) args Exit.ok
      plan.1 plan.2
    refine ⟨code, w', sys.iterate plan.1, sys.iterate plan.2, ?_, ?_, sys.nodup_iterate _,
      sys.nodup_iterate _, fun q => ?_, fun q => ?_⟩
    · rw [if_pos hall]
      exact hexec
    · rw [hrequests, World.shutDown, sentRequests]
      simp
    · rw [sys.mem_iterate]
      exact (hmem q).1
    · rw [sys.mem_iterate]
      exact (hmem q).2
  · -- the plan is computed again from the templates that are down
    let w₁ := w.shutDown sys toShut
    let ready := templates.filter fun tmpl => !w₁.running tmpl
    have hready : ∀ t, t ∈ ready ↔
        SuccessTemplate updated templateStatuses t ∧ DownAfterwards sys w t := by
      intro t
      rw [List.mem_filter, Bool.not_eq_true', ← htemplates t]
      exact and_congr_right fun ht => hdown t ht
    have hrunning : ∀ q : Qube, q.klass ≠ .templateVM → w₁.running q = w.running q :=
      fun q hq => shutDown_running_of_ne hclass hq
    have hmem := mem_derivedVmsToApply derivedStatuses hderived hready hrunning
    let plan := derivedVmsToApply sys ready derivedStatuses w₁
    obtain ⟨code, w', hexec, hrequests⟩ := exec_applyToDerived h w₁ args Exit.errShutdownTmpl
      plan.1 plan.2
    refine ⟨code, w', sys.iterate plan.1, sys.iterate plan.2, ?_, ?_, sys.nodup_iterate _,
      sys.nodup_iterate _, fun q => ?_, fun q => ?_⟩
    · rw [if_neg hall]
      exact hexec
    · have hfirst : w₁.requests = w.requests ++ toShut.map .shutdown := rfl
      rw [hrequests, hfirst, sentRequests]
      simp
    · rw [sys.mem_iterate]
      exact (hmem q).1
    · rw [sys.mem_iterate]
      exact (hmem q).2

/-- Without a request to apply the updates, nothing happens. -/
theorem exec_applyUpdatesToAppvm_none (hsys : args.applyToSys = false)
    (hall : args.applyToAll = false) (updated : List Qube)
    (templateStatuses derivedStatuses : Dict String FinalStatus) :
    (applyUpdatesToAppvm sys args updated templateStatuses derivedStatuses).exec w
      = (.ok Exit.ok, w) := by
  rw [applyUpdatesToAppvm, hsys, hall]
  rfl

/-! ## Exceptions of a plan -/

/-- How many requests have been sent. -/
def World.sent (w : World) : Nat := w.requests.length

/-- A request comes before what may follow it. -/
theorem advances_sendRequest_bind {α : Type} (request : Request)
    {f : Except PyException Unit → PlanM α}
    (hf : ∀ reply w, World.sent w ≤ World.sent (exec (f reply) w).2) :
    Advances World.sent (sendRequest sys request >>= f) := by
  refine advances_bind_of_lt (fun w => ⟨sys.reply request, w.send sys request, rfl, ?_⟩) hf
  rw [World.sent, World.sent, World.send, List.length_append]
  exact Nat.lt_succ_self _

/-- Asking for shutdowns raises only after a request. -/
theorem advances_requestShutdowns (vms : List Qube) (retCode : Int) (waitFor : List Qube) :
    Advances World.sent (requestShutdowns sys vms retCode waitFor) := by
  induction vms generalizing retCode waitFor with
  | nil => exact advances_pure _
  | cons vm rest ih =>
      rw [requestShutdowns]
      -- the exception of a request comes after the request
      refine advances_sendRequest_bind _ fun reply w => ?_
      split
      · exact (ih _ _ w).1
      · exact (ih _ _ w).1
      · exact le_rfl

/-- So does asking for starts. -/
theorem advances_requestStarts (vms : List Qube) (retCode : Int) :
    Advances World.sent (requestStarts sys vms retCode) := by
  induction vms generalizing retCode with
  | nil => exact advances_pure _
  | cons vm rest ih =>
      rw [requestStarts]
      refine advances_sendRequest_bind _ fun reply w => ?_
      split
      · exact (ih _ w).1
      · exact (ih _ w).1
      · exact le_rfl

/-- So does waiting for the shutdowns, too. -/
theorem advances_shutdownDomains (vms : List Qube) :
    Advances World.sent (shutdownDomains sys vms) :=
  advances_bind (advances_requestShutdowns vms _ _) fun _ =>
    advances_bind (advances_modify fun _ => rfl) fun _ => advances_pure _

/-- So do restarts and shutdowns of derived qubes. -/
theorem advances_applyToDerived (retCode : Int) (toRestart toShutdown : List Qube) :
    Advances World.sent (applyToDerived sys args retCode toRestart toShutdown) := by
  refine advances_bind (advances_bind (advances_shutdownDomains _) fun r =>
    advances_requestStarts _ _) fun restartCode => ?_
  split
  · exact advances_bind (advances_shutdownDomains _) fun _ => advances_pure _
  · exact advances_pure _

/-- The acting part of a plan raises only after it has sent a request. -/
theorem advances_carryOut (templates toShut : List Qube)
    (derivedStatuses : Dict String FinalStatus) (toRestart toShutdown : List Qube) :
    Advances World.sent
      (carryOut sys args templates toShut derivedStatuses toRestart toShutdown) := by
  refine advances_bind (advances_shutdownDomains _) fun r => ?_
  dsimp only
  split
  · exact advances_bind advances_get fun w =>
      advances_bind (advances_bind advances_get fun _ => advances_pure _) fun plan =>
        advances_applyToDerived _ _ _
  · exact advances_applyToDerived _ _ _

/-- With a status for every updated qube, a plan that raises has sent a request before. -/
theorem advances_applyUpdatesToAppvm (sys : System) (args : Args) {updated : List Qube}
    {templateStatuses : Dict String FinalStatus}
    (h : ∀ vm ∈ updated, (templateStatuses.get? vm.name).isSome = true)
    (derivedStatuses : Dict String FinalStatus) :
    Advances World.sent
      (applyUpdatesToAppvm sys args updated templateStatuses derivedStatuses) := by
  obtain ⟨templates, htemplates, -, -⟩ := updatedTemplates_eq h
  rw [applyUpdatesToAppvm, htemplates]
  split
  · exact advances_pure _
  · refine advances_bind (fun w => ⟨le_rfl, fun exc hexc => by cases hexc⟩) fun updatedTmpls =>
      advances_bind (advances_bind advances_get fun _ => advances_pure _) fun plan =>
        advances_bind advances_get fun w => ?_
    dsimp only
    split
    · exact advances_bind (advances_modify fun _ => rfl) fun _ =>
        advances_bind (advances_modify fun _ => rfl) fun _ =>
          advances_bind (advances_modify fun _ => rfl) fun _ => advances_pure _
    · exact advances_carryOut _ _ _ _ _

/-- Shutting down no qubes sends no request. -/
theorem exec_shutdownDomains_nil :
    exec (shutdownDomains sys []) w
      = (.ok (Exit.ok, []), { w with running := fun q => w.running q && q ∉ ([] : List Qube) }) :=
  rfl

/-- Iterating over the empty set. -/
@[simp] theorem System.iterate_nil (sys : System) : sys.iterate [] = [] :=
  (sys.iterate_perm []).eq_nil

/-- Without updated qubes there is nothing to apply. -/
theorem exec_applyUpdatesToAppvm_nil (hdry : args.dryRun = false)
    (templateStatuses derivedStatuses : Dict String FinalStatus) :
    ∃ w', exec (applyUpdatesToAppvm sys args [] templateStatuses derivedStatuses) w
      = (.ok Exit.ok, w') ∧ w'.requests = w.requests := by
  have hplan : derivedVmsToApply sys [] derivedStatuses w = ([], []) := by
    rw [derivedVmsToApply, List.flatMap_nil, sys.iterate_nil]
    rfl
  -- empty sets of derived qubes send nothing
  have hderived : ∀ w₁ : World, ∃ w', exec (applyToDerived sys args Exit.ok [] []) w₁
      = (.ok Exit.ok, w') ∧ w'.requests = w₁.requests := by
    intro w₁
    rw [applyToDerived, sys.iterate_nil, restartVms,
      exec_bind (exec_bind exec_shutdownDomains_nil _)]
    split
    · exact ⟨_, rfl, rfl⟩
    · exact ⟨_, rfl, rfl⟩
  rw [applyUpdatesToAppvm]
  split
  · exact ⟨w, rfl, rfl⟩
  · have htemplates : updatedTemplates templateStatuses [] = .ok [] := rfl
    rw [htemplates, exec_bind (exec_ofResult _),
      exec_bind (exec_getDerivedVmToApply [] derivedStatuses), exec_bind exec_get, hdry, hplan]
    obtain ⟨w', hexec, hrequests⟩ :=
      hderived { w with running := fun q => w.running q && q ∉ ([] : List Qube) }
    exact ⟨w', hexec, hrequests⟩

/-! ## The codes of a plan -/

/-- A property of the codes that a plan computes with. -/
structure ApplyCodes (P : Int → Prop) : Prop where
  /-- Nothing has failed. -/
  ok : P Exit.ok
  /-- A template could not be shut down. -/
  shutdownTmpl : P Exit.errShutdownTmpl
  /-- Another qube could not be shut down. -/
  shutdownApp : P Exit.errShutdownApp
  /-- A qube could not be started. -/
  startApp : P Exit.errStartApp
  /-- Codes are combined by their maximum. -/
  max : ∀ {a b : Int}, P a → P b → P (max a b)

namespace ApplyCodes

variable {P : Int → Prop} (hP : ApplyCodes P)

include hP

/-- Asking for shutdowns. -/
theorem requestShutdowns (vms : List Qube) {retCode : Int} (h : P retCode) (waitFor : List Qube) :
    Returns (fun r => P r.1) (requestShutdowns sys vms retCode waitFor) := by
  induction vms generalizing retCode waitFor with
  | nil => exact returns_pure h
  | cons vm rest ih =>
      rw [QubesAdminLinux.requestShutdowns]
      refine returns_bind' fun reply => ?_
      split
      · exact ih h _
      · exact ih hP.shutdownApp _
      · intro s a s' hexec
        cases hexec

/-- Waiting for them, too. -/
theorem shutdownDomains (vms : List Qube) : Returns (fun r => P r.1) (shutdownDomains sys vms) :=
  returns_bind (hP.requestShutdowns vms hP.ok []) fun _ hr => returns_bind' fun _ => returns_pure hr

/-- Asking for starts. -/
theorem requestStarts (vms : List Qube) {retCode : Int} (h : P retCode) :
    Returns P (requestStarts sys vms retCode) := by
  induction vms generalizing retCode with
  | nil => exact returns_pure h
  | cons vm rest ih =>
      rw [QubesAdminLinux.requestStarts]
      refine returns_bind' fun reply => ?_
      split
      · exact ih h
      · exact ih hP.startApp
      · intro s a s' hexec
        cases hexec

/-- Restarts and shutdowns of derived qubes. -/
theorem applyToDerived {retCode : Int} (h : P retCode) (toRestart toShutdown : List Qube) :
    Returns P (applyToDerived sys args retCode toRestart toShutdown) := by
  have hrestart : Returns P (restartVms sys (sys.iterate toRestart)) :=
    returns_bind (hP.shutdownDomains _) fun _ hr => hP.requestStarts _ hr
  refine returns_bind hrestart fun restartCode hcode => ?_
  split
  · exact returns_bind (hP.shutdownDomains _) fun r hr => returns_pure (hP.max (hP.max h hcode) hr)
  · exact returns_pure (hP.max h hcode)

/-- The code of a plan has each such property. -/
theorem applyUpdatesToAppvm (updated : List Qube)
    (templateStatuses derivedStatuses : Dict String FinalStatus) :
    Returns P (applyUpdatesToAppvm sys args updated templateStatuses derivedStatuses) := by
  rw [QubesAdminLinux.applyUpdatesToAppvm]
  split
  · exact returns_pure hP.ok
  · refine returns_bind' fun updatedTmpls => returns_bind' fun plan => returns_bind' fun w => ?_
    dsimp only
    split
    · exact returns_bind' fun _ => returns_bind' fun _ => returns_bind' fun _ => returns_pure hP.ok
    · refine returns_bind (hP.shutdownDomains _) fun r hr => ?_
      dsimp only
      split
      · exact returns_bind' fun w => returns_bind' fun plan => hP.applyToDerived hP.shutdownTmpl _ _
      · exact hP.applyToDerived hr _ _

end ApplyCodes

/-! ## The requests -/

/-- A plan that is asked for sends the requests for the running templates that have been updated, and
then for the derived qubes that are applicable. -/
theorem exec_applyUpdatesToAppvm (h : sys.Refuses) (w : World) {updated : List Qube}
    {templateStatuses : Dict String FinalStatus} (derivedStatuses : Dict String FinalStatus)
    (hstatuses : ∀ vm ∈ updated, (templateStatuses.get? vm.name).isSome = true)
    (hderived : ∀ t vm, vm ∈ sys.derivedVms t → vm.klass ≠ .templateVM)
    (hdry : args.dryRun = false) (hflags : ¬(args.applyToSys = false ∧ args.applyToAll = false)) :
    ∃ code w', ∃ templates restarts shutdowns : List Qube,
      (applyUpdatesToAppvm sys args updated templateStatuses derivedStatuses).exec w
        = (.ok code, w') ∧
      w'.requests = w.requests
        ++ sentRequests sys args (templates.filter (w.running ·)) restarts shutdowns ∧
      templates.Sublist updated ∧ (∀ t, t ∈ templates ↔ SuccessTemplate updated templateStatuses t) ∧
      restarts.Nodup ∧ shutdowns.Nodup ∧
      (∀ q, q ∈ restarts ↔
        Applicable sys updated templateStatuses derivedStatuses w q ∧ sys.isService q = true) ∧
      ∀ q, q ∈ shutdowns ↔
        Applicable sys updated templateStatuses derivedStatuses w q ∧ sys.isService q = false := by
  have hasked : (!args.applyToSys && !args.applyToAll) = false := by
    rw [← Bool.not_eq_true, Bool.and_eq_true, Bool.not_eq_true', Bool.not_eq_true']
    exact hflags
  obtain ⟨templates, htemplates, hsub, hmem⟩ := updatedTemplates_eq hstatuses
  obtain ⟨code, w', restarts, shutdowns, hexec, hrequests, hr, hs, hrestarts, hshutdowns⟩ :=
    exec_carryOut h w args derivedStatuses hderived hmem rfl
  refine ⟨code, w', templates, restarts, shutdowns, ?_, hrequests, hsub, hmem, hr, hs, hrestarts,
    hshutdowns⟩
  rw [applyUpdatesToAppvm, hasked, htemplates]
  simp only [Bool.false_eq_true, if_false]
  rw [exec_bind (exec_ofResult _), exec_bind (exec_getDerivedVmToApply templates derivedStatuses),
    exec_bind exec_get, hdry]
  exact hexec

/-- Applying updates touches exactly the right qubes: each running template that has been updated
gets one shutdown; each applicable derived qube that is a service qube, or any with
`--apply-to-all`, gets one shutdown; and each service qube among them that accepts gets one start. -/
theorem applyUpdatesToAppvm_requests (h : sys.Refuses) {updated : List Qube}
    (hnodup : updated.Nodup) {templateStatuses derivedStatuses : Dict String FinalStatus}
    (hstatuses : ∀ vm ∈ updated, (templateStatuses.get? vm.name).isSome = true)
    (hderived : ∀ t vm, vm ∈ sys.derivedVms t → vm.klass ≠ .templateVM)
    (hdry : args.dryRun = false) :
    ∃ code w' sent,
      (applyUpdatesToAppvm sys args updated templateStatuses derivedStatuses).exec w
        = (.ok code, w') ∧ w'.requests = w.requests ++ sent ∧
      (args.applyToSys = false ∧ args.applyToAll = false → sent = []) ∧
      (args.applyToSys = true ∨ args.applyToAll = true → sent.Nodup ∧ ∀ q,
        (.shutdown q ∈ sent ↔
          (SuccessTemplate updated templateStatuses q ∧ w.running q = true) ∨
          (Applicable sys updated templateStatuses derivedStatuses w q ∧
            (sys.isService q = true ∨ args.applyToAll = true))) ∧
        (.start q ∈ sent ↔
          Applicable sys updated templateStatuses derivedStatuses w q ∧
            sys.isService q = true ∧ sys.accepts (.shutdown q) = true)) := by
  -- neither flag: the plan returns at once
  by_cases hflags : args.applyToSys = false ∧ args.applyToAll = false
  · refine ⟨Exit.ok, w, [], exec_applyUpdatesToAppvm_none hflags.1 hflags.2 _ _ _, by simp,
      fun _ => rfl, fun hasked => ?_⟩
    rw [hflags.1, hflags.2] at hasked
    simp at hasked
  obtain ⟨code, w', templates, restarts, shutdowns, hexec, hrequests, hsub, hmem, hr, hs, hrestarts,
    hshutdowns⟩ := exec_applyUpdatesToAppvm h w derivedStatuses hstatuses hderived hdry hflags
  refine ⟨code, w', _, hexec, hrequests, fun hnone => absurd hnone hflags, fun _ => ⟨?_, fun q =>
    ⟨?_, ?_⟩⟩⟩
  · -- templates, service qubes and the other derived qubes are disjoint
    refine nodup_sentRequests ((hsub.nodup hnodup).filter _) hr hs ?_ ?_ ?_
    · intro q hq hrestart
      have hklass := ((hmem q).mp (List.mem_filter.mp hq).1).2.1
      obtain ⟨t, -, -, hqt⟩ := ((hrestarts q).mp hrestart).1.2.2.2
      exact hderived t q hqt hklass
    · intro q hq hshutdown
      have hklass := ((hmem q).mp (List.mem_filter.mp hq).1).2.1
      obtain ⟨t, -, -, hqt⟩ := ((hshutdowns q).mp hshutdown).1.2.2.2
      exact hderived t q hqt hklass
    · intro q hrestart hshutdown
      have hservice := ((hrestarts q).mp hrestart).2
      rw [((hshutdowns q).mp hshutdown).2] at hservice
      cases hservice
  · -- every applicable qube is a service qube or not
    rw [shutdown_mem_sentRequests, List.mem_filter, hmem q, hrestarts q, hshutdowns q]
    refine or_congr Iff.rfl ?_
    rw [and_left_comm, ← and_or_left]
    refine and_congr_right fun _ => ?_
    cases sys.isService q <;> simp
  · rw [start_mem_sentRequests, hrestarts q, and_assoc]

/-- A template. -/
def fedora : Qube := { name := "fedora", klass := .templateVM }

/-- A template with one derived service qube, where every shutdown is accepted and the start of the
service qube is refused. -/
def serviceSystem : System where
  derivedVms := fun t => if t.name = "fedora" then [{ name := "sys-net", klass := .appVM }] else []
  servicevm := fun _ => .value "1"
  autoCleanup := fun _ => false
  reply := fun request =>
    match request with
    | .shutdown _ => .ok ()
    | .start _ => .error (.qubesVMError "start refused")
  iterate := List.dedup
  iterate_perm := fun _ => List.Perm.refl _

/-- The updated template is shut down, and its service qube restarted. -/
theorem applyUpdatesToAppvm_requests_service :
    ∃ code w' sent,
      (applyUpdatesToAppvm serviceSystem { applyToSys := true }
        [fedora] (Dict.empty.set "fedora" .success)
        Dict.empty).exec { running := fun _ => true } = (.ok code, w') ∧ w'.requests = [] ++ sent ∧
      (true = false ∧ false = false → sent = []) ∧
      (true = true ∨ false = true → sent.Nodup ∧ ∀ q,
        (.shutdown q ∈ sent ↔
          (SuccessTemplate [fedora]
            (Dict.empty.set "fedora" .success) q ∧ true = true) ∨
          (Applicable serviceSystem [fedora]
              (Dict.empty.set "fedora" .success) Dict.empty { running := fun _ => true } q ∧
            (serviceSystem.isService q = true ∨ false = true))) ∧
        (.start q ∈ sent ↔
          Applicable serviceSystem [fedora]
              (Dict.empty.set "fedora" .success) Dict.empty { running := fun _ => true } q ∧
            serviceSystem.isService q = true ∧
            serviceSystem.accepts (.shutdown q) = true)) := by
  refine applyUpdatesToAppvm_requests ?_ (List.nodup_singleton _) ?_ ?_ rfl
  · rintro (vm | vm) exc hreply
    · cases hreply
    · cases hreply
      rfl
  · intro vm hvm
    rw [List.mem_singleton.mp hvm]
    rfl
  · intro t vm hvm
    by_cases ht : t.name = "fedora"
    · simp only [serviceSystem, if_pos ht, List.mem_singleton] at hvm
      rw [hvm]
      decide
    · simp only [serviceSystem, if_neg ht, List.not_mem_nil] at hvm

end QubesAdminLinux
