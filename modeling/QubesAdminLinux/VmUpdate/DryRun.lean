import QubesAdminLinux.VmUpdate.Main

/-! # Dry runs

With `--dry-run` nothing is updated and every target counts as updated; the plan of the apply phase is
printed instead of being carried out.  A real run plans with the statuses that the updates have had,
and with the qubes that are running then.

* **`exec_dryRun`** — what a dry run prints.
* **`sendsTo_applyUpdatesToAppvm`** — which requests a real run may send, whatever the replies are.
* **`Surprise`** — a qube that a real run touches although the dry run does not expect it to.
* **`dryRun_announces_iff`** — the dry run announces all requests exactly if there is no such qube. -/

namespace QubesAdminLinux

open StateExcept

variable {env : Environment} {sys : System} {args : Args} {targets : List Qube} {w w' : World}

/-- The same options with `--dry-run`. -/
def Args.dry (args : Args) : Args := { args with dryRun := true }

/-! ## What a dry run prints -/

/-- The statuses that a dry run assumes. -/
def dryStatuses (targets : List Qube) : Dict String FinalStatus :=
  Dict.ofList (targets.map fun target => (target.name, .success))

/-- Every target counts as updated. -/
theorem get?_dryStatuses (targets : List Qube) (name : String) :
    (dryStatuses targets).get? name
      = if name ∈ targets.map Qube.name then some .success else none :=
  Dict.get?_ofList_const Qube.name FinalStatus.success targets name

/-- The templates, services and other qubes that a dry run lists. -/
structure DryLists where
  /-- Templates to be shut down. -/
  templates : List Qube
  /-- Qubes that can be restarted. -/
  restarts : List Qube
  /-- Qubes that can be shut down. -/
  shutdowns : List Qube

/-- The three lines of a dry run. -/
def DryLists.lines (lists : DryLists) : List String :=
  ["Following templates will be shutdown: " ++ joinNames lists.templates,
    "Following qubes CAN be restarted: " ++ joinNames lists.restarts,
    "Following qubes CAN be shutdown: " ++ joinNames lists.shutdowns]

/-- A qube is named in one of the lines. -/
def DryLists.Announces (lists : DryLists) (q : Qube) : Prop :=
  q ∈ lists.templates ∨ q ∈ lists.restarts ∨ q ∈ lists.shutdowns

/-- The lists of a plan. -/
def dryLists (sys : System) (templates : List Qube) (derivedStatuses : Dict String FinalStatus)
    (w : World) : DryLists where
  templates := templates.filter (w.running ·)
  restarts := sys.iterate (derivedVmsToApply sys templates derivedStatuses w).1
  shutdowns := sys.iterate (derivedVmsToApply sys templates derivedStatuses w).2

/-- The world with more lines printed. -/
def World.print (w : World) (lines : List String) : World := { w with stdout := w.stdout ++ lines }

/-- Printing does not touch the qubes. -/
@[simp] theorem World.print_running (w : World) (lines : List String) :
    (w.print lines).running = w.running := rfl

/-- Lines are printed one after the other. -/
@[simp] theorem World.print_print (w : World) (lines lines' : List String) :
    (w.print lines).print lines' = w.print (lines ++ lines') := by
  rw [World.print, World.print, World.print, List.append_assoc]

/-- Printing no lines changes nothing. -/
@[simp] theorem World.print_nil (w : World) : w.print [] = w := by
  rw [World.print, List.append_nil]

/-- A line is printed. -/
theorem exec_printLine (text : String) (w : World) :
    exec (printLine text) w = (.ok (), w.print [text]) := rfl

/-- The update of a batch in a dry run prints at most a message. -/
theorem exec_runUpdate_dry (env : Environment) (batch : Batch) (targets : List Qube) (args : Args)
    (qubeKlass : String) (dom0 : Bool) (st : MainState) :
    ∃ messages, exec (runUpdate env batch targets args.dry qubeKlass dom0) st
      = (.ok (Exit.ok, dryStatuses targets), { st with world := st.world.print messages }) := by
  rw [runUpdate, if_pos (show args.dry.dryRun = true from rfl)]
  by_cases hmessage : updateMessage targets qubeKlass ≠ ""
  · rw [if_pos hmessage]
    exact ⟨[updateMessage targets qubeKlass], rfl⟩
  · rw [if_neg hmessage]
    exact ⟨[], by rw [World.print_nil]; rfl⟩

/-- The plan of a dry run only prints its three lines. -/
theorem exec_applyUpdatesToAppvm_dry (sys : System) (args : Args)
    (hflags : args.applyToSys = true ∨ args.applyToAll = true) {updated templates : List Qube}
    {templateStatuses : Dict String FinalStatus} (derivedStatuses : Dict String FinalStatus)
    (htemplates : updatedTemplates templateStatuses updated = .ok templates) (w : World) :
    exec (applyUpdatesToAppvm sys args.dry updated templateStatuses derivedStatuses) w
      = (.ok Exit.ok, w.print (dryLists sys templates derivedStatuses w).lines) := by
  have hasked : (!args.dry.applyToSys && !args.dry.applyToAll) = false := by
    show (!args.applyToSys && !args.applyToAll) = false
    rcases hflags with h | h <;> simp [h]
  rw [applyUpdatesToAppvm, hasked, if_neg Bool.false_ne_true, htemplates, exec_bind (exec_ofResult _),
    exec_bind (exec_getDerivedVmToApply templates derivedStatuses), exec_bind exec_get,
    if_pos (show args.dry.dryRun = true from rfl)]
  rw [exec_bind (exec_printLine _ _), exec_bind (exec_printLine _ _),
    exec_bind (exec_printLine _ _), exec_pure, World.print_print, World.print_print]
  rfl

/-- The templates among the targets, as a dry run sees them. -/
theorem updatedTemplates_dry (updated : List Qube) :
    ∃ templates, updatedTemplates (dryStatuses updated) updated = .ok templates ∧
      ∀ t, t ∈ templates ↔ t ∈ updated ∧ t.klass = .templateVM := by
  have hstatus : ∀ vm ∈ updated, (dryStatuses updated).get? vm.name = some .success := by
    intro vm hvm
    rw [get?_dryStatuses, if_pos (List.mem_map_of_mem hvm)]
  obtain ⟨templates, htemplates, -, hmem⟩ := updatedTemplates_eq
    (fun vm hvm => Option.isSome_iff_exists.mpr ⟨_, hstatus vm hvm⟩)
  refine ⟨templates, htemplates, fun t => ?_⟩
  rw [hmem t, SuccessTemplate, ← and_assoc, and_iff_left_iff_imp]
  exact fun h => hstatus t h.1

/-- What a dry run announces: running templates among the targets, and running qubes derived from
any template among them that are not themselves to be updated. -/
structure DryLists.Of (lists : DryLists) (sys : System) (targets : List Qube) (w : World) : Prop where
  /-- The templates. -/
  templates : ∀ q, q ∈ lists.templates ↔
    q ∈ members .independent targets ∧ q.klass = .templateVM ∧ w.running q = true
  /-- The derived qubes. -/
  derived : ∀ q, (q ∈ lists.restarts ∨ q ∈ lists.shutdowns) ↔
    w.running q = true ∧ q.name ∉ (members .derived targets).map Qube.name ∧
      ¬(q.klass = .dispVM ∧ sys.autoCleanup q = true) ∧
      ∃ t ∈ members .independent targets, t.klass = .templateVM ∧ q ∈ sys.derivedVms t

/-- The lists of the plan of a dry run. -/
theorem dryLists_of (sys : System) (targets : List Qube) {templates : List Qube} {w₁ : World}
    (htemplates : ∀ t, t ∈ templates ↔ t ∈ members .independent targets ∧ t.klass = .templateVM)
    (hrunning : w₁.running = w.running) :
    (dryLists sys templates (dryStatuses (members .derived targets)) w₁).Of sys targets w := by
  refine ⟨fun q => ?_, fun q => ?_⟩
  · rw [dryLists, List.mem_filter, htemplates q, hrunning, and_assoc]
  · have hstatus : (dryStatuses (members .derived targets)).get? q.name ≠ some .success ↔
        q.name ∉ (members .derived targets).map Qube.name := by
      rw [get?_dryStatuses]
      by_cases hname : q.name ∈ (members .derived targets).map Qube.name
      · simp [hname]
      · simp [hname]
    rw [dryLists, sys.mem_iterate, sys.mem_iterate, mem_derivedVmsToApply_fst,
      mem_derivedVmsToApply_snd, needsApply_iff, hstatus, hrunning]
    simp only [htemplates, and_assoc]
    -- every qube is a service qube or not
    cases sys.isService q <;> simp <;> tauto

/-- A dry run with targets prints messages and the three lists, and changes nothing. -/
theorem exec_dryRun (env : Environment) (args : Args) (hne : targets ≠ [])
    (hflags : args.applyToSys = true ∨ args.applyToAll = true) (w : World) :
    ∃ messages lists, (mainRun env args.dry (.ok targets) w).2.world
        = w.print (messages ++ DryLists.lines lists) ∧ lists.Of env.system targets w := by
  obtain ⟨templates, htemplates, hmem⟩ := updatedTemplates_dry (members .independent targets)
  have hadmin : exec (updateAdmin env args.dry (members .admin targets)) { world := w }
      = (.ok (Exit.ok, true), { world := w.print [adminMessage (members .admin targets)] }) := by
    rw [updateAdmin, if_pos (show args.dry.dryRun = true from rfl)]
    rfl
  obtain ⟨m₂, h₂⟩ := exec_runUpdate_dry env .independent (members .independent targets) args
    "templates and standalones" false { world := w.print [adminMessage (members .admin targets)] }
  obtain ⟨m₃, h₃⟩ := exec_runUpdate_dry env .derived (members .derived targets) args "qubes" false
    { world := (w.print [adminMessage (members .admin targets)]).print m₂ }
  let w₁ : World := ((w.print [adminMessage (members .admin targets)]).print m₂).print m₃
  have hplan := exec_applyUpdatesToAppvm_dry env.system args hflags
    (dryStatuses (members .derived targets)) htemplates w₁
  refine ⟨[adminMessage (members .admin targets)] ++ m₂ ++ m₃,
    dryLists env.system templates (dryStatuses (members .derived targets)) w₁, ?_,
    dryLists_of env.system targets hmem rfl⟩
  rw [mainRun_of_ne_nil env args.dry hne, updateTargets]
  dsimp only
  -- no batch of a dry run is interrupted
  rw [exec_bind hadmin]
  dsimp only
  rw [if_neg (by decide), exec_bind h₂]
  dsimp only
  rw [if_neg (by decide), exec_bind h₃]
  dsimp only
  rw [if_neg (by decide), exec_runPlan_map, hplan]
  show w₁.print _ = _
  simp only [w₁, World.print_print, List.append_assoc]

/-! ## The requests of a real run -/

/-- The qube that a request is sent to. -/
def Request.vm : Request → Qube
  | .shutdown vm => vm
  | .start vm => vm

/-- Requests to qubes in `P` only. -/
abbrev SendsTo {α : Type} (P : Qube → Prop) (x : PlanM α) (w : World) : Prop :=
  LogsFrom World.requests (fun request => P request.vm) x w

/-- One request. -/
theorem sendsTo_sendRequest {P : Qube → Prop} {request : Request} (h : P request.vm) (w : World) :
    SendsTo P (sendRequest sys request) w :=
  logsFrom_of_append rfl h

/-- Shutdowns are sent to the qubes of the list. -/
theorem sendsTo_requestShutdowns {P : Qube → Prop} {vms : List Qube} (h : ∀ vm ∈ vms, P vm)
    (retCode : Int) (waitFor : List Qube) (w : World) :
    SendsTo P (requestShutdowns sys vms retCode waitFor) w := by
  induction vms generalizing retCode waitFor w with
  | nil => exact logsFrom_of_eq rfl
  | cons vm rest ih =>
      rw [List.forall_mem_cons] at h
      rw [requestShutdowns]
      refine logsFrom_bind (sendsTo_sendRequest h.1 w) fun reply w₁ _ => ?_
      split
      · exact ih h.2 _ _ w₁
      · exact ih h.2 _ _ w₁
      · exact logsFrom_of_eq rfl

/-- Starts are sent to the qubes of the list. -/
theorem sendsTo_requestStarts {P : Qube → Prop} {vms : List Qube} (h : ∀ vm ∈ vms, P vm)
    (retCode : Int) (w : World) : SendsTo P (requestStarts sys vms retCode) w := by
  induction vms generalizing retCode w with
  | nil => exact logsFrom_of_eq rfl
  | cons vm rest ih =>
      rw [List.forall_mem_cons] at h
      rw [requestStarts]
      refine logsFrom_bind (sendsTo_sendRequest h.1 w) fun reply w₁ _ => ?_
      split
      · exact ih h.2 _ w₁
      · exact ih h.2 _ w₁
      · exact logsFrom_of_eq rfl

/-- The loop of `shutdown_domains`, if it returns: every request was accepted, or refused with
`QubesVMError`. -/
theorem requestShutdowns_ok {vms waitFor waitFor' : List Qube} {retCode code : Int} {w w' : World}
    (h : exec (requestShutdowns sys vms retCode waitFor) w = (.ok (code, waitFor'), w')) :
    waitFor' = waitFor ++ sys.accepting vms ∧ w'.running = w.running ∧
      code = if vms.all (fun vm => sys.accepts (.shutdown vm)) then retCode
        else Exit.errShutdownApp := by
  induction vms generalizing retCode waitFor w with
  | nil =>
      rw [requestShutdowns, exec_pure] at h
      cases h
      exact ⟨by rw [System.accepting, List.filter_nil, List.append_nil], rfl, rfl⟩
  | cons vm rest ih =>
      rw [requestShutdowns, exec_bind (exec_sendRequest _), send_shutdown] at h
      cases hreply : sys.reply (.shutdown vm) with
      | ok _ =>
          have haccepts : sys.accepts (.shutdown vm) = true := by rw [System.accepts, hreply]
          rw [hreply] at h
          obtain ⟨hwait, hrunning, hcode⟩ := ih h
          refine ⟨?_, hrunning, ?_⟩
          · rw [hwait, System.accepting, System.accepting, List.filter_cons, if_pos haccepts,
              List.append_assoc, List.singleton_append]
          · rw [hcode, List.all_cons, haccepts, Bool.true_and]
      | error exc =>
          have hrefuses : sys.accepts (.shutdown vm) = false := by rw [System.accepts, hreply]
          rw [hreply] at h
          cases exc with
          | qubesVMError text =>
              obtain ⟨hwait, hrunning, hcode⟩ := ih h
              refine ⟨?_, hrunning, ?_⟩
              · rw [hwait, System.accepting, System.accepting, List.filter_cons, hrefuses,
                  if_neg Bool.false_ne_true]
              · rw [hcode, List.all_cons, hrefuses, Bool.false_and, ite_self]
                rfl
          -- any other exception leaves the loop
          | calledProcessError _ _ _ | osError _ | qubesDaemonAccessError _ | indexError _
          | keyError _ | other _ => cases h

/-- `shutdown_domains`, if it returns. -/
theorem shutdownDomains_ok {vms waitFor : List Qube} {code : Int} {w w' : World}
    (h : exec (shutdownDomains sys vms) w = (.ok (code, waitFor), w')) :
    waitFor = sys.accepting vms ∧ (∀ q, w'.running q = (w.running q && q ∉ sys.accepting vms)) ∧
      code = if vms.all (fun vm => sys.accepts (.shutdown vm)) then Exit.ok
        else Exit.errShutdownApp := by
  rw [shutdownDomains] at h
  obtain ⟨⟨retCode, waiting⟩, w₁, hloop, h⟩ := exec_bind_ok h
  obtain ⟨hwait, hrunning, hcode⟩ := requestShutdowns_ok hloop
  rw [List.nil_append] at hwait
  dsimp only at h
  rw [waitForDomainShutdown, exec_bind (exec_modify _), exec_pure] at h
  cases h
  exact ⟨hwait, fun q => by rw [← hrunning, ← hwait], hcode⟩

/-- Shutdowns, also if they are waited for. -/
theorem sendsTo_shutdownDomains {P : Qube → Prop} {vms : List Qube} (h : ∀ vm ∈ vms, P vm)
    (w : World) : SendsTo P (shutdownDomains sys vms) w :=
  logsFrom_bind (sendsTo_requestShutdowns h _ _ w) fun _ _ _ =>
    logsFrom_bind (logsFrom_of_eq rfl) fun _ _ _ => logsFrom_of_eq rfl

/-- Restarts: only qubes that were asked to shut down are started. -/
theorem sendsTo_restartVms {P : Qube → Prop} {vms : List Qube} (h : ∀ vm ∈ vms, P vm)
    (w : World) : SendsTo P (restartVms sys vms) w := by
  refine logsFrom_bind (sendsTo_shutdownDomains h w) fun shutdowns w₁ hrun => ?_
  refine sendsTo_requestStarts (fun vm hvm => ?_) _ w₁
  rw [(shutdownDomains_ok hrun).1] at hvm
  exact h vm (List.mem_filter.mp hvm).1

/-- The end of a plan. -/
theorem sendsTo_applyToDerived {P : Qube → Prop} {toRestart toShutdown : List Qube}
    (hrestart : ∀ vm ∈ toRestart, P vm)
    (hshutdown : args.applyToAll = true → ∀ vm ∈ toShutdown, P vm) (retCode : Int) (w : World) :
    SendsTo P (applyToDerived sys args retCode toRestart toShutdown) w := by
  refine logsFrom_bind (sendsTo_restartVms (fun vm hvm => ?_) w) fun restartCode w₁ _ => ?_
  · exact hrestart vm (sys.mem_iterate.mp hvm)
  · split
    · rename_i hall
      refine logsFrom_bind (sendsTo_shutdownDomains (fun vm hvm => ?_) w₁) fun _ _ _ =>
        logsFrom_of_eq rfl
      exact hshutdown hall vm (sys.mem_iterate.mp hvm)
    · exact logsFrom_of_eq rfl

/-- A qube that a plan, made in the world `w`, shuts down or restarts. -/
def Touched (sys : System) (args : Args) (updated : List Qube)
    (templateStatuses derivedStatuses : Dict String FinalStatus) (w : World) (q : Qube) : Prop :=
  (SuccessTemplate updated templateStatuses q ∧ w.running q = true) ∨
    (Applicable sys updated templateStatuses derivedStatuses w q ∧
      (sys.isService q = true ∨ args.applyToAll = true))

/-- The derived qubes of a plan are applicable, if the plan is made in a world `w₁` in which no qube
has started, for templates that are down. -/
theorem applicable_of_mem {updated ready : List Qube}
    {templateStatuses derivedStatuses : Dict String FinalStatus} {w₁ : World}
    (hready : ∀ t ∈ ready, SuccessTemplate updated templateStatuses t ∧ DownAfterwards sys w t)
    (hrunning : ∀ q, w₁.running q = true → w.running q = true) {q : Qube}
    (hderived : ∃ t ∈ ready, q ∈ sys.derivedVms t)
    (hneeds : needsApply sys derivedStatuses w₁ q = true) :
    Applicable sys updated templateStatuses derivedStatuses w q := by
  obtain ⟨t, ht, hq⟩ := hderived
  obtain ⟨hrun, hstatus, hcleanup⟩ := needsApply_iff.mp hneeds
  exact ⟨hrunning q hrun, hstatus, hcleanup, t, (hready t ht).1, (hready t ht).2, hq⟩

/-- The requests for derived qubes. -/
theorem sendsTo_plan {updated ready : List Qube}
    {templateStatuses : Dict String FinalStatus} (derivedStatuses : Dict String FinalStatus)
    {w₁ : World}
    (hready : ∀ t ∈ ready, SuccessTemplate updated templateStatuses t ∧ DownAfterwards sys w t)
    (hrunning : ∀ q, w₁.running q = true → w.running q = true) (retCode : Int) (w₂ : World) :
    SendsTo (Touched sys args updated templateStatuses derivedStatuses w)
      (applyToDerived sys args retCode (derivedVmsToApply sys ready derivedStatuses w₁).1
        (derivedVmsToApply sys ready derivedStatuses w₁).2) w₂ := by
  refine sendsTo_applyToDerived (fun q hq => ?_) (fun hall q hq => ?_) retCode w₂
  · obtain ⟨hderived, hneeds, hservice⟩ := mem_derivedVmsToApply_fst.mp hq
    exact Or.inr ⟨applicable_of_mem hready hrunning hderived hneeds, Or.inl hservice⟩
  · obtain ⟨hderived, hneeds, -⟩ := mem_derivedVmsToApply_snd.mp hq
    exact Or.inr ⟨applicable_of_mem hready hrunning hderived hneeds, Or.inr hall⟩

/-- The acting part of a plan, whatever the replies are. -/
theorem sendsTo_carryOut {updated templates : List Qube}
    {templateStatuses : Dict String FinalStatus} (derivedStatuses : Dict String FinalStatus)
    (htemplates : ∀ t ∈ templates, SuccessTemplate updated templateStatuses t) (w : World) :
    SendsTo (Touched sys args updated templateStatuses derivedStatuses w)
      (carryOut sys args templates (templates.filter (w.running ·)) derivedStatuses
        (derivedVmsToApply sys templates derivedStatuses w).1
        (derivedVmsToApply sys templates derivedStatuses w).2) w := by
  have htoShut : ∀ t ∈ templates.filter (w.running ·),
      Touched sys args updated templateStatuses derivedStatuses w t := by
    intro t ht
    obtain ⟨hmem, hrunning⟩ := List.mem_filter.mp ht
    exact Or.inl ⟨htemplates t hmem, hrunning⟩
  rw [carryOut]
  refine logsFrom_bind (sendsTo_shutdownDomains htoShut w) fun returned w₁ hrun => ?_
  obtain ⟨code, waitFor⟩ := returned
  obtain ⟨-, hrunning, hcode⟩ := shutdownDomains_ok hrun
  dsimp only
  by_cases hall : (templates.filter (w.running ·)).all (fun vm => sys.accepts (.shutdown vm)) = true
  · -- the templates are down, and the plan stands
    rw [if_pos hall] at hcode
    rw [if_neg (not_not.mpr hcode)]
    refine sendsTo_plan derivedStatuses (fun t ht => ⟨htemplates t ht, fun hrun => ?_⟩)
      (fun q hq => hq) code w₁
    exact List.all_eq_true.mp hall t (List.mem_filter.mpr ⟨ht, hrun⟩)
  · rw [if_neg hall] at hcode
    rw [if_pos (by rw [hcode]; decide)]
    refine logsFrom_bind (logsFrom_of_eq rfl) fun w₂ w₃ hget => ?_
    rw [exec_get] at hget
    cases hget
    refine logsFrom_bind (logsFrom_of_eq rfl) fun plan w₂ hplan => ?_
    rw [exec_getDerivedVmToApply] at hplan
    cases hplan
    -- the plan is made again, for the templates that are down
    refine sendsTo_plan derivedStatuses (fun t ht => ?_) (fun q hq => ?_) _ w₁
    · obtain ⟨hmem, hdown⟩ := List.mem_filter.mp ht
      refine ⟨htemplates t hmem, fun hrun => ?_⟩
      rw [hrunning t, hrun, Bool.true_and, Bool.not_eq_true', decide_eq_false_iff_not, not_not]
        at hdown
      exact (List.mem_filter.mp hdown).2
    · rw [hrunning q, Bool.and_eq_true] at hq
      exact hq.1

/-- A plan has looked up the status of every updated qube. -/
theorem isSome_of_updatedTemplates {templateStatuses : Dict String FinalStatus}
    {updated templates : List Qube}
    (h : updatedTemplates templateStatuses updated = .ok templates) :
    ∀ vm ∈ updated, (templateStatuses.get? vm.name).isSome = true := by
  induction updated generalizing templates with
  | nil => simp
  | cons vm rest ih =>
      rw [updatedTemplates] at h
      cases hstatus : templateStatuses.get? vm.name with
      | none =>
          rw [hstatus] at h
          cases h
      | some status =>
          rw [hstatus] at h
          cases hrest : updatedTemplates templateStatuses rest with
          | error exc =>
              rw [hrest] at h
              cases h
          | ok others =>
              rw [List.forall_mem_cons, hstatus]
              exact ⟨rfl, ih hrest⟩

/-- A real run sends requests to touched qubes only, whatever the replies are. -/
theorem sendsTo_applyUpdatesToAppvm (sys : System) (hdry : args.dryRun = false)
    (updated : List Qube) (templateStatuses derivedStatuses : Dict String FinalStatus) (w : World) :
    SendsTo (Touched sys args updated templateStatuses derivedStatuses w)
      (applyUpdatesToAppvm sys args updated templateStatuses derivedStatuses) w := by
  rw [applyUpdatesToAppvm]
  split
  · exact logsFrom_of_eq rfl
  · cases htemplates : updatedTemplates templateStatuses updated with
    -- a missing status stops the plan before it sends anything
    | error exc =>
        unfold SendsTo LogsFrom
        rw [exec_bind_error (exec_ofResult _)]
        exact ⟨[], (List.append_nil _).symm, fun _ h => absurd h List.not_mem_nil⟩
    | ok templates =>
        obtain ⟨templates', htemplates', -, hmem⟩ :=
          updatedTemplates_eq (isSome_of_updatedTemplates htemplates)
        rw [htemplates] at htemplates'
        cases htemplates'
        unfold SendsTo LogsFrom
        rw [exec_bind (exec_ofResult _),
          exec_bind (exec_getDerivedVmToApply templates derivedStatuses), exec_bind exec_get, hdry,
          if_neg Bool.false_ne_true]
        exact sendsTo_carryOut derivedStatuses (fun t ht => (hmem t).mp ht) w

/-- With replies that are either an acceptance or a `QubesVMError`, every touched qube is asked to shut
down. -/
theorem touched_of_refuses (h : sys.Refuses) {updated : List Qube}
    {templateStatuses derivedStatuses : Dict String FinalStatus}
    (hstatuses : ∀ vm ∈ updated, (templateStatuses.get? vm.name).isSome = true)
    (hderived : ∀ t vm, vm ∈ sys.derivedVms t → vm.klass ≠ .templateVM) (hdry : args.dryRun = false)
    (hflags : ¬(args.applyToSys = false ∧ args.applyToAll = false)) (w : World) {q : Qube}
    (hq : Touched sys args updated templateStatuses derivedStatuses w q) {sent : List Request}
    (hsent : (exec (applyUpdatesToAppvm sys args updated templateStatuses derivedStatuses) w).2.requests
      = w.requests ++ sent) : .shutdown q ∈ sent := by
  obtain ⟨code, w', templates, restarts, shutdowns, hexec, hrequests, -, hmem, -, -, hrestarts,
    hshutdowns⟩ := exec_applyUpdatesToAppvm h w derivedStatuses hstatuses hderived hdry hflags
  rw [hexec] at hsent
  rw [← List.append_cancel_left (hrequests.symm.trans hsent), shutdown_mem_sentRequests,
    List.mem_filter, hmem q, hrestarts q, hshutdowns q]
  rcases hq with hq | ⟨hq, hservice | hall⟩
  · exact Or.inl hq
  · exact Or.inr (Or.inl ⟨hq, hservice⟩)
  · cases hservice : sys.isService q with
    | true => exact Or.inr (Or.inl ⟨hq, rfl⟩)
    | false => exact Or.inr (Or.inr ⟨hall, hq, rfl⟩)

/-! ## Surprises -/

/-- A qube that the apply phase of a real run touches although a dry run in the world `w` does not
expect it to: a template or derived qube that was not running then, or a derived qube that is itself a
target, the update of which the dry run expects to be a success. -/
def Surprise (sys : System) (args : Args) (targets : List Qube)
    (templateStatuses derivedStatuses : Dict String FinalStatus) (w w' : World) (q : Qube) : Prop :=
  (SuccessTemplate (members .independent targets) templateStatuses q ∧ w'.running q = true ∧
    w.running q = false) ∨
  (Applicable sys (members .independent targets) templateStatuses derivedStatuses w' q ∧
    (sys.isService q = true ∨ args.applyToAll = true) ∧
    (w.running q = false ∨ q.name ∈ (members .derived targets).map Qube.name))

/-- A touched qube is announced, unless it is a surprise. -/
theorem announces_of_touched {lists : DryLists} (hlists : lists.Of sys targets w)
    {templateStatuses derivedStatuses : Dict String FinalStatus} {q : Qube}
    (hq : Touched sys args (members .independent targets) templateStatuses derivedStatuses w' q)
    (hnot : ¬Surprise sys args targets templateStatuses derivedStatuses w w' q) :
    lists.Announces q := by
  rw [Surprise, not_or] at hnot
  rcases hq with ⟨⟨hmem, hklass, hstatus⟩, hrunning⟩ | ⟨happlicable, hservice⟩
  · -- a template that runs now was running before
    refine Or.inl ((hlists.templates q).mpr ⟨hmem, hklass, ?_⟩)
    rw [← Bool.not_eq_false]
    exact fun hbefore => hnot.1 ⟨⟨hmem, hklass, hstatus⟩, hrunning, hbefore⟩
  · refine Or.inr ((hlists.derived q).mpr ⟨?_, fun hname => ?_, ?_, ?_⟩)
    · rw [← Bool.not_eq_false]
      exact fun hbefore => hnot.2 ⟨happlicable, hservice, Or.inl hbefore⟩
    · exact hnot.2 ⟨happlicable, hservice, Or.inr hname⟩
    · exact happlicable.2.2.1
    · obtain ⟨t, ⟨hmem, hklass, -⟩, -, hderived⟩ := happlicable.2.2.2
      exact ⟨t, hmem, hklass, hderived⟩

/-- A surprise is touched and not announced. -/
theorem not_announces_of_surprise {lists : DryLists} (hlists : lists.Of sys targets w)
    (hderived : ∀ t vm, vm ∈ sys.derivedVms t → vm.klass ≠ .templateVM)
    {templateStatuses derivedStatuses : Dict String FinalStatus} {q : Qube}
    (hq : Surprise sys args targets templateStatuses derivedStatuses w w' q) :
    Touched sys args (members .independent targets) templateStatuses derivedStatuses w' q ∧
      ¬lists.Announces q := by
  rcases hq with ⟨hsuccess, hrunning, hbefore⟩ | ⟨happlicable, hservice, hbefore⟩
  · refine ⟨Or.inl ⟨hsuccess, hrunning⟩, ?_⟩
    rintro (h | h)
    · rw [((hlists.templates q).mp h).2.2] at hbefore
      cases hbefore
    · rw [((hlists.derived q).mp h).1] at hbefore
      cases hbefore
  · refine ⟨Or.inr ⟨happlicable, hservice⟩, ?_⟩
    rintro (h | h)
    · -- derived qubes are no templates
      obtain ⟨t, -, -, hq⟩ := happlicable.2.2.2
      exact hderived t q hq ((hlists.templates q).mp h).2.1
    · obtain ⟨hrunning, hname, -⟩ := (hlists.derived q).mp h
      rcases hbefore with hbefore | hbefore
      · rw [hrunning] at hbefore
        cases hbefore
      · exact hname hbefore

/-- A dry run in the world `w` prints lists that name every qube to which the apply phase of a real run
sends a request, whatever the outcomes of the updates, the qubes that are running by then and the
replies are, if there is no surprise; and with replies that are an acceptance or a `QubesVMError`, only
then. -/
theorem dryRun_announces_iff (env : Environment) (args : Args) (hdry : args.dryRun = false)
    (hflags : args.applyToSys = true ∨ args.applyToAll = true) (hne : targets ≠ []) (w : World) :
    ∃ messages lists, (mainRun env args.dry (.ok targets) w).2.world
        = w.print (messages ++ DryLists.lines lists) ∧
      ∀ (templateStatuses derivedStatuses : Dict String FinalStatus) (w' : World),
        ∃ sent, (exec (applyUpdatesToAppvm env.system args (members .independent targets)
            templateStatuses derivedStatuses) w').2.requests = w'.requests ++ sent ∧
          ((∀ q, ¬Surprise env.system args targets templateStatuses derivedStatuses w w' q) →
            ∀ request ∈ sent, lists.Announces request.vm) ∧
          (env.system.Refuses →
            (∀ t vm, vm ∈ env.system.derivedVms t → vm.klass ≠ .templateVM) →
            (∀ vm ∈ members .independent targets, (templateStatuses.get? vm.name).isSome = true) →
            (∀ request ∈ sent, lists.Announces request.vm) →
            ∀ q, ¬Surprise env.system args targets templateStatuses derivedStatuses w w' q) := by
  obtain ⟨messages, lists, hprinted, hlists⟩ := exec_dryRun env args hne hflags w
  refine ⟨messages, lists, hprinted, fun templateStatuses derivedStatuses w' => ?_⟩
  obtain ⟨sent, hsent, htouched⟩ := sendsTo_applyUpdatesToAppvm env.system hdry
    (members .independent targets) templateStatuses derivedStatuses w'
  refine ⟨sent, hsent, fun hnone request hmem => ?_,
    fun hrefuses hderived hstatuses hannounced q hq => ?_⟩
  · exact announces_of_touched hlists (htouched request hmem) (hnone request.vm)
  · obtain ⟨hq, hnot⟩ := not_announces_of_surprise hlists hderived hq
    have hasked : ¬(args.applyToSys = false ∧ args.applyToAll = false) := by
      rintro ⟨hsys, hall⟩
      simp [hsys, hall] at hflags
    exact hnot (hannounced _
      (touched_of_refuses hrefuses hstatuses hderived hdry hasked w' hq hsent))

/-! ## A target whose update fails -/

namespace FailingTarget

/-- A service qube that is derived from `fedora`. -/
def sysNet : Qube := ⟨"sys-net", .appVM, appVM_adminName "sys-net"⟩

/-- The update of the template succeeds, and that of the service qube fails. -/
def environment : Environment where
  outcome := fun
    | .admin => ⟨[], [], false⟩
    | .independent => ⟨[.status (.done "fedora" .success)], [("fedora", { code := 0 })], false⟩
    | .derived => ⟨[.status (.done "sys-net" .error)], [("sys-net", { code := 24 })], false⟩
  system := serviceSystem

/-- The options. -/
def applyToSysArgs : Args := { applyToSys := true }

/-- Both qubes are running. -/
def world : World := { running := fun _ => true }

/-- If only the template is a target, the dry run announces everything. -/
theorem dryRun_announces_template :
    ∃ messages lists, (mainRun environment applyToSysArgs.dry (.ok [fedora]) world).2.world
        = world.print (messages ++ DryLists.lines lists) ∧
      ∀ (templateStatuses derivedStatuses : Dict String FinalStatus) (w' : World),
        ∃ sent, (exec (applyUpdatesToAppvm environment.system applyToSysArgs
            (members .independent [fedora]) templateStatuses derivedStatuses) w').2.requests
              = w'.requests ++ sent ∧
          ((∀ q, ¬Surprise environment.system applyToSysArgs [fedora] templateStatuses
              derivedStatuses world w' q) →
            ∀ request ∈ sent, lists.Announces request.vm) ∧
          (environment.system.Refuses →
            (∀ t vm, vm ∈ environment.system.derivedVms t → vm.klass ≠ .templateVM) →
            (∀ vm ∈ members .independent [fedora],
              (templateStatuses.get? vm.name).isSome = true) →
            (∀ request ∈ sent, lists.Announces request.vm) →
            ∀ q, ¬Surprise environment.system applyToSysArgs [fedora] templateStatuses
              derivedStatuses world w' q) :=
  dryRun_announces_iff environment applyToSysArgs rfl (Or.inl rfl) (List.cons_ne_nil _ _) world

/-- The dry run announces the template only, and the real run restarts the service qube as well. -/
theorem dryRun_omits_target :
    (mainRun environment applyToSysArgs.dry (.ok [fedora, sysNet]) world).2.world.stdout
        = ["The admin VM will not be updated.",
          "Following templates and standalones will be updated: fedora",
          "Following qubes will be updated: sys-net",
          "Following templates will be shutdown: fedora",
          "Following qubes CAN be restarted: ",
          "Following qubes CAN be shutdown: "] ∧
      (mainRun environment applyToSysArgs (.ok [fedora, sysNet]) world).2.world.requests
        = [.shutdown fedora, .shutdown sysNet, .start sysNet] := by
  constructor
  · rfl
  · rfl

end FailingTarget

end QubesAdminLinux
