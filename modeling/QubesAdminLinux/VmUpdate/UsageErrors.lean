import QubesAdminLinux.VmUpdate.BatchCode
import QubesAdminLinux.VmUpdate.DryRun
import QubesAdminLinux.VmUpdate.TargetNames

/-! # Usage errors

`main` parses its arguments, sets the logging level, selects the targets and updates them.  Two checks
raise `ArgumentError`: that of the limit for stale qubes, at the end of `parse_args`, and that of the names
in `preselect_targets`.

* **`parseArgs`** — the limit, given or by default; **`vmUpdate`** — the whole of `main`.
* **`returns_main`** — the code for a usage error never comes from an update.
* **`UsageChecked`** — usage errors end in their code, with nothing done.
* **`usageChecked_iff`** — this holds if and only if the limit is not negative and, for bad names, the
  default limit can be read and the logging level is known. -/

namespace QubesAdminLinux

open StateExcept

/-! ## The whole program -/

/-- The exceptions of `parse_args`. -/
inductive ParseError
  /-- `ArgumentError`. -/
  | argumentError (message : String)
  /-- The default limit cannot be read from `qubesd`. -/
  | readError (exc : ReadError)
  /-- The default limit is no number. -/
  | valueError (text : String)
  deriving DecidableEq, Repr

/-- `DEFAULT_UPDATE_IF_STALE`. -/
def defaultLimit : Int := 7

/-- The default of `--update-if-stale`, from the feature of dom0. -/
def defaultUpdateIfStale : Except ReadError (Option String) → Except ParseError Int
  | .ok none => .ok defaultLimit
  | .ok (some text) =>
      match PyFloat.intOfText? text with
      | some limit => .ok limit
      | none => .error (.valueError text)
  -- access to the feature may be denied
  | .error (.access _) => .ok defaultLimit
  | .error (.communication text) => .error (.readError (.communication text))

/-- `parse_args`, for an option `--update-if-stale` that may have been given: the limit. -/
def parseArgs (feature : Except ReadError (Option String)) (given : Option Int) :
    Except ParseError Int := do
  let default ← defaultUpdateIfStale feature
  let updateIfStale := given.getD default
  if updateIfStale < 0 then .error (.argumentError "Wrong value for --update-if-stale")
  else .ok updateIfStale

/-- What leaves `main` instead of a code. -/
inductive MainError
  /-- An exception of `parse_args`. -/
  | parsing (exc : ParseError)
  /-- `ValueError` of `log.setLevel`. -/
  | unknownLevel (level : String)
  /-- An exception of `get_targets`. -/
  | selecting (exc : TargetsError)
  /-- An exception of an update, or none that ends. -/
  | stopped (stop : Stop)

/-- Whether this is an `ArgumentError`. -/
def MainError.isArgumentError : MainError → Bool
  | .parsing (.argumentError _) => true
  | .selecting (.argumentError _) => true
  | _ => false

/-- A command line. -/
structure CommandLine where
  /-- The options of the update. -/
  args : Args := {}
  /-- The options of the selection, apart from the limit and `--quiet`. -/
  targeting : TargetingArgs := {}
  /-- `--update-if-stale`, if it is given. -/
  updateIfStale : Option Int := none

/-- The options of the selection, with a limit. -/
def CommandLine.selection (line : CommandLine) (limit : Int) : TargetingArgs :=
  { line.targeting with updateIfStale := limit, quiet := line.args.quiet }

/-- What is given to `main`. -/
structure UpdateHost where
  /-- The domains. -/
  app : QubesApp
  /-- Their features. -/
  features : Features
  /-- The clock. -/
  clock : Clock
  /-- What the workers do, and the qubes of the apply phase. -/
  env : Environment

namespace UpdateHost

variable (host : UpdateHost) (line : CommandLine) (w : World)

/-- The feature with the default limit. -/
def limitFeature : Except ReadError (Option String) :=
  host.features.get "dom0" "qubes-vm-update-update-if-stale"

/-- The part of `main` behind `parse_args`. -/
def updateSelected (limit : Int) : Except MainError Int × MainState :=
  let selected := getTargets host.app host.features host.clock (line.selection limit)
  let w := w.print selected.1
  match selected.2 with
  | .error (.argumentError text) =>
      let ended := mainRun host.env line.args (.error text) w
      (ended.1.mapError .stopped, ended.2)
  | .error exc => (.error (.selecting exc), { world := w })
  | .ok targets =>
      let ended := mainRun host.env line.args (.ok (targets.map SystemDomain.toQube)) w
      (ended.1.mapError .stopped, ended.2)

/-- `main`. -/
def vmUpdate : Except MainError Int × MainState :=
  match parseArgs host.limitFeature line.updateIfStale with
  | .error exc => (.error (.parsing exc), { world := w })
  | .ok limit =>
      -- the level is set before the targets are selected
      if line.args.log ∈ levelNames then host.updateSelected line w limit
      else (.error (.unknownLevel line.args.log), { world := w })

end UpdateHost

/-! ## The codes of an update -/

/-- Some code for another ending than a usage error. -/
def NoUsageCode (code : Int) : Prop := code ≠ Exit.errUsage

instance (code : Int) : Decidable (NoUsageCode code) := inferInstanceAs (Decidable (_ ≠ _))

/-- Success is no usage error. -/
theorem noUsageCode_ok : NoUsageCode Exit.ok := by decide

/-- Nor is the larger one of two other codes. -/
theorem NoUsageCode.max {a b : Int} (ha : NoUsageCode a) (hb : NoUsageCode b) :
    NoUsageCode (max a b) := by
  rcases max_choice a b with h | h
  · rw [h]
    exact ha
  · rw [h]
    exact hb

section Codes

variable {args : Args}

/-- The codes of the apply phase are none for a usage error. -/
theorem applyCodes_noUsageCode : ApplyCodes NoUsageCode where
  ok := by decide
  shutdownTmpl := by decide
  shutdownApp := by decide
  startApp := by decide
  max := NoUsageCode.max

/-- The code of a batch. -/
theorem noUsageCode_finalCode (terminated : Bool) {collected : Int} (hle : collected ≤ 26)
    (stats : List FinalStatus) : NoUsageCode (UpdateManager.finalCode terminated collected stats) := by
  cases terminated with
  | true =>
      rw [UpdateManager.finalCode_terminated]
      decide
  | false =>
      have hcollected : NoUsageCode collected := by
        intro heq
        rw [heq] at hle
        exact absurd hle (by decide)
      rw [UpdateManager.finalCode_eq hle]
      split
      · decide
      split
      · decide
      split
      · exact hcollected.max (by decide)
      · exact hcollected

/-- Nor is the code of a batch. -/
theorem returns_runUpdate (env : Environment) (batch : Batch) (targets : List Qube)
    (qubeKlass : String) (dom0 : Bool) :
    Returns (fun r => NoUsageCode r.1) (runUpdate env batch targets args qubeKlass dom0) := by
  rw [runUpdate]
  split
  · split
    · exact returns_bind' fun _ => returns_pure noUsageCode_ok
    · exact returns_pure noUsageCode_ok
  split
  · exact returns_pure noUsageCode_ok
  · rename_i hne
    refine returns_bind' fun _ => ?_
    rintro s ⟨code, statuses⟩ s' hexec
    rw [exec_ofResult, Prod.mk.injEq] at hexec
    rw [UpdateManager.run_eq_ok hne rfl hexec.1]
    exact noUsageCode_finalCode _ (UpdateManager.collectedCode_bounds _).2 _

/-- The end of `main`. -/
theorem noUsageCode_exitCode (noUpdates : Bool) {retCode : Int} (h : NoUsageCode retCode) :
    NoUsageCode (exitCode args noUpdates retCode) := by
  rw [exitCode]
  split
  · decide
  split
  · decide
  · exact h

/-- A plan that is a part of a run. -/
theorem returns_runPlan {α : Type} {P : α → Prop} {plan : PlanM α} (h : Returns P plan) :
    Returns P (runPlan plan) := by
  intro s a s' hexec
  rw [runPlan, exec_zoom, Prod.mk.injEq] at hexec
  cases hplan : (exec plan s.world).1 with
  | error exc =>
      rw [hplan] at hexec
      cases hexec.1
  | ok a' =>
      rw [hplan] at hexec
      cases hexec.1
      exact h s.world a _ (Prod.ext hplan rfl)

/-- The code for a usage error never comes from an update. -/
theorem returns_updateTargets (env : Environment) (targets : List Qube) :
    Returns NoUsageCode (updateTargets env args targets) := by
  have hadmin : Returns (fun r => NoUsageCode r.1) (updateAdmin env args (members .admin targets)) := by
    rw [updateAdmin]
    split
    · exact returns_bind' fun _ => returns_pure noUsageCode_ok
    split
    · exact returns_pure noUsageCode_ok
    · exact returns_bind (returns_runUpdate env _ _ _ _) fun r hr => returns_pure hr
  refine returns_bind hadmin fun r₁ h₁ => ?_
  dsimp only
  split
  · exact returns_pure (by decide)
  refine returns_bind (returns_runUpdate env _ _ _ _) fun r₂ h₂ => ?_
  split
  · exact returns_pure (by decide)
  refine returns_bind (returns_runUpdate env _ _ _ _) fun r₃ h₃ => ?_
  split
  · exact returns_pure (by decide)
  · refine returns_bind (returns_runPlan (applyCodes_noUsageCode.applyUpdatesToAppvm _ _ _))
      fun restart hrestart => ?_
    exact returns_pure (noUsageCode_exitCode _ (((h₁.max h₂).max h₃).max hrestart))

/-- `main` returns the code for a usage error only for an `ArgumentError` of `get_targets`. -/
theorem mainRun_noUsageCode (env : Environment) (targets : List Qube) (w : World) :
    (mainRun env args (.ok targets) w).1 ≠ .ok Exit.errUsage := by
  have hreturns : Returns NoUsageCode (main env args (.ok targets)) := by
    cases targets with
    | nil =>
        have hcode : NoUsageCode (if args.signalNoUpdates then Exit.okNoUpdates else Exit.ok) := by
          split <;> decide
        rw [main]
        split
        · exact returns_bind' fun _ => returns_pure hcode
        · exact returns_pure hcode
    | cons target rest => exact returns_updateTargets env (target :: rest)
  intro h
  exact hreturns { world := w } Exit.errUsage _ (Prod.ext h rfl) rfl

end Codes

/-! ## The two checks -/

section Checks

variable {app : QubesApp} {features : Features} {clock : Clock} {args : TargetingArgs}

/-- `preselect_targets` raises `ArgumentError` exactly for names that are not accepted. -/
theorem preselectTargets_argumentError_iff :
    (∃ message, preselectTargets app features args = .error (.argumentError message))
      ↔ ¬ AcceptedNames app args := by
  constructor
  · rintro ⟨message, hraises⟩ haccepted
    have hexplicit := explicitTargets_eq_ok.mpr ⟨haccepted, rfl⟩
    rw [preselectTargets, hexplicit] at hraises
    -- only a read of a feature can fail
    change (if args.targets = "" then filterExcept (notSkipping features) _ else .ok _) = _ at hraises
    split at hraises
    · obtain ⟨vm, -, hread⟩ := exists_of_filterExcept_eq_error hraises
      rw [notSkipping] at hread
      split at hread <;> cases hread
    · cases hraises
  · intro hnot
    rw [AcceptedNames, Classical.not_imp] at hnot
    refine ⟨unknownNames app args, ?_⟩
    rw [preselectTargets, explicitTargets, if_neg hnot.1, if_pos hnot.2]
    rfl

/-- `select_targets` does not raise it. -/
theorem selectTargets_ne_argumentError (targets : List SystemDomain) (message : String) :
    (selectTargets features clock args targets).2 ≠ .error (.argumentError message) := by
  intro hraises
  rw [selectTargets] at hraises
  split at hraises
  · cases hraises
  · rw [selectLoop_snd] at hraises
    obtain ⟨vm, -, hexamine⟩ := exists_of_filterExcept_eq_error hraises
    cases hverdict : examine features clock args vm with
    | ok verdict =>
        rw [hverdict] at hexamine
        cases hexamine
    | error exc =>
        rw [hverdict] at hexamine
        cases hexamine
        rw [examine] at hverdict
        split at hverdict
        · cases hverdict
        split at hverdict
        · cases hverdict
        split at hverdict
        · cases hverdict
        · -- the date is the only thing that raises
          cases hstale : isStale features clock vm args.updateIfStale with
          | ok stale =>
              rw [hstale] at hverdict
              cases stale <;> cases hverdict
          | error exc' =>
              rw [hstale] at hverdict
              cases hverdict
              rw [isStale] at hstale
              split at hstale
              · cases hstale
              · cases hstale
              · split at hstale <;> cases hstale

/-- `get_targets` raises `ArgumentError` exactly for bad names, before it prints anything. -/
theorem getTargets_argumentError_iff :
    (∃ message, getTargets app features clock args = ([], .error (.argumentError message)))
      ↔ args.targets ≠ "" ∧ BadNames app args := by
  have hnot : ¬ AcceptedNames app args ↔ args.targets ≠ "" ∧ BadNames app args := by
    by_cases hnames : args.targets = ""
    · exact iff_of_false (fun h => h fun hne => absurd hnames hne) fun h => h.1 hnames
    · rw [acceptedNames_iff_not_badNames app args hnames, not_not, and_iff_right hnames]
  rw [← hnot, ← @preselectTargets_argumentError_iff app features args, getTargets]
  cases hpreselect : preselectTargets app features args with
  | error exc => simp
  | ok targets =>
      refine iff_of_false ?_ (by simp)
      rintro ⟨message, hraises⟩
      exact selectTargets_ne_argumentError targets message (congrArg Prod.snd hraises)

/-- Whatever it raises besides is another exception. -/
theorem getTargets_ne_argumentError (hgood : ¬ (args.targets ≠ "" ∧ BadNames app args))
    (message : String) : (getTargets app features clock args).2 ≠ .error (.argumentError message) := by
  intro hraises
  rw [← @getTargets_argumentError_iff app features clock args] at hgood
  rw [getTargets] at hraises hgood
  cases hpreselect : preselectTargets app features args with
  | error exc =>
      rw [hpreselect] at hraises hgood
      cases hraises
      exact hgood ⟨message, rfl⟩
  | ok targets =>
      rw [hpreselect] at hraises
      exact selectTargets_ne_argumentError targets message hraises

end Checks

/-! ## Usage errors -/

namespace UpdateHost

variable (host : UpdateHost) (line : CommandLine) (w : World)

/-- The limit is negative: the given one or, without one, the default. -/
def NegativeLimit : Prop :=
  ∃ limit, limit < 0 ∧ (line.updateIfStale = some limit ∨
    (line.updateIfStale = none ∧ defaultUpdateIfStale host.limitFeature = .ok limit))

/-- `--targets` names a qube twice, or one that does not exist. -/
def BadTargets : Prop := line.targeting.targets ≠ "" ∧ BadNames host.app line.targeting

/-- Usage errors, and nothing else, end in their code, without an exception, and with nothing done. -/
structure UsageChecked : Prop where
  /-- `ArgumentError` does not leave `main`. -/
  handled : ∀ exc, (host.vmUpdate line w).1 = .error exc → exc.isArgumentError = false
  /-- The code. -/
  reported : (host.vmUpdate line w).1 = .ok Exit.errUsage ↔
    host.NegativeLimit line ∨ host.BadTargets line
  /-- No batch is started, no qube is asked to shut down or to start, and nothing is printed. -/
  untouched : (host.vmUpdate line w).1 = .ok Exit.errUsage →
    (host.vmUpdate line w).2.started = [] ∧ (host.vmUpdate line w).2.world = w

variable {host line w}

/-- The default limit is not checked where it is read. -/
theorem defaultUpdateIfStale_ne_argumentError (feature : Except ReadError (Option String))
    (message : String) : defaultUpdateIfStale feature ≠ .error (.argumentError message) := by
  intro h
  cases feature with
  | error exc => cases exc <;> cases h
  | ok value =>
      cases value with
      | none => cases h
      | some text =>
          rw [defaultUpdateIfStale] at h
          split at h <;> cases h

/-- A default that cannot be read ends the program, whatever limit is given. -/
theorem vmUpdate_of_unreadable {exc : ParseError}
    (h : defaultUpdateIfStale host.limitFeature = .error exc) :
    host.vmUpdate line w = (.error (.parsing exc), { world := w }) := by
  rw [vmUpdate, parseArgs, h]
  rfl

/-- A negative limit raises outside of the handler. -/
theorem vmUpdate_of_negative {default : Int} (h : defaultUpdateIfStale host.limitFeature = .ok default)
    (hnegative : line.updateIfStale.getD default < 0) :
    (host.vmUpdate line w).1
      = .error (.parsing (.argumentError "Wrong value for --update-if-stale")) := by
  have hparse : parseArgs host.limitFeature line.updateIfStale
      = .error (.argumentError "Wrong value for --update-if-stale") := by
    rw [parseArgs, h]
    exact if_pos hnegative
  rw [vmUpdate, hparse]

/-- Any other limit is used, if the level is known. -/
theorem vmUpdate_of_limit {default : Int} (h : defaultUpdateIfStale host.limitFeature = .ok default)
    (hlimit : ¬ line.updateIfStale.getD default < 0) :
    host.vmUpdate line w = if line.args.log ∈ levelNames
      then host.updateSelected line w (line.updateIfStale.getD default)
      else (.error (.unknownLevel line.args.log), { world := w }) := by
  have hparse : parseArgs host.limitFeature line.updateIfStale
      = .ok (line.updateIfStale.getD default) := by
    rw [parseArgs, h]
    exact if_neg hlimit
  rw [vmUpdate, hparse]

/-- Bad names end with the code, and with nothing done. -/
theorem updateSelected_of_bad (h : host.BadTargets line) (limit : Int) :
    (host.updateSelected line w limit).1 = .ok Exit.errUsage ∧
      (host.updateSelected line w limit).2.started = [] ∧
      (host.updateSelected line w limit).2.world = w := by
  have hraises : ∃ message, getTargets host.app host.features host.clock (line.selection limit)
      = ([], .error (.argumentError message)) := getTargets_argumentError_iff.mpr h
  obtain ⟨message, hraises⟩ := hraises
  rw [updateSelected, hraises]
  exact ⟨rfl, rfl, World.print_nil w⟩

/-- Without bad names, the program ends otherwise. -/
theorem updateSelected_of_good (h : ¬ host.BadTargets line) (limit : Int) :
    (host.updateSelected line w limit).1 ≠ .ok Exit.errUsage ∧
      ∀ exc, (host.updateSelected line w limit).1 = .error exc → exc.isArgumentError = false := by
  have hother := @getTargets_ne_argumentError host.app host.features host.clock (line.selection limit) h
  rw [updateSelected]
  cases hselected : (getTargets host.app host.features host.clock (line.selection limit)).2 with
  | error exc =>
      rw [hselected] at hother
      cases exc with
      | argumentError message => exact absurd rfl (hother message)
      | readError exc =>
          refine ⟨by simp, ?_⟩
          rintro exc' ⟨⟩
          rfl
      | dateError text =>
          refine ⟨by simp, ?_⟩
          rintro exc' ⟨⟩
          rfl
  | ok targets =>
      dsimp only
      have hcode := @mainRun_noUsageCode line.args host.env (targets.map SystemDomain.toQube)
        (w.print (getTargets host.app host.features host.clock (line.selection limit)).1)
      cases hended : (mainRun host.env line.args (.ok (targets.map SystemDomain.toQube))
          (w.print (getTargets host.app host.features host.clock (line.selection limit)).1)).1 with
      | error stop =>
          refine ⟨by simp [Except.mapError], ?_⟩
          rintro exc ⟨⟩
          rfl
      | ok code =>
          rw [hended] at hcode
          refine ⟨fun heq => hcode ?_, fun exc hexc => by cases hexc⟩
          cases heq
          rfl

/-- Where another exception leaves `main`, there must be no usage error. -/
theorem usageChecked_of_raised {exc : MainError} (hended : (host.vmUpdate line w).1 = .error exc)
    (hother : exc.isArgumentError = false) :
    host.UsageChecked line w ↔ ¬ host.NegativeLimit line ∧ ¬ host.BadTargets line := by
  have hnot : (host.vmUpdate line w).1 ≠ .ok Exit.errUsage := by
    rw [hended]
    simp
  rw [← not_or]
  constructor
  · intro h hor
    exact hnot (h.reported.mpr hor)
  · intro hnone
    refine ⟨fun exc' hexc => ?_, iff_of_false hnot hnone, fun h => absurd h hnot⟩
    rw [hended] at hexc
    cases hexc
    exact hother

/-- With a limit that is not negative and a known level, usage errors end as they should. -/
theorem usageChecked_of_limit {default : Int}
    (hdefault : defaultUpdateIfStale host.limitFeature = .ok default)
    (hlimit : ¬ line.updateIfStale.getD default < 0) (hpositive : ¬ host.NegativeLimit line)
    (hlevel : line.args.log ∈ levelNames) : host.UsageChecked line w := by
  have hended := @vmUpdate_of_limit host line w default hdefault hlimit
  rw [if_pos hlevel] at hended
  by_cases hbad : host.BadTargets line
  · obtain ⟨hcode, hstarted, hworld⟩ :=
      @updateSelected_of_bad host line w hbad (line.updateIfStale.getD default)
    refine ⟨fun exc hexc => ?_, ?_, fun _ => ?_⟩
    · rw [hended, hcode] at hexc
      cases hexc
    · rw [hended]
      exact iff_of_true hcode (Or.inr hbad)
    · rw [hended]
      exact ⟨hstarted, hworld⟩
  · obtain ⟨hcode, hother⟩ :=
      @updateSelected_of_good host line w hbad (line.updateIfStale.getD default)
    refine ⟨?_, ?_, fun h => ?_⟩
    · rw [hended]
      exact hother
    · rw [hended]
      exact iff_of_false hcode (not_or.mpr ⟨hpositive, hbad⟩)
    · rw [hended] at h
      exact absurd h hcode

/-- Usage errors end as they should, for all options, domains and features, if and only if the limit is
not negative and, for bad names, the default limit can be read and the logging level is known. -/
theorem usageChecked_iff (host : UpdateHost) (line : CommandLine) (w : World) :
    host.UsageChecked line w ↔ ¬ host.NegativeLimit line ∧
      (host.BadTargets line → (∃ limit, defaultUpdateIfStale host.limitFeature = .ok limit) ∧
        line.args.log ∈ levelNames) := by
  cases hdefault : defaultUpdateIfStale host.limitFeature with
  | error exc =>
      have hother : (MainError.parsing exc).isArgumentError = false := by
        cases exc with
        | argumentError message => exact absurd hdefault (defaultUpdateIfStale_ne_argumentError _ message)
        | readError exc => rfl
        | valueError text => rfl
      rw [usageChecked_of_raised (congrArg Prod.fst (vmUpdate_of_unreadable hdefault)) hother]
      simp
  | ok default =>
      have hnegative : host.NegativeLimit line ↔ line.updateIfStale.getD default < 0 := by
        rw [NegativeLimit, hdefault]
        cases line.updateIfStale with
        | none => simp
        | some limit => simp
      have hread : ∃ limit, (Except.ok default : Except ParseError Int) = .ok limit := ⟨default, rfl⟩
      rw [and_iff_right hread]
      by_cases hlimit : line.updateIfStale.getD default < 0
      · refine iff_of_false (fun h => ?_) fun h => h.1 (hnegative.mpr hlimit)
        have hhandled := h.handled _ (vmUpdate_of_negative hdefault hlimit)
        cases hhandled
      · have hpositive := hnegative.not.mpr hlimit
        rw [and_iff_right hpositive]
        by_cases hlevel : line.args.log ∈ levelNames
        · exact iff_of_true (usageChecked_of_limit hdefault hlimit hpositive hlevel) fun _ => hlevel
        · -- the level ends the program before the names are checked
          have hended : (host.vmUpdate line w).1 = .error (.unknownLevel line.args.log) := by
            rw [vmUpdate_of_limit hdefault hlimit, if_neg hlevel]
          rw [usageChecked_of_raised hended rfl, and_iff_right hpositive]
          exact ⟨fun hgood hbad => absurd hbad hgood, fun h hbad => hlevel (h hbad)⟩

/-- A system with one template. -/
def templateHost : UpdateHost := ⟨templateApp, skippingFeatures, lateClock, FailingTarget.environment⟩

/-- A negative limit leaves `main` as an exception. -/
theorem not_usageChecked_negative :
    ¬ templateHost.UsageChecked { updateIfStale := some (-1) } { running := fun _ => false } ∧
      (templateHost.vmUpdate { updateIfStale := some (-1) } { running := fun _ => false }).1
        = .error (.parsing (.argumentError "Wrong value for --update-if-stale")) := by
  have hraises : (templateHost.vmUpdate { updateIfStale := some (-1) } { running := fun _ => false }).1
      = .error (.parsing (.argumentError "Wrong value for --update-if-stale")) := by rfl
  refine ⟨fun h => ?_, hraises⟩
  have hhandled := h.handled _ hraises
  cases hhandled

end UpdateHost

end QubesAdminLinux
