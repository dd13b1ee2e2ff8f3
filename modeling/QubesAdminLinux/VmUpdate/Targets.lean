import Mathlib.Data.List.Dedup
import QubesAdminLinux.Lib.StateExcept
import QubesAdminLinux.Lib.Text
import QubesAdminLinux.VmUpdate.Domain

/-! # Selecting the qubes to update

`get_targets` first chooses qubes by their class and their name, and then those of them that should be
updated.  What it knows about a qube beyond its class are its features, each of which is read from
`qubesd`, and may be refused.

* **`Features`** — what `qubesd` answers; **`ReadError`** — how a read fails.
* **`preselectTargets`** — the targeting; **`selectTargets`** — the selection.
* **`getTargets`** — both of them, with the lines they print.
* **`getTargets_eq_ok`** — when it returns, and which qubes. -/

namespace QubesAdminLinux

/-- A domain of the system, as far as it can be seen without its features. -/
structure SystemDomain extends Qube where
  /-- `getattr(vm, "updateable", False)`. -/
  updateable : Bool
  /-- `is_running()`. -/
  running : Bool
  deriving DecidableEq

/-- The domains of the system; no name is given twice. -/
structure QubesApp where
  /-- `app.domains`. -/
  domains : List SystemDomain
  /-- Names identify domains. -/
  nodup : (domains.map fun vm => vm.name).Nodup

/-- The options of targeting and selecting. -/
structure TargetingArgs where
  /-- Target all updatable qubes. -/
  all : Bool := false
  /-- Target the templates. -/
  templates : Bool := false
  /-- Target the standalone qubes. -/
  standalones : Bool := false
  /-- Target the running app qubes. -/
  apps : Bool := false
  /-- The names of qubes to target; empty if there are none. -/
  targets : String := ""
  /-- The names of qubes to skip. -/
  skip : String := ""
  /-- Attempt to update all targets. -/
  forceUpdate : Bool := false
  /-- Update the targets with known updates. -/
  updateIfAvailable : Bool := false
  /-- Update the targets not checked for so many days. -/
  updateIfStale : Int := 7
  /-- Print nothing. -/
  quiet : Bool := false

/-- How a read of features fails. -/
inductive ReadError
  /-- `QubesDaemonCommunicationError`. -/
  | communication (text : String)
  /-- Its subclass `QubesDaemonAccessError`. -/
  | access (text : String)
  deriving DecidableEq, Repr

/-- The features of the qubes, by their names. -/
structure Features where
  /-- `features.get`, without a default. -/
  get : String → String → Except ReadError (Option String)
  /-- `features.keys()`. -/
  keys : String → Except ReadError (List String)
  /-- `features.check_with_template`, without a default. -/
  checkWithTemplate : String → String → Except ReadError (Option String)

/-- The clock of dom0. -/
structure Clock where
  /-- The start of the epoch as a local time. -/
  epoch : String
  /-- The days from a date until now; raises if the text is not a date that now can be compared with. -/
  daysSince : String → Except String Int

/-- The exceptions of `get_targets`. -/
inductive TargetsError
  /-- `ArgumentError`. -/
  | argumentError (message : String)
  /-- A read of features fails. -/
  | readError (exc : ReadError)
  /-- A date cannot be compared with now. -/
  | dateError (text : String)
  deriving DecidableEq, Repr

/-! ## Targeting -/

section Targeting

variable (app : QubesApp) (features : Features) (clock : Clock) (args : TargetingArgs)

/-- The qubes targeted by their class. -/
def classTargets : List SystemDomain :=
  let updatable := app.domains.filter fun vm => vm.updateable
  let defaultTargeting := !args.templates && !args.standalones && !args.apps && args.targets = ""
  if args.all || defaultTargeting then
    updatable.filter fun vm => vm.klass ∉ [.appVM, .dispVM] ∨ vm.running = true
  else
    let targets := if args.templates then updatable.filter fun vm => vm.klass = .templateVM else []
    let targets :=
      if args.standalones then targets ∪ updatable.filter fun vm => vm.klass = .standaloneVM
      else targets
    -- app qubes are taken from all domains
    if args.apps then
      targets ∪ app.domains.filter fun vm => vm.klass = .appVM ∧ vm.running = true
    else targets

/-- The names given by `--targets`. -/
def targetNames : List String := splitOnChar ',' args.targets

/-- The domains with these names. -/
def namedDomains : List SystemDomain := app.domains.filter fun vm => vm.name ∈ targetNames args

/-- The message about names that are not known; a set lists them in an arbitrary order. -/
def unknownNames : String :=
  let unknowns := (targetNames args).dedup.filter fun name =>
    name ∉ (namedDomains app args).map fun vm => vm.name
  if unknowns.length ≠ 1 then "Unknown qube names: " ++ ", ".intercalate unknowns
  else "Unknown qube name: " ++ String.join unknowns

/-- The qubes targeted by their names, if there are any; a name that is given twice is an error, too. -/
def explicitTargets : Except TargetsError (List SystemDomain) :=
  if args.targets = "" then .ok []
  else if (targetNames args).length ≠ (namedDomains app args).length then
    .error (.argumentError (unknownNames app args))
  else .ok (namedDomains app args)

/-- The names given by `--skip`. -/
def toSkip : List String := splitOnChar ',' args.skip

/-- `bool(value)` of a feature that is read with a false default. -/
def isSet : Option String → Bool
  | some value => value ≠ ""
  | none => false

/-- `not bool(vm.features.get("skip-update", False))`. -/
def notSkipping (vm : SystemDomain) : Except TargetsError Bool :=
  match features.get vm.name "skip-update" with
  | .ok value => .ok (!isSet value)
  | .error exc => .error (.readError exc)

/-- `preselect_targets`. -/
def preselectTargets : Except TargetsError (List SystemDomain) := do
  let explicit ← explicitTargets app args
  let targets := classTargets app args ∪ explicit
  let targets := targets.filter fun vm => vm.name ∉ toSkip args
  -- `--targets` overrides the feature
  if args.targets = "" then filterExcept (notSkipping features) targets else pure targets

/-! ## Selecting -/

/-- A feature that counts as not set if it cannot be read. -/
def readFlag (vm : SystemDomain) (key : String) : Bool :=
  match features.get vm.name key with
  | .ok value => isSet value
  | .error _ => false

/-- The date of the last check for updates, if the qube can make one. -/
def lastUpdate (vm : SystemDomain) : Except ReadError (Option String) := do
  let keys ← features.keys vm.name
  if "qrexec" ∉ keys then pure none
  else
    let os ← features.get vm.name "os"
    if os.getD "" ≠ "Linux" then pure none
    else
      let text ← features.checkWithTemplate vm.name "last-updates-check"
      pure (some (text.getD clock.epoch))

/-- `is_stale`. -/
def isStale (vm : SystemDomain) (expirationPeriod : Int) : Except TargetsError Bool :=
  match lastUpdate features clock vm with
  -- a qube that cannot be read is not stale
  | .error _ => .ok false
  | .ok none => .ok false
  | .ok (some text) =>
      match clock.daysSince text with
      | .ok days => .ok (decide (expirationPeriod < days))
      | .error text => .error (.dateError text)

/-- What `select_targets` does with a target. -/
inductive Verdict
  /-- It is selected. -/
  | selected
  /-- It is skipped with a message. -/
  | skipped (line : String)
  deriving DecidableEq, Repr

/-- The body of the loop of `select_targets`. -/
def examine (vm : SystemDomain) : Except TargetsError Verdict :=
  if readFlag features vm "skip-update" || readFlag features vm "prohibit-start" then
    .ok (.skipped s!"Skipped {vm.name}. Marked to skip updates or start prohibited")
  else if readFlag features vm "updates-available" then .ok .selected
  else if args.updateIfAvailable then
    .ok (.skipped
      s!"Skipped {vm.name}. No updates available or not recently checked for updates.")
  else
    match isStale features clock vm args.updateIfStale with
    | .error exc => .error exc
    | .ok true => .ok .selected
    | .ok false =>
        .ok (.skipped s!"Skipped {vm.name}. No updates available or last check still with")

/-- The loop of `select_targets`: the lines it prints, and the targets it selects. -/
def selectLoop : List SystemDomain → List String × Except TargetsError (List SystemDomain)
  | [] => ([], .ok [])
  | vm :: rest =>
      match examine features clock args vm with
      | .error exc => ([], .error exc)
      | .ok .selected =>
          let later := selectLoop rest
          (later.1, later.2.map (vm :: ·))
      | .ok (.skipped line) =>
          let later := selectLoop rest
          ((if args.quiet then [] else [line]) ++ later.1, later.2)

/-- `select_targets`. -/
def selectTargets (targets : List SystemDomain) :
    List String × Except TargetsError (List SystemDomain) :=
  if args.forceUpdate then ([], .ok targets) else selectLoop features clock args targets

/-- `get_targets`. -/
def getTargets : List String × Except TargetsError (List SystemDomain) :=
  match preselectTargets app features args with
  | .error exc => ([], .error exc)
  | .ok targets => selectTargets features clock args targets

/-! ## When the selection returns -/

/-- The qubes that are targeted and not skipped. -/
def candidates : List SystemDomain :=
  (classTargets app args ∪ if args.targets ≠ "" then namedDomains app args else []).filter fun vm =>
    vm.name ∉ toSkip args

/-- The names given by `--targets` are accepted. -/
def AcceptedNames : Prop :=
  args.targets ≠ "" → (targetNames args).length = (namedDomains app args).length

/-- The date of the last check for updates is needed and cannot be compared with now. -/
structure Undated (vm : SystemDomain) : Prop where
  /-- The qube is not skipped for its features. -/
  allowed : readFlag features vm "skip-update" = false ∧ readFlag features vm "prohibit-start" = false
  /-- No updates are known, and this does not decide. -/
  undecided : readFlag features vm "updates-available" = false ∧ args.updateIfAvailable = false
  /-- The date. -/
  date : ∃ text exc, lastUpdate features clock vm = .ok (some text) ∧ clock.daysSince text = .error exc

/-- Whether a candidate is returned. -/
def selects (vm : SystemDomain) : Bool :=
  if args.forceUpdate then args.targets ≠ "" ∨ readFlag features vm "skip-update" = false
  else examine features clock args vm = .ok .selected

variable {app features clock args}

/-- The qubes targeted by their class are domains. -/
theorem classTargets_subset : classTargets app args ⊆ app.domains := by
  have hupdatable : ∀ p : SystemDomain → Bool,
      (app.domains.filter fun vm => vm.updateable).filter p ⊆ app.domains := fun p =>
    List.Subset.trans List.filter_sublist.subset List.filter_sublist.subset
  -- the classes are added one after the other
  have hadd : ∀ {targets more : List SystemDomain} (b : Bool), targets ⊆ app.domains →
      more ⊆ app.domains → (if b then targets ∪ more else targets) ⊆ app.domains := by
    intro targets more b htargets hmore
    cases b with
    | false => exact htargets
    | true =>
        intro vm hmem
        exact (List.mem_union_iff.mp hmem).elim (fun h => htargets h) fun h => hmore h
  have htemplates : ∀ b : Bool, (if b then (app.domains.filter fun vm => vm.updateable).filter
      fun vm => vm.klass = .templateVM else []) ⊆ app.domains := by
    intro b
    cases b with
    | false => exact List.nil_subset _
    | true => exact hupdatable _
  rw [classTargets]
  split
  · exact hupdatable _
  · exact hadd _ (hadd _ (htemplates _) (hupdatable _)) List.filter_sublist.subset

/-- Candidates are domains. -/
theorem mem_domains_of_mem_candidates {vm : SystemDomain} (h : vm ∈ candidates app args) :
    vm ∈ app.domains := by
  rw [candidates, List.mem_filter, List.mem_union_iff] at h
  rcases h.1 with hclass | hnamed
  · exact classTargets_subset hclass
  · split at hnamed
    · exact List.mem_of_mem_filter hnamed
    · cases hnamed

/-- Accepted names are targeted. -/
theorem explicitTargets_eq_ok {targets : List SystemDomain} :
    explicitTargets app args = .ok targets ↔ AcceptedNames app args ∧
      targets = if args.targets ≠ "" then namedDomains app args else [] := by
  rw [explicitTargets, AcceptedNames]
  by_cases hnames : args.targets = ""
  · simp [hnames, eq_comm]
  · rw [if_neg hnames, if_pos hnames]
    split
    · rename_i hne
      exact iff_of_false nofun fun h => hne (h.1 hnames)
    · rename_i heq
      rw [and_iff_right fun _ => not_not.mp heq, Except.ok.injEq, eq_comm]

/-- Reading the feature of a candidate. -/
theorem notSkipping_returns_iff {vm : SystemDomain} :
    (∃ passed, notSkipping features vm = .ok passed) ↔
      ∃ value, features.get vm.name "skip-update" = .ok value := by
  rw [notSkipping]
  cases features.get vm.name "skip-update" with
  | error exc => simp
  | ok value => simp

/-- The targeting returns if the names are accepted and, without names, the feature of each candidate can
be read. -/
theorem preselectTargets_eq_ok {targets : List SystemDomain} :
    preselectTargets app features args = .ok targets ↔
      AcceptedNames app args ∧
      (args.targets = "" → ∀ vm ∈ candidates app args, ∃ value,
        features.get vm.name "skip-update" = .ok value) ∧
      targets = (candidates app args).filter fun vm =>
        args.targets ≠ "" ∨ readFlag features vm "skip-update" = false := by
  have hexplicit : preselectTargets app features args = .ok targets ↔ AcceptedNames app args ∧
      (if args.targets = "" then filterExcept (notSkipping features) (candidates app args)
        else pure (candidates app args)) = .ok targets := by
    rw [preselectTargets, bind_eq_ok]
    simp only [explicitTargets_eq_ok, candidates]
    constructor
    · rintro ⟨explicit, ⟨hnames, rfl⟩, htargets⟩
      exact ⟨hnames, htargets⟩
    · rintro ⟨hnames, htargets⟩
      exact ⟨_, ⟨hnames, rfl⟩, htargets⟩
  rw [hexplicit]
  apply and_congr_right
  intro _
  by_cases hnames : args.targets = ""
  · -- without names, each candidate is asked for the feature
    rw [if_pos hnames, filterExcept_eq_ok]
    simp only [notSkipping_returns_iff, hnames, true_imp_iff, ne_eq, not_true_eq_false, false_or]
    apply and_congr_right
    intro hall
    have hfilter : ((candidates app args).filter fun vm => passes (notSkipping features vm))
        = (candidates app args).filter fun vm => readFlag features vm "skip-update" = false := by
      apply List.filter_congr
      intro vm hvm
      obtain ⟨value, hvalue⟩ := hall vm hvm
      rw [notSkipping, readFlag, hvalue]
      simp [passes]
    rw [hfilter]
  · -- with names, all of them are kept
    have hfilter : ((candidates app args).filter fun vm =>
        decide (args.targets ≠ "" ∨ readFlag features vm "skip-update" = false))
          = candidates app args := by
      simp [hnames]
    rw [if_neg hnames, hfilter]
    constructor
    · intro htargets
      exact ⟨fun h => absurd h hnames, (Except.ok.inj htargets).symm⟩
    · rintro ⟨-, rfl⟩
      rfl

/-- Whether a verdict selects. -/
def Verdict.isSelected : Verdict → Bool
  | .selected => true
  | .skipped _ => false

/-- What the loop selects. -/
theorem selectLoop_snd (targets : List SystemDomain) :
    (selectLoop features clock args targets).2
      = filterExcept (fun vm => (examine features clock args vm).map Verdict.isSelected) targets := by
  induction targets with
  | nil => rfl
  | cons vm rest ih =>
      rw [selectLoop, filterExcept]
      cases examine features clock args vm with
      | error exc => rfl
      | ok verdict =>
          cases verdict with
          | selected =>
              dsimp only
              rw [ih]
              rfl
          | skipped line =>
              dsimp only
              rw [ih]
              cases filterExcept _ rest <;> rfl

/-- Whether a qube is stale can be told unless its date cannot be compared with now. -/
theorem isStale_returns_iff {vm : SystemDomain} {expirationPeriod : Int} :
    (∃ stale, isStale features clock vm expirationPeriod = .ok stale) ↔
      ¬ ∃ text exc, lastUpdate features clock vm = .ok (some text) ∧
        clock.daysSince text = .error exc := by
  rw [isStale]
  cases lastUpdate features clock vm with
  | error exc => simp
  | ok date =>
      cases date with
      | none => simp
      | some text =>
          cases hdays : clock.daysSince text with
          | error exc => simp [hdays]
          | ok days => simp [hdays]

/-- Examining a qube raises exactly if its date is needed and cannot be compared with now. -/
theorem examine_returns_iff {vm : SystemDomain} :
    (∃ verdict, examine features clock args vm = .ok verdict) ↔ ¬ Undated features clock args vm := by
  rw [examine]
  constructor
  · rintro ⟨verdict, hverdict⟩ ⟨⟨hskip, hstart⟩, ⟨havailable, hif⟩, hdate⟩
    have hstale : ∃ exc, isStale features clock vm args.updateIfStale = .error exc := by
      cases hstale : isStale features clock vm args.updateIfStale with
      | error exc => exact ⟨exc, rfl⟩
      | ok stale => exact absurd hdate (isStale_returns_iff.mp ⟨stale, hstale⟩)
    obtain ⟨exc, hstale⟩ := hstale
    simp [hskip, hstart, havailable, hif, hstale] at hverdict
  · intro hdated
    split
    · exact ⟨_, rfl⟩
    split
    · exact ⟨_, rfl⟩
    split
    · exact ⟨_, rfl⟩
    · rename_i hfeatures havailable hif
      rw [Bool.not_eq_true, Bool.or_eq_false_iff] at hfeatures
      rw [Bool.not_eq_true] at havailable hif
      have hstale : ∃ stale, isStale features clock vm args.updateIfStale = .ok stale :=
        isStale_returns_iff.mpr fun hdate => hdated ⟨hfeatures, ⟨havailable, hif⟩, hdate⟩
      obtain ⟨stale, hstale⟩ := hstale
      rw [hstale]
      cases stale with
      | true => exact ⟨_, rfl⟩
      | false => exact ⟨_, rfl⟩

/-- A qube that has the feature is not selected. -/
theorem examine_of_skip {vm : SystemDomain} (h : readFlag features vm "skip-update" = true) :
    ∃ line, examine features clock args vm = .ok (.skipped line) := by
  rw [examine, h, Bool.true_or, if_pos rfl]
  exact ⟨_, rfl⟩

/-- What is selected without `--force-update`. -/
theorem passes_examine {vm : SystemDomain} :
    passes ((examine features clock args vm).map Verdict.isSelected)
      = decide (examine features clock args vm = .ok .selected) := by
  cases examine features clock args vm with
  | error exc => simp [passes, Except.map]
  | ok verdict => cases verdict <;> simp [passes, Except.map, Verdict.isSelected]

/-- The selection returns if the dates that are needed can be compared with now. -/
theorem selectTargets_eq_ok {selected : List SystemDomain} :
    (selectTargets features clock args ((candidates app args).filter fun vm =>
        args.targets ≠ "" ∨ readFlag features vm "skip-update" = false)).2 = .ok selected ↔
      (args.forceUpdate = false → ∀ vm ∈ candidates app args, ¬ Undated features clock args vm) ∧
      selected = (candidates app args).filter (selects features clock args) := by
  rw [selectTargets]
  by_cases hforce : args.forceUpdate = true
  · -- every candidate that has passed the targeting is selected
    have hfilter : (candidates app args).filter (selects features clock args)
        = (candidates app args).filter fun vm =>
          args.targets ≠ "" ∨ readFlag features vm "skip-update" = false := by
      apply List.filter_congr
      intro vm _
      rw [selects, if_pos hforce]
    rw [if_pos hforce, hfilter, Except.ok.injEq, hforce, eq_comm (a := selected)]
    simp
  · rw [Bool.not_eq_true] at hforce
    rw [if_neg (by rw [hforce]; exact Bool.false_ne_true), selectLoop_snd, filterExcept_eq_ok,
      List.filter_filter, hforce]
    have hreturns : ∀ vm : SystemDomain, (∃ passed,
        (examine features clock args vm).map Verdict.isSelected = .ok passed) ↔
          ¬ Undated features clock args vm := by
      intro vm
      rw [← examine_returns_iff]
      cases examine features clock args vm with
      | error exc => simp [Except.map]
      | ok verdict => simp [Except.map]
    -- a candidate that is filtered out for the feature would be skipped, too
    have hfilter : ((candidates app args).filter fun vm =>
        passes ((examine features clock args vm).map Verdict.isSelected) &&
          decide (args.targets ≠ "" ∨ readFlag features vm "skip-update" = false))
          = (candidates app args).filter (selects features clock args) := by
      apply List.filter_congr
      intro vm _
      rw [passes_examine, selects, hforce, if_neg Bool.false_ne_true]
      by_cases hselected : examine features clock args vm = .ok .selected
      · have hskip : readFlag features vm "skip-update" = false := by
          rw [← Bool.not_eq_true]
          intro hset
          obtain ⟨line, hline⟩ := @examine_of_skip features clock args vm hset
          rw [hselected] at hline
          cases hline
        simp [hselected, hskip]
      · simp [hselected]
    rw [hfilter]
    apply and_congr_left
    intro _
    simp only [hreturns, List.mem_filter, true_imp_iff]
    constructor
    · intro hall vm hvm hundated
      refine hall vm ⟨hvm, ?_⟩ hundated
      simp [hundated.allowed.1]
    · intro hall vm hvm
      exact hall vm hvm.1

/-- `get_targets` returns if the names are accepted, the unguarded reads return and the dates can be
compared with now; it returns the candidates that are selected. -/
theorem getTargets_eq_ok {selected : List SystemDomain} :
    (getTargets app features clock args).2 = .ok selected ↔
      AcceptedNames app args ∧
      (args.targets = "" → ∀ vm ∈ candidates app args, ∃ value,
        features.get vm.name "skip-update" = .ok value) ∧
      (args.forceUpdate = false → ∀ vm ∈ candidates app args, ¬ Undated features clock args vm) ∧
      selected = (candidates app args).filter (selects features clock args) := by
  have hsplit : (getTargets app features clock args).2 = .ok selected ↔
      ∃ targets, preselectTargets app features args = .ok targets ∧
        (selectTargets features clock args targets).2 = .ok selected := by
    rw [getTargets]
    cases preselectTargets app features args with
    | error exc => simp
    | ok targets => simp
  rw [hsplit]
  simp only [preselectTargets_eq_ok]
  constructor
  · rintro ⟨targets, ⟨hnames, hread, rfl⟩, hselect⟩
    exact ⟨hnames, hread, selectTargets_eq_ok.mp hselect⟩
  · rintro ⟨hnames, hread, hselect⟩
    exact ⟨_, ⟨hnames, hread, rfl⟩, selectTargets_eq_ok.mpr hselect⟩

end Targeting

end QubesAdminLinux
