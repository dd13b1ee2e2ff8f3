import Mathlib.Data.List.Sort
import QubesAdminLinux.Agent.ProcessResult
import QubesAdminLinux.Lib.Dict
import QubesAdminLinux.Lib.StateExcept

/-! # Package managers

The agent inside a qube drives a package manager through a fixed sequence of phases: install the
requirements, refresh the package lists, upgrade, compare the installed packages.  What the child
processes and the package libraries do to the qube is a parameter: a `Host` runs commands on a system
of an arbitrary type.

* **`Agent`** — code of the agent, with the qube and the standard streams as its state.
* **`runCmd`** — run a command on the host.
* **`installRequirements`** — install what is missing, upgrade what is outdated.
* **`comparePackages`, `printChanges`** — what has changed between two listings of packages;
  `comparePackages_unchanged_iff` says when nothing has been installed or updated.
* **`PackageManager`** — the methods of a package manager; **`PackageManager.upgrade'`** is
  `_upgrade`, phase by phase, and **`PackageManager.upgrade`** its caller. -/

namespace QubesAdminLinux

open StateExcept

/-- What an agent is started for. -/
inductive AgentType
  /-- Download and install updates in a qube. -/
  | vm
  /-- Install downloaded updates in dom0. -/
  | dom0
  /-- Download updates for dom0. -/
  | updateVm
  deriving DecidableEq, Repr

/-- The installed packages and their versions. -/
abbrev Packages := Dict String (List String)

/-- The exceptions that leave the agent's code. -/
inductive AgentError
  /-- A `RuntimeError`. -/
  | runtimeError (message : String)
  /-- A `NotImplementedError`, which is a `RuntimeError` too. -/
  | notImplementedError (message : String)
  /-- A `ValueError`. -/
  | valueError (message : String)
  /-- A `KeyError`. -/
  | keyError (key : String)
  /-- An `OSError`. -/
  | osError (message : String)
  deriving DecidableEq, Repr

/-- `str` of an exception. -/
def AgentError.str : AgentError → String
  | .runtimeError message => message
  | .notImplementedError message => message
  | .valueError message => message
  | .keyError key => reprText key
  | .osError message => message

/-- The state of an agent that runs on a system of type `σ`. -/
structure AgentState (σ : Type) where
  /-- Everything outside the agent. -/
  system : σ
  /-- What the agent has printed. -/
  console : Console := {}

/-- Code of the agent. -/
abbrev Agent (σ α : Type) := StateExcept (AgentState σ) AgentError α

/-- Code of a library or of the operating system, which raises exceptions with a text. -/
abbrev LibraryCall (σ α : Type) := StateExcept σ String α

variable {σ : Type}

namespace AgentState

/-- The state after something is printed. -/
def print (s : AgentState σ) (texts : Console) : AgentState σ :=
  { s with console := s.console.append texts }

/-- The state after something has happened to the system. -/
def withSystem (system : σ) (s : AgentState σ) : AgentState σ := { s with system := system }

end AgentState

/-- Print texts. -/
def printTexts (texts : Console) : Agent σ Unit := modify fun s => s.print texts

/-- `result += other`. -/
def mergeResult (result other : ProcessResult) : Agent σ ProcessResult := do
  printTexts (result.iaddPrints other)
  pure (result.iadd other)

/-- Printing always returns. -/
@[simp] theorem exec_printTexts (texts : Console) (s : AgentState σ) :
    exec (printTexts texts) s = (.ok (), s.print texts) := rfl

/-- Merging two results prints what both of them say. -/
@[simp] theorem exec_mergeResult (result other : ProcessResult) (s : AgentState σ) :
    exec (mergeResult result other) s
      = (.ok (result.iadd other), s.print (result.iaddPrints other)) := rfl

/-- Call a library and let its exceptions pass. -/
def callLibrary {α : Type} (raise : String → AgentError) (x : LibraryCall σ α) : Agent σ α :=
  zoom AgentState.system AgentState.withSystem raise x

/-- `try: x except Exception as exc: ...`, with the text of the exception. -/
def tryLibrary {α : Type} (x : LibraryCall σ α) : Agent σ (Except String α) :=
  attempt AgentState.system AgentState.withSystem x

/-! ## Commands -/

/-- What a child process leaves behind. -/
structure ChildOutput where
  /-- The exit code; a process killed by a signal has a negative one. -/
  returncode : Int
  /-- Written to its standard output. -/
  out : Bytes := []
  /-- Written to its standard error output. -/
  err : Bytes := []

/-- Where commands are run. -/
structure Host (σ : Type) where
  /-- Run a command and wait; raises if it cannot be started. -/
  communicate : List String → LibraryCall σ ChildOutput

/-- `run_cmd`: only without `realtime` the output is captured. -/
def runCmd (host : Host σ) (command : List String) (realtime : Bool) : Agent σ ProcessResult := do
  let child ← callLibrary .osError (host.communicate command)
  let captured (text : Bytes) : Option Bytes := if realtime then none else some text
  let result := ProcessResult.fromUntrustedOutErr (captured child.out) (captured child.err)
  pure { result with code := child.returncode, posted := realtime }

/-- The result of a command that could be started: in real time there is no output, and nothing is
left to be printed. -/
theorem runCmd_ok {host : Host σ} {command : List String} {realtime : Bool} {s s' : AgentState σ}
    {result : ProcessResult} (h : exec (runCmd host command realtime) s = (.ok result, s')) :
    ∃ child system, exec (host.communicate command) s.system = (.ok child, system)
      ∧ s' = s.withSystem system
      ∧ result = { code := child.returncode
                   out := sanitizeOutput (if realtime then [] else child.out) false
                   err := sanitizeOutput (if realtime then [] else child.err) false
                   posted := realtime } := by
  unfold runCmd at h
  obtain ⟨child, s₁, hcall, hresult⟩ := exec_bind_ok h
  rw [exec_pure] at hresult
  cases hresult
  rw [callLibrary, exec_zoom] at hcall
  obtain ⟨hok, rfl⟩ := Prod.mk.inj hcall
  refine ⟨child, _, ?_, rfl, ?_⟩
  · -- the call of the host returns, as the command does
    cases hq : exec (host.communicate command) s.system with
    | mk q system =>
        rw [hq] at hok
        cases q with
        | error e => cases hok
        | ok a =>
            cases hok
            rfl
  · cases realtime with
    | false => rfl
    | true => rfl

/-- The exit code of a command is the code of its result. -/
theorem runCmd_code {host : Host σ} {command : List String} {realtime : Bool} {s s' : AgentState σ}
    {result : ProcessResult} (h : exec (runCmd host command realtime) s = (.ok result, s')) :
    ∃ child, exec (host.communicate command) s.system = (.ok child, s'.system)
      ∧ result.code = child.returncode
      ∧ result.out = sanitizeOutput (if realtime then [] else child.out) false := by
  obtain ⟨child, system, hcall, rfl, rfl⟩ := runCmd_ok h
  exact ⟨child, hcall, rfl, rfl⟩

/-- A call of a library that returns changes the system. -/
theorem exec_callLibrary {α : Type} {raise : String → AgentError} {x : LibraryCall σ α}
    {s : AgentState σ} {a : α} {system : σ} (h : exec x s.system = (.ok a, system)) :
    exec (callLibrary raise x) s = (.ok a, s.withSystem system) :=
  exec_zoom_ok AgentState.withSystem raise h

/-- A command that can be started returns its exit code. -/
theorem exec_runCmd {host : Host σ} {command : List String} {s : AgentState σ}
    {child : ChildOutput} {system : σ} (realtime : Bool)
    (h : exec (host.communicate command) s.system = (.ok child, system)) :
    ∃ result, exec (runCmd host command realtime) s = (.ok result, s.withSystem system) ∧
      result.code = child.returncode := by
  unfold runCmd
  rw [exec_bind (exec_callLibrary h)]
  exact ⟨_, rfl, rfl⟩

/-! ## Requirements -/

/-- The required packages that are not installed; the latest version will do. -/
def toInstall (requirements : Dict String String) (currPkg : Packages) : List String :=
  requirements.keys.filter fun pkg => (currPkg.get? pkg).isNone

/-- The required packages of which no installed version is larger than the required one, compared
as texts. -/
def toUpgrade (requirements : Dict String String) (currPkg : Packages) : List String :=
  (requirements.entries.filter fun entry =>
    (currPkg.get? entry.1).any fun versions => versions.all fun ver => ¬ entry.2 < ver).map Prod.fst

/-- Run a command on some packages, if there are any, and merge its result. -/
def runOnPackages (host : Host σ) (command packages : List String) (result : ProcessResult) :
    Agent σ ProcessResult :=
  if packages ≠ [] then do
    let child ← runCmd host (command ++ packages) true
    -- the code of the command is merged as it is, a negative one included
    mergeResult result child
  else pure result

/-- `install_requirements` of a package manager with the given command and upgrade action. -/
def installRequirements (host : Host σ) (packageManager : String) (action : List String)
    (requirements : Option (Dict String String)) (currPkg : Packages) : Agent σ ProcessResult := do
  let requirements := requirements.getD Dict.empty
  let result ← runOnPackages host [packageManager, "-q", "-y", "install"]
    (toInstall requirements currPkg) ProcessResult.realtimeEmpty
  runOnPackages host ([packageManager, "-q", "-y"] ++ action) (toUpgrade requirements currPkg) result

/-! ## Changes -/

/-- The differences between two listings of packages. -/
structure Changes where
  /-- Packages that were not there. -/
  installed : Packages
  /-- Packages with other versions than before: the old and the new versions. -/
  updated : Dict String (List String × List String)
  /-- Packages that are no longer there. -/
  removed : Packages

/-- `compare_packages`. -/
def comparePackages (old new : Packages) : Changes where
  installed := new.filterMapValues fun pkg versions =>
    if (old.get? pkg).isNone then some versions else none
  updated := new.filterMapValues fun pkg versions =>
    (old.get? pkg).bind fun before => if before ≠ versions then some (before, versions) else none
  removed := old.filterMapValues fun pkg versions =>
    if (new.get? pkg).isNone then some versions else none

/-- `changes["installed"] or changes["updated"]`. -/
def Changes.toBool (changes : Changes) : Bool :=
  !changes.installed.isEmpty || !changes.updated.isEmpty

/-- No package of `new` is missing in `old` or has other versions there. -/
def Unchanged (old new : Packages) : Prop :=
  ∀ pkg versions, new.get? pkg = some versions → old.get? pkg = some versions

/-- The same packages are unchanged. -/
theorem Unchanged.refl (pkgs : Packages) : Unchanged pkgs pkgs := fun _ _ h => h

/-- The comparison finds nothing installed or updated exactly when nothing has changed. -/
theorem comparePackages_unchanged_iff (old new : Packages) :
    (comparePackages old new).toBool = false ↔ Unchanged old new := by
  rw [Changes.toBool, Bool.or_eq_false_iff, Bool.not_eq_false', Bool.not_eq_false',
    Dict.isEmpty_iff, Dict.isEmpty_iff]
  simp only [comparePackages, Dict.get?_filterMapValues]
  constructor
  · rintro ⟨hinstalled, hupdated⟩ pkg versions hnew
    have h₁ := hinstalled pkg
    have h₂ := hupdated pkg
    rw [hnew, Option.bind_some] at h₁ h₂
    cases hold : old.get? pkg with
    -- a package that was not there would be an installed one
    | none => simp [hold] at h₁
    | some before =>
        rw [hold, Option.bind_some] at h₂
        -- a package with other versions would be an updated one
        by_cases heq : before = versions
        · rw [heq]
        · rw [if_pos heq] at h₂
          cases h₂
  · intro h
    constructor
    · intro pkg
      cases hnew : new.get? pkg with
      | none => rfl
      | some versions => simp [h pkg versions hnew]
    · intro pkg
      cases hnew : new.get? pkg with
      | none => rfl
      | some versions => simp [h pkg versions hnew]

instance (old new : Packages) : Decidable (Unchanged old new) :=
  decidable_of_iff _ (comparePackages_unchanged_iff old new)

/-- `_print_to_string`: the arguments as `print` writes them. -/
def printToString (args : List String) : String := " ".intercalate args ++ "\n"

/-- One part of the summary: a title, and a line for each package in the order of the names. -/
def printSection {ν : Type} (title : String) (line : String → ν → String) (d : Dict String ν) :
    String :=
  printToString [title] ++
    if d.isEmpty then printToString ["None"]
    else
      -- sorted by the code points of the names
      String.join <| (d.entries.mergeSort fun a b => a.1 ≤ b.1).map fun entry =>
        line entry.1 entry.2

/-- The line for a package that was installed or removed. -/
def versionsLine (pkg : String) (versions : List String) : String :=
  printToString [pkg, reprTexts versions]

/-- The line for a package that was updated. -/
def updatedLine (pkg : String) (versions : List String × List String) : String :=
  printToString [pkg,
    slice 2 2 (reprTexts versions.1) ++ " -> " ++ slice 2 2 (reprTexts versions.2)]

/-- `_print_changes`. -/
def printChanges (changes : Changes) : ProcessResult where
  out := printSection "Installed packages:" versionsLine changes.installed
    ++ printSection "Updated packages:" updatedLine changes.updated
    ++ printSection "Removed packages:" versionsLine changes.removed

/-- Printing the changes is no failure. -/
@[simp] theorem printChanges_code (changes : Changes) : (printChanges changes).code = 0 := rfl

/-! ## The phases of an upgrade -/

/-- The codes that `clean` may return. -/
abbrev CleanCode := { code : Int // code = Exit.ok ∨ code = Exit.errVmCleanup }

/-- The methods of a package manager. -/
structure PackageManager (σ : Type) where
  /-- `type`. -/
  type : AgentType
  /-- `requirements`: packages and the versions they should have. -/
  requirements : Option (Dict String String) := none
  /-- `PROGRESS_REPORTING`. -/
  progressReporting : Bool
  /-- `get_packages`. -/
  getPackages : Agent σ Packages
  /-- `install_requirements`. -/
  installRequirements : Option (Dict String String) → Packages → Agent σ ProcessResult
  /-- `refresh`, given `hard_fail`. -/
  refresh : Bool → Agent σ ProcessResult
  /-- `upgrade_internal`, given `remove_obsolete`. -/
  upgradeInternal : Bool → Agent σ ProcessResult
  /-- `clean`. -/
  clean : Agent σ CleanCode

/-- `if result: result.code = code`. -/
def ProcessResult.markFailure (result : ProcessResult) (code : Int) : ProcessResult :=
  if result.toBool then { result with code := code } else result

/-- `if result.code not in (OK, OK_NO_UPDATES): result.code = code`. -/
def ProcessResult.markUpgradeFailure (result : ProcessResult) (code : Int) : ProcessResult :=
  if result.code ≠ Exit.ok ∧ result.code ≠ Exit.okNoUpdates then { result with code := code }
  else result

namespace PackageManager

variable (self : PackageManager σ)

/-- `_upgrade`: the installation of the requirements. -/
def requirementsPhase (requirements : Option (Dict String String)) (currPkg : Packages)
    (result : ProcessResult) : Agent σ ProcessResult :=
  if (requirements.getD Dict.empty).isEmpty then pure result
  else do
    printTexts ⟨["Install requirements"], []⟩
    let resultInstall ← self.installRequirements requirements currPkg
    mergeResult result (resultInstall.markFailure Exit.errVmPre)

/-- `_upgrade`: the refresh. -/
def refreshPhase (refresh hardFail : Bool) (result : ProcessResult) : Agent σ ProcessResult :=
  if refresh then do
    printTexts ⟨["Refreshing package info"], []⟩
    let resultRefresh ← self.refresh hardFail
    mergeResult result (resultRefresh.markFailure Exit.errVmRefresh)
  else pure result

/-- `_upgrade`: the comparison of the packages. -/
def changesPhase (currPkg : Packages) (result : ProcessResult) : Agent σ ProcessResult := do
  let newPkg ← self.getPackages
  let changes := comparePackages currPkg newPkg
  -- the summary is posted with the result, and its code is always `OK`
  let summary := (printChanges changes).markFailure Exit.errVm
  let result ← mergeResult result summary
  pure (if !result.toBool && !changes.toBool then { result with code := Exit.okNoUpdates }
    else result)

/-- `_upgrade`: the upgrade. -/
def upgradePhase (removeObsolete : Bool) (currPkg : Packages) (result : ProcessResult) :
    Agent σ ProcessResult := do
  let resultUpgrade ← self.upgradeInternal removeObsolete
  let result ← mergeResult result (resultUpgrade.markUpgradeFailure Exit.errVmUpdate)
  -- also `OK_NO_UPDATES` is truthy, and returned without a look at the packages
  if result.toBool then pure result
  -- no package is installed in the update proxy, so changes are not checked
  else if self.type = .updateVm then pure result
  else self.changesPhase currPkg result

/-- `_upgrade`.  Without requirements, or without a refresh, the code does not look at `hard_fail`
in that place; the result has not changed there since it was looked at, or is the empty one. -/
def upgrade' (refresh hardFail removeObsolete : Bool) (requirements : Option (Dict String String)) :
    Agent σ ProcessResult := do
  let currPkg ← self.getPackages
  let result ← self.requirementsPhase requirements currPkg ProcessResult.realtimeEmpty
  if result.toBool && hardFail then pure result
  else do
    let result ← self.refreshPhase refresh hardFail result
    if result.toBool && hardFail then pure result
    else self.upgradePhase removeObsolete currPkg result

/-- `upgrade`. -/
def upgrade (refresh hardFail removeObsolete printStreams : Bool) : Agent σ Int := do
  let result ← self.upgrade' refresh hardFail removeObsolete self.requirements
  if printStreams && !result.posted then
    printTexts ⟨printNonempty result.out, printNonempty result.err⟩
  pure result.code

end PackageManager

end QubesAdminLinux
