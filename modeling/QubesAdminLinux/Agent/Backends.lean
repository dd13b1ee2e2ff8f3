import Mathlib.Data.List.Dedup
import QubesAdminLinux.Agent.PackageManager

/-! # The package managers

The six package managers that the agent can drive: `apt-get`, `dnf` and `pacman` by their commands,
and APT, DNF and DNF5 by their libraries.  The libraries are parameters: records of the calls that
the agent makes, each of which changes the system and may raise an exception.

* **`parsePackages`** — reading the listing of a package manager, column by column.
* **`AptCli`, `Apt`, `DnfCli`, `Dnf`, `Dnf5`, `PacmanCli`** — the methods of each class, those that it
  inherits left out.
* **`Backend`** — the classes; **`Backend.packageManager`** is an object of a class.

The locks of `apt-get` and the reports of progress are left out. -/

namespace QubesAdminLinux

open StateExcept

variable {σ : Type}

/-- `packages.setdefault(package, []).append(version)`. -/
def addVersion (packages : Packages) (package version : String) : Packages :=
  packages.set package ((packages.get? package).getD [] ++ [version])

/-- `first, ..., last = columns` with another number of columns than the `expected` one. -/
def unpackingError (expected : Nat) (columns : List String) : AgentError :=
  .valueError <|
    if columns.length < expected then
      s!"not enough values to unpack (expected {expected}, got {columns.length})"
    else s!"too many values to unpack (expected {expected})"

/-- The packages listed in a text, given what the columns of a line say: a package and its version,
nothing, or not what is expected. -/
def parsePackages (columns : List String → Except AgentError (Option (String × String)))
    (out : String) : Except AgentError Packages :=
  (splitLines out).foldlM (fun packages line =>
    (columns (words line)).map fun
      | some (package, version) => addVersion packages package version
      | none => packages) Dict.empty

/-- Run the command that lists the packages, and read its output. -/
def listPackages (host : Host σ) (command : List String)
    (columns : List String → Except AgentError (Option (String × String))) : Agent σ Packages := do
  let result ← runCmd host command false
  ofResult (parsePackages columns result.out)

/-- The code of a cleanup. -/
def CleanCode.ofResult (result : ProcessResult) : CleanCode :=
  if result.code ≠ 0 then ⟨Exit.errVmCleanup, Or.inr rfl⟩ else ⟨Exit.ok, Or.inl rfl⟩

/-- Run the command that cleans up. -/
def cleanUp (host : Host σ) (command : List String) : Agent σ CleanCode := do
  let result ← runCmd host command false
  pure (CleanCode.ofResult result)

/-- `PackageManager.upgrade_internal`: just run the upgrade by its command. -/
def upgradeCommand (host : Host σ) (packageManager : String) (action : List String) :
    Agent σ ProcessResult := runCmd host (packageManager :: action) true

/-- `ProcessResult(code, out="", err=str(exc))`. -/
def exceptionResult (code : Int) (text : String) : ProcessResult := { code := code, err := text }

/-! ## apt-get -/

namespace AptCli

/-- `package_manager`. -/
def packageManager : String := "apt-get"

/-- `get_packages`: the columns of `dpkg-query`. -/
def columns : List String → Except AgentError (Option (String × String))
  | [selection, _flag, status, package, version] =>
      .ok (if (selection = "install" ∨ selection = "hold") ∧ status = "installed" then
        some (package, version) else none)
  | cols => .error (unpackingError 5 cols)

/-- `get_packages`. -/
def getPackages (host : Host σ) : Agent σ Packages :=
  listPackages host ["dpkg-query", "--showformat",
    "$\x7bStatus\x7d $\x7bPackage\x7d $\x7bVersion\x7d\n", "-W"] columns

/-- `refresh`. -/
def refresh (host : Host σ) : Agent σ ProcessResult := do
  let result ← runCmd host [packageManager, "-o", "Debug::NoLocking=true", "-q", "update"] true
  -- `apt-get update` reports an error with exit code 100, which is reserved for "no updates"
  let result := if result.code = 100 then { result with code := 1 } else result
  pure result.errorFromMessages

/-- `get_action`. -/
def getAction (removeObsolete : Bool) : List String :=
  ["-y", "-o", "Dpkg::Options::=--force-confdef", "-o", "Dpkg::Options::=--force-confold"]
    ++ if removeObsolete then ["dist-upgrade"] else ["upgrade"]

/-- The kernel package that a line of the dry run says would be removed. -/
def obsoleteKernel (line : String) : Option String :=
  let packageName := String.ofList (line.toList.drop "Remv ".length)
  if startsWith line "Remv" && startsWith packageName "linux-image" then
    (splitOnChar ' ' packageName).head?
  else none

/-- The kernel packages that the dry run says would be removed, each once. -/
def obsoletes (out : String) : List String := ((splitLines out).filterMap obsoleteKernel).dedup

/-- The command of the dry run. -/
def autoremoveCommand : List String := [packageManager, "autoremove", "-s"]

/-- The command that removes packages. -/
def removeCommand (packages : List String) : List String :=
  [packageManager, "remove", "-y"] ++ packages

/-- `result.code = ERR_VM_CLEANUP if result.code != 0 else 0`. -/
def cleanupCode (result : ProcessResult) : ProcessResult :=
  { result with code := if result.code ≠ 0 then Exit.errVmCleanup else Exit.ok }

/-- `remove_obsolete_kernels`, after the dry run: its result if it has failed, else that of the
removal of what it has found. -/
def removeObsoletes (host : Host σ) (dryRun : ProcessResult) : Agent σ ProcessResult :=
  if dryRun.toBool then pure dryRun
  else if obsoletes dryRun.out ≠ [] then
    runCmd host (removeCommand (obsoletes dryRun.out)) false
  else pure {}

/-- `remove_obsolete_kernels`. -/
def removeObsoleteKernels (host : Host σ) : Agent σ ProcessResult := do
  let dryRun ← runCmd host autoremoveCommand false
  let result ← removeObsoletes host dryRun
  pure (cleanupCode result)

/-- `result += self.remove_obsolete_kernels()`, if asked for. -/
def withKernels (host : Host σ) (removeObsolete : Bool) (result : ProcessResult) :
    Agent σ ProcessResult :=
  if removeObsolete then do
    let kernels ← removeObsoleteKernels host
    -- the larger code wins, so a negative one is lost
    mergeResult result kernels
  else pure result

/-- `upgrade_internal`. -/
def upgradeInternal (host : Host σ) (removeObsolete : Bool) : Agent σ ProcessResult := do
  let result ← upgradeCommand host packageManager (getAction removeObsolete)
  withKernels host removeObsolete result

/-- `clean`. -/
def clean (host : Host σ) : Agent σ CleanCode := cleanUp host [packageManager, "clean"]

end AptCli

/-! ## The library of APT -/

/-- The calls of the library of APT. -/
structure AptLibrary (σ : Type) where
  /-- `update` and `open` of the cache; whether it was successful. -/
  update : LibraryCall σ Bool
  /-- `upgrade` of the cache, given `dist_upgrade`. -/
  upgrade : Bool → LibraryCall σ Unit
  /-- Make the directory for partial archives and set the options of `dpkg`. -/
  prepare : LibraryCall σ Unit
  /-- `commit` of the cache. -/
  commit : LibraryCall σ Unit

namespace Apt

/-- The result of a refresh by a library that says whether it was successful. -/
def refreshResult : Except String Bool → ProcessResult
  | .ok true => {}
  | .ok false => { code := Exit.errVmRefresh }
  | .error text => exceptionResult Exit.errVmRefresh text

/-- `refresh`. -/
def refresh (lib : AptLibrary σ) : Agent σ ProcessResult := do
  let outcome ← tryLibrary lib.update
  pure (refreshResult outcome)

/-- The result of library calls that may raise, merged into `result`. -/
def upgradeResult (result : ProcessResult) : Except String Unit → ProcessResult
  | .ok () => result
  | .error text => result.iadd (exceptionResult Exit.errVmUpdate text)

/-- `upgrade_internal`. -/
def upgradeInternal (lib : AptLibrary σ) (host : Host σ) (removeObsolete : Bool) :
    Agent σ ProcessResult := do
  let outcome ← tryLibrary do
    lib.upgrade removeObsolete
    lib.prepare
    lib.commit
  AptCli.withKernels host removeObsolete (upgradeResult {} outcome)

end Apt

/-! ## dnf -/

namespace DnfCli

/-- The columns of `rpm -qa`. -/
def columns : List String → Except AgentError (Option (String × String))
  | [package, version] => .ok (some (package, version))
  | cols => .error (unpackingError 2 cols)

/-- `get_packages`. -/
def getPackages (host : Host σ) : Agent σ Packages :=
  listPackages host ["rpm", "-qa", "--queryformat",
    "%\x7bNAME\x7d %\x7bVERSION\x7d-%\x7bRELEASE\x7d\n"] columns

/-- `expire_cache`: the update proxy uses preconfigured repositories. -/
def expireCache (host : Host σ) (type : AgentType) (packageManager : String) :
    Agent σ ProcessResult :=
  if type ≠ .updateVm then runCmd host [packageManager, "-q", "clean", "expire-cache"] true
  else pure {}

/-- `refresh`. -/
def refresh (host : Host σ) (type : AgentType) (packageManager : String) (hardFail : Bool) :
    Agent σ ProcessResult := do
  let result ← expireCache host type packageManager
  if type ≠ .updateVm then do
    let resultCheck ← runCmd host [packageManager, "-q", "check-update", "--assumeyes",
      "--setopt=skip_if_unavailable=" ++ if hardFail then "0" else "1"] true
    -- 100 is not an error: there are packages to be updated
    let resultCheck := if resultCheck.code ≠ 100 then resultCheck else { resultCheck with code := 0 }
    let result ← mergeResult result resultCheck
    pure result.errorFromMessages
  else pure result

/-- `UPDATE_VM_INSTALLROOT`. -/
def updateVmInstallroot : String := "/var/lib/qubes/dom0-updates"

/-- `get_action`. -/
def getAction (type : AgentType) (packageManager : String) (removeObsolete : Bool) : List String :=
  if type = .updateVm then
    ["-y", "upgrade", "--noplugins", "--best", "--allowerasing", "--downloadonly", "--installroot",
      updateVmInstallroot, "--setopt=cachedir=" ++ updateVmInstallroot ++ "/var/cache/dnf",
      "--config=" ++ updateVmInstallroot ++ "/etc/dnf/dnf.conf",
      "--setopt=reposdir=" ++ updateVmInstallroot ++ "/etc/yum.repos.d",
      "--exclude=qubes-template-*", "-y"]
  else if removeObsolete then ["-y", "--setopt=obsoletes=1", "upgrade"]
  else ["-y", "--setopt=obsoletes=0", if packageManager = "dnf" then "upgrade" else "update"]

/-- `clean`. -/
def clean (host : Host σ) (packageManager : String) : Agent σ CleanCode :=
  cleanUp host [packageManager, "clean", "packages"]

end DnfCli

/-- The script that notifies dom0 about installed applications. -/
def postInstall (host : Host σ) (type : AgentType) : LibraryCall σ Unit :=
  if type = .vm then do
    let _ ← host.communicate ["/etc/qubes-rpc/qubes.PostInstall"]
  else pure ()

/-! ## The library of DNF -/

/-- What DNF says about the signature of a package. -/
inductive SignatureCheck
  /-- The signature is good, or none is needed. -/
  | ok
  /-- The key is missing. -/
  | keyMissing
  /-- The signature is bad. -/
  | fatal
  deriving DecidableEq, Repr

/-- The number DNF returns. -/
def SignatureCheck.code : SignatureCheck → Int
  | .ok => 0
  | .keyMissing => 1
  | .fatal => 2

/-- The calls of the library of DNF. -/
structure DnfLibrary (σ : Type) where
  /-- Set an option of the configuration. -/
  setConf : String → Bool → σ → σ
  /-- Load the enabled repositories and `update_cache`. -/
  updateCache : LibraryCall σ Bool
  /-- `fill_sack`, `upgrade_all` and the setting of the command line. -/
  upgradeAll : LibraryCall σ Unit
  /-- `resolve`, given `allow_erasing`; the install set of the transaction, unless this is empty. -/
  resolve : Bool → LibraryCall σ (Option (List String))
  /-- `download_packages`. -/
  downloadPackages : List String → LibraryCall σ Unit
  /-- `package_signature_check`. -/
  packageSignatureCheck : String → LibraryCall σ (SignatureCheck × String)
  /-- `package_import_key`. -/
  packageImportKey : String → LibraryCall σ Unit
  /-- `do_transaction`. -/
  doTransaction : LibraryCall σ Unit
  /-- `close`. -/
  close : σ → σ

/-- A change of the system that cannot fail. -/
def changeSystem (f : σ → σ) : Agent σ Unit := modify fun s => s.withSystem (f s.system)

/-- A change of the system always returns, and leaves the rest of the state. -/
@[simp] theorem exec_changeSystem (f : σ → σ) (s : AgentState σ) :
    exec (changeSystem f) s = (.ok (), s.withSystem (f s.system)) := rfl

namespace Dnf

/-- `refresh`. -/
def refresh (lib : DnfLibrary σ) : Agent σ ProcessResult := do
  changeSystem (lib.setConf "skip_if_unavailable" true)
  let outcome ← tryLibrary lib.updateCache
  pure (Apt.refreshResult outcome)

/-- The result for a package whose signature has been checked. -/
def checked (check : SignatureCheck × String) : ProcessResult :=
  if check.1.code ≠ Exit.ok then { code := check.1.code, err := check.2 } else { out := check.2 }

/-- `sign_check`, for one package: a missing key is imported and the check made again. -/
def checkPackage (lib : DnfLibrary σ) (package : String) : LibraryCall σ ProcessResult := do
  let check ← lib.packageSignatureCheck package
  if check.1.code ≠ Exit.ok then do
    let imported : Except String Unit ← attempt id (fun s _ => s) (lib.packageImportKey package)
    match imported with
    -- the key could not be imported: the package keeps its first verdict
    | .error text => pure (exceptionResult check.1.code text)
    | .ok () => do
        let check ← lib.packageSignatureCheck package
        pure (checked check)
  else pure (checked check)

/-- `sign_check`, with the result so far. -/
def signCheck (lib : DnfLibrary σ) : List String → ProcessResult → LibraryCall σ ProcessResult
  | [], result => pure result
  | package :: packages, result => do
      let next ← checkPackage lib package
      signCheck lib packages (result.iadd next)

/-- `upgrade_internal`: the transaction is run. -/
def commit (lib : DnfLibrary σ) (host : Host σ) (type : AgentType) (result : ProcessResult) :
    Agent σ ProcessResult := do
  printTexts ⟨["Updating packages."], []⟩
  let outcome ← tryLibrary do
    lib.doTransaction
    postInstall host type
  -- printed after the transaction and the script, or not at all
  if outcome.isOk then printTexts ⟨["Updated"], []⟩
  pure (Apt.upgradeResult result outcome)

/-- `upgrade_internal`: the packages are downloaded and checked. -/
def install (lib : DnfLibrary σ) (host : Host σ) (type : AgentType) (installSet : List String) :
    Agent σ ProcessResult := do
  let outcome ← tryLibrary do
    lib.downloadPackages installSet
    signCheck lib installSet {}
  match outcome with
  -- downloading or checking has raised
  | .error text => pure (exceptionResult Exit.errVmUpdate text)
  | .ok result =>
      -- the update proxy only downloads
      if result.code = Exit.ok ∧ type ≠ .updateVm then commit lib host type result
      else pure result

/-- `upgrade_internal`: the transaction is resolved. -/
def transaction (lib : DnfLibrary σ) (host : Host σ) (type : AgentType) :
    Agent σ ProcessResult := do
  let outcome ← tryLibrary do
    lib.upgradeAll
    lib.resolve (type = .updateVm)
  match outcome with
  | .error text => pure (exceptionResult Exit.errVmUpdate text)
  -- the transaction is empty
  | .ok none => pure { code := Exit.okNoUpdates }
  | .ok (some installSet) => install lib host type installSet

/-- `upgrade_internal`. -/
def upgradeInternal (lib : DnfLibrary σ) (host : Host σ) (type : AgentType)
    (removeObsolete : Bool) : Agent σ ProcessResult := do
  changeSystem (lib.setConf "obsolete" removeObsolete)
  let result ← transaction lib host type
  changeSystem lib.close
  pure result

end Dnf

/-! ## The library of DNF5 -/

/-- A resolved transaction of DNF5. -/
structure Transaction where
  /-- Its packages. -/
  packages : List String
  /-- What the resolver has logged. -/
  resolveLogs : List String

/-- The calls of the library of DNF5. -/
structure Dnf5Library (σ : Type) where
  /-- Set an option of the configuration. -/
  setConf : String → Bool → σ → σ
  /-- Create the repositories of the system configuration and load them. -/
  loadRepos : LibraryCall σ Unit
  /-- `resolve` of the goal to upgrade everything, given `allow_erasing`. -/
  resolve : Bool → LibraryCall σ Transaction
  /-- `download` of the transaction. -/
  download : Transaction → LibraryCall σ Unit
  /-- `check_gpg_signatures` of the transaction: the problems, if there are any. -/
  checkGpgSignatures : Transaction → LibraryCall σ (Option String)
  /-- `run` of the transaction: the text of its result, unless it was a success. -/
  run : Transaction → LibraryCall σ (Option String)

namespace Dnf5

/-- `refresh`. -/
def refresh (lib : Dnf5Library σ) (host : Host σ) (type : AgentType) (packageManager : String)
    (hardFail : Bool) : Agent σ ProcessResult := do
  changeSystem (lib.setConf "skip_if_unavailable" !hardFail)
  let outcome : Except AgentError ProcessResult ←
    attempt id (fun s _ => s) (DnfCli.expireCache host type packageManager)
  match outcome with
  | .ok result => mergeResult {} result
  | .error exc => pure (exceptionResult Exit.errVmRefresh exc.str)

/-- `raise TransactionError(text)`, if there is a text. -/
def raiseProblem : Option String → LibraryCall σ Unit
  | some text => throw text
  | none => pure ()

/-- `upgrade_internal`: the part for a transaction that is not empty. -/
def runTransaction (lib : Dnf5Library σ) (host : Host σ) (type : AgentType)
    (transaction : Transaction) : LibraryCall σ Unit := do
  lib.download transaction
  let problems ← lib.checkGpgSignatures transaction
  raiseProblem (problems.map fun text => "GPG signatures check failed: " ++ text)
  -- the update proxy only downloads
  if type ≠ .updateVm then do
    let problem ← lib.run transaction
    raiseProblem problem
    postInstall host type

/-- `upgrade_internal`. -/
def upgradeInternal (lib : Dnf5Library σ) (host : Host σ) (type : AgentType)
    (removeObsolete : Bool) : Agent σ ProcessResult := do
  changeSystem (lib.setConf "obsoletes" removeObsolete)
  let outcome ← tryLibrary do
    lib.loadRepos
    lib.resolve (type = .updateVm)
  match outcome with
  | .error text => pure (exceptionResult Exit.errVmUpdate text)
  | .ok transaction =>
      if transaction.packages = [] then
        pure { code := Exit.okNoUpdates, err := "\n".intercalate transaction.resolveLogs }
      else do
        let outcome ← tryLibrary (runTransaction lib host type transaction)
        pure (Apt.upgradeResult {} outcome)

end Dnf5

/-! ## pacman -/

namespace PacmanCli

/-- `package_manager`. -/
def packageManager : String := "pacman"

/-- `get_packages`. -/
def getPackages (host : Host σ) : Agent σ Packages :=
  listPackages host [packageManager, "-Q"] DnfCli.columns

/-- `refresh`: nothing, because the upgrade takes care of it. -/
def refresh (host : Host σ) : Agent σ ProcessResult := runCmd host ["true"] true

/-- `get_action`. -/
def getAction : List String := ["--noconfirm", "-Syu"]

/-- `clean`. -/
def clean (host : Host σ) : Agent σ CleanCode := cleanUp host [packageManager, "--noconfirm", "-Sc"]

end PacmanCli

/-! ## The classes -/

/-- The classes of package managers; those of the `dnf` family know whether they call `dnf` or
`yum`. -/
inductive Backend (σ : Type)
  | aptCli
  | apt (lib : AptLibrary σ)
  | dnfCli (packageManager : String)
  | dnf (packageManager : String) (lib : DnfLibrary σ)
  | dnf5 (packageManager : String) (lib : Dnf5Library σ)
  | pacmanCli

/-- The methods that the classes for `dnf` share. -/
def dnfPackageManager (host : Host σ) (type : AgentType) (packageManager : String) :
    PackageManager σ where
  type := type
  progressReporting := false
  getPackages := DnfCli.getPackages host
  installRequirements :=
    installRequirements host packageManager (DnfCli.getAction type packageManager false)
  refresh := DnfCli.refresh host type packageManager
  upgradeInternal := fun removeObsolete =>
    upgradeCommand host packageManager (DnfCli.getAction type packageManager removeObsolete)
  clean := DnfCli.clean host packageManager

/-- The methods that the classes for APT share. -/
def aptPackageManager (host : Host σ) (type : AgentType) : PackageManager σ where
  type := type
  progressReporting := false
  getPackages := AptCli.getPackages host
  installRequirements := installRequirements host AptCli.packageManager (AptCli.getAction false)
  refresh := fun _ => AptCli.refresh host
  upgradeInternal := AptCli.upgradeInternal host
  clean := AptCli.clean host

/-- An object of a class. -/
def Backend.packageManager (host : Host σ) (type : AgentType) : Backend σ → PackageManager σ
  | .aptCli => aptPackageManager host type
  | .apt lib =>
      { aptPackageManager host type with
        progressReporting := true
        refresh := fun _ => Apt.refresh lib
        upgradeInternal := Apt.upgradeInternal lib host }
  | .dnfCli packageManager => dnfPackageManager host type packageManager
  | .dnf packageManager lib =>
      { dnfPackageManager host type packageManager with
        progressReporting := true
        refresh := fun _ => Dnf.refresh lib
        upgradeInternal := Dnf.upgradeInternal lib host type }
  | .dnf5 packageManager lib =>
      { dnfPackageManager host type packageManager with
        progressReporting := true
        refresh := Dnf5.refresh lib host type packageManager
        upgradeInternal := Dnf5.upgradeInternal lib host type }
  | .pacmanCli =>
      { type := type
        progressReporting := false
        getPackages := PacmanCli.getPackages host
        installRequirements :=
          installRequirements host PacmanCli.packageManager PacmanCli.getAction
        refresh := fun _ => PacmanCli.refresh host
        upgradeInternal := fun _ =>
          upgradeCommand host PacmanCli.packageManager PacmanCli.getAction
        clean := PacmanCli.clean host }

end QubesAdminLinux
