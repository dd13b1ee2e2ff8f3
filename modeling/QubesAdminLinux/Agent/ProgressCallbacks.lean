import QubesAdminLinux.Agent.Dnf5Download
import QubesAdminLinux.Agent.DnfDownload

/-! # Callbacks that raise

The methods of the classes `FetchProgress` and `UpgradeProgress` are called by the package libraries
in the middle of their work, and what they raise breaks it.

* **`Apt.FetchProgress`, `Apt.UpgradeProgress`, `Dnf.UpgradeProgress`, `Dnf5.UpgradeProgress`** — the
  classes that are not modelled with the accounting of their downloads.
* **`Apt.fetch_quiet_iff`, …, `Dnf5.upgrade_quiet_iff`** — for each class, the sequences of calls in
  which nothing is raised: those that divide by no total of zero.
* **`CallSequence.quiet_iff_safe`** — the six classes together. -/

namespace QubesAdminLinux

open StateExcept DerivesProgress

/-! ## APT -/

namespace Apt

/-- `FetchProgress`. -/
structure FetchProgress extends Progress where
  /-- `action`. -/
  action : FetchAction
  /-- `fetching_notified`: whether the start has been printed. -/
  fetchingNotified : Bool := false

instance : DerivesProgress FetchProgress where
  progressOf := FetchProgress.toProgress
  setProgress p s := { s with toProgress := p }

/-- A call of a method of `FetchProgress` by the library, with the counts that it has set. -/
inductive FetchCall
  | fail (shortdesc description uri : String)
  | pulse (currentBytes totalBytes totalItems : ℤ)
  | start
  | stop
  deriving DecidableEq

namespace FetchProgress

/-- A new object, initialised by a reporter. -/
def init (weight : ℚ) (action : FetchAction) (start stop : ℚ) : FetchProgress :=
  { toProgress := Progress.init start stop { weight := weight }, action := action }

/-- `action`, as it is written in a text. -/
def actionText : FetchAction → String
  | .refresh => "refresh"
  | .fetch => "fetch"

/-- `fail`. -/
def fail (shortdesc description uri : String) : StateExcept FetchProgress CallbackError Unit :=
  modify fun s =>
    printError [s!"Fail to {actionText s.action} {shortdesc}: {description} from {uri}"] s

/-- `pulse`: the start is printed once. -/
def printStart (totalBytes totalItems : ℤ) (s : FetchProgress) : FetchProgress :=
  if s.action = .fetch ∧ s.fetchingNotified = false then
    { print [s!"Fetching {totalItems} packages [{formatBytes totalBytes}]"] s with
      fetchingNotified := true }
  else s

/-- `pulse`. -/
def pulse (currentBytes totalBytes totalItems : ℤ) :
    StateExcept FetchProgress CallbackError Bool := do
  modify (printStart totalBytes totalItems)
  base (notifyShare currentBytes totalBytes)
  pure true

/-- `start`: a refresh is printed. -/
def printRefreshing (s : FetchProgress) : FetchProgress :=
  if s.action = .refresh then print ["Refreshing available packages."] s else s

/-- `start`. -/
def start : StateExcept FetchProgress CallbackError Unit := do
  modify printRefreshing
  base (notifyPercent 0)

/-- `stop`. -/
def stop : StateExcept FetchProgress CallbackError Unit := do
  modify fun s => print [s.action.capitalize ++ "ed."] s
  base (notifyPercent 100)

/-- The method that is called. -/
def handle : FetchCall → StateExcept FetchProgress CallbackError Unit
  | .fail shortdesc description uri => fail shortdesc description uri
  | .pulse currentBytes totalBytes totalItems => do
      let _ ← pulse currentBytes totalBytes totalItems
  | .start => start
  | .stop => stop

end FetchProgress

/-- No count of a call is negative. -/
def FetchCall.NonNegative : FetchCall → Prop
  | pulse currentBytes totalBytes totalItems => 0 ≤ currentBytes ∧ 0 ≤ totalBytes ∧ 0 ≤ totalItems
  | _ => True

/-- A pulse has a total. -/
def FetchCall.Safe : FetchCall → Prop
  | pulse _ totalBytes _ => totalBytes ≠ 0
  | _ => True

/-- A call keeps the progress initialised, and raises exactly if it is a pulse without a total. -/
theorem FetchProgress.exec_handle {s : FetchProgress} (h : s.toProgress.Ready) (call : FetchCall) :
    (exec (FetchProgress.handle call) s).2.toProgress.Ready
      ∧ ((exec (FetchProgress.handle call) s).1 = .ok () ↔ call.Safe) := by
  cases call with
  | fail shortdesc description uri =>
      rw [handle, fail, exec_modify]
      exact ⟨(Progress.ready_printError _).mpr h, iff_of_true rfl trivial⟩
  | pulse currentBytes totalBytes totalItems =>
      have hprint : (s.printStart totalBytes totalItems).toProgress.Ready := by
        unfold printStart
        split
        · exact (Progress.ready_print _).mpr h
        · exact h
      obtain ⟨r, p', hexec, hready, hok, -⟩ := exec_notifyShare hprint currentBytes totalBytes
      rw [Int.cast_ne_zero] at hok
      rw [handle, pulse, bind_assoc, exec_bind (exec_modify _), bind_assoc]
      cases r with
      | ok _ =>
          rw [exec_bind (exec_base hexec), exec_bind (exec_pure _), exec_pure]
          exact ⟨hready, hok⟩
      | error e =>
          rw [exec_bind_error (exec_base hexec)]
          exact ⟨hready, hok⟩
  | start =>
      have hprint : s.printRefreshing.toProgress.Ready := by
        unfold printRefreshing
        split
        · exact (Progress.ready_print _).mpr h
        · exact h
      obtain ⟨p', hexec, hready, -⟩ := exec_notifyPercent hprint 0
      rw [handle, start, exec_bind (exec_modify _), exec_base hexec]
      exact ⟨hready, iff_of_true rfl trivial⟩
  | stop =>
      obtain ⟨p', hexec, hready, -⟩ := exec_notifyPercent ((Progress.ready_print _).mpr h) 100
      rw [handle, stop, exec_bind (exec_modify _), exec_base hexec]
      exact ⟨hready, iff_of_true rfl trivial⟩

/-- In APT, the sequences of calls of `FetchProgress` in which nothing is raised. -/
theorem fetch_quiet_iff (weight : ℚ) (action : FetchAction) (start stop : ℚ)
    (calls : List FetchCall) :
    Quiet FetchProgress.handle (FetchProgress.init weight action start stop) calls
      ↔ ∀ call ∈ calls, call.Safe :=
  quiet_iff_forall (I := fun s => s.toProgress.Ready)
    (Progress.ready_init _ _ _) fun call _ h => FetchProgress.exec_handle h call

/-- `UpgradeProgress`, which has no state of its own. -/
abbrev UpgradeProgress := Progress

/-- A call of a method of `UpgradeProgress` by the library. -/
inductive UpgradeCall
  | statusChange (pkg : String) (percent : ℚ) (status : String)
  | error (pkg errormsg : String)
  | startUpdate
  | finishUpdate
  deriving DecidableEq

namespace UpgradeProgress

/-- `status_change`. -/
def statusChange (percent : ℚ) : StateExcept UpgradeProgress CallbackError Unit :=
  notifyPercent percent

/-- `error`. -/
def error (pkg errormsg : String) : StateExcept UpgradeProgress CallbackError Unit :=
  modify fun p => p.printError ["Error during installation " ++ pkg ++ ":" ++ errormsg]

/-- `start_update`. -/
def startUpdate : StateExcept UpgradeProgress CallbackError Unit := do
  modify fun p => p.print ["Updating packages."]
  notifyPercent 0

/-- `finish_update`. -/
def finishUpdate : StateExcept UpgradeProgress CallbackError Unit := do
  modify fun p => p.print ["Updated."]
  notifyPercent 100

/-- The method that is called. -/
def handle : UpgradeCall → StateExcept UpgradeProgress CallbackError Unit
  | .statusChange _ percent _ => statusChange percent
  | .error pkg errormsg => error pkg errormsg
  | .startUpdate => startUpdate
  | .finishUpdate => finishUpdate

/-- A call keeps the progress initialised and raises nothing. -/
theorem exec_handle {p : UpgradeProgress} (h : p.Ready) (call : UpgradeCall) :
    ∃ p', exec (handle call) p = (.ok (), p') ∧ p'.Ready := by
  cases call with
  | statusChange pkg percent status =>
      obtain ⟨p', hexec, hready, -⟩ := exec_notifyPercent h percent
      exact ⟨p', hexec, hready⟩
  | error pkg errormsg => exact ⟨_, exec_modify _, (Progress.ready_printError _).mpr h⟩
  | startUpdate =>
      rw [handle, startUpdate, exec_bind (exec_modify _)]
      obtain ⟨p', hexec, hready, -⟩ := exec_notifyPercent ((Progress.ready_print _).mpr h) 0
      exact ⟨p', hexec, hready⟩
  | finishUpdate =>
      rw [handle, finishUpdate, exec_bind (exec_modify _)]
      obtain ⟨p', hexec, hready, -⟩ := exec_notifyPercent ((Progress.ready_print _).mpr h) 100
      exact ⟨p', hexec, hready⟩

end UpgradeProgress

/-- In APT, no call of `UpgradeProgress` raises anything. -/
theorem upgrade_quiet (weight start stop : ℚ) (calls : List UpgradeCall) :
    Quiet UpgradeProgress.handle (Progress.init start stop { weight := weight }) calls := by
  have hstep : ∀ call (p : UpgradeProgress), p.Ready →
      (exec (UpgradeProgress.handle call) p).2.Ready
        ∧ ((exec (UpgradeProgress.handle call) p).1 = .ok () ↔ True) := by
    intro call p h
    obtain ⟨p', hexec, hready⟩ := UpgradeProgress.exec_handle h call
    rw [hexec]
    exact ⟨hready, iff_of_true rfl trivial⟩
  have hinit : (Progress.init start stop { weight := weight }).Ready :=
    Progress.ready_init _ _ _
  exact (quiet_iff_forall hinit hstep).mpr fun _ _ => trivial

end Apt

/-! ## DNF -/

namespace Dnf

/-- The total size of a start. -/
def FetchCall.started? : FetchCall → Option ℤ
  | start _ totalSize _ => some totalSize
  | _ => none

/-- The total size of the last start. -/
def lastSize (calls : List FetchCall) : Option ℤ := (calls.filterMap FetchCall.started?).getLast?

/-- A call as the library makes it: a start before any progress, and no negative count. -/
def Documented (before : List FetchCall) (call : FetchCall) : Prop :=
  call.NonNegative ∧ ∀ payload done, call = .progress payload done → (lastSize before).isSome = true

/-- The last start before a progress has a total. -/
def Safe (before : List FetchCall) : FetchCall → Prop
  | .progress _ _ => lastSize before ≠ some 0
  | _ => True

/-- What decides whether a call raises: the object knows the total size of the last start. -/
structure Started (calls : List FetchCall) (s : FetchProgress) : Prop where
  ready : s.toProgress.Ready
  bytesToFetch : s.bytesToFetch = lastSize calls

/-- One more start gives the last size. -/
theorem lastSize_concat (calls : List FetchCall) (call : FetchCall) :
    lastSize (calls ++ [call]) = call.started?.or (lastSize calls) := by
  rw [lastSize, filterMap_concat]
  cases call.started? with
  | none => rw [Option.toList_none, List.append_nil, Option.none_or, lastSize]
  | some size => rw [Option.toList_some, List.getLast?_concat, Option.some_or]

/-- A call keeps the size of the last start, and raises exactly if it is a progress without it. -/
theorem started_handle {calls : List FetchCall} {s : FetchProgress} (h : Started calls s)
    {call : FetchCall} (hcall : Documented calls call) :
    Started (calls ++ [call]) (exec (FetchProgress.handle call) s).2
      ∧ ((exec (FetchProgress.handle call) s).1 = .ok () ↔ Safe calls call) := by
  cases call with
  | start totalFiles totalSize totalDrpms =>
      obtain ⟨p', hexec, hready, -⟩ := FetchProgress.exec_start h.ready totalFiles totalSize
      rw [FetchProgress.handle, hexec]
      refine ⟨⟨hready, ?_⟩, iff_of_true rfl trivial⟩
      rw [lastSize_concat]
      rfl
  | progress payload done =>
      obtain ⟨r, p', hexec, hready, hok, -⟩ := FetchProgress.exec_progress h.ready payload done
      rw [FetchProgress.handle, hexec]
      refine ⟨⟨hready, ?_⟩, ?_⟩
      · rw [lastSize_concat]
        exact h.bytesToFetch
      · obtain ⟨size, hsize⟩ := Option.isSome_iff_exists.mp (hcall.2 payload done rfl)
        rw [hok, Safe, h.bytesToFetch, hsize]
        simp
  | «end» payload status msg =>
      rw [FetchProgress.handle, FetchProgress.end, exec_modify]
      refine ⟨⟨(Progress.ready_print _).mpr h.ready, ?_⟩, iff_of_true rfl trivial⟩
      rw [lastSize_concat]
      exact h.bytesToFetch
  | message msg =>
      rw [FetchProgress.handle, FetchProgress.message, exec_modify]
      refine ⟨⟨(Progress.ready_print _).mpr h.ready, ?_⟩, iff_of_true rfl trivial⟩
      rw [lastSize_concat]
      exact h.bytesToFetch

/-- In DNF, the sequences of calls of `FetchProgress` in which nothing is raised. -/
theorem fetch_quiet_iff (weight : ℚ) (action : FetchAction) (start stop : ℚ)
    {calls : List FetchCall} (h : EachAfter Documented calls) :
    Quiet FetchProgress.handle (FetchProgress.init weight action start stop) calls
      ↔ EachAfter Safe calls :=
  quiet_iff_eachAfter (I := Started) ⟨Progress.ready_init _ _ _, rfl⟩
    (fun _ _ _ hstarted hcall => started_handle hstarted hcall) h

/-- `UpgradeProgress`, which has no state of its own. -/
abbrev UpgradeProgress := Progress

/-- A call of a method of `UpgradeProgress` by the library. -/
inductive UpgradeCall
  | progress (package : String) (action tiDone tiTotal tsDone tsTotal : ℤ)
  | scriptout (msgs : LibraryMessage)
  | filelog (package action : String)
  | error (message : LibraryMessage)
  deriving DecidableEq

namespace UpgradeProgress

/-- `progress`: only the fetching and the installing of a package are reported. -/
def progress (action tiDone tiTotal tsDone tsTotal : ℤ) :
    StateExcept UpgradeProgress CallbackError Unit :=
  if action ≠ 6 ∧ action ≠ 7 then pure ()
  else if tiTotal = 0 ∨ tsTotal = 0 then throw .zeroDivisionError
  else notifyPercent ((tiDone / tiTotal + tsDone - 1) / tsTotal * 100)

/-- `if msgs`. -/
def nonempty : LibraryMessage → Bool
  | .bytes untrusted => untrusted ≠ []
  | .text message => message ≠ ""

/-- `scriptout`. -/
def scriptout (msgs : LibraryMessage) : StateExcept UpgradeProgress CallbackError Unit :=
  modify fun p => if nonempty msgs then p.print [msgs.decode] else p

/-- `filelog`, given `dnf.transaction.FILE_ACTIONS`. -/
def filelog (fileActions : String → Option String) (package action : String) :
    StateExcept UpgradeProgress CallbackError Unit :=
  match fileActions action with
  | none => throw .keyError
  | some text => modify fun p => p.print [s!"{package}: {text}"]

/-- `error`. -/
def error (message : LibraryMessage) : StateExcept UpgradeProgress CallbackError Unit :=
  modify fun p => p.printError ["Error during installation :" ++ message.decode]

/-- The method that is called. -/
def handle (fileActions : String → Option String) :
    UpgradeCall → StateExcept UpgradeProgress CallbackError Unit
  | .progress _ action tiDone tiTotal tsDone tsTotal => progress action tiDone tiTotal tsDone tsTotal
  | .scriptout msgs => scriptout msgs
  | .filelog package action => filelog fileActions package action
  | .error message => error message

end UpgradeProgress

/-- A call as the library makes it: an action on a file that it knows, and no negative count. -/
def UpgradeCall.Documented (fileActions : String → Option String) : UpgradeCall → Prop
  | progress _ action tiDone tiTotal tsDone tsTotal =>
      0 ≤ action ∧ 0 ≤ tiDone ∧ 0 ≤ tiTotal ∧ 0 ≤ tsDone ∧ 0 ≤ tsTotal
  | filelog _ action => (fileActions action).isSome = true
  | _ => True

/-- A package that is fetched or installed has a total, and so has the transaction. -/
def UpgradeCall.Safe : UpgradeCall → Prop
  | progress _ action _ tiTotal _ tsTotal => action = 6 ∨ action = 7 → tiTotal ≠ 0 ∧ tsTotal ≠ 0
  | _ => True

/-- A call keeps the progress initialised, and raises exactly if it divides by zero. -/
theorem UpgradeProgress.exec_handle {fileActions : String → Option String} {p : UpgradeProgress}
    (h : p.Ready) {call : UpgradeCall} (hcall : call.Documented fileActions) :
    (exec (handle fileActions call) p).2.Ready
      ∧ ((exec (handle fileActions call) p).1 = .ok () ↔ call.Safe) := by
  cases call with
  | progress package action tiDone tiTotal tsDone tsTotal =>
      rw [handle, progress, UpgradeCall.Safe]
      by_cases haction : action ≠ 6 ∧ action ≠ 7
      · rw [if_pos haction, exec_pure]
        refine ⟨h, iff_of_true rfl ?_⟩
        rintro (h₆ | h₇)
        · exact absurd h₆ haction.1
        · exact absurd h₇ haction.2
      · rw [if_neg haction]
        by_cases hzero : tiTotal = 0 ∨ tsTotal = 0
        · rw [if_pos hzero, exec_throw]
          refine ⟨h, iff_of_false (by simp) ?_⟩
          intro hsafe
          have := hsafe (by omega)
          omega
        · obtain ⟨p', hexec, hready, -⟩ :=
            exec_notifyPercent h ((tiDone / tiTotal + tsDone - 1) / tsTotal * 100)
          rw [if_neg hzero, hexec]
          exact ⟨hready, iff_of_true rfl fun _ => by omega⟩
  | scriptout msgs =>
      rw [handle, scriptout, exec_modify]
      refine ⟨?_, iff_of_true rfl trivial⟩
      dsimp only
      split
      · exact (Progress.ready_print _).mpr h
      · exact h
  | filelog package action =>
      obtain ⟨text, htext⟩ := Option.isSome_iff_exists.mp hcall
      rw [handle, filelog, htext, exec_modify]
      exact ⟨(Progress.ready_print _).mpr h, iff_of_true rfl trivial⟩
  | error message =>
      rw [handle, error, exec_modify]
      exact ⟨(Progress.ready_printError _).mpr h, iff_of_true rfl trivial⟩

/-- In DNF, the sequences of calls of `UpgradeProgress` in which nothing is raised. -/
theorem upgrade_quiet_iff (fileActions : String → Option String) (weight start stop : ℚ)
    {calls : List UpgradeCall} (h : ∀ call ∈ calls, call.Documented fileActions) :
    Quiet (UpgradeProgress.handle fileActions) (Progress.init start stop { weight := weight }) calls
      ↔ ∀ call ∈ calls, call.Safe := by
  rw [← eachAfter_const] at h ⊢
  exact quiet_iff_eachAfter (I := fun _ p => p.Ready)
    (Progress.ready_init _ _ _) (fun _ _ _ hready hcall => UpgradeProgress.exec_handle hready hcall) h

end Dnf

/-! ## DNF5 -/

namespace Dnf5

/-- A download with more bytes than before is reported only if there are bytes to fetch. -/
def Safe (before : List FetchCall) : FetchCall → Prop
  | .progress userCbData _ downloaded =>
      (∀ n ∈ 0 :: reports before userCbData, n < downloaded) → (announcedSizes before).sum ≠ 0
  | _ => True

/-- A report is larger than what the object knows exactly if it is larger than all before. -/
theorem getZero_lt_iff {calls : List FetchCall} {s : FetchProgress} (h : Accounted calls s)
    (hnonneg : ∀ userCbData, 0 ≤ s.packageBytes.getZero userCbData) (userCbData : ℕ)
    (downloaded : ℚ) :
    s.packageBytes.getZero userCbData < downloaded
      ↔ ∀ n ∈ 0 :: reports calls userCbData, n < downloaded := by
  rw [List.forall_mem_cons]
  constructor
  · intro hlt
    refine ⟨(hnonneg userCbData).trans_lt hlt, ?_⟩
    intro n hmem
    exact (h.largest userCbData n hmem).trans_lt hlt
  · rintro ⟨hpos, hall⟩
    rcases h.reported userCbData with hzero | hmem
    · rw [hzero]
      exact hpos
    · exact hall _ hmem

/-- A call raises exactly if it divides by the bytes to fetch and there are none. -/
theorem exec_handle_iff {calls : List FetchCall} {s : FetchProgress} (h : Accounted calls s)
    (hnonneg : ∀ userCbData, 0 ≤ s.packageBytes.getZero userCbData) {call : FetchCall}
    (hcall : Expected calls call) :
    (exec (FetchProgress.handle call) s).1 = .ok () ↔ Safe calls call := by
  cases call with
  | addNewDownload description total =>
      obtain ⟨p', hexec, -, -⟩ := FetchProgress.exec_addNewDownload h.ready description total
      rw [FetchProgress.handle, exec_bind hexec, exec_pure]
      exact iff_of_true rfl trivial
  | progress userCbData total downloaded =>
      obtain ⟨hknown, -, -⟩ := hcall
      obtain ⟨bytes, hbytes⟩ := Option.isSome_iff_exists.mp ((h.knows userCbData).mpr hknown)
      obtain ⟨r, s', hexec, -, hok⟩ := FetchProgress.exec_progress total downloaded h.ready hbytes
        ((h.names userCbData).mpr hknown)
      have hzero : s.packageBytes.getZero userCbData = bytes := by
        rw [Dict.getZero, hbytes, Option.getD_some]
      rw [FetchProgress.handle, hexec, Safe, ← getZero_lt_iff h hnonneg, hzero, ← h.toFetch]
      exact hok
  | «end» userCbData status msg =>
      rw [FetchProgress.handle, FetchProgress.end, exec_modify]
      exact iff_of_true rfl trivial
  | mirrorFailure userCbData msg url metadata =>
      obtain ⟨name, hname⟩ := Option.isSome_iff_exists.mp ((h.names userCbData).mpr hcall)
      rw [FetchProgress.handle, FetchProgress.mirrorFailure,
        exec_bind (FetchProgress.exec_packageName hname), exec_modify]
      exact iff_of_true rfl trivial

/-- What decides whether a call raises: the accounts, and that no report is negative. -/
structure Known (calls : List FetchCall) (s : FetchProgress) : Prop where
  accounted : Accounted calls s
  nonneg : ∀ userCbData, ∀ n ∈ reports calls userCbData, 0 ≤ n

/-- A call keeps what is known, and raises exactly if it divides by no bytes to fetch. -/
theorem known_handle {calls : List FetchCall} {s : FetchProgress} (h : Known calls s)
    {call : FetchCall} (hcall : Expected calls call) :
    Known (calls ++ [call]) (exec (FetchProgress.handle call) s).2
      ∧ ((exec (FetchProgress.handle call) s).1 = .ok () ↔ Safe calls call) := by
  refine ⟨⟨accounted_handle h.accounted hcall, ?_⟩, exec_handle_iff h.accounted ?_ hcall⟩
  · intro userCbData
    rw [reports_concat, List.forall_mem_append]
    refine ⟨h.nonneg userCbData, ?_⟩
    intro n hmem
    rw [Option.mem_toList] at hmem
    cases call with
    | progress other total downloaded =>
        rw [FetchCall.reported?] at hmem
        split at hmem
        · cases hmem
          exact hcall.2.2
        · cases hmem
    | addNewDownload description total => cases hmem
    | «end» other status msg => cases hmem
    | mirrorFailure other msg url metadata => cases hmem
  · intro userCbData
    rcases h.accounted.reported userCbData with hzero | hmem
    · exact hzero.ge
    · exact h.nonneg userCbData _ hmem

/-- In DNF5, the sequences of calls of `FetchProgress` in which nothing is raised. -/
theorem fetch_quiet_iff (weight start stop : ℚ) {calls : List FetchCall}
    (h : EachAfter Expected calls) :
    Quiet FetchProgress.handle (FetchProgress.init weight start stop) calls
      ↔ EachAfter Safe calls :=
  quiet_iff_eachAfter (I := Known) ⟨accounted_init weight start stop, by simp [reports]⟩
    (fun _ _ _ hknown hcall => known_handle hknown hcall) h

/-- `UpgradeProgress`. -/
structure UpgradeProgress extends Progress where
  /-- `pgks`: how many packages the transaction has. -/
  pgks : Option ℤ := none
  /-- `pgks_done`: how many of them are done. -/
  pgksDone : Option ℤ := none
  /-- `processed_packages`: the packages that have been printed. -/
  processedPackages : List String := []

instance : DerivesProgress UpgradeProgress where
  progressOf := UpgradeProgress.toProgress
  setProgress p s := { s with toProgress := p }

/-- The name of a package with its epoch, version, release and architecture. -/
structure Nevra where
  name : String
  epoch : String
  version : String
  release : String
  arch : String
  deriving DecidableEq

/-- A call of a method of `UpgradeProgress` by the library; a package is given by its full name. -/
inductive UpgradeCall
  | installProgress (item : String) (amount total : ℤ)
  | transactionStart (total : ℤ)
  | uninstallProgress (item : String) (amount total : ℤ)
  | elemProgress (item : String) (amount total : ℤ)
  | scriptStart (nevra : Nevra)
  deriving DecidableEq

namespace UpgradeProgress

/-- A new object, initialised by a reporter. -/
def init (weight start stop : ℚ) : UpgradeProgress :=
  { toProgress := Progress.init start stop { weight := weight } }

/-- A package is printed once. -/
def printPackage (verb package : String) (s : UpgradeProgress) : UpgradeProgress :=
  if package ∈ s.processedPackages then s
  else
    { print [s!"{verb} {package}"] s with
      processedPackages := package :: s.processedPackages }

/-- `percent = (self.pgks_done + pkg_progress) / self.pgks * 100`, and its report. -/
def notifyPackage (pkgProgress : ℚ) : StateExcept UpgradeProgress CallbackError Unit := do
  let s ← get
  match s.pgksDone, s.pgks with
  | some pgksDone, some pgks => base (notifyShare (pgksDone + pkgProgress) pgks)
  | _, _ => throw .assertionError

/-- `install_progress` and `uninstall_progress`, which print different verbs. -/
def itemProgress (verb package : String) (amount total : ℤ) :
    StateExcept UpgradeProgress CallbackError Unit := do
  modify (printPackage verb package)
  if total = 0 then throw .zeroDivisionError else notifyPackage (amount / total)

/-- `install_progress`. -/
def installProgress (package : String) (amount total : ℤ) :
    StateExcept UpgradeProgress CallbackError Unit := itemProgress "Installing" package amount total

/-- `transaction_start`. -/
def transactionStart (total : ℤ) : StateExcept UpgradeProgress CallbackError Unit :=
  modify fun s => { s with pgksDone := some 0, pgks := some total }

/-- `uninstall_progress`. -/
def uninstallProgress (package : String) (amount total : ℤ) :
    StateExcept UpgradeProgress CallbackError Unit := itemProgress "Uninstalling" package amount total

/-- `elem_progress`. -/
def elemProgress (amount total : ℤ) : StateExcept UpgradeProgress CallbackError Unit := do
  modify fun s => { s with pgksDone := some amount }
  base (notifyShare amount total)

/-- `script_start`. -/
def scriptStart (nevra : Nevra) : StateExcept UpgradeProgress CallbackError Unit :=
  modify (print [s!"Running rpm scriptlet for {nevra.name}-{nevra.epoch}:{nevra.version}-{nevra.release}."
    ++ nevra.arch])

/-- The method that is called. -/
def handle : UpgradeCall → StateExcept UpgradeProgress CallbackError Unit
  | .installProgress item amount total => installProgress item amount total
  | .transactionStart total => transactionStart total
  | .uninstallProgress item amount total => uninstallProgress item amount total
  | .elemProgress _ amount total => elemProgress amount total
  | .scriptStart nevra => scriptStart nevra

/-- A package of a transaction that has started can be reported. -/
theorem exec_notifyPackage {s : UpgradeProgress} {pgks pgksDone : ℤ} (h : s.toProgress.Ready)
    (hpgks : s.pgks = some pgks) (hpos : 0 < pgks) (hdone : s.pgksDone = some pgksDone)
    (pkgProgress : ℚ) :
    ∃ p', exec (notifyPackage pkgProgress) s = (.ok (), setProgress p' s) ∧ p'.Ready := by
  obtain ⟨r, p', hexec, hready, hok, -⟩ := exec_notifyShare h (pgksDone + pkgProgress) pgks
  rw [hok.mpr (Int.cast_ne_zero.mpr hpos.ne')] at hexec
  refine ⟨p', ?_, hready⟩
  unfold notifyPackage
  rw [exec_bind exec_get, hdone, hpgks]
  exact exec_base hexec

end UpgradeProgress

/-- Whether a call starts a transaction. -/
def UpgradeCall.starts : UpgradeCall → Bool
  | transactionStart _ => true
  | _ => false

/-- A call as the library makes it: a transaction has packages and starts before any progress, and no
count is negative. -/
def UpgradeDocumented (before : List UpgradeCall) : UpgradeCall → Prop
  | .transactionStart total => 0 < total
  | .installProgress _ amount total => before.any UpgradeCall.starts = true ∧ 0 ≤ amount ∧ 0 ≤ total
  | .uninstallProgress _ amount total =>
      before.any UpgradeCall.starts = true ∧ 0 ≤ amount ∧ 0 ≤ total
  | .elemProgress _ amount total => before.any UpgradeCall.starts = true ∧ 0 ≤ amount ∧ 0 ≤ total
  | .scriptStart _ => True

/-- The total that a call divides by is not zero. -/
def UpgradeCall.Safe : UpgradeCall → Prop
  | installProgress _ _ total => total ≠ 0
  | uninstallProgress _ _ total => total ≠ 0
  | elemProgress _ _ total => total ≠ 0
  | _ => True

/-- What decides whether a call raises: once a transaction has started, its packages are counted. -/
structure Transacting (calls : List UpgradeCall) (s : UpgradeProgress) : Prop where
  ready : s.toProgress.Ready
  counted : calls.any UpgradeCall.starts = true →
    ∃ pgks pgksDone, s.pgks = some pgks ∧ 0 < pgks ∧ s.pgksDone = some pgksDone

section Transacting

variable {calls : List UpgradeCall} {s : UpgradeProgress}

/-- A call that starts no transaction keeps the counters. -/
theorem transacting_setProgress (h : Transacting calls s) {call : UpgradeCall} {p' : Progress}
    (hready : p'.Ready) (hstarts : call.starts = false) {packages : List String} :
    Transacting (calls ++ [call])
      { s with toProgress := p', processedPackages := packages } where
  ready := hready
  counted := by
    rw [List.any_append]
    simpa [hstarts] using h.counted

/-- The progress of a package keeps the counters, and raises exactly if the package has no total. -/
theorem transacting_itemProgress (h : Transacting calls s) (verb package : String)
    (amount total : ℤ) (hstarted : calls.any UpgradeCall.starts = true) {call : UpgradeCall}
    (hstarts : call.starts = false) :
    Transacting (calls ++ [call]) (exec (UpgradeProgress.itemProgress verb package amount total) s).2
      ∧ ((exec (UpgradeProgress.itemProgress verb package amount total) s).1 = .ok ()
        ↔ total ≠ 0) := by
  have hprint : ∃ p₁ packages, s.printPackage verb package
      = { s with toProgress := p₁, processedPackages := packages } ∧ p₁.Ready := by
    unfold UpgradeProgress.printPackage
    split
    · exact ⟨s.toProgress, s.processedPackages, rfl, h.ready⟩
    · exact ⟨_, _, rfl, (Progress.ready_print _).mpr h.ready⟩
  obtain ⟨p₁, packages, hprint, hready₁⟩ := hprint
  unfold UpgradeProgress.itemProgress
  rw [exec_bind (exec_modify _), hprint]
  by_cases hzero : total = 0
  · rw [if_pos hzero, exec_throw]
    exact ⟨transacting_setProgress h hready₁ hstarts, by simp [hzero]⟩
  · obtain ⟨pgks, pgksDone, hpgks, hpos, hdone⟩ := h.counted hstarted
    obtain ⟨p', hexec, hready⟩ := UpgradeProgress.exec_notifyPackage
      (s := { s with toProgress := p₁, processedPackages := packages }) hready₁ hpgks hpos hdone
      (amount / total)
    rw [if_neg hzero, hexec]
    exact ⟨transacting_setProgress h hready hstarts, by simp [hzero]⟩

/-- A call keeps the counters, and raises exactly if it divides by zero. -/
theorem transacting_handle (h : Transacting calls s) {call : UpgradeCall}
    (hcall : UpgradeDocumented calls call) :
    Transacting (calls ++ [call]) (exec (UpgradeProgress.handle call) s).2
      ∧ ((exec (UpgradeProgress.handle call) s).1 = .ok () ↔ call.Safe) := by
  cases call with
  | installProgress item amount total =>
      exact transacting_itemProgress h "Installing" item amount total hcall.1 rfl
  | uninstallProgress item amount total =>
      exact transacting_itemProgress h "Uninstalling" item amount total hcall.1 rfl
  | transactionStart total =>
      rw [UpgradeProgress.handle, UpgradeProgress.transactionStart, exec_modify]
      exact ⟨⟨h.ready, fun _ => ⟨total, 0, rfl, hcall, rfl⟩⟩, iff_of_true rfl trivial⟩
  | elemProgress item amount total =>
      obtain ⟨r, p', hexec, hready, hok, -⟩ := exec_notifyShare h.ready amount total
      rw [Int.cast_ne_zero] at hok
      rw [UpgradeProgress.handle, UpgradeProgress.elemProgress, exec_bind (exec_modify _),
        exec_base (s := ({ s with pgksDone := some amount } : UpgradeProgress)) hexec]
      obtain ⟨pgks, pgksDone, hpgks, hpos, -⟩ := h.counted hcall.1
      exact ⟨⟨hready, fun _ => ⟨pgks, amount, hpgks, hpos, rfl⟩⟩, hok⟩
  | scriptStart nevra =>
      rw [UpgradeProgress.handle, UpgradeProgress.scriptStart, exec_modify]
      exact ⟨transacting_setProgress h ((Progress.ready_print _).mpr h.ready) rfl,
        iff_of_true rfl trivial⟩

end Transacting

/-- In DNF5, the sequences of calls of `UpgradeProgress` in which nothing is raised. -/
theorem upgrade_quiet_iff (weight start stop : ℚ) {calls : List UpgradeCall}
    (h : EachAfter UpgradeDocumented calls) :
    Quiet UpgradeProgress.handle (UpgradeProgress.init weight start stop) calls
      ↔ ∀ call ∈ calls, call.Safe := by
  rw [← eachAfter_const]
  exact quiet_iff_eachAfter (I := Transacting)
    ⟨Progress.ready_init _ _ _, by simp⟩
    (fun _ _ _ htransacting hcall => transacting_handle htransacting hcall) h

end Dnf5

/-! ## All classes -/

/-- A sequence of calls of the methods of one object by its package library, in the documented order
and with no negative count. -/
inductive CallSequence (fileActions : String → Option String)
  | aptFetch (action : FetchAction) (calls : List Apt.FetchCall)
      (documented : ∀ call ∈ calls, call.NonNegative)
  | aptUpgrade (calls : List Apt.UpgradeCall)
  | dnfFetch (action : FetchAction) (calls : List Dnf.FetchCall)
      (documented : EachAfter Dnf.Documented calls)
  | dnfUpgrade (calls : List Dnf.UpgradeCall)
      (documented : ∀ call ∈ calls, call.Documented fileActions)
  | dnf5Fetch (calls : List Dnf5.FetchCall) (documented : EachAfter Dnf5.Expected calls)
  | dnf5Upgrade (calls : List Dnf5.UpgradeCall)
      (documented : EachAfter Dnf5.UpgradeDocumented calls)

namespace CallSequence

variable {fileActions : String → Option String}

/-- No call raises, made to a new object with the given weight and interval. -/
def Quiet (weight start stop : ℚ) : CallSequence fileActions → Prop
  | aptFetch action calls _ =>
      StateExcept.Quiet Apt.FetchProgress.handle
        (Apt.FetchProgress.init weight action start stop) calls
  | aptUpgrade calls =>
      StateExcept.Quiet Apt.UpgradeProgress.handle
        (Progress.init start stop { weight := weight }) calls
  | dnfFetch action calls _ =>
      StateExcept.Quiet Dnf.FetchProgress.handle
        (Dnf.FetchProgress.init weight action start stop) calls
  | dnfUpgrade calls _ =>
      StateExcept.Quiet (Dnf.UpgradeProgress.handle fileActions)
        (Progress.init start stop { weight := weight }) calls
  | dnf5Fetch calls _ =>
      StateExcept.Quiet Dnf5.FetchProgress.handle (Dnf5.FetchProgress.init weight start stop) calls
  | dnf5Upgrade calls _ =>
      StateExcept.Quiet Dnf5.UpgradeProgress.handle
        (Dnf5.UpgradeProgress.init weight start stop) calls

/-- No call gives the object a total of zero that it divides by. -/
def Safe : CallSequence fileActions → Prop
  | aptFetch _ calls _ => ∀ call ∈ calls, call.Safe
  | aptUpgrade _ => True
  | dnfFetch _ calls _ => EachAfter Dnf.Safe calls
  | dnfUpgrade calls _ => ∀ call ∈ calls, call.Safe
  | dnf5Fetch calls _ => EachAfter Dnf5.Safe calls
  | dnf5Upgrade calls _ => ∀ call ∈ calls, call.Safe

/-- In each of the classes, exactly the sequences of calls without a total of zero raise nothing. -/
theorem quiet_iff_safe (weight start stop : ℚ) (sequence : CallSequence fileActions) :
    sequence.Quiet weight start stop ↔ sequence.Safe := by
  cases sequence with
  | aptFetch action calls _ => exact Apt.fetch_quiet_iff weight action start stop calls
  | aptUpgrade calls => exact iff_of_true (Apt.upgrade_quiet weight start stop calls) trivial
  | dnfFetch action calls documented => exact Dnf.fetch_quiet_iff weight action start stop documented
  | dnfUpgrade calls documented =>
      exact Dnf.upgrade_quiet_iff fileActions weight start stop documented
  | dnf5Fetch calls documented => exact Dnf5.fetch_quiet_iff weight start stop documented
  | dnf5Upgrade calls documented => exact Dnf5.upgrade_quiet_iff weight start stop documented

/-- A pulse of APT with nothing to fetch. -/
theorem nothingToFetch_documented :
    ∀ call ∈ [Apt.FetchCall.start, .pulse 0 0 0], call.NonNegative := by
  simp [Apt.FetchCall.NonNegative]

/-- The download of an empty payload by DNF. -/
theorem emptyPayload_documented :
    EachAfter Dnf.Documented [.start 1 0 0, .progress "filesystem" 0] := by
  refine ⟨⟨by decide, ?_⟩, ⟨by decide, fun _ _ _ => rfl⟩, trivial⟩
  intro payload done h
  cases h

/-- The installation of an empty package by DNF5. -/
theorem emptyPackage_documented :
    EachAfter Dnf5.UpgradeDocumented [.transactionStart 1, .elemProgress "filesystem" 0 1,
      .installProgress "filesystem" 0 0] :=
  ⟨Int.one_pos, ⟨rfl, le_rfl, Int.one_nonneg⟩, ⟨rfl, le_rfl, le_rfl⟩, trivial⟩

/-- Totals of zero break an update with each of the libraries. -/
theorem not_quiet_zero_totals :
    ¬ (aptFetch .fetch _ nothingToFetch_documented : CallSequence fun _ => none).Quiet 48 4 52
      ∧ ¬ (dnfFetch .fetch _ emptyPayload_documented : CallSequence fun _ => none).Quiet 45 10 55
      ∧ ¬ (dnf5Upgrade _ emptyPackage_documented : CallSequence fun _ => none).Quiet 45 55 100 := by
  refine ⟨?_, ?_, ?_⟩
  · intro h
    have hsafe := (Apt.fetch_quiet_iff 48 .fetch 4 52 _).mp h
    exact hsafe (.pulse 0 0 0) (by simp) rfl
  · intro h
    have hsafe := (Dnf.fetch_quiet_iff 45 .fetch 10 55 emptyPayload_documented).mp h
    exact hsafe.2.1 rfl
  · intro h
    have hsafe := (Dnf5.upgrade_quiet_iff 45 55 100 emptyPackage_documented).mp h
    exact hsafe (.installProgress "filesystem" 0 0) (by simp) rfl

end CallSequence

end QubesAdminLinux
