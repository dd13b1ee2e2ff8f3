import QubesAdminLinux.Agent.Progress
import QubesAdminLinux.Lib.Callbacks
import QubesAdminLinux.Lib.Totals

/-! # Accounting of downloads with DNF5

The library of DNF5 announces each download with its size, and reports how many bytes of it there are.
`FetchProgress` keeps the bytes of each download and, beside it, the bytes of all downloads together.

* **`Dnf5.FetchProgress`** — the object and its methods; **`Dnf5.FetchCall`** — their calls.
* **`Dnf5.Accounted`** — what the object knows after a sequence of calls; `Dnf5.accounted_after`.
* **`Dnf5.exact_iff_notLess`** — the two accounts agree after those sequences of calls in which no
  download ever reports less than before, and only after those.

Bytes and percentages are exact numbers here. -/

namespace QubesAdminLinux

open StateExcept DerivesProgress

namespace Dnf5

/-- `FetchProgress`. -/
structure FetchProgress extends Progress where
  /-- `bytes_to_fetch`: the announced bytes of all downloads. -/
  bytesToFetch : ℚ := 0
  /-- `bytes_fetched`: the bytes of all downloads so far. -/
  bytesFetched : ℚ := 0
  /-- `package_bytes`: the bytes of each download so far. -/
  packageBytes : Dict ℕ ℚ := Dict.empty
  /-- `package_names`: the description of each download. -/
  packageNames : Dict ℕ String := Dict.empty
  /-- `count`: how many downloads there are. -/
  count : ℕ := 0
  /-- `fetching_notified`: whether the start has been printed. -/
  fetchingNotified : Bool := false

instance : DerivesProgress FetchProgress where
  progressOf := FetchProgress.toProgress
  setProgress p s := { s with toProgress := p }

/-- A call of a method of `FetchProgress` by the library. -/
inductive FetchCall
  | addNewDownload (description : String) (totalToDownload : ℚ)
  | progress (userCbData : ℕ) (totalToDownload downloaded : ℚ)
  | «end» (userCbData : ℕ) (status : Int) (msg : LibraryMessage)
  | mirrorFailure (userCbData : ℕ) (msg : LibraryMessage) (url metadata : String)
  deriving DecidableEq

namespace FetchProgress

/-- A new object, initialised by a reporter. -/
def init (weight start stop : ℚ) : FetchProgress :=
  { toProgress := Progress.init start stop { weight := weight } }

/-- `add_new_download`. -/
def addNewDownload (description : String) (totalToDownload : ℚ) :
    StateExcept FetchProgress CallbackError ℕ := do
  modify fun s =>
    { s with
      count := s.count + 1
      bytesToFetch := s.bytesToFetch + totalToDownload
      packageBytes := s.packageBytes.set (s.count + 1) 0
      packageNames := s.packageNames.set (s.count + 1) description }
  -- downloading is not started yet
  base (notifyPercent 0)
  let s ← get
  pure s.count

/-- `progress`: the start of the downloads is printed once. -/
def printStart (s : FetchProgress) : FetchProgress :=
  if s.fetchingNotified then s
  else
    { print [s!"Fetching {s.count} packages [{formatBytes s.bytesToFetch}]"] s with
      fetchingNotified := true }

/-- `self.package_names[user_cb_data]`. -/
def packageName (userCbData : ℕ) : StateExcept FetchProgress CallbackError String := do
  let s ← get
  match s.packageNames.get? userCbData with
  | some name => pure name
  | none => throw .keyError

/-- `progress`: the start of a download is printed, as long as it has no bytes. -/
def printName (userCbData : ℕ) (totalToDownload bytes : ℚ) :
    StateExcept FetchProgress CallbackError Unit :=
  if bytes = 0 then do
    let name ← packageName userCbData
    modify (print [s!"Fetching {name} [{formatBytes totalToDownload}]"])
  else pure ()

/-- `percent = self.bytes_fetched / self.bytes_to_fetch * 100`, and its report. -/
def reportFetched : StateExcept FetchProgress CallbackError Unit := do
  let s ← get
  base (notifyShare s.bytesFetched s.bytesToFetch)

/-- `progress`: a download has more bytes than before. -/
def progressed (userCbData : ℕ) (totalToDownload downloaded bytes : ℚ) :
    StateExcept FetchProgress CallbackError Unit := do
  printName userCbData totalToDownload bytes
  modify fun s => { s with packageBytes := s.packageBytes.set userCbData downloaded }
  reportFetched

/-- `progress`; the value it returns is the default one of the library. -/
def progress (userCbData : ℕ) (totalToDownload downloaded : ℚ) :
    StateExcept FetchProgress CallbackError Unit := do
  modify printStart
  let s ← get
  match s.packageBytes.get? userCbData with
  | none => throw .keyError
  | some bytes => do
      -- the bytes of all downloads also go down, those of this download do not
      modify fun s => { s with bytesFetched := s.bytesFetched + (downloaded - bytes) }
      if bytes < downloaded then progressed userCbData totalToDownload downloaded bytes
      else pure ()

/-- `end`. -/
def «end» (status : Int) (msg : LibraryMessage) : StateExcept FetchProgress CallbackError Unit :=
  modify fun s => if status ≠ 0 then print (printNonempty msg.decode) s else s

/-- `mirror_failure`. -/
def mirrorFailure (userCbData : ℕ) (msg : LibraryMessage) (metadata : String) :
    StateExcept FetchProgress CallbackError Unit := do
  let name ← packageName userCbData
  modify (print [s!"Fetching {metadata} failure ({name}) {msg.decode}"])

/-- The method that is called. -/
def handle : FetchCall → StateExcept FetchProgress CallbackError Unit
  | .addNewDownload description total => do
      let _ ← addNewDownload description total
  | .progress userCbData total downloaded => progress userCbData total downloaded
  | .end _ status msg => FetchProgress.end status msg
  | .mirrorFailure userCbData msg _ metadata => mirrorFailure userCbData msg metadata

/-! ### What the methods do -/

section Effects

variable {s : FetchProgress} {userCbData : ℕ} {bytes : ℚ}

/-- A new download has the next number and no bytes yet. -/
theorem exec_addNewDownload (h : s.toProgress.Ready) (description : String) (total : ℚ) :
    ∃ p', exec (addNewDownload description total) s
        = (.ok (s.count + 1),
          { s with
            toProgress := p'
            count := s.count + 1
            bytesToFetch := s.bytesToFetch + total
            packageBytes := s.packageBytes.set (s.count + 1) 0
            packageNames := s.packageNames.set (s.count + 1) description })
      ∧ p'.Ready ∧ p'.percentages = s.percentages ++ [0] := by
  unfold addNewDownload
  rw [exec_bind (exec_modify _)]
  obtain ⟨p', hexec, hready, hpercentages⟩ := exec_notifyPercent h 0
  refine ⟨p', ?_, hready, hpercentages⟩
  rw [exec_bind (exec_base hexec), exec_bind exec_get, exec_pure]
  rfl

/-- The name of a known download is found. -/
theorem exec_packageName {name : String} (h : s.packageNames.get? userCbData = some name) :
    exec (packageName userCbData) s = (.ok name, s) := by
  unfold packageName
  rw [exec_bind exec_get, h, exec_pure]

/-- What a report about a known download changes: the bytes of all downloads by the difference, and
the bytes of the download only if it has more than before. -/
structure Counted (userCbData : ℕ) (downloaded bytes : ℚ) (s s' : FetchProgress) : Prop where
  count : s'.count = s.count
  bytesToFetch : s'.bytesToFetch = s.bytesToFetch
  packageNames : s'.packageNames = s.packageNames
  bytesFetched : s'.bytesFetched = s.bytesFetched + (downloaded - bytes)
  packageBytes : s'.packageBytes
    = if bytes < downloaded then s.packageBytes.set userCbData downloaded else s.packageBytes
  ready : s'.toProgress.Ready
  percentages : s'.percentages = s.percentages
    ++ if bytes < downloaded ∧ s.bytesToFetch ≠ 0 then [s'.bytesFetched / s.bytesToFetch * 100]
      else []

/-- A report raises exactly if nothing is to be fetched and yet the download has more than before. -/
theorem exec_reportFetched (h : s.toProgress.Ready) :
    ∃ r p', exec reportFetched s = (r, setProgress p' s) ∧ p'.Ready
      ∧ (r = .ok () ↔ s.bytesToFetch ≠ 0)
      ∧ p'.percentages = s.percentages
        ++ if s.bytesToFetch ≠ 0 then [s.bytesFetched / s.bytesToFetch * 100] else [] := by
  obtain ⟨r, p', hexec, hshare⟩ := exec_notifyShare h s.bytesFetched s.bytesToFetch
  refine ⟨r, p', ?_, hshare⟩
  unfold reportFetched
  rw [exec_bind exec_get, exec_base hexec]

/-- Printing the name of a known download changes nothing else. -/
theorem exec_printName (totalToDownload bytes : ℚ) (h : s.toProgress.Ready)
    (hname : (s.packageNames.get? userCbData).isSome = true) :
    ∃ p', exec (printName userCbData totalToDownload bytes) s = (.ok (), setProgress p' s)
      ∧ p'.Ready ∧ p'.percentages = s.percentages := by
  obtain ⟨name, hname⟩ := Option.isSome_iff_exists.mp hname
  unfold printName
  by_cases hzero : bytes = 0
  · rw [if_pos hzero, exec_bind (exec_packageName hname), exec_modify]
    exact ⟨_, rfl, h, rfl⟩
  · rw [if_neg hzero, exec_pure]
    exact ⟨s.toProgress, rfl, h, rfl⟩

/-- The part of a report for a download with more bytes than before. -/
theorem exec_progressed (totalToDownload downloaded bytes : ℚ) (h : s.toProgress.Ready)
    (hname : (s.packageNames.get? userCbData).isSome = true) :
    ∃ r p', exec (progressed userCbData totalToDownload downloaded bytes) s
        = (r, { s with
            toProgress := p', packageBytes := s.packageBytes.set userCbData downloaded })
      ∧ p'.Ready ∧ (r = .ok () ↔ s.bytesToFetch ≠ 0)
      ∧ p'.percentages = s.percentages
        ++ if s.bytesToFetch ≠ 0 then [s.bytesFetched / s.bytesToFetch * 100] else [] := by
  obtain ⟨p₁, hexec₁, hready₁, hpercentages₁⟩ :=
    exec_printName totalToDownload bytes h hname
  obtain ⟨r, p', hexec, hready, hok, hpercentages⟩ := exec_reportFetched
    (s := { setProgress p₁ s with packageBytes := s.packageBytes.set userCbData downloaded }) hready₁
  refine ⟨r, p', ?_, hready, hok, ?_⟩
  · unfold progressed
    rw [exec_bind hexec₁, exec_bind (exec_modify _)]
    exact hexec
  · exact hpercentages.trans (congrArg (· ++ _) hpercentages₁)

/-- The start of the downloads is printed once; nothing is counted. -/
theorem printStart_eq (s : FetchProgress) : ∃ p' notified,
    s.printStart = { s with toProgress := p', fetchingNotified := notified }
      ∧ (s.toProgress.Ready → p'.Ready) ∧ p'.percentages = s.percentages := by
  unfold printStart
  split
  · exact ⟨s.toProgress, s.fetchingNotified, rfl, id, rfl⟩
  · exact ⟨_, true, rfl, (Progress.ready_print _).mpr, Progress.percentages_print _⟩

/-- A report about a known download. -/
theorem exec_progress (totalToDownload downloaded : ℚ) (h : s.toProgress.Ready)
    (hbytes : s.packageBytes.get? userCbData = some bytes)
    (hname : (s.packageNames.get? userCbData).isSome = true) :
    ∃ r s', exec (progress userCbData totalToDownload downloaded) s = (r, s')
      ∧ Counted userCbData downloaded bytes s s'
      ∧ (r = .ok () ↔ (bytes < downloaded → s.bytesToFetch ≠ 0)) := by
  obtain ⟨p₁, notified, hstart, hready₁, hpercentages₁⟩ := printStart_eq s
  unfold progress
  rw [exec_bind (exec_modify _), exec_bind exec_get, hstart]
  simp only [hbytes]
  rw [exec_bind (exec_modify _)]
  by_cases hmore : bytes < downloaded
  · rw [if_pos hmore]
    obtain ⟨r, p', hexec, hready, hok, hpercentages⟩ := exec_progressed
      (s := { s with
        toProgress := p₁
        fetchingNotified := notified
        bytesFetched := s.bytesFetched + (downloaded - bytes) })
      totalToDownload downloaded bytes (hready₁ h) hname
    refine ⟨r, _, hexec, ⟨rfl, rfl, rfl, rfl, ?_, hready, ?_⟩, ?_⟩
    · rw [if_pos hmore]
    · simp only [hpercentages, hpercentages₁, hmore, true_and]
    · simp [hok, hmore]
  · rw [if_neg hmore]
    refine ⟨.ok (), _, exec_pure (), ⟨rfl, rfl, rfl, rfl, ?_, hready₁ h, ?_⟩, ?_⟩
    · rw [if_neg hmore]
    · simp [hpercentages₁, hmore]
    · simp [hmore]

end Effects

end FetchProgress

/-! ### What the library reports -/

namespace FetchCall

/-- The size that a call announces. -/
def announced? : FetchCall → Option ℚ
  | addNewDownload _ totalToDownload => some totalToDownload
  | _ => none

/-- The bytes that a call reports for a download. -/
def reported? (userCbData : ℕ) : FetchCall → Option ℚ
  | progress other _ downloaded => if other = userCbData then some downloaded else none
  | _ => none

end FetchCall

/-- The announced sizes of all downloads, in the order of their numbers. -/
def announcedSizes (calls : List FetchCall) : List ℚ := calls.filterMap FetchCall.announced?

/-- The announced size of a download; the first one has number 1. -/
def downloadSize (calls : List FetchCall) (userCbData : ℕ) : Option ℚ :=
  if userCbData = 0 then none else (announcedSizes calls)[userCbData - 1]?

/-- All that has been reported for a download. -/
def reports (calls : List FetchCall) (userCbData : ℕ) : List ℚ :=
  calls.filterMap (FetchCall.reported? userCbData)

/-- A call as the library makes it: about a download it has announced, and with no negative count. -/
def Expected (before : List FetchCall) : FetchCall → Prop
  | .addNewDownload _ totalToDownload => 0 ≤ totalToDownload
  | .progress userCbData totalToDownload downloaded =>
      (downloadSize before userCbData).isSome = true ∧ 0 ≤ totalToDownload ∧ 0 ≤ downloaded
  | .end userCbData _ _ => (downloadSize before userCbData).isSome = true
  | .mirrorFailure userCbData _ _ _ => (downloadSize before userCbData).isSome = true

/-- No download reports less than it has reported before. -/
def NotLess (before : List FetchCall) : FetchCall → Prop
  | .progress userCbData _ downloaded => ∀ n ∈ reports before userCbData, n ≤ downloaded
  | _ => True

/-- No download reports more than its announced size. -/
def WithinAnnounced (before : List FetchCall) : FetchCall → Prop
  | .progress userCbData _ downloaded => ∀ size ∈ downloadSize before userCbData, downloaded ≤ size
  | _ => True

instance decidableExpected (before : List FetchCall) :
    (call : FetchCall) → Decidable (Expected before call)
  | .addNewDownload _ totalToDownload => inferInstanceAs (Decidable (0 ≤ totalToDownload))
  | .progress userCbData totalToDownload downloaded => inferInstanceAs (Decidable
      ((downloadSize before userCbData).isSome = true ∧ 0 ≤ totalToDownload ∧ 0 ≤ downloaded))
  | .end userCbData _ _ => inferInstanceAs (Decidable ((downloadSize before userCbData).isSome = true))
  | .mirrorFailure userCbData _ _ _ =>
      inferInstanceAs (Decidable ((downloadSize before userCbData).isSome = true))

instance decidableNotLess (before : List FetchCall) :
    (call : FetchCall) → Decidable (NotLess before call)
  | .progress userCbData _ downloaded =>
      inferInstanceAs (Decidable (∀ n ∈ reports before userCbData, n ≤ downloaded))
  | .addNewDownload _ _ => inferInstanceAs (Decidable True)
  | .end _ _ _ => inferInstanceAs (Decidable True)
  | .mirrorFailure _ _ _ _ => inferInstanceAs (Decidable True)

instance decidableWithinAnnounced (before : List FetchCall) :
    (call : FetchCall) → Decidable (WithinAnnounced before call)
  | .progress userCbData _ downloaded =>
      inferInstanceAs (Decidable (∀ size ∈ downloadSize before userCbData, downloaded ≤ size))
  | .addNewDownload _ _ => inferInstanceAs (Decidable True)
  | .end _ _ _ => inferInstanceAs (Decidable True)
  | .mirrorFailure _ _ _ _ => inferInstanceAs (Decidable True)

section Reports

variable {calls : List FetchCall} {call : FetchCall} {userCbData : ℕ}

/-- One more call adds the size that it announces. -/
theorem announcedSizes_concat :
    announcedSizes (calls ++ [call]) = announcedSizes calls ++ call.announced?.toList := by
  rw [announcedSizes, filterMap_concat, announcedSizes]

/-- One more call adds what it reports. -/
theorem reports_concat :
    reports (calls ++ [call]) userCbData
      = reports calls userCbData ++ (call.reported? userCbData).toList := by
  rw [reports, filterMap_concat, reports]

/-- A call that announces nothing leaves the sizes as they are. -/
theorem downloadSize_concat_none (h : call.announced? = none) :
    downloadSize (calls ++ [call]) userCbData = downloadSize calls userCbData := by
  rw [downloadSize, announcedSizes_concat, h, Option.toList_none, List.append_nil, downloadSize]

/-- A new download has the next number. -/
theorem downloadSize_concat_some {size : ℚ} (h : call.announced? = some size) :
    downloadSize (calls ++ [call]) userCbData
      = if userCbData = (announcedSizes calls).length + 1 then some size
        else downloadSize calls userCbData := by
  rw [downloadSize, announcedSizes_concat, h, Option.toList_some, downloadSize]
  cases userCbData with
  | zero => simp
  | succ i =>
      simp only [Nat.add_eq_zero_iff, one_ne_zero, and_false, if_false, Nat.add_sub_cancel,
        Nat.add_right_cancel_iff]
      by_cases heq : i = (announcedSizes calls).length
      · rw [if_pos heq, heq, List.getElem?_concat_length]
      · rw [if_neg heq]
        rcases Nat.lt_or_gt_of_ne heq with hlt | hgt
        · rw [List.getElem?_append_left hlt]
        · rw [List.getElem?_eq_none (by simp; omega), List.getElem?_eq_none (by omega)]

/-- The next number is not yet taken. -/
theorem downloadSize_next : downloadSize calls ((announcedSizes calls).length + 1) = none := by
  rw [downloadSize, if_neg (Nat.succ_ne_zero _), Nat.add_sub_cancel, List.getElem?_eq_none le_rfl]

end Reports

/-! ### The two accounts -/

/-- The announced sizes as a dictionary, for a sequence in which no download exceeds its own. -/
structure Covered (calls : List FetchCall) (s : FetchProgress) (sizes : Dict ℕ ℚ) : Prop where
  /-- The sizes are the announced ones. -/
  get? : ∀ userCbData, sizes.get? userCbData = downloadSize calls userCbData
  /-- Together they are what is to be fetched. -/
  total : sizes.total = s.bytesToFetch
  /-- No download has more. -/
  le : ∀ userCbData, s.packageBytes.getZero userCbData ≤ sizes.getZero userCbData
  /-- No more than everything has been reported. -/
  percentages : ∀ percent ∈ s.percentages, percent ≤ 100

/-- What the object knows after a sequence of calls: each download and the largest number of bytes
reported for it; the bytes of all downloads together are never too many, and they are exact as long
as no download reports less than before. -/
structure Accounted (calls : List FetchCall) (s : FetchProgress) : Prop where
  ready : s.toProgress.Ready
  count : s.count = (announcedSizes calls).length
  toFetch : s.bytesToFetch = (announcedSizes calls).sum
  nonneg : 0 ≤ s.bytesToFetch
  knows : ∀ userCbData, (s.packageBytes.get? userCbData).isSome = true
    ↔ (downloadSize calls userCbData).isSome = true
  names : ∀ userCbData, (s.packageNames.get? userCbData).isSome = true
    ↔ (downloadSize calls userCbData).isSome = true
  largest : ∀ userCbData, ∀ n ∈ reports calls userCbData, n ≤ s.packageBytes.getZero userCbData
  reported : ∀ userCbData, s.packageBytes.getZero userCbData = 0
    ∨ s.packageBytes.getZero userCbData ∈ reports calls userCbData
  le_total : s.bytesFetched ≤ s.packageBytes.total
  exact_iff : s.bytesFetched = s.packageBytes.total ↔ EachAfter NotLess calls
  covered : EachAfter WithinAnnounced calls → ∃ sizes, Covered calls s sizes

section Accounts

/-- A new download reports nothing. -/
theorem notLess_addNewDownload {calls : List FetchCall} (description : String) (total : ℚ) :
    NotLess calls (.addNewDownload description total) := trivial

variable {calls : List FetchCall} {call : FetchCall} {s s' : FetchProgress}

/-- At the beginning, both accounts are empty. -/
theorem accounted_init (weight start stop : ℚ) :
    Accounted [] (FetchProgress.init weight start stop) where
  ready := Progress.ready_init _ _ _
  count := rfl
  toFetch := rfl
  nonneg := le_rfl
  knows := by simp [FetchProgress.init, downloadSize, announcedSizes]
  names := by simp [FetchProgress.init, downloadSize, announcedSizes]
  largest := by simp [reports]
  reported := fun _ => Or.inl rfl
  le_total := le_rfl
  exact_iff := by simp [FetchProgress.init]
  covered := by
    intro _
    refine ⟨Dict.empty, ?_, rfl, fun _ => le_rfl, ?_⟩
    · simp [downloadSize, announcedSizes]
    · simp [FetchProgress.init, Progress.init]

/-- A call that announces and reports nothing changes no account. -/
theorem accounted_setProgress (h : Accounted calls s) {p' : Progress} (hready : p'.Ready)
    (hpercentages : p'.percentages = s.percentages) (hannounced : call.announced? = none)
    (hreported : ∀ userCbData, call.reported? userCbData = none) (hless : NotLess calls call)
    (hwithin : WithinAnnounced calls call) : Accounted (calls ++ [call]) (setProgress p' s) := by
  have hreports : ∀ userCbData, reports (calls ++ [call]) userCbData = reports calls userCbData := by
    intro userCbData
    rw [reports_concat, hreported, Option.toList_none, List.append_nil]
  refine ⟨hready, ?_, ?_, h.nonneg, ?_, ?_, ?_, ?_, h.le_total, ?_, ?_⟩
  · rw [announcedSizes_concat, hannounced, Option.toList_none, List.append_nil]
    exact h.count
  · rw [announcedSizes_concat, hannounced, Option.toList_none, List.append_nil]
    exact h.toFetch
  · intro userCbData
    rw [downloadSize_concat_none hannounced]
    exact h.knows userCbData
  · intro userCbData
    rw [downloadSize_concat_none hannounced]
    exact h.names userCbData
  · intro userCbData
    rw [hreports]
    exact h.largest userCbData
  · intro userCbData
    rw [hreports]
    exact h.reported userCbData
  · rw [eachAfter_concat, and_iff_left hless]
    exact h.exact_iff
  · rw [eachAfter_concat, and_iff_left hwithin]
    intro hall
    obtain ⟨sizes, hsizes, htotal, hle, hpercent⟩ := h.covered hall
    refine ⟨sizes, ?_, htotal, hle, ?_⟩
    · intro userCbData
      rw [downloadSize_concat_none hannounced]
      exact hsizes userCbData
    · intro percent hmem
      apply hpercent percent
      rw [← hpercentages]
      exact hmem

/-- A new download has no bytes yet. -/
theorem getZero_next (h : Accounted calls s) : s.packageBytes.getZero (s.count + 1) = 0 := by
  have hknows := h.knows (s.count + 1)
  rw [h.count, downloadSize_next, ← h.count] at hknows
  have hnew : s.packageBytes.get? (s.count + 1) = none := by simpa using hknows
  rw [Dict.getZero, hnew, Option.getD_none]

/-- The size of a new download is one more bound. -/
theorem covered_addNewDownload {sizes : Dict ℕ ℚ} (hcovered : Covered calls s sizes) {number : ℕ}
    (hnumber : number = (announcedSizes calls).length + 1) (description : String) {total : ℚ}
    (htotal : 0 ≤ total) (hzero : s.packageBytes.getZero number = 0)
    (htoFetch : s'.bytesToFetch = s.bytesToFetch + total)
    (hget : ∀ userCbData, s'.packageBytes.getZero userCbData = s.packageBytes.getZero userCbData)
    (hpercentages : s'.percentages = s.percentages ++ [0]) :
    Covered (calls ++ [.addNewDownload description total]) s' (sizes.set number total) := by
  have hfree : sizes.getZero number = 0 := by
    rw [Dict.getZero, hcovered.get?, hnumber, downloadSize_next, Option.getD_none]
  refine ⟨?_, ?_, ?_, ?_⟩
  · intro userCbData
    rw [Dict.get?_set, downloadSize_concat_some rfl, hcovered.get?, hnumber]
  · rw [Dict.total_set, hfree, sub_zero, hcovered.total, htoFetch]
  · intro userCbData
    rw [hget, Dict.getZero_set]
    split
    case isTrue heq =>
      rw [heq, hzero]
      exact htotal
    case isFalse => exact hcovered.le userCbData
  · rw [hpercentages, List.forall_mem_append, List.forall_mem_singleton]
    exact ⟨hcovered.percentages, by norm_num⟩

/-- A new download keeps the accounts. -/
theorem accounted_addNewDownload (h : Accounted calls s) {p' : Progress} (hready : p'.Ready)
    (hpercentages : p'.percentages = s.percentages ++ [0]) (description : String) {total : ℚ}
    (htotal : 0 ≤ total) :
    Accounted (calls ++ [.addNewDownload description total])
      { s with
        toProgress := p'
        count := s.count + 1
        bytesToFetch := s.bytesToFetch + total
        packageBytes := s.packageBytes.set (s.count + 1) 0
        packageNames := s.packageNames.set (s.count + 1) description } := by
  have hsize : ∀ userCbData, downloadSize (calls ++ [.addNewDownload description total]) userCbData
      = if userCbData = s.count + 1 then some total else downloadSize calls userCbData := by
    intro userCbData
    rw [downloadSize_concat_some rfl, h.count]
  have hreports : ∀ userCbData,
      reports (calls ++ [.addNewDownload description total]) userCbData = reports calls userCbData := by
    intro userCbData
    rw [reports_concat]
    exact List.append_nil _
  have hzero := getZero_next h
  have hget : ∀ userCbData, (s.packageBytes.set (s.count + 1) 0).getZero userCbData
      = s.packageBytes.getZero userCbData := by
    intro userCbData
    rw [Dict.getZero_set]
    split
    case isTrue heq => rw [heq, hzero]
    case isFalse => rfl
  have hsum : (s.packageBytes.set (s.count + 1) 0).total = s.packageBytes.total := by
    rw [Dict.total_set, hzero, sub_zero, add_zero]
  refine ⟨hready, ?_, ?_, add_nonneg h.nonneg htotal, ?_, ?_, ?_, ?_, ?_, ?_, ?_⟩
  · rw [announcedSizes_concat]
    simp [FetchCall.announced?, h.count]
  · rw [announcedSizes_concat]
    simp [FetchCall.announced?, h.toFetch]
  · intro userCbData
    rw [Dict.isSome_get?_set, hsize, h.knows]
    by_cases heq : userCbData = s.count + 1
    · simp [heq]
    · simp [heq]
  · intro userCbData
    rw [Dict.isSome_get?_set, hsize, h.names]
    by_cases heq : userCbData = s.count + 1
    · simp [heq]
    · simp [heq]
  · intro userCbData
    rw [hreports, hget]
    exact h.largest userCbData
  · intro userCbData
    rw [hreports, hget]
    exact h.reported userCbData
  · rw [hsum]
    exact h.le_total
  · rw [hsum, eachAfter_concat, and_iff_left (notLess_addNewDownload description total)]
    exact h.exact_iff
  · rw [eachAfter_concat]
    rintro ⟨hall, -⟩
    obtain ⟨sizes, hcovered⟩ := h.covered hall
    exact ⟨_, covered_addNewDownload hcovered (by rw [h.count]) description htotal hzero rfl hget
      hpercentages⟩

/-- A report is not less than all before exactly if it is not less than what the object knows. -/
theorem notLess_progress_iff (h : Accounted calls s) {userCbData : ℕ}
    (totalToDownload : ℚ) {downloaded : ℚ} (hnonneg : 0 ≤ downloaded) :
    NotLess calls (.progress userCbData totalToDownload downloaded)
      ↔ s.packageBytes.getZero userCbData ≤ downloaded := by
  rw [NotLess]
  constructor
  · intro hall
    rcases h.reported userCbData with hzero | hmem
    · rw [hzero]
      exact hnonneg
    · exact hall _ hmem
  · intro hle n hmem
    exact (h.largest userCbData n hmem).trans hle

section Counted

variable {userCbData : ℕ} {totalToDownload downloaded : ℚ}
  (hcounted : FetchProgress.Counted userCbData downloaded (s.packageBytes.getZero userCbData) s s')

include hcounted

/-- A download keeps the largest number of bytes. -/
theorem getZero_counted (other : ℕ) :
    s'.packageBytes.getZero other
      = if other = userCbData then max (s.packageBytes.getZero userCbData) downloaded
        else s.packageBytes.getZero other := by
  rw [hcounted.packageBytes]
  by_cases hmore : s.packageBytes.getZero userCbData < downloaded
  · rw [if_pos hmore, Dict.getZero_set, max_eq_right hmore.le]
  · rw [if_neg hmore, max_eq_left (not_lt.mp hmore)]
    split
    case isTrue heq => rw [heq]
    case isFalse => rfl

/-- The bytes of the downloads together grow by what the download has more. -/
theorem total_counted :
    s'.packageBytes.total = s.packageBytes.total
      + (max (s.packageBytes.getZero userCbData) downloaded - s.packageBytes.getZero userCbData) := by
  rw [hcounted.packageBytes]
  by_cases hmore : s.packageBytes.getZero userCbData < downloaded
  · rw [if_pos hmore, Dict.total_set, max_eq_right hmore.le]
  · rw [if_neg hmore, max_eq_left (not_lt.mp hmore), sub_self, add_zero]

/-- A report about a known download makes no other one known. -/
theorem isSome_counted (hknown : (s.packageBytes.get? userCbData).isSome = true) (other : ℕ) :
    (s'.packageBytes.get? other).isSome = true ↔ (s.packageBytes.get? other).isSome = true := by
  rw [hcounted.packageBytes]
  split
  · rw [Dict.isSome_get?_set]
    constructor
    · rintro (rfl | hother)
      · exact hknown
      · exact hother
    · exact Or.inr
  · rfl

/-- Too few bytes have been fetched together after the report, if there were too few before. -/
theorem le_total_counted (hle : s.bytesFetched ≤ s.packageBytes.total) :
    s'.bytesFetched ≤ s'.packageBytes.total := by
  rw [hcounted.bytesFetched, total_counted hcounted]
  have := le_max_right (s.packageBytes.getZero userCbData) downloaded
  linarith

/-- The accounts are exact after a report exactly if they were before and it is not less. -/
theorem exact_counted (hle : s.bytesFetched ≤ s.packageBytes.total) :
    s'.bytesFetched = s'.packageBytes.total
      ↔ s.bytesFetched = s.packageBytes.total ∧ s.packageBytes.getZero userCbData ≤ downloaded := by
  rw [hcounted.bytesFetched, total_counted hcounted]
  constructor
  · intro heq
    have hmax := le_max_right (s.packageBytes.getZero userCbData) downloaded
    have hmore : max (s.packageBytes.getZero userCbData) downloaded = downloaded := by linarith
    exact ⟨by linarith, max_eq_right_iff.mp hmore⟩
  · rintro ⟨heq, hmore⟩
    rw [heq, max_eq_right hmore]

/-- A report within the announced size of its download keeps the sizes an upper bound. -/
theorem covered_counted {sizes : Dict ℕ ℚ} (hcovered : Covered calls s sizes)
    (hle : s.bytesFetched ≤ s.packageBytes.total) (hnonneg : 0 ≤ s.bytesToFetch)
    (hsize : downloaded ≤ sizes.getZero userCbData) :
    Covered (calls ++ [.progress userCbData totalToDownload downloaded]) s' sizes := by
  have hcover : ∀ other, s'.packageBytes.getZero other ≤ sizes.getZero other := by
    intro other
    rw [getZero_counted hcounted]
    split
    case isTrue heq =>
      rw [heq]
      exact max_le (hcovered.le userCbData) hsize
    case isFalse => exact hcovered.le other
  refine ⟨?_, ?_, hcover, ?_⟩
  · intro other
    rw [downloadSize_concat_none rfl]
    exact hcovered.get? other
  · rw [hcounted.bytesToFetch]
    exact hcovered.total
  · rw [hcounted.percentages, List.forall_mem_append]
    refine ⟨hcovered.percentages, ?_⟩
    -- everything that is to be fetched covers what has been fetched
    have hfetched : s'.bytesFetched ≤ s.bytesToFetch := by
      rw [← hcovered.total]
      exact (le_total_counted hcounted hle).trans (Dict.total_le_total hcover)
    split
    case isFalse => simp
    case isTrue hreport =>
      rw [List.forall_mem_singleton]
      have hpos : 0 < s.bytesToFetch := lt_of_le_of_ne hnonneg (Ne.symm hreport.2)
      have hshare : s'.bytesFetched / s.bytesToFetch ≤ 1 := (div_le_one hpos).mpr hfetched
      linarith

/-- A report about a download keeps the accounts; they stay exact if it is not less than before. -/
theorem accounted_counted (h : Accounted calls s)
    (hknown : (downloadSize calls userCbData).isSome = true) (hnonneg : 0 ≤ downloaded) :
    Accounted (calls ++ [.progress userCbData totalToDownload downloaded]) s' := by
  have hreports : ∀ other, reports (calls ++ [.progress userCbData totalToDownload downloaded]) other
      = reports calls other ++ (if userCbData = other then [downloaded] else []) := by
    intro other
    rw [reports_concat, FetchCall.reported?]
    split
    · rw [Option.toList_some]
    · rw [Option.toList_none]
  refine ⟨hcounted.ready, ?_, ?_, ?_, ?_, ?_, ?_, ?_, le_total_counted hcounted h.le_total, ?_, ?_⟩
  · rw [hcounted.count, h.count, announcedSizes_concat]
    exact (congrArg List.length (List.append_nil _)).symm
  · rw [hcounted.bytesToFetch, h.toFetch, announcedSizes_concat]
    exact (congrArg List.sum (List.append_nil _)).symm
  · rw [hcounted.bytesToFetch]
    exact h.nonneg
  · intro other
    rw [downloadSize_concat_none rfl, ← h.knows other]
    exact isSome_counted hcounted ((h.knows userCbData).mpr hknown) other
  · intro other
    rw [hcounted.packageNames, downloadSize_concat_none rfl]
    exact h.names other
  · intro other
    rw [hreports, List.forall_mem_append, getZero_counted hcounted]
    have hlargest := h.largest other
    by_cases heq : other = userCbData
    · subst heq
      rw [if_pos rfl, if_pos rfl, List.forall_mem_singleton]
      exact ⟨fun n hmem => (hlargest n hmem).trans (le_max_left _ _), le_max_right _ _⟩
    · rw [if_neg heq, if_neg (Ne.symm heq)]
      exact ⟨hlargest, by simp⟩
  · intro other
    rw [getZero_counted hcounted, hreports, List.mem_append]
    have hreported := h.reported other
    by_cases heq : other = userCbData
    · subst heq
      rw [if_pos rfl, if_pos rfl, List.mem_singleton]
      rcases max_choice (s.packageBytes.getZero other) downloaded with hmax | hmax
      · rw [hmax]
        exact hreported.imp_right Or.inl
      · exact Or.inr (Or.inr hmax)
    · rw [if_neg heq, if_neg (Ne.symm heq)]
      exact hreported.imp_right Or.inl
  · rw [eachAfter_concat, notLess_progress_iff h totalToDownload hnonneg, ← h.exact_iff]
    exact exact_counted hcounted h.le_total
  · rw [eachAfter_concat]
    rintro ⟨hall, hwithin⟩
    obtain ⟨sizes, hcovered⟩ := h.covered hall
    obtain ⟨size, hsome⟩ := Option.isSome_iff_exists.mp hknown
    have hsize : sizes.getZero userCbData = size := by
      rw [Dict.getZero, hcovered.get?, hsome, Option.getD_some]
    refine ⟨sizes, covered_counted hcounted hcovered h.le_total h.nonneg ?_⟩
    rw [hsize]
    exact hwithin size hsome

end Counted

/-- A message printed by a method changes no account. -/
theorem accounted_print (h : Accounted calls s) (lines : List String)
    (hannounced : call.announced? = none) (hreported : ∀ userCbData, call.reported? userCbData = none)
    (hless : NotLess calls call) (hwithin : WithinAnnounced calls call) :
    Accounted (calls ++ [call]) (print lines s) :=
  accounted_setProgress h ((Progress.ready_print lines).mpr h.ready)
    (Progress.percentages_print lines) hannounced hreported hless hwithin

/-- Every call keeps the accounts. -/
theorem accounted_handle (h : Accounted calls s) (hcall : Expected calls call) :
    Accounted (calls ++ [call]) (exec (FetchProgress.handle call) s).2 := by
  cases call with
  | addNewDownload description total =>
      obtain ⟨p', hexec, hready, hpercentages⟩ :=
        FetchProgress.exec_addNewDownload h.ready description total
      rw [FetchProgress.handle, exec_bind hexec, exec_pure]
      exact accounted_addNewDownload h hready hpercentages description hcall
  | progress userCbData total downloaded =>
      obtain ⟨hknown, -, hnonneg⟩ := hcall
      obtain ⟨bytes, hbytes⟩ := Option.isSome_iff_exists.mp ((h.knows userCbData).mpr hknown)
      obtain ⟨r, s', hexec, hcounted, -⟩ := FetchProgress.exec_progress total downloaded h.ready hbytes
        ((h.names userCbData).mpr hknown)
      have hzero : s.packageBytes.getZero userCbData = bytes := by
        rw [Dict.getZero, hbytes, Option.getD_some]
      rw [← hzero] at hcounted
      rw [FetchProgress.handle, hexec]
      exact accounted_counted hcounted h hknown hnonneg
  | «end» userCbData status msg =>
      rw [FetchProgress.handle, FetchProgress.end, exec_modify]
      dsimp only
      split
      · exact accounted_print h _ rfl (fun _ => rfl) trivial trivial
      · exact accounted_setProgress h h.ready rfl rfl (fun _ => rfl) trivial trivial
  | mirrorFailure userCbData msg url metadata =>
      obtain ⟨name, hname⟩ := Option.isSome_iff_exists.mp ((h.names userCbData).mpr hcall)
      rw [FetchProgress.handle, FetchProgress.mirrorFailure,
        exec_bind (FetchProgress.exec_packageName hname), exec_modify]
      exact accounted_print h _ rfl (fun _ => rfl) trivial trivial

end Accounts

/-- **The accounts after every sequence of calls.** -/
theorem accounted_after (weight start stop : ℚ) {calls : List FetchCall}
    (h : EachAfter Expected calls) :
    Accounted calls (after FetchProgress.handle (FetchProgress.init weight start stop) calls) :=
  after_invariant (accounted_init weight start stop)
    (fun _ _ _ hinv hcall => accounted_handle hinv hcall) calls h

/-- The bytes of all downloads together are those of the single downloads, and the percentages do not
exceed 100 unless a download exceeds its announced size. -/
def Exact (calls : List FetchCall) (s : FetchProgress) : Prop :=
  s.bytesFetched = s.packageBytes.total
    ∧ (EachAfter WithinAnnounced calls → ∀ percent ∈ s.percentages, percent ≤ 100)

/-- The accounts are exact after exactly those sequences of calls in which no download reports fewer
bytes than it has reported before. -/
theorem exact_iff_notLess (weight start stop : ℚ) (calls : List FetchCall) (h : EachAfter Expected calls) :
    Exact calls (after FetchProgress.handle (FetchProgress.init weight start stop) calls)
      ↔ EachAfter NotLess calls := by
  have haccounted := accounted_after weight start stop h
  rw [Exact, ← haccounted.exact_iff, and_iff_left]
  intro hwithin
  obtain ⟨sizes, hcovered⟩ := haccounted.covered hwithin
  exact hcovered.percentages

/-- A download that starts again from another mirror. -/
def restartedDownload : List FetchCall :=
  [.addNewDownload "qubes-core-agent" 100, .progress 1 100 60, .progress 1 100 0,
    .progress 1 100 100]

/-- The condition decides about the download that starts again. -/
theorem exact_iff_notLess_restarted :
    Exact restartedDownload
        (after FetchProgress.handle (FetchProgress.init 55 0 55) restartedDownload)
      ↔ EachAfter NotLess restartedDownload :=
  exact_iff_notLess 55 0 55 restartedDownload (by decide +kernel)

/-- The accounts differ after a download has started again. -/
theorem not_exact_restarted :
    EachAfter Expected restartedDownload ∧ ¬ Exact restartedDownload
      (after FetchProgress.handle (FetchProgress.init 55 0 55) restartedDownload) := by
  have hbytes : (after FetchProgress.handle (FetchProgress.init 55 0 55) restartedDownload).bytesFetched
      = 40 := by decide +kernel
  have htotal : (after FetchProgress.handle (FetchProgress.init 55 0 55)
      restartedDownload).packageBytes.total = 100 := by decide +kernel
  refine ⟨by decide +kernel, ?_⟩
  rintro ⟨hexact, -⟩
  rw [hbytes, htotal] at hexact
  norm_num at hexact

end Dnf5

end QubesAdminLinux
