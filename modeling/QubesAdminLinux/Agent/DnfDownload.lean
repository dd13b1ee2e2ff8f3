import QubesAdminLinux.Agent.Progress
import QubesAdminLinux.Lib.Callbacks
import QubesAdminLinux.Lib.Totals

/-! # Accounting of downloads with DNF

The library of DNF starts a download of several payloads, maybe more than once, and reports how many
bytes of each payload there are.  `FetchProgress` keeps the bytes of each payload and, beside it, the
bytes of all payloads together; a start only forgets the former, and not even these in a refresh.

* **`Dnf.FetchProgress`** — the object and its methods; **`Dnf.FetchCall`** — their calls.
* **`Dnf.Accounted`** — what the object knows after a sequence of calls; `Dnf.accounted_after`.
* **`Dnf.InStart`** — the state within a start that has found no bytes; `Dnf.inStart_after`.
* **`Dnf.exact_of_startsEmpty`** — the two accounts agree, and the percentages are right, if no payload
  has any bytes yet whenever a download starts.

Percentages are exact numbers here. -/

namespace QubesAdminLinux

open StateExcept DerivesProgress

namespace Dnf

/-- `FetchProgress`. -/
structure FetchProgress extends Progress where
  /-- `action`. -/
  action : FetchAction
  /-- `bytes_to_fetch`: the total size that the last start has announced. -/
  bytesToFetch : Option ℤ := none
  /-- `bytes_fetched`: the bytes of all payloads so far. -/
  bytesFetched : ℤ := 0
  /-- `package_bytes`: the bytes of each payload so far. -/
  packageBytes : Dict String ℤ := Dict.empty

instance : DerivesProgress FetchProgress where
  progressOf := FetchProgress.toProgress
  setProgress p s := { s with toProgress := p }

/-- A call of a method of `FetchProgress` by the library. -/
inductive FetchCall
  | start (totalFiles totalSize totalDrpms : ℤ)
  | progress (payload : String) (done : ℤ)
  | «end» (payload : String) (status : ℤ) (msg : LibraryMessage)
  | message (msg : LibraryMessage)
  deriving DecidableEq

namespace FetchProgress

/-- A new object, initialised by a reporter. -/
def init (weight : ℚ) (action : FetchAction) (start stop : ℚ) : FetchProgress :=
  { toProgress := Progress.init start stop { weight := weight }, action := action }

/-- `start`, before the notification. -/
def started (totalFiles totalSize : ℤ) (s : FetchProgress) : FetchProgress :=
  let s := { s with bytesToFetch := some totalSize }
  match s.action with
  | .refresh => print ["Refreshing available packages."] s
  | .fetch =>
      -- the bytes of the payloads are forgotten, those of all payloads together are not
      { print [s!"Fetching {totalFiles} packages [{formatBytes totalSize}]"] s with
        packageBytes := Dict.empty }

/-- `start`. -/
def start (totalFiles totalSize : ℤ) : StateExcept FetchProgress CallbackError Unit := do
  modify (started totalFiles totalSize)
  base (notifyPercent 0)

/-- `progress`: the bytes of a payload are counted. -/
def counted (payload : String) (done : ℤ) (s : FetchProgress) : FetchProgress :=
  { s with
    bytesFetched := s.bytesFetched + (done - s.packageBytes.getZero payload)
    packageBytes := s.packageBytes.set payload done }

/-- `percent = self.bytes_fetched / self.bytes_to_fetch * 100`, and its report. -/
def reportFetched : StateExcept FetchProgress CallbackError Unit := do
  let s ← get
  match s.bytesToFetch with
  | none => throw .assertionError
  | some bytesToFetch => base (notifyShare s.bytesFetched bytesToFetch)

/-- `progress`. -/
def progress (payload : String) (done : ℤ) : StateExcept FetchProgress CallbackError Unit := do
  modify (counted payload done)
  reportFetched

/-- `end`. -/
def «end» (payload : String) (status : ℤ) (msg : LibraryMessage) :
    StateExcept FetchProgress CallbackError Unit :=
  modify fun s =>
    print (if status ≠ 0 then printNonempty msg.decode
      else [s!"{payload}: {s.action.capitalize}ed"]) s

/-- `message`. -/
def message (msg : LibraryMessage) : StateExcept FetchProgress CallbackError Unit :=
  modify (print (printNonempty msg.decode))

/-- The method that is called. -/
def handle : FetchCall → StateExcept FetchProgress CallbackError Unit
  | .start totalFiles totalSize _ => start totalFiles totalSize
  | .progress payload done => progress payload done
  | .end payload status msg => FetchProgress.end payload status msg
  | .message msg => message msg

/-! ### What the methods do -/

section Effects

variable {s : FetchProgress}

/-- A start forgets the bytes of the payloads unless it is a refresh that starts. -/
theorem exec_start (h : s.toProgress.Ready) (totalFiles totalSize : ℤ) :
    ∃ p', exec (start totalFiles totalSize) s
        = (.ok (), { s with
            toProgress := p'
            bytesToFetch := some totalSize
            packageBytes := if s.action = .fetch then Dict.empty else s.packageBytes })
      ∧ p'.Ready ∧ p'.percentages = s.percentages ++ [0] := by
  have hstarted : ∃ p₁, started totalFiles totalSize s
      = { s with
          toProgress := p₁
          bytesToFetch := some totalSize
          packageBytes := if s.action = .fetch then Dict.empty else s.packageBytes }
      ∧ p₁.Ready ∧ p₁.percentages = s.percentages := by
    unfold started
    cases hfetch : s.action with
    | refresh => exact ⟨_, rfl, h, rfl⟩
    | fetch => exact ⟨_, rfl, h, rfl⟩
  obtain ⟨p₁, hstarted, hready₁, hpercentages₁⟩ := hstarted
  unfold start
  rw [exec_bind (exec_modify _), hstarted]
  obtain ⟨p', hexec, hready, hpercentages⟩ := exec_notifyPercent hready₁ 0
  refine ⟨p', exec_base hexec, hready, ?_⟩
  rw [hpercentages, hpercentages₁]

/-- A report counts the bytes of its payload; it raises exactly if nothing is to be fetched. -/
theorem exec_progress (h : s.toProgress.Ready) (payload : String) (done : ℤ) :
    ∃ r p', exec (progress payload done) s = (r, setProgress p' (s.counted payload done)) ∧ p'.Ready
      ∧ (r = .ok () ↔ ∃ total ∈ s.bytesToFetch, total ≠ 0)
      ∧ (p'.percentages = s.percentages ∨ ∃ total ∈ s.bytesToFetch, total ≠ 0
        ∧ p'.percentages = s.percentages
          ++ [((s.counted payload done).bytesFetched : ℚ) / total * 100]) := by
  unfold progress reportFetched
  rw [exec_bind (exec_modify _), exec_bind exec_get]
  have hsame : (s.counted payload done).bytesToFetch = s.bytesToFetch := rfl
  rw [hsame]
  cases hbytes : s.bytesToFetch with
  | none =>
      refine ⟨.error .assertionError, s.toProgress, exec_throw _, h, ?_, Or.inl rfl⟩
      simp
  | some total =>
      obtain ⟨r, p', hexec, hready, hok, hpercentages⟩ :=
        exec_notifyShare h ((s.counted payload done).bytesFetched : ℚ) total
      refine ⟨r, p', exec_base hexec, hready, by simp [hok], ?_⟩
      by_cases hzero : total = 0
      · exact Or.inl (by simp [hpercentages, hzero])
      · exact Or.inr ⟨total, rfl, hzero, by simp [hpercentages, hzero]⟩

end Effects

end FetchProgress

/-! ### What the library reports -/

/-- Note the bytes that a call reports. -/
def FetchCall.note (counts : Dict String ℤ) : FetchCall → Dict String ℤ
  | progress payload done => counts.set payload done
  | _ => counts

/-- The last report about each payload. -/
def lastCounts (calls : List FetchCall) : Dict String ℤ := calls.foldl FetchCall.note Dict.empty

/-- No count of a call is negative. -/
def FetchCall.NonNegative : FetchCall → Prop
  | .start totalFiles totalSize totalDrpms => 0 ≤ totalFiles ∧ 0 ≤ totalSize ∧ 0 ≤ totalDrpms
  | .progress _ done => 0 ≤ done
  | _ => True

/-- Whenever something starts, no payload has any bytes yet. -/
def StartsEmpty (before : List FetchCall) : FetchCall → Prop
  | .start _ _ _ => ∀ done ∈ (lastCounts before).values, done = 0
  | _ => True

/-- Nothing starts again, and the payloads together have no more than the total size. -/
def WithinTotal (totalSize : ℤ) (before : List FetchCall) : FetchCall → Prop
  | .start _ _ _ => False
  | .progress payload done => ((lastCounts before).set payload done).total ≤ totalSize
  | _ => True

instance decidableNonNegative : (call : FetchCall) → Decidable call.NonNegative
  | .start totalFiles totalSize totalDrpms =>
      inferInstanceAs (Decidable (0 ≤ totalFiles ∧ 0 ≤ totalSize ∧ 0 ≤ totalDrpms))
  | .progress _ done => inferInstanceAs (Decidable (0 ≤ done))
  | .end _ _ _ => inferInstanceAs (Decidable True)
  | .message _ => inferInstanceAs (Decidable True)

instance decidableStartsEmpty (before : List FetchCall) :
    (call : FetchCall) → Decidable (StartsEmpty before call)
  | .start _ _ _ => inferInstanceAs (Decidable (∀ done ∈ (lastCounts before).values, done = 0))
  | .progress _ _ => inferInstanceAs (Decidable True)
  | .end _ _ _ => inferInstanceAs (Decidable True)
  | .message _ => inferInstanceAs (Decidable True)

section Reports

variable {calls : List FetchCall} {call : FetchCall}

/-- One more call notes what it reports. -/
theorem lastCounts_concat :
    lastCounts (calls ++ [call]) = call.note (lastCounts calls) := by
  rw [lastCounts, List.foldl_append, List.foldl_cons, List.foldl_nil, lastCounts]

/-- The last reports are not negative. -/
theorem lastCounts_nonneg (h : ∀ call ∈ calls, call.NonNegative) (payload : String) :
    0 ≤ (lastCounts calls).getZero payload := by
  induction calls using List.reverseRecOn with
  | nil => exact le_rfl
  | append_singleton calls call ih =>
      rw [List.forall_mem_append, List.forall_mem_singleton] at h
      have hbefore := ih h.1
      rw [lastCounts_concat]
      cases call with
      | progress other done =>
          rw [FetchCall.note, Dict.getZero_set]
          split
          · exact h.2
          · exact hbefore
      | start totalFiles totalSize totalDrpms => exact hbefore
      | «end» other status msg => exact hbefore
      | message msg => exact hbefore

/-- A start finds no bytes exactly if the last reports add up to nothing. -/
theorem startsEmpty_start_iff (h : ∀ call ∈ calls, call.NonNegative)
    (totalFiles totalSize totalDrpms : ℤ) :
    StartsEmpty calls (.start totalFiles totalSize totalDrpms) ↔ (lastCounts calls).total = 0 := by
  rw [StartsEmpty, Dict.total_eq_zero_iff (lastCounts_nonneg h)]
  constructor
  · intro hall payload
    rw [Dict.getZero]
    cases hget : (lastCounts calls).get? payload with
    | none => rfl
    | some done => exact hall done ((Dict.mem_values _ _).mpr ⟨payload, hget⟩)
  · intro hall done hmem
    obtain ⟨payload, hget⟩ := (Dict.mem_values _ _).mp hmem
    have hzero := hall payload
    rw [Dict.getZero, hget] at hzero
    exact hzero

end Reports

/-! ### The two accounts -/

/-- What the object knows after a sequence of calls: the bytes of all payloads together are never too
few, they are exact if nothing has been forgotten, and then the bytes of each payload are what has
been reported last. -/
structure Accounted (action : FetchAction) (calls : List FetchCall) (s : FetchProgress) : Prop where
  ready : s.toProgress.Ready
  action_eq : s.action = action
  nonneg : ∀ payload, 0 ≤ s.packageBytes.getZero payload
  total_le : s.packageBytes.total ≤ s.bytesFetched
  exact_iff : s.bytesFetched = s.packageBytes.total
    ↔ action = .refresh ∨ EachAfter StartsEmpty calls
  last : EachAfter StartsEmpty calls →
    ∀ payload, s.packageBytes.getZero payload = (lastCounts calls).getZero payload

section Accounts

variable {action : FetchAction} {calls : List FetchCall} {call : FetchCall} {s : FetchProgress}

/-- At the beginning, both accounts are empty. -/
theorem accounted_init (weight : ℚ) (action : FetchAction) (start stop : ℚ) :
    Accounted action [] (FetchProgress.init weight action start stop) where
  ready := Progress.ready_init _ _ _
  action_eq := rfl
  nonneg := fun _ => le_rfl
  total_le := le_rfl
  exact_iff := by simp [FetchProgress.init]
  last := fun _ _ => rfl

/-- A message printed by a method changes no account. -/
theorem accounted_setProgress (h : Accounted action calls s) {p' : Progress} (hready : p'.Ready)
    (hempty : StartsEmpty calls call) (hnote : call.note (lastCounts calls) = lastCounts calls) :
    Accounted action (calls ++ [call]) (setProgress p' s) where
  ready := hready
  action_eq := h.action_eq
  nonneg := h.nonneg
  total_le := h.total_le
  exact_iff := by
    rw [eachAfter_concat, and_iff_left hempty]
    exact h.exact_iff
  last := by
    rw [eachAfter_concat, and_iff_left hempty, lastCounts_concat, hnote]
    exact h.last

/-- A report keeps the accounts: both grow by the same number of bytes. -/
theorem accounted_counted (h : Accounted action calls s) {payload : String} {done : ℤ} (hdone : 0 ≤ done)
    {p' : Progress} (hready : p'.Ready) :
    Accounted action (calls ++ [.progress payload done]) (setProgress p' (s.counted payload done)) := by
  have htotal : (s.packageBytes.set payload done).total
      = s.packageBytes.total + (done - s.packageBytes.getZero payload) := Dict.total_set _ _ _
  have hempty : StartsEmpty calls (.progress payload done) := trivial
  have hle := h.total_le
  refine ⟨hready, h.action_eq, ?_, ?_, ?_, ?_⟩
  · intro other
    show 0 ≤ (s.packageBytes.set payload done).getZero other
    rw [Dict.getZero_set]
    split
    · exact hdone
    · exact h.nonneg other
  · show (s.packageBytes.set payload done).total
      ≤ s.bytesFetched + (done - s.packageBytes.getZero payload)
    omega
  · rw [eachAfter_concat, and_iff_left hempty]
    show s.bytesFetched + (done - s.packageBytes.getZero payload)
      = (s.packageBytes.set payload done).total ↔ _
    rw [htotal, add_left_inj]
    exact h.exact_iff
  · rw [eachAfter_concat, and_iff_left hempty, lastCounts_concat]
    intro hall other
    show (s.packageBytes.set payload done).getZero other
      = ((lastCounts calls).set payload done).getZero other
    rw [Dict.getZero_set, Dict.getZero_set, h.last hall]

/-- A start keeps the accounts, and they stay exact if no payload has any bytes. -/
theorem accounted_start (h : Accounted action calls s) (hcalls : ∀ call ∈ calls, call.NonNegative)
    (totalFiles totalSize totalDrpms : ℤ) {p' : Progress} (hready : p'.Ready) :
    Accounted action (calls ++ [.start totalFiles totalSize totalDrpms])
      { s with
        toProgress := p'
        bytesToFetch := some totalSize
        packageBytes := if s.action = .fetch then Dict.empty else s.packageBytes } := by
  have hnote : lastCounts (calls ++ [.start totalFiles totalSize totalDrpms]) = lastCounts calls :=
    lastCounts_concat
  have hle := h.total_le
  have hnonneg := Dict.total_nonneg h.nonneg
  have haction := h.action_eq
  rw [haction]
  cases action with
  | refresh =>
      -- nothing is forgotten
      refine ⟨hready, rfl, h.nonneg, h.total_le, ?_, ?_⟩
      · have hexact := h.exact_iff
        simp only [true_or, iff_true] at hexact ⊢
        exact hexact
      · rw [eachAfter_concat, hnote]
        rintro ⟨hall, -⟩
        exact h.last hall
  | fetch =>
      refine ⟨hready, rfl, fun _ => le_rfl, ?_, ?_, ?_⟩
      · show 0 ≤ s.bytesFetched
        omega
      · show s.bytesFetched = 0 ↔ _
        have hexact := h.exact_iff
        simp only [reduceCtorEq, false_or] at hexact ⊢
        rw [eachAfter_concat, startsEmpty_start_iff hcalls, ← hexact]
        constructor
        · intro hzero
          have heq : s.bytesFetched = s.packageBytes.total := by omega
          have hsame : s.packageBytes.total = (lastCounts calls).total :=
            Dict.total_congr (h.last (hexact.mp heq))
          exact ⟨heq, by omega⟩
        · rintro ⟨heq, hzero⟩
          have hsame : s.packageBytes.total = (lastCounts calls).total :=
            Dict.total_congr (h.last (hexact.mp heq))
          omega
      · rw [eachAfter_concat, hnote, startsEmpty_start_iff hcalls,
          Dict.total_eq_zero_iff (lastCounts_nonneg hcalls)]
        rintro ⟨-, hzero⟩ payload
        rw [hzero]
        rfl

/-- Every call keeps the accounts. -/
theorem accounted_handle (h : Accounted action calls s) (hcalls : ∀ call ∈ calls, call.NonNegative)
    (hcall : call.NonNegative) :
    Accounted action (calls ++ [call]) (exec (FetchProgress.handle call) s).2 := by
  cases call with
  | start totalFiles totalSize totalDrpms =>
      obtain ⟨p', hexec, hready, -⟩ := FetchProgress.exec_start h.ready totalFiles totalSize
      rw [FetchProgress.handle, hexec]
      exact accounted_start h hcalls totalFiles totalSize totalDrpms hready
  | progress payload done =>
      obtain ⟨r, p', hexec, hready, -, -⟩ := FetchProgress.exec_progress h.ready payload done
      rw [FetchProgress.handle, hexec]
      exact accounted_counted h hcall hready
  | «end» payload status msg =>
      rw [FetchProgress.handle, FetchProgress.end, exec_modify]
      exact accounted_setProgress h ((Progress.ready_print _).mpr h.ready) trivial rfl
  | message msg =>
      rw [FetchProgress.handle, FetchProgress.message, exec_modify]
      exact accounted_setProgress h ((Progress.ready_print _).mpr h.ready) trivial rfl

end Accounts

/-- **The accounts after every sequence of calls.** -/
theorem accounted_after (weight : ℚ) (action : FetchAction) (start stop : ℚ)
    {calls : List FetchCall} (h : ∀ call ∈ calls, call.NonNegative) :
    Accounted action calls
      (after FetchProgress.handle (FetchProgress.init weight action start stop) calls) := by
  induction calls using List.reverseRecOn with
  | nil => exact accounted_init weight action start stop
  | append_singleton calls call ih =>
      rw [List.forall_mem_append, List.forall_mem_singleton] at h
      rw [after_concat]
      exact accounted_handle (ih h.1) h.1 h.2

/-! ### The percentages of a start -/

/-- The state after a start that has found no bytes, and after the calls `during` it. -/
structure InStart (totalSize : ℤ) (base : List ℚ) (during : List FetchCall) (s : FetchProgress) :
    Prop where
  ready : s.toProgress.Ready
  bytesToFetch : s.bytesToFetch = some totalSize
  last : ∀ payload, s.packageBytes.getZero payload = (lastCounts during).getZero payload
  bytesFetched : s.bytesFetched = (lastCounts during).total
  percentages : ∃ percentages, s.percentages = base ++ percentages
    ∧ ∀ percent ∈ percentages, 0 ≤ percent ∧ percent ≤ 100

section InStart

variable {totalSize : ℤ} {base : List ℚ} {during : List FetchCall} {call : FetchCall}
  {s : FetchProgress}

/-- A message printed by a method changes no account of the start. -/
theorem inStart_setProgress (h : InStart totalSize base during s) {p' : Progress}
    (hready : p'.Ready) (hpercentages : p'.percentages = s.percentages)
    (hnote : call.note (lastCounts during) = lastCounts during) :
    InStart totalSize base (during ++ [call]) (setProgress p' s) where
  ready := hready
  bytesToFetch := h.bytesToFetch
  last := by
    rw [lastCounts_concat, hnote]
    exact h.last
  bytesFetched := by
    rw [lastCounts_concat, hnote]
    exact h.bytesFetched
  percentages := by
    obtain ⟨percentages, heq, hall⟩ := h.percentages
    exact ⟨percentages, hpercentages.trans heq, hall⟩

/-- A report whose payloads together have no more than the total size stays within the start. -/
theorem inStart_progress (h : InStart totalSize base during s) {payload : String} {done : ℤ}
    (hcalls : ∀ call ∈ during, call.NonNegative) (hdone : 0 ≤ done)
    (hwithin : WithinTotal totalSize during (.progress payload done)) :
    InStart totalSize base (during ++ [.progress payload done])
      (exec (FetchProgress.progress payload done) s).2 := by
  obtain ⟨r, p', hexec, hready, -, hpercentages⟩ := FetchProgress.exec_progress h.ready payload done
  have hcounts : lastCounts (during ++ [.progress payload done])
      = (lastCounts during).set payload done := lastCounts_concat
  have hfetched : (s.counted payload done).bytesFetched
      = ((lastCounts during).set payload done).total := by
    show s.bytesFetched + (done - s.packageBytes.getZero payload) = _
    rw [Dict.total_set, h.bytesFetched, h.last]
  rw [hexec]
  refine ⟨hready, h.bytesToFetch, ?_, ?_, ?_⟩
  · intro other
    show (s.packageBytes.set payload done).getZero other = _
    rw [hcounts, Dict.getZero_set, Dict.getZero_set, h.last]
  · rw [hcounts]
    exact hfetched
  · obtain ⟨percentages, heq, hall⟩ := h.percentages
    rcases hpercentages with hsame | ⟨total, htotal, hne, hnew⟩
    · exact ⟨percentages, hsame.trans heq, hall⟩
    · refine ⟨percentages ++ [((s.counted payload done).bytesFetched : ℚ) / total * 100], ?_, ?_⟩
      · rw [← List.append_assoc, ← heq]
        exact hnew
      · rw [List.forall_mem_append, List.forall_mem_singleton]
        refine ⟨hall, ?_⟩
        rw [h.bytesToFetch, Option.mem_some_iff] at htotal
        subst htotal
        -- no more than the total size has been fetched, and nothing negative
        have hnonneg : 0 ≤ ((lastCounts during).set payload done).total := by
          apply Dict.total_nonneg
          intro other
          rw [Dict.getZero_set]
          split
          · exact hdone
          · exact lastCounts_nonneg hcalls other
        have hpos : 0 < totalSize := lt_of_le_of_ne (hnonneg.trans hwithin) hne.symm
        have hpos' : (0 : ℚ) < totalSize := Int.cast_pos.mpr hpos
        have hnonneg' : (0 : ℚ) ≤ (((lastCounts during).set payload done).total : ℤ) :=
          Int.cast_nonneg hnonneg
        have hwithin' : ((((lastCounts during).set payload done).total : ℤ) : ℚ) ≤ totalSize :=
          Int.cast_le.mpr hwithin
        have hshare := (div_le_one hpos').mpr hwithin'
        have hshare₀ := div_nonneg hnonneg' hpos'.le
        rw [hfetched]
        exact ⟨by linarith, by linarith⟩

/-- Every call within the start keeps its state. -/
theorem inStart_handle (h : InStart totalSize base during s) (hcalls : ∀ call ∈ during, call.NonNegative)
    (hcall : call.NonNegative) (hwithin : WithinTotal totalSize during call) :
    InStart totalSize base (during ++ [call]) (exec (FetchProgress.handle call) s).2 := by
  cases call with
  | start totalFiles size totalDrpms => exact hwithin.elim
  | progress payload done => exact inStart_progress h hcalls hcall hwithin
  | «end» payload status msg =>
      rw [FetchProgress.handle, FetchProgress.end, exec_modify]
      exact inStart_setProgress h ((Progress.ready_print _).mpr h.ready)
        (Progress.percentages_print _) rfl
  | message msg =>
      rw [FetchProgress.handle, FetchProgress.message, exec_modify]
      exact inStart_setProgress h ((Progress.ready_print _).mpr h.ready)
        (Progress.percentages_print _) rfl

/-- The calls after a start that has found no bytes stay within it, as long as the payloads together
have no more than its total size. -/
theorem inStart_after (h : InStart totalSize base [] s) (hcalls : ∀ call ∈ during, call.NonNegative)
    (hwithin : EachAfter (WithinTotal totalSize) during) :
    InStart totalSize base during (after FetchProgress.handle s during) := by
  induction during using List.reverseRecOn with
  | nil => exact h
  | append_singleton during call ih =>
      rw [List.forall_mem_append, List.forall_mem_singleton] at hcalls
      rw [eachAfter_concat] at hwithin
      rw [after_concat]
      exact inStart_handle (ih hcalls.1 hwithin.1) hcalls.1 hcalls.2 hwithin.2

/-- A start that finds no bytes begins with nothing fetched. -/
theorem inStart_start {action : FetchAction} {calls : List FetchCall} (h : Accounted action calls s)
    (hcalls : ∀ call ∈ calls, call.NonNegative) (hempty : EachAfter StartsEmpty calls)
    (totalFiles totalSize totalDrpms : ℤ)
    (hstart : StartsEmpty calls (.start totalFiles totalSize totalDrpms)) :
    InStart totalSize s.percentages []
      (exec (FetchProgress.start totalFiles totalSize) s).2 := by
  obtain ⟨p', hexec, hready, hpercentages⟩ := FetchProgress.exec_start h.ready totalFiles totalSize
  rw [startsEmpty_start_iff hcalls] at hstart
  have hzero := (Dict.total_eq_zero_iff (lastCounts_nonneg hcalls)).mp hstart
  have hfetched : s.bytesFetched = 0 := by
    rw [h.exact_iff.mpr (Or.inr hempty), Dict.total_congr (h.last hempty), hstart]
  rw [hexec]
  refine ⟨hready, rfl, ?_, hfetched, ⟨[0], hpercentages, ?_⟩⟩
  · intro payload
    show (if s.action = .fetch then Dict.empty else s.packageBytes).getZero payload = 0
    split
    · rfl
    · rw [h.last hempty, hzero]
  · norm_num

end InStart

/-- The bytes of all payloads together are those of the single payloads, and the percentages of each
start lie between 0 and 100 as long as its payloads have no more than its total size. -/
structure Exact (s₀ : FetchProgress) (calls : List FetchCall) : Prop where
  fetched : (after FetchProgress.handle s₀ calls).bytesFetched
    = (after FetchProgress.handle s₀ calls).packageBytes.total
  percentages : ∀ before totalFiles totalSize totalDrpms during,
    calls = before ++ .start totalFiles totalSize totalDrpms :: during →
    EachAfter (WithinTotal totalSize) during →
    ∃ percentages, (after FetchProgress.handle s₀ calls).percentages
        = (after FetchProgress.handle s₀ before).percentages ++ percentages
      ∧ ∀ percent ∈ percentages, 0 ≤ percent ∧ percent ≤ 100

/-- If nothing has any bytes whenever something starts, the accounts are exact after every sequence of
calls; without a refresh they are exact only then. -/
theorem exact_of_startsEmpty (weight : ℚ) (action : FetchAction) (start stop : ℚ)
    (calls : List FetchCall) (h : ∀ call ∈ calls, call.NonNegative) :
    (EachAfter StartsEmpty calls → Exact (FetchProgress.init weight action start stop) calls)
      ∧ (action = .fetch → Exact (FetchProgress.init weight action start stop) calls →
        EachAfter StartsEmpty calls) := by
  have haccounted := accounted_after weight action start stop h
  constructor
  · intro hempty
    refine ⟨haccounted.exact_iff.mpr (Or.inr hempty), ?_⟩
    rintro before totalFiles totalSize totalDrpms during rfl hwithin
    rw [List.forall_mem_append, List.forall_mem_cons] at h
    obtain ⟨hbefore, hstart⟩ := eachAfter_append_cons hempty
    have hcalls := accounted_after weight action start stop h.1
    have hin := inStart_after (inStart_start hcalls h.1 hbefore totalFiles totalSize totalDrpms
      hstart) h.2.2 hwithin
    rw [after_append]
    exact hin.percentages
  · rintro rfl hexact
    have hiff := haccounted.exact_iff
    simp only [reduceCtorEq, false_or] at hiff
    exact hiff.mp hexact.fetched

/-- Two payloads of which the first is not finished when the second starts. -/
def restartedDownload : List FetchCall :=
  [.start 1 100 0, .progress "kernel" 60, .start 1 100 0, .progress "xen" 100]

/-- A download that starts when nothing has any bytes. -/
theorem exact_of_startsEmpty_once :
    (EachAfter StartsEmpty [.start 2 100 0, .progress "kernel" 60, .progress "xen" 40] →
        Exact (FetchProgress.init 45 .fetch 10 55)
          [.start 2 100 0, .progress "kernel" 60, .progress "xen" 40])
      ∧ (FetchAction.fetch = .fetch → Exact (FetchProgress.init 45 .fetch 10 55)
          [.start 2 100 0, .progress "kernel" 60, .progress "xen" 40] →
        EachAfter StartsEmpty [.start 2 100 0, .progress "kernel" 60, .progress "xen" 40]) :=
  exact_of_startsEmpty 45 .fetch 10 55 _ (by decide +kernel)

/-- After the second start the accounts differ, and a refresh is reported as done by 160 percent. -/
theorem not_exact_restarted_dnf :
    (∀ call ∈ restartedDownload, call.NonNegative)
      ∧ ¬ Exact (FetchProgress.init 45 .fetch 10 55) restartedDownload
      ∧ ¬ Exact (FetchProgress.init 10 .refresh 0 10) restartedDownload := by
  refine ⟨by decide +kernel, ?_, ?_⟩
  · intro hexact
    have hfetched : (after FetchProgress.handle (FetchProgress.init 45 .fetch 10 55)
        restartedDownload).bytesFetched = 160 := by decide +kernel
    have htotal : (after FetchProgress.handle (FetchProgress.init 45 .fetch 10 55)
        restartedDownload).packageBytes.total = 100 := by decide +kernel
    have heq := hexact.fetched
    rw [hfetched, htotal] at heq
    omega
  · intro hexact
    have hwithin : EachAfter (WithinTotal 100) [.progress "xen" 100] := by
      refine ⟨?_, trivial⟩
      show ((lastCounts []).set "xen" 100).total ≤ 100
      decide +kernel
    obtain ⟨percentages, heq, hall⟩ :=
      hexact.percentages [.start 1 100 0, .progress "kernel" 60] 1 100 0 _ rfl hwithin
    have hbefore : (after FetchProgress.handle (FetchProgress.init 10 .refresh 0 10)
        [.start 1 100 0, .progress "kernel" 60]).percentages = [0, 60] := by decide +kernel
    have hafter : (after FetchProgress.handle (FetchProgress.init 10 .refresh 0 10)
        restartedDownload).percentages = [0, 60] ++ [0, 160] := by decide +kernel
    rw [hbefore, hafter, List.append_cancel_left_eq] at heq
    have hlast := hall 160 (by rw [← heq]; simp)
    norm_num at hlast

end Dnf

end QubesAdminLinux
