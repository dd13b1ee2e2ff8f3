import QubesAdminLinux.Agent.ProcessResult
import QubesAdminLinux.Lib.Rounding
import QubesAdminLinux.Lib.StateExcept
import Mathlib.Tactic.Positivity

/-! # Progress of an agent

An agent with a package library reports its progress in three phases.  Each phase has its own interval
of the total progress, and remembers the last value it has passed to the callback that all three share.

* **`Progress.notifyCallback`** — map a percentage of a phase to its interval, round it, and pass it on
  if it is larger than the last value.
* **`DerivesProgress`** — the classes derived from it, with what they share.
* **`ProgressReporter.init`** — the intervals, from the weights of the phases.
* **`ProgressReporter.Reporting`** — what ties the values passed on to what the phases remember.
* **`reported_of_calls`** — with the phases one after the other, the values never go backwards.

Percentages are exact numbers here. -/

namespace QubesAdminLinux

open StateExcept

/-- The exceptions that leave a callback. -/
inductive CallbackError
  /-- An `AssertionError`. -/
  | assertionError
  /-- A `ZeroDivisionError`. -/
  | zeroDivisionError
  /-- A `KeyError`. -/
  | keyError
  deriving DecidableEq, Repr

/-- What a progress of downloads is about. -/
inductive FetchAction
  | refresh
  | fetch
  deriving DecidableEq, Repr

/-- `action.capitalize()`. -/
def FetchAction.capitalize : FetchAction → String
  | .refresh => "Refresh"
  | .fetch => "Fetch"

/-- A message of a package library. -/
inductive LibraryMessage
  | bytes (untrusted : Bytes)
  | text (message : String)
  deriving DecidableEq, Repr

/-- `msg.decode("ascii", errors="ignore")`, for a message of bytes. -/
def LibraryMessage.decode : LibraryMessage → String
  | .bytes untrusted =>
      String.ofList ((untrusted.filter fun b => b.toNat < 0x80).map fun b => Char.ofNat b.toNat)
  | .text message => message

/-- A number with two decimals, as `f"{x:.2f}"` writes it. -/
def formatFixed (x : ℚ) : String :=
  let hundredths := (roundHalfEven (|x| * 100)).toNat
  let decimals := toString (hundredths % 100)
  (if x < 0 then "-" else "") ++ toString (hundredths / 100) ++ "."
    ++ (if decimals.length < 2 then "0" else "") ++ decimals

/-- `_format_bytes`, with the units that are left. -/
def formatBytesFrom : List String → ℚ → String
  | [], size => formatFixed size ++ " PiB"
  | unit :: units, size =>
      if size < 1024 then formatFixed size ++ " " ++ unit else formatBytesFrom units (size / 1024)

/-- `_format_bytes`. -/
def formatBytes (size : ℚ) : String :=
  formatBytesFrom ["B", "KiB", "MiB", "GiB", "TiB", "PiB"] size

example : formatBytes 1536 = "1.50 KiB" := by decide +kernel

/-- The progress of a phase. -/
structure Progress where
  /-- The weight of the phase. -/
  weight : ℚ
  /-- Where its interval starts. -/
  startPercent : Option ℚ := none
  /-- Where its interval stops. -/
  stopPercent : Option ℚ := none
  /-- The last value passed to the callback. -/
  lastPercent : Option ℚ := none
  /-- The percentages it has been notified of, oldest first. -/
  percentages : List ℚ := []
  /-- What has been printed on the way. -/
  console : Console := {}
  deriving DecidableEq

namespace Progress

variable {p : Progress} {start stop last percent : ℚ}

/-- `init`. -/
def init (start stop : ℚ) (self : Progress) : Progress :=
  { self with startPercent := some start, stopPercent := some stop, lastPercent := some start }

/-- The value for a percentage of an interval. -/
def valueIn (start stop percent : ℚ) : ℚ :=
  roundDecimals 2 (start + percent * (stop - start) / 100)

/-- `notify_callback`; returns the value that the callback is called with, if it is. -/
def notifyCallback (percent : ℚ) : StateExcept Progress CallbackError (Option ℚ) := do
  let self ← get
  match self.lastPercent, self.startPercent, self.stopPercent with
  | some last, some start, some stop =>
      let value := valueIn start stop percent
      let called := last < value
      set { self with
        lastPercent := some (if called then value else last)
        percentages := self.percentages ++ [percent] }
      pure (if called then some value else none)
  -- `init` has not been called
  | _, _, _ => throw .assertionError

/-- An initialised progress with its interval and its last value. -/
def Within (p : Progress) (start stop last : ℚ) : Prop :=
  p.startPercent = some start ∧ p.stopPercent = some stop ∧ p.lastPercent = some last

/-- A new progress has reached the start of its interval. -/
theorem within_init (start stop : ℚ) (p : Progress) : (p.init start stop).Within start stop start :=
  ⟨rfl, rfl, rfl⟩

/-- A notification never fails once the progress is initialised: either the value is not larger than
the last one, and is dropped, or it is passed on and remembered. -/
theorem notifyCallback_spec (h : p.Within start stop last) (percent : ℚ) :
    ∃ called p', exec (notifyCallback percent) p = (.ok called, p')
      ∧ p'.percentages = p.percentages ++ [percent] ∧ p'.weight = p.weight
      ∧ ((called = none ∧ p'.Within start stop last)
        ∨ (called = some (valueIn start stop percent) ∧ last < valueIn start stop percent
          ∧ p'.Within start stop (valueIn start stop percent))) := by
  obtain ⟨hstart, hstop, hlast⟩ := h
  have hexec : exec (notifyCallback percent) p
      = (.ok (if last < valueIn start stop percent then some (valueIn start stop percent) else none),
        { p with
          lastPercent :=
            some (if last < valueIn start stop percent then valueIn start stop percent else last)
          percentages := p.percentages ++ [percent] }) := by
    unfold notifyCallback
    rw [exec_bind exec_get]
    simp only [hstart, hstop, hlast]
    rfl
  refine ⟨_, _, hexec, rfl, rfl, ?_⟩
  by_cases hlt : last < valueIn start stop percent
  · rw [if_pos hlt, if_pos hlt]
    exact Or.inr ⟨rfl, hlt, hstart, hstop, rfl⟩
  · rw [if_neg hlt, if_neg hlt]
    exact Or.inl ⟨rfl, hstart, hstop, rfl⟩

/-- A progress that has been initialised. -/
def Ready (p : Progress) : Prop := ∃ start stop last, p.Within start stop last

/-- A notification keeps a progress initialised. -/
theorem notifyCallback_ready (h : p.Ready) (percent : ℚ) :
    ∃ called p', exec (notifyCallback percent) p = (.ok called, p') ∧ p'.Ready
      ∧ p'.percentages = p.percentages ++ [percent] := by
  obtain ⟨start, stop, last, hwithin⟩ := h
  obtain ⟨called, p', hexec, hpercentages, -, hcalled⟩ := notifyCallback_spec hwithin percent
  refine ⟨called, p', hexec, ?_, hpercentages⟩
  rcases hcalled with ⟨-, hwithin'⟩ | ⟨-, -, hwithin'⟩
  · exact ⟨start, stop, last, hwithin'⟩
  · exact ⟨start, stop, valueIn start stop percent, hwithin'⟩

/-- Lines printed to the standard output. -/
def print (p : Progress) (lines : List String) : Progress :=
  { p with console := p.console.append ⟨lines, []⟩ }

/-- Lines printed to the standard error output. -/
def printError (p : Progress) (lines : List String) : Progress :=
  { p with console := p.console.append ⟨[], lines⟩ }

/-- A progress is ready once it is initialised. -/
theorem ready_init (start stop : ℚ) (p : Progress) : (p.init start stop).Ready :=
  ⟨start, stop, start, within_init start stop p⟩

/-- Printing does not touch the interval. -/
@[simp] theorem ready_print (lines : List String) : (p.print lines).Ready ↔ p.Ready := Iff.rfl

/-- Printing errors does not touch the interval. -/
@[simp] theorem ready_printError (lines : List String) : (p.printError lines).Ready ↔ p.Ready :=
  Iff.rfl

/-- Printing does not touch the percentages. -/
@[simp] theorem percentages_print (lines : List String) :
    (p.print lines).percentages = p.percentages := rfl

/-- The value for a percentage lies between the rounded ends of the interval. -/
theorem valueIn_between (h : start ≤ stop) (h₀ : 0 ≤ percent) (h₁ : percent ≤ 100) :
    roundDecimals 2 start ≤ valueIn start stop percent
      ∧ valueIn start stop percent ≤ roundDecimals 2 stop := by
  have hwidth : 0 ≤ stop - start := by linarith
  have hlow : 0 ≤ percent * (stop - start) / 100 := by positivity
  have hhigh : percent * (stop - start) / 100 ≤ stop - start := by
    have := mul_le_mul_of_nonneg_right h₁ hwidth
    linarith
  constructor
  · apply roundDecimals_mono
    linarith
  · apply roundDecimals_mono
    linarith

end Progress

/-! ## The classes derived from it -/

/-- `notify_callback`, for a caller that does not look at the callback. -/
def notifyPercent (percent : ℚ) : StateExcept Progress CallbackError Unit := do
  let _ ← Progress.notifyCallback percent

/-- `part / total * 100`, and its report. -/
def notifyShare (part total : ℚ) : StateExcept Progress CallbackError Unit :=
  if total = 0 then throw .zeroDivisionError else notifyPercent (part / total * 100)

/-- A notification of an initialised progress raises nothing. -/
theorem exec_notifyPercent {p : Progress} (h : p.Ready) (percent : ℚ) :
    ∃ p', exec (notifyPercent percent) p = (.ok (), p') ∧ p'.Ready
      ∧ p'.percentages = p.percentages ++ [percent] := by
  obtain ⟨called, p', hexec, hready, hpercentages⟩ := Progress.notifyCallback_ready h percent
  refine ⟨p', ?_, hready, hpercentages⟩
  rw [notifyPercent, exec_bind hexec, exec_pure]

/-- A share is reported unless its total is zero. -/
theorem exec_notifyShare {p : Progress} (h : p.Ready) (part total : ℚ) :
    ∃ r p', exec (notifyShare part total) p = (r, p') ∧ p'.Ready ∧ (r = .ok () ↔ total ≠ 0)
      ∧ p'.percentages = p.percentages ++ if total ≠ 0 then [part / total * 100] else [] := by
  unfold notifyShare
  by_cases hzero : total = 0
  · rw [if_pos hzero]
    exact ⟨_, p, exec_throw _, h, by simp [hzero], by simp [hzero]⟩
  · obtain ⟨p', hexec, hready, hpercentages⟩ := exec_notifyPercent h (part / total * 100)
    rw [if_neg hzero]
    exact ⟨_, p', hexec, hready, by simp [hzero], by rw [hpercentages, if_pos hzero]⟩

/-- A class derived from `Progress`: its objects have a state of their own beside their progress. -/
class DerivesProgress (σ : Type) where
  /-- The progress of an object. -/
  progressOf : σ → Progress
  /-- The object with another progress. -/
  setProgress : Progress → σ → σ

namespace DerivesProgress

variable {σ : Type} [DerivesProgress σ] {s : σ}

/-- Lines printed to the standard output. -/
def print (lines : List String) (s : σ) : σ := setProgress ((progressOf s).print lines) s

/-- Lines printed to the standard error output. -/
def printError (lines : List String) (s : σ) : σ := setProgress ((progressOf s).printError lines) s

/-- Code of the base class. -/
def base (x : StateExcept Progress CallbackError Unit) : StateExcept σ CallbackError Unit :=
  zoom progressOf setProgress id x

/-- Code of the base class ends as it does on the progress, and only the progress changes. -/
theorem exec_base {x : StateExcept Progress CallbackError Unit} {r : Except CallbackError Unit}
    {p' : Progress} (h : exec x (progressOf s) = (r, p')) :
    exec (base x) s = (r, setProgress p' s) := exec_zoom_id setProgress h

end DerivesProgress

/-! ## The reporter -/

/-- The phases of an update, in their order. -/
inductive ProgressPhase
  | update
  | fetch
  | upgrade
  deriving DecidableEq, Repr

/-- The place of a phase in their order. -/
def ProgressPhase.index : ProgressPhase → ℕ
  | .update => 0
  | .fetch => 1
  | .upgrade => 2

/-- Different phases have different places. -/
theorem ProgressPhase.index_injective : Function.Injective ProgressPhase.index := by
  intro a b h
  cases a <;> cases b <;> simp [ProgressPhase.index] at h ⊢

/-- The progress of the three phases, and what they have passed to the callback. -/
structure ProgressReporter where
  /-- `update_progress`. -/
  updateProgress : Progress
  /-- `fetch_progress`. -/
  fetchProgress : Progress
  /-- `upgrade_progress`. -/
  upgradeProgress : Progress
  /-- The values passed to the callback, each with the phase it comes from, oldest first. -/
  reported : List (ProgressPhase × ℚ) := []
  deriving DecidableEq

namespace ProgressReporter

/-- The sum of the weights. -/
def total (update fetch upgrade : Progress) : ℚ := update.weight + fetch.weight + upgrade.weight

/-- Where the update phase ends. -/
def updateEnd (update fetch upgrade : Progress) : ℚ :=
  update.weight / total update fetch upgrade * 100

/-- Where the fetch phase ends. -/
def fetchEnd (update fetch upgrade : Progress) : ℚ :=
  fetch.weight / total update fetch upgrade * 100 + updateEnd update fetch upgrade

/-- `ProgressReporter.__init__`. -/
def init (update fetch upgrade : Progress) : Except CallbackError ProgressReporter :=
  if total update fetch upgrade = 0 then .error .zeroDivisionError
  else
    let updateEnd := updateEnd update fetch upgrade
    let fetchEnd := fetchEnd update fetch upgrade
    .ok { updateProgress := update.init 0 updateEnd
          fetchProgress := fetch.init updateEnd fetchEnd
          upgradeProgress := upgrade.init fetchEnd 100 }

/-- The progress of a phase. -/
def progress (r : ProgressReporter) : ProgressPhase → Progress
  | .update => r.updateProgress
  | .fetch => r.fetchProgress
  | .upgrade => r.upgradeProgress

/-- The reporter with another progress of a phase. -/
def setProgress (phase : ProgressPhase) (p : Progress) (r : ProgressReporter) : ProgressReporter :=
  match phase with
  | .update => { r with updateProgress := p }
  | .fetch => { r with fetchProgress := p }
  | .upgrade => { r with upgradeProgress := p }

/-- `notify_callback` of a phase. -/
def notifyCallback (phase : ProgressPhase) (percent : ℚ) :
    StateExcept ProgressReporter CallbackError Unit := do
  let called ← zoom (progress · phase) (setProgress phase) id (Progress.notifyCallback percent)
  modify fun r => { r with reported := r.reported ++ called.toList.map fun value => (phase, value) }

/-- A sequence of notifications. -/
def notifyCallbacks : List (ProgressPhase × ℚ) → StateExcept ProgressReporter CallbackError Unit
  | [] => pure ()
  | call :: calls => do
      notifyCallback call.1 call.2
      notifyCallbacks calls

variable {r : ProgressReporter} {update fetch upgrade : Progress}

/-- Only the progress of one phase is replaced. -/
@[simp] theorem progress_setProgress (phase other : ProgressPhase) (p : Progress) :
    (r.setProgress phase p).progress other = if other = phase then p else r.progress other := by
  cases phase <;> cases other <;> rfl

/-- Replacing a progress reports nothing. -/
@[simp] theorem reported_setProgress (phase : ProgressPhase) (p : Progress) :
    (r.setProgress phase p).reported = r.reported := by
  cases phase <;> rfl

/-! ## The values never go backwards -/

/-- The intervals of the phases. -/
structure Bounds where
  /-- Where a phase starts. -/
  start : ProgressPhase → ℚ
  /-- Where a phase stops. -/
  stop : ProgressPhase → ℚ
  /-- No interval is reversed. -/
  start_le_stop : ∀ phase, start phase ≤ stop phase
  /-- The intervals do not overlap. -/
  stop_le_start : ∀ before after : ProgressPhase,
    before.index < after.index → stop before ≤ start after

/-- How a value relates to a later one: smaller in the same phase, never larger. -/
def Ordered (a b : ProgressPhase × ℚ) : Prop := (a.1 = b.1 → a.2 < b.2) ∧ a.2 ≤ b.2

/-- The state of a reporter with given intervals: every value reported lies between the rounded ends
of its interval and is not larger than what its phase remembers, and the values are in order. -/
structure Reporting (bounds : Bounds) (r : ProgressReporter) : Prop where
  /-- Each phase is initialised, and remembers the largest value it has reported. -/
  ready : ∀ phase, ∃ last, (r.progress phase).Within (bounds.start phase) (bounds.stop phase) last
    ∧ ∀ entry ∈ r.reported, entry.1 = phase → entry.2 ≤ last
  /-- Each value lies between the rounded ends of its interval. -/
  between : ∀ entry ∈ r.reported, roundDecimals 2 (bounds.start entry.1) ≤ entry.2
    ∧ entry.2 ≤ roundDecimals 2 (bounds.stop entry.1)
  /-- The values do not go backwards. -/
  ordered : r.reported.Pairwise Ordered

variable {bounds : Bounds}

/-- What the phases remember after one of them has changed: the others are not touched. -/
theorem ready_setProgress (h : Reporting bounds r) {phase : ProgressPhase} {p' : Progress}
    {last last' : ℚ}
    (hlargest : ∀ entry ∈ r.reported, entry.1 = phase → entry.2 ≤ last)
    (hwithin : p'.Within (bounds.start phase) (bounds.stop phase) last') (hle : last ≤ last')
    (other : ProgressPhase) :
    ∃ largest, ((r.setProgress phase p').progress other).Within (bounds.start other)
        (bounds.stop other) largest
      ∧ (∀ entry ∈ r.reported, entry.1 = other → entry.2 ≤ largest)
      ∧ (other = phase → largest = last') := by
  by_cases heq : other = phase
  · subst heq
    refine ⟨last', ?_, ?_, fun _ => rfl⟩
    · rw [progress_setProgress, if_pos rfl]
      exact hwithin
    · intro entry hmem hentry
      exact (hlargest entry hmem hentry).trans hle
  · obtain ⟨largest, hother, hall⟩ := h.ready other
    refine ⟨largest, ?_, hall, fun h' => absurd h' heq⟩
    rw [progress_setProgress, if_neg heq]
    exact hother

/-- A value reported before is in order with a value that a phase not before its own reports now. -/
theorem ordered_value (h : Reporting bounds r) {phase : ProgressPhase} {last value : ℚ}
    (hlargest : ∀ entry ∈ r.reported, entry.1 = phase → entry.2 ≤ last) (hlt : last < value)
    (hvalue : roundDecimals 2 (bounds.start phase) ≤ value) {entry : ProgressPhase × ℚ}
    (hmem : entry ∈ r.reported) (hlater : entry.1.index ≤ phase.index) :
    Ordered entry (phase, value) := by
  by_cases hsame : entry.1 = phase
  · -- the phase remembers a value that is not smaller
    have hle : entry.2 < value := (hlargest entry hmem hsame).trans_lt hlt
    exact ⟨fun _ => hle, hle.le⟩
  · -- the interval of an earlier phase ends before this one starts
    have hne : entry.1.index ≠ phase.index := fun heq => hsame (ProgressPhase.index_injective heq)
    have hindex : entry.1.index < phase.index := by omega
    have hround := roundDecimals_mono 2 (bounds.stop_le_start _ _ hindex)
    refine ⟨fun heq => absurd heq hsame, ?_⟩
    calc entry.2 ≤ roundDecimals 2 (bounds.stop entry.1) := (h.between entry hmem).2
      _ ≤ roundDecimals 2 (bounds.start phase) := hround
      _ ≤ value := hvalue

/-- A larger value that a phase reports and remembers keeps the state in order. -/
theorem reporting_report (h : Reporting bounds r) {phase : ProgressPhase} {p' : Progress}
    {last value : ℚ}
    (hlargest : ∀ entry ∈ r.reported, entry.1 = phase → entry.2 ≤ last) (hlt : last < value)
    (hwithin : p'.Within (bounds.start phase) (bounds.stop phase) value)
    (hbetween : roundDecimals 2 (bounds.start phase) ≤ value
      ∧ value ≤ roundDecimals 2 (bounds.stop phase))
    (hlater : ∀ entry ∈ r.reported, entry.1.index ≤ phase.index) :
    Reporting bounds
      { r.setProgress phase p' with reported := r.reported ++ [(phase, value)] } where
  ready := by
    intro other
    obtain ⟨largest, hinit, hle, hphase⟩ := ready_setProgress h hlargest hwithin hlt.le other
    refine ⟨largest, hinit, ?_⟩
    rw [List.forall_mem_append, List.forall_mem_singleton]
    exact ⟨hle, fun hsame => (hphase hsame.symm).ge⟩
  between := by
    rw [List.forall_mem_append, List.forall_mem_singleton]
    exact ⟨h.between, hbetween⟩
  ordered := by
    rw [List.pairwise_append]
    refine ⟨h.ordered, List.pairwise_singleton _ _, ?_⟩
    intro entry hmem
    rw [List.forall_mem_singleton]
    exact ordered_value h hlargest hlt hbetween.1 hmem (hlater entry hmem)

/-- A notification of a phase that comes after all others so far keeps the state in order. -/
theorem reporting_notifyCallback (h : Reporting bounds r) {phase : ProgressPhase} {percent : ℚ}
    (h₀ : 0 ≤ percent) (h₁ : percent ≤ 100)
    (hlater : ∀ entry ∈ r.reported, entry.1.index ≤ phase.index) :
    ∃ r', exec (notifyCallback phase percent) r = (.ok (), r') ∧ Reporting bounds r'
      ∧ ∀ entry ∈ r'.reported, entry.1.index ≤ phase.index := by
  obtain ⟨last, hwithin, hlargest⟩ := h.ready phase
  obtain ⟨called, p', hexec, -, -, hcalled⟩ := Progress.notifyCallback_spec hwithin percent
  have hrun : exec (notifyCallback phase percent) r
      = (.ok (), { r.setProgress phase p' with
          reported := r.reported ++ called.toList.map fun value => (phase, value) }) := by
    rw [notifyCallback, exec_bind (exec_zoom_id (setProgress phase) hexec), exec_modify,
      reported_setProgress]
  refine ⟨_, hrun, ?_⟩
  rcases hcalled with ⟨rfl, hwithin'⟩ | ⟨rfl, hlt, hwithin'⟩
  · -- the value is dropped
    simp only [Option.toList_none, List.map_nil, List.append_nil]
    refine ⟨⟨?_, h.between, h.ordered⟩, hlater⟩
    intro other
    obtain ⟨largest, hinit, hle, -⟩ := ready_setProgress h hlargest hwithin' le_rfl other
    exact ⟨largest, hinit, hle⟩
  · -- the value is reported
    have hbetween := Progress.valueIn_between (bounds.start_le_stop phase) h₀ h₁
    simp only [Option.toList_some, List.map_cons, List.map_nil]
    refine ⟨reporting_report h hlargest hlt hwithin' hbetween hlater, ?_⟩
    rw [List.forall_mem_append, List.forall_mem_singleton]
    exact ⟨hlater, le_rfl⟩

/-- A sequence of notifications whose phases come one after the other keeps the state in order. -/
theorem reporting_notifyCallbacks {calls : List (ProgressPhase × ℚ)} (h : Reporting bounds r)
    (hpercent : ∀ call ∈ calls, 0 ≤ call.2 ∧ call.2 ≤ 100)
    (hphases : calls.Pairwise fun a b => a.1.index ≤ b.1.index)
    (hlater : ∀ entry ∈ r.reported, ∀ call ∈ calls, entry.1.index ≤ call.1.index) :
    ∃ r', exec (notifyCallbacks calls) r = (.ok (), r') ∧ Reporting bounds r' := by
  induction calls generalizing r with
  | nil => exact ⟨r, rfl, h⟩
  | cons call calls ih =>
      rw [List.forall_mem_cons] at hpercent
      rw [List.pairwise_cons] at hphases
      have hfirst : ∀ entry ∈ r.reported, entry.1.index ≤ call.1.index := by
        intro entry hmem
        exact hlater entry hmem call List.mem_cons_self
      obtain ⟨r₁, hexec, hstep, hnew⟩ :=
        reporting_notifyCallback h hpercent.1.1 hpercent.1.2 hfirst
      have hrest : ∀ entry ∈ r₁.reported, ∀ next ∈ calls, entry.1.index ≤ next.1.index := by
        intro entry hmem next hnext
        exact (hnew entry hmem).trans (hphases.1 next hnext)
      obtain ⟨r₂, hexec₂, hrun⟩ := ih hstep hpercent.2 hphases.2 hrest
      refine ⟨r₂, ?_, hrun⟩
      rw [notifyCallbacks, exec_bind hexec, hexec₂]

/-- Where a phase starts. -/
def phaseStart (update fetch upgrade : Progress) : ProgressPhase → ℚ
  | .update => 0
  | .fetch => updateEnd update fetch upgrade
  | .upgrade => fetchEnd update fetch upgrade

/-- Where a phase stops. -/
def phaseStop (update fetch upgrade : Progress) : ProgressPhase → ℚ
  | .update => updateEnd update fetch upgrade
  | .fetch => fetchEnd update fetch upgrade
  | .upgrade => 100

/-- The ends of the phases divide the total progress in the given order. -/
theorem ends_ordered (hupdate : 0 ≤ update.weight) (hfetch : 0 ≤ fetch.weight)
    (hupgrade : 0 ≤ upgrade.weight) (htotal : 0 < total update fetch upgrade) :
    0 ≤ updateEnd update fetch upgrade
      ∧ updateEnd update fetch upgrade ≤ fetchEnd update fetch upgrade
      ∧ fetchEnd update fetch upgrade ≤ 100 := by
  have hshare : 0 ≤ fetch.weight / total update fetch upgrade * 100 := by positivity
  refine ⟨by unfold updateEnd; positivity, by unfold fetchEnd; linarith, ?_⟩
  have hsum : update.weight / total update fetch upgrade + fetch.weight / total update fetch upgrade
      ≤ 1 := by
    rw [← add_div, div_le_one htotal, total]
    linarith
  unfold fetchEnd updateEnd
  linarith

/-- The interval of a phase is not reversed. -/
theorem phaseStart_le_phaseStop (hupdate : 0 ≤ update.weight) (hfetch : 0 ≤ fetch.weight)
    (hupgrade : 0 ≤ upgrade.weight) (htotal : 0 < total update fetch upgrade) (phase : ProgressPhase) :
    phaseStart update fetch upgrade phase ≤ phaseStop update fetch upgrade phase := by
  obtain ⟨h₀, h₁, h₂⟩ := ends_ordered hupdate hfetch hupgrade htotal
  cases phase with
  | update => exact h₀
  | fetch => exact h₁
  | upgrade => exact h₂

/-- The intervals of two phases do not overlap. -/
theorem phaseStop_le_phaseStart (hfetch : 0 ≤ fetch.weight)
    (htotal : 0 < total update fetch upgrade) (before after : ProgressPhase)
    (hindex : before.index < after.index) :
    phaseStop update fetch upgrade before ≤ phaseStart update fetch upgrade after := by
  have hshare : 0 ≤ fetch.weight / total update fetch upgrade * 100 := by positivity
  cases before <;> cases after <;> simp only [ProgressPhase.index] at hindex
  all_goals first | omega | (simp only [phaseStop, phaseStart, fetchEnd]; linarith)

/-- The intervals of the phases lie within the total progress. -/
theorem phase_within (hupdate : 0 ≤ update.weight) (hfetch : 0 ≤ fetch.weight)
    (hupgrade : 0 ≤ upgrade.weight) (htotal : 0 < total update fetch upgrade) (phase : ProgressPhase) :
    0 ≤ phaseStart update fetch upgrade phase ∧ phaseStop update fetch upgrade phase ≤ 100 := by
  obtain ⟨h₀, h₁, h₂⟩ := ends_ordered hupdate hfetch hupgrade htotal
  cases phase with
  | update => exact ⟨le_rfl, h₁.trans h₂⟩
  | fetch => exact ⟨h₀, h₂⟩
  | upgrade => exact ⟨h₀.trans h₁, le_rfl⟩

/-- The intervals that non-negative weights with a positive sum give. -/
def boundsOf (hupdate : 0 ≤ update.weight) (hfetch : 0 ≤ fetch.weight)
    (hupgrade : 0 ≤ upgrade.weight) (htotal : 0 < total update fetch upgrade) : Bounds where
  start := phaseStart update fetch upgrade
  stop := phaseStop update fetch upgrade
  start_le_stop := phaseStart_le_phaseStop hupdate hfetch hupgrade htotal
  stop_le_start := phaseStop_le_phaseStart hfetch htotal

/-- A new reporter has reported nothing, and each of its phases is initialised. -/
theorem reporting_init (hupdate : 0 ≤ update.weight) (hfetch : 0 ≤ fetch.weight)
    (hupgrade : 0 ≤ upgrade.weight) (htotal : 0 < total update fetch upgrade) :
    ∃ r, init update fetch upgrade = .ok r ∧ r.reported = []
      ∧ Reporting (boundsOf hupdate hfetch hupgrade htotal) r := by
  refine ⟨_, if_neg htotal.ne', rfl, ?_, by simp, List.Pairwise.nil⟩
  intro phase
  refine ⟨phaseStart update fetch upgrade phase, ?_, by simp⟩
  cases phase <;> exact Progress.within_init _ _ _

/-- Whatever the weights of the phases, as long as the phases come one after the other, the values
passed to the callback lie between 0 and 100, increase within each phase, and never decrease. -/
theorem reported_of_calls (update fetch upgrade : Progress) (hupdate : 0 ≤ update.weight)
    (hfetch : 0 ≤ fetch.weight) (hupgrade : 0 ≤ upgrade.weight)
    (htotal : 0 < update.weight + fetch.weight + upgrade.weight) (calls : List (ProgressPhase × ℚ))
    (hpercent : ∀ call ∈ calls, 0 ≤ call.2 ∧ call.2 ≤ 100)
    (hphases : calls.Pairwise fun a b => a.1.index ≤ b.1.index) :
    ∃ r r', init update fetch upgrade = .ok r
      ∧ exec (notifyCallbacks calls) r = (.ok (), r')
      ∧ (∀ entry ∈ r'.reported, 0 ≤ entry.2 ∧ entry.2 ≤ 100)
      ∧ r'.reported.Pairwise Ordered := by
  obtain ⟨r, hinit, hempty, hreporting⟩ := reporting_init hupdate hfetch hupgrade htotal
  have hnone : ∀ entry ∈ r.reported, ∀ call ∈ calls, entry.1.index ≤ call.1.index := by
    rw [hempty]
    intro entry hmem
    cases hmem
  obtain ⟨r', hexec, hreporting'⟩ := reporting_notifyCallbacks hreporting hpercent hphases hnone
  refine ⟨r, r', hinit, hexec, ?_, hreporting'.ordered⟩
  intro entry hmem
  obtain ⟨hlow, hhigh⟩ := hreporting'.between entry hmem
  obtain ⟨hstart, hstop⟩ := phase_within hupdate hfetch hupgrade htotal entry.1
  -- rounding leaves 0 and 100 as they are
  have hzero := roundDecimals_mono 2 hstart
  have hhundred := roundDecimals_mono 2 hstop
  rw [← Int.cast_zero, roundDecimals_intCast] at hzero
  rw [← Int.cast_ofNat, roundDecimals_intCast] at hhundred
  exact ⟨hzero.trans hlow, hhigh.trans hhundred⟩

/-- The phases of APT, with a percentage that comes twice. -/
theorem reported_of_calls_apt :
    ∃ r r', init { weight := 4 } { weight := 48 } { weight := 48 } = .ok r
      ∧ exec (notifyCallbacks [(.update, 50), (.fetch, 100 / 3), (.fetch, 100 / 3), (.upgrade, 100)]) r
        = (.ok (), r')
      ∧ (∀ entry ∈ r'.reported, 0 ≤ entry.2 ∧ entry.2 ≤ 100)
      ∧ r'.reported.Pairwise Ordered :=
  reported_of_calls { weight := 4 } { weight := 48 } { weight := 48 } (by norm_num) (by norm_num)
    (by norm_num) (by norm_num) _ (by decide +kernel) (by decide +kernel)

end ProgressReporter

end QubesAdminLinux
