import QubesAdminLinux.VmUpdate.SkipUpdate

/-! # The levels of the selection

Of the qubes that are targeted, `select_targets` selects all, those with updates or without a recent check
for updates, or only those with updates.

* **`Clock.at`** — the clock at a moment, with whole days.
* **`forced`, `ifStale`, `ifAvailable`** — the options of the three levels.
* **`selectTargets_eq_filter`** — what is selected without `--force-update`.
* **`selection_chain`** — each level selects a part of what the one above it selects. -/

namespace QubesAdminLinux

/-- The clock at the moment `today`, if `fromisoformat` reads a date as a moment; moments are counted in
microseconds. -/
def Clock.at (today : Int) (epoch : String) (fromisoformat : String → Except String Int) : Clock where
  epoch := epoch
  -- `timedelta.days` rounds down
  daysSince text := (fromisoformat text).map fun lastUpdate => (today - lastUpdate) / 86400000000

namespace TargetingArgs

/-- `--force-update`. -/
def forced (args : TargetingArgs) : TargetingArgs :=
  { args with forceUpdate := true, updateIfAvailable := false }

/-- `--update-if-stale`, with a number of days. -/
def ifStale (args : TargetingArgs) (days : Int) : TargetingArgs :=
  { args with forceUpdate := false, updateIfAvailable := false, updateIfStale := days }

/-- `--update-if-available`. -/
def ifAvailable (args : TargetingArgs) : TargetingArgs :=
  { args with forceUpdate := false, updateIfAvailable := true }

end TargetingArgs

section Levels

variable {features : Features} {clock : Clock} {args : TargetingArgs} {targets : List SystemDomain}

/-- The dates of the last checks of some qubes can be compared with now. -/
def Dated (features : Features) (clock : Clock) (targets : List SystemDomain) : Prop :=
  ∀ vm ∈ targets, ∀ text, lastUpdate features clock vm = .ok (some text) →
    ∃ days, clock.daysSince text = .ok days

/-- A qube is selected if it may be started and updated, and has updates or, unless this is all that
counts, was checked too long ago. -/
theorem examine_eq_selected {vm : SystemDomain} :
    examine features clock args vm = .ok .selected ↔
      (readFlag features vm "skip-update" = false ∧ readFlag features vm "prohibit-start" = false) ∧
        (readFlag features vm "updates-available" = true ∨
          (args.updateIfAvailable = false ∧
            isStale features clock vm args.updateIfStale = .ok true)) := by
  by_cases hallowed :
      readFlag features vm "skip-update" = false ∧ readFlag features vm "prohibit-start" = false
  · rw [examine_eq_selected_iff hallowed.1 hallowed.2, and_iff_right hallowed]
  · -- one of the features is set
    have hmarked :
        (readFlag features vm "skip-update" || readFlag features vm "prohibit-start") = true := by
      rwa [← Bool.not_eq_false, Bool.or_eq_false_iff]
    rw [examine, if_pos hmarked]
    simp [hallowed]

/-- Without `--force-update`, and with dates that can be compared with now, the targets are filtered. -/
theorem selectTargets_eq_filter (hdated : Dated features clock targets) (hforce : args.forceUpdate = false) :
    (selectTargets features clock args targets).2
      = .ok (targets.filter fun vm => examine features clock args vm = .ok .selected) := by
  have hreturns : ∀ vm ∈ targets, ∃ passed,
      (examine features clock args vm).map Verdict.isSelected = .ok passed := by
    intro vm hvm
    have hnot : ¬ Undated features clock args vm := by
      rintro ⟨-, -, text, exc, htext, hexc⟩
      obtain ⟨days, hdays⟩ := hdated vm hvm text htext
      rw [hexc] at hdays
      cases hdays
    obtain ⟨verdict, hverdict⟩ := examine_returns_iff.mpr hnot
    exact ⟨_, by rw [hverdict]; rfl⟩
  rw [selectTargets, hforce, if_neg Bool.false_ne_true, selectLoop_snd, filterExcept_eq_ok]
  refine ⟨hreturns, List.filter_congr fun vm _ => ?_⟩
  rw [passes_examine]

/-- A check that is too long ago for one limit is so for every smaller limit. -/
theorem isStale_anti {vm : SystemDomain} {m n : Int} (hmn : m ≤ n)
    (h : isStale features clock vm n = .ok true) : isStale features clock vm m = .ok true := by
  rw [isStale] at h ⊢
  cases hlast : lastUpdate features clock vm with
  | error exc =>
      rw [hlast] at h
      cases h
  | ok date =>
      rw [hlast] at h
      cases date with
      | none => cases h
      | some text =>
          dsimp only at h ⊢
          cases hdays : clock.daysSince text with
          | error exc =>
              rw [hdays] at h
              cases h
          | ok days =>
              rw [hdays] at h
              dsimp only at h ⊢
              rw [Except.ok.injEq, decide_eq_true_iff] at h ⊢
              omega

/-- What is selected by one level is selected by another one, if this holds for each qube. -/
theorem filter_examine_subset {args' : TargetingArgs}
    (h : ∀ vm, examine features clock args vm = .ok .selected →
      examine features clock args' vm = .ok .selected) :
    (targets.filter fun vm => examine features clock args vm = .ok .selected)
      ⊆ targets.filter fun vm => examine features clock args' vm = .ok .selected := by
  intro vm hvm
  rw [List.mem_filter, decide_eq_true_iff] at hvm ⊢
  exact ⟨hvm.1, h vm hvm.2⟩

/-- Whatever can be read of the targets, as long as their dates can be compared with now: a qube selected
for its updates is selected by each staleness limit, a qube selected by a limit is selected by every
smaller one, and `--force-update` selects all targets. -/
theorem selection_chain (args : TargetingArgs) (hdated : Dated features clock targets) {m n : Int}
    (hmn : m ≤ n) :
    ∃ available stale stale',
      (selectTargets features clock args.ifAvailable targets).2 = .ok available ∧
      (selectTargets features clock (args.ifStale n) targets).2 = .ok stale ∧
      (selectTargets features clock (args.ifStale m) targets).2 = .ok stale' ∧
      (selectTargets features clock args.forced targets).2 = .ok targets ∧
      available ⊆ stale ∧ stale ⊆ stale' ∧ stale' ⊆ targets := by
  refine ⟨_, _, _, selectTargets_eq_filter hdated rfl, selectTargets_eq_filter hdated rfl,
    selectTargets_eq_filter hdated rfl, rfl, ?_, ?_, List.filter_sublist.subset⟩
  · apply filter_examine_subset
    intro vm hvm
    obtain ⟨hallowed, havailable | ⟨hif, -⟩⟩ := examine_eq_selected.mp hvm
    · exact examine_eq_selected.mpr ⟨hallowed, Or.inl havailable⟩
    · cases hif
  · apply filter_examine_subset
    intro vm hvm
    obtain ⟨hallowed, havailable | ⟨-, hstale⟩⟩ := examine_eq_selected.mp hvm
    · exact examine_eq_selected.mpr ⟨hallowed, Or.inl havailable⟩
    · exact examine_eq_selected.mpr ⟨hallowed, Or.inr ⟨rfl, isStale_anti hmn hstale⟩⟩

end Levels

/-- A check nine and a half days ago. -/
def checkedClock : Clock := Clock.at 820800000000 "1970-01-01 00:00:00" fun _ => .ok 0

/-- Features of a qube without updates that has been checked. -/
def checkedFeatures : Features where
  get _ key := .ok (if key = "os" then some "Linux" else none)
  keys _ := .ok ["qrexec", "os"]
  checkWithTemplate _ _ := .ok (some "1970-01-01 00:00:00")

/-- In the example, the date can be compared with now. -/
theorem dated_checked : Dated checkedFeatures checkedClock [fedoraTemplate] := by
  intro vm hvm text htext
  exact ⟨9, rfl⟩

/-- The template, with limits of one and two weeks. -/
theorem selection_chain_weeks :
    ∃ available stale stale',
      (selectTargets checkedFeatures checkedClock ({} : TargetingArgs).ifAvailable [fedoraTemplate]).2
        = .ok available ∧
      (selectTargets checkedFeatures checkedClock (({} : TargetingArgs).ifStale 14)
        [fedoraTemplate]).2 = .ok stale ∧
      (selectTargets checkedFeatures checkedClock (({} : TargetingArgs).ifStale 7)
        [fedoraTemplate]).2 = .ok stale' ∧
      (selectTargets checkedFeatures checkedClock ({} : TargetingArgs).forced [fedoraTemplate]).2
        = .ok [fedoraTemplate] ∧
      available ⊆ stale ∧ stale ⊆ stale' ∧ stale' ⊆ [fedoraTemplate] :=
  selection_chain {} dated_checked (by decide)

end QubesAdminLinux
