import QubesAdminLinux.Dom0Updates.UpdateParts

/-! # The status of the download

What the three ways to download leave in `RETCODE`, and what is made of it.

* **`Downloaded`** — one download, and a status in `RETCODE` that tells how it ended unless a pipeline
  hides it.
* **`runs_download`**, **`runs_checkDownload`** — how the download and the tests after it end. -/

namespace QubesAdminLinux

namespace Dom0Update

open Proc

/-- Whether an event is a step of the installation. -/
def isStep : UpdateEvent → Bool
  | ⟨.dnf _, _⟩ => true
  | ⟨.updateDom0, _⟩ => true
  | ⟨.checkUpdate _, _⟩ => true
  | _ => false

/-- Whether an event is a download whose failure the pipeline hides. -/
def failureHidden : UpdateEvent → Bool
  | ⟨.downloadPiped _ _, (status, _)⟩ => status ≠ 0
  | _ => false

/-- Plain calls are no steps of an update. -/
theorem isStep_of_plain {e : UpdateEvent} (h : Plain e) : isStep e = false := by
  obtain ⟨call, reply⟩ := e
  cases call with
  | dnf => cases h
  | updateDom0 => cases h
  | checkUpdate => cases h
  | _ => rfl

/-- A failure that can be hidden is that of a download. -/
theorem isDownload_of_failureHidden (e : UpdateEvent) (h : failureHidden e = true) :
    isDownload e = true := by
  revert h
  fun_cases failureHidden e with
  | case1 => exact fun _ => rfl
  | case2 =>
      intro h
      cases h

/-- One event decides. -/
theorem forall_of_filter_eq {f g : UpdateEvent → Bool} (hfg : ∀ e, f e = true → g e = true)
    {t : List UpdateEvent} {e : UpdateEvent} (h : t.filter g = [e]) :
    (∀ e' ∈ t, f e' = false) ↔ f e = false := by
  have he : e ∈ t.filter g := h ▸ List.mem_singleton_self e
  constructor
  · exact fun hall => hall e (List.mem_filter.mp he).1
  · intro hf e' he'
    by_contra htrue
    have hmem : e' ∈ t.filter g := List.mem_filter.mpr ⟨he', hfg e' (by simpa using htrue)⟩
    rw [h, List.mem_singleton] at hmem
    exact htrue (hmem ▸ hf)

/-- A trace has no calls of a kind that none of its calls is of. -/
theorem filter_eq_nil_of {f : UpdateEvent → Bool} {t : List UpdateEvent} (h : ∀ e ∈ t, f e = false) :
    t.filter f = [] := List.filter_eq_nil_iff.mpr fun e he => by simp [h e he]

/-- A download and its status in `RETCODE`: the events have one download and no steps of the
installation, and a status of 0 tells how the download ends unless that is hidden. -/
def Downloaded (t : List UpdateEvent) (retcode : Option Nat) : Prop :=
  t.filter isStep = [] ∧ ∃ e status, t.filter isDownload = [e] ∧ retcode = some status ∧
    (status = 0 → downloadFails e = failureHidden e)

/-- Plain traces have no download. -/
theorem filter_isDownload_of_plain {t : List UpdateEvent} (h : ∀ e ∈ t, Plain e) :
    t.filter isDownload = [] := filter_eq_nil_of fun e he => isDownload_of_plain (h e he)

/-- Nor have they any other step of an update. -/
theorem filter_isStep_of_plain {t : List UpdateEvent} (h : ∀ e ∈ t, Plain e) :
    t.filter isStep = [] := filter_eq_nil_of fun e he => isStep_of_plain (h e he)

/-- One download among plain events. -/
theorem downloaded_of {t₁ t₂ : List UpdateEvent} {e : UpdateEvent} {status : Nat}
    (h₁ : ∀ e ∈ t₁, Plain e) (h₂ : ∀ e ∈ t₂, Plain e) (he : isDownload e = true)
    (hstep : isStep e = false) (hstatus : status = 0 → downloadFails e = failureHidden e) :
    Downloaded (t₁ ++ e :: t₂) (some status) := by
  constructor
  · rw [List.filter_append, List.filter_cons_of_neg (by simp [hstep]), filter_isStep_of_plain h₁,
      filter_isStep_of_plain h₂]
    rfl
  · refine ⟨e, status, ?_, rfl, hstatus⟩
    rw [List.filter_append, List.filter_cons_of_pos he, filter_isDownload_of_plain h₁,
      filter_isDownload_of_plain h₂]
    rfl

/-- How a download ends: the script exits with an error, or goes on with a status. -/
def DownloadEnds (t : List UpdateEvent) (r : Except Ending Unit) (retcode : Option Nat) : Prop :=
  (∃ status, status ≠ 0 ∧ r = .error (.exit status)) ∨ (r = .ok () ∧ Downloaded t retcode)

variable {sys : System} {o : Options} {old : Bool} {s s' : Vars} {t : List UpdateEvent}

/-- A failure ends the script with its status. -/
theorem downloadEnds_exit {retcode : Option Nat} {status : Nat} (h : status ≠ 0) :
    DownloadEnds t (.error (.exit status)) retcode := Or.inl ⟨status, h, rfl⟩

/-- `qubes-vm-update`: a failure ends the script. -/
theorem runs_downloadWithProgress {r : Except Ending Unit}
    (h : Runs (downloadWithProgress sys) s t r s') : DownloadEnds t r s'.retcode := by
  obtain ⟨_, t₁, rfl, rfl | hrest⟩ := runs_runOrExit_bind h
  · exact downloadEnds_exit (by decide)
  obtain ⟨_, t₂, rfl, rfl | hrest⟩ := runs_runOrExit_bind hrest
  · exact downloadEnds_exit (by decide)
  obtain ⟨(status : Nat), t₃, rfl, hset⟩ := runs_request_bind.mp hrest
  have hrest := runs_setRetcode_bind.mp hset
  by_cases h100 : status = (100 : Nat)
  · rw [if_pos h100] at hrest
    obtain ⟨-, rfl, -⟩ := runs_throw.mp hrest
    exact downloadEnds_exit (by decide)
  rw [if_neg h100] at hrest
  by_cases hzero : status ≠ (0 : Nat)
  · rw [if_pos hzero] at hrest
    obtain ⟨-, rfl, -⟩ := runs_throw.mp hrest
    exact downloadEnds_exit hzero
  rw [if_neg hzero] at hrest
  -- the packages are handed over in the UpdateVM
  obtain ⟨_, t₄, rfl, rfl | hlast⟩ := runs_runOrExit_bind hrest
  · exact downloadEnds_exit (by decide)
  obtain ⟨_, rfl, rfl, rfl | rfl⟩ := runs_runOrExit hlast
  · exact downloadEnds_exit (by decide)
  refine Or.inr ⟨rfl, @downloaded_of [_, _] _ _ _ ?_ ?_ rfl rfl fun _ => ?_⟩
  · simp [Plain, UpdateCall.isPlain]
  · simp [Plain, UpdateCall.isPlain]
  · simpa [downloadFails, failureHidden] using hzero

/-- `qvm-run`: the status is left to the tests that follow. -/
theorem runs_downloadByScript {r : Except Ending Unit}
    (h : Runs (downloadByScript sys o) s t r s') : DownloadEnds t r s'.retcode := by
  rcases runs_bind.mp h with ⟨ending, rfl, htty⟩ | ⟨ttys, t₁, t₂, s₁, rfl, htty, hrest⟩
  · -- asking for terminals raises nothing
    obtain ⟨tty, t', rfl, hsecond⟩ := runs_request_bind.mp htty
    cases tty with
    | true =>
        obtain ⟨_, -, hr, -⟩ := runs_request.mp hsecond
        cases hr
    | false => cases (runs_pure.mp hsecond).2.1
  have hplain := part_areTtys.emits _ _ _ _ htty
  split at hrest
  · obtain ⟨statuses, t₃, rfl, hset⟩ := runs_request_bind.mp hrest
    obtain ⟨rfl, rfl, rfl⟩ := runs_set.mp (runs_get_bind.mp hset)
    exact Or.inr ⟨rfl, downloaded_of hplain (by simp) rfl rfl fun _ => rfl⟩
  · obtain ⟨(status : Nat), t₃, rfl, hset⟩ := runs_request_bind.mp hrest
    obtain ⟨rfl, rfl, rfl⟩ := runs_set.mp (runs_get_bind.mp hset)
    refine Or.inr ⟨rfl, downloaded_of hplain (by simp) rfl rfl fun hzero => ?_⟩
    simpa [downloadFails, failureHidden] using hzero

/-- The download, in each of the three ways. -/
theorem runs_download {r : Except Ending Unit} (h : Runs (download sys o old) s t r s') :
    DownloadEnds t r s'.retcode := by
  rw [download] at h
  split at h
  · exact runs_downloadWithProgress h
  · exact runs_downloadByScript h

/-- The tests of `RETCODE` end the script with the status, or they are passed with 0. -/
theorem runs_checkDownload {status : Nat} (hretcode : s.retcode = some status) {r : Except Ending Unit}
    (h : Runs (checkDownload o old) s t r s') :
    (r = .error (.exit status) ∧ t = [] ∧ (o.remoteOnly = true ∨ status ≠ 0)) ∨
      (r = .ok () ∧ t = [] ∧ s' = s ∧ status = 0) := by
  have h := runs_get_bind.mp h
  rw [hretcode] at h
  dsimp only [Option.getD_some] at h
  split at h
  · rename_i hstatus
    obtain ⟨rfl, rfl, -⟩ := runs_throw.mp h
    exact Or.inl ⟨rfl, rfl, Or.inr hstatus.2.2⟩
  split at h
  · rename_i hstatus
    obtain ⟨rfl, rfl, -⟩ := runs_throw.mp h
    exact Or.inl ⟨rfl, rfl, hstatus⟩
  · rename_i hstatus
    obtain ⟨rfl, rfl, rfl⟩ := runs_pure.mp h
    exact Or.inr ⟨rfl, rfl, rfl, not_not.mp fun hzero => hstatus (Or.inr hzero)⟩

end Dom0Update

end QubesAdminLinux
