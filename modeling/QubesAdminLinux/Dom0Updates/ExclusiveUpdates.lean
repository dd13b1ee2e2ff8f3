import QubesAdminLinux.Dom0Updates.AppliedUpdate
import QubesAdminLinux.Lib.Histories
import QubesAdminLinux.Lib.Locks

/-! # Updates of dom0 at the same time

A run of `qubes-dom0-update` takes a lock before it does anything, and its end gives the lock back: also a
run that is killed ends so.  A run that another one has started to switch the audio server works under the
lock of the other one, so that it belongs to a call of it.  A run whose command line names templates becomes
`qvm-template` before it comes to the lock; what that program does is not under the lock.

* **`UpdateCall.isPreliminary`** — what is done without the lock.
* **`underLock_script`** — everything else is done after the lock has been taken.
* **`updates_exclusive`** — however many runs there are, what they do is not interleaved, and a run that
  does not get the lock does nothing, unless it becomes `qvm-template`. -/

namespace QubesAdminLinux

namespace Dom0Update

open Proc

/-- Whether an event takes the lock. -/
def takesLock : UpdateEvent → Bool
  | ⟨.run argv, status⟩ =>
      let status : Nat := status
      argv = ["flock", "-n", "9"] && status = 0
  | _ => false

/-- The calls that the script makes without the lock: the user, the lock itself, and the `exec` of
`qvm-template`, which takes the place of the script. -/
def UpdateCall.isPreliminary : UpdateCall → Bool
  | .output argv => argv = ["id", "-ur"]
  | .run argv =>
      argv = ["chgrp", "qubes", "qubes-dom0-update.lock"]
        || argv = ["chmod", "g+w", "qubes-dom0-update.lock"] || argv = ["flock", "-n", "9"]
  | .execTemplate _ => true
  | _ => false

/-- What the script itself does to dom0 and to the UpdateVM. -/
abbrev Touches (e : UpdateEvent) : Prop := e.call.isPreliminary = false

/-- A call that needs no lock, or comes after the lock has been taken. -/
def AfterLock (before : List UpdateEvent) (c : UpdateCall) : Prop :=
  c.isPreliminary = true ∨ ∃ e ∈ before, takesLock e = true

section

variable {sys : System} {o : Options} {before : List UpdateEvent}

/-- Under the lock everything may be done. -/
theorem heeds_of_taken {α : Type} (h : ∃ e ∈ before, takesLock e = true) (x : UpdateM α) :
    Heeds AfterLock before x := by
  obtain ⟨e, he, htakes⟩ := h
  exact heeds_of_past (fun t c => Or.inr ⟨e, List.mem_append_left _ he, htakes⟩) x

/-- Sharing the lock is preliminary. -/
theorem emits_shareLock (id : String) :
    Emits (fun e => e.call.isPreliminary = true) (shareLock id) := by
  rw [shareLock]
  split
  · refine emits_bind (emits_request fun _ => rfl) fun status => ?_
    split
    · exact emits_bind (emits_request fun _ => rfl) fun _ => emits_pure
    · exact emits_pure
  · exact emits_pure

/-- The test of the caller makes no other call. -/
theorem emits_checkCaller : Emits (fun e => e.call.isPreliminary = true) (checkCaller sys o) := by
  refine emits_bind (emits_request fun _ => rfl) fun id => ?_
  split
  · exact emits_throw
  refine emits_bind (emits_shareLock id.1) fun _ => emits_bind (emits_request fun _ => rfl) fun status => ?_
  split
  · exact emits_throw
  split
  · exact emits_throw
  · exact emits_pure

/-- After the test the lock has been taken, if the run is not part of another one. -/
theorem taken_of_checkCaller (hown : sys.switchingAudio = "") {s s' : Vars} {t : List UpdateEvent}
    (h : Runs (checkCaller sys o) s t (.ok ()) s') : ∃ e ∈ t, takesLock e = true := by
  obtain ⟨id, t₁, rfl, hrest⟩ := runs_request_bind.mp h
  split at hrest
  · cases (runs_throw.mp hrest).2.1
  obtain ⟨⟨⟩, t₂, t₃, s₁, rfl, -, hlock⟩ := runs_bind_ok.mp hrest
  obtain ⟨status, t₄, rfl, hend⟩ := runs_request_bind.mp hlock
  change Nat at status
  refine ⟨⟨.run ["flock", "-n", "9"], status⟩, by simp, ?_⟩
  by_cases hstatus : status = 0
  · simp [takesLock, hstatus]
  · rw [if_pos ⟨hstatus, hown⟩] at hend
    cases (runs_throw.mp hend).2.1

/-- All other preparations come after the lock. -/
theorem heeds_prepare (hown : sys.switchingAudio = "") : Heeds AfterLock [] (prepare sys o) := by
  refine heeds_bind (emits_checkCaller.heeds fun _ _ => Or.inl) fun s t a s' hrun => ?_
  exact heeds_of_taken (taken_of_checkCaller hown hrun) _

/-- After the preparation, too. -/
theorem taken_of_prepare (hown : sys.switchingAudio = "") {s s' : Vars} {t : List UpdateEvent}
    {guiapp : List String} (h : Runs (prepare sys o) s t (.ok guiapp) s') :
    ∃ e ∈ t, takesLock e = true := by
  obtain ⟨⟨⟩, t₁, t₂, s₁, rfl, hcaller, -⟩ := runs_bind_ok.mp h
  obtain ⟨e, he, htakes⟩ := taken_of_checkCaller hown hcaller
  exact ⟨e, List.mem_append_left _ he, htakes⟩

/-- The script does nothing without the lock, whatever its command line and the answers of the system. -/
theorem heeds_script (hown : sys.switchingAudio = "") (args : List String) :
    Heeds AfterLock [] (script sys args) :=
  heeds_script_of (fun _ => Or.inl rfl) (fun _ => heeds_prepare hown)
    fun _ _ _ _ _ _ hrun => heeds_of_taken (taken_of_prepare hown hrun) _

/-- All that a run does to dom0 and the UpdateVM it does after it has taken the lock. -/
theorem underLock_script (hown : sys.switchingAudio = "") {args : List String} {s s' : Vars}
    {t : List UpdateEvent} {r : Except Ending Unit} (h : Runs (script sys args) s t r s') :
    UnderLock takesLock Touches t := by
  intro t₁ e t₂ ht htouches
  rcases heeded_iff.mp (heeds_script hown args _ _ _ _ h) t₁ e t₂ ht with hfree | htaken
  · rw [htouches] at hfree
    cases hfree
  · exact htaken

end

/-! ## Several runs -/

variable {ι : Type} [DecidableEq ι]

/-- The log of several runs of the script that share the lock.  Each of them may be killed at any time,
and a signal says that it has ended, with all programs that it has started. -/
structure ConcurrentUpdates (sys : ι → System) (args : ι → List String)
    (log : List (LockLabel ι UpdateCall.Reply)) : Prop where
  /-- No run is part of another one. -/
  own : ∀ i, (sys i).switchingAudio = ""
  /-- What each of them does is what the script does, up to some point. -/
  runs : ∀ i, ∃ s t r s', Runs (script (sys i) (args i)) s (threadEvents i log ++ t) r s'
  /-- The lock is that of the system. -/
  locked : Locked takesLock log

/-- Of runs at the same time, only one does something to dom0 and the UpdateVM: before another one does, it
has ended, and a run that does not get the lock does nothing to them, unless it becomes `qvm-template`. -/
theorem updates_exclusive {sys : ι → System} {args : ι → List String}
    {log : List (LockLabel ι UpdateCall.Reply)} (h : ConcurrentUpdates sys args log) :
    Exclusive Touches log ∧ ∀ i, (∀ e ∈ threadEvents i log, takesLock e = false) →
      ∀ e ∈ threadEvents i log, ¬ Touches e := by
  have hunder : ∀ i, UnderLock takesLock Touches (threadEvents i log) := by
    intro i
    obtain ⟨s, t, r, s', hrun⟩ := h.runs i
    exact (underLock_script (h.own i) hrun).of_append
  exact ⟨h.locked.exclusive hunder, fun i hnever => (hunder i).not_critical hnever⟩

/-- The events of a run that has the lock. -/
def firstUpdate : List UpdateEvent := (play (checkingSystem 100) (script usualSystem []) ⟨none, false⟩).1

/-- A system in which another run has the lock. -/
def lockedSystem : (c : UpdateCall) → c.Reply
  | .run argv => if argv.head? = some "flock" then (1 : Nat) else (0 : Nat)
  | c => checkingSystem 100 c

/-- The events of a run that does not get it. -/
def secondUpdate : List UpdateEvent := (play lockedSystem (script usualSystem []) ⟨none, false⟩).1

/-- Three runs. -/
inductive Turn
  | first
  | second
  | third
  deriving DecidableEq

/-- The first run, with the second one in the middle, and then a third one, which is killed. -/
def threeUpdates : List (LockLabel Turn UpdateCall.Reply) :=
  (firstUpdate.take 8).map (.thread .first) ++ secondUpdate.map (.thread .second)
    ++ (firstUpdate.drop 8).map (.thread .first)
    ++ .signal .first :: (firstUpdate.take 12).map (.thread .third)

/-- The calls of each of the three runs. -/
theorem threadEvents_threeUpdates : threadEvents .first threeUpdates = firstUpdate ∧
    threadEvents .second threeUpdates = secondUpdate ∧
    threadEvents .third threeUpdates = firstUpdate.take 12 := by
  simp [threeUpdates, threadEvents_map_ne, -List.map_take, -List.map_drop]

/-- The three runs share the lock. -/
theorem concurrentUpdates_three :
    ConcurrentUpdates (fun _ => usualSystem) (fun _ : Turn => []) threeUpdates := by
  obtain ⟨hfirst, hsecond, hthird⟩ := threadEvents_threeUpdates
  have hrun : ∀ (env : (c : UpdateCall) → c.Reply) (t t' : List UpdateEvent),
      t ++ t' = (play env (script usualSystem []) ⟨none, false⟩).1 →
      ∃ s t' r s', Runs (script usualSystem []) s (t ++ t') r s' := by
    intro env t t' ht
    exact ⟨_, t', _, _, ht ▸ runs_play env (script usualSystem []) ⟨none, false⟩⟩
  refine ⟨fun _ => rfl, fun i => ?_, by decide +kernel⟩
  cases i with
  | first =>
      rw [hfirst]
      exact hrun (checkingSystem 100) firstUpdate [] (List.append_nil _)
  | second =>
      rw [hsecond]
      exact hrun lockedSystem secondUpdate [] (List.append_nil _)
  | third =>
      rw [hthird]
      exact hrun (checkingSystem 100) _ (firstUpdate.drop 12) (List.take_append_drop _ _)

/-- The second run has found the lock taken, and has done nothing. -/
theorem updates_exclusive_three :
    Exclusive Touches threeUpdates ∧ ∀ e ∈ secondUpdate, ¬ Touches e := by
  obtain ⟨hexclusive, hnothing⟩ := updates_exclusive concurrentUpdates_three
  have hnever : ∀ e ∈ secondUpdate, takesLock e = false := by decide +kernel
  have hsecond := hnothing .second
  rw [threadEvents_threeUpdates.2.1] at hsecond
  exact ⟨hexclusive, hsecond hnever⟩

end Dom0Update

end QubesAdminLinux
