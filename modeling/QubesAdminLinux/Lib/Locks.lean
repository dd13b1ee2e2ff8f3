import QubesAdminLinux.Lib.Threads

/-! # Locks that are held to the end

Threads take one lock without waiting for it, and hold it until they have ended.  In a log of several
threads, a signal that carries the name of a thread says that the lock is no longer held by it.

* **`holder`** — who holds the lock after the entries of a log.
* **`Locked`** — the lock is taken only when nobody else holds it, and given back only at the end.
* **`UnderLock`** — a thread does nothing critical before it has taken the lock.
* **`Locked.holder_of_taken`** — who has taken the lock holds it as long as it has something to do.
* **`Locked.exclusive`** — what the threads do under the lock is not interleaved. -/

namespace QubesAdminLinux

variable {ι Call : Type} {Reply : Call → Type} [DecidableEq ι]

/-- An entry of the log of threads that share a lock. -/
abbrev LockLabel (ι : Type) {Call : Type} (Reply : Call → Type) := Label ι ι Reply

/-- Who holds the lock after an entry. -/
def holderStep (takes : Event Reply → Bool) (holder : Option ι) : LockLabel ι Reply → Option ι
  | .thread i e => if takes e then some i else holder
  | .signal i => if holder = some i then none else holder

/-- Who holds the lock after the entries of a log. -/
def holder (takes : Event Reply → Bool) (log : List (LockLabel ι Reply)) : Option ι :=
  log.foldl (holderStep takes) none

/-- Whether a thread has ended. -/
def hasEnded (i : ι) (log : List (LockLabel ι Reply)) : Bool :=
  log.any fun
    | .thread _ _ => false
    | .signal j => j = i

/-- Which entries are possible after a log. -/
def LockAllows (takes : Event Reply → Bool) (before : List (LockLabel ι Reply)) :
    LockLabel ι Reply → Prop
  | .thread i e => hasEnded i before = false ∧
      (takes e = true → holder takes before = none ∨ holder takes before = some i)
  | .signal _ => True

/-- A log that the lock allows: it is taken only when nobody else holds it, and a thread that has given it
back does nothing any more. -/
def Locked (takes : Event Reply → Bool) (log : List (LockLabel ι Reply)) : Prop :=
  ∀ k (h : k < log.length), LockAllows takes (log.take k) log[k]

instance (takes : Event Reply → Bool) (before : List (LockLabel ι Reply)) (label : LockLabel ι Reply) :
    Decidable (LockAllows takes before label) :=
  match label with
  | .thread i e => inferInstanceAs (Decidable (hasEnded i before = false ∧
      (takes e = true → holder takes before = none ∨ holder takes before = some i)))
  | .signal _ => isTrue trivial

instance (takes : Event Reply → Bool) (log : List (LockLabel ι Reply)) : Decidable (Locked takes log) :=
  inferInstanceAs (Decidable (∀ k (h : k < log.length), LockAllows takes (log.take k) log[k]))

/-- A trace in which everything that has to be done under the lock is done after the lock has been
taken. -/
def UnderLock (takes : Event Reply → Bool) (critical : Event Reply → Prop) (t : List (Event Reply)) :
    Prop :=
  ∀ before e after, t = before ++ e :: after → critical e → ∃ e' ∈ before, takes e' = true

/-- What has to be done under the lock is never interleaved. -/
structure Exclusive (critical : Event Reply → Prop) (log : List (LockLabel ι Reply)) : Prop where
  /-- Before it is the turn of another thread, a thread has ended. -/
  turns : ∀ before i e between j e' after,
    log = before ++ .thread i e :: (between ++ .thread j e' :: after) → critical e → critical e' → i ≠ j →
    .signal i ∈ between
  /-- Between two such events of a thread there are none of other threads. -/
  alone : ∀ before i e between e' after,
    log = before ++ .thread i e :: (between ++ .thread i e' :: after) → critical e → critical e' →
    ∀ j e'', .thread j e'' ∈ between → critical e'' → j = i

variable {takes : Event Reply → Bool} {critical : Event Reply → Prop}
  {log before after : List (LockLabel ι Reply)}

omit [DecidableEq ι] in
/-- The beginning of a trace is under the lock, too. -/
theorem UnderLock.of_append {t₁ t₂ : List (Event Reply)} (h : UnderLock takes critical (t₁ ++ t₂)) :
    UnderLock takes critical t₁ := by
  rintro before e after rfl
  exact h before e (after ++ t₂) (by simp)

/-- Without the lock, nothing is done that has to be done under it. -/
theorem UnderLock.not_critical {t : List (Event Reply)} (h : UnderLock takes critical t)
    (hnever : ∀ e ∈ t, takes e = false) : ∀ e ∈ t, ¬ critical e := by
  intro e he hcritical
  obtain ⟨before, after, rfl⟩ := List.append_of_mem he
  obtain ⟨e', he', htakes⟩ := h before e after rfl hcritical
  rw [hnever e' (by simp [he'])] at htakes
  cases htakes

/-- The holder after one more step. -/
theorem holder_append_singleton (label : LockLabel ι Reply) :
    holder takes (log ++ [label]) = holderStep takes (holder takes log) label := by
  rw [holder, List.foldl_append]
  rfl

/-- A process has ended if it has given the signal. -/
theorem hasEnded_iff {i : ι} : hasEnded i log = true ↔ .signal i ∈ log := by
  rw [hasEnded, List.any_eq_true]
  constructor
  · rintro ⟨label, hmem, hlabel⟩
    cases label with
    | thread j e => cases hlabel
    | signal j =>
        have hj : j = i := by simpa using hlabel
        exact hj ▸ hmem
  · exact fun hmem => ⟨_, hmem, by simp⟩

namespace Locked

/-- Each step is allowed after those before it. -/
theorem allows {label : LockLabel ι Reply} (h : Locked takes (before ++ label :: after)) :
    LockAllows takes before label := by
  have hentry := h before.length (by simp)
  simpa using hentry

/-- The beginning of a log. -/
theorem of_append (h : Locked takes (before ++ after)) : Locked takes before := by
  intro k hk
  have hentry := h k (by simp; omega)
  rwa [List.take_append_of_le_length hk.le, List.getElem_append_left hk] at hentry

/-- Who has taken the lock and not given it back holds it. -/
theorem holder_of_taken (h : Locked takes log) {i : ι} {e : Event Reply} (he : .thread i e ∈ log)
    (htakes : takes e = true) (hheld : .signal i ∉ log) : holder takes log = some i := by
  induction log using List.reverseRecOn with
  | nil => cases he
  | append_singleton log label ih =>
      have hheld' : .signal i ∉ log := fun hmem => hheld (List.mem_append_left _ hmem)
      rw [holder_append_singleton]
      rcases List.mem_append.mp he with hmem | hlast
      · have hholder := ih h.of_append hmem hheld'
        rw [hholder]
        cases label with
        | thread j e' =>
            rw [holderStep]
            split
            · -- nobody else can take it
              rename_i htakes'
              rcases (@allows _ _ _ _ _ log [] _ h).2 htakes' with hnone | hown
              · rw [hholder] at hnone
                cases hnone
              · rw [← hown, hholder]
            · rfl
        | signal j =>
            rw [holderStep, if_neg]
            rintro heq
            cases heq
            exact hheld (by simp)
      · cases List.mem_singleton.mp hlast
        rw [holderStep, if_pos htakes]

/-- A thread that has still something to do has not given the lock back. -/
theorem signal_notMem {i : ι} {e : Event Reply} (h : Locked takes (before ++ .thread i e :: after)) :
    .signal i ∉ before := by
  intro hmem
  have hended := h.allows.1
  rw [hasEnded_iff.mpr hmem] at hended
  cases hended

/-- Who does something that has to be done under the lock holds it. -/
theorem holder_of_critical {i : ι} {e : Event Reply} (h : Locked takes (before ++ .thread i e :: after))
    (hunder : UnderLock takes critical (threadEvents i (before ++ .thread i e :: after)))
    (he : critical e) : holder takes before = some i := by
  rw [threadEvents_append, threadEvents_thread_self] at hunder
  obtain ⟨e', he', htakes⟩ := hunder _ e _ rfl he
  exact h.of_append.holder_of_taken (mem_threadEvents.mp he') htakes
    h.signal_notMem

/-- Two threads that do something under the lock: the first has ended in between. -/
theorem ended_between {between : List (LockLabel ι Reply)} {i j : ι} {e e' : Event Reply}
    (h : Locked takes (before ++ .thread i e :: (between ++ .thread j e' :: after)))
    (hunder : ∀ k, UnderLock takes critical
      (threadEvents k (before ++ .thread i e :: (between ++ .thread j e' :: after))))
    (hij : i ≠ j) (he : critical e) (he' : critical e') : .signal i ∈ between := by
  by_contra hheld
  have hbefore : .signal i ∉ before := h.signal_notMem
  -- the thread `i` has taken the lock already
  have hi := hunder i
  rw [threadEvents_append, threadEvents_thread_self] at hi
  obtain ⟨e₀, he₀, htakes⟩ := hi _ e _ rfl he
  have hlog : before ++ .thread i e :: (between ++ .thread j e' :: after)
      = (before ++ .thread i e :: between) ++ .thread j e' :: after := by simp
  rw [hlog] at h
  have hfirst : holder takes (before ++ .thread i e :: between) = some i := by
    refine h.of_append.holder_of_taken (List.mem_append_left _ (mem_threadEvents.mp he₀)) htakes ?_
    simp [hheld, hbefore]
  have hsecond : holder takes (before ++ .thread i e :: between) = some j :=
    h.holder_of_critical (hlog ▸ hunder j) he'
  exact hij (Option.some.inj (hfirst.symm.trans hsecond))

/-- Threads that take the lock before they do such things do not interleave them. -/
theorem exclusive (h : Locked takes log)
    (hunder : ∀ k, UnderLock takes critical (threadEvents k log)) : Exclusive critical log := by
  refine ⟨?_, ?_⟩
  · rintro before i e between j e' after rfl he he' hij
    exact h.ended_between hunder hij he he'
  · rintro before i e between e' after rfl he he' j e'' hmem he''
    by_contra hji
    -- otherwise the thread would have ended before its second event
    obtain ⟨l₁, l₂, rfl⟩ := List.append_of_mem hmem
    rw [List.append_assoc, List.cons_append] at h hunder
    have hended := h.ended_between hunder (Ne.symm hji) he he''
    have hlog : before ++ .thread i e :: (l₁ ++ .thread j e'' :: (l₂ ++ .thread i e' :: after))
        = (before ++ .thread i e :: (l₁ ++ .thread j e'' :: l₂)) ++ .thread i e' :: after := by simp
    rw [hlog] at h
    exact h.signal_notMem (by simp [hended])

end Locked

end QubesAdminLinux
