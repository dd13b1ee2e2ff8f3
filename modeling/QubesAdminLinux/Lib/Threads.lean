import QubesAdminLinux.Lib.Interleaving
import QubesAdminLinux.Lib.Program
import Mathlib.Algebra.BigOperators.Group.Finset.Piecewise
import Mathlib.Algebra.Order.BigOperators.Group.Finset
import Mathlib.Data.Fintype.Card

/-! # Threads over a shared memory

A pool of sequential programs runs against one memory.  Every call of a thread is answered from the
memory and may change it; signals from outside change it as well.  A run is recorded as a log of the
events of all threads and the signals, in the order in which they happen.

* **`Memory`** — which answers a memory allows, and how events and signals change it.
* **`Step`, `Steps`** — one step of the pool, and a run with its log.
* **`Steps.runs`** — the events of a thread in a log are a run of its program.
* **`Steps.memory`** — the memory after a run is computed from its log.
* **`Steps.allowed`** — each answer in a log is allowed by the memory at its place.
* **`Memory.Serves`, `Memory.after`** — the same for one program alone.
* **`Pool.play`** — a run for a given schedule.
* **`card_le_length`** — a schedule in which every thread occurs is as long as there are threads. -/

namespace QubesAdminLinux

variable {ι σ Signal Call : Type} {Reply : Call → Type} {α : Type}

/-- An entry of a log. -/
inductive Label (ι Signal : Type) {Call : Type} (Reply : Call → Type)
  /-- A thread makes a call and gets its answer. -/
  | thread (i : ι) (event : Event Reply)
  /-- A signal arrives from outside. -/
  | signal (signal : Signal)

/-- The event of a thread, if an entry is one. -/
def Label.thread? : Label ι Signal Reply → Option (ι × Event Reply)
  | .thread i event => some (i, event)
  | .signal _ => none

/-- A memory with state `σ`. -/
structure Memory (σ Signal : Type) {Call : Type} (Reply : Call → Type) where
  /-- Whether an answer is allowed in a state. -/
  allows : σ → Event Reply → Prop
  /-- The state after an event. -/
  answer : σ → Event Reply → σ
  /-- The state after a signal. -/
  receive : σ → Signal → σ

/-- The state of the memory after an entry of the log. -/
def Memory.next (mem : Memory σ Signal Reply) (s : σ) : Label ι Signal Reply → σ
  | .thread _ event => mem.answer s event
  | .signal signal => mem.receive s signal

/-- The state after a single program has exchanged some events with the memory. -/
def Memory.after (mem : Memory σ Signal Reply) (s : σ) (t : List (Event Reply)) : σ :=
  t.foldl mem.answer s

/-- The memory may give the answers of some events, one after the other. -/
def Memory.Serves (mem : Memory σ Signal Reply) : σ → List (Event Reply) → Prop
  | _, [] => True
  | s, e :: rest => mem.allows s e ∧ mem.Serves (mem.answer s e) rest

/-- Threads, each with what it still has to do, and the state of the memory. -/
structure Pool (ι σ : Type) {Call : Type} (Reply : Call → Type) (α : Type) where
  /-- The rest of each thread. -/
  thread : ι → Program Call Reply α
  /-- The state of the memory. -/
  state : σ

variable [DecidableEq ι] {mem : Memory σ Signal Reply} {pool pool' pool'' : Pool ι σ Reply α}

/-- One step of a pool. -/
inductive Step (mem : Memory σ Signal Reply) :
    Pool ι σ Reply α → Label ι Signal Reply → Pool ι σ Reply α → Prop
  /-- The thread `i` makes a call, which is answered. -/
  | thread {pool : Pool ι σ Reply α} {i : ι} {c : Call} {next : Reply c → Program Call Reply α}
      (r : Reply c) (hcall : pool.thread i = .call c next) (hallows : mem.allows pool.state ⟨c, r⟩) :
      Step mem pool (.thread i ⟨c, r⟩)
        ⟨Function.update pool.thread i (next r), mem.answer pool.state ⟨c, r⟩⟩
  /-- A signal arrives. -/
  | signal {pool : Pool ι σ Reply α} (signal : Signal) :
      Step mem pool (.signal signal) ⟨pool.thread, mem.receive pool.state signal⟩

/-- A run of a pool with its log. -/
inductive Steps (mem : Memory σ Signal Reply) :
    Pool ι σ Reply α → List (Label ι Signal Reply) → Pool ι σ Reply α → Prop
  | nil (pool : Pool ι σ Reply α) : Steps mem pool [] pool
  | cons {pool pool' pool'' : Pool ι σ Reply α} {label : Label ι Signal Reply}
      {log : List (Label ι Signal Reply)} (hstep : Step mem pool label pool')
      (hrest : Steps mem pool' log pool'') : Steps mem pool (label :: log) pool''

namespace Memory

variable {mem : Memory σ Signal Reply} {s : σ} {t₁ t₂ : List (Event Reply)}

/-- Whether the memory may give some answers can be checked one by one. -/
def decidableServes [∀ s e, Decidable (mem.allows s e)] :
    (s : σ) → (t : List (Event Reply)) → Decidable (mem.Serves s t)
  | _, [] => isTrue trivial
  | s, e :: rest =>
      match decidableServes (mem.answer s e) rest with
      | isTrue h =>
          if hallows : mem.allows s e then isTrue ⟨hallows, h⟩ else isFalse fun hand => hallows hand.1
      | isFalse h => isFalse fun hand => h hand.2

instance [∀ s e, Decidable (mem.allows s e)] (t : List (Event Reply)) :
    Decidable (mem.Serves s t) := decidableServes s t

/-- Without events, the memory stays as it is. -/
@[simp] theorem after_nil : mem.after s [] = s := rfl

/-- One event and those after it. -/
@[simp] theorem after_cons (e : Event Reply) (t : List (Event Reply)) :
    mem.after s (e :: t) = mem.after (mem.answer s e) t := rfl

/-- Two parts of a trace. -/
@[simp] theorem after_append : mem.after s (t₁ ++ t₂) = mem.after (mem.after s t₁) t₂ :=
  List.foldl_append

/-- One event and those after it. -/
theorem serves_cons {e : Event Reply} {t : List (Event Reply)} :
    mem.Serves s (e :: t) ↔ mem.allows s e ∧ mem.Serves (mem.answer s e) t := Iff.rfl

/-- Two parts of a trace. -/
theorem serves_append :
    mem.Serves s (t₁ ++ t₂) ↔ mem.Serves s t₁ ∧ mem.Serves (mem.after s t₁) t₂ := by
  induction t₁ generalizing s with
  | nil => simp [Serves]
  | cons e rest ih => rw [List.cons_append, serves_cons, serves_cons, ih, after_cons, and_assoc]

end Memory

/-- Run a pool by a schedule: each thread makes its next call when it is its turn, and gets the answer
that is chosen by the state. -/
def Pool.play (mem : Memory σ Signal Reply) (choose : σ → (c : Call) → Reply c) :
    List ι → Pool ι σ Reply α → List (Label ι Signal Reply) × Pool ι σ Reply α
  | [], pool => ([], pool)
  | i :: turns, pool =>
      match pool.thread i with
      -- a thread that has ended misses its turn
      | .pure _ => Pool.play mem choose turns pool
      | .call c next =>
          let event : Event Reply := ⟨c, choose pool.state c⟩
          let rest := Pool.play mem choose turns
            ⟨Function.update pool.thread i (next event.reply), mem.answer pool.state event⟩
          (.thread i event :: rest.1, rest.2)

/-- Playing a pool is a run, if the memory allows the answers that are chosen. -/
theorem Pool.steps_play (choose : σ → (c : Call) → Reply c)
    (h : ∀ s c, mem.allows s ⟨c, choose s c⟩) (turns : List ι) (pool : Pool ι σ Reply α) :
    Steps mem pool (pool.play mem choose turns).1 (pool.play mem choose turns).2 := by
  induction turns generalizing pool with
  | nil => exact .nil pool
  | cons i turns ih =>
      rw [Pool.play]
      split
      · exact ih pool
      · rename_i c next hcall
        exact .cons (.thread (choose pool.state c) hcall (h pool.state c)) (ih _)

/-- There are no signals in a pool that is played. -/
theorem Pool.thread_of_mem_play {choose : σ → (c : Call) → Reply c} {turns : List ι}
    {label : Label ι Signal Reply} (h : label ∈ (pool.play mem choose turns).1) :
    ∃ i event, label = .thread i event := by
  induction turns generalizing pool with
  | nil => cases h
  | cons i turns ih =>
      rw [Pool.play] at h
      split at h
      · exact ih h
      · rcases List.mem_cons.mp h with rfl | h
        · exact ⟨i, _, rfl⟩
        · exact ih h

/-- The events of a log, each with its thread. -/
def scheduled (log : List (Label ι Signal Reply)) : List (ι × Event Reply) :=
  log.filterMap Label.thread?

/-- The events of a thread in a log. -/
def threadEvents (i : ι) (log : List (Label ι Signal Reply)) : List (Event Reply) :=
  project i (scheduled log)

omit [DecidableEq ι] in
/-- Two parts of a log. -/
theorem scheduled_append (log₁ log₂ : List (Label ι Signal Reply)) :
    scheduled (log₁ ++ log₂) = scheduled log₁ ++ scheduled log₂ := List.filterMap_append

/-- Two parts of a log. -/
@[simp] theorem threadEvents_append (i : ι) (log₁ log₂ : List (Label ι Signal Reply)) :
    threadEvents i (log₁ ++ log₂) = threadEvents i log₁ ++ threadEvents i log₂ := by
  rw [threadEvents, scheduled_append, project_append, threadEvents, threadEvents]

/-- A signal belongs to no thread. -/
@[simp] theorem threadEvents_signal (i : ι) (signal : Signal)
    (log : List (Label ι Signal Reply)) :
    threadEvents i (.signal signal :: log) = threadEvents i log := rfl

/-- An event of this thread. -/
theorem threadEvents_thread_self (i : ι) (event : Event Reply)
    (log : List (Label ι Signal Reply)) :
    threadEvents i (.thread i event :: log) = event :: threadEvents i log :=
  project_cons_self i event (scheduled log)

/-- An event of another thread. -/
theorem threadEvents_thread_ne {i j : ι} (h : j ≠ i) (event : Event Reply)
    (log : List (Label ι Signal Reply)) :
    threadEvents i (.thread j event :: log) = threadEvents i log :=
  project_cons_ne h event (scheduled log)

/-- Events of one thread. -/
@[simp] theorem threadEvents_map_self (i : ι) (t : List (Event Reply)) :
    threadEvents i (t.map (.thread i : Event Reply → Label ι Signal Reply)) = t := by
  induction t with
  | nil => rfl
  | cons e rest ih => rw [List.map_cons, threadEvents_thread_self, ih]

/-- Events of another thread. -/
theorem threadEvents_map_ne {i j : ι} (h : j ≠ i) (t : List (Event Reply)) :
    threadEvents i (t.map (.thread j : Event Reply → Label ι Signal Reply)) = [] := by
  induction t with
  | nil => rfl
  | cons e rest ih => rw [List.map_cons, threadEvents_thread_ne h, ih]

/-- An event of a thread is an entry of the log. -/
theorem mem_threadEvents {i : ι} {event : Event Reply} {log : List (Label ι Signal Reply)} :
    event ∈ threadEvents i log ↔ .thread i event ∈ log := by
  rw [threadEvents, mem_project, scheduled, List.mem_filterMap]
  constructor
  · rintro ⟨label, hmem, hlabel⟩
    cases label with
    | thread j event' =>
        obtain ⟨rfl, rfl⟩ := Prod.mk.inj (Option.some.inj hlabel)
        exact hmem
    -- a signal is nobody's event
    | signal signal => cases hlabel
  · intro hmem
    exact ⟨_, hmem, rfl⟩

namespace Steps

/-- A run can be cut anywhere. -/
theorem append_iff {log₁ log₂ : List (Label ι Signal Reply)} :
    Steps mem pool (log₁ ++ log₂) pool'' ↔
      ∃ pool', Steps mem pool log₁ pool' ∧ Steps mem pool' log₂ pool'' := by
  induction log₁ generalizing pool with
  | nil =>
      constructor
      · intro h
        exact ⟨pool, .nil pool, h⟩
      · rintro ⟨pool', hnil, h⟩
        cases hnil
        exact h
  | cons label rest ih =>
      constructor
      · intro h
        cases h with
        | cons hstep hrest =>
            obtain ⟨pool', h₁, h₂⟩ := ih.mp hrest
            exact ⟨pool', .cons hstep h₁, h₂⟩
      · rintro ⟨pool', h₁, h₂⟩
        cases h₁ with
        | cons hstep hrest => exact .cons hstep (ih.mpr ⟨pool', hrest, h₂⟩)

/-- The memory after a run. -/
theorem memory {log : List (Label ι Signal Reply)} (h : Steps mem pool log pool') :
    pool'.state = log.foldl mem.next pool.state := by
  induction h with
  | nil pool => rfl
  | cons hstep hrest ih =>
      rw [List.foldl_cons, ih]
      cases hstep with
      | thread r hcall hallows => rfl
      | signal signal => rfl

/-- The answers in a log are allowed by the memory at their places. -/
theorem allowed {log₁ log₂ : List (Label ι Signal Reply)} {i : ι} {event : Event Reply}
    (h : Steps mem pool (log₁ ++ .thread i event :: log₂) pool') :
    mem.allows (log₁.foldl mem.next pool.state) event := by
  obtain ⟨mid, hbefore, hafter⟩ := append_iff.mp h
  rw [← hbefore.memory]
  cases hafter with
  | cons hstep hrest =>
      cases hstep with
      | thread r hcall hallows => exact hallows

/-- A run of what a thread has still to do, after its events in the log, is a run of its program. -/
theorem runs_append {log : List (Label ι Signal Reply)} (h : Steps mem pool log pool') (i : ι)
    {t : List (Event Reply)} {a : α} (hrun : Program.Runs (pool'.thread i) t a) :
    Program.Runs (pool.thread i) (threadEvents i log ++ t) a := by
  induction h with
  | nil pool => exact hrun
  | cons hstep hrest ih =>
      have hrun' := ih hrun
      cases hstep with
      | signal signal => exact hrun'
      | @thread j c next r hcall hallows =>
          dsimp only at hrun'
          by_cases heq : j = i
          · subst heq
            rw [threadEvents_thread_self, List.cons_append, hcall]
            rw [Function.update_self] at hrun'
            exact .call r hrun'
          · rw [threadEvents_thread_ne heq]
            rwa [Function.update_of_ne (Ne.symm heq)] at hrun'

/-- The events of a thread that has ended are a run of its program. -/
theorem runs {log : List (Label ι Signal Reply)} (h : Steps mem pool log pool') {i : ι} {a : α}
    (hend : pool'.thread i = .pure a) : Program.Runs (pool.thread i) (threadEvents i log) a := by
  have hrun := h.runs_append i (t := []) (a := a) (by rw [hend]; exact .pure a)
  rwa [List.append_nil] at hrun

end Steps

/-- A schedule is as long as its parts together. -/
theorem length_eq_sum_project {β : Type} [Fintype ι] (schedule : List (ι × β)) :
    schedule.length = ∑ i, (project i schedule).length := by
  induction schedule with
  | nil => simp
  | cons hd tl ih =>
      obtain ⟨j, b⟩ := hd
      -- the first entry counts for its own thread and for no other
      have hpart : ∀ i, (project i ((j, b) :: tl)).length
          = (if j = i then 1 else 0) + (project i tl).length := by
        intro i
        by_cases h : j = i
        · subst h
          rw [project_cons_self, if_pos rfl, List.length_cons, Nat.add_comm]
        · rw [project_cons_ne h, if_neg h, Nat.zero_add]
      rw [List.length_cons, ih]
      simp only [hpart]
      rw [Finset.sum_add_distrib, Finset.sum_ite_eq, if_pos (Finset.mem_univ j), Nat.add_comm]

/-- If every thread has an entry, there are at least as many entries as threads. -/
theorem card_le_length {β : Type} [Fintype ι] {schedule : List (ι × β)}
    (h : ∀ i, project i schedule ≠ []) : Fintype.card ι ≤ schedule.length := by
  calc Fintype.card ι = ∑ _i : ι, 1 := by simp
    _ ≤ ∑ i, (project i schedule).length :=
        Finset.sum_le_sum fun i _ => List.length_pos_iff.mpr (h i)
    _ = schedule.length := (length_eq_sum_project schedule).symm

end QubesAdminLinux
